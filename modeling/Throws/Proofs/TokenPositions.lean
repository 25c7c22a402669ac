import Mathlib.Data.Prod.Lex
import Throws.Proofs.ParserLogic

/-!
# Where tokens stand

The reader counts lines and columns while it goes through a text, over blanks, comments and tokens.
Here a position is looked up in the text again, without any counting on the way: `wordAt` cuts the
text into lines and reads the word at a column of one of them.

* `wordAt_of_stands`: where the reader has come to by counting, `wordAt` finds the word that follows
  there.
* `laid_of_parse`: each name among the tokens of a text is the word at its position, and no two of
  them have the same position, because positions grow in the order of reading.
-/

namespace Throws.Surface

/-- The word that begins at a position of a text, as long as letters, digits and underscores go on.
Lines end with line feeds, and lines and columns are counted from one. -/
def wordAt (text : String) : Pos → Option String
  | ⟨line + 1, column + 1⟩ => (text.toList.splitOn '\n')[line]?.map fun chars =>
      String.ofList ((chars.drop column).takeWhile isWordPart)
  | _ => none

/-- At the position stands the identifier, and nothing that would make it longer follows. -/
def Spells (text : String) (pos : Pos) (ident : String) : Prop :=
  IsIdentifier ident ∧ wordAt text pos = some ident

/-! ## Counting -/

namespace Pos

/-- The place of a position in the order of reading. -/
def rank (pos : Pos) : ℕ ×ₗ ℕ := toLex (pos.line, pos.column)

theorem rank_lt_next (pos : Pos) (c : Char) : pos.rank < (pos.next c).rank := by
  unfold next rank
  split <;> simp [Prod.Lex.toLex_lt_toLex]

theorem rank_le_after (pos : Pos) (cs : List Char) : pos.rank ≤ (pos.after cs).rank := by
  induction cs generalizing pos with
  | nil => exact le_rfl
  | cons c cs ih => exact (rank_lt_next pos c).le.trans (ih (pos.next c))

theorem rank_lt_after (pos : Pos) {cs : List Char} (h : cs ≠ []) :
    pos.rank < (pos.after cs).rank := by
  obtain ⟨c, cs, rfl⟩ := List.exists_cons_of_ne_nil h
  exact (rank_lt_next pos c).trans_le (rank_le_after (pos.next c) cs)

theorem after_append (pos : Pos) (cs cs' : List Char) :
    pos.after (cs ++ cs') = (pos.after cs).after cs' :=
  List.foldl_append

end Pos

/-- Whatever is skipped is counted. -/
theorem exists_front_of_skip (gap : Gap) (pos : Pos) (cs : List Char) :
    ∃ front, cs = front ++ (skip gap pos cs).2 ∧ (skip gap pos cs).1 = pos.after front := by
  fun_induction skip gap pos cs with
  | case1 pos cs ih | case2 pos cs _ ih | case7 pos cs ih =>
    obtain ⟨front, hfront, hpos⟩ := ih
    exact ⟨_ ++ front, by rw [List.append_assoc, ← hfront]; rfl,
      hpos.trans (Pos.after_append ..).symm⟩
  | case4 pos c cs _ _ _ ih | case6 pos c cs ih | case8 pos c cs _ ih =>
    obtain ⟨front, hfront, hpos⟩ := ih
    exact ⟨c :: front, by rw [List.cons_append, ← hfront], hpos⟩
  | case3 | case5 | case9 => exact ⟨[], rfl, rfl⟩

/-- The position is where `tail` begins in the text, by counting what is in front of it. -/
def Stands (text : List Char) (pos : Pos) (tail : List Char) : Prop :=
  ∃ front, text = front ++ tail ∧ pos = Pos.after {} front

namespace Stands

variable {text : List Char} {pos : Pos}

theorem start (text : List Char) : Stands text {} text := ⟨[], rfl, rfl⟩

theorem after {cs tail : List Char} (h : Stands text pos (cs ++ tail)) :
    Stands text (pos.after cs) tail := by
  obtain ⟨front, rfl, rfl⟩ := h
  exact ⟨front ++ cs, (List.append_assoc ..).symm, (Pos.after_append ..).symm⟩

end Stands

/-! ## Looking up -/

/-- Where counting leads to, there is a line of the text with as many characters as were counted
since it began, and the rest of the text follows. -/
theorem exists_line_of_after (front tail : List Char) :
    ∃ line counted, Pos.after {} front = ⟨line + 1, counted.length + 1⟩ ∧
      ((front ++ tail).splitOn '\n').drop line =
        (tail.splitOn '\n').modifyHead (counted ++ ·) := by
  induction front using List.reverseRecOn generalizing tail with
  | nil => exact ⟨0, [], rfl, (congrFun List.modifyHead_id _).symm⟩
  | append_singleton front c ih =>
    obtain ⟨line, counted, hpos, hdrop⟩ := ih (c :: tail)
    have hnext : Pos.after {} (front ++ [c]) = (Pos.mk (line + 1) (counted.length + 1)).next c := by
      rw [Pos.after_append, hpos]
      rfl
    rw [List.splitOn_cons_eq_if_modifyHead] at hdrop
    rw [hnext, List.append_assoc, List.singleton_append]
    by_cases hc : c = '\n'
    · -- The next line begins, and nothing of it has been counted.
      rw [if_pos (beq_iff_eq.mpr hc)] at hdrop
      refine ⟨line + 1, [], if_pos hc, ?_⟩
      rw [← List.tail_drop, hdrop]
      exact (congrFun List.modifyHead_id _).symm
    · rw [if_neg (by simpa using hc), List.modifyHead_modifyHead] at hdrop
      refine ⟨line, counted ++ [c], ?_, ?_⟩
      · rw [Pos.next, if_neg hc, List.length_append]
        rfl
      · rw [hdrop]
        congr 1
        funext chars
        exact (List.append_assoc counted [c] chars).symm

/-- A word ends with its line at the latest. -/
theorem takeWhile_head_splitOn (tail : List Char) :
    (tail.splitOn '\n').head?.map (List.takeWhile isWordPart) =
      some (tail.takeWhile isWordPart) := by
  induction tail with
  | nil => rfl
  | cons c tail ih =>
    rw [List.splitOn_cons_eq_if_modifyHead]
    split
    case isTrue hc =>
      obtain rfl := beq_iff_eq.mp hc
      rfl
    case isFalse hc =>
      obtain ⟨chars, hchars, hword⟩ := Option.map_eq_some_iff.mp ih
      rw [List.head?_modifyHead, hchars]
      simp [List.takeWhile_cons, hword]

/-- At a position that was found by counting stands the word that the rest of the text begins
with. -/
theorem wordAt_of_stands {text : String} {pos : Pos} {tail : List Char}
    (h : Stands text.toList pos tail) :
    wordAt text pos = some (String.ofList (tail.takeWhile isWordPart)) := by
  obtain ⟨front, hfront, rfl⟩ := h
  obtain ⟨line, counted, hpos, hdrop⟩ := exists_line_of_after front tail
  obtain ⟨chars, hchars, hword⟩ := Option.map_eq_some_iff.mp (takeWhile_head_splitOn tail)
  rw [hpos, wordAt, hfront, ← List.head?_drop, hdrop, List.head?_modifyHead, hchars]
  simp [hword]

/-! ## Tokens -/

/-- The names among tokens that have been taken, the last one first. Each of them is the word at its
position, and they stand one behind the other, all of them before the given position. -/
structure Laid (text : String) (limit : Pos) (taken : List Token) : Prop where
  /-- A name is the word at its position. -/
  word : ∀ token ∈ taken, token.terminal = .name →
    Spells text token.pos (String.ofList token.text)
  /-- A name stands before the limit. -/
  before : ∀ token ∈ taken, token.terminal = .name → token.pos.rank < limit.rank
  /-- Of two names the one that was taken later stands behind the other one. -/
  ordered : taken.Pairwise fun later earlier =>
    later.terminal = .name → earlier.terminal = .name → earlier.pos.rank < later.pos.rank

namespace Laid

variable {text : String} {limit limit' : Pos} {taken : List Token} {token : Token}

theorem nil (text : String) (limit : Pos) : Laid text limit [] :=
  ⟨List.forall_mem_nil _, List.forall_mem_nil _, .nil⟩

theorem tail (h : Laid text limit (token :: taken)) : Laid text limit taken :=
  ⟨fun token hmem => h.word token (List.mem_cons_of_mem _ hmem),
    fun token hmem => h.before token (List.mem_cons_of_mem _ hmem), h.ordered.of_cons⟩

/-- One more token, which lies between the old limit and the new one. -/
theorem cons (h : Laid text limit taken) (hlimit : limit.rank ≤ limit'.rank)
    (htoken : token.terminal = .name → Spells text token.pos (String.ofList token.text) ∧
      limit.rank ≤ token.pos.rank ∧ token.pos.rank < limit'.rank) :
    Laid text limit' (token :: taken) where
  word := List.forall_mem_cons.mpr ⟨fun hname => (htoken hname).1, h.word⟩
  before := List.forall_mem_cons.mpr ⟨fun hname => (htoken hname).2.2,
    fun earlier hmem hname => (h.before earlier hmem hname).trans_le hlimit⟩
  ordered := List.pairwise_cons.mpr ⟨fun earlier hmem hname hname' =>
    (h.before earlier hmem hname').trans_le (htoken hname).2.1, h.ordered⟩

end Laid

/-- What has been read of a text: the tokens stand where they say, and so does the rest. -/
structure Cursor.Laid (text : String) (cursor : Cursor) : Prop where
  /-- The rest of the text. -/
  rest : Stands text.toList cursor.pos cursor.rest
  /-- The tokens, with the next one. -/
  tokens : Surface.Laid text cursor.pos (cursor.ahead :: cursor.taken)

theorem takeWhile_of_scan {sought : List Terminal} {cs text : List Char}
    (h : scan sought cs = some (.name, text)) : cs.takeWhile isWordPart = text := by
  have hword := scanWord_of_scan h
  cases cs with
  | nil => cases hword
  | cons c cs =>
    rw [scanWord_cons] at hword
    split at hword
    · exact (Prod.mk.inj (Option.some.inj hword)).2
    · cases hword

/-- The next token is found behind all tokens before it. -/
theorem Cursor.laid_of_seek {text : String} {sought : List Terminal} {taken : List Token}
    {pos : Pos} {cs : List Char} {cursor : Cursor} (hrest : Stands text.toList pos cs)
    (htaken : Surface.Laid text pos taken) (h : seek sought taken pos cs = .ok cursor) :
    cursor.Laid text := by
  -- Only layout is skipped, so that the cursor stands where the skipped part ends.
  obtain ⟨gap, hgap, hpos⟩ := exists_front_of_skip .plain pos cs
  rw [hgap] at hrest
  have hskipped := hrest.after
  have hle := pos.rank_le_after gap
  rw [← hpos] at hskipped hle
  unfold seek at h
  split at h
  case h_1 pos' hskip =>
    rw [hskip] at hskipped hle
    obtain rfl := Except.ok.inj h
    exact ⟨hskipped, htaken.cons hle fun hname =>
      absurd (show Terminal.endOfText = .name from hname) (by decide)⟩
  case h_2 pos' c rest hskip =>
    rw [hskip] at hskipped hle
    split at h
    case h_1 terminal word hscan =>
      obtain rfl := Except.ok.inj h
      obtain ⟨hne, behind, hbehind⟩ := exists_prefix_of_scan hscan
      have hlt := pos'.rank_lt_after hne
      refine ⟨?_, htaken.cons (hle.trans hlt.le) ?_⟩
      · rw [← hbehind] at hskipped ⊢
        rw [List.drop_left]
        exact hskipped.after
      · rintro rfl
        have hword := wordAt_of_stands hskipped
        rw [takeWhile_of_scan hscan] at hword
        exact ⟨⟨isIdentifier_of_scan hscan, hword⟩, hle, hlt⟩
    case h_2 => split at h <;> cases h

/-- Carrying out a plan keeps the tokens in their places. -/
theorem Plan.laid_of_run {ρ : Type} {text : String} {plan : Plan ρ} {index : Nat} {cursor : Cursor}
    {result : ρ} {taken : List Token} (hcursor : cursor.Laid text)
    (h : plan.run index cursor = .ok (result, taken)) : ∃ limit, Surface.Laid text limit taken := by
  induction plan generalizing index cursor with
  | done result' =>
    obtain ⟨_, rfl⟩ := Prod.mk.inj (Except.ok.inj h)
    exact ⟨cursor.pos, hcursor.tokens.tail⟩
  | reject => cases h
  | look next ih => exact ih _ hcursor h
  | take sought next ih =>
    rw [run] at h
    split at h
    case h_1 after hadvance =>
      exact ih _ (Cursor.laid_of_seek hcursor.rest hcursor.tokens hadvance) h
    case h_2 => cases h

theorem laid_of_parse {text : String} {items : List (Item Nat)} {tokens : Array Token}
    (h : parse text.toList = .ok (items, tokens)) :
    ∃ limit, Laid text limit tokens.toList.reverse := by
  cases hstart : Cursor.start Follow.item text.toList with
  | error error => simp [parse, hstart, bind, Except.bind] at h
  | ok cursor =>
    cases hrun : (Grammar.program (bound text.toList.length)).run 0 cursor with
    | error error => simp [parse, hstart, hrun, bind, Except.bind] at h
    | ok outcome =>
      simp only [parse, hstart, hrun, bind, Except.bind] at h
      obtain ⟨_, rfl⟩ := Prod.mk.inj (Except.ok.inj h)
      obtain ⟨limit, hlaid⟩ := Plan.laid_of_run
        (Cursor.laid_of_seek (.start text.toList) (.nil text {}) hstart) hrun
      exact ⟨limit, by simpa using hlaid⟩

end Throws.Surface
