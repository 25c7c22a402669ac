import Throws.Proofs.GrammarBound
import Throws.Proofs.Relocation

/-!
# Layout does not matter

Blanks and comments may be put between the tokens of a text, or taken away as long as a blank is
left in their place: a text that is read is read to the same tree, locations aside
(`layout_does_not_matter`).

What a token is depends on the place at which it is looked for, so a text cannot be cut into tokens
once and for all. But the places are told by the tokens that were found before. The two texts are
gone through token by token; at each of them the same terminals are sought, and what follows the
token in the new text is a blank or what followed it before. Only one character is looked at behind
a token, so the same token is found.

There is one danger: a slash in front of a star would begin a comment, as soon as one is closed
further on. No star is sought behind a slash, so this does not come up.
-/

namespace Throws.Surface

/-! ## Layout -/

/-- Blanks and comments, where each comment is closed. -/
inductive IsLayout : List Char → Prop
  | nil : IsLayout []
  | blank {c : Char} {cs : List Char} : isBlank c = true → IsLayout cs → IsLayout (c :: cs)
  | line {body cs : List Char} : '\n' ∉ body → IsLayout cs →
      IsLayout ('/' :: '/' :: (body ++ '\n' :: cs))
  | block {body cs : List Char} : closes body = false → IsLayout cs →
      IsLayout ('/' :: '*' :: (body ++ '*' :: '/' :: cs))

theorem IsLayout.append {cs cs' : List Char} (h : IsLayout cs) (h' : IsLayout cs') :
    IsLayout (cs ++ cs') := by
  induction h with
  | nil => exact h'
  | blank hblank _ ih => exact .blank hblank ih
  | line hbody _ ih =>
    rw [List.cons_append, List.cons_append, List.append_assoc]
    exact .line hbody ih
  | block hbody _ ih =>
    rw [List.cons_append, List.cons_append, List.append_assoc]
    exact .block hbody ih

/-- Layout that begins with a blank. -/
structure IsSpacing (cs : List Char) : Prop where
  /-- It is made of blanks and comments. -/
  layout : IsLayout cs
  /-- It begins with a blank. -/
  begins : ∃ c rest, cs = c :: rest ∧ isBlank c = true

/-- What may become of a gap between two tokens: it is kept, replaced, or more is put in front of it
or behind it. A gap at the end of a text may end in the middle of a comment; nothing can be put
behind such a gap. -/
inductive Respaced (gap : List Char) : List Char → Prop
  | kept : Respaced gap gap
  | replaced {spacing : List Char} : IsSpacing spacing → Respaced gap spacing
  | before {spacing : List Char} : IsSpacing spacing → Respaced gap (spacing ++ gap)
  | behind {spacing : List Char} : IsLayout gap → IsSpacing spacing →
      Respaced gap (gap ++ spacing)

/-- Two texts with the given words. In front of a word the first one has a gap, which is what is
skipped there, and the second one has what may become of it. -/
inductive Relaid : List (List Char) → List Char → List Char → Prop
  | word {word gap gap' rest rest' : List Char} {words : List (List Char)} :
      skipped (gap ++ (word ++ rest)) = word ++ rest → Respaced gap gap' →
      Relaid words rest rest' →
      Relaid (word :: words) (gap ++ (word ++ rest)) (gap' ++ (word ++ rest'))
  | ending {gap gap' : List Char} : skipped gap = [] → Respaced gap gap' → Relaid [] gap gap'

/-! ## What is skipped -/

/-- A comment up to the end of a line is skipped with the line. -/
theorem snd_skip_line {body : List Char} (h : '\n' ∉ body) (pos : Pos) (cs : List Char) :
    (skip .line pos (body ++ '\n' :: cs)).2 = skipped cs := by
  induction body generalizing pos with
  | nil =>
    rw [List.nil_append, skip, if_pos rfl]
    exact snd_skip _ cs
  | cons c rest ih =>
    rw [List.mem_cons, not_or] at h
    rw [List.cons_append, skip, if_neg (Ne.symm h.1)]
    exact ih h.2 _

theorem closes_append_close (body cs : List Char) : closes (body ++ '*' :: '/' :: cs) = true := by
  fun_induction closes body with
  | case1 => rfl
  | case2 c rest hclose ih =>
    rw [List.cons_append]
    cases hrest : rest ++ '*' :: '/' :: cs with
    | nil => simp at hrest
    | cons d ds =>
      rw [hrest] at ih
      by_cases hc : c = '*' ∧ d = '/'
      · obtain ⟨rfl, rfl⟩ := hc
        rfl
      · rw [closes]
        · exact ih
        · rintro _ rfl heq
          exact hc ⟨rfl, (List.cons.inj heq).1⟩
  | case3 => rfl

/-- A sign that is closed nowhere has nothing in front that closes it. -/
theorem closes_cons_eq_false_iff {c : Char} {cs : List Char} :
    closes (c :: cs) = false ↔ ¬ (c = '*' ∧ cs.head? = some '/') ∧ closes cs = false := by
  constructor
  · intro h
    have hnot : ¬ (c = '*' ∧ cs.head? = some '/') := by
      rintro ⟨rfl, hhead⟩
      obtain ⟨rest, rfl⟩ := List.head?_eq_some_iff.mp hhead
      cases h
    refine ⟨hnot, ?_⟩
    rw [closes] at h
    · exact h
    · rintro rest rfl rfl
      exact hnot ⟨rfl, rfl⟩
  · rintro ⟨hnot, h⟩
    rw [closes]
    · exact h
    · rintro rest rfl rfl
      exact hnot ⟨rfl, rfl⟩

/-- A comment up to its closing sign is skipped. -/
theorem snd_skip_block {body : List Char} (h : closes body = false) (pos : Pos) (cs : List Char) :
    (skip .block pos (body ++ '*' :: '/' :: cs)).2 = skipped cs := by
  induction body generalizing pos with
  | nil =>
    rw [List.nil_append, skip]
    exact snd_skip _ cs
  | cons c rest ih =>
    obtain ⟨hnot, hrest⟩ := closes_cons_eq_false_iff.mp h
    rw [List.cons_append, skip]
    · exact ih hrest _
    · -- The closing sign is not made of `c` and what follows it.
      rintro _ rfl heq
      cases rest with
      | nil => cases heq
      | cons d ds => exact hnot ⟨rfl, congrArg some (List.cons.inj heq).1⟩

/-- Layout is skipped. -/
theorem skipped_append_of_isLayout {gap : List Char} (h : IsLayout gap) (cs : List Char) :
    skipped (gap ++ cs) = skipped cs := by
  induction h with
  | nil => rfl
  | blank hblank _ ih => rw [List.cons_append, skipped_blank hblank, ih]
  | @line body rest hbody _ ih =>
    rw [List.cons_append, List.cons_append, List.append_assoc, List.cons_append, skipped, skip,
      snd_skip_line hbody, ih]
  | @block body rest hbody _ ih =>
    rw [List.cons_append, List.cons_append, List.append_assoc, List.cons_append, List.cons_append,
      skipped, skip, if_pos (closes_append_close body (rest ++ cs)), snd_skip_block hbody, ih]

theorem skipped_of_isLayout {gap : List Char} (h : IsLayout gap) : skipped gap = [] := by
  have hskipped := skipped_append_of_isLayout h []
  rwa [List.append_nil] at hskipped

/-- What is skipped in the middle of a gap, up to a token. -/
def IsLayoutFrom : Gap → List Char → Prop
  | .plain, cs => IsLayout cs
  | .line, cs => ∃ body rest, cs = body ++ '\n' :: rest ∧ '\n' ∉ body ∧ IsLayout rest
  | .block, cs => ∃ body rest, cs = body ++ '*' :: '/' :: rest ∧ closes body = false ∧ IsLayout rest

/-- In front of a token nothing is skipped but layout. -/
theorem exists_layout_of_skip (gap : Gap) (pos : Pos) (cs : List Char)
    (hne : (skip gap pos cs).2 ≠ []) :
    ∃ front, cs = front ++ (skip gap pos cs).2 ∧ IsLayoutFrom gap front := by
  fun_induction skip gap pos cs with
  | case1 pos cs ih =>
    obtain ⟨front, hfront, body, rest, rfl, hbody, hrest⟩ := ih hne
    exact ⟨'/' :: '/' :: (body ++ '\n' :: rest), by simpa using hfront, .line hbody hrest⟩
  | case2 pos cs hcloses ih =>
    obtain ⟨front, hfront, body, rest, rfl, hbody, hrest⟩ := ih hne
    exact ⟨'/' :: '*' :: (body ++ '*' :: '/' :: rest), by simpa using hfront, .block hbody hrest⟩
  | case3 pos cs hcloses => exact ⟨[], rfl, .nil⟩
  | case4 pos c cs hline hblock hblank ih =>
    obtain ⟨front, hfront, hlayout⟩ := ih hne
    exact ⟨c :: front, by simpa using hfront, .blank hblank hlayout⟩
  | case5 pos c cs hline hblock hblank => exact ⟨[], rfl, .nil⟩
  | case6 pos c cs ih =>
    obtain ⟨front, hfront, hlayout⟩ := ih hne
    by_cases hc : c = '\n'
    · subst hc
      refine ⟨'\n' :: front, by simpa using hfront, [], front, rfl, List.not_mem_nil, ?_⟩
      simpa [IsLayoutFrom] using hlayout
    · rw [if_neg hc] at hlayout
      obtain ⟨body, rest, rfl, hbody, hrest⟩ := hlayout
      refine ⟨c :: (body ++ '\n' :: rest), by simpa using hfront, c :: body, rest, rfl, ?_, hrest⟩
      exact fun hmem => (List.mem_cons.mp hmem).elim (fun h => hc h.symm) hbody
  | case7 pos cs ih =>
    obtain ⟨front, hfront, hlayout⟩ := ih hne
    exact ⟨'*' :: '/' :: front, by simpa using hfront, [], front, rfl, rfl, hlayout⟩
  | case8 pos c cs hclose ih =>
    obtain ⟨front, hfront, body, rest, rfl, hbody, hrest⟩ := ih hne
    refine ⟨c :: (body ++ '*' :: '/' :: rest), by simpa using hfront,
      c :: body, rest, rfl, ?_, hrest⟩
    refine closes_cons_eq_false_iff.mpr ⟨?_, hbody⟩
    rintro ⟨rfl, hhead⟩
    obtain ⟨more, rfl⟩ := List.head?_eq_some_iff.mp hhead
    exact hclose _ rfl hfront
  | case9 gap pos => exact absurd rfl hne

theorem isLayout_of_skipped {gap rest : List Char} (h : skipped (gap ++ rest) = rest)
    (hne : rest ≠ []) : IsLayout gap := by
  have hskip : (skip .plain {} (gap ++ rest)).2 = rest := h
  obtain ⟨front, hfront, hlayout⟩ := exists_layout_of_skip .plain {} (gap ++ rest)
    (by rw [hskip]; exact hne)
  rw [hskip] at hfront
  obtain rfl := List.append_cancel_right hfront
  exact hlayout

theorem length_skip_le (gap : Gap) (pos : Pos) (cs : List Char) :
    (skip gap pos cs).2.length ≤ cs.length := by
  fun_induction skip gap pos cs <;> grind

/-- Where nothing is skipped there is no blank, nor two slashes in a row. -/
theorem of_skipped_eq_self {c : Char} {cs : List Char} (h : skipped (c :: cs) = c :: cs) :
    isBlank c = false ∧ (c = '/' → cs.head? ≠ some '/') := by
  constructor
  · by_contra hblank
    rw [Bool.not_eq_false] at hblank
    rw [skipped_blank hblank] at h
    have hlength := length_skip_le .plain {} cs
    rw [show (skip .plain {} cs).2 = c :: cs from h, List.length_cons] at hlength
    omega
  · rintro rfl hhead
    obtain ⟨rest, rfl⟩ := List.head?_eq_some_iff.mp hhead
    have hlength := length_skip_le .line (Pos.after {} ['/', '/']) rest
    rw [skipped, skip] at h
    rw [h, List.length_cons, List.length_cons] at hlength
    omega

/-! ## Tokens in the new text -/

theorem Respaced.isLayout {gap gap' : List Char} (h : Respaced gap gap') (hgap : IsLayout gap) :
    IsLayout gap' := by
  cases h with
  | kept => exact hgap
  | replaced hspacing => exact hspacing.layout
  | before hspacing => exact hspacing.layout.append hgap
  | behind _ hspacing => exact hgap.append hspacing.layout

/-- A text does not begin differently unless it begins with a blank. -/
theorem Respaced.follows {gap gap' rest rest' : List Char} (h : Respaced gap gap')
    (hrest : rest'.head? = rest.head?) : Follows (gap ++ rest) (gap' ++ rest') := by
  have hspaced : ∀ {spacing : List Char} (more : List Char), IsSpacing spacing →
      Follows (gap ++ rest) (spacing ++ more) := by
    rintro spacing more ⟨_, c, cs, rfl, hblank⟩
    refine .inr fun d hd => ?_
    obtain rfl := Option.some.inj hd
    exact hblank
  have hsame : gap ≠ [] → ∀ more, Follows (gap ++ rest) (gap ++ more) := by
    intro hne more
    obtain ⟨c, cs, rfl⟩ := List.exists_cons_of_ne_nil hne
    exact .inl rfl
  by_cases hgap : gap = []
  · subst hgap
    cases h with
    | kept => exact .inl hrest
    | replaced hspacing => exact hspaced _ hspacing
    | before hspacing =>
      rw [List.append_assoc]
      exact hspaced _ hspacing
    | behind _ hspacing => exact hspaced _ hspacing
  · cases h with
    | kept => exact hsame hgap _
    | replaced hspacing => exact hspaced _ hspacing
    | before hspacing =>
      rw [List.append_assoc]
      exact hspaced _ hspacing
    | behind _ _ =>
      rw [List.append_assoc]
      exact hsame hgap _

theorem Relaid.follows {words : List (List Char)} {text text' : List Char}
    (h : Relaid words text text') (hne : ∀ word ∈ words, word ≠ []) : Follows text text' := by
  cases h with
  | @word word gap gap' rest rest' words hskipped hgap hrest =>
    obtain ⟨c, cs, rfl⟩ := List.exists_cons_of_ne_nil (hne word List.mem_cons_self)
    exact hgap.follows rfl
  | ending hskipped hgap =>
    have hfollows : Follows (_ ++ []) (_ ++ []) := hgap.follows rfl
    rwa [List.append_nil, List.append_nil] at hfollows

/-- Tokens that are taken are not empty. -/
theorem Lexes.ne_nil {text : List Char} {founds : List Found} (h : Lexes text founds)
    (hchain : founds.IsChain Found.Precedes) :
    ∀ word ∈ founds.dropLast.map Found.text, word ≠ [] := by
  induction h with
  | nil => exact List.forall_mem_nil _
  | @cons found founds cs rest hnext _ ih =>
    cases founds with
    | nil => exact List.forall_mem_nil _
    | cons following founds =>
      obtain ⟨hprecedes, hchain⟩ := List.isChain_cons_cons.mp hchain
      rw [List.dropLast_cons_cons, List.map_cons, List.forall_mem_cons]
      refine ⟨?_, ih hchain⟩
      cases hnext with
      | endOfText => exact absurd rfl hprecedes.1
      | token _ hscan => exact (exists_prefix_of_scan hscan).1

/-- There is no star right behind a slash. -/
theorem Next.head?_ne_star {found following : Found} {text rest : List Char}
    (h : Next following text rest) (hprecedes : found.Precedes following)
    (hslash : found.terminal = .slash) : text.head? ≠ some '*' := by
  intro hhead
  obtain ⟨cs, rfl⟩ := List.head?_eq_some_iff.mp hhead
  have hself : skipped ('*' :: cs) = '*' :: cs :=
    skipped_eq_self (by decide) (fun h => nomatch h) (fun h => nomatch h)
  cases h with
  | endOfText hskipped =>
    rw [hself] at hskipped
    cases hskipped
  | token hskipped hscan =>
    rw [hself] at hskipped
    rw [← hskipped] at hscan
    exact hprecedes.2 hslash (star_mem_of_scan hscan)

/-- Nothing of a token is skipped, whatever follows it. -/
theorem skipped_word {sought : List Terminal} {terminal : Terminal} {word rest rest' : List Char}
    (hscan : scan sought (word ++ rest) = some (terminal, word))
    (hskipped : skipped (word ++ rest) = word ++ rest) (hfollows : Follows rest rest')
    (hstar : terminal = .slash → rest.head? ≠ some '*') :
    skipped (word ++ rest') = word ++ rest' := by
  obtain ⟨c, cs, rfl⟩ := List.exists_cons_of_ne_nil (exists_prefix_of_scan hscan).1
  obtain ⟨hblank, hline⟩ := of_skipped_eq_self hskipped
  -- A slash is a token of its own, so what follows it is at the beginning of the rest.
  have hnext : ∀ d, isBlank d = false → (c = '/' → (cs ++ rest).head? ≠ some d) →
      c = '/' → (cs ++ rest').head? ≠ some d := by
    rintro d hd hbefore rfl
    obtain ⟨_, heq⟩ := eq_of_scan_slash hscan
    obtain rfl : cs = [] := (List.cons.inj heq).2
    rcases hfollows with hsame | hblanks
    · rw [List.nil_append, hsame]
      exact hbefore rfl
    · intro hhead
      rw [hblanks d hhead] at hd
      cases hd
  refine skipped_eq_self hblank (hnext '/' (by decide) hline) (hnext '*' (by decide) ?_)
  rintro rfl
  obtain ⟨rfl, heq⟩ := eq_of_scan_slash hscan
  obtain rfl : cs = [] := (List.cons.inj heq).2
  exact hstar rfl

/-- The tokens of a text are those of the text with another layout. -/
theorem Lexes.relaid {words : List (List Char)} {text text' : List Char}
    (h : Relaid words text text') {found : Found} {founds : List Found}
    (hlexes : Lexes text (found :: founds))
    (hchain : (found :: founds).IsChain Found.Precedes)
    (hwords : (found :: founds).dropLast.map Found.text = words) :
    Lexes text' (found :: founds) := by
  induction h generalizing found founds with
  | @word word gap gap' rest rest' words hskipped hgap hrest ih =>
    cases founds with
    | nil => cases hwords
    | cons following founds =>
      obtain ⟨rfl, rfl⟩ := List.cons.inj hwords
      obtain ⟨hprecedes, htail⟩ := List.isChain_cons_cons.mp hchain
      cases hlexes with
      | @cons _ _ _ behind hnext hlexes =>
        cases hnext with
        | endOfText => exact absurd rfl hprecedes.1
        | @token sought terminal text _ _ hskipped' hscan =>
          -- The token is the word, so that both leave the same text behind.
          obtain rfl : behind = rest :=
            List.append_cancel_left (hskipped'.symm.trans hskipped)
          have hne := exists_prefix_of_scan hscan
          have hlayout : IsLayout gap := isLayout_of_skipped hskipped (by simp [hne.1])
          have hfollows : Follows behind rest' := hrest.follows (hlexes.ne_nil htail)
          have hself : skipped (text ++ behind) = text ++ behind := by
            rw [← skipped_append_of_isLayout hlayout, hskipped]
          have hstar : terminal = .slash → behind.head? ≠ some '*' := by
            cases hlexes with
            | cons hfollowing _ => exact hfollowing.head?_ne_star hprecedes
          refine .cons (.token ?_ (scan_append_of_follows hfollows hscan)) (ih hlexes htail rfl)
          rw [skipped_append_of_isLayout (hgap.isLayout hlayout)]
          exact skipped_word hscan hself hfollows hstar
  | ending hskipped hgap =>
    cases founds with
    | cons following founds => cases hwords
    | nil =>
      cases hlexes with
      | cons hnext _ =>
        cases hnext with
        | token hskipped' hscan =>
          rw [hskipped] at hskipped'
          exact absurd (List.append_eq_nil_iff.mp hskipped'.symm).1 (exists_prefix_of_scan hscan).1
        | endOfText _ =>
          refine .cons (.endOfText ?_) (.nil [])
          cases hgap with
          | kept => exact hskipped
          | replaced hspacing => exact skipped_of_isLayout hspacing.layout
          | before hspacing => rw [skipped_append_of_isLayout hspacing.layout, hskipped]
          | behind hlayout hspacing =>
            exact skipped_of_isLayout (hlayout.append hspacing.layout)

/-! ## Whole texts -/

theorem Lexes.take {text : List Char} {founds : List Found} (h : Lexes text founds) (count : Nat) :
    Lexes text (founds.take count) := by
  induction h generalizing count with
  | nil =>
    rw [List.take_nil]
    exact .nil _
  | cons hnext _ ih =>
    cases count with
    | zero => exact .nil _
    | succ count => exact .cons hnext (ih count)

/-- Tokens that can be taken are no more than characters. -/
theorem Lexes.length_le {text : List Char} {founds : List Found} (h : Lexes text founds)
    (hchain : founds.IsChain Found.Precedes) : founds.length ≤ text.length + 1 := by
  induction h with
  | nil => exact Nat.zero_le _
  | @cons found founds cs rest hnext _ ih =>
    cases founds with
    | nil => exact Nat.le_add_left _ _
    | cons following founds =>
      obtain ⟨hprecedes, htail⟩ := List.isChain_cons_cons.mp hchain
      have hrest := ih htail
      rw [List.length_cons]
      cases hnext with
      | endOfText => exact absurd rfl hprecedes.1
      | token hskipped hscan =>
        have hne := List.length_pos_iff.mpr (exists_prefix_of_scan hscan).1
        have hlength := length_skip_le .plain {} cs
        rw [show (skip .plain {} cs).2 = _ from hskipped, List.length_append] at hlength
        omega

/-- The bound for a text is large enough for its tokens, and all but the last one can be taken. -/
theorem length_le_and_isChain_of_path {text : List Char} {items : List (Item Nat)} {found : Found}
    {founds : List Found}
    (hpath : (Grammar.program (bound text.length)).Path 0 (found :: founds) items)
    (hlexes : Lexes text (found :: founds)) :
    founds.length ≤ text.length ∧ (found :: founds).IsChain Found.Precedes := by
  have hbound : 4 * (text.length + 1) + 3 ≤ bound text.length := by
    unfold bound
    omega
  have hagree := Grammar.agree_program hbound hbound found.terminal
  have hchain := hagree.isChain_take hpath
  -- If there were more tokens, too many of them could be taken already.
  have hlength := (hlexes.take _).length_le hchain
  rw [List.length_take, List.length_cons] at hlength
  have hle : founds.length ≤ text.length := by omega
  refine ⟨hle, ?_⟩
  rwa [List.take_of_length_le (by rw [List.length_cons]; omega)] at hchain

/-- What is wrong with a literal does not depend on where it stands. -/
theorem faultAt_congr {tokens tokens' : Array Token}
    (h : tokens.toList.map Token.shape = tokens'.toList.map Token.shape) :
    faultAt tokens = faultAt tokens' := by
  have hshape : ∀ (tokens : Array Token) (index : Nat), faultAt tokens index =
      (tokens.toList.map Token.shape)[index]?.bind fun shape =>
        Token.fault? { terminal := shape.1, text := shape.2 } := by
    intro tokens index
    rw [faultAt, List.getElem?_map, Array.getElem?_toList]
    cases tokens[index]? <;> rfl
  funext index
  rw [hshape, hshape, h]

/-- The texts of the tokens of a text that is in the language. -/
def words (text : List Char) : List (List Char) :=
  (parse text).toOption.elim [] fun outcome => outcome.2.toList.map (·.text)

/-- A text with another layout is parsed to the same declarations. -/
theorem exists_parse_of_relaid {text text' : List Char} {items : List (Item Nat)}
    {tokens : Array Token} (hparse : parse text = .ok (items, tokens))
    (h : Relaid (words text) text text') :
    ∃ tokens', parse text' = .ok (items, tokens') ∧
      tokens'.toList.map Token.shape = tokens.toList.map Token.shape := by
  obtain ⟨found, founds, hsought, hpath, hlexes, hshapes⟩ := exists_path_of_parse hparse
  obtain ⟨hlength, hchain⟩ := length_le_and_isChain_of_path hpath hlexes
  have hwords : (found :: founds).dropLast.map Found.text = words text := by
    have htexts := congrArg (List.map Prod.snd) hshapes
    rw [List.map_map, List.map_map] at htexts
    rw [words, hparse]
    exact htexts.symm
  have hlexes' : Lexes text' (found :: founds) := hlexes.relaid h hchain hwords
  -- The two texts have bounds of their own, and both of them are large enough.
  have hlength' := hlexes'.length_le hchain
  rw [List.length_cons] at hlength'
  have hagree : (Grammar.program (bound text.length)).Agree founds.length found.terminal
      (Grammar.program (bound text'.length)) :=
    Grammar.agree_program (by unfold bound; omega) (by unfold bound; omega) found.terminal
  obtain ⟨tokens', hparse', hshapes'⟩ :=
    exists_parse_of_path hsought (hagree.path hpath (Nat.le_refl _)) hlexes'
  exact ⟨tokens', hparse', hshapes'.trans hshapes.symm⟩

/-- A text that is read is read to the same tree, locations aside, if blanks and comments are put
between its tokens or in place of what stands there. -/
theorem layout_does_not_matter {depth : Option Nat} {text text' : String} {program : Program Pos}
    (hread : read depth text = .ok program)
    (h : Relaid (words text.toList) text.toList text'.toList) :
    ∃ program', read depth text' = .ok program' ∧ program'.unlocated = program.unlocated := by
  unfold read at hread ⊢
  cases hparse : parse text.toList with
  | error error =>
    rw [hparse] at hread
    cases hread
  | ok outcome =>
    obtain ⟨items, tokens⟩ := outcome
    obtain ⟨tokens', hparse', hshapes⟩ := exists_parse_of_relaid hparse h
    rw [hparse] at hread
    rw [hparse']
    simp only [faultAt_congr hshapes] at hread ⊢
    split at hread
    case h_1 => cases hread
    case h_2 hevents =>
      split at hread
      case isFalse => cases hread
      case isTrue hcomplete =>
        obtain rfl := Except.ok.inj hread
        refine ⟨(Program.ofItems items).mapLoc (positionAt tokens'), ?_, by simp⟩
        exact if_pos hcomplete

/-- A division with no more blanks than it needs. -/
def tightDivision : String := "int f()\x7breturn 8/4;\x7d"

/-- The same division with comments in front of the body and of the sign. -/
def commentedDivision : String := "int f() /* ratio */ \x7breturn 8 // over\n / 4;\x7d\n"

theorem relaid_division :
    Relaid (words tightDivision.toList) tightDivision.toList commentedDivision.toList := by
  have hwords : words tightDivision.toList =
      ["int".toList, "f".toList, ['('], [')'], ['\x7b'], "return".toList, ['8'], ['/'], ['4'],
        [';'], ['\x7d']] := by
    decide +kernel
  have htight : tightDivision.toList =
      [] ++ ("int".toList ++ ([' '] ++ ("f".toList ++ ([] ++ (['('] ++ ([] ++ ([')'] ++ ([] ++
        (['\x7b'] ++ ([] ++ ("return".toList ++ ([' '] ++ (['8'] ++ ([] ++ (['/'] ++ ([] ++
        (['4'] ++ ([] ++ ([';'] ++ ([] ++ (['\x7d'] ++ []))))))))))))))))))))) := by
    decide +kernel
  have hcommented : commentedDivision.toList =
      [] ++ ("int".toList ++ ([' '] ++ ("f".toList ++ ([] ++ (['('] ++ ([] ++ ([')'] ++
        ((' ' :: '/' :: '*' :: (" ratio ".toList ++ '*' :: '/' :: [' '])) ++
        (['\x7b'] ++ ([] ++ ("return".toList ++ ([' '] ++ (['8'] ++
        ((' ' :: '/' :: '/' :: (" over".toList ++ '\n' :: [' '])) ++ (['/'] ++ ([' '] ++
        (['4'] ++ ([] ++ ([';'] ++ ([] ++ (['\x7d'] ++ ['\n']))))))))))))))))))))) := by
    decide +kernel
  have hblank : IsLayout [' '] := .blank rfl .nil
  rw [hwords, htight, hcommented]
  refine .word (by decide +kernel) .kept ?_
  refine .word (by decide +kernel) .kept ?_
  refine .word (by decide +kernel) .kept ?_
  refine .word (by decide +kernel) .kept ?_
  refine .word (by decide +kernel)
    (.replaced ⟨.blank rfl (.block (by decide) hblank), _, _, rfl, rfl⟩) ?_
  refine .word (by decide +kernel) .kept ?_
  refine .word (by decide +kernel) .kept ?_
  refine .word (by decide +kernel)
    (.replaced ⟨.blank rfl (.line (by decide) hblank), _, _, rfl, rfl⟩) ?_
  refine .word (by decide +kernel) (.replaced ⟨hblank, _, _, rfl, rfl⟩) ?_
  refine .word (by decide +kernel) .kept ?_
  refine .word (by decide +kernel) .kept ?_
  exact .ending rfl (.replaced ⟨.blank rfl .nil, _, _, rfl, rfl⟩)

theorem layout_of_division : ∃ program program',
    read none tightDivision = .ok program ∧
      Relaid (words tightDivision.toList) tightDivision.toList commentedDivision.toList ∧
      read none commentedDivision = .ok program' ∧ program'.unlocated = program.unlocated := by
  have hread : (read none tightDivision).toOption.isSome = true := by decide +kernel
  cases hprogram : read none tightDivision with
  | error error =>
    rw [hprogram] at hread
    cases hread
  | ok program =>
    obtain ⟨program', hread', hsame⟩ := layout_does_not_matter hprogram relaid_division
    exact ⟨program, program', rfl, relaid_division, hread', hsame⟩

end Throws.Surface
