import Throws.Proofs.Scanning
import Throws.Surface.Read

/-!
# Runs of a plan, apart from the text

Carrying out a plan goes back and forth between the plan and the text: the plan says which terminals
it seeks, and the text has one of them. A run is taken apart here into the tokens that are found on
the way, each with the terminals that were sought for it:

* `Plan.Path plan index founds result` says what the plan makes of such tokens. There is no text in
  it, and the last one of the tokens has only been looked at.
* `Lexes text founds` says that the tokens are those of the text. There is no plan in it.

A text is read to a result if there are tokens for which both of it hold (`exists_path_of_parse`,
`exists_parse_of_path`). Positions play no part in either.
-/

namespace Throws.Surface

/-! ## Tokens of a text -/

/-- A token as it is found in a text: the terminals that were sought, and what was found. -/
structure Found where
  /-- The terminals that were sought. -/
  sought : List Terminal
  /-- The kind of token that was found. -/
  terminal : Terminal
  /-- The characters it is made of. -/
  text : List Char

/-- What can be told of a token without its position. -/
def Found.shape (found : Found) : Terminal × List Char := (found.terminal, found.text)

/-- What can be told of a token without its position. -/
def Token.shape (token : Token) : Terminal × List Char := (token.terminal, token.text)

/-- The next token of a text, and the text behind it. -/
inductive Next : Found → List Char → List Char → Prop
  | endOfText {sought : List Terminal} {cs : List Char} : skipped cs = [] →
      Next ⟨sought, .endOfText, []⟩ cs []
  | token {sought : List Terminal} {terminal : Terminal} {text cs rest : List Char} :
      skipped cs = text ++ rest → scan sought (text ++ rest) = some (terminal, text) →
      Next ⟨sought, terminal, text⟩ cs rest

/-- The first tokens of a text. -/
inductive Lexes : List Char → List Found → Prop
  | nil (cs : List Char) : Lexes cs []
  | cons {found : Found} {founds : List Found} {cs rest : List Char} : Next found cs rest →
      Lexes rest founds → Lexes cs (found :: founds)

theorem Cursor.next_of_seek {sought : List Terminal} {taken : List Token} {pos : Pos}
    {cs : List Char} {cursor : Cursor} (h : seek sought taken pos cs = .ok cursor) :
    Next ⟨sought, cursor.ahead.terminal, cursor.ahead.text⟩ cs cursor.rest ∧
      cursor.taken = taken := by
  unfold seek at h
  split at h
  case h_1 pos' hskip =>
    obtain rfl := Except.ok.inj h
    exact ⟨.endOfText (by rw [← snd_skip pos, hskip]), rfl⟩
  case h_2 pos' c rest hskip =>
    split at h
    case h_1 terminal text hscan =>
      obtain rfl := Except.ok.inj h
      obtain ⟨_, behind, hbehind⟩ := exists_prefix_of_scan hscan
      refine ⟨.token ?_ ?_, rfl⟩
      · rw [← snd_skip pos, hskip, ← hbehind, List.drop_left]
      · rw [← hbehind, List.drop_left, hbehind]
        exact hscan
    case h_2 => split at h <;> cases h

theorem Cursor.exists_seek_of_next {found : Found} {cs rest : List Char}
    (h : Next found cs rest) (taken : List Token) (pos : Pos) :
    ∃ cursor, seek found.sought taken pos cs = .ok cursor ∧
      cursor.ahead.shape = found.shape ∧ cursor.rest = rest ∧ cursor.taken = taken := by
  unfold seek
  cases h with
  | endOfText hskipped =>
    rw [← snd_skip pos] at hskipped
    split
    case h_1 => exact ⟨_, rfl, rfl, rfl, rfl⟩
    case h_2 hskip =>
      rw [hskip] at hskipped
      cases hskipped
  | @token sought terminal text _ _ hskipped hscan =>
    rw [← snd_skip pos] at hskipped
    split
    case h_1 hskip =>
      rw [hskip] at hskipped
      obtain ⟨hne, _⟩ := exists_prefix_of_scan hscan
      exact absurd (List.append_eq_nil_iff.mp hskipped.symm).1 hne
    case h_2 c behind hskip =>
      rw [hskip] at hskipped
      have hcs : c :: behind = text ++ rest := hskipped
      have hscan' : scan sought (c :: behind) = some (terminal, text) := hcs ▸ hscan
      simp only [hscan']
      exact ⟨_, rfl, rfl, by rw [hcs, List.drop_left], rfl⟩

/-! ## Ways through a plan -/

/-- What a plan makes of tokens, of which `index` have been taken before. The last one has only been
looked at. -/
inductive Plan.Path {ρ : Type} : Plan ρ → Nat → List Found → ρ → Prop
  | done {result : ρ} {index : Nat} {found : Found} : Path (.done result) index [found] result
  | look {next : Terminal → Plan ρ} {index : Nat} {found : Found} {founds : List Found}
      {result : ρ} : Path (next found.terminal) index (found :: founds) result →
      Path (.look next) index (found :: founds) result
  | take {next : Lexeme → Plan ρ} {index : Nat} {found following : Found} {founds : List Found}
      {result : ρ} :
      Path (next ⟨index, found.text⟩) (index + 1) (following :: founds) result →
      Path (.take following.sought next) index (found :: following :: founds) result

/-- A run goes through its plan along the tokens of the text. -/
theorem Plan.exists_path_of_run {ρ : Type} {plan : Plan ρ} {index : Nat} {cursor : Cursor}
    {result : ρ} {taken : List Token} (h : plan.run index cursor = .ok (result, taken))
    (found : Found) (hfound : cursor.ahead.shape = found.shape) :
    ∃ founds, plan.Path index (found :: founds) result ∧ Lexes cursor.rest founds ∧
      taken.reverse.map Token.shape =
        cursor.taken.reverse.map Token.shape ++ (found :: founds).dropLast.map Found.shape := by
  obtain ⟨hterminal, htext⟩ := Prod.mk.inj hfound
  induction plan generalizing index cursor found with
  | done result' =>
    obtain ⟨rfl, rfl⟩ := Prod.mk.inj (Except.ok.inj h)
    exact ⟨[], .done, .nil _, by simp⟩
  | reject => cases h
  | look next ih =>
    rw [run, hterminal] at h
    obtain ⟨founds, hpath, hlexes, htaken⟩ := ih _ h found hfound hterminal htext
    exact ⟨founds, .look hpath, hlexes, htaken⟩
  | take sought next ih =>
    rw [run, htext] at h
    split at h
    case h_1 after hadvance =>
      obtain ⟨hnext, htaken'⟩ := Cursor.next_of_seek hadvance
      obtain ⟨founds, hpath, hlexes, htaken⟩ := ih _ h
        ⟨sought, after.ahead.terminal, after.ahead.text⟩ rfl rfl rfl
      refine ⟨_ :: founds, .take hpath, .cons hnext hlexes, ?_⟩
      rw [htaken, htaken']
      simp [hfound]
    case h_2 => cases h

/-- A way through a plan along the tokens of a text is a run. -/
theorem Plan.Path.run {ρ : Type} {plan : Plan ρ} {index : Nat} {found : Found}
    {founds : List Found} {result : ρ} (h : plan.Path index (found :: founds) result)
    {cursor : Cursor} (hfound : cursor.ahead.shape = found.shape)
    (hlexes : Lexes cursor.rest founds) :
    ∃ taken, plan.run index cursor = .ok (result, taken) ∧ taken.reverse.map Token.shape =
      cursor.taken.reverse.map Token.shape ++ (found :: founds).dropLast.map Found.shape := by
  generalize hall : found :: founds = all at h
  induction h generalizing cursor found founds with
  | done =>
    obtain ⟨rfl, rfl⟩ := List.cons.inj hall
    exact ⟨cursor.taken, rfl, by simp⟩
  | look _ ih =>
    obtain ⟨rfl, rfl⟩ := List.cons.inj hall
    obtain ⟨hterminal, _⟩ := Prod.mk.inj hfound
    rw [Plan.run, hterminal]
    exact ih hfound hlexes rfl
  | @take next index _ following founds' _ _ ih =>
    obtain ⟨rfl, rfl⟩ := List.cons.inj hall
    obtain ⟨_, htext⟩ := Prod.mk.inj hfound
    cases hlexes with
    | cons hnext hlexes =>
      obtain ⟨after, hadvance, hshape, rfl, htaken'⟩ :=
        Cursor.exists_seek_of_next hnext (cursor.ahead :: cursor.taken) cursor.pos
      obtain ⟨taken, hrun, htaken⟩ := ih hshape hlexes rfl
      have hadvance' : cursor.advance following.sought = .ok after := hadvance
      refine ⟨taken, ?_, ?_⟩
      · rw [Plan.run, hadvance', htext]
        exact hrun
      · rw [htaken, htaken']
        simp [hfound]

/-! ## Whole texts -/

theorem exists_path_of_parse {text : List Char} {items : List (Item Nat)} {tokens : Array Token}
    (h : parse text = .ok (items, tokens)) :
    ∃ found founds, found.sought = Follow.item ∧
      (Grammar.program (bound text.length)).Path 0 (found :: founds) items ∧
      Lexes text (found :: founds) ∧
      tokens.toList.map Token.shape = (found :: founds).dropLast.map Found.shape := by
  unfold parse at h
  cases hstart : Cursor.start Follow.item text with
  | error error =>
    rw [hstart] at h
    cases h
  | ok cursor =>
    rw [hstart] at h
    cases hrun : (Grammar.program (bound text.length)).run 0 cursor with
    | error error =>
      simp only [bind, Except.bind, hrun] at h
      cases h
    | ok outcome =>
      obtain ⟨items', taken⟩ := outcome
      simp only [bind, Except.bind, hrun] at h
      obtain ⟨rfl, rfl⟩ := Prod.mk.inj (Except.ok.inj h)
      obtain ⟨hnext, htaken⟩ := Cursor.next_of_seek hstart
      obtain ⟨founds, hpath, hlexes, hshapes⟩ := Plan.exists_path_of_run hrun
        ⟨Follow.item, cursor.ahead.terminal, cursor.ahead.text⟩ rfl
      refine ⟨_, founds, rfl, hpath, .cons hnext hlexes, ?_⟩
      rw [htaken] at hshapes
      simpa using hshapes

theorem exists_parse_of_path {text : List Char} {items : List (Item Nat)} {found : Found}
    {founds : List Found} (hfound : found.sought = Follow.item)
    (hpath : (Grammar.program (bound text.length)).Path 0 (found :: founds) items)
    (hlexes : Lexes text (found :: founds)) :
    ∃ tokens, parse text = .ok (items, tokens) ∧
      tokens.toList.map Token.shape = (found :: founds).dropLast.map Found.shape := by
  cases hlexes with
  | cons hnext hlexes =>
    obtain ⟨cursor, hseek, hshape, rfl, htaken⟩ := Cursor.exists_seek_of_next hnext [] {}
    obtain ⟨taken, hrun, hshapes⟩ := hpath.run hshape hlexes
    have hstart : Cursor.start Follow.item text = .ok cursor := hfound ▸ hseek
    refine ⟨taken.reverse.toArray, ?_, ?_⟩
    · simp only [parse, bind, Except.bind, hstart, hrun]
      rfl
    · rw [htaken] at hshapes
      simpa using hshapes

end Throws.Surface
