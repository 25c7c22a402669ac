import Throws.Proofs.TokenTrace

/-!
# Reasoning about parsers

What a parser makes of a text depends on tokens only, and of a token little is known: it comes next,
and if it is a name, then its text is an identifier. `Parser.Yields parser good` says that this is
enough for whatever the parser passes on to be good. There is a rule for each way to build a parser,
so that a parser is dealt with along its definition, without running it.

`good_of_parse` is where the text comes in: if the plan for a program ensures good results, then a
text is read to nothing but good results.
-/

namespace Throws.Surface

/-- What is known of a token: if it is a name, then it is an identifier. -/
def Lexeme.Fits (lexeme : Lexeme) (terminal : Terminal) : Prop :=
  terminal = .name → IsIdentifier lexeme.name

/-- If the next token has the given number and kind, and the tokens that are taken have the given
shapes, then the plan ends with a good result or not at all. -/
def Plan.Ensures {ρ : Type} (shapes : List (Terminal × List Char)) (good : ρ → Prop) :
    Plan ρ → Nat → Terminal → Prop
  | .done result, _, _ => good result
  | .reject, _, _ => True
  | .look next, index, terminal => (next terminal).Ensures shapes good index terminal
  | .take _ next, index, terminal => ∀ text, shapes[index]? = some (terminal, text) →
    Lexeme.Fits ⟨index, text⟩ terminal →
    ∀ following, (next ⟨index, text⟩).Ensures shapes good (index + 1) following

/-! ## Tokens -/

/-- A word in a text is an identifier. -/
theorem isIdentifier_of_scanWord {sought : List Terminal} {cs text : List Char}
    {terminal : Terminal} (h : scanWord sought cs = some (terminal, text)) :
    IsIdentifier (String.ofList text) := by
  cases cs with
  | nil => exact absurd h (by simp [scanWord])
  | cons c cs =>
    simp only [scanWord, Option.ite_none_right_eq_some, Bool.and_eq_true] at h
    obtain ⟨⟨_, hstart⟩, hword⟩ := h
    obtain rfl : (c :: cs).takeWhile isWordPart = text := by
      split at hword <;> exact (Prod.mk.inj (Option.some.inj hword)).2
    have hpart := Text.isWordPart_of_isWordStart hstart
    refine ⟨c, cs.takeWhile isWordPart, ?_, hstart, fun d hd => List.mem_takeWhile_imp hd⟩
    rw [String.toList_ofList, List.takeWhile_cons_of_pos hpart]

/-- Names are words. -/
theorem scanWord_of_scan {sought : List Terminal} {cs text : List Char}
    (h : scan sought cs = some (.name, text)) : scanWord sought cs = some (.name, text) := by
  simp only [scan, Option.or_eq_some_iff] at h
  rcases h with (hword | ⟨_, hint⟩) | ⟨_, hstring | ⟨_, hfixed⟩⟩
  · exact hword
  · -- The other scanners find other kinds of tokens.
    exfalso
    unfold scanInt at hint
    split at hint <;> simp at hint
  · exfalso
    unfold scanString at hstring
    split at hstring <;> simp at hstring
  · exfalso
    obtain ⟨⟨terminal, spelling⟩, hfind, heq⟩ := Option.map_eq_some_iff.mp hfixed
    obtain ⟨rfl, _⟩ := Prod.mk.inj heq
    have hmem := List.mem_of_find?_eq_some hfind
    have hnone : ∀ entry ∈ Terminal.keywords ++ Terminal.punctuation, entry.1 ≠ .name := by decide
    exact hnone _ hmem rfl

/-- What is scanned as a name is an identifier. -/
theorem isIdentifier_of_scan {sought : List Terminal} {cs text : List Char}
    (h : scan sought cs = some (.name, text)) : IsIdentifier (String.ofList text) :=
  isIdentifier_of_scanWord (scanWord_of_scan h)

/-- The text of a name that comes next is an identifier. -/
theorem Next.isIdentifier {found : Found} {cs rest : List Char} (h : Next found cs rest)
    (hname : found.terminal = .name) : IsIdentifier (String.ofList found.text) := by
  cases h with
  | endOfText => cases hname
  | token _ hscan =>
    obtain rfl := hname
    exact isIdentifier_of_scan hscan

/-- A plan that ensures good results ends with a good result on the tokens of a text. -/
theorem Plan.Ensures.of_path {ρ : Type} {shapes : List (Terminal × List Char)} {good : ρ → Prop}
    {plan : Plan ρ} {index : Nat} {found : Found} {founds : List Found} {cs : List Char}
    {result : ρ} (h : plan.Ensures shapes good index found.terminal)
    (hpath : plan.Path index (found :: founds) result) (hlexes : Lexes cs (found :: founds))
    (hshapes : shapes.drop index = (found :: founds).dropLast.map Found.shape) : good result := by
  generalize hall : found :: founds = all at hpath hlexes hshapes
  induction hpath generalizing found founds cs with
  | done => exact h
  | look _ ih =>
    obtain ⟨rfl, rfl⟩ := List.cons.inj hall
    exact ih h rfl hlexes hshapes
  | take _ ih =>
    obtain ⟨rfl, rfl⟩ := List.cons.inj hall
    rw [List.dropLast_cons_cons, List.map_cons] at hshapes
    have hnext := congrArg List.head? hshapes
    rw [List.head?_drop, List.head?_cons] at hnext
    cases hlexes with
    | cons hfirst hrest =>
      refine ih (h _ hnext hfirst.isIdentifier _) rfl hrest ?_
      rw [← List.tail_drop, hshapes, List.tail_cons]

/-- What a plan ensures for the tokens of a text is true of its items. -/
theorem good_of_parse {text : List Char} {items : List (Item Nat)} {tokens : Array Token}
    (good : List (Item Nat) → Prop) (h : parse text = .ok (items, tokens))
    (hgood : ∀ terminal, (Grammar.program (bound text.length)).Ensures
      (tokens.toList.map Token.shape) good 0 terminal) : good items := by
  obtain ⟨found, founds, _, hpath, hlexes, hshapes⟩ := exists_path_of_parse h
  exact (hgood found.terminal).of_path hpath hlexes hshapes

/-- What is read from a text is parsed from it, with positions for the numbers of tokens. -/
theorem exists_parse_of_read {depth : Option Nat} {text : String} {program : Program Pos}
    (h : read depth text = .ok program) :
    ∃ items tokens, parse text.toList = .ok (items, tokens) ∧
      program = (Program.ofItems items).mapLoc (positionAt tokens) := by
  unfold read at h
  split at h
  case h_1 => cases h
  case h_2 items tokens hparse =>
    refine ⟨items, tokens, hparse, ?_⟩
    simp only at h
    split at h
    · cases h
    · split at h
      · exact (Except.ok.inj h).symm
      · cases h

/-! ## Rules for parsers -/

namespace Parser

variable {ρ α β : Type}

/-- What the parser passes on is good, if the next token is of the given kind. -/
def YieldsAt (terminal : Terminal) (parser : Parser ρ α) (good : α → Prop) : Prop :=
  ∀ (shapes : List (Terminal × List Char)) (final : ρ → Prop) (next : α → Plan ρ) (index : Nat),
    (∀ a, good a → ∀ index', index ≤ index' →
      ∀ following, (next a).Ensures shapes final index' following) →
    (parser next).Ensures shapes final index terminal

/-- What the parser passes on is good. -/
def Yields (parser : Parser ρ α) (good : α → Prop) : Prop :=
  ∀ terminal, YieldsAt terminal parser good

section Rules

variable {terminal : Terminal} {parser : Parser ρ α} {next : α → Parser ρ β} {good : α → Prop}
  {good' : β → Prop}

/-- What is passed on may be used by the parser behind. -/
theorem YieldsAt.bind (hparser : YieldsAt terminal parser good)
    (hnext : ∀ a, good a → Yields (next a) good') :
    YieldsAt terminal (parser >>= next) good' :=
  fun shapes final k index hk => hparser shapes final _ index fun a ha index' hle following =>
    hnext a ha following shapes final k index' fun b hb index'' hle' =>
      hk b hb index'' (hle.trans hle')

/-- The same whatever the next token is. -/
theorem Yields.bind (hparser : Yields parser good) (hnext : ∀ a, good a → Yields (next a) good') :
    Yields (parser >>= next) good' :=
  fun terminal => (hparser terminal).bind hnext

/-- A result is passed on. -/
theorem Yields.pure {a : α} (h : good a) : Yields (Pure.pure a : Parser ρ α) good :=
  fun terminal _ _ _ index hk => hk a h index le_rfl terminal

/-- Nothing is passed on by a parser that rejects. -/
theorem Yields.reject : Yields (Parser.reject : Parser ρ α) good :=
  fun _ _ _ _ _ _ => trivial

/-- Behind a look at the next token its kind is known. -/
theorem Yields.peek {next : Terminal → Parser ρ β}
    (h : ∀ terminal, YieldsAt terminal (next terminal) good') :
    Yields (Parser.peek >>= next) good' :=
  fun terminal => h terminal

/-- A token that is taken is of the kind that was seen. -/
theorem YieldsAt.take (terminal : Terminal) (sought : List Terminal) :
    YieldsAt terminal (Parser.take sought : Parser ρ Lexeme) (·.Fits terminal) :=
  fun _ _ _ index hk text _ hfits => hk ⟨index, text⟩ hfits (index + 1) (Nat.le_succ index)

/-- A token that was asked for is of that kind. -/
theorem Yields.expect (terminal : Terminal) (sought : List Terminal) :
    Yields (Parser.expect terminal sought : Parser ρ Lexeme) (·.Fits terminal) := by
  refine .peek fun found => ?_
  by_cases h : found = terminal
  · subst h
    rw [if_pos rfl]
    exact .take found sought
  · rw [if_neg h]
    exact Yields.reject found

end Rules

/-- The parser passes nothing on but what it makes of tokens, whatever that is. -/
def Sane (parser : Parser ρ α) : Prop := Yields parser fun _ => True

section SaneRules

variable {parser : Parser ρ α} {next : α → Parser ρ β} {good : α → Prop} {good' : β → Prop}

/-- It may be left open what is passed on. -/
theorem Yields.sane (h : Yields parser good) : Sane parser :=
  fun terminal shapes final k index hk => h terminal shapes final k index fun a _ => hk a trivial

/-- Behind a sane parser nothing is known of what it passes on. -/
theorem Sane.yields_bind (hparser : Sane parser) (hnext : ∀ a, Yields (next a) good') :
    Yields (parser >>= next) good' :=
  Yields.bind hparser fun a _ => hnext a

/-- Parsers in a row. -/
theorem Sane.bind (hparser : Sane parser) (hnext : ∀ a, Sane (next a)) : Sane (parser >>= next) :=
  hparser.yields_bind hnext

/-- A result. -/
theorem Sane.pure (a : α) : Sane (Pure.pure a : Parser ρ α) := Yields.pure trivial

/-- A parser that rejects. -/
theorem Sane.reject : Sane (Parser.reject : Parser ρ α) := Yields.reject

/-- Taking a token. -/
theorem Sane.take (sought : List Terminal) : Sane (Parser.take sought : Parser ρ Lexeme) :=
  fun terminal shapes final k index hk =>
    YieldsAt.take terminal sought shapes final k index fun lexeme _ => hk lexeme trivial

/-- Asking for a token of one kind. -/
theorem Sane.expect (terminal : Terminal) (sought : List Terminal) :
    Sane (Parser.expect terminal sought : Parser ρ Lexeme) :=
  (Yields.expect terminal sought).sane

/-- Looking at the next token. -/
theorem Sane.peek : Sane (Parser.peek : Parser ρ Terminal) :=
  fun terminal _ _ _ index hk => hk terminal trivial index le_rfl terminal

/-- A parser that branches. -/
theorem Sane.ite {condition : Prop} [Decidable condition] {first second : Parser ρ α}
    (hfirst : Sane first) (hsecond : Sane second) :
    Sane (if condition then first else second) := by
  split
  · exact hfirst
  · exact hsecond

end SaneRules

end Parser

end Throws.Surface
