import Throws.Proofs.PrintedTokens

/-!
# Reading a list of tokens

A printed text is read token by token. `Plan.Accepts plan index shapes result` says that the plan
takes all of the given tokens and ends with the result; there is no text in it. What is accepted so
is read from every text that has these tokens in a row, with blanks at least where two of them would
run together (`Renders`, `exists_parse_of_accepts`): whatever terminals are sought, the next token
of the text is the next one of the list.

`Reads parser shapes stop good` says the same of a parser: if the tokens are followed by one of kind
`stop`, the parser takes just these tokens and passes on a good value. There is one rule for each
way to build a parser.
-/

namespace Throws.Surface

/-! ## Plans -/

/-- The kind of the next token: the first one of the given tokens, or the one that follows them. -/
def ahead (shapes : List Shape) (stop : Terminal) : Terminal := (shapes.head?.map (·.1)).getD stop

theorem ahead_append (shapes shapes' : List Shape) (stop : Terminal) :
    ahead (shapes ++ shapes') stop = ahead shapes (ahead shapes' stop) := by
  cases shapes <;> rfl

theorem length_pos_of_ahead_ne {shapes : List Shape} (h : ahead shapes .endOfText ≠ .endOfText) :
    1 ≤ shapes.length := by
  refine List.length_pos_iff.mpr ?_
  rintro rfl
  exact h rfl

/-- The plan takes all of the tokens, of which `index` have been taken before, and ends with the
result. -/
inductive Plan.Accepts {ρ : Type} : Plan ρ → Nat → List Shape → ρ → Prop
  | done {result : ρ} {index : Nat} : Accepts (.done result) index [] result
  | look {next : Terminal → Plan ρ} {index : Nat} {shapes : List Shape} {result : ρ} :
      Accepts (next (ahead shapes .endOfText)) index shapes result →
      Accepts (.look next) index shapes result
  | take {sought : List Terminal} {next : Lexeme → Plan ρ} {index : Nat} {shape : Shape}
      {shapes : List Shape} {result : ρ} : IsPrinted shape →
      ahead shapes .endOfText ∈ .endOfText :: sought →
      Accepts (next ⟨index, shape.2⟩) (index + 1) shapes result →
      Accepts (.take sought next) index (shape :: shapes) result

/-- The text has the given tokens in a row. There may be blanks in front of each of them and at the
end, and there have to be some where the next one could be taken for a part of it. -/
inductive Renders : List Shape → List Char → Prop
  | nil {gap : List Char} : (∀ c ∈ gap, isBlank c = true) → Renders [] gap
  | cons {shape : Shape} {shapes : List Shape} {gap text : List Char} :
      (∀ c ∈ gap, isBlank c = true) → Apart shape.2 text → Renders shapes text →
      Renders (shape :: shapes) (gap ++ (shape.2 ++ text))

namespace Renders

variable {shape : Shape} {shapes : List Shape} {text : List Char}

/-- A token right in front. -/
theorem tight (h : Renders shapes text) (hapart : Apart shape.2 text) :
    Renders (shape :: shapes) (shape.2 ++ text) :=
  .cons (List.forall_mem_nil _) hapart h

/-- A blank in front of all tokens. -/
theorem blank (h : Renders shapes text) : Renders shapes (' ' :: text) := by
  cases h with
  | nil hgap => exact .nil (List.forall_mem_cons.mpr ⟨rfl, hgap⟩)
  | cons hgap hapart h => exact .cons (List.forall_mem_cons.mpr ⟨rfl, hgap⟩) hapart h

/-- A token with a blank behind it. -/
theorem before_blank (h : Renders shapes text) (shape : Shape) :
    Renders (shape :: shapes) (shape.2 ++ ' ' :: text) := by
  refine h.blank.tight fun c hc => .inl ?_
  obtain rfl := Option.some.inj hc
  rfl

/-- The text that has a blank between any two tokens. -/
theorem spaced (shapes : List Shape) : Renders shapes (Text.spaced (shapes.map (·.2))) := by
  induction shapes with
  | nil => exact .nil (List.forall_mem_nil _)
  | cons shape shapes ih =>
    cases shapes with
    | nil =>
      have hsingle : Renders [shape] (shape.2 ++ []) :=
        tight ih fun c hc => absurd hc (Option.not_mem_none c)
      rwa [List.append_nil] at hsingle
    | cons following shapes => exact ih.before_blank shape

/-- There are no more tokens than characters. -/
theorem length_le (h : Renders shapes text) (hprinted : ∀ shape ∈ shapes, IsPrinted shape) :
    shapes.length ≤ text.length := by
  induction h with
  | nil => exact Nat.zero_le _
  | cons _ _ _ ih =>
    obtain ⟨hshape, hshapes⟩ := List.forall_mem_cons.mp hprinted
    have hpos := List.length_pos_iff.mpr hshape.ne_nil
    have hrest := ih hshapes
    rw [List.length_cons, List.length_append, List.length_append]
    omega

end Renders

theorem IsPrinted.terminal_ne {shape : Shape} (h : IsPrinted shape) : shape.1 ≠ .endOfText := by
  cases h with
  | name | int | text => nofun
  | fixed hentry =>
    have hspec : ∀ entry ∈ spellings, entry.1 ≠ .endOfText := by decide
    exact hspec _ hentry

/-- A token that is found by itself is the next one of a text, with blanks in front of it and what
stands apart from it behind. -/
theorem next_of_scan {sought : List Terminal} {terminal : Terminal} {word rest gap : List Char}
    (h : scan sought word = some (terminal, word)) (hgap : ∀ c ∈ gap, isBlank c = true)
    (hapart : Apart word rest) : Next ⟨sought, terminal, word⟩ (gap ++ (word ++ rest)) rest := by
  refine .token ?_ (scan_append_of_apart hapart h)
  rw [skipped_append_of_blank hgap, skipped_of_apart h hapart]

/-- Tokens that are accepted are found in every text that has them in a row. -/
theorem Plan.Accepts.exists_path {ρ : Type} {plan : Plan ρ} {index : Nat} {shapes : List Shape}
    {result : ρ} (h : plan.Accepts index shapes result) {sought : List Terminal}
    (hsought : ahead shapes .endOfText ∈ .endOfText :: sought) {text : List Char}
    (htext : Renders shapes text) :
    ∃ found founds, found.sought = sought ∧ found.terminal = ahead shapes .endOfText ∧
      plan.Path index (found :: founds) result ∧ Lexes text (found :: founds) ∧
      (found :: founds).dropLast.map Found.shape = shapes := by
  induction h generalizing sought text with
  | done =>
    cases htext with
    | nil hgap =>
      have hskipped : skipped (text ++ []) = [] := skipped_append_of_blank hgap []
      rw [List.append_nil] at hskipped
      exact ⟨⟨sought, .endOfText, []⟩, [], rfl, rfl, .done, .cons (.endOfText hskipped) (.nil _),
        rfl⟩
  | look _ ih =>
    obtain ⟨found, founds, hfound, hterminal, hpath, hlexes⟩ := ih hsought htext
    exact ⟨found, founds, hfound, hterminal, .look (hterminal ▸ hpath), hlexes⟩
  | @take _ _ _ shape shapes _ hprinted hnext _ ih =>
    cases htext with
    | cons hgap hapart htext =>
      obtain ⟨following, founds, rfl, _, hpath, hlexes, hshapes⟩ := ih hnext htext
      have hmem : shape.1 ∈ sought := (List.mem_cons.mp hsought).resolve_left hprinted.terminal_ne
      refine ⟨⟨sought, shape.1, shape.2⟩, following :: founds, rfl, rfl, .take hpath,
        .cons (next_of_scan (hprinted.scan hmem) hgap hapart) hlexes, ?_⟩
      rw [List.dropLast_cons_cons, List.map_cons, hshapes]
      rfl

theorem Plan.Accepts.isPrinted {ρ : Type} {plan : Plan ρ} {index : Nat} {shapes : List Shape}
    {result : ρ} (h : plan.Accepts index shapes result) : ∀ shape ∈ shapes, IsPrinted shape := by
  induction h with
  | done => exact List.forall_mem_nil _
  | look _ ih => exact ih
  | take hprinted _ _ ih => exact List.forall_mem_cons.mpr ⟨hprinted, ih⟩

/-- What the grammar accepts with every large bound is parsed from every text that has these tokens
in a row. -/
theorem exists_parse_of_accepts {shapes : List Shape} {good : List (Item Nat) → Prop}
    (haccepts : ∀ n, 4 * shapes.length + 16 ≤ n →
      ∃ items, good items ∧ (Grammar.program n).Accepts 0 shapes items)
    (hsought : ahead shapes .endOfText ∈ .endOfText :: Follow.item) {text : List Char}
    (htext : Renders shapes text) :
    ∃ items tokens, good items ∧ parse text = .ok (items, tokens) ∧
      ∀ token ∈ tokens.toList, IsPrinted token.shape := by
  have hprinted : ∀ shape ∈ shapes, IsPrinted shape := by
    obtain ⟨items, _, hitems⟩ := haccepts _ (Nat.le_refl _)
    exact hitems.isPrinted
  -- No token is empty, so a bound for the characters is one for the tokens.
  have hlength := htext.length_le hprinted
  obtain ⟨items, hgood, hitems⟩ := haccepts (bound text.length) (by unfold bound; omega)
  obtain ⟨found, founds, hfound, _, hpath, hlexes, hshapes⟩ := hitems.exists_path hsought htext
  obtain ⟨tokens, hparse, htokens⟩ := exists_parse_of_path hfound hpath hlexes
  refine ⟨items, tokens, hgood, hparse, fun token htoken => hprinted _ ?_⟩
  rw [← hshapes, ← htokens]
  exact List.mem_map_of_mem htoken

/-! ## Parsers -/

namespace Parser

variable {ρ α β : Type}

/-- If the tokens are followed by one of the given kind, the parser takes just these tokens and
passes on a good value. -/
def Reads (parser : Parser ρ α) (shapes : List Shape) (stop : Terminal) (good : α → Prop) : Prop :=
  ∀ index, ∃ a, good a ∧ ∀ (next : α → Plan ρ) (rest : List Shape) (result : ρ),
    ahead rest .endOfText = stop → (next a).Accepts (index + shapes.length) rest result →
      (parser next).Accepts index (shapes ++ rest) result

variable {parser : Parser ρ α} {shapes shapes' : List Shape} {stop : Terminal}
  {good : α → Prop} {good' : β → Prop}

theorem Reads.mono {good'' : α → Prop} (h : Reads parser shapes stop good)
    (hgood : ∀ a, good a → good'' a) : Reads parser shapes stop good'' := by
  intro index
  obtain ⟨a, ha, haccepts⟩ := h index
  exact ⟨a, hgood a ha, haccepts⟩

theorem Reads.pure {a : α} (h : good a) : Reads (Pure.pure a : Parser ρ α) [] stop good :=
  fun _ => ⟨a, h, fun _ _ _ _ haccepts => haccepts⟩

theorem Reads.bind {next : α → Parser ρ β} (h : Reads parser shapes (ahead shapes' stop) good)
    (hnext : ∀ a, good a → Reads (next a) shapes' stop good') :
    Reads (parser >>= next) (shapes ++ shapes') stop good' := by
  intro index
  obtain ⟨a, ha, hfirst⟩ := h index
  obtain ⟨b, hb, hsecond⟩ := hnext a ha (index + shapes.length)
  refine ⟨b, hb, fun k rest result hrest haccepts => ?_⟩
  rw [List.append_assoc]
  refine hfirst _ _ _ (by rw [ahead_append, hrest]) (hsecond k rest result hrest ?_)
  rwa [List.length_append, ← Nat.add_assoc] at haccepts

/-- A parser behind which no more tokens are taken. -/
theorem Reads.last {next : α → Parser ρ β} (h : Reads parser shapes stop good)
    (hnext : ∀ a, good a → Reads (next a) [] stop good') :
    Reads (parser >>= next) shapes stop good' := by
  have hbind : Reads (parser >>= next) (shapes ++ []) stop good' := .bind h hnext
  rwa [List.append_nil] at hbind

/-- A parser and something made of its value. -/
theorem Reads.map {f : α → β} (h : Reads parser shapes stop good)
    (hgood : ∀ a, good a → good' (f a)) :
    Reads (parser >>= fun a => Pure.pure (f a)) shapes stop good' :=
  h.last fun a ha => .pure (hgood a ha)

/-- A look at the next token. -/
theorem Reads.peek {next : Terminal → Parser ρ β} (terminal : Terminal)
    (hterminal : ahead shapes stop = terminal) (hnext : Reads (next terminal) shapes stop good') :
    Reads (Parser.peek >>= next) shapes stop good' := by
  intro index
  obtain ⟨b, hb, haccepts⟩ := hnext index
  refine ⟨b, hb, fun k rest result hrest hk => .look ?_⟩
  rw [ahead_append, hrest, hterminal]
  exact haccepts k rest result hrest hk

/-- A look at a token of which only some kinds are possible. -/
theorem Reads.peek_mem {next : Terminal → Parser ρ β} {possible : List Terminal}
    (hpossible : ahead shapes stop ∈ possible)
    (hnext : ∀ terminal ∈ possible, Reads (next terminal) shapes stop good') :
    Reads (Parser.peek >>= next) shapes stop good' :=
  .peek _ rfl (hnext _ hpossible)

/-- A choice by the next token that turns out one way. -/
theorem Reads.peek_eq {first second : Parser ρ β} {terminal : Terminal}
    (hterminal : ahead shapes stop = terminal) (hfirst : Reads first shapes stop good') :
    Reads (Parser.peek >>= fun found => if found = terminal then first else second) shapes stop
      good' :=
  .peek terminal hterminal (by rwa [if_pos rfl])

/-- A choice by the next token that turns out the other way. -/
theorem Reads.peek_ne {first second : Parser ρ β} {terminal : Terminal}
    (hterminal : ahead shapes stop ≠ terminal) (hsecond : Reads second shapes stop good') :
    Reads (Parser.peek >>= fun found => if found = terminal then first else second) shapes stop
      good' :=
  .peek _ rfl (by rwa [if_neg hterminal])

/-- A token is taken. -/
theorem Reads.take {shape : Shape} {sought : List Terminal} {next : Lexeme → Parser ρ β}
    (hprinted : IsPrinted shape) (hsought : ahead shapes stop ∈ .endOfText :: sought)
    (hnext : ∀ lexeme : Lexeme, lexeme.text = shape.2 → Reads (next lexeme) shapes stop good') :
    Reads (Parser.take sought >>= next) (shape :: shapes) stop good' := by
  intro index
  obtain ⟨b, hb, haccepts⟩ := hnext ⟨index, shape.2⟩ rfl (index + 1)
  refine ⟨b, hb, fun k rest result hrest hk => ?_⟩
  rw [← hrest, ← ahead_append] at hsought
  refine .take hprinted hsought (haccepts k rest result hrest ?_)
  rwa [List.length_cons, Nat.add_comm shapes.length, ← Nat.add_assoc] at hk

/-- A token of the expected kind is taken. -/
theorem Reads.expect {shape : Shape} {terminal : Terminal} {sought : List Terminal}
    {next : Lexeme → Parser ρ β} (hprinted : IsPrinted shape) (hterminal : shape.1 = terminal)
    (hsought : ahead shapes stop ∈ .endOfText :: sought)
    (hnext : ∀ lexeme : Lexeme, lexeme.text = shape.2 → Reads (next lexeme) shapes stop good') :
    Reads (Parser.expect terminal sought >>= next) (shape :: shapes) stop good' := by
  intro index
  obtain ⟨b, hb, haccepts⟩ := Reads.take hprinted hsought hnext index
  refine ⟨b, hb, fun k rest result hrest hk => .look ?_⟩
  change ((if shape.1 = terminal then Parser.take sought else Parser.reject) _).Accepts _ _ _
  rw [if_pos hterminal]
  exact haccepts k rest result hrest hk

end Parser

end Throws.Surface
