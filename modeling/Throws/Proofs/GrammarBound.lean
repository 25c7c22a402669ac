import Throws.Proofs.TokenTrace

/-!
# How far a bound reaches

The parsers of the grammar are bounded in how often they may call each other. A bound that is large
enough for a text makes no difference any more: parsers with two such bounds go the same way on it.
What is large enough is told by the number of tokens, as no parser makes more than three calls
before it takes a token.

`Parser.Agree count drop first second` says that the two parsers go the same way as long as no more
than `count` tokens are taken, and that they take `drop` tokens at least. There is one rule for each
way to build a parser, and one lemma for each parser of the grammar, headed by what it reads, of the
form: if the bounds are at least `4 * count` plus some constant, then the parsers agree.

On the way two more things are shown of each token that is taken: it is not the end of the text, and
behind a slash no star is sought. The second one keeps `/` and `*` from ever standing side by side.
-/

namespace Throws.Surface

/-- What a token is like that is taken. -/
def Takable (terminal : Terminal) (sought : List Terminal) : Prop :=
  terminal ≠ .endOfText ∧ (terminal = .slash → .star ∉ sought)

instance (terminal : Terminal) (sought : List Terminal) : Decidable (Takable terminal sought) :=
  inferInstanceAs (Decidable (_ ∧ _))

/-- If the next token is of the given kind, the plans go the same way until `count` tokens have been
taken. -/
inductive Plan.Agree {ρ : Type} : Nat → Terminal → Plan ρ → Plan ρ → Prop
  | done {count : Nat} {terminal : Terminal} {result : ρ} :
      Agree count terminal (.done result) (.done result)
  | reject {count : Nat} {terminal : Terminal} : Agree count terminal .reject .reject
  | look {count : Nat} {terminal : Terminal} {next next' : Terminal → Plan ρ} :
      Agree count terminal (next terminal) (next' terminal) →
      Agree count terminal (.look next) (.look next')
  | take {count : Nat} {terminal : Terminal} {sought : List Terminal}
      {next next' : Lexeme → Plan ρ} :
      Takable terminal sought →
      (∀ fewer < count, ∀ lexeme following, Agree fewer following (next lexeme) (next' lexeme)) →
      Agree count terminal (.take sought next) (.take sought next')

/-! ## Rules for parsers -/

namespace Parser

variable {ρ α β : Type}

/-- If the next token is of the given kind, the parsers go the same way until `count` tokens have
been taken, and they take `drop` tokens at least. -/
def AgreeAt (terminal : Terminal) (count drop : Nat) (first second : Parser ρ α) : Prop :=
  ∀ next next' : α → Plan ρ,
    (∀ fewer, fewer + drop ≤ count → ∀ a following, (next a).Agree fewer following (next' a)) →
      (first next).Agree count terminal (second next')

/-- The parsers go the same way until `count` tokens have been taken, and they take `drop` tokens at
least. -/
def Agree (count drop : Nat) (first second : Parser ρ α) : Prop :=
  ∀ terminal, AgreeAt terminal count drop first second

variable {terminal : Terminal} {count drop drop' : Nat} {first second : Parser ρ α}
  {next next' : α → Parser ρ β}

/-- Behind parsers that agree there may be others that agree for fewer tokens. -/
theorem AgreeAt.bind (h : AgreeAt terminal count drop first second)
    (hnext : ∀ a fewer, fewer + drop ≤ count → Agree fewer drop' (next a) (next' a)) :
    AgreeAt terminal count (drop + drop') (first >>= next) (second >>= next') := by
  intro k k' hk
  refine h _ _ fun fewer hfewer a following => ?_
  exact hnext a fewer hfewer following k k' fun fewer' hfewer' => hk fewer' (by omega)

/-- The same whatever the next token is. -/
theorem Agree.bind (h : Agree count drop first second)
    (hnext : ∀ a fewer, fewer + drop ≤ count → Agree fewer drop' (next a) (next' a)) :
    Agree count (drop + drop') (first >>= next) (second >>= next') :=
  fun terminal => (h terminal).bind hnext

/-- It may be left open how many tokens are taken. -/
theorem AgreeAt.mono (h : AgreeAt terminal count drop first second) (hle : drop' ≤ drop) :
    AgreeAt terminal count drop' first second :=
  fun k k' hk => h k k' fun fewer hfewer => hk fewer (by omega)

/-- The same whatever the next token is. -/
theorem Agree.mono (h : Agree count drop first second) (hle : drop' ≤ drop) :
    Agree count drop' first second :=
  fun terminal => (h terminal).mono hle

/-- What comes behind need not take any token. -/
theorem AgreeAt.andThen (h : AgreeAt terminal count drop first second)
    (hnext : ∀ a fewer, fewer + drop ≤ count → Agree fewer 0 (next a) (next' a)) :
    AgreeAt terminal count drop (first >>= next) (second >>= next') :=
  h.bind hnext

/-- The same whatever the next token is. -/
theorem Agree.andThen (h : Agree count drop first second)
    (hnext : ∀ a fewer, fewer + drop ≤ count → Agree fewer 0 (next a) (next' a)) :
    Agree count drop (first >>= next) (second >>= next') :=
  h.bind hnext

/-- A result takes no tokens. -/
theorem Agree.pure (count : Nat) (a : α) :
    Agree count 0 (Pure.pure a : Parser ρ α) (Pure.pure a) :=
  fun terminal _ _ hk => hk count (by omega) a terminal

/-- What is made of a result makes no difference. -/
theorem AgreeAt.map (h : AgreeAt terminal count drop first second) (f : α → β) :
    AgreeAt terminal count drop (first >>= fun a => Pure.pure (f a))
      (second >>= fun a => Pure.pure (f a)) :=
  h.andThen fun a fewer _ => .pure fewer (f a)

/-- The same whatever the next token is. -/
theorem Agree.map (h : Agree count drop first second) (f : α → β) :
    Agree count drop (first >>= fun a => Pure.pure (f a)) (second >>= fun a => Pure.pure (f a)) :=
  fun terminal => (h terminal).map f

/-- Parsers that reject agree, whatever they would have taken. -/
theorem Agree.reject (count drop : Nat) :
    Agree count drop (Parser.reject : Parser ρ α) Parser.reject :=
  fun _ _ _ _ => .reject

/-- Behind a look at the next token its kind is known. -/
theorem Agree.peek {next next' : Terminal → Parser ρ β}
    (h : ∀ terminal, AgreeAt terminal count drop (next terminal) (next' terminal)) :
    Agree count drop (Parser.peek >>= next) (Parser.peek >>= next') :=
  fun terminal k k' hk => .look (h terminal k k' hk)

/-- A parser may branch on whether the next token is of one kind. -/
theorem Agree.peek_eq {sought : Terminal} {found found' other other' : Parser ρ β}
    (hfound : AgreeAt sought count drop found found') (hother : Agree count drop other other') :
    Agree count drop (Parser.peek >>= fun terminal => if terminal = sought then found else other)
      (Parser.peek >>= fun terminal => if terminal = sought then found' else other') := by
  refine .peek fun terminal => ?_
  by_cases h : terminal = sought
  · subst h
    rw [if_pos rfl, if_pos rfl]
    exact hfound
  · rw [if_neg h, if_neg h]
    exact hother terminal

/-- Taking a token takes one. -/
theorem AgreeAt.take {sought : List Terminal} (h : Takable terminal sought) (count : Nat) :
    AgreeAt terminal count 1 (Parser.take sought : Parser ρ Lexeme) (Parser.take sought) :=
  fun _ _ hk => .take h fun fewer hfewer lexeme following => hk fewer hfewer lexeme following

/-- Asking for a token of one kind takes one. -/
theorem Agree.expect {sought : List Terminal} (h : Takable terminal sought) (count : Nat) :
    Agree count 1 (Parser.expect terminal sought : Parser ρ Lexeme)
      (Parser.expect terminal sought) :=
  .peek_eq (.take h count) (.reject count 1)

end Parser

namespace Grammar

open Throws.Surface.Parser

variable {ρ : Type}

/-- A single name in a list of thrown types. -/
theorem agree_thrown (count : Nat) : Agree count 1 (thrown : Parser ρ _) thrown := by
  refine .peek fun terminal => ?_
  split
  · exact (AgreeAt.take (by decide) count).map _
  · exact (AgreeAt.take (by decide) count).map _
  · exact Agree.reject count 1 _

/-- The rest of a list of thrown types. -/
theorem agree_moreThrown {count n m : Nat} (hn : 4 * count + 1 ≤ n) (hm : 4 * count + 1 ≤ m)
    (found : List (Option String)) :
    Agree count 1 (moreThrown n found : Parser ρ _) (moreThrown m found) := by
  induction n generalizing m found count with
  | zero => omega
  | succ n ih =>
    obtain ⟨m, rfl⟩ : ∃ pred, m = pred + 1 := ⟨m - 1, by omega⟩
    refine .peek fun terminal => ?_
    split
    · exact ((AgreeAt.take (by decide) count).bind fun _ fewer _ => (agree_thrown fewer).bind
        fun _ fewer' _ => ih (by omega) (by omega) _).mono (by omega)
    · exact (Agree.expect (by decide) count).map _ _

/-- A list of thrown types. -/
theorem agree_thrownList {count n m : Nat} (hn : 4 * count ≤ n) (hm : 4 * count ≤ m) :
    Agree count 1 (thrownList n : Parser ρ _) (thrownList m) := by
  refine .peek fun terminal => ?_
  split
  · exact (AgreeAt.take (by decide) count).map _
  · exact (((agree_thrown count).bind fun _ fewer _ =>
      agree_moreThrown (by omega) (by omega) _).mono (by omega)) _

/-- The clauses behind a parameter list. -/
theorem agree_clauses {count n m : Nat} (hn : 4 * count + 1 ≤ n) (hm : 4 * count + 1 ≤ m)
    (found : List Clause) :
    Agree count 0 (clauses n found : Parser ρ _) (clauses m found) := by
  induction n generalizing m found count with
  | zero => omega
  | succ n ih =>
    obtain ⟨m, rfl⟩ : ∃ pred, m = pred + 1 := ⟨m - 1, by omega⟩
    refine .peek fun terminal => ?_
    split
    · exact ((AgreeAt.take (by decide) count).bind fun _ fewer _ =>
        (Agree.expect (by decide) fewer).bind fun _ fewer' _ =>
        (agree_thrownList (by omega) (by omega)).bind fun _ fewer'' _ =>
        ih (by omega) (by omega) _).mono (by omega)
    · exact ((AgreeAt.take (by decide) count).bind fun _ fewer _ =>
        ih (by omega) (by omega) _).mono (by omega)
    · exact Agree.pure count _ _

/-- The qualifiers in front of a type. -/
theorem agree_qualifiers {count n m : Nat} (hn : 4 * count + 1 ≤ n) (hm : 4 * count + 1 ≤ m)
    (found : Qualifiers) :
    Agree count 0 (qualifiers n found : Parser ρ _) (qualifiers m found) := by
  induction n generalizing m found count with
  | zero => omega
  | succ n ih =>
    obtain ⟨m, rfl⟩ : ∃ pred, m = pred + 1 := ⟨m - 1, by omega⟩
    refine .peek fun terminal => ?_
    split
    · exact ((AgreeAt.take (by decide) count).bind fun _ fewer _ =>
        ih (by omega) (by omega) _).mono (by omega)
    · exact ((AgreeAt.take (by decide) count).bind fun _ fewer _ =>
        ih (by omega) (by omega) _).mono (by omega)
    · exact Agree.pure count _ _

/-- The mark of a reference. -/
theorem agree_reference (count : Nat) : Agree count 0 (reference : Parser ρ _) reference :=
  .peek_eq (((AgreeAt.take (by decide) count).map _).mono (by omega)) (.pure count _)

/-- A type that has a name. -/
theorem agree_namedType {count n m : Nat} (hn : 4 * count + 1 ≤ n) (hm : 4 * count + 1 ≤ m) :
    Agree count 1 (namedType n : Parser ρ _) (namedType m) :=
  ((agree_qualifiers hn hm _).bind fun _ fewer _ => (Agree.expect (by decide) fewer).bind
    fun _ fewer' _ => (agree_reference fewer').map _).mono (by omega)

mutual

/-- A type. -/
theorem agree_type : {count : Nat} → (n m : Nat) → 4 * count + 2 ≤ n → 4 * count + 2 ≤ m →
    Agree count 1 (type n : Parser ρ _) (type m)
  | _, 0, _, hn, _ => by omega
  | _, _ + 1, 0, _, hm => by omega
  | count, n + 1, m + 1, hn, hm => by
    rw [type, type]
    refine .peek fun terminal => ?_
    split
    · exact ((AgreeAt.take (by decide) count).bind fun _ fewer _ =>
        (Agree.expect (by decide) fewer).bind fun _ fewer' _ =>
        (agree_typeList n m (by omega) (by omega)).bind fun _ fewer'' _ =>
        (agree_clauses (by omega) (by omega) _).map _).mono (by omega)
    · exact agree_namedType (by omega) (by omega) _
termination_by structural _ n => n

/-- The parameters of a function type. -/
theorem agree_typeList : {count : Nat} → (n m : Nat) → 4 * count + 3 ≤ n → 4 * count + 3 ≤ m →
    Agree count 1 (typeList n : Parser ρ _) (typeList m)
  | _, 0, _, hn, _ => by omega
  | _, _ + 1, 0, _, hm => by omega
  | count, n + 1, m + 1, hn, hm => by
    rw [typeList, typeList]
    refine .peek fun terminal => ?_
    split
    · exact (AgreeAt.take (by decide) count).map _
    · exact ((agree_type n m (by omega) (by omega)).bind fun _ fewer _ =>
        agree_moreTypes n m _ (by omega) (by omega)).mono (by omega) _
termination_by structural _ n => n

/-- The rest of the parameters of a function type. -/
theorem agree_moreTypes : {count : Nat} → (n m : Nat) → (found : List (TypeExpr Nat)) →
    4 * count + 1 ≤ n → 4 * count + 1 ≤ m →
    Agree count 1 (moreTypes n found : Parser ρ _) (moreTypes m found)
  | _, 0, _, _, hn, _ => by omega
  | _, _ + 1, 0, _, _, hm => by omega
  | count, n + 1, m + 1, found, hn, hm => by
    rw [moreTypes, moreTypes]
    refine .peek fun terminal => ?_
    split
    · exact ((AgreeAt.take (by decide) count).bind fun _ fewer _ =>
        (agree_type n m (by omega) (by omega)).bind fun _ fewer' _ =>
        agree_moreTypes n m _ (by omega) (by omega)).mono (by omega)
    · exact (Agree.expect (by decide) count).map _ _
termination_by structural _ n => n

end

/-! ## Expressions -/

/-- Behind a connective no star is sought. -/
theorem takable_of_begins {terminal : Terminal} (h : Connective.begins terminal = true) :
    Takable terminal Follow.operand := by
  revert h
  cases terminal <;> decide

mutual

/-- An expression. -/
theorem agree_expression : {count : Nat} → (n m : Nat) → 4 * count + 2 ≤ n → 4 * count + 2 ≤ m →
    Agree count 1 (expression n : Parser ρ _) (expression m)
  | _, 0, _, hn, _ => by omega
  | _, _ + 1, 0, _, hm => by omega
  | count, n + 1, m + 1, hn, hm => by
    rw [expression, expression]
    exact ((agree_operand n m (by omega) (by omega)).bind fun _ fewer _ =>
      (agree_chain n m _ (by omega) (by omega)).map _).mono (by omega)
termination_by structural _ n => n

/-- The operators in an expression with their right operands. -/
theorem agree_chain : {count : Nat} → (n m : Nat) → (found : Chain Nat) → 4 * count + 1 ≤ n →
    4 * count + 1 ≤ m → Agree count 0 (chain n found : Parser ρ _) (chain m found)
  | _, 0, _, _, hn, _ => by omega
  | _, _ + 1, 0, _, _, hm => by omega
  | count, n + 1, m + 1, found, hn, hm => by
    rw [chain, chain]
    refine .peek fun terminal => ?_
    by_cases h : Connective.begins terminal = true
    · rw [if_pos h, if_pos h]
      exact ((AgreeAt.take (takable_of_begins h) count).bind fun _ fewer _ =>
        (agree_operand n m (by omega) (by omega)).bind fun _ rest _ =>
        agree_chain n m _ (by omega) (by omega)).mono (by omega)
    · rw [if_neg h, if_neg h]
      exact Agree.pure count _ _
termination_by structural _ n => n

/-- An operand. -/
theorem agree_operand : {count : Nat} → (n m : Nat) → 4 * count + 1 ≤ n → 4 * count + 1 ≤ m →
    Agree count 1 (operand n : Parser ρ _) (operand m)
  | _, 0, _, hn, _ => by omega
  | _, _ + 1, 0, _, hm => by omega
  | count, n + 1, m + 1, hn, hm => by
    rw [operand, operand]
    -- An operand is a sign with an operand, an atom with calls, or in parentheses.
    have hsigned : ∀ terminal op, Takable terminal Follow.operand → AgreeAt terminal count 1 (do
          let sign ← take Follow.operand
          return (← operand n).signed sign.index op : Parser ρ (Operand Nat)) (do
          let sign ← take Follow.operand
          return (← operand m).signed sign.index op) := fun terminal op h =>
      ((AgreeAt.take h count).bind fun _ fewer _ =>
        (agree_operand n m (by omega) (by omega)).map _).mono (by omega)
    have hatom : ∀ terminal (atom : Lexeme → Operand Nat), Takable terminal Follow.afterOperand →
        AgreeAt terminal count 1 (do
          let token ← take Follow.afterOperand
          calls n (atom token) : Parser ρ (Operand Nat)) (do
          let token ← take Follow.afterOperand
          calls m (atom token)) := fun terminal atom h =>
      (AgreeAt.take h count).bind fun _ fewer _ => agree_calls n m _ (by omega) (by omega)
    refine .peek fun terminal => ?_
    split
    · exact hsigned _ .minus (by decide)
    · exact hsigned _ .bang (by decide)
    · exact hsigned _ .tilde (by decide)
    · exact hatom _ _ (by decide)
    · exact hatom _ _ (by decide)
    · exact hatom _ _ (by decide)
    · exact hatom _ _ (by decide)
    · exact hatom _ _ (by decide)
    · exact ((AgreeAt.take (by decide) count).bind fun _ fewer _ =>
        (agree_expression n m (by omega) (by omega)).bind fun _ fewer' _ =>
        (Agree.expect (by decide) fewer').bind fun _ rest _ =>
        agree_calls n m _ (by omega) (by omega)).mono (by omega)
    · exact Agree.reject count 1 _
termination_by structural _ n => n

/-- The arguments behind an operand, once for each call. -/
theorem agree_calls : {count : Nat} → (n m : Nat) → (function : Operand Nat) →
    4 * count + 1 ≤ n → 4 * count + 1 ≤ m →
    Agree count 0 (calls n function : Parser ρ _) (calls m function)
  | _, 0, _, _, hn, _ => by omega
  | _, _ + 1, 0, _, _, hm => by omega
  | count, n + 1, m + 1, function, hn, hm => by
    rw [calls, calls]
    exact .peek_eq (((AgreeAt.take (by decide) count).bind fun _ fewer _ =>
      (agree_argumentList n m (by omega) (by omega)).bind fun _ rest _ =>
      agree_calls n m _ (by omega) (by omega)).mono (by omega)) (.pure count _)
termination_by structural _ n => n

/-- The arguments of a call. -/
theorem agree_argumentList : {count : Nat} → (n m : Nat) → 4 * count + 3 ≤ n →
    4 * count + 3 ≤ m → Agree count 1 (argumentList n : Parser ρ _) (argumentList m)
  | _, 0, _, hn, _ => by omega
  | _, _ + 1, 0, _, hm => by omega
  | count, n + 1, m + 1, hn, hm => by
    rw [argumentList, argumentList]
    refine .peek fun terminal => ?_
    split
    · exact (AgreeAt.take (by decide) count).map _
    · exact ((agree_expression n m (by omega) (by omega)).bind fun _ fewer _ =>
        agree_moreArguments n m _ (by omega) (by omega)).mono (by omega) _
termination_by structural _ n => n

/-- The rest of the arguments of a call. -/
theorem agree_moreArguments : {count : Nat} → (n m : Nat) → (found : List (Expr Nat)) →
    4 * count + 1 ≤ n → 4 * count + 1 ≤ m →
    Agree count 1 (moreArguments n found : Parser ρ _) (moreArguments m found)
  | _, 0, _, _, hn, _ => by omega
  | _, _ + 1, 0, _, _, hm => by omega
  | count, n + 1, m + 1, found, hn, hm => by
    rw [moreArguments, moreArguments]
    refine .peek fun terminal => ?_
    split
    · exact ((AgreeAt.take (by decide) count).bind fun _ fewer _ =>
        (agree_expression n m (by omega) (by omega)).bind fun _ rest _ =>
        agree_moreArguments n m _ (by omega) (by omega)).mono (by omega)
    · exact (Agree.expect (by decide) count).map _ _
termination_by structural _ n => n

end

/-! ## Statements -/

section Parts

variable {count n m : Nat} (hn : 4 * count + 2 ≤ n) (hm : 4 * count + 2 ≤ m)

include hn hm

/-- A local variable behind its type. -/
theorem agree_declaration (type : TypeExpr Nat) (loc : Nat) :
    Agree count 1 (declaration n type loc : Parser ρ _) (declaration m type loc) :=
  (Agree.expect (by decide) count).andThen fun _ fewer _ =>
    .peek_eq (((AgreeAt.take (by decide) fewer).bind fun _ fewer' _ =>
      (agree_expression n m (by omega) (by omega)).map _).mono (by omega)) (.pure fewer _)

/-- A local variable or an expression. -/
theorem agree_simple : Agree count 1 (simple n : Parser ρ _) (simple m) := by
  -- What begins with a name is a declaration or an expression, as what follows it says.
  have hdecl : ∀ fewer, fewer ≤ count → ∀ type loc, Agree fewer 0
      (do return .decl (← declaration n type loc) : Parser ρ Simple)
      (do return .decl (← declaration m type loc)) := fun fewer _ type loc =>
    ((agree_declaration (by omega) (by omega) type loc).map _).mono (by omega)
  have htyped : Agree count 1 (do
      let type ← type n
      return .decl (← declaration n type (typeLoc type)) : Parser ρ Simple) (do
      let type ← type m
      return .decl (← declaration m type (typeLoc type))) :=
    (agree_type n m hn hm).bind fun _ fewer _ => hdecl fewer (by omega) _ _
  refine .peek fun terminal => ?_
  split
  · refine (AgreeAt.take (by decide) count).andThen fun _ fewer _ => .peek fun following => ?_
    split
    · exact hdecl fewer (by omega) _ _ _
    · exact ((AgreeAt.take (by decide) fewer).bind fun _ fewer' _ =>
        hdecl fewer' (by omega) _ _).mono (by omega)
    · exact ((agree_calls n m _ (by omega) (by omega)).bind fun _ _ _ =>
        (agree_chain n m _ (by omega) (by omega)).map _).map _ _
  · exact htyped _
  · exact htyped _
  · exact htyped _
  · exact (agree_expression n m hn hm).map _ _

/-- An expression that may be left out. -/
theorem agree_optional (stop : Terminal) :
    Agree count 0 (optional n stop : Parser ρ _) (optional m stop) :=
  .peek_eq (Agree.pure count _ _) (((agree_expression n m hn hm).map _).mono (by omega))

/-- The first part of a `for`. -/
theorem agree_forInit : Agree count 0 (forInit n : Parser ρ _) (forInit m) := by
  refine .peek_eq (Agree.pure count _ _)
    (((agree_simple hn hm).andThen fun inner rest _ => ?_).mono (by omega))
  cases inner <;> exact .pure rest _

/-- A condition in parentheses. -/
theorem agree_condition {sought : List Terminal} (h : Takable .rpar sought) :
    Agree count 1 (condition n sought : Parser ρ _) (condition m sought) :=
  ((Agree.expect (by decide) count).bind fun _ _ _ =>
    (agree_expression n m (by omega) (by omega)).bind fun _ fewer _ =>
    (Agree.expect h fewer).map _).mono (by omega)

/-- What a handler catches. -/
theorem agree_caught : Agree count 1 (caught n : Parser ρ _) (caught m) :=
  .peek_eq ((AgreeAt.take (by decide) count).map _) ((agree_type n m hn hm).andThen fun _ fewer _ =>
    .peek_eq (((AgreeAt.take (by decide) fewer).map _).mono (by omega)) (.pure fewer _))

end Parts

mutual

/-- A block. -/
theorem agree_block : {count : Nat} → (n m : Nat) → 4 * count + 1 ≤ n → 4 * count + 1 ≤ m →
    Agree count 1 (block n : Parser ρ _) (block m)
  | _, 0, _, hn, _ => by omega
  | _, _ + 1, 0, _, hm => by omega
  | count, n + 1, m + 1, hn, hm => by
    rw [block, block]
    exact ((Agree.expect (by decide) count).bind fun _ _ _ =>
      (agree_statements n m _ (by omega) (by omega)).map _).mono (by omega)
termination_by structural _ n => n

/-- The statements in a block. -/
theorem agree_statements : {count : Nat} → (n m : Nat) → (found : List (Stmt Nat)) →
    4 * count + 4 ≤ n → 4 * count + 4 ≤ m →
    Agree count 1 (statements n found : Parser ρ _) (statements m found)
  | _, 0, _, _, hn, _ => by omega
  | _, _ + 1, 0, _, _, hm => by omega
  | count, n + 1, m + 1, found, hn, hm => by
    rw [statements, statements]
    exact .peek_eq ((AgreeAt.take (by decide) count).map _)
      (((agree_statement n m (by omega) (by omega)).bind fun _ fewer _ =>
        agree_statements n m _ (by omega) (by omega)).mono (by omega))
termination_by structural _ n => n

/-- A statement. -/
theorem agree_statement : {count : Nat} → (n m : Nat) → 4 * count + 3 ≤ n → 4 * count + 3 ≤ m →
    Agree count 1 (statement n : Parser ρ _) (statement m)
  | _, 0, _, hn, _ => by omega
  | _, _ + 1, 0, _, hm => by omega
  | count, n + 1, m + 1, hn, hm => by
    rw [statement, statement]
    refine .peek fun terminal => ?_
    split
    · exact (agree_block n m (by omega) (by omega)).map _ _
    · exact (AgreeAt.take (by decide) count).map _
    · exact ((AgreeAt.take (by decide) count).bind fun _ _ _ =>
        (agree_optional (by omega) (by omega) _).bind fun _ fewer _ =>
        (Agree.expect (by decide) fewer).map _).mono (by omega)
    · refine (AgreeAt.take (by decide) count).andThen fun _ _ _ =>
        (agree_optional (by omega) (by omega) _).andThen fun value fewer _ =>
        ((Agree.expect (by decide) fewer).andThen fun _ rest _ => ?_).mono (by omega)
      cases value <;> exact .pure rest _
    · exact ((AgreeAt.take (by decide) count).bind fun _ _ _ =>
        (agree_block n m (by omega) (by omega)).bind fun _ _ _ =>
        (agree_handler n m (by omega) (by omega)).bind fun _ _ _ =>
        (agree_handlers n m _ (by omega) (by omega)).map _).mono (by omega)
    · exact (agree_branch n m (by omega) (by omega)).map _ _
    · exact ((AgreeAt.take (by decide) count).bind fun _ _ _ =>
        (agree_condition (by omega) (by omega) (by decide)).bind fun _ _ _ =>
        (agree_block n m (by omega) (by omega)).map _).mono (by omega)
    · exact ((AgreeAt.take (by decide) count).bind fun _ _ _ =>
        (agree_block n m (by omega) (by omega)).bind fun _ fewer _ =>
        (Agree.expect (by decide) fewer).bind fun _ _ _ =>
        (agree_condition (by omega) (by omega) (by decide)).bind fun _ fewer' _ =>
        (Agree.expect (by decide) fewer').map _).mono (by omega)
    · exact ((AgreeAt.take (by decide) count).bind fun _ fewer _ =>
        (Agree.expect (by decide) fewer).bind fun _ _ _ =>
        (agree_forInit (by omega) (by omega)).bind fun _ fewer' _ =>
        (Agree.expect (by decide) fewer').bind fun _ _ _ =>
        (agree_optional (by omega) (by omega) _).bind fun _ fewer'' _ =>
        (Agree.expect (by decide) fewer'').bind fun _ _ _ =>
        (agree_optional (by omega) (by omega) _).bind fun _ last _ =>
        (Agree.expect (by decide) last).bind fun _ _ _ =>
        (agree_block n m (by omega) (by omega)).map _).mono (by omega)
    · exact ((AgreeAt.take (by decide) count).bind fun _ fewer _ =>
        (Agree.expect (by decide) fewer).map _).mono (by omega)
    · exact ((AgreeAt.take (by decide) count).bind fun _ fewer _ =>
        (Agree.expect (by decide) fewer).map _).mono (by omega)
    · refine (agree_simple (by omega) (by omega)).andThen (fun inner fewer _ =>
        ((Agree.expect (by decide) fewer).andThen fun _ rest _ => ?_).mono (by omega)) _
      cases inner <;> exact .pure rest _
termination_by structural _ n => n

/-- A handler. -/
theorem agree_handler : {count : Nat} → (n m : Nat) → 4 * count + 1 ≤ n → 4 * count + 1 ≤ m →
    Agree count 1 (handler n : Parser ρ _) (handler m)
  | _, 0, _, hn, _ => by omega
  | _, _ + 1, 0, _, hm => by omega
  | count, n + 1, m + 1, hn, hm => by
    rw [handler, handler]
    exact ((Agree.expect (by decide) count).bind fun _ fewer _ =>
      (Agree.expect (by decide) fewer).bind fun _ _ _ =>
      (agree_caught (by omega) (by omega)).bind fun _ fewer' _ =>
      (Agree.expect (by decide) fewer').bind fun _ _ _ =>
      (agree_block n m (by omega) (by omega)).map _).mono (by omega)
termination_by structural _ n => n

/-- The handlers behind the first one. -/
theorem agree_handlers : {count : Nat} → (n m : Nat) → (found : List (Handler Nat)) →
    4 * count + 2 ≤ n → 4 * count + 2 ≤ m →
    Agree count 0 (handlers n found : Parser ρ _) (handlers m found)
  | _, 0, _, _, hn, _ => by omega
  | _, _ + 1, 0, _, _, hm => by omega
  | count, n + 1, m + 1, found, hn, hm => by
    rw [handlers, handlers]
    exact .peek_eq (((agree_handler n m (by omega) (by omega)).bind fun _ fewer _ =>
      agree_handlers n m _ (by omega) (by omega)).mono (by omega) _) (.pure count _)
termination_by structural _ n => n

/-- An `if`. -/
theorem agree_branch : {count : Nat} → (n m : Nat) → 4 * count + 1 ≤ n → 4 * count + 1 ≤ m →
    Agree count 1 (branch n : Parser ρ _) (branch m)
  | _, 0, _, hn, _ => by omega
  | _, _ + 1, 0, _, hm => by omega
  | count, n + 1, m + 1, hn, hm => by
    rw [branch, branch]
    exact ((Agree.expect (by decide) count).bind fun _ _ _ =>
      (agree_condition (by omega) (by omega) (by decide)).bind fun _ _ _ =>
      (agree_block n m (by omega) (by omega)).bind fun _ _ _ =>
      (agree_otherwise n m (by omega) (by omega)).map _).mono (by omega)
termination_by structural _ n => n

/-- What follows the block of an `if`. -/
theorem agree_otherwise : {count : Nat} → (n m : Nat) → 4 * count + 1 ≤ n → 4 * count + 1 ≤ m →
    Agree count 0 (otherwise n : Parser ρ _) (otherwise m)
  | _, 0, _, hn, _ => by omega
  | _, _ + 1, 0, _, hm => by omega
  | count, n + 1, m + 1, hn, hm => by
    rw [otherwise, otherwise]
    exact .peek_eq (((AgreeAt.take (by decide) count).andThen fun _ fewer _ =>
      .peek_eq (((agree_branch n m (by omega) (by omega)).map _).mono (by omega) _)
        (((agree_block n m (by omega) (by omega)).map _).mono (by omega))).mono (by omega))
      (.pure count _)
termination_by structural _ n => n

end

/-! ## Declarations -/

/-- A parameter. -/
theorem agree_param {count n m : Nat} (hn : 4 * count + 2 ≤ n) (hm : 4 * count + 2 ≤ m) :
    Agree count 1 (param n : Parser ρ _) (param m) :=
  (agree_type n m hn hm).andThen fun _ fewer _ =>
    .peek_eq (((AgreeAt.take (by decide) fewer).map _).mono (by omega)) (.pure fewer _)

/-- The rest of the parameters of a function. -/
theorem agree_moreParams {count n m : Nat} (hn : 4 * count + 1 ≤ n) (hm : 4 * count + 1 ≤ m)
    (found : List (Param Nat)) :
    Agree count 1 (moreParams n found : Parser ρ _) (moreParams m found) := by
  induction n generalizing m found count with
  | zero => omega
  | succ n ih =>
    obtain ⟨m, rfl⟩ : ∃ pred, m = pred + 1 := ⟨m - 1, by omega⟩
    refine .peek fun terminal => ?_
    split
    · exact ((AgreeAt.take (by decide) count).bind fun _ _ _ =>
        (agree_param (by omega) (by omega)).bind fun _ rest _ =>
        ih (by omega) (by omega) _).mono (by omega)
    · exact (Agree.expect (by decide) count).map _ _

/-- The parameters of a function. -/
theorem agree_paramList {count n m : Nat} (hn : 4 * count + 2 ≤ n) (hm : 4 * count + 2 ≤ m) :
    Agree count 1 (paramList n : Parser ρ _) (paramList m) := by
  refine .peek fun terminal => ?_
  split
  · exact (AgreeAt.take (by decide) count).map _
  · exact ((agree_param hn hm).bind fun _ rest _ =>
      agree_moreParams (by omega) (by omega) _).mono (by omega) _

/-- A function. -/
theorem agree_function {count n m : Nat} (hn : 4 * count + 2 ≤ n) (hm : 4 * count + 2 ≤ m) :
    Agree count 1 (function n : Parser ρ _) (function m) := by
  refine (agree_type n m hn hm).andThen fun _ fewer _ =>
    ((Agree.expect (by decide) fewer).andThen fun _ fewer' _ =>
    ((Agree.expect (by decide) fewer').andThen fun _ _ _ =>
    ((agree_paramList (by omega) (by omega)).andThen fun _ _ _ =>
    (agree_clauses (by omega) (by omega) _).andThen fun _ last _ =>
    .peek_eq (((AgreeAt.take (by decide) last).map _).mono (by omega)) ?_).mono
      (by omega)).mono (by omega)).mono (by omega)
  exact ((agree_block n m (by omega) (by omega)).map _).mono (by omega)

/-- A declaration. -/
theorem agree_item {count n m : Nat} (hn : 4 * count + 2 ≤ n) (hm : 4 * count + 2 ≤ m) :
    Agree count 1 (item n : Parser ρ _) (item m) := by
  refine .peek fun terminal => ?_
  split
  · exact ((AgreeAt.take (by decide) count).bind fun _ fewer _ =>
      (Agree.expect (by decide) fewer).bind fun _ fewer' _ =>
      (Agree.expect (by decide) fewer').map _).mono (by omega)
  · exact ((AgreeAt.take (by decide) count).bind fun _ fewer _ =>
      (Agree.expect (by decide) fewer).bind fun _ fewer' _ =>
      (Agree.expect (by decide) fewer').bind fun _ _ _ =>
      (agree_type n m (by omega) (by omega)).bind fun _ fewer'' _ =>
      (Agree.expect (by decide) fewer'').map _).mono (by omega)
  · exact (agree_function hn hm).map _ _

/-- The declarations of a source text. -/
theorem agree_items {count n m : Nat} (hn : 4 * count + 3 ≤ n) (hm : 4 * count + 3 ≤ m)
    (found : List (Item Nat)) :
    Agree count 0 (items n found : Parser ρ _) (items m found) := by
  induction n generalizing m found count with
  | zero => omega
  | succ n ih =>
    obtain ⟨m, rfl⟩ : ∃ pred, m = pred + 1 := ⟨m - 1, by omega⟩
    exact .peek_eq (Agree.pure count _ _) (((agree_item (by omega) (by omega)).bind
      fun _ rest _ => ih (by omega) (by omega) _).mono (by omega))

/-- Two bounds that are large enough make no difference. -/
theorem agree_program {count n m : Nat} (hn : 4 * count + 3 ≤ n) (hm : 4 * count + 3 ≤ m)
    (terminal : Terminal) : (program n).Agree count terminal (program m) :=
  agree_items hn hm [] terminal _ _ fun _ _ _ _ => .done

end Grammar

/-! ## Other bounds -/

/-- What holds of any two tokens in a row on the way through a plan. -/
def Found.Precedes (found following : Found) : Prop := Takable found.terminal following.sought

/-- A way through a plan is one through any other plan that agrees with it for as many tokens. -/
theorem Plan.Agree.path {ρ : Type} {plan plan' : Plan ρ} {count index : Nat} {found : Found}
    {founds : List Found} {result : ρ} (h : plan.Agree count found.terminal plan')
    (hpath : plan.Path index (found :: founds) result) (hcount : founds.length ≤ count) :
    plan'.Path index (found :: founds) result := by
  generalize hall : found :: founds = all at hpath
  induction hpath generalizing plan' count found founds with
  | done =>
    obtain ⟨rfl, rfl⟩ := List.cons.inj hall
    cases h
    exact .done
  | look _ ih =>
    obtain ⟨rfl, rfl⟩ := List.cons.inj hall
    cases h with
    | look h => exact .look (ih h hcount rfl)
  | @take _ _ _ following founds' _ _ ih =>
    obtain ⟨rfl, rfl⟩ := List.cons.inj hall
    rw [List.length_cons] at hcount
    cases h with
    | take _ hnext =>
      exact .take (ih (hnext founds'.length (by omega) _ _) (Nat.le_refl _) rfl)

/-- The tokens on the way through a plan can be taken, as far as the plan agrees with another. -/
theorem Plan.Agree.isChain_take {ρ : Type} {plan plan' : Plan ρ} {count index : Nat} {found : Found}
    {founds : List Found} {result : ρ} (h : plan.Agree count found.terminal plan')
    (hpath : plan.Path index (found :: founds) result) :
    ((found :: founds).take (count + 1)).IsChain Found.Precedes := by
  generalize hall : found :: founds = all at hpath
  induction hpath generalizing plan' count found founds with
  | done =>
    rw [List.take_succ_cons, List.take_nil]
    exact .singleton _
  | look _ ih =>
    obtain ⟨rfl, rfl⟩ := List.cons.inj hall
    cases h with
    | look h => exact ih h rfl
  | @take _ _ _ following founds' _ _ ih =>
    obtain ⟨rfl, rfl⟩ := List.cons.inj hall
    cases h with
    | take htakable hnext =>
      cases count with
      | zero => exact .singleton _
      | succ count =>
        have hchain := ih (hnext count (Nat.lt_succ_self count) _ _) rfl
        rw [List.take_succ_cons] at hchain ⊢
        rw [List.take_succ_cons]
        exact .cons_cons htakable hchain

end Throws.Surface
