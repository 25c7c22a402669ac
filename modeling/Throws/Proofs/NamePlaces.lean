import Throws.Proofs.NameUses
import Throws.Proofs.TypeSpelling

/-!
# Names of a tree are tokens of the text

The reader numbers the tokens of a text and locates trees by these numbers. Every name in a tree is
the token of its number, no two names have the same number, and every call is located where the
called expression is (`placed_of_parse`).

The parsers are dealt with along their definitions. `Tracks before parser after` says: if the names
and calls in `before` are in their places when the parser starts, then those in `after a` are in
their places when it passes on `a`. So `before` is what was read already, and a parser for a tree
puts the names and calls of the tree behind it. Names are put there when their token is taken,
which is why they are in order and none of them is there twice.
-/

namespace Throws.Surface

/-- Names and calls that are in their places when `index` tokens of the given shapes have been
taken. -/
structure Placed (shapes : List (Terminal × List Char)) (index : Nat) (uses : List (Expr Nat)) :
    Prop where
  /-- A name is a token that has been taken. -/
  name : ∀ ident loc, .name ident loc ∈ uses →
    loc < index ∧ shapes[loc]? = some (.name, ident.toList)
  /-- A call is where the called expression is. -/
  call : ∀ function args loc, .call function args loc ∈ uses → loc = function.loc
  /-- Names are in the order of their tokens. -/
  ordered : (uses.filterMap Expr.nameLoc?).Pairwise (· < ·)

namespace Placed

variable {shapes : List (Terminal × List Char)} {index index' : Nat} {uses uses' : List (Expr Nat)}

/-- Nothing is placed anywhere. -/
theorem nil : Placed shapes index [] :=
  ⟨fun _ _ h => absurd h List.not_mem_nil, fun _ _ _ h => absurd h List.not_mem_nil, .nil⟩

/-- What is placed before a token is placed before later ones. -/
theorem mono (h : Placed shapes index uses) (hle : index ≤ index') : Placed shapes index' uses :=
  ⟨fun ident loc hmem => (h.name ident loc hmem).imp_left (·.trans_le hle), h.call, h.ordered⟩

/-- What is left of placed uses is placed. -/
theorem sublist (h : Placed shapes index uses) (hsub : uses'.Sublist uses) :
    Placed shapes index uses' :=
  ⟨fun ident loc hmem => h.name ident loc (hsub.subset hmem),
    fun function args loc hmem => h.call function args loc (hsub.subset hmem),
    h.ordered.sublist (hsub.filterMap _)⟩

/-- The next token is a name, and its number is greater than those of all names before it. -/
theorem append_name (h : Placed shapes index uses) {text : List Char}
    (htext : shapes[index]? = some (.name, text)) :
    Placed shapes (index + 1) (uses ++ [.name (String.ofList text) index]) where
  name := by
    intro ident loc hmem
    rcases List.mem_append.mp hmem with hmem | hmem
    · exact (h.name ident loc hmem).imp_left Nat.lt_succ_of_lt
    · cases List.mem_singleton.mp hmem
      rw [String.toList_ofList]
      exact ⟨Nat.lt_succ_self _, htext⟩
  call := by
    intro function args loc hmem
    rcases List.mem_append.mp hmem with hmem | hmem
    · exact h.call function args loc hmem
    · cases List.mem_singleton.mp hmem
  ordered := by
    rw [List.filterMap_append, List.pairwise_append]
    refine ⟨h.ordered, List.pairwise_singleton _ _, fun loc hloc loc' hloc' => ?_⟩
    obtain rfl := List.mem_singleton.mp hloc'
    obtain ⟨ident, hmem⟩ := exists_name_of_mem hloc
    exact (h.name ident loc hmem).1

/-- A call may follow where the called expression is located. -/
theorem append_call (h : Placed shapes index uses) (function : Expr Nat) (args : List (Expr Nat)) :
    Placed shapes index (uses ++ [.call function args function.loc]) where
  name := by
    intro ident loc hmem
    rcases List.mem_append.mp hmem with hmem | hmem
    · exact h.name ident loc hmem
    · cases List.mem_singleton.mp hmem
  call := by
    intro function' args' loc hmem
    rcases List.mem_append.mp hmem with hmem | hmem
    · exact h.call function' args' loc hmem
    · cases List.mem_singleton.mp hmem
      rfl
  ordered := by
    rw [List.filterMap_append]
    exact (List.append_nil _).symm ▸ h.ordered

end Placed

/-! ## Rules for parsers -/

namespace Parser

variable {ρ α β : Type}

/-- If the next token is of the given kind, and the names and calls in `before` are in their places,
then those in `after a` are in their places when the parser passes on `a`. -/
def TracksAt (terminal : Terminal) (before : List (Expr Nat)) (parser : Parser ρ α)
    (after : α → List (Expr Nat)) : Prop :=
  ∀ (shapes : List (Terminal × List Char)) (good : ρ → Prop) (next : α → Plan ρ) (index : Nat),
    Placed shapes index before →
    (∀ a index', index ≤ index' → Placed shapes index' (after a) →
      ∀ following, (next a).Ensures shapes good index' following) →
    (parser next).Ensures shapes good index terminal

/-- If the names and calls in `before` are in their places, then those in `after a` are in their
places when the parser passes on `a`. -/
def Tracks (before : List (Expr Nat)) (parser : Parser ρ α) (after : α → List (Expr Nat)) : Prop :=
  ∀ terminal, TracksAt terminal before parser after

variable {terminal : Terminal} {before before' : List (Expr Nat)} {parser : Parser ρ α}
  {next : α → Parser ρ β} {between : α → List (Expr Nat)} {after : β → List (Expr Nat)}
  {good : α → Prop} {sought : List Terminal}

/-- What is known of the results of a parser does not matter for what was read before it. -/
theorem Yields.tracks (h : Yields parser good) : Tracks before parser fun _ => before :=
  fun terminal shapes final k index hplaced hk =>
    h terminal shapes final k index fun a _ index' hle => hk a index' hle (hplaced.mono hle)

/-- Nothing is passed on but what is made of tokens. -/
theorem Tracks.sane (h : Tracks [] parser between) : Sane parser :=
  fun terminal shapes final k index hk =>
    h terminal shapes final k index .nil fun a index' hle _ => hk a trivial index' hle

/-- The parser behind goes on with what the first one leaves. -/
theorem TracksAt.bind (h : TracksAt terminal before parser between)
    (hnext : ∀ a, Tracks (between a) (next a) after) :
    TracksAt terminal before (parser >>= next) after :=
  fun shapes good k index hplaced hk => h shapes good _ index hplaced
    fun a index' hle hplaced' following => hnext a following shapes good k index' hplaced'
      fun b index'' hle' => hk b index'' (hle.trans hle')

/-- What is tracked whatever comes next is tracked for one kind of token. -/
theorem TracksAt.of (h : Tracks before parser between) : TracksAt terminal before parser between :=
  h terminal

/-- The same whatever the next token is. -/
theorem Tracks.bind (h : Tracks before parser between)
    (hnext : ∀ a, Tracks (between a) (next a) after) : Tracks before (parser >>= next) after :=
  fun terminal => (h terminal).bind hnext

/-- What is passed on may leave out what was read. -/
theorem Tracks.pure {b : β} (h : (after b).Sublist before) :
    Tracks before (Pure.pure b : Parser ρ β) after :=
  fun terminal _ _ _ index hplaced hk => hk b index le_rfl (hplaced.sublist h) terminal

/-- Nothing is left by a parser that rejects. -/
theorem Tracks.reject : Tracks before (Parser.reject : Parser ρ β) after :=
  fun _ _ _ _ _ _ _ => trivial

/-- Behind a look at the next token its kind is known. -/
theorem Tracks.peek {next : Terminal → Parser ρ β}
    (h : ∀ terminal, TracksAt terminal before (next terminal) after) :
    Tracks before (Parser.peek >>= next) after :=
  fun terminal => h terminal

/-- A token that is not tracked changes nothing. -/
theorem TracksAt.take :
    TracksAt terminal before (Parser.take sought : Parser ρ Lexeme) fun _ => before :=
  fun _ _ _ index hplaced hk _ _ _ => hk _ (index + 1) index.le_succ (hplaced.mono index.le_succ)

/-- A name that is taken is put behind what was read before. -/
theorem TracksAt.takeName :
    TracksAt .name before (Parser.take sought : Parser ρ Lexeme)
      fun lexeme => before ++ [.name lexeme.name lexeme.index] :=
  fun _ _ _ index hplaced hk _ htext _ =>
    hk _ (index + 1) index.le_succ (hplaced.append_name htext)

/-- Asking for a token is tracked like taking it. -/
theorem Tracks.expect {after : Lexeme → List (Expr Nat)}
    (h : TracksAt terminal before (Parser.take sought : Parser ρ Lexeme) after) :
    Tracks before (Parser.expect terminal sought : Parser ρ Lexeme) after := by
  refine .peek fun found => ?_
  by_cases hfound : found = terminal
  · subst hfound
    rw [if_pos rfl]
    exact h
  · rw [if_neg hfound]
    exact Tracks.reject found

/-- More may have been read than is needed. -/
theorem Tracks.weaken {parser : Parser ρ β} (h : Tracks before parser after)
    (hsub : before.Sublist before') : Tracks before' parser after :=
  fun terminal shapes good k index hplaced =>
    h terminal shapes good k index (hplaced.sublist hsub)

/-- A call may be put behind what was read, as soon as its parts are there. -/
theorem Tracks.of_call {parser : Parser ρ β} (function : Expr Nat) (args : List (Expr Nat))
    (h : Tracks (before ++ [.call function args function.loc]) parser after) :
    Tracks before parser after :=
  fun terminal shapes good k index hplaced =>
    h terminal shapes good k index (hplaced.append_call function args)

end Parser

namespace Grammar

open Throws.Surface.Parser

variable {ρ : Type} {before : List (Expr Nat)}

/-! ## Expressions -/

mutual

/-- An expression leaves what it uses. -/
theorem tracks_expression : (n : Nat) → (before : List (Expr Nat)) →
    Tracks before (expression n : Parser ρ _) fun operand => before ++ operand.expr.uses
  | 0, _ => .reject
  | n + 1, before => by
    rw [expression]
    refine (tracks_operand n before).bind fun first =>
      ((tracks_chain n [] (before ++ first.expr.uses)).weaken (by simp [usesOfChain])).bind
        fun rest => .pure ?_
    rw [List.append_assoc]
    exact (uses_assemble first rest).append_left before
termination_by structural n => n

/-- The operands found before are among what was read. -/
theorem tracks_chain : (n : Nat) → (found : Chain Nat) → (before : List (Expr Nat)) →
    Tracks (before ++ usesOfChain found.reverse) (chain n found : Parser ρ _)
      fun rest => before ++ usesOfChain rest
  | 0, _, _ => .reject
  | n + 1, found, before => by
    rw [chain]
    refine .peek fun terminal => ?_
    split
    · refine TracksAt.take.bind fun _ => (tracks_operand n _).bind fun right =>
        (tracks_chain n _ before).weaken ?_
      simp [usesOfChain]
    · exact .of (.pure (.refl _))
termination_by structural n => n

/-- So does an operand. -/
theorem tracks_operand : (n : Nat) → (before : List (Expr Nat)) →
    Tracks before (operand n : Parser ρ _) fun operand => before ++ operand.expr.uses
  | 0, _ => .reject
  | n + 1, before => by
    rw [operand]
    have hsigned : ∀ terminal op, TracksAt terminal before (do
        let sign ← take Follow.operand
        return (← operand n).signed sign.index op : Parser ρ (Operand Nat))
          fun operand => before ++ operand.expr.uses := fun _ op =>
      TracksAt.take.bind fun _ => (tracks_operand n before).bind fun _ => .pure (.refl _)
    -- A literal is no name, so nothing is added to what was read.
    have hliteral : ∀ terminal (value : Lexeme → Literal), TracksAt terminal before (do
        let token ← take Follow.afterOperand
        calls n (.beginningAt token.index (.literal (value token) token.index)) :
          Parser ρ (Operand Nat)) fun operand => before ++ operand.expr.uses := fun _ value =>
      TracksAt.take.bind fun _ => (tracks_calls n _ before).weaken (by
        simp [Operand.beginningAt, Expr.uses])
    refine .peek fun terminal => ?_
    split
    · exact hsigned _ .minus
    · exact hsigned _ .bang
    · exact hsigned _ .tilde
    · exact hliteral _ _
    · exact hliteral _ _
    · exact hliteral _ fun _ => .bool true
    · exact hliteral _ fun _ => .bool false
    · exact TracksAt.takeName.bind fun token =>
        tracks_calls n (.beginningAt token.index (.name token.name token.index)) before
    · exact TracksAt.take.bind fun token => (tracks_expression n before).bind fun inner =>
        (Tracks.expect .take).bind fun _ => tracks_calls n (inner.parenthesized token.index) before
    · exact .of .reject
termination_by structural n => n

/-- So do calls, behind the operand that they are made of. -/
theorem tracks_calls : (n : Nat) → (function : Operand Nat) → (before : List (Expr Nat)) →
    Tracks (before ++ function.expr.uses) (calls n function : Parser ρ _)
      fun operand => before ++ operand.expr.uses
  | 0, _, _ => .reject
  | n + 1, function, before => by
    rw [calls]
    refine .peek fun terminal => ?_
    split
    · -- The call is put behind its parts as soon as all of them are there.
      refine TracksAt.take.bind fun _ => (tracks_argumentList n _).bind fun args =>
        .of_call function.expr args ((tracks_calls n (function.call args) before).weaken ?_)
      simp [Operand.call, Operand.beginningAt, Expr.uses]
    · exact .of (.pure (.refl _))
termination_by structural n => n

/-- So do the arguments of a call. -/
theorem tracks_argumentList : (n : Nat) → (before : List (Expr Nat)) →
    Tracks before (argumentList n : Parser ρ _) fun args => before ++ usesOfExprs args
  | 0, _ => .reject
  | n + 1, before => by
    rw [argumentList]
    refine .peek fun terminal => ?_
    split
    · exact TracksAt.take.bind fun _ => .pure (by simp [usesOfExprs])
    · exact .of ((tracks_expression n before).bind fun first =>
        (tracks_moreArguments n _ before).weaken (by simp [usesOfExprs]))
termination_by structural n => n

/-- So do the rest of them, behind those found so far. -/
theorem tracks_moreArguments : (n : Nat) → (found : List (Expr Nat)) →
    (before : List (Expr Nat)) →
    Tracks (before ++ usesOfExprs found.reverse) (moreArguments n found : Parser ρ _)
      fun args => before ++ usesOfExprs args
  | 0, _, _ => .reject
  | n + 1, found, before => by
    rw [moreArguments]
    refine .peek fun terminal => ?_
    split
    · refine TracksAt.take.bind fun _ => (tracks_expression n _).bind fun arg =>
        (tracks_moreArguments n _ before).weaken ?_
      simp [usesOfExprs_eq_flatMap]
    · exact .of ((Tracks.expect .take).bind fun _ => .pure (.refl _))
termination_by structural n => n

end

/-- So does an expression that begins with a name. -/
theorem tracks_expressionFrom (n : Nat) (name : Lexeme) (before : List (Expr Nat)) :
    Tracks (before ++ [.name name.name name.index]) (expressionFrom n name : Parser ρ _)
      fun operand => before ++ operand.expr.uses := by
  refine (tracks_calls n (.beginningAt name.index (.name name.name name.index)) before).bind
    fun first => ((tracks_chain n [] (before ++ first.expr.uses)).weaken
      (by simp [usesOfChain])).bind fun rest => .pure ?_
  rw [List.append_assoc]
  exact (uses_assemble first rest).append_left before

/-! ## Statements -/

/-- So does a local variable. -/
theorem tracks_declaration (n : Nat) (type : TypeExpr Nat) (loc : Nat) :
    Tracks before (declaration n type loc : Parser ρ _)
      fun decl => before ++ usesOfOptional decl.value := by
  refine (Tracks.expect .take).bind fun _ => .peek fun terminal => ?_
  split
  · exact TracksAt.take.bind fun _ => (tracks_expression n before).bind fun _ => .pure (.refl _)
  · exact .of (.pure (by simp [usesOfOptional]))

/-- The names and calls in a statement that declares a variable or evaluates an expression. -/
def Simple.uses : Simple → List (Expr Nat)
  | .decl inner => usesOfOptional inner.value
  | .expr inner => inner.expr.uses

/-- So does a local variable or an expression. -/
theorem tracks_simple (n : Nat) (before : List (Expr Nat)) :
    Tracks before (simple n : Parser ρ _) fun inner => before ++ inner.uses := by
  have hdecl : ∀ type loc, Tracks before
      (do return .decl (← declaration n type loc) : Parser ρ Simple)
      fun inner => before ++ inner.uses := fun type loc =>
    (tracks_declaration n type loc).bind fun _ => .pure (.refl _)
  have htyped : Tracks before (do
      let type ← type n
      return .decl (← declaration n type (typeLoc type)) : Parser ρ Simple)
      fun inner => before ++ inner.uses :=
    (yields_type n).tracks.bind fun _ => hdecl _ _
  refine .peek fun terminal => ?_
  split
  · refine TracksAt.takeName.bind fun name => .peek fun following => ?_
    -- The name has been put behind what was read. If a type begins with it, it is left out again.
    have hleft : before.Sublist (before ++ [.name name.name name.index]) :=
      List.sublist_append_left _ _
    split
    · exact .of ((hdecl _ _).weaken hleft)
    · exact TracksAt.take.bind fun _ => (hdecl _ _).weaken hleft
    · exact .of ((tracks_expressionFrom n name before).bind fun _ => .pure (.refl _))
  · exact .of htyped
  · exact .of htyped
  · exact .of htyped
  · exact .of ((tracks_expression n before).bind fun _ => .pure (.refl _))

/-- So does an expression that may be left out. -/
theorem tracks_optional (n : Nat) (stop : Terminal) (before : List (Expr Nat)) :
    Tracks before (optional n stop : Parser ρ _)
      fun value => before ++ usesOfOptional value := by
  refine .peek fun terminal => ?_
  split
  · exact .of (.pure (by simp [usesOfOptional]))
  · exact .of ((tracks_expression n before).bind fun _ => .pure (.refl _))

/-- So does the first part of a `for`. -/
theorem tracks_forInit (n : Nat) (before : List (Expr Nat)) :
    Tracks before (forInit n : Parser ρ _) fun init => before ++ init.uses := by
  refine .peek fun terminal => ?_
  split
  · exact .of (.pure (by simp [ForInit.uses]))
  · refine .of ((tracks_simple n before).bind fun inner => ?_)
    cases inner <;> exact .pure (.refl _)

/-- So does a condition. -/
theorem tracks_condition (n : Nat) (sought : List Terminal) (before : List (Expr Nat)) :
    Tracks before (condition n sought : Parser ρ _) fun expr => before ++ expr.uses :=
  (Tracks.expect .take).bind fun _ => (tracks_expression n before).bind fun _ =>
    (Tracks.expect .take).bind fun _ => .pure (.refl _)

mutual

/-- So does a block. -/
theorem tracks_block : (n : Nat) → (before : List (Expr Nat)) →
    Tracks before (block n : Parser ρ _) fun block => before ++ block.uses
  | 0, _ => .reject
  | n + 1, before => by
    rw [block]
    exact (Tracks.expect .take).bind fun _ =>
      ((tracks_statements n [] before).weaken (by simp [usesOfStmts])).bind fun _ =>
      .pure (.refl _)
termination_by structural n => n

/-- So do statements in a row, behind those found so far. -/
theorem tracks_statements : (n : Nat) → (found : List (Stmt Nat)) → (before : List (Expr Nat)) →
    Tracks (before ++ usesOfStmts found.reverse) (statements n found : Parser ρ _)
      fun stmts => before ++ usesOfStmts stmts
  | 0, _, _ => .reject
  | n + 1, found, before => by
    rw [statements]
    refine .peek fun terminal => ?_
    split
    · exact TracksAt.take.bind fun _ => .pure (.refl _)
    · refine .of ((tracks_statement n _).bind fun stmt => (tracks_statements n _ before).weaken ?_)
      simp [usesOfStmts_eq_flatMap]
termination_by structural n => n

/-- So does a statement. -/
theorem tracks_statement : (n : Nat) → (before : List (Expr Nat)) →
    Tracks before (statement n : Parser ρ _) fun stmt => before ++ stmt.uses
  | 0, _ => .reject
  | n + 1, before => by
    rw [statement]
    refine .peek fun terminal => ?_
    split
    · exact .of ((tracks_block n before).bind fun _ => .pure (.refl _))
    · exact TracksAt.take.bind fun _ => .pure (by simp [Stmt.uses])
    · exact TracksAt.take.bind fun _ => (tracks_optional n _ before).bind fun _ =>
        (Tracks.expect .take).bind fun _ => .pure (.refl _)
    · refine TracksAt.take.bind fun _ => (tracks_optional n _ before).bind fun value =>
        (Tracks.expect .take).bind fun _ => ?_
      cases value <;> exact .pure (.refl _)
    · -- There is at least one handler, and the others are found behind it.
      refine TracksAt.take.bind fun _ => (tracks_block n before).bind fun body =>
        (tracks_handler n _).bind fun first =>
        ((tracks_handlers n [first] (before ++ body.uses)).weaken ?_).bind fun _ => .pure ?_
      · simp [usesOfHandlers]
      · simp [Stmt.uses]
    · exact .of ((tracks_branch n before).bind fun _ => .pure (.refl _))
    · exact TracksAt.take.bind fun _ => (tracks_condition n _ before).bind fun _ =>
        (tracks_block n _).bind fun _ => .pure (by simp [Stmt.uses])
    · exact TracksAt.take.bind fun _ => (tracks_block n before).bind fun _ =>
        (Tracks.expect .take).bind fun _ => (tracks_condition n _ _).bind fun _ =>
        (Tracks.expect .take).bind fun _ => .pure (by simp [Stmt.uses])
    · exact TracksAt.take.bind fun _ => (Tracks.expect .take).bind fun _ =>
        (tracks_forInit n before).bind fun _ => (Tracks.expect .take).bind fun _ =>
        (tracks_optional n _ _).bind fun _ => (Tracks.expect .take).bind fun _ =>
        (tracks_optional n _ _).bind fun _ => (Tracks.expect .take).bind fun _ =>
        (tracks_block n _).bind fun _ => .pure (by simp [Stmt.uses])
    · exact TracksAt.take.bind fun _ => (Tracks.expect .take).bind fun _ =>
        .pure (by simp [Stmt.uses])
    · exact TracksAt.take.bind fun _ => (Tracks.expect .take).bind fun _ =>
        .pure (by simp [Stmt.uses])
    · refine .of ((tracks_simple n before).bind fun inner => (Tracks.expect .take).bind fun _ => ?_)
      cases inner <;> exact .pure (.refl _)
termination_by structural n => n

/-- So does a handler. -/
theorem tracks_handler : (n : Nat) → (before : List (Expr Nat)) →
    Tracks before (handler n : Parser ρ _) fun handler => before ++ handler.uses
  | 0, _ => .reject
  | n + 1, before => by
    rw [handler]
    exact (Tracks.expect .take).bind fun _ => (Tracks.expect .take).bind fun _ =>
      (sane_caught n).tracks.bind fun _ => (Tracks.expect .take).bind fun _ =>
      (tracks_block n before).bind fun _ => .pure (.refl _)
termination_by structural n => n

/-- So do handlers, behind those found so far. -/
theorem tracks_handlers : (n : Nat) → (found : List (Handler Nat)) → (before : List (Expr Nat)) →
    Tracks (before ++ usesOfHandlers found.reverse) (handlers n found : Parser ρ _)
      fun handlers => before ++ usesOfHandlers handlers
  | 0, _, _ => .reject
  | n + 1, found, before => by
    rw [handlers]
    refine .peek fun terminal => ?_
    split
    · refine .of ((tracks_handler n _).bind fun handler => (tracks_handlers n _ before).weaken ?_)
      simp [usesOfHandlers_eq_flatMap]
    · exact .of (.pure (.refl _))
termination_by structural n => n

/-- So does an `if`. -/
theorem tracks_branch : (n : Nat) → (before : List (Expr Nat)) →
    Tracks before (branch n : Parser ρ _) fun branch => before ++ branch.uses
  | 0, _ => .reject
  | n + 1, before => by
    rw [branch]
    exact (Tracks.expect .take).bind fun _ => (tracks_condition n _ before).bind fun _ =>
      (tracks_block n _).bind fun _ => (tracks_otherwise n _).bind fun _ =>
      .pure (by simp [Branch.uses])
termination_by structural n => n

/-- So does what follows the block of an `if`. -/
theorem tracks_otherwise : (n : Nat) → (before : List (Expr Nat)) →
    Tracks before (otherwise n : Parser ρ _) fun otherwise => before ++ otherwise.uses
  | 0, _ => .reject
  | n + 1, before => by
    rw [otherwise]
    refine .peek fun terminal => ?_
    split
    · refine TracksAt.take.bind fun _ => .peek fun following => ?_
      split
      · exact .of ((tracks_branch n before).bind fun _ => .pure (.refl _))
      · exact .of ((tracks_block n before).bind fun _ => .pure (.refl _))
    · exact .of (.pure (by simp [Otherwise.uses]))
termination_by structural n => n

end

/-! ## Declarations -/

/-- So does a function, with its own name first. -/
theorem tracks_function (n : Nat) (before : List (Expr Nat)) :
    Tracks before (function n : Parser ρ _) fun function => before ++ function.uses := by
  -- Of the names in front of the body only that of the function is kept.
  refine (yields_type n).tracks.bind fun _ => (Tracks.expect .takeName).bind fun name =>
    (Tracks.expect .take).bind fun _ => (yields_paramList n).tracks.bind fun _ =>
    (yields_allClauses n).tracks.bind fun _ => .peek fun terminal => ?_
  split
  · exact TracksAt.take.bind fun _ => .pure (.refl _)
  · exact .of ((tracks_block n _).bind fun _ => .pure (by simp [FunctionDef.uses]))

/-- So does a declaration. -/
theorem tracks_item (n : Nat) (before : List (Expr Nat)) :
    Tracks before (item n : Parser ρ _)
      fun item => before ++ (Program.ofItems [item]).uses := by
  refine .peek fun terminal => ?_
  split
  · exact TracksAt.take.bind fun _ => (Tracks.expect .take).bind fun _ =>
      (Tracks.expect .take).bind fun _ => .pure (by simp [Program.uses, Program.ofItems])
  · exact TracksAt.take.bind fun _ => (Tracks.expect .take).bind fun _ =>
      (Tracks.expect .take).bind fun _ => (yields_type n).tracks.bind fun _ =>
      (Tracks.expect .take).bind fun _ => .pure (by simp [Program.uses, Program.ofItems])
  · exact .of ((tracks_function n before).bind fun _ =>
      .pure (by simp [Program.uses, Program.ofItems]))

/-- So do declarations in a row, behind those found so far. -/
theorem tracks_items (n : Nat) (found : List (Item Nat)) :
    Tracks (Program.ofItems found.reverse).uses (items n found : Parser ρ _)
      fun items => (Program.ofItems items).uses := by
  induction n generalizing found with
  | zero => exact .reject
  | succ n ih =>
    refine .peek fun terminal => ?_
    split
    · exact .of (.pure (.refl _))
    · refine .of ((tracks_item n _).bind fun item => (ih _).weaken ?_)
      rw [List.reverse_cons, Program.uses_ofItems_append]

end Grammar

/-- Names and calls in the tree of a text are in their places. -/
theorem placed_of_parse {text : List Char} {items : List (Item Nat)} {tokens : Array Token}
    (h : parse text = .ok (items, tokens)) :
    ∃ index, Placed (tokens.toList.map Token.shape) index (Program.ofItems items).uses :=
  good_of_parse (fun items => ∃ index, Placed _ index (Program.ofItems items).uses) h fun _ =>
    Grammar.tracks_items _ [] _ _ _ _ 0 .nil fun _ index _ hplaced _ => ⟨index, hplaced⟩

end Throws.Surface
