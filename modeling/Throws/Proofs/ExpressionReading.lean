import Throws.Proofs.OperatorChains
import Throws.Proofs.TypeReading

/-!
# Reading printed expressions

A printed expression is read back, locations aside, where it is followed by a token that ends an
expression (`reads_expression`). The parser sees the row of operands and connectives that the
expression was taken apart into, and for each operand what is called and the lists of arguments; the
trees are put together again by `assemble_spine` and `Expr.foldl_callSpine`.

The only thing to be careful about is what stands behind a part: an opening parenthesis behind an
operand would be one more call, and a connective behind an expression one more operand.
-/

namespace Throws.Surface

variable {ι : Type} {stop : Terminal}

/-- The expression of an operand without its places. -/
def Operand.unlocated (operand : Operand ι) : Expr Unit := operand.expr.mapLoc fun _ => ()

/-! ## What is printed first -/

/-- An operand has a sign in front, or it is what is called with its calls behind it. -/
theorem Expr.operand_cases (expr : Expr ι) :
    (∃ op inner loc, expr = .unary op inner loc) ∨
      expr.shapesAt Connective.levels = expr.callSpine.1.shapesAt (Connective.levels + 1) ++
        expr.callSpine.2.flatMap argumentShapes := by
  rw [← Expr.shapesAt_callSpine]
  have hparens : expr.level < Connective.levels →
      expr.shapesAt Connective.levels = expr.shapesAt (Connective.levels + 1) := fun hlt => by
    rw [Expr.shapesAt_of_lt hlt, Expr.shapesAt_of_lt (Nat.lt_succ_of_lt hlt)]
  cases expr with
  | unary op inner loc => exact .inl ⟨op, inner, loc, rfl⟩
  | literal | name | call => exact .inr rfl
  | binary op => exact .inr (hparens (Connective.level_lt (.operator op)))
  | assign => exact .inr (hparens (Connective.level_lt .assign))

/-- What is called is a literal, a name, or stands in parentheses. -/
theorem Expr.callee_cases (expr : Expr ι) :
    (∃ value loc, expr.callSpine.1 = .literal value loc ∧
      expr.callSpine.1.shapesAt (Connective.levels + 1) = [literalShape value]) ∨
    (∃ ident loc, expr.callSpine.1 = .name ident loc ∧
      expr.callSpine.1.shapesAt (Connective.levels + 1) = [nameShape ident]) ∨
    expr.callSpine.1.shapesAt (Connective.levels + 1) = inParens expr.callSpine.1.shapes := by
  rcases expr.callSpine_cases with ⟨value, loc, heq⟩ | ⟨ident, loc, heq⟩ | hlt
  · exact .inl ⟨value, loc, heq, by rw [heq]; rfl⟩
  · exact .inr (.inl ⟨ident, loc, heq, by rw [heq]; rfl⟩)
  · exact .inr (.inr (Expr.shapesAt_of_lt hlt))

theorem literalShape_mem (value : Literal) :
    (literalShape value).1 ∈ Follow.operand.erase .name := by
  cases value with
  | int value => exact (by decide : Terminal.int ∈ Follow.operand.erase .name)
  | text points => exact (by decide : Terminal.string ∈ Follow.operand.erase .name)
  | bool value => cases value <;> decide

theorem unaryShape_mem (op : UnaryOp) : op.shape.1 ∈ Follow.operand.erase .name := by
  cases op <;> decide

/-- An operand begins with a name only if this name is what is called. -/
theorem Expr.leading_cases (expr : Expr ι) :
    (∃ ident loc, expr.callSpine.1 = .name ident loc ∧ expr.shapesAt Connective.levels =
      nameShape ident :: expr.callSpine.2.flatMap argumentShapes) ∨
    ∀ stop, ahead (expr.shapesAt Connective.levels) stop ∈ Follow.operand.erase .name := by
  rcases expr.operand_cases with ⟨op, inner, loc, rfl⟩ | hshapes
  · exact .inr fun _ => unaryShape_mem op
  · rw [hshapes]
    rcases expr.callee_cases with ⟨value, loc, _, hcallee⟩ | ⟨ident, loc, heq, hcallee⟩ | hcallee
    · rw [hcallee]
      exact .inr fun _ => literalShape_mem value
    · exact .inl ⟨ident, loc, heq, by rw [hcallee, List.singleton_append]⟩
    · rw [hcallee]
      exact .inr fun _ => (by decide : Terminal.lpar ∈ Follow.operand.erase .name)

theorem ahead_operand (expr : Expr ι) :
    ahead (expr.shapesAt Connective.levels) stop ∈ Follow.operand := by
  rcases expr.leading_cases with ⟨ident, loc, _, hshapes⟩ | hfirst
  · rw [hshapes]
    exact (by decide : Terminal.name ∈ Follow.operand)
  · exact List.mem_of_mem_erase (hfirst stop)

/-- An expression begins with a token that can begin an operand. -/
theorem ahead_expr (expr : Expr ι) : ahead expr.shapes stop ∈ Follow.operand := by
  rw [Expr.shapes_eq_spine, ahead_append]
  exact ahead_operand _

theorem ahead_expr_append (expr : Expr ι) (rest : List Shape) :
    ahead (expr.shapes ++ rest) stop ∈ Follow.operand := by
  rw [ahead_append]
  exact ahead_expr expr

theorem length_expr_pos (expr : Expr ι) : 1 ≤ expr.shapes.length :=
  length_pos_of_ahead_ne (ne_of_mem_of_not_mem (ahead_expr expr) (by decide))

namespace Grammar

open Throws.Surface.Parser

variable {ρ : Type}

/-- What ends an expression. -/
def afterExpression : List Terminal := [.comma, .rpar, .semicolon]

/-- Behind an operand: not another call. -/
def afterCalls : List Terminal := afterExpression ++ Follow.operator.erase .lpar

theorem afterCalls_subset : ∀ terminal ∈ afterCalls, terminal ∈ Follow.afterOperand := by decide

theorem commaOrClose_subset_afterExpression :
    ∀ terminal ∈ Follow.commaOrClose, terminal ∈ afterExpression := by decide

theorem ofToken?_shape (connective : Connective) :
    Connective.ofToken? connective.shape.1 connective.shape.2 = some connective := by
  cases connective with
  | assign => rfl
  | operator op => cases op <;> rfl

theorem begins_shape (connective : Connective) :
    Connective.begins connective.shape.1 = true := by
  cases connective with
  | assign => rfl
  | operator op => cases op <;> rfl

theorem connectiveShape_mem (connective : Connective) :
    connective.shape.1 ∈ Follow.operator.erase .lpar := by
  cases connective with
  | assign => decide
  | operator op => cases op <;> decide

theorem ahead_links (links : List (Connective × Expr ι)) (hstop : stop ∈ afterExpression) :
    ahead (links.flatMap linkShapes) stop ∈ afterCalls := by
  cases links with
  | nil => exact List.mem_append_left _ hstop
  | cons link links => exact List.mem_append_right _ (connectiveShape_mem link.1)

theorem ahead_arguments (lists : List (List (Expr ι))) (hstop : stop ∈ afterCalls) :
    ahead (lists.flatMap argumentShapes) stop ∈ Follow.afterOperand := by
  cases lists with
  | nil => exact afterCalls_subset stop hstop
  | cons args lists => exact (by decide : Terminal.lpar ∈ Follow.afterOperand)

/-- A literal with what follows it. -/
theorem reads_literal {n : Nat} {value : Literal} {rest : List Shape} {good : Operand Nat → Prop}
    (h : IsWritable value) (hfirst : ahead rest stop ∈ Follow.afterOperand)
    (hcalls : ∀ index, Reads (calls n (.beginningAt index (.literal value index)) : Parser ρ _)
      rest stop good) :
    Reads (operand (n + 1) : Parser ρ _) (literalShape value :: rest) stop good := by
  have htake := List.mem_cons_of_mem Terminal.endOfText hfirst
  have hprinted := isPrinted_literal h
  cases h with
  | @int value hlength =>
    refine .peek .int rfl (.take hprinted htake fun token htoken => ?_)
    rw [htoken, literalShape, Int.toNat_natCast, evalInt_toDigits hlength]
    exact hcalls token.index
  | @text points hpoints =>
    refine .peek .string rfl (.take hprinted htake fun token htoken => ?_)
    rw [htoken, literalShape, evalString_quoted hpoints]
    exact hcalls token.index
  | bool value =>
    cases value with
    | true => exact .peek .kwTrue rfl (.take hprinted htake fun token _ => hcalls token.index)
    | false => exact .peek .kwFalse rfl (.take hprinted htake fun token _ => hcalls token.index)

/-- An operand with a sign in front. -/
theorem reads_signed {n : Nat} {op : UnaryOp} {shapes : List Shape}
    {good good' : Operand Nat → Prop} (hfirst : ahead shapes stop ∈ Follow.operand)
    (hread : Reads (operand n : Parser ρ _) shapes stop good)
    (hgood : ∀ index result, good result → good' (result.signed index op)) :
    Reads (operand (n + 1) : Parser ρ _) (op.shape :: shapes) stop good' := by
  have htake := List.mem_cons_of_mem Terminal.endOfText hfirst
  have hprinted := isPrinted_unary op
  cases op with
  | minus => exact .peek .minus rfl (.take hprinted htake fun _ _ => hread.map (hgood _))
  | bang => exact .peek .bang rfl (.take hprinted htake fun _ _ => hread.map (hgood _))
  | tilde => exact .peek .tilde rfl (.take hprinted htake fun _ _ => hread.map (hgood _))

mutual

/-- An expression is read back. -/
theorem reads_expression : (n : Nat) → {stop : Terminal} → {expr : Expr Unit} →
    (h : expr.Expressible) → (hn : 4 * expr.shapes.length + 2 ≤ n) →
    (hstop : stop ∈ afterExpression) →
    Reads (expression n : Parser ρ _) expr.shapes stop fun result => result.unlocated = expr
  | 0, _, _, _, hn, _ => absurd hn (by omega)
  | n + 1, stop, expr, h, hn, hstop => by
    obtain ⟨hfirst, hlinks⟩ := h.spine
    rw [Expr.shapes_eq_spine, List.length_append] at hn
    rw [Expr.shapes_eq_spine]
    refine .bind (reads_operand n hfirst (by omega) (ahead_links _ hstop)) fun first hread => ?_
    refine .map (reads_chain n hlinks (by omega) hstop) fun links hreads => ?_
    exact assemble_spine hread hreads
termination_by structural n => n

/-- Connectives with operands behind them are read back. -/
theorem reads_chain : (n : Nat) → {stop : Terminal} → {found : Chain Nat} →
    {links : List (Connective × Expr Unit)} → (h : ∀ link ∈ links, link.2.Expressible) →
    (hn : 4 * (links.flatMap linkShapes).length + 1 ≤ n) → (hstop : stop ∈ afterExpression) →
    Reads (chain n found : Parser ρ _) (links.flatMap linkShapes) stop fun result =>
      result.map (fun link => (link.1, link.2.unlocated)) =
        found.reverse.map (fun link => (link.1, link.2.unlocated)) ++ links
  | 0, _, _, _, _, hn, _ => absurd hn (by omega)
  | n + 1, stop, found, [], h, hn, hstop => by
    -- A connective from outside would take the chain further.
    have hends : ∀ terminal ∈ afterExpression, ¬ Connective.begins terminal = true := by decide
    refine .peek stop rfl ?_
    rw [if_neg (hends stop hstop)]
    exact .pure (List.append_nil _).symm
  | n + 1, stop, found, (connective, expr) :: links, h, hn, hstop => by
    obtain ⟨hexpr, hlinks⟩ := List.forall_mem_cons.mp h
    rw [List.flatMap_cons, List.length_append, linkShapes, List.length_cons] at hn
    rw [List.flatMap_cons, linkShapes, List.cons_append]
    refine .peek connective.shape.1 rfl ?_
    rw [if_pos (begins_shape connective)]
    have hfirst : ahead (expr.shapesAt Connective.levels ++ links.flatMap linkShapes) stop ∈
        Follow.operand := by
      rw [ahead_append]
      exact ahead_operand expr
    refine .take (isPrinted_connective connective) (List.mem_cons_of_mem _ hfirst)
      fun sign hsign => ?_
    refine .bind (reads_operand n hexpr (by omega) (ahead_links _ hstop)) fun right hright => ?_
    refine (reads_chain n hlinks (by omega) hstop).mono fun result hresult => ?_
    rw [hresult, hsign, ofToken?_shape, List.reverse_cons, List.map_append, List.map_singleton,
      hright, List.append_assoc]
    rfl
termination_by structural n => n

/-- An operand is read back. -/
theorem reads_operand : (n : Nat) → {stop : Terminal} → {expr : Expr Unit} →
    (h : expr.Expressible) → (hn : 4 * (expr.shapesAt Connective.levels).length + 1 ≤ n) →
    (hstop : stop ∈ afterCalls) →
    Reads (operand n : Parser ρ _) (expr.shapesAt Connective.levels) stop
      fun result => result.unlocated = expr
  | 0, _, _, _, hn, _ => absurd hn (by omega)
  | n + 1, stop, expr, h, hn, hstop => by
    rcases expr.operand_cases with ⟨op, inner, loc, rfl⟩ | hshapes
    · cases h with
      | unary hinner =>
        change 4 * ((inner.shapesAt Connective.levels).length + 1) + 1 ≤ n + 1 at hn
        exact reads_signed (ahead_operand inner) (reads_operand n hinner (by omega) hstop)
          fun index result hresult => congrArg (Expr.unary op · ()) hresult
    · obtain ⟨hcallee, hlists⟩ := h.callSpine
      rw [hshapes, List.length_append] at hn
      rw [hshapes]
      have hbehind := ahead_arguments expr.callSpine.2 hstop
      -- Whatever is called, what is made of its calls is the expression.
      have hcalls : 4 * (expr.callSpine.2.flatMap argumentShapes).length + 1 ≤ n →
          ∀ function : Operand Nat, function.unlocated = expr.callSpine.1 →
          Reads (calls n function : Parser ρ _) (expr.callSpine.2.flatMap argumentShapes) stop
            fun result => result.unlocated = expr := fun hbound function hfunction =>
        (reads_calls n hlists hbound hstop).mono fun result hresult => by
          rw [hresult, hfunction, Expr.foldl_callSpine]
      rcases expr.callee_cases with ⟨value, loc, heq, hshape⟩ | ⟨ident, loc, heq, hshape⟩ | hshape
      · rw [hshape, List.length_singleton] at hn
        rw [hshape]
        rw [heq] at hcallee
        cases hcallee with
        | literal hvalue =>
          exact reads_literal hvalue hbehind fun index => hcalls (by omega) _ heq.symm
      · rw [hshape, List.length_singleton] at hn
        rw [hshape]
        rw [heq] at hcallee
        cases hcallee with
        | name hident =>
          refine .peek .name rfl (.take (.name hident) (List.mem_cons_of_mem _ hbehind) ?_)
          intro token htoken
          rw [name_of_text htoken]
          exact hcalls (by omega) _ heq.symm
      · rw [hshape, inParens, List.length_cons, List.length_append, List.length_singleton] at hn
        rw [hshape, inParens, List.cons_append, List.append_assoc, List.singleton_append]
        refine .peek .lpar rfl (.take (isPrinted_shape rfl)
          (List.mem_cons_of_mem _ (ahead_expr_append _ _)) fun token _ => ?_)
        refine .bind (reads_expression n hcallee (by omega)
          (by decide : Terminal.rpar ∈ afterExpression)) fun inner hinner => ?_
        refine .expect (isPrinted_shape rfl) rfl (List.mem_cons_of_mem _ hbehind) fun _ _ => ?_
        exact hcalls (by omega) _ hinner
termination_by structural n => n

/-- The calls behind an operand are read back. -/
theorem reads_calls : (n : Nat) → {stop : Terminal} → {function : Operand Nat} →
    {lists : List (List (Expr Unit))} → (h : ∀ args ∈ lists, ∀ arg ∈ args, arg.Expressible) →
    (hn : 4 * (lists.flatMap argumentShapes).length + 1 ≤ n) → (hstop : stop ∈ afterCalls) →
    Reads (calls n function : Parser ρ _) (lists.flatMap argumentShapes) stop fun result =>
      result.unlocated =
        lists.foldl (fun function args => .call function args ()) function.unlocated
  | 0, _, _, _, _, hn, _ => absurd hn (by omega)
  | n + 1, stop, function, [], h, hn, hstop =>
    -- An opening parenthesis from outside would be one more call.
    .peek_ne (ne_of_mem_of_not_mem hstop (by decide)) (.pure rfl)
  | n + 1, stop, function, args :: lists, h, hn, hstop => by
    obtain ⟨hargs, hlists⟩ := List.forall_mem_cons.mp h
    rw [List.flatMap_cons, List.length_append, argumentShapes, List.length_cons] at hn
    rw [List.flatMap_cons, argumentShapes, List.cons_append]
    have hopen : ahead (listShapes (shapesOfExprs args) ++ lists.flatMap argumentShapes) stop ∈
        Follow.operandOrClose := by
      cases args with
      | nil => exact List.mem_cons_self
      | cons arg args =>
        rw [shapesOfExprs, listShapes, List.append_assoc]
        exact List.mem_cons_of_mem _ (ahead_expr_append arg _)
    refine .peek_eq rfl (.take (isPrinted_shape rfl) (List.mem_cons_of_mem _ hopen) fun _ _ => ?_)
    refine .bind (reads_argumentList n hargs (by omega) (ahead_arguments lists hstop))
      fun result hresult => ?_
    refine (reads_calls n hlists (by omega) hstop).mono fun called hcalled => ?_
    rw [hcalled, List.foldl_cons, ← hresult]
    rfl
termination_by structural n => n

/-- Arguments are read back up to their parenthesis. -/
theorem reads_argumentList : (n : Nat) → {stop : Terminal} → {args : List (Expr Unit)} →
    (h : ∀ arg ∈ args, arg.Expressible) →
    (hn : 4 * (listShapes (shapesOfExprs args)).length + 1 ≤ n) →
    (hstop : stop ∈ Follow.afterOperand) →
    Reads (argumentList n : Parser ρ _) (listShapes (shapesOfExprs args)) stop
      fun result => mapLocExprs (fun _ => ()) result = args
  | 0, _, _, _, hn, _ => absurd hn (by omega)
  | n + 1, stop, [], h, hn, hstop =>
    .peek .rpar rfl (.take (isPrinted_shape rfl) (List.mem_cons_of_mem _ hstop)
      fun _ _ => .pure rfl)
  | n + 1, stop, arg :: args, h, hn, hstop => by
    obtain ⟨harg, hargs⟩ := List.forall_mem_cons.mp h
    have hpos := length_expr_pos arg
    have htail := length_listTail (shapesOfExprs args)
    rw [shapesOfExprs, listShapes, List.length_append] at hn
    have hmore : Reads (do moreArguments n [(← expression n).expr] : Parser ρ _)
        (listShapes (shapesOfExprs (arg :: args))) stop
        fun result => mapLocExprs (fun _ => ()) result = arg :: args := by
      refine .bind (reads_expression n harg (by omega)
        (commaOrClose_subset_afterExpression _ (ahead_listTail _))) fun result hresult => ?_
      refine (reads_moreArguments n hargs (by omega) hstop).mono fun results hresults => ?_
      rw [hresults, ← hresult]
      rfl
    -- No argument begins with the parenthesis that ends the list.
    refine .peek_mem (ahead_expr_append arg _) fun terminal hterminal => ?_
    fin_cases hterminal <;> exact hmore
termination_by structural n => n

/-- The arguments behind the first one are read back. -/
theorem reads_moreArguments : (n : Nat) → {stop : Terminal} → {found : List (Expr Nat)} →
    {args : List (Expr Unit)} → (h : ∀ arg ∈ args, arg.Expressible) →
    (hn : 4 * (listTail (shapesOfExprs args)).length + 1 ≤ n) →
    (hstop : stop ∈ Follow.afterOperand) →
    Reads (moreArguments n found : Parser ρ _) (listTail (shapesOfExprs args)) stop
      fun result => mapLocExprs (fun _ => ()) result =
        mapLocExprs (fun _ => ()) found.reverse ++ args
  | 0, _, _, _, _, hn, _ => absurd hn (by omega)
  | n + 1, stop, found, [], h, hn, hstop =>
    .peek .rpar rfl (.expect (isPrinted_shape rfl) rfl (List.mem_cons_of_mem _ hstop)
      fun _ _ => .pure (List.append_nil _).symm)
  | n + 1, stop, found, arg :: args, h, hn, hstop => by
    obtain ⟨harg, hargs⟩ := List.forall_mem_cons.mp h
    rw [shapesOfExprs, listTail, List.length_cons, List.length_append] at hn
    refine .peek .comma rfl (.take (isPrinted_shape rfl)
      (List.mem_cons_of_mem _ (ahead_expr_append arg _)) fun _ _ => ?_)
    refine .bind (reads_expression n harg (by omega)
      (commaOrClose_subset_afterExpression _ (ahead_listTail _))) fun result hresult => ?_
    refine (reads_moreArguments n hargs (by omega) hstop).mono fun results hresults => ?_
    rw [hresults, ← hresult, List.reverse_cons, mapLocExprs_eq_map, mapLocExprs_eq_map,
      List.map_append, List.append_assoc]
    rfl
termination_by structural n => n

end

/-- What stands behind a name that begins an expression statement. -/
theorem ahead_behindName (lists : List (List (Expr ι))) (links : List (Connective × Expr ι)) :
    ahead (lists.flatMap argumentShapes ++ links.flatMap linkShapes) .semicolon ∈
      .semicolon :: Follow.operator := by
  cases lists with
  | cons args lists => exact List.mem_cons_of_mem _ List.mem_cons_self
  | nil =>
    cases links with
    | nil => exact List.mem_cons_self
    | cons link links =>
      exact List.mem_cons_of_mem _ (List.mem_of_mem_erase (connectiveShape_mem link.1))

/-- An expression is read back when the name that it begins with has been taken. -/
theorem reads_expressionFrom {n : Nat} {expr : Expr Unit} {token : Lexeme} {ident : String}
    {loc : Unit} (h : expr.Expressible) (hcallee : expr.spine.1.callSpine.1 = .name ident loc)
    (htoken : token.text = (nameShape ident).2)
    (hn : 4 * (expr.spine.1.callSpine.2.flatMap argumentShapes ++
      expr.spine.2.flatMap linkShapes).length + 1 ≤ n) (hstop : stop ∈ afterExpression) :
    Reads (expressionFrom n token : Parser ρ _)
      (expr.spine.1.callSpine.2.flatMap argumentShapes ++ expr.spine.2.flatMap linkShapes) stop
      fun result => result.unlocated = expr := by
  obtain ⟨hfirst, hlinks⟩ := h.spine
  rw [List.length_append] at hn
  refine .bind (reads_calls n hfirst.callSpine.2 (by omega) (ahead_links _ hstop))
    fun first hread => ?_
  refine .map (reads_chain n hlinks (by omega) hstop) fun links hreads => ?_
  refine assemble_spine ?_ hreads
  rw [name_of_text htoken] at hread
  rw [← expr.spine.1.foldl_callSpine, hcallee]
  exact hread

end Grammar

end Throws.Surface
