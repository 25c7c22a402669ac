import Throws.Proofs.AliasUnfolding
import Throws.Proofs.Likeness
import Throws.Proofs.PlaceAgreement

/-!
# Aliases are transparent

Another name for a type is a matter of spelling. In a program for which nothing is reported, any
alias in the signatures and bodies of its functions may be replaced by what it stands for, and the
program is resolved to the same functions with the same bodies (`aliases_transparent`). Only the
spans differ, since the text that is put in stands in other places.

The two programs are resolved side by side. Their types are resolved to the same, so they have the
same functions to call, and from there on bodies differ in nothing but locations and spelled types.
Scopes hold resolved types, so they are equal on both sides.
-/

namespace Throws.Body

/-! ## Without spans -/

mutual

/-- The fragment without its spans. -/
def Node.unplaced : Node → Node
  | .absent => .absent
  | .misplaced what _ => .misplaced what {}
  | .depths => .depths
  | .literal value _ => .literal value {}
  | .variable name _ => .variable name {}
  | .call callee args spelling _ => .call callee (unplacedNodes args) spelling {}
  | .indirectCall callee contract args _ =>
    .indirectCall callee.unplaced contract (unplacedNodes args) {}
  | .construct type args _ => .construct type (unplacedNodes args) {}
  | .unary op operand _ => .unary op operand.unplaced {}
  | .binary op left right _ => .binary op left.unplaced right.unplaced {}
  | .block statements _ => .block (unplacedNodes statements) {}
  | .eval expr _ => .eval expr.unplaced {}
  | .bind name value _ => .bind name value.unplaced {}
  | .ret value _ => .ret value.unplaced {}
  | .throw value type _ => .throw value.unplaced type {}
  | .rethrow _ => .rethrow {}
  | .branch condition whenTrue whenFalse _ =>
    .branch condition.unplaced whenTrue.unplaced whenFalse.unplaced {}
  | .loop body condition init step _ =>
    .loop body.unplaced condition.unplaced init.unplaced step.unplaced {}
  | .leave _ => .leave {}
  | .next _ => .next {}
  | .guarded body clauses _ => .guarded body.unplaced (unplacedClauses clauses) {}

/-- Several fragments without their spans. -/
def unplacedNodes : List Node → List Node
  | [] => []
  | node :: rest => node.unplaced :: unplacedNodes rest

/-- The handler without its spans. -/
def Clause.unplaced : Clause → Clause
  | .mk type binder block _ => .mk type binder block.unplaced {}

/-- Several handlers without their spans. -/
def unplacedClauses : List Clause → List Clause
  | [] => []
  | clause :: rest => clause.unplaced :: unplacedClauses rest

end

/-- Fragments in a row are freed of their spans one by one. -/
theorem unplacedNodes_eq_map (nodes : List Node) :
    unplacedNodes nodes = nodes.map Node.unplaced :=
  Surface.eq_map_of_cons rfl (fun _ _ => rfl) nodes

/-- Handlers are freed of their spans one by one. -/
theorem unplacedClauses_eq_map (clauses : List Clause) :
    unplacedClauses clauses = clauses.map Clause.unplaced :=
  Surface.eq_map_of_cons rfl (fun _ _ => rfl) clauses

/-- The function without its spans. -/
def Function.unplaced (function : Function) : Function where
  key := function.key
  specifier := function.specifier.unplaced
  body := function.body.map Node.unplaced

/-- The unit without its spans. -/
def SourceUnit.unplaced (unit : SourceUnit) : SourceUnit where
  name := unit.name
  functions := unit.functions.map Function.unplaced

/-- Fragments that differ in nothing but spans. -/
abbrev Node.Same (node node' : Node) : Prop := node.unplaced = node'.unplaced

/-- Fragments in rows that differ in nothing but spans. -/
abbrev SameNodes (nodes nodes' : List Node) : Prop := unplacedNodes nodes = unplacedNodes nodes'

/-- What is taken from related items is the same in a row. -/
theorem map_eq_map_of_forall₂ {α β : Type} {f : α → β} {as as' : List α}
    (h : List.Forall₂ (fun a a' => f a = f a') as as') : as.map f = as'.map f := by
  rw [← List.forall₂_eq_eq_eq, List.forall₂_map_left_iff, List.forall₂_map_right_iff]
  exact h

/-- Fragments that differ in nothing but spans do so in a row. -/
theorem SameNodes.of_forall₂ {nodes nodes' : List Node} (h : List.Forall₂ Node.Same nodes nodes') :
    SameNodes nodes nodes' := by
  rw [SameNodes, unplacedNodes_eq_map, unplacedNodes_eq_map]
  exact map_eq_map_of_forall₂ h

/-- There are as many of them. -/
theorem SameNodes.length_eq {nodes nodes' : List Node} (h : SameNodes nodes nodes') :
    nodes.length = nodes'.length := by
  rw [SameNodes, unplacedNodes_eq_map, unplacedNodes_eq_map] at h
  simpa using congrArg List.length h

end Throws.Body

namespace Throws.Resolution

open Throws.Body Throws.Surface Logged

/-! ## Expressions -/

/-- Places in two programs that know the same, where nothing is reported. -/
structure Place.Unfolds (place place' : Place) : Prop where
  /-- Related types are resolved to the same. -/
  resolve : ∀ {type type'}, TypeUnfolds place.globals.types type type' →
    Transfers Eq (place.resolve type) (place'.resolve type')
  /-- The same names denote exceptions. -/
  exception : ∀ name, Transfers Eq (place.globals.types.exception? name)
    (place'.globals.types.exception? name)
  /-- Calls have the same targets. -/
  call?_eq : place.globals.call? = place'.globals.call?

section Expressions

variable {place place' : Place} (hplace : place.Unfolds place') {scope : Scope}

include hplace

/-- Calls of functions have the same types. -/
theorem transfers_globalCallType (name : String) (arity : Nat) :
    Transfers Eq (globalCallType place name arity) (globalCallType place' name arity) := by
  rw [globalCallType, globalCallType, hplace.call?_eq]
  refine (hplace.exception name).bind ?_
  rintro found _ rfl
  exact .refl _

/-- Expressions that are alike have the same type. -/
theorem transfers_staticType : (expr : Expr Pos) → {expr' : Expr Pos} → expr.Like expr' →
    Transfers Eq (staticType place scope expr) (staticType place' scope expr')
  | .literal _ _, _, h => by
    cases h
    exact .refl _
  | .name _ _, _, h => by
    cases h
    exact .refl _
  | .call function args _, _, h => by
    cases h with
    | call hfunction hargs =>
      cases hfunction with
      | name =>
        rw [staticType, staticType, hargs.length_eq]
        refine .below ?_
        split
        · exact .refl _
        · exact transfers_globalCallType hplace _ _
      | _ => exact .refl _
  | .unary op operand _, _, h => by
    cases h with
    | unary hoperand =>
      have hrest := transfers_staticType operand hoperand
      cases op with
      | bang => exact .refl _
      | _ => exact .below hrest
  | .binary op left _ _, _, h => by
    cases h with
    | binary hleft _ =>
      have hrest := transfers_staticType left hleft
      rw [staticType, staticType]
      refine .below ?_
      split
      · exact .refl _
      · exact hrest
  | .assign target _ _, _, h => by
    cases h with
    | assign htarget _ => exact .below (transfers_staticType target htarget)
termination_by structural expr => expr

/-- Calls by name mean the same. -/
theorem transfers_lowerNamedCall (name : String) {args args' : List Node}
    (hargs : SameNodes args args') (span span' : Span) :
    Transfers Node.Same (lowerNamedCall place scope name args span)
      (lowerNamedCall place' scope name args' span') := by
  unfold lowerNamedCall
  split
  · exact .pure (by simp only [Node.Same, Node.unplaced, hargs])
  · exact .pure (by simp only [Node.Same, Node.unplaced, hargs])
  · refine (hplace.exception name).bind ?_
    rintro found _ rfl
    cases found with
    | some type => exact .pure (by simp only [Node.Same, Node.unplaced, hargs])
    | none =>
      refine .pure ?_
      simp only [Node.Same, Node.unplaced, hplace.call?_eq, hargs.length_eq, hargs]

/-- Expressions that are alike are resolved to the same, up to spans. -/
theorem transfers_lowerExpr (scope : Scope) (expr : Expr Pos) {expr' : Expr Pos}
    (h : expr.Like expr') :
    Transfers Node.Same (lowerExpr place scope expr) (lowerExpr place' scope expr') := by
  induction expr using Expr.induction generalizing expr' with
  | literal value loc =>
    cases h
    exact .below (.pure rfl)
  | name ident loc =>
    cases h
    exact .below (.pure rfl)
  | unary op operand loc ih =>
    cases h with
    | unary hoperand =>
      refine .below ((ih hoperand).bind fun _ _ hoperand => .pure ?_)
      simp only [Node.Same, Node.unplaced, hoperand]
  | binary op left right loc ihLeft ihRight =>
    cases h with
    | binary hleft hright =>
      refine .below ((ihLeft hleft).bind fun _ _ hleft => (ihRight hright).bind fun _ _ hright =>
        .pure ?_)
      simp only [Node.Same, Node.unplaced, hleft, hright]
  | assign target value loc ihTarget ihValue =>
    cases h with
    | assign htarget hvalue =>
      refine .below ((ihTarget htarget).bind fun _ _ htarget => (ihValue hvalue).bind
        fun _ _ hvalue => .pure ?_)
      simp only [Node.Same, Node.unplaced, htarget, hvalue]
  | call function args loc ihFunction ihArgs =>
    cases h with
    | @call _ function' _ args' _ _ hfunction hargs =>
      have hnodes := Transfers.each_of_alike (fun arg hmem _ hlike => ihArgs arg hmem hlike) hargs
      rw [← lowerExprs_eq_each, ← lowerExprs_eq_each] at hnodes
      -- What is called by name is looked up, anything else has its own static type.
      rcases exists_name_or_computed function with ⟨ident, loc, rfl⟩ | hcomputed
      · cases hfunction
        exact .below (hnodes.below.bind fun _ _ hnodes =>
          transfers_lowerNamedCall hplace ident (.of_forall₂ hnodes) _ _)
      · have hcomputed' : ∀ ident loc, function' ≠ .name ident loc := by
          rintro ident loc rfl
          cases hfunction
          exact hcomputed _ _ rfl
        rw [lowerExpr_computed _ _ hcomputed, lowerExpr_computed _ _ hcomputed']
        refine .below (hnodes.below.bind fun _ _ hnodes => .bind
          (transfers_staticType hplace function hfunction) ?_)
        rintro type _ rfl
        refine (ihFunction hfunction).bind fun _ _ hcallee => .pure ?_
        have hnodes := SameNodes.of_forall₂ hnodes
        unfold computedCall
        split <;> simp only [Node.Same, Node.unplaced, unplacedNodes, hcallee, hnodes]

end Expressions

/-! ## Statements -/

/-- Statements that differ in nothing but spans, with the same scope behind them. -/
def Lowered.Same (lowered lowered' : Lowered) : Prop :=
  lowered.node.map Node.unplaced = lowered'.node.map Node.unplaced ∧ lowered.scope = lowered'.scope

/-- Nothing else is left of a statement that binds nothing. -/
theorem Lowered.same_of_node {node node' : Node} (h : node.Same node') (scope : Scope) :
    Lowered.Same ⟨some node, scope⟩ ⟨some node', scope⟩ :=
  ⟨congrArg some h, rfl⟩

section Parts

variable {place place' : Place} (hplace : place.Unfolds place') (scope : Scope)

include hplace

/-- The same for expressions that may be left out. -/
theorem transfers_lowerOptional {expr expr' : Option (Expr Pos)}
    (h : Option.Rel Expr.Like expr expr') :
    Transfers Node.Same (lowerOptional place scope expr) (lowerOptional place' scope expr') := by
  cases h with
  | none => exact .pure rfl
  | some hexpr => exact transfers_lowerExpr hplace scope _ hexpr

/-- Local variables that are alike are resolved to the same. -/
theorem transfers_lowerDecl {decl decl' : LocalDecl Pos}
    (h : decl.Like (TypeUnfolds place.globals.types) decl') :
    Transfers Lowered.Same (lowerDecl place scope decl) (lowerDecl place' scope decl') := by
  refine (transfers_lowerOptional hplace scope h.value).bind fun _ _ hvalue =>
    (hplace.resolve h.type).bind ?_
  rintro type _ rfl
  refine .pure ⟨?_, ?_⟩
  · simp only [Option.map_some, Node.unplaced, h.name_eq, hvalue]
  · simp only [h.name_eq]

/-- So are first parts of a `for`. -/
theorem transfers_lowerInit {init init' : ForInit Pos}
    (h : init.Like (TypeUnfolds place.globals.types) init') :
    Transfers Lowered.Same (lowerInit place scope init) (lowerInit place' scope init') := by
  cases h with
  | none => exact .pure ⟨rfl, rfl⟩
  | expr hvalue =>
    refine .below ((transfers_lowerExpr hplace scope _ hvalue).bind fun _ _ hvalue =>
      .pure (Lowered.same_of_node ?_ scope))
    simp only [Node.Same, Node.unplaced, hvalue]
  | decl hdecl => exact .below (transfers_lowerDecl hplace scope hdecl)

omit scope in
/-- Handlers that are alike catch the same. -/
theorem transfers_lowerCaught (loc loc' : Pos) {type type' : Option (TypeExpr Pos)}
    (h : Option.Rel (TypeUnfolds place.globals.types) type type') :
    Transfers Eq (lowerCaught place loc type) (lowerCaught place' loc' type') := by
  cases h with
  | none => exact .refl _
  | some htype =>
    refine (hplace.resolve htype).bind ?_
    rintro resolved _ rfl
    cases resolved with
    | value type => exact .refl _
    | function params contract => exact .report

end Parts

/-- Statements that are alike, or pieces of them, are resolved to the same, up to spans. -/
def unfoldsTo (place place' : Place) : Motive Pos where
  stmt stmt := ∀ stmt' scope, stmt.Like (TypeUnfolds place.globals.types) stmt' →
    Transfers Lowered.Same (lowerStmt place scope stmt) (lowerStmt place' scope stmt')
  block block := ∀ block' scope, block.Like (TypeUnfolds place.globals.types) block' →
    Transfers Node.Same (lowerBlock place scope block) (lowerBlock place' scope block')
  handler handler := ∀ handler' scope, handler.Like (TypeUnfolds place.globals.types) handler' →
    Transfers (fun clause clause' => clause.unplaced = clause'.unplaced)
      (lowerHandler place scope handler) (lowerHandler place' scope handler')
  branch branch := ∀ branch' scope, branch.Like (TypeUnfolds place.globals.types) branch' →
    Transfers Node.Same (lowerBranch place scope branch) (lowerBranch place' scope branch')
  otherwise otherwise := ∀ otherwise' scope,
    otherwise.Like (TypeUnfolds place.globals.types) otherwise' →
    Transfers Node.Same (lowerOtherwise place scope otherwise)
      (lowerOtherwise place' scope otherwise')

section Statements

variable {place place' : Place}

/-- Statements in a row are resolved to the same if each of them is. -/
theorem transfers_lowerStmts {stmts stmts' : List (Stmt Pos)}
    (h : ∀ stmt ∈ stmts, (unfoldsTo place place').stmt stmt)
    (hlike : List.Forall₂ (Stmt.Like (TypeUnfolds place.globals.types)) stmts stmts')
    (scope : Scope) :
    Transfers SameNodes (lowerStmts place scope stmts) (lowerStmts place' scope stmts') := by
  induction hlike generalizing scope with
  | nil => exact .pure rfl
  | cons hstmt _ ih =>
    obtain ⟨hfirst, hrest⟩ := List.forall_mem_cons.mp h
    refine (hfirst _ scope hstmt).bind fun first first' hfirst => ?_
    -- The rest is resolved in the scope behind the first statement.
    rw [← hfirst.2]
    refine (ih hrest first.scope).bind fun _ _ hnodes => .pure ?_
    have hnode := congrArg Option.toList hfirst.1
    rw [SameNodes, unplacedNodes_eq_map, unplacedNodes_eq_map] at *
    simp only [List.map_append, hnodes, Option.toList_map] at *
    rw [hnode]

/-- Statements that are alike are resolved to the same if their pieces are. -/
theorem unfoldsTo_inherited (hplace : place.Unfolds place') :
    (unfoldsTo place place').Inherited where
  stmt stmt inside stmt' scope h := by
    cases h with
    | expr hvalue =>
      refine .below ((transfers_lowerExpr hplace scope _ hvalue).bind fun _ _ hvalue =>
        .pure (Lowered.same_of_node ?_ scope))
      simp only [Node.Same, Node.unplaced, hvalue]
    | decl hdecl => exact .below (transfers_lowerDecl hplace scope hdecl)
    | block hblock =>
      exact .below ((inside _ scope hblock).bind fun _ _ hblock =>
        .pure (Lowered.same_of_node hblock scope))
    | ret hvalue =>
      refine .below ((transfers_lowerOptional hplace scope hvalue).bind fun _ _ hvalue =>
        .pure (Lowered.same_of_node ?_ scope))
      simp only [Node.Same, Node.unplaced, hvalue]
    | throw hvalue =>
      refine .below (.bind (transfers_staticType hplace _ hvalue) ?_)
      rintro type _ rfl
      refine (transfers_lowerExpr hplace scope _ hvalue).bind fun _ _ hvalue =>
        .pure (Lowered.same_of_node ?_ scope)
      simp only [Node.Same, Node.unplaced, hvalue]
    | guarded hbody hhandlers =>
      obtain ⟨ihBody, ihHandlers⟩ := inside
      have hclauses := Transfers.each_of_alike (fun handler hmem handler' =>
        ihHandlers handler hmem handler' scope) hhandlers
      rw [← lowerHandlers_eq_each, ← lowerHandlers_eq_each] at hclauses
      refine .below ((ihBody _ scope hbody).bind fun _ _ hbody => hclauses.below.bind
        fun _ _ hclauses => .pure (Lowered.same_of_node ?_ scope))
      simp only [Node.Same, Node.unplaced, unplacedClauses_eq_map, hbody,
        map_eq_map_of_forall₂ hclauses]
    | branch hbranch =>
      exact (inside _ scope hbranch).bind fun _ _ hbranch =>
        .pure (Lowered.same_of_node hbranch scope)
    | «while» hcondition hbody | doWhile hbody hcondition =>
      refine .below ((inside _ scope hbody).bind fun _ _ hbody =>
        (transfers_lowerExpr hplace scope _ hcondition).bind fun _ _ hcondition =>
        .pure (Lowered.same_of_node ?_ scope))
      simp only [Node.Same, Node.unplaced, hbody, hcondition]
    | «for» hinit hcondition hstep hbody =>
      refine .below ((transfers_lowerInit hplace scope hinit).bind fun init init' hinit => ?_)
      -- The first part leaves the same scope behind on both sides.
      obtain ⟨node, inner⟩ := init
      obtain ⟨node', inner'⟩ := init'
      obtain ⟨hnode, rfl⟩ := hinit
      refine (transfers_lowerOptional hplace inner hcondition).bind fun _ _ hcondition =>
        (transfers_lowerOptional hplace inner hstep).bind fun _ _ hstep =>
        (inside _ inner hbody).bind fun _ _ hbody => .pure (Lowered.same_of_node ?_ scope)
      have hgetD : (node.getD .absent).unplaced = (node'.getD .absent).unplaced := by
        cases node <;> cases node' <;> simp_all
      simp only [Node.Same, Node.unplaced, hbody, hcondition, hgetD, hstep]
    | rethrow | «break» | «continue» | empty => exact .below (.pure ⟨rfl, rfl⟩)
  block statements loc hstatements block' scope h := by
    cases h with
    | mk hlike =>
      refine .below ((transfers_lowerStmts hstatements hlike scope).bind fun _ _ hnodes =>
        .pure ?_)
      simp only [Node.Same, Node.unplaced, hnodes]
  handler type binder block loc ihBlock handler' scope h := by
    cases h with
    | mk htype hblock =>
      refine .below (.bind (transfers_lowerCaught hplace _ _ htype) ?_)
      rintro type _ rfl
      refine (ihBlock _ _ hblock).bind fun _ _ hblock => .pure ?_
      simp only [Clause.unplaced, hblock]
  branch condition whenTrue otherwise loc ihTrue ihOtherwise branch' scope h := by
    cases h with
    | mk hcondition htrue hotherwise =>
      refine .below ((transfers_lowerExpr hplace scope _ hcondition).bind fun _ _ hcondition =>
        (ihTrue _ scope htrue).bind fun _ _ htrue =>
        (ihOtherwise _ scope hotherwise).bind fun _ _ hfalse => .pure ?_)
      simp only [Node.Same, Node.unplaced, hcondition, htrue, hfalse]
  nothing otherwise' scope h := by
    cases h
    exact .pure rfl
  elseBlock block ihBlock otherwise' scope h := by
    cases h with
    | block hblock => exact ihBlock _ scope hblock
  elseIf branch ihBranch otherwise' scope h := by
    cases h with
    | chain hbranch =>
      refine .below ((ihBranch _ scope hbranch).bind fun _ _ hinner => .pure ?_)
      simp only [Node.Same, Node.unplaced, unplacedNodes, hinner]

end Statements

/-! ## Functions -/

section Functions

variable {place place' : Place} (hplace : place.Unfolds place')

include hplace

/-- Parameters that are alike are bound to the same types. -/
theorem transfers_paramScope {params params' : List (Param Pos)}
    (h : List.Forall₂ (fun param param' =>
      TypeUnfolds place.globals.types param.type param'.type ∧ param.name = param'.name)
      params params') (scope : Scope) :
    Transfers Eq (paramScope place params scope) (paramScope place' params' scope) := by
  induction h generalizing scope with
  | nil => exact .refl _
  | @cons param param' rest rest' hparam _ ih =>
    obtain ⟨htype, hname⟩ := hparam
    rw [paramScope, paramScope, ← hname]
    cases param.name with
    | none => exact ih scope
    | some name =>
      refine (hplace.resolve htype).bind ?_
      rintro type _ rfl
      exact ih _

/-- Functions that are alike have the same bodies. -/
theorem transfers_lowerBody {definition definition' : FunctionDef Pos}
    (h : definition.Like (TypeUnfolds place.globals.types) (ClausesUnfold place.globals.types)
      definition') :
    Transfers (fun body body' => body.map Node.unplaced = body'.map Node.unplaced)
      (lowerBody place definition) (lowerBody place' definition') := by
  have hblocks := h.body
  unfold lowerBody
  generalize definition.body = body at hblocks
  generalize definition'.body = body' at hblocks
  cases hblocks with
  | none => exact .pure rfl
  | some hblock =>
    refine .below (.bind (transfers_paramScope hplace h.params []) ?_)
    rintro scope _ rfl
    exact ((unfoldsTo_inherited hplace).block_holds _ _ scope hblock).bind fun _ _ hbody =>
      .pure (congrArg some hbody)

end Functions

/-- Signatures in two programs that are about the same function and say the same. -/
structure Header.Unfolds (types : Types) (header header' : Header) : Prop where
  /-- They are in the same file. -/
  file_eq : header.file = header'.file
  /-- The declarations are alike. -/
  source : header.source.Like (TypeUnfolds types) (ClausesUnfold types) header'.source
  /-- They have the same key. -/
  key_eq : header.key = header'.key
  /-- They return the same. -/
  returnType_eq : header.returnType = header'.returnType
  /-- They have the same clauses. -/
  specifier_eq : header.specifier.unplaced = header'.specifier.unplaced

/-- They are found by the same calls. -/
theorem Header.Unfolds.overload_eq {types : Types} {header header' : Header}
    (h : header.Unfolds types header') : header.overload = header'.overload := by
  simp only [Header.overload, h.key_eq, h.returnType_eq, h.source.params.length_eq]

/-- Calls have the same functions to choose from. -/
theorem overloadsOf_congr {types : Types} {headers headers' : List Header}
    (h : List.Forall₂ (Header.Unfolds types) headers headers') :
    overloadsOf headers = overloadsOf headers' := by
  have hmap : headers.map (·.overload) = headers'.map (·.overload) := by
    induction h with
    | nil => rfl
    | cons hfirst _ ih => rw [List.map_cons, List.map_cons, hfirst.overload_eq, ih]
  rw [overloadsOf, overloadsOf, hmap]

section Tables

variable {types types' : Types} (htypes : types.Unfolds types')

include htypes

/-- The same names denote exceptions. -/
theorem transfers_exception? (name : String) :
    Transfers Eq (types.exception? name) (types'.exception? name) := by
  unfold Types.exception?
  rw [← htypes.contains_eq]
  refine .below ?_
  split
  · exact .refl _
  · have hfilter : (fun type : ValueType => types.exceptions.contains type.name) =
        fun type => types'.exceptions.contains type.name :=
      funext fun type => htypes.contains_eq type.name
    rw [hfilter]
    have htarget := htypes.target name
    generalize types.alias? name = target at htarget
    generalize types'.alias? name = target' at htarget
    cases htarget with
    | none => exact .refl _
    | some htype =>
      refine .bind (htypes.unfolding.type _ _ _ htype) ?_
      rintro type _ rfl
      exact .refl _

/-- Functions that are alike have signatures that say the same. -/
theorem transfers_header {definition definition' : FunctionDef Pos}
    (h : definition.Like (TypeUnfolds types) (ClausesUnfold types) definition') (file : String) :
    Transfers (Header.Unfolds types) (Header.resolve types file definition)
      (Header.resolve types' file definition') := by
  refine .bind (.below (htypes.unfolding.type _ _ _ h.returnType)) ?_
  rintro returnType _ rfl
  have hparams : List.Forall₂ (TypeUnfolds types) (definition.params.map (·.type))
      (definition'.params.map (·.type)) :=
    List.forall₂_map_left_iff.mpr (List.forall₂_map_right_iff.mpr
      (h.params.imp fun _ _ hparam => hparam.1))
  refine .bind (.below (transfers_resolveAll
    (fun type _ _ => htypes.unfolding.type _ _ type) hparams)) ?_
  rintro params _ rfl
  refine (htypes.unfolding.clauses h.clauses _ _).bind fun specifier specifier' hspecifier =>
    .pure ⟨rfl, h, ?_, rfl, hspecifier⟩
  simp only [h.name_eq]

/-- They are resolved to the same. -/
theorem transfers_lowerFunction {overloads : List Overload} {header header' : Header}
    (h : header.Unfolds types header') :
    Transfers (fun function function' => function.unplaced = function'.unplaced)
      (lowerFunction ⟨types, overloads⟩ header) (lowerFunction ⟨types', overloads⟩ header') := by
  have hplace : Place.Unfolds ⟨⟨types, overloads⟩, header.file⟩
      ⟨⟨types', overloads⟩, header'.file⟩ :=
    ⟨htypes.unfolding.type _ _ _, transfers_exception? htypes, rfl⟩
  refine (transfers_lowerBody hplace h.source).bind fun body body' hbody => .pure ?_
  simp only [Function.unplaced, h.key_eq, h.specifier_eq, hbody]

end Tables

/-! ## Programs -/

/-- What is found under a name is related. -/
theorem rel_lookup {α β : Type} {related : α → β → Prop} {entries : List (String × α)}
    {entries' : List (String × β)} (h : List.Forall₂ (fun entry entry' =>
      entry.1 = entry'.1 ∧ related entry.2 entry'.2) entries entries') (name : String) :
    Option.Rel related (entries.lookup name) (entries'.lookup name) := by
  induction h with
  | nil => exact .none
  | cons hfirst _ ih =>
    rw [List.lookup_cons, List.lookup_cons, ← hfirst.1]
    split
    · exact .some hfirst.2
    · exact ih

/-- Sources in which aliases are unfolded, in the types of functions and of other aliases. -/
def SourcesUnfold (sources sources' : List (String × Program Pos)) : Prop :=
  List.Forall₂ (fun source source' => source.1 = source'.1 ∧
    source.2.Like (TypeUnfolds (programTypes sources)) (ClausesUnfold (programTypes sources))
      source'.2) sources sources'

namespace SourcesUnfold

variable {sources sources' : List (String × Program Pos)} (h : SourcesUnfold sources sources')

include h

/-- The files have the same names. -/
theorem files_eq : sources.map (·.1) = sources'.map (·.1) := by
  rw [← List.forall₂_eq_eq_eq, List.forall₂_map_left_iff, List.forall₂_map_right_iff]
  exact h.imp fun _ _ hsource => hsource.1

/-- The same exceptions are declared. -/
theorem exceptionNames_eq : exceptionNames sources = exceptionNames sources' := by
  rw [← List.forall₂_eq_eq_eq]
  refine List.rel_flatMap h fun source source' hsource => ?_
  rw [List.forall₂_map_left_iff, List.forall₂_map_right_iff]
  exact hsource.2.exceptions

/-- The aliases are the same, with related targets. -/
theorem aliasDefs : List.Forall₂ (fun declared declared' => declared.2.name = declared'.2.name ∧
    TypeUnfolds (programTypes sources) declared.2.target declared'.2.target)
    (aliasDefs sources) (aliasDefs sources') := by
  refine List.rel_flatMap h fun source source' hsource => ?_
  rw [List.forall₂_map_left_iff, List.forall₂_map_right_iff]
  exact hsource.2.aliases

/-- Functions that are alike are declared in the same order. -/
theorem declarations : List.Forall₂ (fun declared declared' => declared.1 = declared'.1 ∧
    declared.2.Like (TypeUnfolds (programTypes sources)) (ClausesUnfold (programTypes sources))
      declared'.2) (declarations sources) (declarations sources') := by
  refine List.rel_flatMap h fun source source' hsource => ?_
  rw [List.forall₂_map_left_iff, List.forall₂_map_right_iff]
  exact hsource.2.functions.imp fun _ _ hfunction => ⟨hsource.1, hfunction⟩

/-- No alias is declared in one of them that is not declared in the other. -/
theorem aliasNames_eq :
    (Resolution.aliasDefs sources).map (·.2.name) =
      (Resolution.aliasDefs sources').map (·.2.name) := by
  rw [← List.forall₂_eq_eq_eq, List.forall₂_map_left_iff, List.forall₂_map_right_iff]
  exact h.aliasDefs.imp fun _ _ hdeclared => hdeclared.1

/-- If nothing is reported for the aliases of the first program, then nothing is for the second. -/
theorem clean_types {depth : Option Nat} (hclean : (Types.ofPrograms sources).Clean depth) :
    (Types.ofPrograms sources').Clean depth := by
  rw [clean_ofPrograms_iff] at hclean ⊢
  obtain ⟨hfree, hnodup⟩ := hclean
  refine ⟨fun declared' hdeclared' => ?_, h.aliasNames_eq ▸ hnodup⟩
  have hname : declared'.2.name ∈ (Resolution.aliasDefs sources).map (·.2.name) :=
    h.aliasNames_eq ▸ List.mem_map.mpr ⟨declared', hdeclared', rfl⟩
  obtain ⟨declared, hdeclared, heq⟩ := List.mem_map.mp hname
  rw [← heq, ← h.exceptionNames_eq]
  exact hfree declared hdeclared

/-- The types are declared without an error, and to the same, up to the targets of aliases. -/
theorem transfers_types :
    Transfers (fun types types' => types = programTypes sources ∧ types.Unfolds types')
      (Types.ofPrograms sources) (Types.ofPrograms sources') := by
  intro depth hclean
  have hclean' := h.clean_types hclean
  refine ⟨hclean', rfl, ?_, ?_, ?_⟩
  · intro name
    change (programTypes sources).exceptions.contains name =
      (programTypes sources').exceptions.contains name
    rw [exceptions_programTypes, exceptions_programTypes, h.exceptionNames_eq]
  · intro name
    change Option.Rel _ ((programTypes sources).aliases.lookup name)
      ((programTypes sources').aliases.lookup name)
    rw [aliases_programTypes hclean, aliases_programTypes hclean']
    refine rel_lookup ?_ name
    rw [List.forall₂_map_left_iff, List.forall₂_map_right_iff]
    exact h.aliasDefs
  · intro name target htarget
    obtain ⟨declared, hdeclared, heq⟩ := (alias?_programTypes_eq_some_iff hclean).mp htarget
    obtain ⟨hexception, hbuiltin⟩ := (clean_ofPrograms_iff.mp hclean).1 declared hdeclared
    obtain rfl : declared.2.name = name := congrArg Prod.fst heq
    rw [← exceptions_programTypes] at hexception
    simp only [Types.isBase, Bool.or_eq_false_iff, List.contains_eq_mem, decide_eq_false_iff_not]
    exact ⟨hexception, hbuiltin⟩

end SourcesUnfold

/-- Units without their spans are made of functions without their spans. -/
theorem map_unplaced_unitsOf (files : List String) (functions : List (String × Function)) :
    (unitsOf files functions).map SourceUnit.unplaced =
      unitsOf files (functions.map (Prod.map id Function.unplaced)) := by
  rw [unitsOf, unitsOf, List.map_map]
  refine List.map_congr_left fun file _ => ?_
  simp only [Function.comp_apply, SourceUnit.unplaced, List.filter_map, List.map_map]
  rfl

/-- The programs are resolved to the same. -/
theorem transfers_lowerProgram {sources sources' : List (String × Program Pos)}
    (h : SourcesUnfold sources sources') :
    Transfers (fun units units' =>
      units.map SourceUnit.unplaced = units'.map SourceUnit.unplaced)
      (lowerProgram sources) (lowerProgram sources') := by
  refine h.transfers_types.bind fun types types' htypes => ?_
  obtain ⟨rfl, hunfolds⟩ := htypes
  have hresolved : List.Forall₂ (fun declared declared' =>
      Transfers (Header.Unfolds (programTypes sources))
        (Header.resolve (programTypes sources) declared.1 declared.2)
        (Header.resolve types' declared'.1 declared'.2))
      (declarations sources) (declarations sources') := by
    refine h.declarations.imp fun declared declared' hdeclared => ?_
    rw [← hdeclared.1]
    exact transfers_header hunfolds hdeclared.2 declared.1
  refine (Transfers.each hresolved).bind fun headers headers' hheaders => ?_
  -- The same functions can be called in both programs.
  rw [overloadsOf_congr hheaders]
  refine (Transfers.each (hheaders.imp fun _ _ => transfers_lowerFunction hunfolds)).bind
    fun lowered lowered' hlowered => .pure ?_
  have hfiles : headers.map (·.file) = headers'.map (·.file) := by
    rw [← List.forall₂_eq_eq_eq, List.forall₂_map_left_iff, List.forall₂_map_right_iff]
    exact hheaders.imp fun _ _ hheader => hheader.file_eq
  have hfunctions : lowered.map Function.unplaced = lowered'.map Function.unplaced := by
    rw [← List.forall₂_eq_eq_eq, List.forall₂_map_left_iff, List.forall₂_map_right_iff]
    exact hlowered
  rw [map_unplaced_unitsOf, map_unplaced_unitsOf, h.files_eq, ← List.zip_map, ← List.zip_map,
    List.map_id, List.map_id, hfiles, hfunctions]

/-- In a program for which nothing is reported, aliases may be replaced by what they stand for:
nothing is reported for the new program either, and it is resolved to the same units, up to
spans. -/
theorem aliases_transparent {sources sources' : List (String × Program Pos)}
    (h : SourcesUnfold sources sources') {depth : Option Nat}
    (hclean : (lowerProgram sources).reports depth = []) :
    (lowerProgram sources').reports depth = [] ∧
      (lowerProgram sources').value.map SourceUnit.unplaced =
        (lowerProgram sources).value.map SourceUnit.unplaced := by
  rw [reports_eq_nil_iff] at hclean ⊢
  obtain ⟨hclean', hunits⟩ := transfers_lowerProgram h depth hclean
  exact ⟨hclean', hunits.symm⟩

/-- A text about the exception `E`, in which `A` stands for `const E` and `F` for the type of
functions that take a reference to an `A` and may throw one. The only function has the given
parameters and clauses, and it catches the given type. -/
def handlingProgram (params : List (Param Pos)) (clauses : Clauses Pos) (caught : TypeExpr Pos) :
    Program Pos where
  exceptions := [⟨"E", {}⟩]
  aliases := [⟨"A", .named "E" true false false {}, {}⟩,
    ⟨"F", .function [.named "A" false false true {}] { throws := some ["A"] } {}, {}⟩]
  functions := [{
    name := "f"
    params := params
    returnType := .named "void" false false false {}
    clauses := clauses
    body := some (.mk [.guarded (.mk [.expr (.call (.name "g" {}) [.name "x" {}] {}) {}] {})
      [.mk (some caught) (some "e") (.mk [.rethrow {}] {}) {}] {}] {})
    loc := {} }]

/-- The text with its aliases. -/
def aliasedProgram : Program Pos :=
  handlingProgram
    [⟨.named "A" false true false {}, some "x"⟩, ⟨.named "F" false false false {}, some "g"⟩]
    { throws := some ["A"] } (.named "A" false false true {})

/-- The text with all of its aliases replaced by what they stand for. -/
def unfoldedProgram : Program Pos :=
  handlingProgram
    [⟨.named "E" true true false {}, some "x"⟩,
      ⟨.function [.named "E" true false true {}] { throws := some ["E"] } {}, some "g"⟩]
    { throws := some ["E"] } (.named "E" true false true {})

/-- The qualifiers of `x` and of the caught value add up, and the function type that `g` has is
unfolded inside. -/
theorem aliases_transparent_handling :
    SourcesUnfold [("a.tc", aliasedProgram)] [("a.tc", unfoldedProgram)] ∧
      (lowerProgram [("a.tc", aliasedProgram)]).reports none = [] ∧
      (lowerProgram [("a.tc", unfoldedProgram)]).reports none = [] ∧
      (lowerProgram [("a.tc", unfoldedProgram)]).value.map SourceUnit.unplaced =
        (lowerProgram [("a.tc", aliasedProgram)]).value.map SourceUnit.unplaced := by
  have hname : NameUnfolds (programTypes [("a.tc", aliasedProgram)]) "A" "E" :=
    .replaced rfl rfl (.refl _)
  have htype : ∀ isVolatile isRef, TypeUnfolds (programTypes [("a.tc", aliasedProgram)])
      (.named "A" false isVolatile isRef {}) (.named "E" true isVolatile isRef {}) :=
    fun _ _ => .replaced rfl .named
  have hclauses : ∀ loc loc', ClausesUnfold (programTypes [("a.tc", aliasedProgram)])
      { throws := some ["A"], loc := loc } { throws := some ["E"], loc := loc' } :=
    fun _ _ => ⟨.some (.cons hname .nil), rfl, rfl⟩
  have hfunction : TypeUnfolds (programTypes [("a.tc", aliasedProgram)])
      (.named "F" false false false {})
      (.function [.named "E" true false true {}] { throws := some ["E"] } {}) :=
    .replaced rfl (.function (.cons (htype false true) .nil) (hclauses none none))
  have hbody : ∀ loc loc' : Pos, Stmt.Like (TypeUnfolds (programTypes [("a.tc", aliasedProgram)]))
      (.expr (.call (.name "g" {}) [.name "x" {}] {}) loc)
      (.expr (.call (.name "g" {}) [.name "x" {}] {}) loc') :=
    fun _ _ => .expr (.call .name (.cons .name .nil))
  have hunfold : SourcesUnfold [("a.tc", aliasedProgram)] [("a.tc", unfoldedProgram)] := by
    refine .cons ⟨rfl, .cons rfl .nil, .cons ⟨rfl, .named⟩ (.cons ⟨rfl, ?_⟩ .nil),
      .cons ⟨rfl, ?_, .named, hclauses _ _, ?_⟩ .nil⟩ .nil
    · exact .function (.cons .named .nil) ⟨.some (.cons (.refl _) .nil), rfl, rfl⟩
    · exact .cons ⟨htype true false, rfl⟩ (.cons ⟨hfunction, rfl⟩ .nil)
    · exact .some (.mk (.cons (.guarded (.mk (.cons (hbody _ _) .nil))
        (.cons (.mk (.some (htype false true)) (.mk (.cons .rethrow .nil))) .nil)) .nil))
  exact ⟨hunfold, rfl, aliases_transparent hunfold rfl⟩

end Throws.Resolution
