import Throws.Proofs.CallTargets
import Throws.Proofs.CleanResolution
import Throws.Proofs.Parts
import Throws.Proofs.PlaceAgreement

/-!
# Only canonical names reach the analysis

The analysis compares exceptions by their names, so it would go wrong if one exception had two. In a
program for which nothing is reported this cannot happen: every name of a type that a resolved
function carries is that of a declared exception or of a type that is built in, and never that of an
alias (`only_canonical_names`).

Types come into a body along several ways: from a signature, from a local declaration, from a
handler, from the function that a call is about. On each of them the type has been resolved, and
resolved types are canonical where nothing is reported. So it is enough that every scope is made of
canonical types, which is the invariant of the induction.
-/

namespace Throws.Body

/-- What holds of every node inside a fragment, the fragment itself included. -/
def Node.Everywhere (holds : Node → Prop) (node : Node) : Prop :=
  ∀ occurrence ∈ node.occurrences, holds occurrence.node

namespace Node

variable {holds : Node → Prop} {node : Node}

/-- It holds everywhere if it holds of the node and everywhere in its parts. -/
theorem everywhere_iff :
    node.Everywhere holds ↔ holds node ∧ ∀ part ∈ node.parts, part.2.Everywhere holds := by
  rw [Everywhere, occurrences_eq, List.forall_mem_cons, List.forall_mem_flatMap]
  simp only [List.forall_mem_map]
  rfl

/-- What occurs in a part occurs in the whole, further down. -/
theorem under_mem_occurrences {part : Descent × Node} (hpart : part ∈ node.parts)
    {occurrence : Occurrence} (h : occurrence ∈ part.2.occurrences) :
    occurrence.under part.1 ∈ node.occurrences := by
  rw [occurrences_eq]
  exact List.mem_cons_of_mem _ (List.mem_flatMap.mpr ⟨part, hpart, List.mem_map.mpr
    ⟨occurrence, h, rfl⟩⟩)

/-- A node other than a `try` is looked at along with what simply lies inside. -/
theorem Everywhere.of_inner (hnode : ∀ body clauses span, node ≠ .guarded body clauses span)
    (hown : holds node) (hinner : ∀ part ∈ node.inner, part.Everywhere holds) :
    node.Everywhere holds := by
  rw [everywhere_iff, parts_eq_inner hnode, List.forall_mem_map]
  exact ⟨hown, hinner⟩

/-- A `try` is looked at along with its body and the blocks of its handlers. -/
theorem Everywhere.guarded {body : Node} {clauses : List Clause} {span : Span}
    (hown : holds (.guarded body clauses span)) (hbody : body.Everywhere holds)
    (hclauses : ∀ clause ∈ clauses, clause.block.Everywhere holds) :
    (Node.guarded body clauses span).Everywhere holds := by
  rw [everywhere_iff, parts, List.forall_mem_cons, List.forall_mem_map]
  exact ⟨hown, hbody, hclauses⟩

/-- Parts that were left out have nothing inside. -/
theorem Everywhere.of_mem_present {nodes : List Node} (h : ∀ node ∈ nodes, node.Everywhere holds) :
    ∀ part ∈ nodes.flatMap present, part.Everywhere holds :=
  fun part hpart => h part (mem_flatMap_present.mp hpart).1

/-- The names of types that a node carries itself: of what it throws, constructs or catches, and in
the contract of a function value that it calls. -/
def typeNames : Node → List String
  | .throw _ type _ => type.toList.map (·.name)
  | .construct type _ _ => type.toList.map (·.name)
  | .indirectCall _ contract _ _ => contract.effective.names
  | .guarded _ clauses _ => clauses.filterMap fun clause => clause.type.map (·.name)
  | _ => []

/-- The names that a node carries itself are known, and what it constructs is an exception. -/
structure Carries (known exceptional : String → Prop) (node : Node) : Prop where
  /-- All names. -/
  known_names : ∀ name ∈ node.typeNames, known name
  /-- The name of what is constructed. -/
  exceptional_construct : ∀ type args span, node = .construct type args span →
    ∃ exception, type = some exception ∧ exceptional exception.name

/-- The same of every node inside a fragment. -/
def Settled (known exceptional : String → Prop) (node : Node) : Prop :=
  node.Everywhere (Carries known exceptional)

/-- Whether a node is neither a `try` nor a construction. -/
def isOrdinary : Node → Bool
  | .guarded _ _ _ | .construct _ _ _ => false
  | _ => true

/-- A node that carries no names itself is settled if what lies inside is. -/
theorem Settled.of_inner {known exceptional : String → Prop} (hordinary : node.isOrdinary = true)
    (hnames : node.typeNames = []) (hinner : ∀ part ∈ node.inner, part.Settled known exceptional) :
    node.Settled known exceptional := by
  refine Everywhere.of_inner ?_ ⟨?_, ?_⟩ hinner
  · rintro body clauses span rfl
    cases hordinary
  · exact hnames ▸ List.forall_mem_nil _
  · rintro type args span rfl
    cases hordinary

/-- It is settled if nothing lies inside. -/
theorem Settled.leaf {known exceptional : String → Prop} (hordinary : node.isOrdinary = true)
    (hnames : node.typeNames = []) (hinner : node.inner = []) :
    node.Settled known exceptional :=
  .of_inner hordinary hnames fun _ hpart => absurd (hinner ▸ hpart) List.not_mem_nil

end Node

/-- A handler that catches a known type, or any exception, and whose block is settled. -/
structure Clause.Settled (known exceptional : String → Prop) (clause : Clause) : Prop where
  /-- The type. -/
  known_type : ∀ type ∈ clause.type, known type.name
  /-- The block. -/
  block : clause.block.Settled known exceptional

/-- A `try` is settled if its body and its handlers are. -/
theorem Node.Settled.guarded {known exceptional : String → Prop} {body : Node}
    {clauses : List Clause} {span : Span} (hbody : body.Settled known exceptional)
    (hclauses : ∀ clause ∈ clauses, clause.Settled known exceptional) :
    (Node.guarded body clauses span).Settled known exceptional := by
  refine Everywhere.guarded ⟨fun name hname => ?_, nofun⟩ hbody
    fun clause hclause => (hclauses clause hclause).block
  obtain ⟨clause, hclause, hcaught⟩ := List.mem_filterMap.mp hname
  obtain ⟨type, htype, rfl⟩ := Option.map_eq_some_iff.mp hcaught
  exact (hclauses clause hclause).known_type type htype

end Throws.Body

namespace Throws.Resolution

open Throws.Body Throws.Surface Logged

/-! ## Places and scopes -/

/-- All types of local names are canonical. -/
def Scope.Canonical (known : String → Prop) (scope : Scope) : Prop :=
  ∀ entry ∈ scope, entry.2.Canonical known

/-- What is in scope is canonical. -/
theorem Scope.Canonical.lookup {known : String → Prop} {scope : Scope} (h : scope.Canonical known)
    {name : String} {type : Ty} (hlookup : scope.lookup name = some type) :
    type.Canonical known := by
  obtain ⟨before, after, rfl, _⟩ := List.lookup_eq_some_iff.mp hlookup
  exact h (name, type) (by simp)

/-- A scope may be extended by a canonical type. -/
theorem Scope.Canonical.cons {known : String → Prop} {scope : Scope} (h : scope.Canonical known)
    {name : String} {type : Ty} (htype : type.Canonical known) :
    Scope.Canonical known ((name, type) :: scope) :=
  List.forall_mem_cons.mpr ⟨htype, h⟩

/-- A place at which only canonical types are found, unless something is reported. -/
structure Place.Canonical (known exceptional : String → Prop) (place : Place) : Prop where
  /-- Spellings stand for canonical types. -/
  resolve : ∀ type, Grants (Ty.Canonical known) (place.resolve type)
  /-- Functions return canonical types. -/
  call : ∀ name arity overload, place.globals.call? name arity = some overload →
    overload.returnType.Canonical known
  /-- Names that are taken for exceptions denote exceptions. -/
  construct : ∀ name, Grants (fun found => ∀ type ∈ found, exceptional type.name)
    (place.globals.types.exception? name)
  /-- Exceptions are known. -/
  known_of_exceptional : ∀ name, exceptional name → known name
  /-- Types that are built in are known. -/
  known_of_builtin : ∀ name ∈ builtins, known name

section Expressions

variable {known exceptional : String → Prop} {place : Place} {scope : Scope}
  (hplace : place.Canonical known exceptional)

include hplace

/-- Types that are built in are canonical. -/
theorem canonical_builtin {name : String} (h : name ∈ builtins) : (Ty.plain name).Canonical known :=
  .value (hplace.known_of_builtin name h)

/-- The type of a call of a function is canonical. -/
theorem grants_globalCallType (name : String) (arity : Nat) :
    Grants (fun found => ∀ type ∈ found, type.Canonical known)
      (globalCallType place name arity) := by
  refine (hplace.construct name).bind fun found hfound => ?_
  cases found with
  | some type =>
    refine .pure fun resolved hresolved => ?_
    obtain rfl := Option.some.inj hresolved
    exact .value (hplace.known_of_exceptional _ (hfound type rfl))
  | none =>
    refine .pure fun resolved hresolved => ?_
    obtain ⟨overload, hcall, rfl⟩ := Option.map_eq_some_iff.mp hresolved
    exact hplace.call name arity overload hcall

/-- The type of an expression is canonical, as far as it can be told. -/
theorem grants_staticType (hscope : scope.Canonical known) : (expr : Expr Pos) →
    Grants (fun found => ∀ type ∈ found, type.Canonical known) (staticType place scope expr)
  | .literal value _ => by
    rw [staticType]
    refine .below (.pure fun type htype => ?_)
    obtain rfl := Option.some.inj htype
    cases value <;> exact canonical_builtin hplace (by decide)
  | .name ident _ => by
    rw [staticType]
    exact .below (.pure fun type htype => hscope.lookup htype)
  | .call function args _ => by
    have hnone : Grants (fun found : Option Ty => ∀ type ∈ found, type.Canonical known)
        (Pure.pure none) := .pure fun type htype => absurd htype (Option.not_mem_none type)
    cases function with
    | name ident loc =>
      rw [staticType]
      refine .below ?_
      split
      · exact hnone
      · exact grants_globalCallType hplace ident args.length
    | _ =>
      rw [staticType]
      · exact .below hnone
      · rintro _ _ ⟨⟩
  | .unary op operand _ => by
    have hoperand := grants_staticType hscope operand
    cases op with
    | bang =>
      rw [staticType]
      refine .below (.pure fun type htype => ?_)
      obtain rfl := Option.some.inj htype
      exact canonical_builtin hplace (by decide)
    | _ =>
      rw [staticType]
      · exact .below hoperand
      · rintro ⟨⟩
  | .binary op left _ _ => by
    rw [staticType]
    refine .below ?_
    split
    · refine .pure fun type htype => ?_
      obtain rfl := Option.some.inj htype
      exact canonical_builtin hplace (by decide)
    · exact grants_staticType hscope left
  | .assign target _ _ => by
    rw [staticType]
    exact .below (grants_staticType hscope target)
termination_by structural expr => expr

/-- A call of a name carries what is known of the name. -/
theorem grants_lowerNamedCall (hscope : scope.Canonical known) (name : String) {args : List Node}
    (hargs : ∀ arg ∈ args, arg.Settled known exceptional) (span : Span) :
    Grants (Node.Settled known exceptional) (lowerNamedCall place scope name args span) := by
  have hinner := Node.Everywhere.of_mem_present hargs
  have hcall : ∀ callee, (Node.call callee args (some name) span).Settled known exceptional :=
    fun callee => .of_inner rfl rfl hinner
  unfold lowerNamedCall
  split
  case h_1 params contract hlookup =>
    -- The contract is part of the type of the local name.
    cases hscope.lookup hlookup with
    | function _ hcontract =>
      refine .pure (Node.Everywhere.of_inner nofun ⟨hcontract, nofun⟩
        (List.forall_mem_cons.mpr ⟨?_, hinner⟩))
      exact Node.Settled.leaf rfl rfl rfl
  case h_2 => exact .pure (hcall none)
  case h_3 =>
    refine (hplace.construct name).bind fun found hfound => ?_
    cases found with
    | none => exact .pure (hcall _)
    | some type =>
      have hexceptional := hfound type rfl
      refine .pure (Node.Everywhere.of_inner nofun ⟨?_, ?_⟩ hinner)
      · exact List.forall_mem_singleton.mpr (hplace.known_of_exceptional _ hexceptional)
      · rintro type' args' span' ⟨⟩
        exact ⟨type, rfl, hexceptional⟩

omit hplace in
/-- A call of what was evaluated carries what is known of its type. -/
theorem settled_computedCall {type : Option Ty} (htype : ∀ found ∈ type, found.Canonical known)
    {callee : Node} (hcallee : callee.Settled known exceptional)
    {args : List Node} (hargs : ∀ arg ∈ args, arg.Settled known exceptional)
    (span : Span) : (computedCall type callee args span).Settled known exceptional := by
  unfold computedCall
  split
  case h_1 params contract =>
    cases htype _ rfl with
    | function _ hcontract =>
      refine Node.Everywhere.of_inner (by rintro _ _ _ ⟨⟩) ⟨hcontract, by rintro _ _ _ ⟨⟩⟩ ?_
      exact List.forall_mem_cons.mpr ⟨hcallee, Node.Everywhere.of_mem_present hargs⟩
  case h_2 =>
    exact .of_inner rfl rfl
      (Node.Everywhere.of_mem_present (List.forall_mem_cons.mpr ⟨hcallee, hargs⟩))

/-- A resolved expression is settled. -/
theorem grants_lowerExpr (hscope : scope.Canonical known) (expr : Expr Pos) :
    Grants (Node.Settled known exceptional) (lowerExpr place scope expr) := by
  induction expr using Expr.induction with
  | literal value loc =>
    rw [lowerExpr]
    exact .below (.pure (.leaf rfl rfl rfl))
  | name ident loc =>
    rw [lowerExpr]
    exact .below (.pure (.leaf rfl rfl rfl))
  | unary op operand loc hoperand =>
    rw [lowerExpr]
    refine .below (hoperand.bind fun _ hoperand => .pure ?_)
    exact .of_inner rfl rfl (List.forall_mem_singleton.mpr hoperand)
  | binary op left right loc hleft hright =>
    rw [lowerExpr]
    refine .below (hleft.bind fun _ hleft => hright.bind fun _ hright => .pure ?_)
    exact .of_inner rfl rfl
      (List.forall_mem_cons.mpr ⟨hleft, List.forall_mem_singleton.mpr hright⟩)
  | assign target value loc htarget hvalue =>
    rw [lowerExpr]
    refine .below (htarget.bind fun _ htarget => hvalue.bind fun _ hvalue => .pure ?_)
    exact .of_inner rfl rfl
      (List.forall_mem_cons.mpr ⟨htarget, List.forall_mem_singleton.mpr hvalue⟩)
  | call function args loc hfunction hargs =>
    have hargs := Grants.each hargs
    rw [← lowerExprs_eq_each] at hargs
    -- What is called by name is looked up, anything else has its own static type.
    rcases exists_name_or_computed function with ⟨ident, loc', rfl⟩ | hcomputed
    · rw [lowerExpr]
      exact .below (hargs.below.bind fun _ hargs =>
        grants_lowerNamedCall hplace hscope ident hargs _)
    · rw [lowerExpr_computed place scope hcomputed]
      exact .below (hargs.below.bind fun _ hargs =>
        (grants_staticType hplace hscope function).bind fun _ htype =>
        hfunction.bind fun _ hcallee => .pure (settled_computedCall htype hcallee hargs _))

end Expressions

/-! ## Statements -/

/-- What is left of a statement is settled, and the scope behind it is canonical. -/
def Lowered.Canonical (known exceptional : String → Prop) (lowered : Lowered) : Prop :=
  (∀ node ∈ lowered.node, node.Settled known exceptional) ∧ lowered.scope.Canonical known

section Parts

variable {known exceptional : String → Prop} {place : Place} {scope : Scope}
  (hplace : place.Canonical known exceptional) (hscope : scope.Canonical known)

omit hplace hscope in
/-- What is left out is settled. -/
theorem settled_absent : Node.absent.Settled known exceptional :=
  .leaf rfl rfl rfl

omit hplace hscope in
/-- A loop is settled if its parts are. -/
theorem settled_loop {body condition init step : Node} {span : Span}
    (hbody : body.Settled known exceptional) (hcondition : condition.Settled known exceptional)
    (hinit : init.Settled known exceptional) (hstep : step.Settled known exceptional) :
    (Node.loop body condition init step span).Settled known exceptional := by
  refine .of_inner rfl rfl (Node.Everywhere.of_mem_present ?_)
  exact List.forall_mem_cons.mpr ⟨hinit, List.forall_mem_cons.mpr ⟨hcondition,
    List.forall_mem_cons.mpr ⟨hbody, List.forall_mem_singleton.mpr hstep⟩⟩⟩

include hscope

omit hplace in
/-- A statement that binds nothing leaves the scope as it is. -/
theorem canonical_lowered {node : Node} (h : node.Settled known exceptional) :
    Lowered.Canonical known exceptional ⟨some node, scope⟩ := by
  refine ⟨fun other hother => ?_, hscope⟩
  obtain rfl := Option.some.inj hother
  exact h

omit hplace in
/-- The same where nothing is left of a statement. -/
theorem canonical_nothing : Lowered.Canonical known exceptional ⟨none, scope⟩ :=
  ⟨fun _ hnode => absurd hnode (Option.not_mem_none _), hscope⟩

include hplace

/-- An expression that may be left out is settled. -/
theorem grants_lowerOptional (expr : Option (Expr Pos)) :
    Grants (Node.Settled known exceptional) (lowerOptional place scope expr) := by
  cases expr with
  | none => exact .pure settled_absent
  | some expr => exact grants_lowerExpr hplace hscope expr

/-- A local variable is settled, and its type is canonical. -/
theorem grants_lowerDecl (decl : LocalDecl Pos) :
    Grants (Lowered.Canonical known exceptional) (lowerDecl place scope decl) := by
  refine (grants_lowerOptional hplace hscope decl.value).bind fun value hvalue =>
    (hplace.resolve decl.type).bind fun type htype => .pure ?_
  refine canonical_lowered (hscope.cons htype) (.of_inner rfl rfl fun part hpart => ?_)
  rw [(Node.mem_present.mp hpart).1]
  exact hvalue

/-- So is the first part of a `for`. -/
theorem grants_lowerInit (init : ForInit Pos) :
    Grants (Lowered.Canonical known exceptional) (lowerInit place scope init) := by
  cases init with
  | none => exact .pure (canonical_nothing hscope)
  | expr value loc =>
    refine .below ((grants_lowerExpr hplace hscope value).bind fun value hvalue =>
      .pure (canonical_lowered hscope ?_))
    exact .of_inner rfl rfl (List.forall_mem_singleton.mpr hvalue)
  | decl decl => exact .below (grants_lowerDecl hplace hscope decl)

omit hscope in
/-- What a handler catches is known. -/
theorem grants_lowerCaught (loc : Pos) (type : Option (TypeExpr Pos)) :
    Grants (fun caught => ∀ type ∈ caught, known type.name) (lowerCaught place loc type) := by
  cases type with
  | none => exact .pure fun _ h => nomatch h
  | some type =>
    refine (hplace.resolve type).bind fun resolved hresolved => ?_
    cases hresolved with
    | value hname =>
      refine .pure fun caught hcaught => ?_
      obtain rfl := Option.some.inj hcaught
      exact hname
    | function _ _ => exact .report

omit hplace in
/-- A scope may be extended by what a handler catches. -/
theorem canonical_bindCaught {caught : Option ValueType}
    (hcaught : ∀ type ∈ caught, known type.name) (binder : Option String) :
    (bindCaught scope caught binder).Canonical known := by
  cases caught with
  | none => exact hscope
  | some type =>
    cases binder with
    | none => exact hscope
    | some name => exact hscope.cons (.value (hcaught type rfl))

end Parts

/-- What a statement, or a piece of one, is resolved to is settled, unless something is reported. -/
def settles (known exceptional : String → Prop) (place : Place) : Motive Pos where
  stmt stmt := ∀ {scope : Scope}, scope.Canonical known →
    Grants (Lowered.Canonical known exceptional) (lowerStmt place scope stmt)
  block block := ∀ {scope : Scope}, scope.Canonical known →
    Grants (Node.Settled known exceptional) (lowerBlock place scope block)
  handler handler := ∀ {scope : Scope}, scope.Canonical known →
    Grants (Clause.Settled known exceptional) (lowerHandler place scope handler)
  branch branch := ∀ {scope : Scope}, scope.Canonical known →
    Grants (Node.Settled known exceptional) (lowerBranch place scope branch)
  otherwise otherwise := ∀ {scope : Scope}, scope.Canonical known →
    Grants (Node.Settled known exceptional) (lowerOtherwise place scope otherwise)

section Statements

variable {known exceptional : String → Prop} {place : Place}

/-- Statements in a row are settled if each of them is. -/
theorem grants_lowerStmts {stmts : List (Stmt Pos)}
    (h : ∀ stmt ∈ stmts, (settles known exceptional place).stmt stmt) {scope : Scope}
    (hscope : scope.Canonical known) :
    Grants (fun nodes => ∀ node ∈ nodes, node.Settled known exceptional)
      (lowerStmts place scope stmts) := by
  induction stmts generalizing scope with
  | nil => exact .pure (List.forall_mem_nil _)
  | cons stmt rest ih =>
    obtain ⟨hstmt, hrest⟩ := List.forall_mem_cons.mp h
    rw [lowerStmts]
    -- The scope behind the first statement is canonical too.
    refine (hstmt hscope).bind fun first hfirst => (ih hrest hfirst.2).bind fun _ hnodes =>
      .pure (List.forall_mem_append.mpr ⟨fun node hnode => ?_, hnodes⟩)
    exact hfirst.1 node (Option.mem_toList.mp hnode)

/-- A thrown value is settled, along with its type. -/
theorem grants_lowerThrow (hplace : place.Canonical known exceptional) {scope : Scope}
    (hscope : scope.Canonical known) (value : Expr Pos) (loc : Pos) :
    Grants (Lowered.Canonical known exceptional) (lowerStmt place scope (.throw value loc)) := by
  rw [lowerStmt]
  refine .below ((grants_staticType hplace hscope value).bind fun type htype =>
    (grants_lowerExpr hplace hscope value).bind fun _ hvalue =>
    .pure (canonical_lowered hscope (Node.Everywhere.of_inner (by rintro _ _ _ ⟨⟩)
      ⟨?_, by rintro _ _ _ ⟨⟩⟩ (List.forall_mem_singleton.mpr hvalue))))
  -- The type of the operand is canonical, and a function type is not kept.
  rintro name hname
  obtain ⟨thrown, hthrown, rfl⟩ := List.mem_map.mp hname
  obtain ⟨resolved, rfl, hvalue⟩ := Option.bind_eq_some_iff.mp (Option.mem_toList.mp hthrown)
  cases htype resolved rfl with
  | value hknown => exact Option.some.inj hvalue ▸ hknown
  | function _ _ => cases hvalue

/-- A statement is settled if its pieces are. -/
theorem settles_inherited (hplace : place.Canonical known exceptional) :
    (settles known exceptional place).Inherited where
  stmt stmt inside scope hscope := by
    cases stmt with
    | expr value loc =>
      rw [lowerStmt]
      refine .below ((grants_lowerExpr hplace hscope value).bind fun _ hvalue =>
        .pure (canonical_lowered hscope ?_))
      exact .of_inner rfl rfl (List.forall_mem_singleton.mpr hvalue)
    | decl decl =>
      rw [lowerStmt]
      exact .below (grants_lowerDecl hplace hscope decl)
    | block block =>
      rw [lowerStmt]
      exact .below ((inside hscope).bind fun _ hblock => .pure (canonical_lowered hscope hblock))
    | ret value loc =>
      rw [lowerStmt]
      refine .below ((grants_lowerOptional hplace hscope value).bind fun _ hvalue =>
        .pure (canonical_lowered hscope (.of_inner rfl rfl fun part hpart => ?_)))
      rw [(Node.mem_present.mp hpart).1]
      exact hvalue
    | throw value loc => exact grants_lowerThrow hplace hscope value loc
    | guarded body handlers loc =>
      obtain ⟨hbody, hhandlers⟩ := inside
      rw [lowerStmt, lowerHandlers_eq_each]
      exact .below ((hbody hscope).bind fun _ hbody =>
        (Grants.each fun handler hmem => hhandlers handler hmem hscope).below.bind
          fun _ hclauses => .pure (canonical_lowered hscope (.guarded hbody hclauses)))
    | branch branch =>
      rw [lowerStmt]
      exact (inside hscope).bind fun _ hbranch => .pure (canonical_lowered hscope hbranch)
    | «while» condition body loc | doWhile body condition loc =>
      rw [lowerStmt]
      exact .below ((inside hscope).bind fun _ hbody =>
        (grants_lowerExpr hplace hscope condition).bind fun _ hcondition =>
        .pure (canonical_lowered hscope
          (settled_loop hbody hcondition settled_absent settled_absent)))
    | «for» init condition step body loc =>
      rw [lowerStmt]
      -- The scope behind the first part is canonical too.
      refine .below ((grants_lowerInit hplace hscope init).bind fun init hinit =>
        (grants_lowerOptional hplace hinit.2 condition).bind fun _ hcondition =>
        (grants_lowerOptional hplace hinit.2 step).bind fun _ hstep =>
        (inside hinit.2).bind fun _ hbody =>
        .pure (canonical_lowered hscope (settled_loop hbody hcondition ?_ hstep)))
      cases hnode : init.node with
      | none => exact settled_absent
      | some node => exact hinit.1 node hnode
    | rethrow loc | «break» loc | «continue» loc =>
      rw [lowerStmt]
      exact .below (.pure (canonical_lowered hscope (.leaf rfl rfl rfl)))
    | empty loc =>
      rw [lowerStmt]
      exact .below (.pure (canonical_nothing hscope))
  block statements loc hstatements scope hscope := by
    rw [lowerBlock]
    exact .below ((grants_lowerStmts hstatements hscope).bind fun _ hnodes =>
      .pure (.of_inner rfl rfl (Node.Everywhere.of_mem_present hnodes)))
  handler type binder block loc hblock scope hscope := by
    rw [lowerHandler]
    exact .below ((grants_lowerCaught hplace loc type).bind fun _ hcaught =>
      (hblock (canonical_bindCaught hscope hcaught binder)).bind fun _ hblock =>
      .pure ⟨hcaught, hblock⟩)
  branch condition whenTrue otherwise loc hwhenTrue hotherwise scope hscope := by
    rw [lowerBranch]
    refine .below ((grants_lowerExpr hplace hscope condition).bind fun _ hcondition =>
      (hwhenTrue hscope).bind fun _ htrue => (hotherwise hscope).bind fun _ hfalse =>
      .pure (.of_inner rfl rfl (Node.Everywhere.of_mem_present ?_)))
    exact List.forall_mem_cons.mpr ⟨hcondition, List.forall_mem_cons.mpr ⟨htrue,
      List.forall_mem_singleton.mpr hfalse⟩⟩
  nothing _ := .pure settled_absent
  elseBlock block hblock _ hscope := by
    rw [lowerOtherwise]
    exact hblock hscope
  elseIf branch hbranch _ hscope := by
    rw [lowerOtherwise]
    refine .below ((hbranch hscope).bind fun _ hbranch =>
      .pure (.of_inner rfl rfl (Node.Everywhere.of_mem_present ?_)))
    exact List.forall_mem_singleton.mpr hbranch

end Statements

/-! ## Functions -/

section Functions

variable {known exceptional : String → Prop} {place : Place}
  (hplace : place.Canonical known exceptional)

include hplace

/-- The types of parameters are canonical. -/
theorem grants_paramScope (params : List (Param Pos)) {scope : Scope}
    (hscope : scope.Canonical known) :
    Grants (Scope.Canonical known) (paramScope place params scope) := by
  induction params generalizing scope with
  | nil => exact .pure hscope
  | cons param rest ih =>
    rw [paramScope]
    cases param.name with
    | none => exact ih hscope
    | some name => exact (hplace.resolve param.type).bind fun _ htype => ih (hscope.cons htype)

/-- A resolved body is settled. -/
theorem grants_lowerBody (definition : FunctionDef Pos) :
    Grants (fun body => ∀ node ∈ body, node.Settled known exceptional)
      (lowerBody place definition) := by
  unfold lowerBody
  cases definition.body with
  | none => exact .pure nofun
  | some body =>
    refine .below ((grants_paramScope hplace definition.params fun _ h =>
      absurd h List.not_mem_nil).bind fun _ hscope =>
      ((settles_inherited hplace).block_holds body hscope).bind fun _ hbody =>
      .pure fun node hnode => ?_)
    obtain rfl := Option.some.inj hnode
    exact hbody

end Functions

/-! ## Programs -/

/-- The name of an exception that is declared or of a type that is built in, and not that of an
alias. -/
structure IsCanonicalName (sources : List (String × Program Pos)) (name : String) : Prop where
  /-- It denotes a type of its own. -/
  declared_or_builtin : name ∈ exceptionNames sources ∨ name ∈ builtins
  /-- No alias has it. -/
  not_alias : name ∉ (aliasDefs sources).map (·.2.name)

section Programs

variable {sources : List (String × Program Pos)} {depth : Option Nat}

/-- Without an error in the types, no alias has the name of a type of its own. -/
theorem isCanonicalName_of_isBase (h : (Types.ofPrograms sources).Clean depth) {name : String}
    (hname : (programTypes sources).isBase name = true) : IsCanonicalName sources name := by
  have hbase : name ∈ exceptionNames sources ∨ name ∈ builtins := by
    simpa [Types.isBase] using hname
  refine ⟨hbase, fun halias => ?_⟩
  obtain ⟨declared, hdeclared, rfl⟩ := List.mem_map.mp halias
  obtain ⟨hnotException, hnotBuiltin⟩ := (clean_ofPrograms_iff.mp h).1 declared hdeclared
  exact hbase.elim hnotException hnotBuiltin

/-- In a program, names stand for types whose names stand for themselves. -/
theorem grants_lookup (sources : List (String × Program Pos)) (name : String) (span : Span) :
    Grants (Ty.Canonical fun name => (programTypes sources).isBase name = true)
      ((programTypes sources).lookup name span) :=
  Types.grants_follow (Types.enough_length _) name span

/-- Whatever is taken for an exception was declared as one. -/
theorem grants_exception? (types : Types) (name : String) :
    Grants (fun found => ∀ type ∈ found, type.name ∈ types.exceptions) (types.exception? name) := by
  unfold Types.exception?
  refine .below ?_
  split
  case isTrue hname =>
    refine .pure fun type htype => ?_
    obtain rfl := Option.some.inj htype
    exact List.contains_iff_mem.mp hname
  case isFalse =>
    split
    · exact .pure nofun
    · refine (Grants.anything _).bind fun found _ => .pure ?_
      intro type htype
      exact List.contains_iff_mem.mp (Option.filter_eq_some_iff.mp htype).2

/-- In a program without errors only canonical types are found. -/
theorem canonical_place (h : (lowerProgram sources).Clean depth) (file : String) :
    Place.Canonical (fun name => (programTypes sources).isBase name = true)
      (· ∈ exceptionNames sources) ⟨programGlobals sources, file⟩ where
  resolve type := grants_resolveType (grants_lookup sources) type
  call name arity overload hcall := by
    obtain ⟨hmem, _⟩ := (call?_eq_some_iff (nodup_keys_programGlobals sources)).mp hcall
    obtain ⟨header, hheader, rfl⟩ := exists_header_of_mem_overloadsOf hmem
    obtain ⟨declared, hdeclared, rfl⟩ := List.mem_map.mp hheader
    -- The header of the function was resolved without an error.
    have hclean := (clean_lowerProgram_iff.mp h).2.1 declared.1 declared.2 hdeclared
    have hreturn := (clean_bind_iff.mp hclean).1.of_below
    exact grants_resolveType (grants_lookup sources) declared.2.returnType depth hreturn
  construct name := by
    have hexception := grants_exception? (programTypes sources) name
    rwa [exceptions_programTypes] at hexception
  known_of_exceptional name hname := by simp [Types.isBase, hname]
  known_of_builtin name hname := by simp [Types.isBase, hname]

end Programs

/-- If nothing is reported for a program, then every name of a type that its functions carry, in the
lists of their clauses or at any place in their bodies, is the name of a declared exception or of a
type that is built in and not the name of an alias. What is constructed is always a declared
exception. -/
theorem only_canonical_names {sources : List (String × Program Pos)} {depth : Option Nat}
    (h : (lowerProgram sources).reports depth = []) :
    ∀ unit ∈ (lowerProgram sources).value, ∀ function ∈ unit.functions,
      (∀ names, function.specifier.throws = some names →
        ∀ name ∈ names, IsCanonicalName sources name) ∧
      ∀ body, function.body = some body → ∀ occurrence ∈ body.occurrences,
        (∀ name ∈ occurrence.node.typeNames, IsCanonicalName sources name) ∧
        ∀ type args span, occurrence.node = .construct type args span →
          ∃ exception, type = some exception ∧ exception.name ∈ exceptionNames sources := by
  have hclean := Logged.reports_eq_nil_iff.mp h
  obtain ⟨htypes, hheaders, hbodies⟩ := clean_lowerProgram_iff.mp hclean
  intro unit hunit function hfunction
  obtain ⟨definition, hmem, rfl⟩ := (mem_functions_iff hunit).mp hfunction
  have hcanonical : ∀ name, (programTypes sources).isBase name = true →
      IsCanonicalName sources name := fun _ => isCanonicalName_of_isBase htypes
  refine ⟨fun names hnames name hname => ?_, fun body hbody occurrence hoccurrence => ?_⟩
  · -- The clauses are those of the header.
    have hclauses := (clean_bind_iff.mp (clean_bind_iff.mp (clean_bind_iff.mp
      (hheaders _ _ hmem)).2).2).1
    exact hcanonical name (grants_resolveClauses (grants_lookup sources) definition.clauses depth
      hclauses names hnames name hname)
  · have hsettled := grants_lowerBody (canonical_place hclean unit.name) definition depth
      (clean_bind_iff.mp (hbodies _ _ hmem)).1 body hbody
    obtain ⟨hknown, hconstruct⟩ := hsettled occurrence hoccurrence
    exact ⟨fun name hname => hcanonical name (hknown name hname), hconstruct⟩

/-- A function that may throw `A`, and that throws a value of that type. -/
def throwingAlias : FunctionDef Pos where
  name := "f"
  params := []
  returnType := .named "void" false false false {}
  clauses := { throws := some ["A"] }
  body := some (.mk [.throw (.call (.name "A" {}) [] {}) {}] {})
  loc := {}

/-- Where `A` is another name for the exception `E`, it is `E` that the function lists, and `E` that
it constructs. -/
theorem canonical_throwingAlias :
    let sources : List (String × Program Pos) := [("a", {
      exceptions := [⟨"E", {}⟩]
      aliases := [⟨"A", .named "E" true false true {}, {}⟩]
      functions := [throwingAlias] })]
    (lowerProgram sources).reports none = [] ∧
    ∃ unit ∈ (lowerProgram sources).value, ∃ function ∈ unit.functions, ∃ body,
      function.body = some body ∧ function.specifier.throws = some ["E"] ∧
      IsCanonicalName sources "E" ∧
      ∃ occurrence ∈ body.occurrences, ∃ type args span,
        occurrence.node = .construct type args span ∧
        ∃ exception, type = some exception ∧ exception.name ∈ exceptionNames sources := by
  intro sources
  have hclean : (lowerProgram sources).reports none = [] :=
    List.isEmpty_iff.mp (by decide +kernel)
  let constructed : Node := .construct (some ⟨"E", true, false, true⟩) [] (spanAt "a" {})
  let thrown : Node := .throw constructed (some ⟨"E", true, false, true⟩) (spanAt "a" {})
  let body : Node := .block [thrown] (spanAt "a" {})
  let function : Function := (loweredIn sources "a" throwingAlias).value
  obtain ⟨unit, hunit, hname⟩ : ∃ unit ∈ (lowerProgram sources).value, unit.name = "a" :=
    exists_unit_of_mem List.mem_cons_self
  have hfunction : function ∈ unit.functions :=
    (mem_functions_iff hunit).mpr ⟨throwingAlias, hname ▸ List.mem_cons_self, hname ▸ rfl⟩
  have hbody : function.body = some body := rfl
  have hthrows : function.specifier.throws = some ["E"] := rfl
  -- The construction is inside the throw, which is inside the block.
  have hself : ⟨[], constructed⟩ ∈ constructed.occurrences := by
    rw [Node.occurrences_eq]
    exact List.mem_cons_self
  have hconstructed : (.inside, constructed) ∈ thrown.parts := List.mem_cons_self
  have hthrown : (.inside, thrown) ∈ body.parts := List.mem_cons_self
  have hoccurrence : ⟨[.inside, .inside], constructed⟩ ∈ body.occurrences :=
    Node.under_mem_occurrences hthrown (Node.under_mem_occurrences hconstructed hself)
  obtain ⟨hlisted, hcarried⟩ := only_canonical_names hclean unit hunit function hfunction
  exact ⟨hclean, unit, hunit, function, hfunction, body, hbody, hthrows,
    hlisted _ hthrows "E" List.mem_cons_self, _, hoccurrence, _, _, _, rfl,
    (hcarried body hbody _ hoccurrence).2 _ _ _ rfl⟩

end Throws.Resolution
