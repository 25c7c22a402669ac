import Throws.Proofs.AliasGraph
import Throws.Proofs.ExceptionNames
import Throws.Proofs.LexicalScope

/-!
# Names of types that are in use

Names of types are resolved where a function needs them: in its signature, in the declarations and
handlers of its body, and where a call may be the construction of an exception. From there aliases
are followed. So a program for which nothing is reported has no broken name among those that are in
use (`InUse`), which again is read off the text.

Nothing else is ever looked at. An alias that no function needs may stand for anything, and its
target is the only place for a name that is broken and not reported
(`unreported_names_are_in_unused_targets`).
-/

namespace Throws.Surface

/-! ## Types in statements -/

/-- The type that a handler names. -/
def Handler.type? : Handler Pos → Option (TypeExpr Pos)
  | .mk type _ _ _ => type

/-- The types that a statement names, apart from those in its blocks. -/
def Stmt.types : Stmt Pos → List (TypeExpr Pos)
  | .decl inner => [inner.type]
  | .for (.decl inner) _ _ _ _ => [inner.type]
  | .guarded _ handlers _ => handlers.filterMap Handler.type?
  | _ => []

/-- The types that a function names in its signature and in its body. -/
inductive FunctionDef.NamesType (definition : FunctionDef Pos) : TypeExpr Pos → Prop
  /-- The type of what is returned. -/
  | returned : NamesType definition definition.returnType
  /-- The type of a parameter. -/
  | param {param : Param Pos} : param ∈ definition.params → NamesType definition param.type
  /-- A type in a statement of the body. -/
  | stmt {body : Block Pos} {stmt : Stmt Pos} {type : TypeExpr Pos} : definition.body = some body →
      body.Contains stmt → type ∈ stmt.types → NamesType definition type

/-- Somewhere in the body a name is called that no parameter and no variable hides. -/
def FunctionDef.Calls (definition : FunctionDef Pos) (name : String) : Prop :=
  ∃ (position : Position) (expr : Expr Pos) (loc : Pos) (args : List (Expr Pos)) (loc' : Pos),
    definition.body = some (position.fill expr) ∧
      .call (.name name loc) args loc' ∈ expr.calls ∧
      position.nearest? definition.params name = none

end Throws.Surface

namespace Throws.Resolution

open Throws.Surface

/-! ## Names of types in programs -/

/-- A function of the program has the name in one of its types, lists it in a `throws` clause, or
calls it where it is the name of a type. -/
inductive Needed (sources : List (String × Program Pos)) : String → Prop
  /-- The name is part of a type. -/
  | named {file name : String} {definition : FunctionDef Pos} {type : TypeExpr Pos} :
      (file, definition) ∈ declarations sources → definition.NamesType type → name ∈ type.names →
      Needed sources name
  /-- The name is listed in a clause of the function. -/
  | listed {file name : String} {definition : FunctionDef Pos} :
      (file, definition) ∈ declarations sources → name ∈ definition.clauses.throws.getD [] →
      Needed sources name
  /-- The name is called. -/
  | called {file name : String} {definition : FunctionDef Pos} :
      (file, definition) ∈ declarations sources → definition.Calls name →
      (programTypes sources).isTaken name = true → Needed sources name

/-- A function needs the name, or aliases lead to it from such a name. -/
def InUse (sources : List (String × Program Pos)) (name : String) : Prop :=
  ∃ first, Needed sources first ∧ Relation.ReflTransGen (programTypes sources).Uses first name

/-- The name is written as that of a type anywhere in the program, in the target of an alias as
well. -/
inductive WrittenIn (sources : List (String × Program Pos)) : String → Prop
  /-- A function needs the name. -/
  | function {name : String} : Needed sources name → WrittenIn sources name
  /-- The name is part of the target of an alias. -/
  | target {file name : String} {definition : AliasDef Pos} :
      (file, definition) ∈ aliasDefs sources → name ∈ definition.target.names →
      WrittenIn sources name

/-! ## Types that are resolved without errors -/

section Grounding

variable {types : Types} {file name : String}

theorem grounded_of_log_resolve {type : TypeExpr Pos} (h : (types.resolve file type).log = [])
    (hname : name ∈ type.names) : types.Grounded name := by
  have hnames := ((Types.log_resolveType_follow_eq_nil_iff types.enough_length).mp h).1
  exact Types.grounded_of_log_follow types.enough_length (hnames name hname {})

theorem grounded_of_log_annotate {clauses : Clauses Pos}
    (h : (types.annotate file clauses).log = []) (hname : name ∈ clauses.throws.getD []) :
    types.Grounded name :=
  Types.grounded_of_log_follow types.enough_length
    (log_resolveClauses_eq_nil_iff.mp h name hname).1

/-- The target of an alias is resolved where the alias is called. -/
theorem grounded_of_log_exception? {sources : List (String × Program Pos)}
    (h : ((programTypes sources).exception? name).log = [])
    (htaken : (programTypes sources).isTaken name = true) :
    (programTypes sources).Grounded name := by
  cases halias : (programTypes sources).alias? name with
  | none =>
    rw [Types.isTaken, halias, Option.isSome_none, Bool.or_false] at htaken
    exact .base htaken
  | some target =>
    -- No alias has the name of an exception, so its target is resolved.
    have hbase := isBase_of_alias?_programTypes halias
    have hexception : (programTypes sources).exceptions.contains name = false :=
      (Bool.or_eq_false_iff.mp hbase).1
    rw [Types.exception?, Logged.log_below, hexception, halias] at h
    have htarget := (List.append_eq_nil_iff.mp h).1
    exact .step hbase halias fun other hother => grounded_of_log_resolve htarget hother

theorem log_headerResolve_eq_nil_iff {definition : FunctionDef Pos} :
    (Header.resolve types file definition).log = [] ↔
      (types.resolve file definition.returnType).log = [] ∧
        (∀ param ∈ definition.params, (types.resolve file param.type).log = []) ∧
        (types.annotate file definition.clauses).log = [] := by
  simp only [Header.resolve, Logged.log_bind, Logged.log_below, Logged.log_pure,
    List.append_eq_nil_iff, log_resolveAll_eq_nil_iff, List.forall_mem_map, and_true]
  rfl

end Grounding

/-! ## Bodies that are resolved without errors -/

section Bodies

variable (place : Place) (scope : Scope)

/-- Where nothing is reported for an expression, nothing is reported for those inside of it. -/
theorem log_lowerExpr_of_mem_pieces {piece expr : Expr Pos}
    (h : (lowerExpr place scope expr).log = []) (hpiece : piece ∈ expr.pieces) :
    (lowerExpr place scope piece).log = [] := by
  induction expr using Expr.induction with
  | literal value loc | name ident loc => exact List.mem_singleton.mp hpiece ▸ h
  | unary op operand loc hoperand =>
    rcases List.mem_cons.mp hpiece with rfl | hpiece
    · exact h
    simp only [lowerExpr, Logged.log_below, Logged.log_bind, List.append_eq_nil_iff] at h
    exact hoperand h.1 hpiece
  | binary op first second loc hfirst hsecond | assign first second loc hfirst hsecond =>
    rcases List.mem_cons.mp hpiece with rfl | hpiece
    · exact h
    simp only [lowerExpr, Logged.log_below, Logged.log_bind, List.append_eq_nil_iff] at h
    exact (List.mem_append.mp hpiece).elim (hfirst h.1) (hsecond h.2.1)
  | call function args loc hfunction hargs =>
    have hrest : (lowerExprs place scope args).log = [] → piece ∈ piecesAll args →
        (lowerExpr place scope piece).log = [] := by
      intro hlog hmem
      rw [lowerExprs_eq_each, Logged.log_each, List.flatMap_eq_nil_iff] at hlog
      rw [piecesAll_eq_flatMap] at hmem
      obtain ⟨arg, harg, hmem⟩ := List.mem_flatMap.mp hmem
      exact hargs arg harg (hlog arg harg) hmem
    -- A name in front of the arguments is part of the call.
    rcases exists_name_or_computed function with ⟨ident, loc, rfl⟩ | hcomputed
    · rcases List.mem_cons.mp hpiece with rfl | hpiece
      · exact h
      simp only [lowerExpr, Logged.log_below, Logged.log_bind, List.append_eq_nil_iff] at h
      exact hrest h.1 hpiece
    · rw [Expr.pieces_computed hcomputed] at hpiece
      rcases List.mem_cons.mp hpiece with rfl | hpiece
      · exact h
      rw [lowerExpr_computed place scope hcomputed] at h
      simp only [Logged.log_below, Logged.log_bind, List.append_eq_nil_iff] at h
      exact (List.mem_append.mp hpiece).elim (hfunction h.2.2.1) (hrest h.1)

variable {place scope}

/-- Where nothing is reported for a call, nothing is reported for what may be constructed by it. -/
theorem log_exception?_of_log_lowerExpr {name : String} {loc loc' : Pos} {args : List (Expr Pos)}
    (hlookup : scope.lookup name = none)
    (h : (lowerExpr place scope (.call (.name name loc) args loc')).log = []) :
    (place.globals.types.exception? name).log = [] := by
  simp only [lowerExpr, lowerNamedCall, hlookup, Logged.log_below, Logged.log_bind,
    List.append_eq_nil_iff] at h
  exact h.2.1

/-- Where nothing is reported for a statement, nothing is reported for the types it names. -/
theorem log_resolve_of_log_lowerStmt {stmt : Stmt Pos} {type : TypeExpr Pos}
    (h : (lowerStmt place scope stmt).log = []) (htype : type ∈ stmt.types) :
    (place.resolve type).log = [] := by
  cases stmt with
  | decl inner =>
    obtain rfl := List.mem_singleton.mp htype
    simp only [lowerStmt, lowerDecl, Logged.log_below, Logged.log_bind, List.append_eq_nil_iff] at h
    exact h.2.1
  | «for» init condition step body loc =>
    cases init with
    | decl inner =>
      obtain rfl := List.mem_singleton.mp htype
      simp only [lowerStmt, lowerInit, lowerDecl, Logged.log_below, Logged.log_bind,
        List.append_eq_nil_iff] at h
      exact h.1.2.1
    | _ => cases htype
  | guarded body handlers loc =>
    obtain ⟨⟨caught, binder, block, handlerLoc⟩, hhandler, rfl⟩ := List.mem_filterMap.mp htype
    simp only [lowerStmt, Logged.log_below, Logged.log_bind, List.append_eq_nil_iff,
      lowerHandlers_eq_each, Logged.log_each, List.flatMap_eq_nil_iff] at h
    have hcaught := h.2.1 _ hhandler
    simp only [lowerHandler, lowerCaught, Logged.log_below, Logged.log_bind,
      List.append_eq_nil_iff] at hcaught
    exact hcaught.1.1
  | _ => cases htype

variable {params : List (Param Pos)}

/-- Where nothing is reported for a body, nothing is reported for any of its statements. -/
theorem exists_log_lowerStmt {body : Block Pos} {stmt : Stmt Pos}
    (h : (lowerBlock place (scopeOf place (paramBindings params)) body).log = [])
    (hstmt : body.Contains stmt) : ∃ scope, (lowerStmt place scope stmt).log = [] := by
  obtain ⟨path, earlier, later, loc, rfl⟩ := hstmt.exists_path
  -- The log of the body is that of the innermost block with the logs of what is around it.
  let block : Unit → Block Pos := fun _ => .mk (earlier ++ stmt :: later) loc
  obtain ⟨_, before, after, hblock⟩ := surrounds_surround place params path
    (.refl fun a => lowerBlock place (scopeOf place (bindingsAround params path)) (block a))
  rw [(hblock ()).2, List.append_eq_nil_iff, List.append_eq_nil_iff] at h
  have hstmts := h.1.2
  simp only [block, lowerBlock, Logged.log_below, Logged.log_bind, List.append_eq_nil_iff,
    (lowerStmts_append place _ earlier (stmt :: later)).2, lowerStmts] at hstmts
  exact ⟨_, hstmts.1.2.1⟩

/-- Where nothing is reported for a body, nothing is reported for what may be constructed by the
calls in it. -/
theorem log_exception?_of_log_lowerBlock {position : Position} {expr : Expr Pos} {name : String}
    {loc loc' : Pos} {args : List (Expr Pos)}
    (h : (lowerBlock place (scopeOf place (paramBindings params)) (position.fill expr)).log = [])
    (hcall : .call (.name name loc) args loc' ∈ expr.calls)
    (hnearest : position.nearest? params name = none) :
    (place.globals.types.exception? name).log = [] := by
  obtain ⟨_, before, after, hexpr⟩ := surrounds_position place params position
  rw [(hexpr expr).2, List.append_eq_nil_iff, List.append_eq_nil_iff] at h
  have hlog : (lowerExpr place (scopeOf place (position.visible params)) expr).log = [] := by
    have hresolved := h.1.2
    -- Only what is thrown is looked at in another way before it is lowered.
    cases hslot : position.slot with
    | throw loc =>
      rw [hslot] at hresolved
      simp only [resolvedAt, Logged.log_bind, List.append_eq_nil_iff] at hresolved
      exact hresolved.2.1
    | _ =>
      rw [hslot] at hresolved
      exact hresolved
  -- A name without a binding around it is looked up among the types.
  refine log_exception?_of_log_lowerExpr ?_
    (log_lowerExpr_of_mem_pieces _ _ hlog (List.mem_of_mem_filter hcall))
  rw [lookup_scopeOf, bound?_visible, hnearest]
  rfl

end Bodies

/-! ## Programs that are resolved without errors -/

section Programs

variable {sources : List (String × Program Pos)} {file name : String}
  {definition : FunctionDef Pos}

theorem log_headerIn_of_log_lowerProgram (h : (lowerProgram sources).log = [])
    (hdefinition : (file, definition) ∈ declarations sources) :
    (headerIn sources file definition).log = [] := by
  simp only [log_lowerProgram, List.append_eq_nil_iff, List.flatMap_eq_nil_iff] at h
  exact h.1.2 _ hdefinition

theorem log_lowerBlock_of_log_lowerProgram (h : (lowerProgram sources).log = [])
    (hdefinition : (file, definition) ∈ declarations sources) {body : Block Pos}
    (hbody : definition.body = some body) :
    let place : Place := ⟨programGlobals sources, file⟩
    (lowerBlock place (scopeOf place (paramBindings definition.params)) body).log = [] := by
  intro place
  simp only [log_lowerProgram, List.append_eq_nil_iff, List.flatMap_eq_nil_iff] at h
  have hlowered : (lowerBody place definition).log = [] :=
    (List.append_eq_nil_iff.mp (h.2 _ hdefinition)).1
  rw [log_lowerBody place hbody, value_paramScope, List.append_nil] at hlowered
  exact (List.append_eq_nil_iff.mp hlowered).2

/-- Where nothing is reported for a program, nothing is reported for the types its functions
name. -/
theorem log_resolve_of_namesType (h : (lowerProgram sources).log = [])
    (hdefinition : (file, definition) ∈ declarations sources) {type : TypeExpr Pos}
    (htype : definition.NamesType type) : ((programTypes sources).resolve file type).log = [] := by
  have hheader := log_headerResolve_eq_nil_iff.mp (log_headerIn_of_log_lowerProgram h hdefinition)
  cases htype with
  | returned => exact hheader.1
  | param hparam => exact hheader.2.1 _ hparam
  | stmt hbody hstmt hmem =>
    have hblock := log_lowerBlock_of_log_lowerProgram h hdefinition hbody
    obtain ⟨scope, hlog⟩ := exists_log_lowerStmt hblock hstmt
    exact log_resolve_of_log_lowerStmt hlog hmem

/-- Where nothing is reported for a program, the names that its functions need are grounded. -/
theorem Needed.grounded (hneeded : Needed sources name) (h : (lowerProgram sources).log = []) :
    (programTypes sources).Grounded name := by
  cases hneeded with
  | named hdefinition htype hname =>
    exact grounded_of_log_resolve (log_resolve_of_namesType h hdefinition htype) hname
  | listed hdefinition hname =>
    have hheader := log_headerIn_of_log_lowerProgram h hdefinition
    exact grounded_of_log_annotate (log_headerResolve_eq_nil_iff.mp hheader).2.2 hname
  | called hdefinition hcalls htaken =>
    obtain ⟨position, expr, loc, args, loc', hbody, hcall, hnearest⟩ := hcalls
    have hblock := log_lowerBlock_of_log_lowerProgram h hdefinition hbody
    exact grounded_of_log_exception?
      (log_exception?_of_log_lowerBlock hblock hcall hnearest) htaken

/-- What the target of an alias in use mentions is in use. -/
theorem InUse.target (huse : InUse sources name) {target : AliasTarget}
    (htarget : (programTypes sources).alias? name = some target) {other : String}
    (hother : other ∈ target.type.names) : InUse sources other := by
  obtain ⟨first, hfirst, hpath⟩ := huse
  have huses : (programTypes sources).Uses name other :=
    ⟨target, isBase_of_alias?_programTypes htarget, htarget, hother⟩
  exact ⟨first, hfirst, hpath.tail huses⟩

theorem InUse.grounded (huse : InUse sources name) (h : (lowerProgram sources).log = []) :
    (programTypes sources).Grounded name := by
  obtain ⟨first, hfirst, hpath⟩ := huse
  exact (hfirst.grounded h).of_reflTransGen hpath

/-- A program for which nothing is reported has no broken name among those in use. So all names of
types that are written in it are grounded exactly if those in the targets of unused aliases are,
which nothing looks at. -/
theorem unreported_names_are_in_unused_targets (h : (lowerProgram sources).log = []) :
    (∀ name, InUse sources name → (programTypes sources).Grounded name) ∧
      ((∀ name, WrittenIn sources name → (programTypes sources).Grounded name) ↔
        ∀ file definition, (file, definition) ∈ aliasDefs sources →
          ¬ InUse sources definition.name →
          ∀ name ∈ definition.target.names, (programTypes sources).Grounded name) := by
  refine ⟨fun name huse => huse.grounded h, fun hall file definition hmem _ name hname => ?_,
    fun hunused name hwritten => ?_⟩
  · exact hall name (.target hmem hname)
  · cases hwritten with
    | function hneeded => exact hneeded.grounded h
    | @target file _ definition hmem hname =>
      by_cases huse : InUse sources definition.name
      · -- No name is declared twice, so the alias stands for this target.
        have hclean : (Types.ofPrograms sources).Clean none := by
          rw [log_lowerProgram, List.append_eq_nil_iff, List.append_eq_nil_iff] at h
          exact congrArg (Trail.Reading.mk · true) h.1.1
        have htarget := (alias?_programTypes_eq_some_iff hclean).mpr
          ⟨(file, definition), hmem, rfl⟩
        exact (huse.target htarget hname).grounded h
      · exact hunused file definition hmem huse name hname

/-- A program that lists an exception under another name, and has an alias for a type that does not
exist. -/
def danglingTarget : List (String × Program Pos) :=
  [("a.tc", {
    exceptions := [⟨"Failure", {}⟩]
    aliases := [⟨"Error", .named "Failure" false false false {}, {}⟩,
      ⟨"Unused", .named "Missing" false false false {}, {}⟩]
    functions := [{
      name := "f", params := [], returnType := .named "void" false false false {}
      clauses := { throws := some ["Error"] }, body := none, loc := {} }] })]

/-- Nothing is reported, though the target of an alias is broken. The names that the function needs
are not, and the alias is not in use. -/
theorem unreported_danglingTarget :
    (lowerProgram danglingTarget).log = [] ∧ InUse danglingTarget "Failure" ∧
      (programTypes danglingTarget).Grounded "Failure" ∧ WrittenIn danglingTarget "Missing" ∧
      ¬ (programTypes danglingTarget).Grounded "Missing" ∧ ¬ InUse danglingTarget "Unused" := by
  have hlog : (lowerProgram danglingTarget).log = [] := rfl
  have hneeded : Needed danglingTarget "Error" :=
    .listed (List.mem_singleton.mpr rfl) (List.mem_singleton.mpr rfl)
  have huse : InUse danglingTarget "Failure" :=
    InUse.target ⟨"Error", hneeded, .refl⟩ rfl (List.mem_singleton.mpr rfl)
  have hwritten : WrittenIn danglingTarget "Missing" :=
    .target (List.mem_cons_of_mem _ (List.mem_singleton.mpr rfl)) (List.mem_singleton.mpr rfl)
  have hmissing : ¬ (programTypes danglingTarget).Grounded "Missing" := fun hgrounded =>
    absurd hgrounded.isTaken (by decide)
  obtain ⟨hgrounded, hiff⟩ := unreported_names_are_in_unused_targets hlog
  refine ⟨hlog, huse, hgrounded _ huse, hwritten, hmissing, fun hunused => ?_⟩
  exact hmissing ((hgrounded _ hunused).of_uses ⟨_, rfl, rfl, List.mem_singleton.mpr rfl⟩)

end Programs

end Throws.Resolution
