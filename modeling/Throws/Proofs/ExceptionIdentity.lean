import Throws.Proofs.DefinitionReport
import Throws.Proofs.ExceptionNames
import Throws.Proofs.ProgramOutcome
import Throws.Proofs.TableContents

/-!
# Throwing, catching and promising an exception

Whatever constructs an exception under a name throws the exception that a handler for the name
catches and that a `throws` clause with the name allows (`one_exception_per_name`). So what is
thrown right inside of a `try` for the same name does not get out of it, and a function that throws
what its clause lists keeps its promise.
-/

namespace Throws.Effect

open Throws.Body

/-! ## Walks through a throw -/

/-- The walk comes to its end with the given value, whatever was met before. -/
def Walk.Returns {α : Type} (walk : Walk α) (a : α) : Prop :=
  ∀ trace, ∃ after, walk trace = (.ok a, after)

namespace Walk.Returns

variable {α β : Type} {walk : Walk α} {a : α} {b : β}

theorem pure (a : α) : Returns (Pure.pure a) a := fun trace => ⟨trace, rfl⟩

theorem bind {next : α → Walk β} (hfirst : walk.Returns a) (hnext : (next a).Returns b) :
    Returns (walk >>= next) b := by
  intro trace
  obtain ⟨between, hbetween⟩ := hfirst trace
  obtain ⟨after, hafter⟩ := hnext between
  exact ⟨after, by rw [Walk.bind_apply, hbetween]; exact hafter⟩

end Walk.Returns

section Walks

variable {context : Context} {type : ValueType} {handled : Option ExceptionSet}

/-- Throwing comes to the exception, unless its type is refused. -/
theorem returns_thrown (h : context.collecting = true ∨ type.isPlain = true) (span : Span) :
    (context.thrown (some type) span).Returns (.single type.name) := by
  cases hplain : type.isPlain with
  | true =>
    rw [Context.thrown, hplain]
    exact .pure _
  | false =>
    have hcollecting : context.collecting = true := h.resolve_right (by simp [hplain])
    rw [Context.thrown, hplain]
    exact .bind (fun trace => ⟨_, report_apply hcollecting _ _ trace⟩) (.pure _)

/-- A handler is passed, unless its type is refused. -/
theorem returns_checkClause {clause : Clause} (hclause : clause.type = some type)
    (h : context.collecting = true ∨ type.isPlain = true) :
    (context.checkClause clause).Returns () := by
  intro trace
  rcases h with hcollecting | hplain
  · exact ⟨_, checkClause_apply hcollecting clause trace⟩
  · obtain ⟨href, hqualified⟩ : type.isRef = false ∧ type.isQualified = false := by
      simpa [ValueType.isPlain] using hplain
    exact ⟨trace, by simp [Context.checkClause, hclause, href, hqualified]⟩

/-- The block of a lone `throw` of a new exception. -/
def throwBlock (type : ValueType) (built thrown block : Span) : Node :=
  .block [.throw (.construct (some type) [] built) (some type) thrown] block

theorem infer_throwBlock (built thrown block : Span) :
    infer context (throwBlock type built thrown block) handled = (do
      let effect ← context.thrown (some type) thrown
      return ∅ ∪ effect ∪ ∅) := by
  simp [throwBlock, infer, inferAll, optional]

/-- What a lone `throw` throws escapes from its block. -/
theorem returns_throwBlock (h : context.collecting = true ∨ type.isPlain = true)
    (built thrown block : Span) :
    (infer context (throwBlock type built thrown block) handled).Returns (.single type.name) := by
  have heffect : ∅ ∪ .single type.name ∪ ∅ = ExceptionSet.single type.name := by
    ext name
    simp
  rw [infer_throwBlock, ← heffect]
  exact .bind (returns_thrown h thrown) (.pure _)

/-- Nothing escapes if a handler for the same type stands around a lone `throw`. -/
theorem returns_guarded_throwBlock (h : context.collecting = true ∨ type.isPlain = true)
    (built thrown block span empty clause : Span) (binder : Option String) :
    (infer context (.guarded (throwBlock type built thrown block)
      [.mk (some type) binder (.block [] empty) clause] span) handled).Returns ∅ := by
  have hremaining : uncaught (.single type.name)
      [.mk (some type) binder (.block [] empty) clause] = ∅ := sdiff_self
  rw [infer_guarded]
  refine .bind (a := ∅) ?_ (.bind (a := ∅) (.pure _) (.pure _))
  -- The walk looks back at the trace from before the body, which is the one it starts with.
  intro before
  refine Walk.Returns.bind (returns_throwBlock h built thrown block)
    (.bind (a := ()) (.bind (returns_checkClause rfl h) (.pure ())) ?_) before
  rw [hremaining]
  exact .bind (fun trace => ⟨_, rfl⟩) (.pure _)

/-- Where errors are not collected, a type that is refused ends the walk. -/
theorem infer_guarded_throwBlock_of_strict (hstrict : context.collecting = false)
    (hqualified : type.isPlain = false) (built thrown block span : Span) (clauses : List Clause)
    (trace : Trace) :
    infer context (.guarded (throwBlock type built thrown block) clauses span) handled trace =
      (.error (.rejected ((Problem.thrown type).report context.function thrown)), trace) := by
  have hthrown : context.thrown (some type) thrown trace =
      (.error (.rejected ((Problem.thrown type).report context.function thrown)), trace) := by
    rw [Context.thrown, hqualified, Context.report, hstrict]
    rfl
  have hbody : infer context (throwBlock type built thrown block) handled trace =
      (.error (.rejected ((Problem.thrown type).report context.function thrown)), trace) := by
    rw [infer_throwBlock, Walk.bind_apply, hthrown]
  rw [infer, Walk.bind_apply]
  simp only [Walk.trace]
  rw [Walk.bind_apply, hbody]

end Walks

end Throws.Effect

namespace Throws.Verification

open Throws.Body Throws.Effect Throws.Signature

/-- The walk through a lone `throw` finds no fault and comes to what is thrown. -/
theorem bodySummary_throwBlock (signatures : Source) (key : FunctionKey) (type : ValueType)
    (built thrown block : Span) :
    let summary := bodySummary none signatures key (throwBlock type built thrown block)
    summary.fault? = none ∧ summary.effect = .single type.name := by
  let context : Context := { signatures := signatures, function := some key }
  have hreturns : (infer context (throwBlock type built thrown block) none).Returns
      (.single type.name) := returns_throwBlock (.inl rfl) built thrown block
  obtain ⟨after, hinfer⟩ := hreturns {}
  obtain ⟨hfault, heffect, -⟩ := (infer_eq_ok_iff rfl).mp hinfer
  exact ⟨hfault, heffect.symm⟩

/-! ## Promises of functions that are declared once -/

/-- The result has an escape from the given function. -/
def Result.EscapesFrom (result : Result) (key : FunctionKey) : Prop :=
  ∃ diagnostic ∈ result.diagnostics, diagnostic.function = some key ∧
    diagnostic.kind = .undeclaredEscape

section Promises

variable {functions : List Function} {function : Function}

/-- What is wrong with declarations is never an escape. -/
theorem kind_ne_of_run {table : Table} {step : Step} {diagnostic : Diagnostic}
    (h : step.run table = .error diagnostic) : diagnostic.kind ≠ .undeclaredEscape := by
  have hcheck : ∀ {key specifier span} {next : Unit → Except Diagnostic Table},
      (checkSpecifier key specifier span >>= next) = .error diagnostic →
      diagnostic.kind ≠ .undeclaredEscape ∨ next () = .error diagnostic := by
    intro key specifier span next hrun
    unfold checkSpecifier at hrun
    split at hrun
    · cases hrun
      exact .inl fun hkind => by cases hkind
    · exact .inr hrun
  cases step with
  | check function => exact (hcheck h).resolve_right fun hdone => by cases hdone
  | record function =>
    rcases hcheck h with hkind | hrecord
    · exact hkind
    · -- The specifier is in order, so an earlier declaration says something else.
      unfold Table.recordContract at hrecord
      split at hrecord
      · cases hrecord
      · split at hrecord
        · cases hrecord
          exact fun hkind => by cases hkind
        · split at hrecord <;> cases hrecord

theorem kind_ne_of_mem_buildTable {diagnostic : Diagnostic}
    (h : diagnostic ∈ (buildTable functions).2) : diagnostic.kind ≠ .undeclaredEscape := by
  suffices hcollect : ∀ (table : Table) (steps : List Step),
      diagnostic ∈ (collect table steps).2 → diagnostic.kind ≠ .undeclaredEscape from
    hcollect _ _ h
  intro table steps hmem
  induction steps generalizing table with
  | nil => cases hmem
  | cons step rest ih =>
    rw [collect] at hmem
    split at hmem
    case h_1 => exact ih _ hmem
    case h_2 found hrun =>
      rcases List.mem_cons.mp hmem with rfl | hmem
      · exact kind_ne_of_run hrun
      · exact ih _ hmem

/-- A function that is declared once is registered with what its declaration promises. -/
theorem effective_of_sole {table : Table} (h : buildTable functions = (table, []))
    (hmem : function ∈ functions)
    (hsole : ∀ other ∈ functions, other.key = function.key → other = function) :
    (table.lookup function.key).effective = promised function := by
  have hreflects := (reflects_buildTable (congrArg Prod.snd h)).2
  rw [h] at hreflects
  refine hreflects.effective_eq function (mem_settling_iff.mpr ⟨hmem, ?_⟩)
  intro hdefinition other hother hbodyless hkey
  rw [hsole other hother hkey, hdefinition] at hbodyless
  cases hbodyless

/-- A `throws` clause allows what it lists. -/
theorem single_subset_promised {names : List String} {name : String}
    (hthrows : function.specifier.throws = some names) (hname : name ∈ names) :
    .single name ⊆ promised function := by
  rw [promised, Specifier.meaning, hthrows]
  refine ExceptionSet.subset_iff.mpr fun other hother => ?_
  rw [ExceptionSet.mem_single.mp hother]
  split
  · exact ExceptionSet.mem_universal
  · exact NameSet.mem_ofList.mpr hname

/-- Every report is about one of the definitions. -/
theorem exists_definition_of_mem_reports {options : Options} {signatures : Source}
    {definitions : List Function} {reports : List Report}
    (h : verifyDefinitions options signatures definitions = .ok reports) :
    ∀ report ∈ reports, ∃ definition ∈ definitions,
      verifyFunction options.depth signatures definition = .ok report := by
  intro report hreport
  induction verifyDefinitions_eq_ok_iff.mp h with
  | nil => cases hreport
  | @cons definition first _ _ hfirst hrest ih =>
    rcases List.mem_cons.mp hreport with rfl | hreport
    · exact ⟨definition, List.mem_cons_self, hfirst⟩
    · obtain ⟨other, hother, hverify⟩ := ih (verifyDefinitions_eq_ok_iff.mpr hrest) hreport
      exact ⟨other, List.mem_cons_of_mem _ hother, hverify⟩

/-- Whatever is known of other functions, nothing escapes from the body of the function but what its
own clauses allow. -/
def KeepsPromise (function : Function) : Prop :=
  ∃ body, function.body = some body ∧ ∀ signatures : Source,
    (bodySummary none signatures function.key body).effect ⊆ promised function

variable {options : Options} {result : Result}

/-- No escape is reported for a function that keeps its promise and is declared once. -/
theorem KeepsPromise.kind_ne (h : KeepsPromise function) (hmem : function ∈ functions)
    (hsole : ∀ other ∈ functions, other.key = function.key → other = function) {table : Table}
    (hbuild : buildTable functions = (table, [])) {signatures : Source}
    (hlookup : signatures.lookup function.key = table.lookup function.key) {reports : List Report}
    (hreports : verifyDefinitions options signatures (functions.filter (·.isDefinition)) =
      .ok reports) :
    ∀ report ∈ reports, ∀ diagnostic ∈ report.diagnostics,
      diagnostic.function = some function.key → diagnostic.kind ≠ .undeclaredEscape := by
  intro report hreport diagnostic hdiagnostic hfunction hkind
  obtain ⟨other, hother, hverify⟩ := exists_definition_of_mem_reports hreports report hreport
  obtain ⟨body', hbody'⟩ := exists_body_of_undeclaredEscape hverify hdiagnostic hkind
  obtain ⟨hfault, rfl⟩ := (verifyFunction_eq_ok_iff hbody').mp hverify
  obtain ⟨hnot, rfl⟩ := mem_bodyReport_and_undeclaredEscape_iff.mp ⟨hdiagnostic, hkind⟩
  -- The report names the function that it is about.
  obtain rfl : other = function :=
    hsole other (List.mem_filter.mp hother).1 (Option.some.inj hfunction)
  obtain ⟨body, hbody, hallowed⟩ := h
  obtain rfl : body' = body := Option.some.inj (hbody'.symm.trans hbody)
  rw [bodySummary_eq_of_fault? hfault, hlookup, effective_of_sole hbuild hmem hsole] at hnot
  exact hnot (hallowed signatures)

theorem not_escapesFrom {key : FunctionKey}
    (htable : ∀ diagnostic ∈ result.tableDiagnostics, diagnostic.kind ≠ .undeclaredEscape)
    (hreports : ∀ report ∈ result.reports, ∀ diagnostic ∈ report.diagnostics,
      diagnostic.function = some key → diagnostic.kind ≠ .undeclaredEscape) :
    ¬ result.EscapesFrom key := by
  rintro ⟨diagnostic, hmem, hfunction, hkind⟩
  rcases List.mem_append.mp hmem with hmem | hmem
  · exact htable diagnostic hmem hkind
  · obtain ⟨report, hreport, hmem⟩ := List.mem_flatMap.mp hmem
    exact hreports report hreport diagnostic hmem hfunction hkind

/-- Verifying a program reports no escape from a function that keeps its promise and is declared
once. -/
theorem KeepsPromise.not_escapesFrom_program (h : KeepsPromise function) {units : List SourceUnit}
    (hmem : function ∈ units.flatMap (·.functions))
    (hsole : ∀ other ∈ units.flatMap (·.functions), other.key = function.key → other = function)
    (hverify : verifyProgram options units = .ok result) : ¬ result.EscapesFrom function.key := by
  rcases verifyProgram_cases hverify with ⟨_, rfl⟩ | ⟨table, reports, hbuild, hreports, rfl⟩
  · exact not_escapesFrom (fun _ => kind_ne_of_mem_buildTable) fun _ hreport => by cases hreport
  · rw [flatMap_definitions] at hreports
    exact not_escapesFrom (fun _ hdiagnostic => by cases hdiagnostic)
      (h.kind_ne hmem hsole hbuild (Table.lookup_source _ _) hreports)

/-- In a chain the first source answers for what it knows. -/
theorem lookup_chain_of_mem {table : Table} {key : FunctionKey} (h : key ∈ table.keys)
    (external : List Source) :
    (Source.chain (table.source :: external)).lookup key = table.lookup key := by
  cases hfind : table.find? key with
  | none => exact absurd h (Table.find?_eq_none_iff.mp hfind)
  | some entry => simp [Source.lookup, Source.chain, Table.source, Table.lookup, hfind]

/-- Verifying a unit does not report one either, whatever the other units are. -/
theorem KeepsPromise.not_escapesFrom_unit (h : KeepsPromise function) {unit : SourceUnit}
    (hmem : function ∈ unit.functions)
    (hsole : ∀ other ∈ unit.functions, other.key = function.key → other = function)
    {external : List Source} (hverify : verifyUnit options external unit = .ok result) :
    ¬ result.EscapesFrom function.key := by
  by_cases hclean : (buildTable unit.functions).2 = []
  · have hbuild : buildTable unit.functions = (_, []) := Prod.ext rfl hclean
    have hkey := (mem_keys_buildTable_iff hbuild).mpr ⟨function, hmem, rfl⟩
    rw [verifyUnit_of_clean hbuild] at hverify
    cases hreports : verifyDefinitions options
        (.chain ((buildTable unit.functions).1.source :: external)) unit.definitions with
    | error malformed =>
      rw [hreports] at hverify
      cases hverify
    | ok reports =>
      rw [hreports] at hverify
      cases hverify
      exact not_escapesFrom (fun _ hdiagnostic => by cases hdiagnostic)
        (h.kind_ne hmem hsole hbuild (lookup_chain_of_mem hkey external) hreports)
  · unfold verifyUnit at hverify
    split at hverify
    case h_1 heq => exact absurd (congrArg Prod.snd heq) hclean
    case h_2 table diagnostics _ heq =>
      cases hverify
      refine not_escapesFrom (fun diagnostic hdiagnostic => ?_) fun _ hreport => by cases hreport
      have hmem : diagnostic ∈ (buildTable unit.functions).2 := heq ▸ hdiagnostic
      exact kind_ne_of_mem_buildTable hmem

end Promises

end Throws.Verification

namespace Throws.Resolution

open Throws.Body Throws.Effect Throws.Surface Throws.Verification

/-! ## One exception per name -/

/-- Somewhere in the program a call of the name becomes a construction of the given type. -/
def Constructs (sources : List (String × Program Pos)) (name : String) (type : ValueType) : Prop :=
  ∃ file scope loc args loc' nodes span,
    (lowerExpr (placeIn sources file) scope (.call (.name name loc) args loc')).value =
      .construct (some type) nodes span

/-- The function lists the name in a `throws` clause and its body is a lone `throw` of a new
exception of that name, which no parameter hides. -/
structure ThrowsAsListed (name : String) (definition : FunctionDef Pos) : Prop where
  /-- The name is in the clause, with other names or without. -/
  listed : ∃ names, definition.clauses.throws = some names ∧ name ∈ names
  /-- The body throws it. -/
  thrown : ∃ nameLoc callLoc throwLoc bodyLoc, definition.body =
    some (.mk [.throw (.call (.name name nameLoc) [] callLoc) throwLoc] bodyLoc)
  /-- It is not the name of a parameter. -/
  not_hidden : ∀ param ∈ definition.params, param.name ≠ some name

section Identity

variable {sources : List (String × Program Pos)} {name : String} {type : ValueType}

/-- A name that is called to construct an exception is found to be one. -/
theorem Constructs.exception? (h : Constructs sources name type) :
    ((programTypes sources).exception? name).value = some type := by
  obtain ⟨file, scope, loc, args, loc', nodes, span, h⟩ := h
  rw [value_lowerExpr_named, lowerNamedCall] at h
  split at h
  · cases h
  · cases h
  · have htypes : (placeIn sources file).globals.types = programTypes sources := rfl
    rw [Logged.value_bind, htypes] at h
    cases hexception : ((programTypes sources).exception? name).value with
    | none =>
      rw [hexception] at h
      cases h
    | some found =>
      rw [hexception] at h
      cases h
      rfl

variable (h : ((programTypes sources).exception? name).value = some type)

include h

/-- Wherever nothing local hides the name, throwing a call of it throws what is constructed. -/
theorem node_throw_of_exception? (file : String) {scope : Scope} (hscope : scope.lookup name = none)
    (nameLoc callLoc throwLoc : Pos) (args : List (Expr Pos)) :
    let place := placeIn sources file
    (lowerStmt place scope (.throw (.call (.name name nameLoc) args callLoc) throwLoc)).value.node =
      some (.throw (.construct (some type) (lowerExprs place scope args).value
        (place.span callLoc)) (some type) (place.span throwLoc)) := by
  intro place
  have hfound : (place.globals.types.exception? name).value = some type := h
  have hbuilt : (lowerExpr place scope (.call (.name name nameLoc) args callLoc)).value =
      .construct (some type) (lowerExprs place scope args).value (place.span callLoc) := by
    rw [value_lowerExpr_named, lowerNamedCall, hscope, Logged.value_bind, hfound]
    rfl
  have htype : (staticType place scope (.call (.name name nameLoc) args callLoc)).value =
      some (.value type) := by
    rw [value_staticType_named, hscope, value_globalCallType, hfound]
    rfl
  rw [← hbuilt, lowerStmt]
  simp [htype, Ty.value?]

/-- In a `throws` clause the name lists the exception, at the place where it stands. -/
theorem throws_annotate_of_exception? (file : String) {clauses : Clauses Pos}
    {before after : List String} (hclauses : clauses.throws = some (before ++ name :: after)) :
    ∃ before' after', before'.length = before.length ∧
      ((programTypes sources).annotate file clauses).value.throws =
        some (before' ++ type.name :: after') := by
  have hname : ∀ span, (resolveThrown (programTypes sources).lookup span name).value =
      type.name := by
    intro span
    rw [value_resolveThrown, value_lookup_of_exception? h]
    rfl
  rw [Types.annotate, value_resolveClauses, hclauses]
  simp only [Option.map_some, List.map_append, List.map_cons, hname]
  exact ⟨_, _, List.length_map _, rfl⟩

/-- A handler for the name catches the exception, with the qualifiers of both. -/
theorem value_lowerCaught_of_exception? (file : String) (isConst isVolatile isRef : Bool)
    (loc handlerLoc : Pos) :
    (lowerCaught (placeIn sources file) handlerLoc
      (some (.named name isConst isVolatile isRef loc))).value =
        ((Ty.value type).qualify isConst isVolatile isRef).value? := by
  have hresolve :
      ((placeIn sources file).resolve (.named name isConst isVolatile isRef loc)).value =
        (Ty.value type).qualify isConst isVolatile isRef := by
    rw [Place.resolve, Types.resolve, value_resolveType_named]
    exact congrArg _ (value_lookup_of_exception? h _)
  rw [value_lowerCaught, caughtType, hresolve]
  rfl

/-- A block that only throws a new exception of the name. -/
theorem value_lowerBlock_throw (file : String) {scope : Scope} (hscope : scope.lookup name = none)
    (nameLoc callLoc throwLoc bodyLoc : Pos) :
    let place := placeIn sources file
    (lowerBlock place scope
      (.mk [.throw (.call (.name name nameLoc) [] callLoc) throwLoc] bodyLoc)).value =
      throwBlock type (place.span callLoc) (place.span throwLoc) (place.span bodyLoc) := by
  intro place
  have hthrow := node_throw_of_exception? h file hscope nameLoc callLoc throwLoc []
  rw [lowerBlock, lowerStmts]
  simp only [Logged.value_below, Logged.value_bind, Logged.value_pure]
  rw [hthrow]
  rfl

/-- A definition that throws as listed has the body that its text says. -/
theorem body_of_throwsAsListed (file : String) {definition : FunctionDef Pos}
    (hlisted : ThrowsAsListed name definition) :
    ∃ built thrown block, (loweredIn sources file definition).value.body =
      some (throwBlock type built thrown block) := by
  obtain ⟨nameLoc, callLoc, throwLoc, bodyLoc, hbody⟩ := hlisted.thrown
  let place := placeIn sources file
  -- Only parameters are in scope, and none of them has the name.
  have hscope : (paramScope place definition.params []).value.lookup name = none := by
    rw [value_paramScope, List.append_nil]
    refine lookup_scopeOf_eq_none fun hmem => ?_
    simp only [paramBindings, List.map_reverse, List.mem_reverse, List.mem_map, List.mem_filterMap,
      Option.map_eq_some_iff] at hmem
    obtain ⟨_, ⟨param, hparam, written, hwritten, rfl⟩, rfl⟩ := hmem
    exact hlisted.not_hidden param hparam hwritten
  refine ⟨place.span callLoc, place.span throwLoc, place.span bodyLoc, ?_⟩
  rw [← value_lowerBlock_throw h file hscope nameLoc callLoc throwLoc bodyLoc]
  change (lowerBody place definition).value = _
  rw [lowerBody, hbody]
  rfl

/-- It keeps its promise. -/
theorem keepsPromise_of_throwsAsListed (file : String) {definition : FunctionDef Pos}
    (hlisted : ThrowsAsListed name definition) :
    KeepsPromise (loweredIn sources file definition).value := by
  obtain ⟨built, thrown, block, hbody⟩ := body_of_throwsAsListed h file hlisted
  refine ⟨_, hbody, fun signatures => ?_⟩
  rw [(bodySummary_throwBlock _ _ _ _ _ _).2]
  obtain ⟨names, hclauses, hname⟩ := hlisted.listed
  obtain ⟨before, after, rfl⟩ := List.append_of_mem hname
  obtain ⟨before', after', -, hthrows⟩ := throws_annotate_of_exception? h file hclauses
  exact single_subset_promised hthrows (List.mem_append_right _ List.mem_cons_self)

end Identity

/-- A name means one exception. Wherever a call of it that is not hidden becomes a construction, the
exception that is constructed and thrown is the one that the name lists in a `throws` clause and the
one that a handler for the name catches, whatever the aliases between them and the qualifiers.

So nothing escapes from `try { throw n(); } catch (n) { }`, unless errors are not collected and the
walk stops at a type that may not be thrown. And a function that lists the name and whose body is
`{ throw n(); }` lets out that exception only; if it is declared once, no escape from it is ever
reported. -/
theorem one_exception_per_name {sources : List (String × Program Pos)} {name : String}
    {type : ValueType} (h : Constructs sources name type) :
    (∀ file scope, List.lookup name scope = none → ∀ nameLoc callLoc throwLoc args, ∃ nodes,
      let place := placeIn sources file
      (lowerStmt place scope
        (.throw (.call (.name name nameLoc) args callLoc) throwLoc)).value.node =
          some (.throw (.construct (some type) nodes (place.span callLoc)) (some type)
            (place.span throwLoc))) ∧
    (∀ file (clauses : Clauses Pos) before after, clauses.throws = some (before ++ name :: after) →
      ∃ before' after', before'.length = before.length ∧
        ((programTypes sources).annotate file clauses).value.throws =
          some (before' ++ type.name :: after')) ∧
    (∀ file scope isConst isVolatile isRef loc binder block handlerLoc, ∃ caught,
      (lowerHandler (placeIn sources file) scope
        (.mk (some (.named name isConst isVolatile isRef loc)) binder block
          handlerLoc)).value.type = some caught ∧ caught.name = type.name) ∧
    (∀ file scope, List.lookup name scope = none → ∀ nameLoc callLoc throwLoc bodyLoc typeLoc binder
        emptyLoc handlerLoc tryLoc, ∃ node,
      (lowerStmt (placeIn sources file) scope (.guarded
        (.mk [.throw (.call (.name name nameLoc) [] callLoc) throwLoc] bodyLoc)
        [.mk (some (.named name false false false typeLoc)) binder (.mk [] emptyLoc) handlerLoc]
        tryLoc)).value.node = some node ∧
      ∀ context handled trace,
        (context.collecting = true ∨ type.isPlain = true →
          ∃ after, infer context node handled trace = (.ok ∅, after)) ∧
        (context.collecting = false → type.isPlain = false →
          infer context node handled trace = (.error (.rejected
            ((Effect.Problem.thrown type).report context.function
              (spanAt file throwLoc))), trace))) ∧
    ∀ file definition, (file, definition) ∈ declarations sources →
      ThrowsAsListed name definition →
      let function := (loweredIn sources file definition).value
      let units := (lowerProgram sources).value
      (∀ other ∈ units.flatMap (·.functions), other.key = function.key → other = function) →
      (∀ signatures, ∃ report, verifyFunction none signatures function = .ok report ∧
        report.effect = some (.single type.name)) ∧
      (∀ options result, verifyProgram options units = .ok result →
        ¬ result.EscapesFrom function.key) ∧
      ∀ unit ∈ units, function ∈ unit.functions → ∀ options external result,
        verifyUnit options external unit = .ok result → ¬ result.EscapesFrom function.key := by
  have hfound := h.exception?
  refine ⟨?_, ?_, ?_, ?_, ?_⟩
  · intro file scope hscope nameLoc callLoc throwLoc args
    exact ⟨_, node_throw_of_exception? hfound file hscope nameLoc callLoc throwLoc args⟩
  · intro file clauses before after hclauses
    exact throws_annotate_of_exception? hfound file hclauses
  · intro file scope isConst isVolatile isRef loc binder block handlerLoc
    exact ⟨_, value_lowerCaught_of_exception? hfound file isConst isVolatile isRef loc handlerLoc,
      rfl⟩
  · intro file scope hscope nameLoc callLoc throwLoc bodyLoc typeLoc binder emptyLoc handlerLoc
      tryLoc
    let place := placeIn sources file
    have hbody := value_lowerBlock_throw hfound file hscope nameLoc callLoc throwLoc bodyLoc
    have hcaught : (lowerCaught place handlerLoc
        (some (.named name false false false typeLoc))).value = some type := by
      rw [value_lowerCaught_of_exception? hfound]
      simp [Ty.qualify, Ty.value?]
    refine ⟨.guarded (throwBlock type (place.span callLoc) (place.span throwLoc)
      (place.span bodyLoc)) [.mk (some type) binder (.block [] (place.span emptyLoc))
        (place.span handlerLoc)] (place.span tryLoc), ?_, fun context handled trace => ⟨?_, ?_⟩⟩
    · rw [lowerStmt, ← hbody, ← hcaught]
      rfl
    · intro hplain
      exact returns_guarded_throwBlock hplain _ _ _ _ _ _ binder trace
    · intro hstrict hqualified
      exact infer_guarded_throwBlock_of_strict hstrict hqualified _ _ _ _ _ trace
  · intro file definition hdeclared hlisted function units hsole
    have hmem : function ∈ units.flatMap (·.functions) :=
      mem_flatMap_functions_iff.mpr ⟨file, definition, hdeclared, rfl⟩
    have hkeeps := keepsPromise_of_throwsAsListed hfound file hlisted
    refine ⟨fun signatures => ?_, fun options result hverify => ?_, ?_⟩
    · obtain ⟨built, thrown, block, hbody⟩ := body_of_throwsAsListed hfound file hlisted
      obtain ⟨hfault, heffect⟩ := bodySummary_throwBlock signatures function.key type built thrown
        block
      exact ⟨_, verifyFunction_of_no_fault hbody hfault, congrArg some heffect⟩
    · exact hkeeps.not_escapesFrom_program hmem hsole hverify
    · intro unit hunit hmem options external result hverify
      refine hkeeps.not_escapesFrom_unit hmem (fun other hother => ?_) hverify
      exact hsole other (List.mem_flatMap.mpr ⟨unit, hunit, hother⟩)

/-- The function `void f() throws(B) { throw B(); }`. -/
def throwingListed : FunctionDef Pos where
  name := "f"
  params := []
  returnType := .named "void" false false false {}
  clauses := { throws := some ["B"] }
  body := some (.mk [.throw (.call (.name "B" {}) [] {}) {}] {})
  loc := {}

/-- `E` is declared, `A` is another name for it and `B` is one for `const A`. The only function is
`throwingListed`. -/
def throwingThroughAliases : List (String × Program Pos) := [("a", {
  exceptions := [⟨"E", {}⟩]
  aliases := [⟨"A", .named "E" false false false {}, {}⟩, ⟨"B", .named "A" true false false {}, {}⟩]
  functions := [throwingListed] })]

/-- In `throwingThroughAliases` the name `B` means `E`: a handler for `volatile B&` catches it, a
`try` with a handler for `B` lets out nothing that is thrown as `B`, and `f` keeps its promise. -/
theorem one_exception_throwingThroughAliases :
    let sources := throwingThroughAliases
    let units := (lowerProgram sources).value
    Constructs sources "B" { name := "E", isConst := true } ∧
      (∃ caught, (lowerHandler (placeIn sources "a") []
        (.mk (some (.named "B" false true true {})) none (.mk [] {}) {})).value.type = some caught ∧
        caught.name = "E") ∧
      (∃ node, (lowerStmt (placeIn sources "a") [] (.guarded
          (.mk [.throw (.call (.name "B" {}) [] {}) {}] {})
          [.mk (some (.named "B" false false false {})) none (.mk [] {}) {}] {})).value.node =
            some node ∧
        ∃ after, infer { signatures := .empty } node none {} = (.ok ∅, after)) ∧
      ∃ result, verifyProgram {} units = .ok result ∧ result.reports.length = 1 ∧
        ¬ result.EscapesFrom { name := "f", returnType := "void" } := by
  intro sources units
  have hconstructs : Constructs sources "B" { name := "E", isConst := true } :=
    ⟨"a", [], {}, [], {}, [], _, rfl⟩
  obtain ⟨-, -, hcaught, htry, hpromise⟩ := one_exception_per_name hconstructs
  obtain ⟨node, hnode, hinfer⟩ := htry "a" [] rfl {} {} {} {} {} none {} {} {}
  have hlisted : ThrowsAsListed "B" throwingListed := ⟨⟨["B"], rfl, List.mem_cons_self⟩,
    ⟨{}, {}, {}, {}, rfl⟩, List.forall_mem_nil _⟩
  obtain ⟨-, hprogram, -⟩ := hpromise "a" throwingListed List.mem_cons_self hlisted
    fun other hother _ => List.mem_singleton.mp hother
  obtain ⟨result, hresult, hlength⟩ : ∃ result, verifyProgram {} units = .ok result ∧
      result.reports.length = 1 := ⟨_, rfl, rfl⟩
  exact ⟨hconstructs, hcaught "a" [] false true true {} none (.mk [] {}) {},
    ⟨node, hnode, (hinfer _ _ _).1 (.inl rfl)⟩, result, hresult, hlength,
    hprogram {} result hresult⟩

end Throws.Resolution
