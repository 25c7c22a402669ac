import Throws.Proofs.ExprSites
import Throws.Proofs.CallTargets
import Throws.Proofs.TableContents

/-!
# Calls are resolved exactly

A call of a name that is neither bound locally nor an exception is resolved to a function exactly if
one function only has that name and takes that many arguments. Nothing else becomes a call of a
function, and whatever is called is in the table that verification builds from the same program.

* `denotesException_of_exception?`: only exceptions and other names for them are taken for
  constructors. `DenotesException` says what these names are without following any aliases.
* `soleTarget_of_mem_calls`: whatever has a target has it for this reason.
* `lowerSite_named`: what becomes of a call by name.
-/

namespace Throws.Resolution

open Throws.Body Throws.Surface Throws.Verification

/-! ## Names of exceptions -/

/-- The name is that of an exception, or an alias leads from it to one. -/
inductive DenotesException (sources : List (String × Program Pos)) : String → Prop
  /-- An exception type is declared. -/
  | declared {name : String} : name ∈ exceptionNames sources → DenotesException sources name
  /-- An alias stands for such a name, with any qualifiers. -/
  | renamed {declared : String × AliasDef Pos} {name : String}
      {isConst isVolatile isRef : Bool} {loc : Pos} : declared ∈ aliasDefs sources →
      declared.2.target = .named name isConst isVolatile isRef loc →
      DenotesException sources name → DenotesException sources declared.2.name

/-- Qualifiers do not change the name of a type. -/
theorem Ty.exists_of_qualify {type : Ty} {isConst isVolatile isRef : Bool} {qualified : ValueType}
    (h : type.qualify isConst isVolatile isRef = .value qualified) :
    ∃ base, type = .value base ∧ base.name = qualified.name := by
  cases type with
  | value base =>
    cases h
    exact ⟨base, rfl, rfl⟩
  | function params contract => cases h

section Exceptions

variable {sources : List (String × Program Pos)} {name : String} {type : ValueType}

/-- An alias for a type that is an exception denotes one, if names are looked up so that only names
of exceptions are found to be exceptions. -/
theorem denotesException_of_alias {lookup : Lookup}
    (hlookup : ∀ name span type, (lookup name span).value = .value type →
      type.name ∈ exceptionNames sources → DenotesException sources name)
    {target : AliasTarget} (hentry : (name, target) ∈ (programTypes sources).aliases)
    (h : (resolveType lookup target.file target.type).value = .value type)
    (hmem : type.name ∈ exceptionNames sources) : DenotesException sources name := by
  obtain ⟨declared, hdeclared, hdeclared'⟩ := mem_aliases_programTypes hentry
  obtain ⟨rfl, rfl⟩ := Prod.mk.inj hdeclared'
  -- The target has to be a name: a function type is no exception.
  cases hwritten : declared.2.target with
  | named other isConst isVolatile isRef loc =>
    rw [hwritten, value_resolveType_named] at h
    obtain ⟨base, hbase, hname⟩ := Ty.exists_of_qualify h
    exact .renamed hdeclared hwritten (hlookup other _ base hbase (hname ▸ hmem))
  | function params clauses loc =>
    rw [hwritten, value_resolveType_function] at h
    cases h

/-- Following aliases leads to exceptions only from names that denote them. -/
theorem denotesException_of_follow (count : Nat) (following : List String) (span : Span)
    (h : ((programTypes sources).follow count following name span).value = .value type)
    (hmem : type.name ∈ exceptionNames sources) : DenotesException sources name := by
  refine Types.follow_induction (motive := fun name resolved => ∀ type, resolved = .value type →
    type.name ∈ exceptionNames sources → DenotesException sources name) ?_ ?_ count following name
    span type h hmem
  · rintro name type ⟨⟩ hmem
    exact .declared hmem
  · intro lookup hlookup name target hentry type
    exact denotesException_of_alias hlookup hentry

/-- Only names that denote exceptions are taken for exceptions. -/
theorem denotesException_of_exception?
    (h : ((programTypes sources).exception? name).value = some type) :
    DenotesException sources name := by
  rw [Types.exception?, Logged.value_below] at h
  split at h
  case isTrue hmem =>
    rw [exceptions_programTypes, List.contains_iff_mem] at hmem
    exact .declared hmem
  case isFalse =>
    split at h
    · cases h
    case h_2 target htarget =>
      -- The alias is followed to its end, and what is found there is an exception.
      obtain ⟨hvalue, hmem⟩ := Option.filter_eq_some_iff.mp h
      rw [exceptions_programTypes, List.contains_iff_mem] at hmem
      have hresolved :
          (resolveType (programTypes sources).lookup target.file target.type).value =
            .value type := by
        rw [Types.resolve] at hvalue
        revert hvalue
        cases (resolveType (programTypes sources).lookup target.file target.type).value with
        | value base =>
          intro hvalue
          rw [Option.some.inj hvalue]
        | function params contract =>
          intro hvalue
          cases hvalue
      exact denotesException_of_alias (fun other span base => denotesException_of_follow _ [] span)
        (Types.mem_aliases_of_alias? htarget) hresolved hmem

end Exceptions

/-! ## Calls -/

section Calls

variable {place : Place} {scope : Scope} {visible : List Binding} {name : String}
  {key : FunctionKey}

theorem length_lowerExprs (place : Place) (scope : Scope) (exprs : List (Expr Pos)) :
    (lowerExprs place scope exprs).value.length = exprs.length := by
  rw [lowerExprs_eq_each, Logged.value_each, List.length_map]

/-- A name that is not bound is not in scope. -/
theorem lookup_scopeOf_eq_none (h : name ∉ visible.map (·.name)) :
    (scopeOf place visible).lookup name = none := by
  have hname : ∀ binding : Binding, (bindingType place binding).1 = binding.name := by
    intro binding
    cases binding <;> rfl
  refine List.lookup_eq_none_iff.mpr fun entry hentry => ?_
  obtain ⟨binding, hbinding, rfl⟩ := List.mem_map.mp hentry
  rw [hname, bne_iff_ne]
  rintro rfl
  exact h (List.mem_map.mpr ⟨binding, hbinding, rfl⟩)

/-- What becomes of a call of a name that is neither bound nor an exception. -/
theorem lowerSite_named {loc : Pos} {args : List (Expr Pos)} {loc' : Pos}
    (hvisible : name ∉ visible.map (·.name))
    (hexception : (place.globals.types.exception? name).value = none) :
    lowerSite place ⟨visible, .call (.name name loc) args loc'⟩ =
      .call ((place.globals.call? name args.length).map (·.key))
        (lowerExprs place (scopeOf place visible) args).value (some name) (place.span loc') := by
  rw [lowerSite, value_lowerExpr_named, lowerNamedCall, lookup_scopeOf_eq_none hvisible,
    Logged.value_bind, hexception, length_lowerExprs]
  rfl

theorem call?_of_lowerNamedCall {args args' : List Node} {span span' : Span}
    {spelling : Option String}
    (h : (lowerNamedCall place scope name args span).value =
      .call (some key) args' spelling span') :
    (place.globals.call? name args'.length).map (·.key) = some key := by
  unfold lowerNamedCall at h
  split at h
  · cases h
  · cases h
  · -- The name is not bound, so it is an exception or a function.
    rw [Logged.value_bind] at h
    cases hexception : (place.globals.types.exception? name).value with
    | some type =>
      rw [hexception] at h
      cases h
    | none =>
      rw [hexception] at h
      injection h with hcallee hargs
      rw [← hargs, hcallee]

/-- Whatever has a target has it as a call by name. -/
theorem exists_call?_of_lowerExpr {expr : Expr Pos} {args : List Node} {spelling : Option String}
    {span : Span} (h : (lowerExpr place scope expr).value = .call (some key) args spelling span) :
    ∃ name, (place.globals.call? name args.length).map (·.key) = some key := by
  cases expr with
  | call function inner loc =>
    rcases exists_name_or_computed function with ⟨ident, loc', rfl⟩ | hcomputed
    · rw [value_lowerExpr_named] at h
      exact ⟨ident, call?_of_lowerNamedCall h⟩
    · -- A call of what has been evaluated has no target.
      rw [value_lowerExpr_computed place scope hcomputed] at h
      unfold computedCall at h
      split at h <;> cases h
  | _ =>
    rw [lowerExpr] at h
    cases h

end Calls

section Programs

variable {sources : List (String × Program Pos)} {file : String} {definition : FunctionDef Pos}

/-- Where the body of a function of a program is resolved. -/
def placeIn (sources : List (String × Program Pos)) (file : String) : Place :=
  ⟨programGlobals sources, file⟩

/-- The calls in a function of a program are the calls in its declaration, resolved one by one. -/
theorem calls_loweredIn (sources : List (String × Program Pos)) (file : String)
    (definition : FunctionDef Pos) :
    (loweredIn sources file definition).value.body.elim [] Node.calls =
      definition.callSites.map (lowerSite (placeIn sources file)) :=
  calls_lowerBody (placeIn sources file) definition

/-- Whatever has a target has it because that is the only function that fits. -/
theorem soleTarget_of_mem_calls {function : Function} {body : Node} {key : FunctionKey}
    {args : List Node} {spelling : Option String} {span : Span}
    (hfunction : function ∈ (lowerProgram sources).value.flatMap (·.functions))
    (hbody : function.body = some body)
    (hcall : Node.call (some key) args spelling span ∈ body.calls) :
    SoleTarget ((lowerProgram sources).value.flatMap (·.functions)) key.name args.length key := by
  obtain ⟨file, definition, _, rfl⟩ := mem_flatMap_functions_iff.mp hfunction
  have hcalls := calls_loweredIn sources file definition
  rw [hbody, Option.elim_some] at hcalls
  rw [hcalls] at hcall
  obtain ⟨site, _, hsite⟩ := List.mem_map.mp hcall
  obtain ⟨name, htarget⟩ := exists_call?_of_lowerExpr hsite
  -- The name at the call is the name of the target.
  have hsole := call?_key_eq_some_iff.mp htarget
  exact hsole.name_eq ▸ hsole

/-- What becomes of a call by name, if the name is neither bound where the call stands nor that of
an exception: a call with as many arguments, of the only function that fits if there is one. -/
def ResolvesExactly (sources : List (String × Program Pos)) (file : String) (site : Site)
    (node : Node) : Prop :=
  ∀ name loc args loc', site.expr = .call (.name name loc) args loc' →
    name ∉ site.visible.map (·.name) → ¬ DenotesException sources name →
    ∃ callee args', node = .call callee args' (some name) (spanAt file loc') ∧
      args'.length = args.length ∧
      ∀ key, callee = some key ↔
        SoleTarget ((lowerProgram sources).value.flatMap (·.functions)) name args.length key

theorem resolvesExactly_lowerSite (sources : List (String × Program Pos)) (file : String)
    (site : Site) :
    ResolvesExactly sources file site (lowerSite (placeIn sources file) site) := by
  obtain ⟨visible, expr⟩ := site
  rintro name loc args loc' rfl hvisible hexception
  have hnone : ((programTypes sources).exception? name).value = none := by
    cases h : ((programTypes sources).exception? name).value with
    | none => rfl
    | some type => exact absurd (denotesException_of_exception? h) hexception
  exact ⟨_, _, lowerSite_named hvisible hnone, length_lowerExprs _ _ _,
    fun key => call?_key_eq_some_iff⟩

end Programs

/-- Every call with a target, wherever it is in a body, has it because among all functions of the
program only this one has its name and takes as many arguments; and if the table of the program is
built without an error, the target is in it. Conversely, in every function of the program the calls
are those of its declaration, one by one, and a call by name that is neither bound nor an exception
has a target exactly if one function only fits. All of this holds whether or not anything is
reported for the program. -/
theorem call_resolution_is_exact (sources : List (String × Program Pos)) :
    let functions := (lowerProgram sources).value.flatMap (·.functions)
    (∀ function ∈ functions, ∀ body, function.body = some body →
      ∀ occurrence ∈ body.occurrences, ∀ key args spelling span,
        occurrence.node = .call (some key) args spelling span →
        SoleTarget functions key.name args.length key ∧
          ∀ table, buildTable functions = (table, []) → key ∈ table.keys) ∧
    ∀ file definition, (file, definition) ∈ declarations sources →
      (loweredIn sources file definition).value ∈ functions ∧
      List.Forall₂ (ResolvesExactly sources file) definition.callSites
        ((loweredIn sources file definition).value.body.elim [] Node.calls) := by
  constructor
  · intro function hfunction body hbody occurrence hoccurrence key args spelling span hnode
    have hcall : Node.call (some key) args spelling span ∈ body.calls :=
      List.mem_filter.mpr ⟨List.mem_map.mpr ⟨occurrence, hoccurrence, hnode⟩, rfl⟩
    have hsole := soleTarget_of_mem_calls hfunction hbody hcall
    exact ⟨hsole, fun table htable => (mem_keys_buildTable_iff htable).mpr hsole.exists_function⟩
  · intro file definition hmem
    refine ⟨mem_flatMap_functions_iff.mpr ⟨file, definition, hmem, rfl⟩, ?_⟩
    rw [calls_loweredIn, List.forall₂_map_right_iff]
    exact List.forall₂_same.mpr fun site _ => resolvesExactly_lowerSite sources file site

/-- A function without a body that takes values of type `int`. -/
def takingInts (name : String) (arity : Nat) : FunctionDef Pos where
  name := name
  params := List.replicate arity ⟨.named "int" false false false {}, none⟩
  returnType := .named "void" false false false {}
  clauses := {}
  body := none
  loc := {}

/-- A function that calls `f` with the result of calling `k`. -/
def callingOverloads : FunctionDef Pos where
  name := "g"
  params := []
  returnType := .named "void" false false false {}
  clauses := {}
  body := some (.mk [.expr (.call (.name "f" {}) [.call (.name "k" {}) [] {}] {}) {}] {})
  loc := {}

/-- Of two functions named `f` the one with one parameter is called. There is no function named
`k`, so that call has no target. -/
theorem resolution_callingOverloads :
    let sources := [("a",
      ({ functions := [takingInts "f" 1, takingInts "f" 2, callingOverloads] } : Program Pos))]
    let functions := (lowerProgram sources).value.flatMap (·.functions)
    let key : FunctionKey := { name := "f", paramTypes := ["int"] }
    ∃ args, (loweredIn sources "a" callingOverloads).value.body.elim [] Node.calls =
        [.call (some key) args (some "f") (spanAt "a" {}),
          .call none [] (some "k") (spanAt "a" {})] ∧
      SoleTarget functions "f" args.length key ∧
      ∃ table, buildTable functions = (table, []) ∧ key ∈ table.keys := by
  intro sources functions key
  have hkeys : functions.map (·.key) =
      [key, { name := "f", paramTypes := ["int", "int"] }, { name := "g" }] := by decide +kernel
  have hmem : ∀ function ∈ functions, function.key = key ∨
      function.key = { name := "f", paramTypes := ["int", "int"] } ∨
      function.key = { name := "g" } := by
    intro function hfunction
    have h : function.key ∈ functions.map (·.key) := List.mem_map.mpr ⟨function, hfunction, rfl⟩
    simpa [hkeys] using h
  have hsole : SoleTarget functions "f" 1 key := by
    have hfound : key ∈ functions.map (·.key) := by
      rw [hkeys]
      exact List.mem_cons_self
    refine ⟨List.mem_map.mp hfound, rfl, rfl, ?_⟩
    intro function hfunction hname hlength
    rcases hmem function hfunction with h | h | h
    · exact h
    · simp [h] at hlength
    · simp [h] at hname
  have hnone : ∀ other, ¬ SoleTarget functions "k" 0 other := by
    intro other h
    obtain ⟨function, hfunction, rfl⟩ := h.exists_function
    have hname := h.name_eq
    rcases hmem function hfunction with heq | heq | heq <;> simp [heq, key] at hname
  have hexception : ∀ name, ¬ DenotesException sources name := by
    intro name h
    cases h with
    | declared hmem => exact absurd hmem List.not_mem_nil
    | renamed hmem _ _ => exact absurd hmem List.not_mem_nil
  obtain ⟨hexact, hcalls⟩ := call_resolution_is_exact sources
  obtain ⟨hfunction, hsites⟩ := hcalls "a" callingOverloads (by simp [sources, declarations])
  have hlisted : callingOverloads.callSites =
      [⟨[], .call (.name "f" {}) [.call (.name "k" {}) [] {}] {}⟩,
        ⟨[], .call (.name "k" {}) [] {}⟩] := rfl
  rw [hlisted] at hsites
  -- The calls in the body are known only through what the theorem says about each of them.
  generalize hbody : (loweredIn sources "a" callingOverloads).value.body.elim [] Node.calls = calls
    at hsites ⊢
  cases hsites with
  | cons hfirst hrest =>
    cases hrest with
    | cons hsecond hend =>
      cases hend
      obtain ⟨callee, args, rfl, hlength, htarget⟩ :=
        hfirst "f" {} _ {} rfl List.not_mem_nil (hexception _)
      obtain ⟨callee', args', rfl, hlength', htarget'⟩ :=
        hsecond "k" {} [] {} rfl List.not_mem_nil (hexception _)
      obtain rfl : callee = some key := (htarget key).mpr hsole
      obtain rfl : args' = [] := List.eq_nil_of_length_eq_zero hlength'
      obtain rfl : callee' = none :=
        Option.eq_none_iff_forall_ne_some.mpr fun other h => hnone other ((htarget' other).mp h)
      obtain ⟨body, hsome, hfound⟩ :
          ∃ body, (loweredIn sources "a" callingOverloads).value.body = some body ∧
            Node.call (some key) args (some "f") (spanAt "a" {}) ∈ body.calls := by
        cases hsome : (loweredIn sources "a" callingOverloads).value.body with
        | none => simp [hsome] at hbody
        | some body => exact ⟨body, rfl, by simp [show body.calls = _ by simpa [hsome] using hbody]⟩
      obtain ⟨occurrence, hoccurrence, hnode⟩ := List.mem_map.mp (List.mem_filter.mp hfound).1
      obtain ⟨hsole', htable⟩ :=
        hexact _ hfunction body hsome occurrence hoccurrence key args _ _ hnode
      have hclean : (buildTable functions).2.isEmpty = true := by decide +kernel
      obtain ⟨table, hbuild⟩ : ∃ table, buildTable functions = (table, []) := by
        generalize buildTable functions = built at hclean
        exact ⟨built.1, Prod.ext rfl (List.isEmpty_iff.mp hclean)⟩
      exact ⟨args, rfl, hsole', table, hbuild, htable table hbuild⟩

end Throws.Resolution
