import Throws.Proofs.CallResolution

/-!
# The static type of a call

What a call becomes and what its static type is are found out separately. Both ask whether the name
is bound locally, whether it is an exception and whether one function only fits, but they do so at
different times and for different reasons: a body needs the target of a call, and a `throw` or
another call needs the type of its value. `CallOutcome` lists the four ways in which the two answers
go together, and `callOutcome_lowerExpr` says that there is no other one. The type of a resolved
call is the one that was recorded with its target, and the identity of the target spells it out
(`returnType_of_mem_programGlobals`).
-/

namespace Throws.Resolution

open Throws.Body Throws.Surface

/-- What a call becomes, and the static type of its value. -/
inductive CallOutcome (overloads : List Overload) : Node → Option Ty → Prop
  /-- A call through a function value; such a value does not tell what it returns. -/
  | through {callee : Node} {contract : Contract} {args : List Node} {span : Span} :
      CallOutcome overloads (.indirectCall callee contract args span) none
  /-- A call without a target. -/
  | unresolved {args : List Node} {spelling : Option String} {span : Span} :
      CallOutcome overloads (.call none args spelling span) none
  /-- The construction of an exception. -/
  | constructed {type : ValueType} {args : List Node} {span : Span} :
      CallOutcome overloads (.construct (some type) args span) (some (.value type))
  /-- A call of one of the functions. -/
  | resolved {overload : Overload} {args : List Node} {spelling : Option String} {span : Span} :
      overload ∈ overloads →
      CallOutcome overloads (.call (some overload.key) args spelling span)
        (some overload.returnType)

section Outcomes

variable (place : Place) (scope : Scope)

theorem value_staticType_named (ident : String) (loc : Pos) (args : List (Expr Pos)) (loc' : Pos) :
    (staticType place scope (.call (.name ident loc) args loc')).value =
      if (scope.lookup ident).isSome then none
      else (globalCallType place ident args.length).value := by
  rw [staticType, Logged.value_below]
  cases scope.lookup ident <;> rfl

theorem value_staticType_computed {function : Expr Pos}
    (h : ∀ ident loc, function ≠ .name ident loc) (args : List (Expr Pos)) (loc : Pos) :
    (staticType place scope (.call function args loc)).value = none := by
  rw [staticType]
  · rfl
  · exact h

theorem value_globalCallType (name : String) (arity : Nat) :
    (globalCallType place name arity).value =
      ((place.globals.types.exception? name).value.map Ty.value).or
        ((place.globals.call? name arity).map (·.returnType)) := by
  rw [globalCallType, Logged.value_bind]
  cases (place.globals.types.exception? name).value <;> rfl

/-- The target of a call is one of the functions. -/
theorem mem_overloads_of_call? {globals : Globals} {name : String} {arity : Nat}
    {overload : Overload} (h : globals.call? name arity = some overload) :
    overload ∈ globals.overloads := by
  unfold Globals.call? at h
  split at h
  case h_1 found hfound =>
    obtain rfl := Option.some.inj h
    exact (mem_filter_fits_iff.mp (hfound ▸ List.mem_cons_self)).1
  case h_2 => cases h

/-- A call by name: what is bound locally hides everything else, and then exceptions come before
functions, in either answer. -/
theorem callOutcome_named (ident : String) (loc : Pos) (args : List (Expr Pos)) (loc' : Pos) :
    CallOutcome place.globals.overloads
      (lowerExpr place scope (.call (.name ident loc) args loc')).value
      (staticType place scope (.call (.name ident loc) args loc')).value := by
  rw [value_lowerExpr_named, value_staticType_named, lowerNamedCall]
  cases scope.lookup ident with
  | some type =>
    cases type with
    | value type => exact .unresolved
    | function params contract => exact .through
  | none =>
    rw [Logged.value_bind, Option.isSome_none, if_neg Bool.false_ne_true, value_globalCallType]
    cases (place.globals.types.exception? ident).value with
    | some type => exact .constructed
    | none =>
      -- Resolution counts the resolved arguments and the type those in the text.
      rw [length_lowerExprs]
      cases hcall : place.globals.call? ident args.length with
      | none => exact .unresolved
      | some overload => exact .resolved (mem_overloads_of_call? hcall)

/-- What a call becomes and what its static type is go together. -/
theorem callOutcome_lowerExpr (function : Expr Pos) (args : List (Expr Pos)) (loc : Pos) :
    CallOutcome place.globals.overloads (lowerExpr place scope (.call function args loc)).value
      (staticType place scope (.call function args loc)).value := by
  rcases exists_name_or_computed function with ⟨ident, loc', rfl⟩ | hcomputed
  · exact callOutcome_named place scope ident loc' args loc
  · rw [value_lowerExpr_computed place scope hcomputed,
      value_staticType_computed place scope hcomputed]
    unfold computedCall
    split
    · exact .through
    · exact .unresolved

end Outcomes

/-- Only the type of a value is found to be one. -/
theorem Ty.eq_of_value? {type : Ty} {value : ValueType} (h : type.value? = some value) :
    type = .value value := by
  cases type with
  | value type => rw [Option.some.inj h]
  | function params contract => cases h

/-- The identity of a function spells out what it returns. -/
theorem returnType_of_mem_programGlobals {sources : List (String × Program Pos)}
    {overload : Overload} (h : overload ∈ (programGlobals sources).overloads) :
    overload.returnType.render = overload.key.returnType := by
  obtain ⟨header, hheader, rfl⟩ := exists_header_of_mem_overloadsOf h
  obtain ⟨declared, _, rfl⟩ := List.mem_map.mp hheader
  rfl

/-- The static type of a call and what the call becomes agree, for every call in every scope of
every program. There is no type exactly for calls through function values and calls without a
target; the type of a call with a target is written in the identity of the target; the type of a
construction is the type that is constructed. So a `throw` of a call has a type exactly if the call
constructs an exception or has a target that does not return a function. -/
theorem static_types_agree_with_calls (sources : List (String × Program Pos)) (file : String)
    (scope : Scope) (function : Expr Pos) (args : List (Expr Pos)) (loc : Pos) :
    let place := placeIn sources file
    let call : Expr Pos := .call function args loc
    let node := (lowerExpr place scope call).value
    let type := (staticType place scope call).value
    (type = none ↔
      (∃ callee contract args' span, node = .indirectCall callee contract args' span) ∨
        ∃ args' spelling span, node = .call none args' spelling span) ∧
    (∀ key args' spelling span, node = .call (some key) args' spelling span →
      ∃ found, type = some found ∧ found.render = key.returnType) ∧
    (∀ built args' span, node = .construct built args' span →
      ∃ found, built = some found ∧ type = some (.value found)) ∧
    ∀ loc', ∃ thrown,
      (lowerStmt place scope (.throw call loc')).value.node =
        some (.throw node thrown (place.span loc')) ∧
      (thrown.isSome = true ↔
        (∃ built args' span, node = .construct built args' span) ∨
          ∃ overload ∈ place.globals.overloads, ∃ args' spelling span value,
            node = .call (some overload.key) args' spelling span ∧
              overload.returnType = .value value) := by
  intro place call node type
  have hthrow : ∀ loc', (lowerStmt place scope (.throw call loc')).value.node =
      some (.throw node (type.bind Ty.value?) (place.span loc')) := by
    intro loc'
    rw [lowerStmt]
    rfl
  have houtcome : CallOutcome place.globals.overloads node type :=
    callOutcome_lowerExpr place scope function args loc
  clear_value node type
  cases houtcome with
  | through => exact ⟨by simp, by simp, by simp, fun loc' => ⟨_, hthrow loc', by simp⟩⟩
  | unresolved => exact ⟨by simp, by simp, by simp, fun loc' => ⟨_, hthrow loc', by simp⟩⟩
  | constructed =>
    exact ⟨by simp, by simp, by simp, fun loc' => ⟨_, hthrow loc', by simp [Ty.value?]⟩⟩
  | @resolved overload args' spelling span hmem =>
    refine ⟨by simp, ?_, by simp, fun loc' => ⟨_, hthrow loc', ?_⟩⟩
    · rintro key _ _ _ ⟨⟩
      exact ⟨_, rfl, returnType_of_mem_programGlobals hmem⟩
    · -- No two functions have the same identity, so the target is the function it names.
      have hsame : ∀ other ∈ place.globals.overloads, other.key = overload.key →
          other = overload := fun other hother hkey =>
        List.inj_on_of_nodup_map (nodup_keys_programGlobals sources) hother hmem hkey
      constructor
      · intro hsome
        obtain ⟨value, hvalue⟩ := Option.isSome_iff_exists.mp hsome
        exact .inr ⟨overload, hmem, args', spelling, span, value, rfl, Ty.eq_of_value? hvalue⟩
      · rintro (⟨built, _, _, ⟨⟩⟩ | ⟨other, hother, _, _, _, value, hcall, hreturn⟩)
        injection hcall with hkey
        rw [← hsame other hother (Option.some.inj hkey).symm, Option.bind_some, hreturn]
        rfl

/-- A function without parameters that returns an `int`. -/
def returningInt (name : String) : FunctionDef Pos where
  name := name
  params := []
  returnType := .named "int" false false false {}
  clauses := {}
  body := none
  loc := {}

/-- The result of `f()` is an `int` that can be thrown, unless `f` is a local name, and `E()` is an
exception. -/
theorem static_types_of_calls :
    let place := placeIn [("a",
      ({ exceptions := [⟨"E", {}⟩], functions := [returningInt "f"] } : Program Pos))] "a"
    let call : String → Expr Pos := fun name => .call (.name name {}) [] {}
    (∃ found, (staticType place [] (call "f")).value = some found ∧ found.render = "int") ∧
    (∃ thrown, (lowerStmt place [] (.throw (call "f") {})).value.node =
      some (.throw (.call (some { name := "f", returnType := "int" }) [] (some "f")
        (place.span {})) thrown (place.span {})) ∧ thrown.isSome = true) ∧
    (staticType place [("f", .plain "int")] (call "f")).value = none ∧
    (staticType place [] (call "E")).value = some (.value { name := "E" }) := by
  intro place call
  have hagree := fun scope name => static_types_agree_with_calls [("a",
    ({ exceptions := [⟨"E", {}⟩], functions := [returningInt "f"] } : Program Pos))] "a" scope
    (.name name {}) [] {}
  refine ⟨(hagree [] "f").2.1 _ _ _ _ rfl, ?_, (hagree [("f", .plain "int")] "f").1.mpr ?_, ?_⟩
  · obtain ⟨thrown, hnode, hsome⟩ := (hagree [] "f").2.2.2 {}
    exact ⟨thrown, hnode, hsome.mpr (.inr ⟨_, List.mem_cons_self, _, _, _, _, rfl, rfl⟩)⟩
  · exact .inr ⟨_, _, _, rfl⟩
  · obtain ⟨found, hbuilt, htype⟩ := (hagree [] "E").2.2.1 _ _ _ rfl
    rw [htype, ← Option.some.inj hbuilt]

end Throws.Resolution
