import Mathlib.Data.List.Nodup
import Throws.Proofs.FunctionIdentity

/-!
# Which function a call is about

The functions of a program are collected from its declarations, each of them once. A call by name
and number of arguments has a target if there is one function only that fits, so the target can be
told from what functions there are, in whatever order they were collected.
-/

namespace Throws.Resolution

open Throws.Body Throws.Surface

/-! ## Collecting functions -/

section Collecting

variable {overloads added : List Overload} {overload : Overload} {key : FunctionKey}

theorem any_key_iff :
    overloads.any (·.key == overload.key) = true ↔ overload.key ∈ overloads.map (·.key) := by
  simp [List.mem_map]

theorem mem_addOverload {other : Overload} (h : other ∈ addOverload overloads overload) :
    other ∈ overloads ∨ other = overload := by
  unfold addOverload at h
  split at h
  · exact .inl h
  · simpa using h

theorem mem_keys_addOverload_iff :
    key ∈ (addOverload overloads overload).map (·.key) ↔
      key ∈ overloads.map (·.key) ∨ key = overload.key := by
  unfold addOverload
  split
  case isTrue hpresent =>
    -- A function that is there already adds nothing.
    rw [any_key_iff] at hpresent
    exact ⟨.inl, fun h => h.elim id fun heq => heq ▸ hpresent⟩
  case isFalse => simp

theorem nodup_keys_addOverload (h : (overloads.map (·.key)).Nodup) :
    ((addOverload overloads overload).map (·.key)).Nodup := by
  unfold addOverload
  split
  case isTrue => exact h
  case isFalse hnew =>
    rw [any_key_iff] at hnew
    rw [List.map_append, List.nodup_append]
    refine ⟨h, by simp, ?_⟩
    rintro key hkey other hother rfl
    obtain rfl := List.mem_singleton.mp hother
    exact hnew hkey

theorem mem_foldl_addOverload {other : Overload} (h : other ∈ added.foldl addOverload overloads) :
    other ∈ overloads ∨ other ∈ added := by
  induction added generalizing overloads with
  | nil => exact .inl h
  | cons first rest ih =>
    rcases ih h with hmem | hmem
    · rcases mem_addOverload hmem with hmem | rfl
      · exact .inl hmem
      · exact .inr List.mem_cons_self
    · exact .inr (List.mem_cons_of_mem _ hmem)

theorem mem_keys_foldl_addOverload_iff :
    key ∈ (added.foldl addOverload overloads).map (·.key) ↔
      key ∈ overloads.map (·.key) ∨ key ∈ added.map (·.key) := by
  induction added generalizing overloads with
  | nil => simp
  | cons first rest ih =>
    rw [List.foldl_cons, ih, mem_keys_addOverload_iff, List.map_cons, List.mem_cons, or_assoc]

theorem nodup_keys_foldl_addOverload (h : (overloads.map (·.key)).Nodup) :
    ((added.foldl addOverload overloads).map (·.key)).Nodup := by
  induction added generalizing overloads with
  | nil => exact h
  | cons first rest ih => exact ih (nodup_keys_addOverload h)

end Collecting

section Headers

variable {headers : List Header}

/-- No function is collected twice. -/
theorem nodup_keys_overloadsOf (headers : List Header) :
    ((overloadsOf headers).map (·.key)).Nodup :=
  nodup_keys_foldl_addOverload List.nodup_nil

theorem exists_header_of_mem_overloadsOf {overload : Overload}
    (h : overload ∈ overloadsOf headers) : ∃ header ∈ headers, header.overload = overload := by
  rcases mem_foldl_addOverload h with hmem | hmem
  · exact absurd hmem List.not_mem_nil
  · exact List.mem_map.mp hmem

/-- Every function that is declared is collected. -/
theorem exists_overload_of_mem {header : Header} (h : header ∈ headers) :
    ∃ overload ∈ overloadsOf headers, overload.key = header.key := by
  have hkey : header.key ∈ (overloadsOf headers).map (·.key) :=
    mem_keys_foldl_addOverload_iff.mpr (.inr (by
      rw [List.map_map]
      exact List.mem_map.mpr ⟨header, h, rfl⟩))
  exact List.mem_map.mp hkey

end Headers

/-! ## Targets -/

/-- The function has the given name and takes the given number of arguments. -/
def Overload.Fits (overload : Overload) (name : String) (arity : Nat) : Prop :=
  overload.key.name = name ∧ overload.arity = arity

section Targets

variable {globals globals' : Globals} {name : String} {arity : Nat} {overload : Overload}

theorem mem_filter_fits_iff {overloads : List Overload} :
    (overload ∈ overloads.filter fun overload =>
      overload.key.name == name && overload.arity == arity) ↔
      overload ∈ overloads ∧ overload.Fits name arity := by
  simp [Overload.Fits]

/-- A call has a target if that is the only function that fits. -/
theorem call?_eq_some_iff (hnodup : (globals.overloads.map (·.key)).Nodup) :
    globals.call? name arity = some overload ↔
      overload ∈ globals.overloads ∧ overload.Fits name arity ∧
        ∀ other ∈ globals.overloads, other.Fits name arity → other = overload := by
  let fits (overload : Overload) : Bool := overload.key.name == name && overload.arity == arity
  -- There is one entry that fits, so the list of these is that entry.
  have hcall : globals.call? name arity = some overload ↔
      globals.overloads.filter fits = [overload] := by
    unfold Globals.call?
    split <;> simp_all [fits]
  have hfilter : (globals.overloads.filter fits).Nodup := (List.Nodup.of_map _ hnodup).filter fits
  rw [hcall, ← List.perm_singleton, List.perm_ext_iff_of_nodup hfilter (List.nodup_singleton _)]
  simp only [fits, mem_filter_fits_iff, List.mem_singleton]
  constructor
  · intro h
    obtain ⟨hmem, hfits⟩ := (h overload).mpr rfl
    exact ⟨hmem, hfits, fun other hother hfits => (h other).mp ⟨hother, hfits⟩⟩
  · rintro ⟨hmem, hfits, honly⟩ other
    refine ⟨fun h => honly other h.1 h.2, ?_⟩
    rintro rfl
    exact ⟨hmem, hfits⟩

/-- Programs with the same functions have the same targets of calls. -/
theorem call?_congr (hnodup : (globals.overloads.map (·.key)).Nodup)
    (hnodup' : (globals'.overloads.map (·.key)).Nodup)
    (h : ∀ overload, overload ∈ globals.overloads ↔ overload ∈ globals'.overloads) :
    globals.call? = globals'.call? := by
  funext name arity
  refine Option.ext fun overload => ?_
  simp only [call?_eq_some_iff hnodup, call?_eq_some_iff hnodup', h]

end Targets

section Programs

variable {sources : List (String × Program Pos)} {name : String} {arity : Nat} {key : FunctionKey}

theorem nodup_keys_programGlobals (sources : List (String × Program Pos)) :
    ((programGlobals sources).overloads.map (·.key)).Nodup :=
  nodup_keys_overloadsOf _

/-- The functions that can be called are those in the units. -/
theorem exists_overload_iff :
    (∃ overload ∈ (programGlobals sources).overloads, overload.key = key) ↔
      ∃ function ∈ (lowerProgram sources).value.flatMap (·.functions), function.key = key := by
  constructor
  · rintro ⟨overload, hmem, rfl⟩
    obtain ⟨header, hheader, rfl⟩ := exists_header_of_mem_overloadsOf hmem
    obtain ⟨declared, hdeclared, rfl⟩ := List.mem_map.mp hheader
    exact ⟨_, mem_flatMap_functions_iff.mpr ⟨declared.1, declared.2, hdeclared, rfl⟩, rfl⟩
  · rintro ⟨function, hmem, rfl⟩
    obtain ⟨file, definition, hdeclared, rfl⟩ := mem_flatMap_functions_iff.mp hmem
    exact exists_overload_of_mem (List.mem_map.mpr ⟨(file, definition), hdeclared, rfl⟩)

/-- How many arguments a function takes can be told from its identity. -/
theorem arity_of_mem_programGlobals {overload : Overload}
    (h : overload ∈ (programGlobals sources).overloads) :
    overload.arity = overload.key.paramTypes.length := by
  obtain ⟨header, hheader, rfl⟩ := exists_header_of_mem_overloadsOf h
  obtain ⟨declared, _, rfl⟩ := List.mem_map.mp hheader
  have hparams : (headerIn sources declared.1 declared.2).value.key.paramTypes =
      Ty.renderAll (signatureIn sources declared.1 declared.2).params := rfl
  simp [hparams, Header.overload, signatureIn, Ty.renderAll_eq_map, value_resolveAll]

/-- The only function with the given name and number of parameters. -/
structure SoleTarget (functions : List Function) (name : String) (arity : Nat)
    (key : FunctionKey) : Prop where
  /-- There is such a function. -/
  exists_function : ∃ function ∈ functions, function.key = key
  /-- It has the name. -/
  name_eq : key.name = name
  /-- It has as many parameters. -/
  length_eq : key.paramTypes.length = arity
  /-- There is no other one. -/
  unique : ∀ function ∈ functions, function.key.name = name →
    function.key.paramTypes.length = arity → function.key = key

/-- A call is resolved exactly if one function only fits. -/
theorem call?_key_eq_some_iff :
    ((programGlobals sources).call? name arity).map (·.key) = some key ↔
      SoleTarget ((lowerProgram sources).value.flatMap (·.functions)) name arity key := by
  have hnodup := nodup_keys_programGlobals sources
  rw [Option.map_eq_some_iff]
  constructor
  · rintro ⟨overload, hcall, rfl⟩
    obtain ⟨hmem, hfits, honly⟩ := (call?_eq_some_iff hnodup).mp hcall
    refine ⟨exists_overload_iff.mp ⟨overload, hmem, rfl⟩, hfits.1,
      (arity_of_mem_programGlobals hmem).symm.trans hfits.2, ?_⟩
    -- Any function that fits was collected, so it is the target.
    intro function hfunction hname hlength
    obtain ⟨other, hother, hkey⟩ := exists_overload_iff.mpr ⟨function, hfunction, rfl⟩
    have hfits' : other.Fits name arity :=
      ⟨hkey ▸ hname, by rw [arity_of_mem_programGlobals hother, hkey, hlength]⟩
    rw [← hkey, honly other hother hfits']
  · intro h
    obtain ⟨overload, hmem, rfl⟩ := exists_overload_iff.mpr h.exists_function
    have hfits : overload.Fits name arity :=
      ⟨h.name_eq, (arity_of_mem_programGlobals hmem).trans h.length_eq⟩
    refine ⟨overload, (call?_eq_some_iff hnodup).mpr ⟨hmem, hfits, ?_⟩, rfl⟩
    -- Whatever was collected and fits is a function in a unit, so it has the same identity.
    intro other hother hfits'
    obtain ⟨function, hfunction, hkey⟩ := exists_overload_iff.mp ⟨other, hother, rfl⟩
    have hsame : function.key = overload.key := by
      refine h.unique function hfunction (hkey ▸ hfits'.1) ?_
      rw [hkey, ← arity_of_mem_programGlobals hother, hfits'.2]
    exact List.inj_on_of_nodup_map hnodup hother hmem (hkey.symm.trans hsame)

end Programs

end Throws.Resolution
