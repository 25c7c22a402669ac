import Throws.Signature.Source
import Throws.Verification.Table

/-!
# Building a table

Building a table goes through the functions twice and keeps a state, yet the outcome can be told
from the list of functions alone. Of all functions, only some settle a contract: the bodyless
declarations, and the definitions of functions that have none. The first of them to be recorded
settles it, and later ones have to agree.

`Table.Recorded` says what recording one contract does to a table. `Reflects` is the invariant of
the whole run: it ties a table to the functions that were recorded in it. From these follow both
when a table is built without an error (`buildTable_eq_nil_iff`) and what is in it then
(`reflects_buildTable`).
-/

namespace Throws

/-- A contract is declared exactly if the specifier has a clause. -/
theorem Specifier.isDeclared_meaning (specifier : Specifier) :
    specifier.meaning.isDeclared = specifier.isWritten := by
  obtain ⟨throws, wildcard, noexcept, span⟩ := specifier
  cases wildcard with
  | true => simp [meaning, isWritten, hasThrows, Contract.isDeclared]
  | false =>
    cases throws with
    | some types => simp [meaning, isWritten, hasThrows, Contract.isDeclared]
    | none => cases noexcept <;> rfl

/-- A contract is determined by what callers reckon with and by whether it is declared. -/
theorem Contract.eq_of_effective_eq {a b : Contract} (heffective : a.effective = b.effective)
    (hdeclared : a.isDeclared = b.isDeclared) : a = b := by
  cases a with
  | undeclared =>
    cases b with
    | undeclared => rfl
    | declared allowed => cases hdeclared
  | declared allowed =>
    cases b with
    | undeclared => cases hdeclared
    | declared other => exact congrArg declared heffective

end Throws

namespace Throws.Signature.Table

variable {table next : Table} {key other : FunctionKey} {contract : Contract} {span : Span}

/-- A table as a source gives the contracts of the table. -/
@[simp]
theorem lookup_source (table : Table) (key : FunctionKey) :
    table.source.lookup key = table.lookup key := by
  simp only [Source.lookup, source, lookup]
  cases table.find? key <;> rfl

/-- A function that is put last is found there, unless it is found before. -/
theorem find?_push (table : Table) (key other : FunctionKey) (entry : Entry) :
    (table.push key entry).find? other =
      (table.find? other).or (if other = key then some entry else none) := by
  rw [push, find?, List.lookup_append]
  congr 1
  rw [List.lookup_cons, List.lookup_nil]
  by_cases h : other = key
  · simp [h]
  · simp [h, beq_false_of_ne h]

/-- Another contract for a function leaves everything else as it is. -/
theorem find?_setContract (table : Table) (key other : FunctionKey) (contract : Contract) :
    (table.setContract key contract).find? other = (table.find? other).map fun entry =>
      if other = key then { entry with contract := contract } else entry := by
  simp only [setContract, find?]
  induction table.entries with
  | nil => rfl
  | cons first rest ih =>
    obtain ⟨key', entry⟩ := first
    rw [List.map_cons, List.lookup_cons, List.lookup_cons, ih]
    by_cases h : other = key'
    · simp [h]
    · simp [beq_false_of_ne h]

/-- A function is not found exactly if it is not among those recorded. -/
theorem find?_eq_none_iff : table.find? key = none ↔ key ∉ table.keys := by
  rw [find?, keys, List.lookup_eq_none_iff, List.mem_map]
  constructor
  · rintro h ⟨item, hitem, rfl⟩
    exact (bne_iff_ne.mp (h item hitem)) rfl
  · exact fun h item hitem => bne_iff_ne.mpr fun heq => h ⟨item, hitem, heq.symm⟩

/-- A function that is found was recorded. -/
theorem mem_keys_of_find? {entry : Entry} (h : table.find? key = some entry) :
    key ∈ table.keys := by
  refine Classical.byContradiction fun hnot => ?_
  rw [find?_eq_none_iff.mpr hnot] at h
  cases h

/-- The contract of a function that was not recorded. -/
theorem lookup_of_not_mem (h : key ∉ table.keys) : table.lookup key = .undeclared := by
  rw [lookup, find?_eq_none_iff.mpr h]

@[simp]
theorem keys_push (table : Table) (key : FunctionKey) (entry : Entry) :
    (table.push key entry).keys = table.keys ++ [key] := by
  simp [push, keys]

@[simp]
theorem keys_setContract (table : Table) (key : FunctionKey) (contract : Contract) :
    (table.setContract key contract).keys = table.keys := by
  simp [setContract, keys]

/-- A new function has the contract that it was put down with. -/
theorem lookup_push (h : key ∉ table.keys) (entry : Entry) :
    (table.push key entry).lookup other =
      if other = key then entry.contract else table.lookup other := by
  rw [lookup, find?_push]
  by_cases hother : other = key
  · subst hother
    simp [find?_eq_none_iff.mpr h]
  · simp [hother, lookup]

/-- Another contract for a function is found in place of the earlier one. -/
theorem lookup_setContract (h : key ∈ table.keys) (contract : Contract) :
    (table.setContract key contract).lookup other =
      if other = key then contract else table.lookup other := by
  rw [lookup, find?_setContract, lookup]
  by_cases hother : other = key
  · subst hother
    cases hfind : table.find? other with
    | none => exact absurd h (find?_eq_none_iff.mp hfind)
    | some entry => simp
  · cases table.find? other <;> simp [hother]

/-- What recording a contract for a function does to a table. -/
structure Recorded (table : Table) (key : FunctionKey) (contract : Contract) (next : Table) :
    Prop where
  /-- A new function is put last. -/
  keys_eq : next.keys = if key ∈ table.keys then table.keys else table.keys ++ [key]
  /-- Other functions keep their contracts. -/
  lookup_of_ne : ∀ other, other ≠ key → next.lookup other = table.lookup other
  /-- An earlier contract of the function agrees. -/
  agrees : key ∈ table.keys → (table.lookup key).effective = contract.effective
  /-- The function has a contract of that effect now. -/
  effective_eq : (next.lookup key).effective = contract.effective
  /-- It is declared if it was before, or if this contract is. -/
  isDeclared_eq :
    (next.lookup key).isDeclared = ((table.lookup key).isDeclared || contract.isDeclared)

/-- A contract is taken into a table in one of three ways. A new function is put last. A function
that is there already has a contract of the same effect, which gets its written form if it was not
declared before, or else stays as it is. -/
theorem recordContract_cases (h : table.recordContract key contract span = .ok next) :
    (table.find? key = none ∧ next = table.push key { contract := contract, span := span }) ∨
      ∃ earlier, table.find? key = some earlier ∧
        earlier.contract.effective = contract.effective ∧
        ((earlier.contract.isDeclared = false ∧ contract.isDeclared = true ∧
            next = table.setContract key contract) ∨
          ((contract.isDeclared = true → earlier.contract.isDeclared = true) ∧ next = table)) := by
  unfold recordContract at h
  split at h
  case h_1 hfind =>
    cases h
    exact .inl ⟨hfind, rfl⟩
  case h_2 earlier hfind =>
    split at h
    · cases h
    case isFalse heq =>
      refine .inr ⟨earlier, hfind, Classical.not_not.mp heq, ?_⟩
      split at h
      case isTrue hwritten =>
        cases h
        simp only [Bool.and_eq_true, Bool.not_eq_true'] at hwritten
        exact .inl ⟨hwritten.2, hwritten.1, rfl⟩
      case isFalse hwritten =>
        cases h
        simp only [Bool.and_eq_true, Bool.not_eq_true', not_and, Bool.not_eq_false] at hwritten
        exact .inr ⟨hwritten, rfl⟩

/-- A contract that is taken into a table is recorded in it. -/
theorem recorded_of_recordContract (h : table.recordContract key contract span = .ok next) :
    table.Recorded key contract next := by
  rcases recordContract_cases h with
    ⟨hfind, rfl⟩ | ⟨earlier, hfind, heq, ⟨hundeclared, hwritten, rfl⟩ | ⟨hkept, rfl⟩⟩
  · have hnew := find?_eq_none_iff.mp hfind
    exact {
      keys_eq := by simp [hnew]
      lookup_of_ne := fun other hother => by rw [lookup_push hnew, if_neg hother]
      agrees := fun hmem => absurd hmem hnew
      effective_eq := by rw [lookup_push hnew, if_pos rfl]
      isDeclared_eq := by
        rw [lookup_push hnew, if_pos rfl, lookup_of_not_mem hnew]
        rfl }
  · -- The form without a promise gives way to the written one.
    have hmem := mem_keys_of_find? hfind
    exact {
      keys_eq := by simp [hmem]
      lookup_of_ne := fun other hother => by rw [lookup_setContract hmem, if_neg hother]
      agrees := fun _ => by rw [lookup, hfind, ← heq]
      effective_eq := by rw [lookup_setContract hmem, if_pos rfl]
      isDeclared_eq := by rw [lookup_setContract hmem, if_pos rfl, hwritten, Bool.or_true] }
  · -- The table stays as it is.
    have hlookup : next.lookup key = earlier.contract := by rw [lookup, hfind]
    exact {
      keys_eq := by simp [mem_keys_of_find? hfind]
      lookup_of_ne := fun _ _ => rfl
      agrees := fun _ => by rw [hlookup, heq]
      effective_eq := by rw [hlookup, heq]
      isDeclared_eq := by
        rw [hlookup]
        cases hdeclared : contract.isDeclared with
        | true => rw [hkept hdeclared, Bool.or_true]
        | false => rw [Bool.or_false] }

/-- A contract is taken into a table unless the function has one with another effect. -/
theorem exists_recordContract (table : Table) (span : Span)
    (h : key ∈ table.keys → (table.lookup key).effective = contract.effective) :
    ∃ next, table.recordContract key contract span = .ok next := by
  unfold recordContract
  cases hfind : table.find? key with
  | none => exact ⟨_, rfl⟩
  | some earlier =>
    have hmem := mem_keys_of_find? hfind
    have hagree := h hmem
    rw [lookup, hfind] at hagree
    dsimp only at hagree ⊢
    rw [if_neg (not_not_intro hagree)]
    split <;> exact ⟨_, rfl⟩

/-- What comes after the check of a specifier is reached only if there is no contradiction. -/
theorem of_checkSpecifier_bind_ok {key : FunctionKey} {specifier : Specifier}
    {span : Option Span} {next : Unit → Except Diagnostic Table} {table : Table}
    (h : (checkSpecifier key specifier span >>= next) = .ok table) :
    specifier.isConflicting = false ∧ next () = .ok table := by
  unfold checkSpecifier at h
  split at h
  · cases h
  case isFalse hconflict => exact ⟨Bool.eq_false_iff.mpr hconflict, h⟩

/-- Without a contradiction, what comes after the check of a specifier is all that happens. -/
theorem checkSpecifier_bind {specifier : Specifier} {place : Option Span}
    {rest : Unit → Except Diagnostic Table} (h : specifier.isConflicting = false) :
    (checkSpecifier key specifier place >>= rest) = rest () := by
  rw [checkSpecifier, if_neg (Bool.eq_false_iff.mp h)]
  rfl

end Throws.Signature.Table

namespace Throws.Verification

open Throws.Body Throws.Signature

/-- What one declaration or definition makes callers reckon with. -/
def promised (function : Function) : ExceptionSet := function.specifier.meaning.effective

/-- Whatever two of the functions say about the same function has the same effect. -/
def Agreeing (functions : List Function) : Prop :=
  ∀ first ∈ functions, ∀ second ∈ functions, first.key = second.key →
    promised first = promised second

/-- Functions agree whatever comes after them. -/
theorem Agreeing.of_append {first second : List Function} (h : Agreeing (first ++ second)) :
    Agreeing first :=
  fun one hone other hother =>
    h one (List.mem_append_left _ hone) other (List.mem_append_left _ hother)

namespace Step

/-- The function that a step is about. -/
def function : Step → Function
  | .record function => function
  | .check function => function

/-- The function that a step records. -/
def recorded? : Step → Option Function
  | .record function => some function
  | .check _ => none

/-- What a row of steps records is what the first one does and then the others. -/
theorem filterMap_recorded?_cons (step : Step) (rest : List Step) :
    (step :: rest).filterMap recorded? = step.recorded?.toList ++ rest.filterMap recorded? := by
  cases step <;> rfl

end Step

/-- The table is what recording the given functions in this order comes to. -/
structure Reflects (table : Table) (recorded : List Function) : Prop where
  /-- Every function is in it, in order of its first appearance. -/
  keys_eq : table.keys = (recorded.map (·.key)).eraseDups
  /-- No function is in it twice. -/
  nodup : table.keys.Nodup
  /-- Callers reckon with what was promised. -/
  effective_eq : ∀ function ∈ recorded, (table.lookup function.key).effective = promised function
  /-- A contract is declared if it was written anywhere. -/
  isDeclared_iff : ∀ key, (table.lookup key).isDeclared = true ↔
    ∃ function ∈ recorded, function.key = key ∧ function.specifier.isWritten = true

/-- One more key counts only if it is new. -/
theorem eraseDups_append_singleton (keys : List FunctionKey) (key : FunctionKey) :
    (keys ++ [key]).eraseDups =
      if key ∈ keys.eraseDups then keys.eraseDups else keys.eraseDups ++ [key] := by
  rw [List.eraseDups_append, List.cons_removeAll]
  by_cases h : key ∈ keys
  · simp [h]
  · simp [h, List.eraseDups_cons]

namespace Reflects

variable {table next final : Table} {recorded : List Function} {function : Function} {step : Step}
  {steps : List Step}

theorem empty : Reflects .empty [] where
  keys_eq := rfl
  nodup := .nil
  effective_eq := List.forall_mem_nil _
  isDeclared_iff := fun _ => iff_of_false Bool.false_ne_true fun ⟨_, h, _⟩ => List.not_mem_nil h

/-- The functions in the table are those that were recorded. -/
theorem mem_keys_iff (h : Reflects table recorded) {key : FunctionKey} :
    key ∈ table.keys ↔ ∃ function ∈ recorded, function.key = key := by
  rw [h.keys_eq, List.mem_eraseDups, List.mem_map]

/-- Functions that were recorded without an error agree. -/
theorem agreeing (h : Reflects table recorded) : Agreeing recorded := by
  intro first hfirst second hsecond hkey
  rw [← h.effective_eq first hfirst, ← h.effective_eq second hsecond, hkey]

/-- Tables have the same contract for a function if whatever one of them says of it was recorded in
the other one too. -/
theorem lookup_eq_of_specifiers {other : Table} {recorded' : List Function} {key : FunctionKey}
    (h : Reflects table recorded) (h' : Reflects other recorded')
    (hto : ∀ function ∈ recorded, function.key = key →
      ∃ same ∈ recorded', same.key = key ∧ same.specifier = function.specifier)
    (hfrom : ∀ function ∈ recorded', function.key = key →
      ∃ same ∈ recorded, same.key = key ∧ same.specifier = function.specifier) :
    table.lookup key = other.lookup key := by
  by_cases hmem : key ∈ table.keys
  · obtain ⟨function, hfunction, hkey⟩ := h.mem_keys_iff.mp hmem
    obtain ⟨same, hsame, hkey', hspecifier⟩ := hto function hfunction hkey
    -- Any one entry tells the effect, but any of them may be the one that is written.
    refine Contract.eq_of_effective_eq ?_ (Bool.eq_iff_iff.mpr ?_)
    · have hleft := h.effective_eq function hfunction
      have hright := h'.effective_eq same hsame
      rw [hkey] at hleft
      rw [hkey'] at hright
      rw [hleft, hright, promised, promised, hspecifier]
    · rw [h.isDeclared_iff, h'.isDeclared_iff]
      constructor
      · rintro ⟨writer, hwriter, hkey, hwritten⟩
        obtain ⟨same, hsame, hkey', hspecifier⟩ := hto writer hwriter hkey
        exact ⟨same, hsame, hkey', hspecifier ▸ hwritten⟩
      · rintro ⟨writer, hwriter, hkey, hwritten⟩
        obtain ⟨same, hsame, hkey', hspecifier⟩ := hfrom writer hwriter hkey
        exact ⟨same, hsame, hkey', hspecifier ▸ hwritten⟩
  · have hmem' : key ∉ other.keys := by
      intro hkeys
      obtain ⟨function, hfunction, hkey⟩ := h'.mem_keys_iff.mp hkeys
      obtain ⟨same, hsame, hkey', _⟩ := hfrom function hfunction hkey
      exact hmem (h.mem_keys_iff.mpr ⟨same, hsame, hkey'⟩)
    rw [Table.lookup_of_not_mem hmem, Table.lookup_of_not_mem hmem']

/-- One more function, recorded with what its specifier means. -/
theorem append (h : Reflects table recorded)
    (hnext : table.Recorded function.key function.specifier.meaning next) :
    Reflects next (recorded ++ [function]) := by
  refine ⟨?_, ?_, fun other hother => ?_, fun key => ?_⟩
  · rw [hnext.keys_eq, List.map_append, List.map_singleton, eraseDups_append_singleton, h.keys_eq]
  · rw [hnext.keys_eq]
    split
    · exact h.nodup
    case isFalse hnew =>
      refine List.nodup_append.mpr ⟨h.nodup, List.pairwise_singleton _ _, ?_⟩
      rintro key hkey _ hlast rfl
      exact hnew (List.mem_singleton.mp hlast ▸ hkey)
  · by_cases hkey : other.key = function.key
    · rw [hkey, hnext.effective_eq]
      rcases List.mem_append.mp hother with hother | hother
      · -- An earlier function of this key was settled in the same way.
        have hmem := h.mem_keys_iff.mpr ⟨other, hother, hkey⟩
        rw [← h.effective_eq other hother, hkey, hnext.agrees hmem]
      · rw [List.mem_singleton.mp hother]
        rfl
    · rcases List.mem_append.mp hother with hother | hother
      · rw [hnext.lookup_of_ne _ hkey, h.effective_eq other hother]
      · exact absurd (congrArg _ (List.mem_singleton.mp hother)) hkey
  · by_cases hkey : key = function.key
    · subst hkey
      rw [hnext.isDeclared_eq, Bool.or_eq_true, h.isDeclared_iff, Specifier.isDeclared_meaning]
      simp [or_and_right, exists_or]
    · rw [hnext.lookup_of_ne _ hkey, h.isDeclared_iff]
      simp [or_and_right, exists_or, Ne.symm hkey]

/-- A step that does not fail finds no contradiction, and the table reflects what it records. -/
theorem of_run (h : Reflects table recorded) (hrun : step.run table = .ok next) :
    step.function.specifier.isConflicting = false ∧
      Reflects next (recorded ++ step.recorded?.toList) := by
  cases step with
  | record function =>
    obtain ⟨hconflict, hrecord⟩ := Table.of_checkSpecifier_bind_ok hrun
    exact ⟨hconflict, h.append (Table.recorded_of_recordContract hrecord)⟩
  | check function =>
    obtain ⟨hconflict, hsame⟩ := Table.of_checkSpecifier_bind_ok hrun
    cases hsame
    refine ⟨hconflict, ?_⟩
    simpa [Step.recorded?] using h

/-- A step does not fail if its specifier does not contradict itself and what it records agrees with
what was recorded before. -/
theorem exists_run (h : Reflects table recorded)
    (hconflict : step.function.specifier.isConflicting = false)
    (hagree : Agreeing (recorded ++ step.recorded?.toList)) :
    ∃ next, step.run table = .ok next := by
  cases step with
  | record function =>
    have hsettled : function.key ∈ table.keys →
        (table.lookup function.key).effective = function.specifier.meaning.effective := by
      intro hmem
      obtain ⟨other, hother, hkey⟩ := h.mem_keys_iff.mp hmem
      rw [← hkey, h.effective_eq other hother]
      exact hagree other (List.mem_append_left _ hother) function
        (List.mem_append_right _ List.mem_cons_self) hkey
    obtain ⟨next, hnext⟩ := Table.exists_recordContract table function.span hsettled
    exact ⟨next, (Table.checkSpecifier_bind hconflict).trans hnext⟩
  | check function => exact ⟨table, Table.checkSpecifier_bind hconflict⟩

/-- If none of the steps fails, no specifier contradicts itself and the finished table reflects all
that the steps record. -/
theorem of_collect (h : Reflects table recorded) (hrun : collect table steps = (final, [])) :
    (∀ step ∈ steps, step.function.specifier.isConflicting = false) ∧
      Reflects final (recorded ++ steps.filterMap Step.recorded?) := by
  induction steps generalizing table recorded with
  | nil =>
    obtain rfl : table = final := congrArg Prod.fst hrun
    refine ⟨List.forall_mem_nil _, ?_⟩
    simpa using h
  | cons step rest ih =>
    rw [collect] at hrun
    split at hrun
    case h_1 next hstep =>
      obtain ⟨hconflict, hnext⟩ := h.of_run hstep
      obtain ⟨hrest, hfinal⟩ := ih hnext hrun
      rw [Step.filterMap_recorded?_cons, ← List.append_assoc]
      exact ⟨List.forall_mem_cons.mpr ⟨hconflict, hrest⟩, hfinal⟩
    case h_2 => cases congrArg Prod.snd hrun

/-- None of the steps fails if no specifier contradicts itself and all that is recorded agrees. -/
theorem collect_eq_nil (h : Reflects table recorded)
    (hconflict : ∀ step ∈ steps, step.function.specifier.isConflicting = false)
    (hagree : Agreeing (recorded ++ steps.filterMap Step.recorded?)) :
    (collect table steps).2 = [] := by
  induction steps generalizing table recorded with
  | nil => rfl
  | cons step rest ih =>
    obtain ⟨hstep, hrest⟩ := List.forall_mem_cons.mp hconflict
    rw [Step.filterMap_recorded?_cons, ← List.append_assoc] at hagree
    obtain ⟨next, hrun⟩ := h.exists_run hstep hagree.of_append
    rw [collect, hrun]
    exact ih (h.of_run hrun).2 hrest hagree

end Reflects

/-- The functions that settle contracts, in the order in which they are recorded: the bodyless
declarations, and then the definitions of functions that have none. -/
def settling (functions : List Function) : List Function :=
  let declarations := functions.filter (!·.isDefinition)
  declarations ++ (functions.filter (·.isDefinition)).filter
    (decide <| ·.key ∉ declarations.map (·.key))

section Building

variable {functions : List Function} {function : Function}

/-- A function settles a contract if it is a bodyless declaration, or if there is none of it. -/
theorem mem_settling_iff :
    function ∈ settling functions ↔ function ∈ functions ∧ (function.isDefinition = true →
      ∀ other ∈ functions, other.isDefinition = false → other.key ≠ function.key) := by
  simp only [settling, List.mem_append, List.mem_filter, List.mem_map, decide_eq_true_eq]
  cases hdefinition : function.isDefinition <;> grind

/-- What is recorded are the functions that settle contracts. -/
theorem filterMap_recorded?_plan (functions : List Function) :
    (Step.plan functions).filterMap Step.recorded? = settling functions := by
  have hdefinition : ∀ declared : List FunctionKey,
      Step.recorded? ∘ Step.ofDefinition declared = Option.guard (decide <| ·.key ∉ declared) := by
    intro declared
    funext definition
    by_cases h : definition.key ∈ declared <;>
      simp [Step.ofDefinition, Step.recorded?, Option.guard, h]
  have hdeclaration : Step.recorded? ∘ Step.record = some := rfl
  rw [Step.plan, settling, List.filterMap_append, List.filterMap_map, List.filterMap_map,
    hdefinition, hdeclaration, List.filterMap_some, List.filterMap_eq_filter]

/-- Every function has its step. -/
theorem mem_map_function_plan :
    function ∈ (Step.plan functions).map Step.function ↔ function ∈ functions := by
  have hdefinition : ∀ declared, Step.function ∘ Step.ofDefinition declared = id := by
    intro declared
    funext definition
    simp only [Function.comp_apply, Step.ofDefinition]
    split <;> rfl
  have hdeclaration : Step.function ∘ Step.record = id := rfl
  rw [Step.plan, List.map_append, List.map_map, List.map_map, hdefinition, hdeclaration,
    List.map_id, List.map_id, List.mem_append, List.mem_filter, List.mem_filter]
  cases function.isDefinition <;> simp

/-- If a table is built without an error, no specifier contradicts itself and the table reflects the
functions that settle contracts. -/
theorem reflects_buildTable (h : (buildTable functions).2 = []) :
    (∀ function ∈ functions, function.specifier.isConflicting = false) ∧
      Reflects (buildTable functions).1 (settling functions) := by
  obtain ⟨hconflict, hreflects⟩ := Reflects.empty.of_collect (Prod.ext rfl h)
  rw [filterMap_recorded?_plan] at hreflects
  refine ⟨fun function hfunction => ?_, hreflects⟩
  obtain ⟨step, hstep, rfl⟩ := List.mem_map.mp (mem_map_function_plan.mpr hfunction)
  exact hconflict step hstep

/-- A table is built without an error exactly if no specifier contradicts itself and the functions
that settle contracts agree. -/
theorem buildTable_eq_nil_iff :
    (buildTable functions).2 = [] ↔
      (∀ function ∈ functions, function.specifier.isConflicting = false) ∧
        Agreeing (settling functions) := by
  constructor
  · intro h
    obtain ⟨hconflict, hreflects⟩ := reflects_buildTable h
    exact ⟨hconflict, hreflects.agreeing⟩
  · rintro ⟨hconflict, hagree⟩
    rw [← filterMap_recorded?_plan] at hagree
    refine Reflects.empty.collect_eq_nil (fun step hstep => ?_) hagree
    exact hconflict _ (mem_map_function_plan.mp (List.mem_map.mpr ⟨step, hstep, rfl⟩))

/-- In a table that was built without an error, no declaration contradicts itself, and each one
agrees with the table unless it is a definition. -/
theorem buildTable_ok {table : Table} (h : buildTable functions = (table, []))
    (hmem : function ∈ functions) :
    function.specifier.isConflicting = false ∧
      (function.isDefinition = false →
        (table.lookup function.key).effective = function.specifier.meaning.effective) := by
  obtain ⟨hconflict, hreflects⟩ := reflects_buildTable (congrArg Prod.snd h)
  rw [h] at hreflects
  refine ⟨hconflict function hmem, fun hbodyless => ?_⟩
  refine hreflects.effective_eq function (mem_settling_iff.mpr ⟨hmem, fun hdefinition => ?_⟩)
  rw [hbodyless] at hdefinition
  cases hdefinition

end Building

end Throws.Verification
