import Mathlib.Data.List.Perm.Basic
import Throws.Proofs.ProgramOutcome
import Throws.Proofs.TableBuilding

/-!
# Verification does not depend on order

The declarations of a program are recorded one after the other: the first one settles a contract,
later ones are compared with it, and some only change how it is written. Nevertheless the functions
of a program may be put in any order, and distributed over units in any way, without a change in
what is found out. What is consistent in one order is so in any other; the tables have the same
contracts; and each definition gets the same report.
-/

namespace Throws.Signature.Table

/-- Tables of the same functions with the same contracts are the same to whoever looks them up. -/
theorem source_eq_of_lookup_eq {table other : Table}
    (hkeys : ∀ key, key ∈ table.keys ↔ key ∈ other.keys)
    (hlookup : ∀ key, table.lookup key = other.lookup key) : table.source = other.source := by
  refine congrArg Source.mk (funext fun key => ?_)
  have hcontract := hlookup key
  unfold lookup at hcontract
  cases hfind : table.find? key with
  | none =>
    have hnot := mt (hkeys key).mpr (find?_eq_none_iff.mp hfind)
    rw [find?_eq_none_iff.mpr hnot]
  | some entry =>
    have hmem := (hkeys key).mp (mem_keys_of_find? hfind)
    cases hfind' : other.find? key with
    | none => exact absurd hmem (find?_eq_none_iff.mp hfind')
    | some entry' =>
      rw [hfind, hfind'] at hcontract
      exact congrArg some hcontract

end Throws.Signature.Table

namespace Throws.Verification

open Throws.Body Throws.Signature

section Tables

variable {functions functions' : List Function}

/-- Which functions settle contracts does not depend on their order. -/
theorem mem_settling_of_perm (h : functions.Perm functions') (function : Function) :
    function ∈ settling functions ↔ function ∈ settling functions' := by
  simp only [mem_settling_iff, h.mem_iff]

/-- Whether there is an error in the declarations does not depend on their order. -/
theorem buildTable_eq_nil_iff_of_perm (h : functions.Perm functions') :
    (buildTable functions).2 = [] ↔ (buildTable functions').2 = [] := by
  simp only [buildTable_eq_nil_iff, Agreeing, mem_settling_of_perm h, h.mem_iff]

variable {table table' : Table} {recorded recorded' : List Function}

/-- Tables that reflect the same functions contain the same functions. -/
theorem Reflects.keys_perm (h : Reflects table recorded) (h' : Reflects table' recorded')
    (hsame : ∀ function, function ∈ recorded ↔ function ∈ recorded') :
    table.keys.Perm table'.keys := by
  refine (List.perm_ext_iff_of_nodup h.nodup h'.nodup).mpr fun key => ?_
  simp only [h.mem_keys_iff, h'.mem_keys_iff, hsame]

/-- Tables that reflect the same functions have the same contracts. -/
theorem Reflects.lookup_eq (h : Reflects table recorded) (h' : Reflects table' recorded')
    (hsame : ∀ function, function ∈ recorded ↔ function ∈ recorded') (key : FunctionKey) :
    table.lookup key = table'.lookup key :=
  h.lookup_eq_of_specifiers h'
    (fun function hmem hkey => ⟨function, (hsame function).mp hmem, hkey, rfl⟩)
    (fun function hmem hkey => ⟨function, (hsame function).mpr hmem, hkey, rfl⟩)

end Tables

section Definitions

variable {options : Options} {signatures : Source} {definitions definitions' : List Function}

/-- In another order the definitions get the same reports in another order. -/
theorem verifyDefinitions_perm (h : definitions.Perm definitions') {reports : List Report}
    (hok : verifyDefinitions options signatures definitions = .ok reports) :
    ∃ reports', verifyDefinitions options signatures definitions' = .ok reports' ∧
      reports.Perm reports' := by
  rw [verifyDefinitions_eq_ok_iff] at hok
  obtain ⟨reports', hreports', hperm⟩ := List.perm_comp_forall₂ h.symm hok
  exact ⟨reports', verifyDefinitions_eq_ok_iff.mpr hreports', hperm.symm⟩

/-- In any order, either some definition cannot be analysed or all get the same reports. -/
theorem verifyDefinitions_error_or_perm (options : Options) (signatures : Source)
    (h : definitions.Perm definitions') :
    (∃ malformed malformed', verifyDefinitions options signatures definitions = .error malformed ∧
        verifyDefinitions options signatures definitions' = .error malformed') ∨
      ∃ reports reports', verifyDefinitions options signatures definitions = .ok reports ∧
        verifyDefinitions options signatures definitions' = .ok reports' ∧
        reports.Perm reports' := by
  cases hleft : verifyDefinitions options signatures definitions with
  | ok reports =>
    obtain ⟨reports', hright, hperm⟩ := verifyDefinitions_perm h hleft
    exact .inr ⟨reports, reports', rfl, hright, hperm⟩
  | error malformed =>
    cases hright : verifyDefinitions options signatures definitions' with
    | error malformed' => exact .inl ⟨malformed, malformed', rfl, rfl⟩
    | ok reports' =>
      -- The reports in the one order would be reports in the other.
      obtain ⟨reports, hok, _⟩ := verifyDefinitions_perm h.symm hright
      rw [hleft] at hok
      cases hok

end Definitions

section Programs

variable {options : Options} {units units' : List SourceUnit}

/-- The same functions in another order: either neither program can be analysed, or both get the
same reports. -/
theorem verifyProgram_error_or_perm
    (h : (units.flatMap (·.functions)).Perm (units'.flatMap (·.functions))) {table table' : Table}
    (hbuild : buildTable (units.flatMap (·.functions)) = (table, []))
    (hbuild' : buildTable (units'.flatMap (·.functions)) = (table', []))
    (hsource : table.source = table'.source) :
    (∃ malformed malformed', verifyProgram options units = .error malformed ∧
        verifyProgram options units' = .error malformed') ∨
      ∃ result result', verifyProgram options units = .ok result ∧
        verifyProgram options units' = .ok result' ∧
        result.signatures = some table ∧ result'.signatures = some table' ∧
        result.reports.Perm result'.reports := by
  have hdefinitions : (units.flatMap (·.definitions)).Perm (units'.flatMap (·.definitions)) := by
    rw [flatMap_definitions, flatMap_definitions]
    exact h.filter _
  rw [verifyProgram_of_clean hbuild, verifyProgram_of_clean hbuild', ← hsource]
  rcases verifyDefinitions_error_or_perm options table.source hdefinitions with
    ⟨malformed, malformed', hleft, hright⟩ | ⟨reports, reports', hleft, hright, hperm⟩
  · rw [hleft, hright]
    exact .inl ⟨malformed, malformed', rfl, rfl⟩
  · rw [hleft, hright]
    exact .inr ⟨_, _, rfl, rfl, rfl, rfl, hperm⟩

/-- Verification does not depend on the order of functions or on how they are distributed over
units. The declarations are rejected in both cases or in neither. If they are not, the tables
contain the same functions with the same contracts, and either neither program can be analysed or
both get the same reports. So one program is in order exactly if the other is. -/
theorem verifyProgram_perm
    (h : (units.flatMap (·.functions)).Perm (units'.flatMap (·.functions))) :
    (RejectsDeclarations options units ↔ RejectsDeclarations options units') ∧
      (¬ RejectsDeclarations options units → ∃ table table',
        buildTable (units.flatMap (·.functions)) = (table, []) ∧
        buildTable (units'.flatMap (·.functions)) = (table', []) ∧
        table.keys.Perm table'.keys ∧ (∀ key, table.lookup key = table'.lookup key) ∧
        ((∃ malformed malformed', verifyProgram options units = .error malformed ∧
            verifyProgram options units' = .error malformed') ∨
          ∃ result result', verifyProgram options units = .ok result ∧
            verifyProgram options units' = .ok result' ∧
            result.signatures = some table ∧ result'.signatures = some table' ∧
            result.reports.Perm result'.reports ∧ result.ok = result'.ok)) := by
  have hrejects : RejectsDeclarations options units ↔ RejectsDeclarations options units' := by
    rw [rejectsDeclarations_iff, rejectsDeclarations_iff]
    exact not_congr (buildTable_eq_nil_iff_of_perm h)
  refine ⟨hrejects, fun hclean => ?_⟩
  rw [rejectsDeclarations_iff, not_ne_iff] at hclean
  have hclean' := (buildTable_eq_nil_iff_of_perm h).mp hclean
  have hreflects := (reflects_buildTable hclean).2
  have hreflects' := (reflects_buildTable hclean').2
  have hkeys := hreflects.keys_perm hreflects' (mem_settling_of_perm h)
  have hlookup := hreflects.lookup_eq hreflects' (mem_settling_of_perm h)
  have hsource := Table.source_eq_of_lookup_eq (fun _ => hkeys.mem_iff) hlookup
  refine ⟨_, _, Prod.ext rfl hclean, Prod.ext rfl hclean', hkeys, hlookup, ?_⟩
  rcases verifyProgram_error_or_perm h (Prod.ext rfl hclean) (Prod.ext rfl hclean') hsource with
    herror | ⟨result, result', hresult, hresult', hsignatures, hsignatures', hreports⟩
  · exact .inl herror
  · refine .inr ⟨result, result', hresult, hresult', hsignatures, hsignatures', hreports, ?_⟩
    rw [Bool.eq_iff_iff, ok_eq_true_iff hresult, ok_eq_true_iff hresult', hrejects]
    simp only [hreports.mem_iff]

end Programs

/-- Declarations of `f` without a contract and as `throws(...)`, a declaration of `k` as
`throws(A)`, and two definitions: `g` is `noexcept` and calls `f`, and `main` calls `k`. -/
def scattered : List Function := [
  { key := { name := "f" } },
  { key := { name := "f" }, specifier := .throwing [] true },
  { key := { name := "g" }, specifier := .nothrow,
    body := some (.eval (.call (some { name := "f" }) [] none {}) {}) },
  { key := { name := "k" }, specifier := .throwing ["A"] false },
  { key := { name := "main" }, body := some (.eval (.call (some { name := "k" }) [] none {}) {}) }]

/-- In two units, and backwards in a single one, `scattered` gets the same reports, though the
tables list the functions in another order and arrive at the contract of `f` in another way. -/
theorem verifyProgram_scattered :
    let units : List SourceUnit := [⟨"a", scattered.take 3⟩, ⟨"b", scattered.drop 3⟩]
    let units' : List SourceUnit := [⟨"c", scattered.reverse⟩]
    (units.flatMap (·.functions)).Perm (units'.flatMap (·.functions)) ∧
      ¬ RejectsDeclarations {} units ∧
      (buildTable (units.flatMap (·.functions))).1.keys ≠
        (buildTable (units'.flatMap (·.functions))).1.keys ∧
      ∃ result result', verifyProgram {} units = .ok result ∧
        verifyProgram {} units' = .ok result' ∧ result.reports.length = 2 ∧
        result.reports.Perm result'.reports ∧ result.ok = result'.ok := by
  intro units units'
  have h : (units.flatMap (·.functions)).Perm (units'.flatMap (·.functions)) :=
    (List.reverse_perm scattered).symm
  have hclean : ¬ RejectsDeclarations {} units := by
    rw [rejectsDeclarations_iff, not_ne_iff]
    rfl
  have hlength : (verifyProgram {} units).map (·.reports.length) = .ok 2 := by rfl
  refine ⟨h, hclean, by decide, ?_⟩
  obtain ⟨_, _, _, _, _, _, ⟨malformed, _, herror, _⟩ |
    ⟨result, result', hresult, hresult', _, _, hreports, hok⟩⟩ := (verifyProgram_perm h).2 hclean
  · rw [herror] at hlength
    cases hlength
  · rw [hresult] at hlength
    exact ⟨result, result', hresult, hresult', Except.ok.inj hlength, hreports, hok⟩

end Throws.Verification
