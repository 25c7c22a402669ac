import Throws.Proofs.Concerns
import Throws.Proofs.ProgramOutcome
import Throws.Proofs.TableContents

/-!
# Verifying units separately

A unit can be verified by itself, with the tables of the other units to ask for what it does not
declare. Then a chain of tables answers where the program as a whole has one table, and the first
table that knows a function hides what the later ones say of it. As long as no unit misstates a
contract of the program this makes no difference: whichever table answers, it gives the answer of
the program, so the reports are the same and so is the point where a verification breaks off.
-/

namespace Throws.Signature

/-- Sources in a row answer like a single source if what they know is what it says, and if they know
all that it knows. -/
theorem Source.lookup_chain {sources : List Source} {whole : Source} {key : FunctionKey}
    (hagree : ∀ source ∈ sources, ∀ contract, source.find? key = some contract →
      whole.lookup key = contract)
    (hcover : (∀ source ∈ sources, source.find? key = none) → whole.find? key = none) :
    (chain sources).lookup key = whole.lookup key := by
  change (sources.findSome? (·.find? key)).getD .undeclared = _
  cases hfind : sources.findSome? (·.find? key) with
  | none =>
    -- No source knows the function, so the single one does not either.
    have hunknown := hcover (List.findSome?_eq_none_iff.mp hfind)
    rw [lookup, hunknown]
  | some contract =>
    -- It does not matter which source comes first: the answer is the same.
    obtain ⟨source, hsource, hanswer⟩ := List.exists_of_findSome?_eq_some hfind
    exact (hagree source hsource contract hanswer).symm

namespace Table

variable {table : Table} {key : FunctionKey}

/-- A table knows nothing of a function that is not in it. -/
theorem source_find?_eq_none_iff : table.source.find? key = none ↔ key ∉ table.keys := by
  rw [source, Option.map_eq_none_iff, find?_eq_none_iff]

/-- What a table knows of a function is the contract of a function that is in it. -/
theorem of_source_find?_eq_some {contract : Contract} (h : table.source.find? key = some contract) :
    key ∈ table.keys ∧ table.lookup key = contract := by
  obtain ⟨entry, hentry, rfl⟩ := Option.map_eq_some_iff.mp h
  refine ⟨mem_keys_of_find? hentry, ?_⟩
  rw [lookup, hentry]

end Table

end Throws.Signature

namespace Throws.Verification

open Throws.Body Throws.Signature

/-- The table of the declarations of one unit. -/
def unitTable (unit : SourceUnit) : Table := (buildTable unit.functions).1

/-- The table of the declarations of all units. -/
def programTable (units : List SourceUnit) : Table := (buildTable (units.flatMap (·.functions))).1

/-- Units that state the contracts of the program they make up. -/
structure Separable (units : List SourceUnit) : Prop where
  /-- There is no error in the declarations taken together. -/
  program_clean : buildTable (units.flatMap (·.functions)) = (programTable units, [])
  /-- There is no error in the declarations of any one unit. -/
  unit_clean : ∀ unit ∈ units, buildTable unit.functions = (unitTable unit, [])
  /-- Each unit gives the functions that it declares or defines the contracts of the program. -/
  lookup_eq : ∀ unit ∈ units, ∀ key ∈ (unitTable unit).keys,
    (unitTable unit).lookup key = (programTable units).lookup key

section Tables

variable {units : List SourceUnit} {key : FunctionKey}

/-- What is in the table of the program is in the table of a unit. -/
theorem Separable.exists_unit (h : Separable units) (hkey : key ∈ (programTable units).keys) :
    ∃ unit ∈ units, key ∈ (unitTable unit).keys := by
  obtain ⟨function, hfunction, hname⟩ := (mem_keys_buildTable_iff h.program_clean).mp hkey
  obtain ⟨unit, hunit, hmem⟩ := List.mem_flatMap.mp hfunction
  have hclean := h.unit_clean unit hunit
  exact ⟨unit, hunit, (mem_keys_buildTable_iff hclean).mpr ⟨function, hmem, hname⟩⟩

/-- The tables of all units, asked in whatever order, answer like the table of the program. -/
theorem Separable.lookup_chain (h : Separable units) {order : List SourceUnit}
    (horder : order.Perm units) (key : FunctionKey) :
    (Source.chain (order.map fun unit => (unitTable unit).source)).lookup key =
      (programTable units).lookup key := by
  rw [← Table.lookup_source]
  refine Source.lookup_chain (fun source hsource contract hfind => ?_) fun hunknown => ?_
  · -- Whichever table answers belongs to a unit, which states the contracts of the program.
    obtain ⟨unit, hunit, rfl⟩ := List.mem_map.mp hsource
    obtain ⟨hkey, hlookup⟩ := Table.of_source_find?_eq_some hfind
    rw [Table.lookup_source, ← h.lookup_eq unit (horder.mem_iff.mp hunit) key hkey, hlookup]
  · -- What the program knows some unit declares or defines.
    refine Table.source_find?_eq_none_iff.mpr fun hkey => ?_
    obtain ⟨unit, hunit, hknown⟩ := h.exists_unit hkey
    have hmem := List.mem_map_of_mem (f := fun unit => (unitTable unit).source)
      (horder.mem_iff.mpr hunit)
    exact Table.source_find?_eq_none_iff.mp (hunknown _ hmem) hknown

end Tables

/-- Definitions are verified alike against sources that answer alike. -/
theorem verifyDefinitions_congr {options : Options} {signatures signatures' : Source}
    (h : ∀ key, signatures.lookup key = signatures'.lookup key) (definitions : List Function) :
    verifyDefinitions options signatures definitions =
      verifyDefinitions options signatures' definitions := by
  -- They agree on all functions, so on the concerns of each definition.
  have hsame : verifyFunction options.depth signatures =
      verifyFunction options.depth signatures' :=
    funext fun _ => verifyFunction_congr fun key _ => h key
  rw [verifyDefinitions, hsame, verifyDefinitions]

/-- The reports of a program on the definitions of one of its units. -/
theorem verifyDefinitions_unit {options : Options} {signatures : Source}
    {before after : List SourceUnit} {unit : SourceUnit} {reports : List Report}
    (h : verifyDefinitions options signatures
      ((before ++ unit :: after).flatMap (·.definitions)) = .ok reports) :
    verifyDefinitions options signatures unit.definitions =
      .ok ((reports.drop (before.flatMap (·.definitions)).length).take
        unit.definitions.length) := by
  rw [List.flatMap_append, List.flatMap_cons] at h
  obtain ⟨earlier, rest, hearlier, hrest, rfl⟩ := verifyDefinitions_append h
  obtain ⟨own, later, hown, hlater, rfl⟩ := verifyDefinitions_append hrest
  rw [(verifyDefinitions_eq_ok_iff.mp hearlier).length_eq, List.drop_left,
    (verifyDefinitions_eq_ok_iff.mp hown).length_eq, List.take_left, hown]

/-- A unit that is verified by itself, with the tables of the other units in any order to ask for
what it does not declare, is verified as if against the table of the program: it gets the same
reports, or the verification breaks off with the same error. If the program can be verified as a
whole, these reports are those that it gets there. -/
theorem verifyUnit_agrees_with_program (options : Options)
    {units before after others : List SourceUnit} {unit : SourceUnit} (h : Separable units)
    (hunits : units = before ++ unit :: after) (hothers : others.Perm (before ++ after)) :
    let external := others.map fun other => (unitTable other).source
    let outcome := fun reports : List Report =>
      ({ name := unit.name, signatures := some (unitTable unit), reports := reports } : Result)
    verifyUnit options external unit =
      (verifyDefinitions options (programTable units).source unit.definitions).map outcome ∧
    ∀ result, verifyProgram options units = .ok result →
      verifyUnit options external unit = .ok (outcome
        ((result.reports.drop (before.flatMap (·.definitions)).length).take
          unit.definitions.length)) := by
  intro external outcome
  -- The unit asks its own table first, so all tables together are those of the program reordered.
  have horder : (unit :: others).Perm units :=
    hunits ▸ (hothers.cons unit).trans List.perm_middle.symm
  have hunit : unit ∈ units := horder.mem_iff.mp List.mem_cons_self
  have hverify : verifyUnit options external unit =
      (verifyDefinitions options (programTable units).source unit.definitions).map outcome := by
    rw [verifyUnit_of_clean (h.unit_clean unit hunit)]
    refine congrArg (Except.map outcome) (verifyDefinitions_congr (fun key => ?_) _)
    rw [Table.lookup_source]
    exact h.lookup_chain horder key
  refine ⟨hverify, fun result hresult => ?_⟩
  have hreports := verifyDefinitions_of_clean h.program_clean hresult
  subst hunits
  rw [hverify, verifyDefinitions_unit hreports]
  rfl

/-- A unit that defines `open` as `throws(A)`, which it does throw. -/
def opening : SourceUnit := ⟨"opening", [{
  key := { name := "open" }
  specifier := .throwing ["A"] false
  body := some (.throw (.literal (.int 1) {}) (some { name := "A" }) {}) }]⟩

/-- A unit that defines `main` as `noexcept`, though it calls `open` and `close`, and declares
neither of them. -/
def calling : SourceUnit := ⟨"calling", [{
  key := { name := "main" }
  specifier := .nothrow
  body := some (.block [
    .eval (.call (some { name := "open" }) [] none {}) {},
    .eval (.call (some { name := "close" }) [] none {}) {}] {}) }]⟩

/-- A unit that declares `open` once more and defines `close` as `noexcept`. -/
def closing : SourceUnit := ⟨"closing", [
  { key := { name := "open" }, specifier := .throwing ["A"] false },
  { key := { name := "close" }, specifier := .nothrow, body := some (.block [] {}) }]⟩

/-- The unit in the middle of a program gets the report of the program, on the escape of `A`, also
by itself. The tables of the other units are asked in another order than that of the program, and
`open` is in both of them. -/
theorem verifyUnit_calling :
    let units := [opening, calling, closing]
    ∃ result, Separable units ∧ verifyProgram {} units = .ok result ∧
      verifyUnit {} [(unitTable closing).source, (unitTable opening).source] calling = .ok {
        name := "calling"
        signatures := some (unitTable calling)
        reports := (result.reports.drop 1).take 1 } ∧
      ((result.reports.drop 1).take 1).map (·.diagnostics) =
        [calling.functions.map
          (Problem.escape (.declared ∅) (.single "A") []).report] := by
  intro units
  have hseparable : Separable units := by
    refine ⟨rfl, ?_, ?_⟩ <;> simp only [units, List.forall_mem_cons]
    · exact ⟨rfl, rfl, rfl, nofun⟩
    · exact ⟨by decide, by decide, by decide, nofun⟩
  obtain ⟨result, hresult, hdiagnostics⟩ : ∃ result, verifyProgram {} units = .ok result ∧
      ((result.reports.drop 1).take 1).map (·.diagnostics) =
        [calling.functions.map (Problem.escape (.declared ∅) (.single "A") []).report] :=
    ⟨_, rfl, rfl⟩
  have hsplit : units = [opening] ++ calling :: [closing] := rfl
  have hothers : [closing, opening].Perm ([opening] ++ [closing]) := .swap opening closing []
  obtain ⟨_, hprogram⟩ := verifyUnit_agrees_with_program {} hseparable hsplit hothers
  exact ⟨result, hseparable, hresult, hprogram result hresult, hdiagnostics⟩

end Throws.Verification
