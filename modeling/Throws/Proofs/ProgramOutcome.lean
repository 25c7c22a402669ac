import Mathlib.Data.List.Forall2
import Throws.Verification.Program

/-!
# The outcome of verifying a program

What `verifyProgram` and `verifyUnit` return, in terms of the table of the declarations and of the
reports on the single definitions. Errors in the declarations are the whole outcome. Without any,
each definition gets a report of its own, unless one of them cannot be analysed.
-/

namespace Throws.Verification

open Throws.Body Throws.Signature

variable {options : Options} {signatures : Source} {units : List SourceUnit}

/-- Verifying definitions comes to one report for each of them. -/
theorem verifyDefinitions_eq_ok_iff {definitions : List Function} {reports : List Report} :
    verifyDefinitions options signatures definitions = .ok reports ↔
      List.Forall₂ (fun function report =>
        verifyFunction options.depth signatures function = .ok report) definitions reports := by
  unfold verifyDefinitions
  induction definitions generalizing reports with
  | nil =>
    rw [List.mapM_nil, List.forall₂_nil_left_iff]
    exact ⟨fun h => (Except.ok.inj h).symm, fun h => congrArg _ h.symm⟩
  | cons first rest ih =>
    rw [List.mapM_cons]
    -- The first definition that fails ends the run, whatever the others come to.
    cases hfirst : verifyFunction options.depth signatures first with
    | error malformed =>
      refine iff_of_false nofun fun h => ?_
      obtain ⟨_, _, hreport, _, _⟩ := List.forall₂_cons_left_iff.mp h
      rw [hfirst] at hreport
      cases hreport
    | ok report =>
      cases hrest : rest.mapM (verifyFunction options.depth signatures) with
      | error malformed =>
        refine iff_of_false nofun fun h => ?_
        obtain ⟨_, others, _, hothers, _⟩ := List.forall₂_cons_left_iff.mp h
        rw [← ih, hrest] at hothers
        cases hothers
      | ok others =>
        constructor
        · intro h
          cases h
          exact .cons hfirst (ih.mp hrest)
        · intro h
          obtain ⟨_, _, hreport, hothers, rfl⟩ := List.forall₂_cons_left_iff.mp h
          rw [hfirst] at hreport
          rw [← ih, hrest] at hothers
          cases hreport
          cases hothers
          rfl

/-- Each definition gets its report at its own position. -/
theorem getElem?_of_verifyDefinitions {definitions : List Function} {reports : List Report}
    (h : verifyDefinitions options signatures definitions = .ok reports) {position : Nat}
    {function : Function} (hfunction : definitions[position]? = some function) :
    ∃ report, reports[position]? = some report ∧
      verifyFunction options.depth signatures function = .ok report := by
  induction verifyDefinitions_eq_ok_iff.mp h generalizing position with
  | nil => cases hfunction
  | cons hfirst hrest ih =>
    cases position with
    | zero =>
      cases hfunction
      exact ⟨_, rfl, hfirst⟩
    | succ position => exact ih (verifyDefinitions_eq_ok_iff.mpr hrest) hfunction

/-- Each definition gets a report, unless one of them cannot be analysed. -/
theorem exists_report_of_verifyDefinitions {definitions : List Function} {reports : List Report}
    (h : verifyDefinitions options signatures definitions = .ok reports) :
    ∀ function ∈ definitions, ∃ report ∈ reports,
      verifyFunction options.depth signatures function = .ok report := by
  intro function hfunction
  obtain ⟨position, hposition⟩ := List.mem_iff_getElem?.mp hfunction
  obtain ⟨report, hreport, hok⟩ := getElem?_of_verifyDefinitions h hposition
  exact ⟨report, List.mem_of_getElem? hreport, hok⟩

/-- Verifying definitions stops at the first of them that cannot be analysed. -/
theorem verifyDefinitions_eq_error_iff {definitions : List Function} {malformed : Malformed} :
    verifyDefinitions options signatures definitions = .error malformed ↔
      ∃ earlier definition later, definitions = earlier ++ definition :: later ∧
        verifyFunction options.depth signatures definition = .error malformed ∧
        ∀ other ∈ earlier, ∃ report,
          verifyFunction options.depth signatures other = .ok report := by
  unfold verifyDefinitions
  induction definitions with
  | nil =>
    refine iff_of_false nofun ?_
    rintro ⟨earlier, _, _, hsplit, _⟩
    cases earlier <;> cases hsplit
  | cons first rest ih =>
    rw [List.mapM_cons]
    cases hfirst : verifyFunction options.depth signatures first with
    | error found =>
      constructor
      · intro h
        cases h
        exact ⟨[], first, rest, rfl, hfirst, List.forall_mem_nil _⟩
      · rintro ⟨earlier, definition, later, hsplit, herror, hearlier⟩
        cases earlier with
        | nil =>
          obtain ⟨rfl, _⟩ := List.cons.inj hsplit
          cases hfirst.symm.trans herror
          rfl
        | cons head tail =>
          obtain ⟨rfl, _⟩ := List.cons.inj hsplit
          obtain ⟨report, hreport⟩ := hearlier first List.mem_cons_self
          cases hfirst.symm.trans hreport
    | ok report =>
      -- The first definition adds a report, so an error can only come from the others.
      refine Iff.trans ?_ (ih.trans ?_)
      · cases rest.mapM (verifyFunction options.depth signatures) with
        | error found => exact Iff.rfl
        | ok others => exact iff_of_false nofun nofun
      constructor
      · rintro ⟨earlier, definition, later, rfl, herror, hearlier⟩
        exact ⟨first :: earlier, definition, later, rfl, herror,
          List.forall_mem_cons.mpr ⟨⟨report, hfirst⟩, hearlier⟩⟩
      · rintro ⟨earlier, definition, later, hsplit, herror, hearlier⟩
        cases earlier with
        | nil =>
          obtain ⟨rfl, _⟩ := List.cons.inj hsplit
          cases hfirst.symm.trans herror
        | cons head tail =>
          obtain ⟨rfl, rfl⟩ := List.cons.inj hsplit
          exact ⟨tail, definition, later, rfl, herror, (List.forall_mem_cons.mp hearlier).2⟩

/-- The reports on definitions in a row are those on the first ones and then those on the others. -/
theorem verifyDefinitions_append {first second : List Function} {reports : List Report}
    (h : verifyDefinitions options signatures (first ++ second) = .ok reports) :
    ∃ earlier later, verifyDefinitions options signatures first = .ok earlier ∧
      verifyDefinitions options signatures second = .ok later ∧ reports = earlier ++ later := by
  unfold verifyDefinitions at h ⊢
  rw [List.mapM_append] at h
  cases hfirst : first.mapM (verifyFunction options.depth signatures) with
  | error malformed =>
    rw [hfirst] at h
    cases h
  | ok earlier =>
    cases hsecond : second.mapM (verifyFunction options.depth signatures) with
    | error malformed =>
      rw [hfirst, hsecond] at h
      cases h
    | ok later =>
      rw [hfirst, hsecond] at h
      exact ⟨earlier, later, rfl, rfl, (Except.ok.inj h).symm⟩

/-- The definitions of a program are those of its functions that have a body. -/
theorem flatMap_definitions (units : List SourceUnit) :
    units.flatMap (·.definitions) = (units.flatMap (·.functions)).filter (·.isDefinition) :=
  List.filter_flatMap.symm

/-- Errors in the declarations are all that is found out. -/
theorem verifyProgram_of_errors (h : (buildTable (units.flatMap (·.functions))).2 ≠ []) :
    verifyProgram options units = .ok {
      name := programName units
      signatures := none
      tableDiagnostics := (buildTable (units.flatMap (·.functions))).2 } := by
  unfold verifyProgram
  split
  case h_1 heq =>
    rw [heq] at h
    exact absurd rfl h
  case h_2 heq => rw [heq]

/-- Without an error in the declarations, the definitions are verified against the table. -/
theorem verifyProgram_of_clean {table : Table}
    (h : buildTable (units.flatMap (·.functions)) = (table, [])) :
    verifyProgram options units =
      (verifyDefinitions options table.source (units.flatMap (·.definitions))).map fun reports =>
        { name := programName units, signatures := some table, reports := reports } := by
  unfold verifyProgram
  rw [h]
  rfl

/-- Without an error in its declarations, the definitions of a unit are verified against its table
and the external sources behind it. -/
theorem verifyUnit_of_clean {external : List Source} {unit : SourceUnit} {table : Table}
    (h : buildTable unit.functions = (table, [])) :
    verifyUnit options external unit =
      (verifyDefinitions options (.chain (table.source :: external)) unit.definitions).map
        fun reports => { name := unit.name, signatures := some table, reports := reports } := by
  unfold verifyUnit
  rw [h]
  rfl

/-- Every outcome of a verification is of one of the two kinds. -/
theorem verifyProgram_cases {result : Result} (h : verifyProgram options units = .ok result) :
    ((buildTable (units.flatMap (·.functions))).2 ≠ [] ∧ result = {
        name := programName units
        signatures := none
        tableDiagnostics := (buildTable (units.flatMap (·.functions))).2 }) ∨
      ∃ table reports, buildTable (units.flatMap (·.functions)) = (table, []) ∧
        verifyDefinitions options table.source (units.flatMap (·.definitions)) = .ok reports ∧
        result = { name := programName units, signatures := some table, reports := reports } := by
  by_cases hclean : (buildTable (units.flatMap (·.functions))).2 = []
  · right
    have hbuild : buildTable (units.flatMap (·.functions)) = (_, []) := Prod.ext rfl hclean
    rw [verifyProgram_of_clean hbuild] at h
    cases hreports : verifyDefinitions options (buildTable (units.flatMap (·.functions))).1.source
        (units.flatMap (·.definitions)) with
    | error malformed =>
      rw [hreports] at h
      cases h
    | ok reports =>
      rw [hreports] at h
      exact ⟨_, reports, hbuild, hreports, (Except.ok.inj h).symm⟩
  · left
    rw [verifyProgram_of_errors hclean] at h
    exact ⟨hclean, (Except.ok.inj h).symm⟩

/-- Without an error in the declarations, the reports are those on the definitions. -/
theorem verifyDefinitions_of_clean {result : Result} {table : Table}
    (hbuild : buildTable (units.flatMap (·.functions)) = (table, []))
    (h : verifyProgram options units = .ok result) :
    verifyDefinitions options table.source (units.flatMap (·.definitions)) =
      .ok result.reports := by
  rcases verifyProgram_cases h with ⟨hne, _⟩ | ⟨built, reports, hbuild', hreports, rfl⟩
  · exact absurd (congrArg Prod.snd hbuild) hne
  · obtain rfl : table = built := congrArg Prod.fst (hbuild.symm.trans hbuild')
    exact hreports

/-- A result with a table comes from declarations without an error, and its reports are those of the
definitions. -/
theorem verifyProgram_of_signatures {result : Result} {table : Table}
    (h : verifyProgram options units = .ok result) (htable : result.signatures = some table) :
    buildTable (units.flatMap (·.functions)) = (table, []) ∧
      verifyDefinitions options table.source (units.flatMap (·.definitions)) =
        .ok result.reports := by
  rcases verifyProgram_cases h with ⟨_, rfl⟩ | ⟨built, reports, hbuild, hreports, rfl⟩
  · cases htable
  · cases htable
    exact ⟨hbuild, hreports⟩

/-- A verification breaks off exactly if there is no error in the declarations and verifying the
definitions does. -/
theorem verifyProgram_eq_error_iff {malformed : Malformed} :
    verifyProgram options units = .error malformed ↔
      (buildTable (units.flatMap (·.functions))).2 = [] ∧
        verifyDefinitions options (buildTable (units.flatMap (·.functions))).1.source
          (units.flatMap (·.definitions)) = .error malformed := by
  by_cases hclean : (buildTable (units.flatMap (·.functions))).2 = []
  · have hbuild : buildTable (units.flatMap (·.functions)) = (_, []) := Prod.ext rfl hclean
    rw [verifyProgram_of_clean hbuild, and_iff_right hclean]
    cases verifyDefinitions options _ (units.flatMap (·.definitions)) with
    | error found => simp only [Except.map, Except.error.injEq]
    | ok reports => exact iff_of_false nofun nofun
  · rw [verifyProgram_of_errors hclean]
    exact iff_of_false nofun fun h => hclean h.1

/-- The verification ends with errors in the declarations. -/
def RejectsDeclarations (options : Options) (units : List SourceUnit) : Prop :=
  ∃ result, verifyProgram options units = .ok result ∧ result.tableDiagnostics ≠ []

/-- Declarations are rejected exactly if building their table finds an error. -/
theorem rejectsDeclarations_iff :
    RejectsDeclarations options units ↔ (buildTable (units.flatMap (·.functions))).2 ≠ [] := by
  constructor
  · rintro ⟨result, h, herrors⟩
    rcases verifyProgram_cases h with ⟨hne, _⟩ | ⟨table, reports, _, _, rfl⟩
    · exact hne
    · exact absurd rfl herrors
  · intro herrors
    exact ⟨_, verifyProgram_of_errors herrors, herrors⟩

/-- A program is in order if its declarations are not rejected and all of its reports are clean. -/
theorem ok_eq_true_iff {result : Result} (h : verifyProgram options units = .ok result) :
    result.ok = true ↔
      ¬ RejectsDeclarations options units ∧ ∀ report ∈ result.reports, report.ok = true := by
  have hrejects : RejectsDeclarations options units ↔ result.tableDiagnostics ≠ [] := by
    constructor
    · rintro ⟨other, hother, herrors⟩
      rw [h] at hother
      cases hother
      exact herrors
    · exact fun herrors => ⟨result, h, herrors⟩
  rw [Result.ok, Bool.and_eq_true, List.isEmpty_iff, List.all_eq_true, hrejects, Classical.not_not]

end Throws.Verification
