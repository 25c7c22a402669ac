import Throws.Proofs.Defects
import Throws.Proofs.DefinitionReport
import Throws.Proofs.ProgramOutcome

/-!
# When verification breaks off

A body that cannot be analysed aborts everything, so it matters that this happens exactly when it
must and that the report names the culprit. A walk breaks off if and only if there is a defect in
the fragment, at the first one that it checks. A verification breaks off if and only if the
declarations are in order and some body has a defect, and it names the first such definition.
-/

namespace Throws.Effect

open Throws.Body

variable {context : Context} {node : Node} {handled : Option ExceptionSet} {trace : Trace}

/-- A walk that collects its errors breaks off exactly where its summary says so. -/
theorem infer_eq_malformed_iff (hcollecting : context.collecting = true) (fault : Fault)
    (span : Span) :
    (infer context node handled trace).1 = .error (.malformed fault span) ↔
      (context.summary handled node).fault? = some (fault, span) := by
  have hfollows := infer_follows hcollecting handled node trace
  cases hfault : (context.summary handled node).fault? with
  | some found =>
    rw [hfault] at hfollows
    rw [hfollows, Except.error.injEq, Stop.malformed.injEq, Option.some.injEq, Prod.ext_iff]
  | none =>
    rw [hfault] at hfollows
    rw [hfollows]
    exact iff_of_false nofun nofun

/-- A walk through a fragment without a defect returns an effect. -/
theorem exists_effect_of_not_defective (hcollecting : context.collecting = true)
    (h : ¬ Defective node) : ∃ effect, (infer context node handled trace).1 = .ok effect := by
  have hfollows := infer_follows hcollecting handled node trace
  cases hfault : (context.summary handled node).fault? with
  | some found =>
    have hfirst := (fault?_eq_some_iff context handled node found.1 found.2).mp hfault
    exact absurd ((defective_iff_exists_firstDefect node).mpr ⟨_, _, hfirst⟩) h
  | none =>
    rw [hfault] at hfollows
    exact ⟨_, congrArg Prod.fst hfollows⟩

end Throws.Effect

namespace Throws.Verification

open Throws.Body Throws.Effect Throws.Signature

variable {depth : Option Nat} {signatures : Source} {function : Function} {malformed : Malformed}

/-- There is a defect in the body of the function, as far as it is looked at. -/
def HasDefect (depth : Option Nat) (function : Function) : Prop :=
  ∃ body, function.body = some body ∧ Defective (analysed depth body)

/-- Whatever is wrong with a body, the report names the function. -/
theorem function_ofFault (function : Function) (span : Span) (fault : Fault) :
    (Malformed.ofFault function span fault).diagnostic.function = some function.key := by
  cases fault <;> rfl

/-- Whatever is wrong with a body, it is reported as malformed. -/
theorem kind_ofFault (function : Function) (span : Span) (fault : Fault) :
    (Malformed.ofFault function span fault).diagnostic.kind = .malformedInput := by
  cases fault <;> rfl

/-- Verifying a definition breaks off at the first defect in its body. -/
theorem verifyFunction_eq_error_iff :
    verifyFunction depth signatures function = .error malformed ↔
      ∃ body fault span, function.body = some body ∧ FirstDefect (analysed depth body) fault span ∧
        malformed = .ofFault function span fault := by
  cases hbody : function.body with
  | none =>
    refine iff_of_false (fun h => ?_) nofun
    rw [verifyFunction_of_no_body hbody] at h
    cases h
  | some body =>
    -- The first defect is the same in any context, so it can be looked for in this one.
    simp only [←
      fault?_eq_some_iff { signatures := signatures, function := some function.key } none]
    constructor
    · intro h
      cases hfault : (bodySummary depth signatures function.key body).fault? with
      | none =>
        rw [verifyFunction_of_no_fault hbody hfault] at h
        cases h
      | some found =>
        rw [verifyFunction_of_fault hbody hfault] at h
        exact ⟨body, found.1, found.2, rfl, hfault, (Except.error.inj h).symm⟩
    · rintro ⟨_, fault, span, ⟨⟩, hfault, rfl⟩
      exact verifyFunction_of_fault hbody hfault

/-- Verifying a definition breaks off exactly if its body has a defect. -/
theorem hasDefect_iff (signatures : Source) :
    HasDefect depth function ↔
      ∃ malformed, verifyFunction depth signatures function = .error malformed := by
  simp only [HasDefect, defective_iff_exists_firstDefect, verifyFunction_eq_error_iff]
  constructor
  · rintro ⟨body, hbody, fault, span, hfirst⟩
    exact ⟨_, body, fault, span, hbody, hfirst, rfl⟩
  · rintro ⟨_, body, fault, span, hbody, hfirst, rfl⟩
    exact ⟨body, hbody, fault, span, hfirst⟩

/-- A definition gets a report exactly if its body has no defect. -/
theorem not_hasDefect_iff (signatures : Source) :
    ¬ HasDefect depth function ↔
      ∃ report, verifyFunction depth signatures function = .ok report := by
  rw [hasDefect_iff signatures]
  cases verifyFunction depth signatures function <;> simp

/-- Verifying definitions breaks off at the first defect of the first definition that has one. -/
theorem verifyDefinitions_error_iff_first {options : Options} {definitions : List Function} :
    verifyDefinitions options signatures definitions = .error malformed ↔
      ∃ earlier definition later body fault span, definitions = earlier ++ definition :: later ∧
        (∀ other ∈ earlier, ¬ HasDefect options.depth other) ∧ definition.body = some body ∧
        FirstDefect (analysed options.depth body) fault span ∧
        malformed = .ofFault definition span fault := by
  simp only [verifyDefinitions_eq_error_iff, verifyFunction_eq_error_iff,
    not_hasDefect_iff signatures]
  constructor
  · rintro ⟨earlier, definition, later, hsplit, ⟨body, fault, span, hbody, hfirst, rfl⟩, hearlier⟩
    exact ⟨earlier, definition, later, body, fault, span, hsplit, hearlier, hbody, hfirst, rfl⟩
  · rintro ⟨earlier, definition, later, body, fault, span, hsplit, hearlier, hbody, hfirst, rfl⟩
    exact ⟨earlier, definition, later, hsplit, ⟨body, fault, span, hbody, hfirst, rfl⟩, hearlier⟩

/-- Verifying definitions breaks off exactly if one of them has a defect. -/
theorem exists_hasDefect_iff (options : Options) (signatures : Source)
    (definitions : List Function) :
    (∃ definition ∈ definitions, HasDefect options.depth definition) ↔
      ∃ malformed, verifyDefinitions options signatures definitions = .error malformed := by
  constructor
  · rintro ⟨definition, hmem, hdefect⟩
    cases hall : verifyDefinitions options signatures definitions with
    | error malformed => exact ⟨malformed, rfl⟩
    | ok reports =>
      -- Every definition has a report then, this one included.
      obtain ⟨report, _, hreport⟩ := exists_report_of_verifyDefinitions hall definition hmem
      exact absurd hdefect ((not_hasDefect_iff signatures).mpr ⟨report, hreport⟩)
  · rintro ⟨malformed, h⟩
    obtain ⟨earlier, definition, later, body, fault, span, rfl, _, hbody, hfirst, _⟩ :=
      verifyDefinitions_error_iff_first.mp h
    refine ⟨definition, List.mem_append_right _ List.mem_cons_self, body, hbody, ?_⟩
    exact (defective_iff_exists_firstDefect _).mpr ⟨fault, span, hfirst⟩

/-- Analysis breaks off exactly if it must, and at the first thing that it cannot analyse. A walk
breaks off if and only if there is a defect somewhere in the fragment, whatever the contracts, the
handled set and the trace are; it stops at the first defect that it checks, and without any it
returns an effect. A verification breaks off if and only if there is no error in the declarations
and the body of some definition has a defect; the report is about the first such definition, in the
order of the units and then in source order, and about the first defect in its body. -/
theorem breaks_off_exactly_at_first_defect :
    (∀ (signatures : Source) (function : Option FunctionKey) (node : Node)
      (handled : Option ExceptionSet) (trace : Trace),
      let outcome := (infer { signatures := signatures, function := function } node handled trace).1
      ((∃ fault span, outcome = .error (.malformed fault span)) ↔ Defective node) ∧
        (∀ fault span, outcome = .error (.malformed fault span) ↔ FirstDefect node fault span) ∧
        (¬ Defective node → ∃ effect, outcome = .ok effect)) ∧
    ∀ (options : Options) (units : List SourceUnit),
      ((∃ malformed, verifyProgram options units = .error malformed) ↔
        (buildTable (units.flatMap (·.functions))).2 = [] ∧
          ∃ definition ∈ units.flatMap (·.definitions), HasDefect options.depth definition) ∧
      ∀ malformed, verifyProgram options units = .error malformed →
        ∃ earlier definition later body fault span,
          units.flatMap (·.definitions) = earlier ++ definition :: later ∧
          (∀ other ∈ earlier, ¬ HasDefect options.depth other) ∧ definition.body = some body ∧
          FirstDefect (analysed options.depth body) fault span ∧
          malformed = .ofFault definition span fault ∧
          malformed.diagnostic.kind = .malformedInput ∧
          malformed.diagnostic.function = some definition.key := by
  refine ⟨fun signatures function node handled trace => ?_, fun options units => ⟨?_, ?_⟩⟩
  · intro outcome
    have hfirst : ∀ fault span,
        outcome = .error (.malformed fault span) ↔ FirstDefect node fault span := by
      intro fault span
      rw [← fault?_eq_some_iff { signatures := signatures, function := function } handled]
      exact infer_eq_malformed_iff rfl fault span
    refine ⟨?_, hfirst, exists_effect_of_not_defective rfl⟩
    simp only [hfirst, defective_iff_exists_firstDefect]
  · simp only [verifyProgram_eq_error_iff, exists_and_left]
    rw [exists_hasDefect_iff]
  · intro malformed h
    obtain ⟨earlier, definition, later, body, fault, span, hsplit, hearlier, hbody, hfirst, rfl⟩ :=
      verifyDefinitions_error_iff_first.mp (verifyProgram_eq_error_iff.mp h).2
    exact ⟨earlier, definition, later, body, fault, span, hsplit, hearlier, hbody, hfirst, rfl,
      kind_ofFault definition span fault, function_ofFault definition span fault⟩

/-- A throw without a type whose operand is a call without a target, behind a call that may throw
anything: `f(); throw g();`. -/
def unresolvedThrow : Node :=
  .block [.eval (.call (some { name := "f" }) [] none {}) {},
    .throw (.call none [] (some "g") {}) none {}] {}

/-- Of four definitions, the first absorbs whatever `f` throws and the second does nothing. The
third is the first with a defect, and of its two defects the missing target of `g` is checked before
the missing type. The fourth is not reached. -/
theorem breaks_off_unresolvedThrow :
    let broken : Function := { key := { name := "broken" }, body := some unresolvedThrow }
    let units : List SourceUnit := [
      ⟨"a", [{ key := { name := "f" } },
        { key := { name := "main" },
          body := some (.guarded (.eval (.call (some { name := "f" }) [] none {}) {})
            [.mk none none (.block [] {}) {}] {}) }]⟩,
      ⟨"b", [{ key := { name := "empty" }, body := some (.block [] {}) }, broken,
        { key := { name := "later" }, body := some (.unary "-" .absent {}) }]⟩]
    let malformed := Malformed.ofFault broken {} (.unresolvedCall (some "g"))
    verifyProgram {} units = .error malformed ∧
      FirstDefect unresolvedThrow (.unresolvedCall (some "g")) {} ∧
      malformed.diagnostic.function = some broken.key ∧
      (∃ definition ∈ units.flatMap (·.definitions), HasDefect none definition) ∧
      ∃ earlier definition later,
        units.flatMap (·.definitions) = earlier ++ definition :: later ∧
        (∀ other ∈ earlier, ¬ HasDefect none other) ∧
        malformed.diagnostic.function = some definition.key := by
  intro broken units malformed
  obtain ⟨hwalk, hprogram⟩ := breaks_off_exactly_at_first_defect
  have h : verifyProgram {} units = .error malformed := by rfl
  have hfirst := (hwalk .empty none unresolvedThrow none {}).2.1 (.unresolvedCall (some "g")) {}
  obtain ⟨hiff, hnamed⟩ := hprogram {} units
  obtain ⟨earlier, definition, later, _, _, _, hsplit, hearlier, _, _, _, _, hkey⟩ := hnamed _ h
  exact ⟨h, hfirst.mp (by rfl), rfl, (hiff.mp ⟨malformed, h⟩).2, earlier, definition, later, hsplit,
    hearlier, hkey⟩

end Throws.Verification
