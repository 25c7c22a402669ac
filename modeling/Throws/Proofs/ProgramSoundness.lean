import Throws.Proofs.DefinitionReport
import Throws.Proofs.Execution
import Throws.Proofs.ProgramOutcome
import Throws.Proofs.TableBuilding
import Throws.Proofs.Widening

/-!
# Soundness of verification

If a program is verified without an error, then every execution of one of its definitions keeps to
the contract of the function: whatever it ends with is allowed by the table, and so by everything
that was written about the function anywhere in the program.

Each definition is verified once, against contracts only, while executions run through arbitrarily
many bodies. The two meet in `Exec.mem_effect`, whose assumption on the definitions of a program is
just what verification has checked.
-/

namespace Throws.Specifier

/-- Where nothing is written there is no contract. -/
theorem meaning_of_not_isWritten {specifier : Specifier} (h : specifier.isWritten = false) :
    specifier.meaning = .undeclared := by
  obtain ⟨throws, wildcard, noexcept, span⟩ := specifier
  simp_all [isWritten, hasThrows, meaning]

end Throws.Specifier

namespace Throws.Verification

open Throws.Body Throws.Effect Throws.Execution Throws.Signature

/-- A definition without a disagreement allows what is registered. -/
theorem effective_subset_meaning_of_mismatch? {function : Function} {registered : Contract}
    (hconflict : function.specifier.isConflicting = false)
    (h : mismatch? function registered = none) :
    registered.effective ⊆ function.specifier.meaning.effective := by
  cases hwritten : function.specifier.isWritten with
  | false =>
    -- Where nothing is written, anything is allowed.
    rw [Specifier.meaning_of_not_isWritten hwritten]
    exact ExceptionSet.subset_iff.mpr fun _ _ => ExceptionSet.mem_universal
  | true =>
    unfold mismatch? at h
    split at h
    · cases h
    case isFalse heq =>
      have hsame : function.specifier.meaning.effective = registered.effective := by
        simpa [hwritten, hconflict] using heq
      rw [hsame]
      exact le_refl registered.effective

/-- A definition that is verified without an error does not disagree with its contract, and all that
may escape from its body is allowed. This is so whatever the depth to which the body was looked
into. -/
theorem effect_subset_of_clean {depth : Option Nat} {signatures : Source} {function : Function}
    {report : Report} {body : Node} (h : verifyFunction depth signatures function = .ok report)
    (hclean : report.ok = true) (hbody : function.body = some body) :
    mismatch? function (signatures.lookup function.key) = none ∧
      (Context.summary { signatures := signatures } none body).effect ⊆
        (signatures.lookup function.key).effective := by
  obtain ⟨hfault, rfl⟩ := (verifyFunction_eq_ok_iff hbody).mp h
  have hnil : (bodyReport depth signatures function body).diagnostics = [] :=
    List.isEmpty_iff.mp hclean
  constructor
  · simp only [bodyReport, List.append_eq_nil_iff, List.map_eq_nil_iff,
      Option.toList_eq_nil_iff] at hnil
    exact hnil.1.1
  · have hallowed : (bodySummary depth signatures function.key body).effect ⊆
        (signatures.lookup function.key).effective := by
      -- Otherwise the report would contain an escape.
      by_contra hnot
      obtain ⟨hmem, _⟩ := mem_bodyReport_and_undeclaredEscape_iff.mpr ⟨hnot, rfl⟩
      rw [hnil] at hmem
      exact List.not_mem_nil hmem
    rw [bodySummary_eq_of_fault? hfault] at hallowed
    -- The function only matters to the wording of errors.
    have hsame : (Context.summary { signatures := signatures } none body).effect ≤
        (Context.summary { signatures := signatures, function := some function.key }
          none body).effect :=
      effect_mono (fun key => le_refl (signatures.lookup key).effective) none body
    exact le_trans hsame hallowed

/-- A program that is verified without an error has a table, and each definition is verified without
an error against it. -/
theorem exists_table_of_verifyProgram {options : Options} {units : List SourceUnit}
    {result : Result} (h : verifyProgram options units = .ok result) (hok : result.ok = true) :
    ∃ table, result.signatures = some table ∧
      buildTable (units.flatMap (·.functions)) = (table, []) ∧
      ∀ function ∈ units.flatMap (·.definitions), ∃ report,
        verifyFunction options.depth table.source function = .ok report ∧ report.ok = true := by
  obtain ⟨haccepted, hclean⟩ := (ok_eq_true_iff h).mp hok
  rcases verifyProgram_cases h with ⟨herrors, _⟩ | ⟨table, reports, hbuild, hreports, rfl⟩
  · exact absurd (rejectsDeclarations_iff.mpr herrors) haccepted
  · refine ⟨table, rfl, hbuild, fun function hfunction => ?_⟩
    obtain ⟨report, hmem, hreport⟩ := exists_report_of_verifyDefinitions hreports function hfunction
    exact ⟨report, hreport, hclean report hmem⟩

/-- The definitions of a program are those of its functions that have a body. -/
theorem mem_definitions_iff {units : List SourceUnit} {function : Function} :
    function ∈ units.flatMap (·.definitions) ↔
      function ∈ units.flatMap (·.functions) ∧ function.isDefinition = true := by
  rw [flatMap_definitions, List.mem_filter]

/-- If no declaration is in error and no definition disagrees, everything that is written about a
function allows what the table does. -/
theorem exists_contract_of_buildTable {functions : List Function} {table : Table}
    (h : buildTable functions = (table, []))
    (hmismatch : ∀ function ∈ functions, function.isDefinition = true →
      mismatch? function (table.lookup function.key) = none)
    {function : Function} (hmem : function ∈ functions) :
    ∃ contract, function.specifier.contract = .ok contract ∧
      (table.lookup function.key).effective ⊆ contract.effective := by
  obtain ⟨hconflict, hdeclared⟩ := buildTable_ok h hmem
  refine ⟨function.specifier.meaning, if_neg (Bool.eq_false_iff.mp hconflict), ?_⟩
  cases hdefinition : function.isDefinition with
  | false =>
    rw [hdeclared hdefinition]
    exact le_refl function.specifier.meaning.effective
  | true =>
    exact effective_subset_meaning_of_mismatch? hconflict (hmismatch function hmem hdefinition)

/-- Verification is sound: if a program is verified without an error, whatever ends an execution of
one of its definitions is allowed by the contract of the function, and by every declaration and
definition of it. -/
theorem allowed_of_verifyProgram_of_exec {options : Options} {units : List SourceUnit}
    {result : Result} (h : verifyProgram options units = .ok result) (hok : result.ok = true) :
    ∃ table, result.signatures = some table ∧
      ∀ function ∈ units.flatMap (·.definitions), ∀ body, function.body = some body →
      ∀ exception, Exec { definitions := units.flatMap (·.definitions), signatures := table.source }
        (.node body) none (.threw exception) →
      exception ∈ (table.lookup function.key).effective ∧
        ∀ other ∈ units.flatMap (·.functions), other.key = function.key →
          ∃ contract, other.specifier.contract = .ok contract ∧ exception ∈ contract.effective := by
  obtain ⟨table, hsignatures, hbuild, hreports⟩ := exists_table_of_verifyProgram h hok
  refine ⟨table, hsignatures, fun function hfunction body hbody exception run => ?_⟩
  have hclean : ∀ other ∈ units.flatMap (·.definitions), ∀ body, other.body = some body →
      mismatch? other (table.lookup other.key) = none ∧
        (Context.summary { signatures := table.source } none body).effect ⊆
          (table.lookup other.key).effective := by
    intro other hother body hbody
    obtain ⟨report, hreport, hreportOk⟩ := hreports other hother
    rw [← Table.lookup_source]
    exact effect_subset_of_clean hreport hreportOk hbody
  have hallowed : exception ∈ (table.lookup function.key).effective := by
    -- The run may go through all other definitions, and each of them was found clean.
    have heffect := run.mem_effect rfl (fun other hother body hbody => by
      rw [Table.lookup_source]
      exact (hclean other hother body hbody).2) (admits_none none) rfl
    exact ExceptionSet.subset_iff.mp (hclean function hfunction body hbody).2 exception heffect
  refine ⟨hallowed, fun other hother hkey => ?_⟩
  have hmismatch : ∀ other ∈ units.flatMap (·.functions), other.isDefinition = true →
      mismatch? other (table.lookup other.key) = none := by
    intro other hother hdefinition
    obtain ⟨body, hbody⟩ := Option.isSome_iff_exists.mp hdefinition
    exact (hclean other (mem_definitions_iff.mpr ⟨hother, hdefinition⟩) body hbody).1
  obtain ⟨contract, hcontract, hsubset⟩ := exists_contract_of_buildTable hbuild hmismatch hother
  rw [hkey] at hsubset
  exact ⟨contract, hcontract, ExceptionSet.subset_iff.mp hsubset exception hallowed⟩

/-- A body that turns one exception into another: `try { pong(); } catch (B) { throw A; }`. -/
def pingBody : Node :=
  .guarded (.eval (.call (some { name := "pong" }) [] none {}) {})
    [.mk (some { name := "B" }) none
      (.throw (.literal (.int 1) {}) (some { name := "A" }) {}) {}] {}

/-- A body that calls back or throws: `if (again) ping(); else throw B;`. -/
def pongBody : Node :=
  .branch (.variable "again" {}) (.eval (.call (some { name := "ping" }) [] none {}) {})
    (.throw (.literal (.int 1) {}) (some { name := "B" }) {}) {}

/-- A program in two units. The first declares `pong` as `throws(B, A)` and defines `ping` as
`throws(A)`; the second defines `pong` without saying again what it throws. -/
def pingPong : List SourceUnit := [
  { name := "ping", functions := [
    { key := { name := "pong" }, specifier := { throws := some ["B", "A"] } },
    { key := { name := "ping" }, specifier := { throws := some ["A"] }, body := some pingBody }] },
  { name := "pong", functions := [{ key := { name := "pong" }, body := some pongBody }] }]

/-- `pingPong` is verified without an error. An execution that goes through both functions twice
ends with `A`, which `ping` allows. -/
theorem allowed_pingPong :
    let ping : Function :=
      { key := { name := "ping" }, specifier := { throws := some ["A"] }, body := some pingBody }
    let table : Table := ⟨[({ name := "pong" }, ⟨.declared (.ofList ["A", "B"]), {}⟩),
      (ping.key, ⟨.declared (.ofList ["A"]), {}⟩)]⟩
    let result : Result := {
      name := "ping, pong"
      signatures := some table
      reports := [{ function := ping.key, effect := some (.ofList ["A"]) },
        { function := { name := "pong" }, effect := some (.ofList ["A", "B"]) }] }
    verifyProgram {} pingPong = .ok result ∧ result.ok = true ∧
      ping ∈ pingPong.flatMap (·.definitions) ∧
      Exec { definitions := pingPong.flatMap (·.definitions), signatures := table.source }
        (.node pingBody) none (.threw "A") ∧
      "A" ∈ (table.lookup ping.key).effective ∧
      ∃ contract, ping.specifier.contract = .ok contract ∧ "A" ∈ contract.effective := by
  intro ping table result
  let world : World :=
    { definitions := pingPong.flatMap (·.definitions), signatures := table.source }
  have h : verifyProgram {} pingPong = .ok result := by rfl
  have hping : ping ∈ world.definitions := .head _
  have hpong : { key := { name := "pong" }, body := some pongBody } ∈ world.definitions :=
    .tail _ (.head _)
  -- `pong` throws `B`, which the handler in `ping` turns into `A`.
  have hpongB : Exec world (.node pongBody) none (.threw "B") :=
    .branch (.cons (.passive .nil rfl) .nil) (.tail _ (.head _))
      (.throw (.cons (.passive .nil rfl) .nil))
  have hpingA : Exec world (.node pingBody) none (.threw "A") :=
    .caught (.operand (.cut (.callThrows .nil hpong rfl rfl hpongB) nofun) nofun) rfl
      (.throw (.cons (.passive .nil rfl) .nil))
  -- One level further out `pong` passes `A` on, and no handler in `ping` catches that.
  have hpongA : Exec world (.node pongBody) none (.threw "A") :=
    .branch (.cons (.passive .nil rfl) .nil) (.head _)
      (.operand (.cut (.callThrows .nil hping rfl rfl hpingA) nofun) nofun)
  have run : Exec world (.node pingBody) none (.threw "A") :=
    .escaped (.operand (.cut (.callThrows .nil hpong rfl rfl hpongA) nofun) nofun) rfl
  obtain ⟨found, hfound, hsound⟩ := allowed_of_verifyProgram_of_exec h rfl
  obtain rfl : table = found := Option.some.inj hfound
  obtain ⟨hallowed, hwritten⟩ := hsound ping hping pingBody rfl "A" run
  exact ⟨h, rfl, hping, run, hallowed, hwritten ping (.tail _ (.head _)) rfl⟩

end Throws.Verification
