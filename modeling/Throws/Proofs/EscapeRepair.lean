import Throws.Proofs.Defects
import Throws.Proofs.DefinitionReport
import Throws.Proofs.Widening

/-!
# Repairing an escape

When a definition lets exceptions escape that its contract does not allow, the report names them.
Adding just these to the contract is the least repair: it makes the escape go away, and every wider
contract that does so contains it. This is not obvious for a function that calls itself, since the
wider contract also widens the effect of its own body.
-/

namespace Throws.Signature.Source

/-- The same contracts, but for one function that is declared with the given set. -/
def declare (source : Source) (key : FunctionKey) (allowed : ExceptionSet) : Source :=
  ⟨fun other => if other = key then some (.declared allowed) else source.find? other⟩

@[simp]
theorem lookup_declare_self (source : Source) (key : FunctionKey) (allowed : ExceptionSet) :
    (source.declare key allowed).lookup key = .declared allowed := by
  simp [lookup, declare]

theorem lookup_declare_of_ne (source : Source) {key other : FunctionKey} (h : other ≠ key)
    (allowed : ExceptionSet) : (source.declare key allowed).lookup other = source.lookup other := by
  simp [lookup, declare, h]

end Throws.Signature.Source

namespace Throws.Verification

open Throws.Body Throws.Effect Throws.Signature

variable {depth : Option Nat} {signatures : Source} {function : Function} {body : Node}

/-- The definition is verified without an escape being reported. -/
def Contained (depth : Option Nat) (signatures : Source) (function : Function) : Prop :=
  ∃ report, verifyFunction depth signatures function = .ok report ∧
    ∀ diagnostic ∈ report.diagnostics, diagnostic.kind ≠ .undeclaredEscape

/-- No escape is reported exactly if the body has no fault and the contract allows its effect. -/
theorem contained_iff (hbody : function.body = some body) :
    Contained depth signatures function ↔
      (bodySummary depth signatures function.key body).fault? = none ∧
        (bodySummary depth signatures function.key body).effect ⊆
          (signatures.lookup function.key).effective := by
  constructor
  · rintro ⟨report, h, hno⟩
    obtain ⟨hfault, rfl⟩ := (verifyFunction_eq_ok_iff hbody).mp h
    refine ⟨hfault, by_contra fun hnot => ?_⟩
    obtain ⟨hmem, hkind⟩ := mem_bodyReport_and_undeclaredEscape_iff.mpr ⟨hnot, rfl⟩
    exact hno _ hmem hkind
  · rintro ⟨hfault, hallowed⟩
    refine ⟨_, (verifyFunction_eq_ok_iff hbody).mpr ⟨hfault, rfl⟩, fun diagnostic hmem hkind => ?_⟩
    exact (mem_bodyReport_and_undeclaredEscape_iff.mp ⟨hmem, hkind⟩).1 hallowed

/-- The effect of a body grows by no more than the contract of its own function. -/
theorem effect_declare_le {key : FunctionKey} {wider extra : ExceptionSet}
    (h : wider ≤ (signatures.lookup key).effective ⊔ extra) :
    (bodySummary depth (signatures.declare key wider) key body).effect ≤
      (bodySummary depth signatures key body).effect ⊔ extra := by
  refine effect_le_of_widened (fun other => ?_) le_sup_left _
  by_cases hother : other = key
  · subst hother
    rw [Source.lookup_declare_self]
    exact h
  · rw [Source.lookup_declare_of_ne signatures hother]
    exact le_sup_left

/-- The effect of a body grows with the contract of its own function. -/
theorem le_effect_declare {key : FunctionKey} {wider : ExceptionSet}
    (h : (signatures.lookup key).effective ≤ wider) :
    (bodySummary depth signatures key body).effect ≤
      (bodySummary depth (signatures.declare key wider) key body).effect := by
  refine effect_mono (fun other => ?_) none _
  by_cases hother : other = key
  · subst hother
    rw [Source.lookup_declare_self]
    exact h
  · rw [Source.lookup_declare_of_ne signatures hother]

/-- What an escape reports is the least addition to the contract that makes it go away. -/
theorem escaping_is_least_repair {report : Report} {diagnostic : Diagnostic}
    {escaping : ExceptionSet} (h : verifyFunction depth signatures function = .ok report)
    (hmem : diagnostic ∈ report.diagnostics) (hkind : diagnostic.kind = .undeclaredEscape)
    (hescaping : diagnostic.escaping = some escaping) :
    let allowed := (signatures.lookup function.key).effective
    Contained depth (signatures.declare function.key (allowed ∪ escaping)) function ∧
      ∀ wider, allowed ⊆ wider → Contained depth (signatures.declare function.key wider) function →
        allowed ∪ escaping ⊆ wider := by
  intro allowed
  obtain ⟨body, hbody⟩ := exists_body_of_undeclaredEscape h hmem hkind
  obtain ⟨hfault, rfl⟩ := (verifyFunction_eq_ok_iff hbody).mp h
  obtain ⟨_, rfl⟩ := mem_bodyReport_and_undeclaredEscape_iff.mp ⟨hmem, hkind⟩
  let effect := (bodySummary depth signatures function.key body).effect
  obtain rfl : effect \ allowed = escaping := Option.some.inj hescaping
  have hfault' : ∀ set, (bodySummary depth (signatures.declare function.key set)
      function.key body).fault? = none := fun set => (fault?_summary_eq _ _ _ _ _).trans hfault
  refine ⟨(contained_iff hbody).mpr ⟨hfault' _, ?_⟩, fun wider hwider hcontained => ?_⟩
  · -- What the wider contract adds to the effect of the body has been added to the contract, too.
    rw [Source.lookup_declare_self]
    calc (bodySummary depth _ function.key body).effect
      _ ≤ effect ⊔ effect \ allowed := effect_declare_le le_rfl
      _ ≤ allowed ⊔ effect \ allowed := sup_le le_sup_sdiff le_sup_right
  · -- A contract that contains the effect under itself contains the effect as it was.
    obtain ⟨_, hallowed⟩ := (contained_iff hbody).mp hcontained
    rw [Source.lookup_declare_self] at hallowed
    have heffect : effect ≤ wider := le_trans (le_effect_declare hwider) hallowed
    exact sup_le hwider (le_trans sdiff_le heffect)

/-- A function that calls itself in the body of a `try` and in its handler:
`void descend() noexcept { try { step(); descend(); } catch (A) { descend(); throw B; } }`. -/
def descend : Function := {
  key := { name := "descend" }
  specifier := { noexcept := true }
  body := some (.guarded
    (.block [.eval (.call (some { name := "step" }) [] none {}) {},
      .eval (.call (some { name := "descend" }) [] none {}) {}] {})
    [.mk (some { name := "A" }) none
      (.block [.eval (.call (some { name := "descend" }) [] none {}) {},
        .throw (.literal (.int 1) {}) (some { name := "B" }) {}] {}) {}] {}) }

/-- With `step` declared `throws(A, C)`, `descend` is reported for letting `B` and `C` escape, and
`throws(B, C)` is the least contract that it keeps. -/
theorem contained_descend :
    let signatures : Source :=
      ⟨fun key => if key = descend.key then some (.declared ∅)
        else some (.declared (.ofList ["A", "C"]))⟩
    let escaping := ExceptionSet.ofList ["B", "C"]
    let diagnostic := (Problem.escape (.declared ∅) escaping []).report descend
    let report : Report := {
      function := descend.key, effect := some escaping, diagnostics := [diagnostic] }
    verifyFunction none signatures descend = .ok report ∧ diagnostic ∈ report.diagnostics ∧
      Contained none (signatures.declare descend.key (∅ ∪ escaping)) descend ∧
      ∀ wider, ∅ ⊆ wider → Contained none (signatures.declare descend.key wider) descend →
        ∅ ∪ escaping ⊆ wider := by
  intro signatures escaping diagnostic report
  have h : verifyFunction none signatures descend = .ok report := by rfl
  have hmem : diagnostic ∈ report.diagnostics := List.mem_singleton_self _
  obtain ⟨hrepaired, hleast⟩ := escaping_is_least_repair h hmem rfl rfl
  exact ⟨h, hmem, hrepaired, hleast⟩

end Throws.Verification
