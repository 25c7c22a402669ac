import Mathlib.Order.Bounds.Basic
import Throws.Contract.Substitution
import Throws.Proofs.SetAlgebra

/-!
# The order of contracts

A function may stand in for another one if it propagates no more. Whether it does is a matter of
containment, and what a report says otherwise is a matter of removal. The two belong together:
removing what is allowed leaves nothing exactly if everything is allowed, and in general it leaves
the least set that is missing (`isLeast_subtract`).

There are no other sets than the finite ones and the universal one
(`eq_universal_or_exists_ofList`), and all of them come from a list of names with a flag
(`ofFields_names_isUniversal`). A universal set carries no members of its own, so sets that
contain each other are equal (`beq_eq_isSubset_and_isSubset`).
-/

namespace Throws

namespace ExceptionSet

/-- A set is told by the types that it lists and by whether it is unbounded. -/
theorem ofFields_names_isUniversal (set : ExceptionSet) :
    ofFields set.names set.isUniversal = set := by
  cases set with
  | universal => rfl
  | finite names =>
    refine congrArg finite (NameSet.ext fun name => ?_)
    exact NameSet.mem_ofList.trans NameSet.mem_toList

/-- Every set is the universal one or a list of types. -/
theorem eq_universal_or_exists_ofList (set : ExceptionSet) :
    set = .universal ∨ ∃ names, set = .ofList names := by
  rw [← ofFields_names_isUniversal set, ofFields]
  split
  · exact .inl rfl
  · exact .inr ⟨set.names, rfl⟩

/-- Sets are the same exactly if each of them contains the other. -/
theorem beq_eq_isSubset_and_isSubset (a b : ExceptionSet) :
    (a == b) = (a.isSubset b && b.isSubset a) := by
  rw [Bool.eq_iff_iff, beq_iff_eq, Bool.and_eq_true]
  exact le_antisymm_iff

/-- The union of two sets is the least set that contains both. -/
theorem isLUB_union (a b : ExceptionSet) : IsLUB {a, b} (a.union b) := isLUB_pair

/-- The union of several sets is the least set that contains each of them, although it is found
without looking at all of them. -/
theorem isLUB_unionAll (sets : List ExceptionSet) : IsLUB {set | set ∈ sets} (unionAll sets) :=
  ⟨fun _ hset => le_unionAll hset, fun _ hbound => unionAll_le hbound⟩

/-- Removing `b` leaves no more than `c` exactly if `b` and `c` together allow everything. -/
theorem isSubset_subtract (a b c : ExceptionSet) :
    (a.subtract b).isSubset c = a.isSubset (b.union c) := by
  rw [Bool.eq_iff_iff]
  exact sdiff_subset_iff

/-- Removal leaves nothing exactly if nothing is missing. -/
theorem isEmpty_subtract (a b : ExceptionSet) : (a.subtract b).isEmpty = a.isSubset b := by
  rw [Bool.eq_iff_iff, isEmpty_iff]
  exact sdiff_eq_bot_iff

/-- What removal leaves is the least set that makes up for what is missing. -/
theorem isLeast_subtract (a b : ExceptionSet) : IsLeast {c | a ≤ b.union c} (a.subtract b) := by
  constructor
  · have hcover : a ≤ b ⊔ a \ b := le_sup_sdiff
    exact hcover
  · intro c hcover
    exact sdiff_subset_iff.mpr hcover

/-- A bounded set never stands for the universal one, so the two special cases of covariance are
those of containment. -/
theorem isCovariant_eq_isSubset (source target : ExceptionSet) :
    source.isCovariant target = source.isSubset target := by
  cases source <;> cases target <;> rfl

/-- A set is covariant to another one exactly if it is contained in it. -/
theorem isCovariant_iff {source target : ExceptionSet} :
    source.isCovariant target = true ↔ source ≤ target := by
  rw [isCovariant_eq_isSubset]
  exact Iff.rfl

end ExceptionSet

namespace Substitution

open ExceptionSet

variable {source target : Bound} {names : Names} {span : Span}

/-- A substitution is an error exactly if the source propagates something that the target does not
allow. -/
theorem check_eq_none_iff :
    check source target names span = none ↔ source.effective ≤ target.effective := by
  rw [check, ← isCovariant_iff]
  split <;> simp_all

/-- The error of a substitution carries what is left of the source. -/
theorem escaping_of_check {diagnostic : Diagnostic}
    (h : check source target names span = some diagnostic) :
    diagnostic.escaping = some (source.effective.subtract target.effective) := by
  unfold check at h
  split at h
  · cases h
  · rw [← Option.some.inj h]

/-- Exception sets form a co-Heyting algebra with the universal set on top, and the errors of
substitutions are the residuals of that algebra. Every set is built from a list of names and a flag
that says whether it is unbounded; an unbounded set drops the names, so there is only one. The laws
are those of the functions that compare and combine sets: containment orders the sets, and sets that
contain each other compare as equal; unions are least upper bounds, also where the sets behind an
unbounded one are passed over; removal is adjoint to union. A substitution is accepted exactly if
the source is contained in the target, and otherwise the error carries the least set that has to be
added to the target. -/
theorem removal_is_residual_of_union :
    (∀ set : ExceptionSet, set = .universal ∨ ∃ names, set = .ofList names) ∧
    (∀ set : ExceptionSet, ExceptionSet.ofFields set.names set.isUniversal = set) ∧
    (∀ names, ExceptionSet.ofFields names true = .universal ∧
      (ExceptionSet.ofFields names true).names = []) ∧
    (∀ names name, name ∈ ExceptionSet.ofFields names false ↔ name ∈ names) ∧
    -- The order.
    (∀ a b : ExceptionSet, a ≤ b ↔ a.isSubset b = true) ∧
    (∀ a : ExceptionSet, a.isSubset a = true) ∧
    (∀ a b c : ExceptionSet, a.isSubset b = true → b.isSubset c = true → a.isSubset c = true) ∧
    (∀ a b : ExceptionSet, (a == b) = (a.isSubset b && b.isSubset a)) ∧
    (∀ a : ExceptionSet, (∅ : ExceptionSet).isSubset a = true ∧ a.isSubset .universal = true) ∧
    -- Union and removal.
    (∀ a b : ExceptionSet, IsLUB {a, b} (a.union b)) ∧
    (∀ sets : List ExceptionSet, IsLUB {set | set ∈ sets} (unionAll sets)) ∧
    (∀ a b c : ExceptionSet, (a.subtract b).isSubset c = a.isSubset (b.union c)) ∧
    (∀ a b : ExceptionSet, (a.subtract b).isEmpty = a.isSubset b) ∧
    -- Substitution.
    (∀ a b : ExceptionSet, a.isCovariant b = a.isSubset b) ∧
    ∀ source target names span,
      (check source target names span = none ↔
        source.effective.isSubset target.effective = true) ∧
      ∀ diagnostic, check source target names span = some diagnostic →
        ∃ extra, diagnostic.escaping = some extra ∧
          IsLeast {set | source.effective ≤ target.effective.union set} extra := by
  have htrans : ∀ a b c : ExceptionSet, a ≤ b → b ≤ c → a ≤ c := fun _ _ _ => le_trans
  have hbounds : ∀ a : ExceptionSet, ⊥ ≤ a ∧ a ≤ ⊤ := fun _ => ⟨bot_le, le_top⟩
  refine ⟨eq_universal_or_exists_ofList, ofFields_names_isUniversal, fun _ => ⟨rfl, rfl⟩,
    fun _ _ => NameSet.mem_ofList, fun _ _ => Iff.rfl, le_refl, htrans,
    beq_eq_isSubset_and_isSubset, hbounds, isLUB_union, isLUB_unionAll, isSubset_subtract,
    isEmpty_subtract, isCovariant_eq_isSubset, ?_⟩
  intro source target names span
  refine ⟨check_eq_none_iff, fun diagnostic hcheck => ?_⟩
  exact ⟨_, escaping_of_check hcheck, isLeast_subtract _ _⟩

/-- Of `throws(A, B)` only `A` is missing in `throws(B, C)`, and there is no smaller set that would
do. Anything is missing if nothing was promised. -/
theorem residual_of_overlap :
    (∃ diagnostic, check (.set (.ofList ["A", "B"])) (.set (.ofList ["B", "C"])) {} {} =
        some diagnostic ∧
      diagnostic.escaping = some (.ofList ["A"]) ∧
      IsLeast {set | ExceptionSet.ofList ["A", "B"] ≤ (ExceptionSet.ofList ["B", "C"]).union set}
        (.ofList ["A"])) ∧
    ∃ diagnostic, check (.contract .undeclared) (.set (.ofList ["B", "C"])) {} {} =
        some diagnostic ∧
      diagnostic.escaping = some .universal ∧
      IsLeast {set | ExceptionSet.universal ≤ (ExceptionSet.ofList ["B", "C"]).union set}
        .universal := by
  obtain ⟨-, -, -, -, -, -, -, -, -, -, -, -, -, -, hcheck⟩ := removal_is_residual_of_union
  constructor
  · obtain ⟨extra, hextra, hleast⟩ :=
      (hcheck (.set (.ofList ["A", "B"])) (.set (.ofList ["B", "C"])) {} {}).2 _ rfl
    obtain rfl : .ofList ["A"] = extra := Option.some.inj hextra
    exact ⟨_, rfl, hextra, hleast⟩
  · obtain ⟨extra, hextra, hleast⟩ :=
      (hcheck (.contract .undeclared) (.set (.ofList ["B", "C"])) {} {}).2 _ rfl
    obtain rfl : .universal = extra := Option.some.inj hextra
    exact ⟨_, rfl, hextra, hleast⟩

end Substitution

end Throws
