import Mathlib.Data.Fintype.EquivFin
import Mathlib.Order.Heyting.Basic
import Throws.Effect.Inference

/-!
# The algebra of exception sets

Exception sets are ordered by what they allow, and the operations of the analysis are the lattice
operations of that order. Joining two sets is their least upper bound. Taking a set away is the
residual of joining it: `a \ b ≤ c` says the same as `a ≤ b ⊔ c`. This makes `ExceptionSet` a
co-Heyting algebra with the universal set on top. It is not a Boolean algebra, since
`universal \ finite names` is still universal.

A set is determined by the exceptions that it admits (`subset_iff`), because no finite set admits
all of them. The last section is about what a row of handlers leaves of a set, which is a residual
as well (`uncaught_eq_sdiff`).
-/

namespace Throws

/-- Some name is missing from every finite set of names. -/
theorem NameSet.exists_not_mem (names : NameSet) : ∃ name, name ∉ names := by
  obtain ⟨name, hname⟩ := Infinite.exists_notMem_finset names.toList.toFinset
  rw [List.mem_toFinset, NameSet.mem_toList] at hname
  exact ⟨name, hname⟩

namespace ExceptionSet

/-- Containment says that every admitted exception is admitted by the other set as well. -/
theorem subset_iff {a b : ExceptionSet} : a ⊆ b ↔ ∀ name ∈ a, name ∈ b := by
  cases b with
  | universal => exact iff_of_true (by cases a <;> rfl) fun _ _ => mem_universal
  | finite b =>
    cases a with
    | finite a => exact NameSet.isSubset_iff
    | universal =>
      -- No finite set holds everything, and the missing name tells the two apart.
      obtain ⟨name, hname⟩ := b.exists_not_mem
      exact iff_of_false Bool.false_ne_true fun h => hname (h name mem_universal)

/-- Sets that admit the same exceptions are equal. -/
@[ext]
theorem ext {a b : ExceptionSet} (h : ∀ name, name ∈ a ↔ name ∈ b) : a = b := by
  have hab : a ⊆ b := subset_iff.mpr fun name => (h name).mp
  have hba : b ⊆ a := subset_iff.mpr fun name => (h name).mpr
  -- The universal set is contained in itself only, so both are of the same kind.
  cases a with
  | universal =>
    cases b with
    | universal => rfl
    | finite b => exact absurd hab Bool.false_ne_true
  | finite a =>
    cases b with
    | universal => exact absurd hba Bool.false_ne_true
    | finite b => exact congrArg finite (NameSet.ext h)

/-- What two sets have in common. -/
def inter : ExceptionSet → ExceptionSet → ExceptionSet
  | .finite a, .finite b => .finite (a.diff (a.diff b))
  | .universal, b => b
  | a, .universal => a

theorem mem_inter {name : String} {a b : ExceptionSet} :
    name ∈ inter a b ↔ name ∈ a ∧ name ∈ b := by
  cases a <;> cases b <;> simp only [inter, mem_finite, mem_universal, NameSet.mem_diff] <;> tauto

/-- Removing `b` leaves no more than `c` exactly if `b` and `c` together allow everything. -/
theorem sdiff_subset_iff {a b c : ExceptionSet} : a \ b ⊆ c ↔ a ⊆ b ∪ c := by
  cases b with
  | universal =>
    -- Nothing is left, and on the other side everything is allowed.
    have hleft : a \ universal = ∅ := by cases a <;> rfl
    rw [hleft, subset_iff, subset_iff]
    exact iff_of_true (fun _ h => absurd h not_mem_empty) (by simp)
  | finite b =>
    cases a with
    | universal =>
      -- A finite set removes nothing from the universal one, so only `c` can make up for it.
      cases c <;> exact Iff.rfl
    | finite a =>
      rw [subset_iff, subset_iff]
      refine forall_congr' fun name => ?_
      change (name ∈ a.diff b → _) ↔ _
      rw [NameSet.mem_diff, mem_union, mem_finite, mem_finite, and_imp, or_iff_not_imp_left]

/-- Containment, joining and removal form a co-Heyting algebra. -/
instance : CoheytingAlgebra ExceptionSet where
  le a b := a ⊆ b
  sup a b := a ∪ b
  inf := inter
  sdiff a b := a \ b
  bot := ∅
  top := universal
  hnot a := universal \ a
  le_refl _ := subset_iff.mpr fun _ h => h
  le_trans _ _ _ hab hbc :=
    subset_iff.mpr fun name h => subset_iff.mp hbc name (subset_iff.mp hab name h)
  le_antisymm _ _ hab hba :=
    ext fun name => ⟨subset_iff.mp hab name, subset_iff.mp hba name⟩
  le_sup_left _ _ := subset_iff.mpr fun _ h => mem_union.mpr (.inl h)
  le_sup_right _ _ := subset_iff.mpr fun _ h => mem_union.mpr (.inr h)
  sup_le _ _ _ hac hbc := subset_iff.mpr fun name h =>
    (mem_union.mp h).elim (subset_iff.mp hac name) (subset_iff.mp hbc name)
  inf_le_left _ _ := subset_iff.mpr fun _ h => (mem_inter.mp h).1
  inf_le_right _ _ := subset_iff.mpr fun _ h => (mem_inter.mp h).2
  le_inf _ _ _ hab hac := subset_iff.mpr fun name h =>
    mem_inter.mpr ⟨subset_iff.mp hab name h, subset_iff.mp hac name h⟩
  bot_le _ := subset_iff.mpr fun _ h => absurd h not_mem_empty
  le_top _ := subset_iff.mpr fun _ _ => mem_universal
  sdiff_le_iff _ _ _ := sdiff_subset_iff
  top_sdiff _ := rfl

/-- The joins of the algebra are unions. -/
theorem sup_eq_union (a b : ExceptionSet) : a ⊔ b = a ∪ b := rfl

/-- The one exception that a singleton admits. -/
@[simp]
theorem mem_single {name other : String} : other ∈ single name ↔ other = name := by
  change other ∈ NameSet.ofList [name] ↔ _
  rw [NameSet.mem_ofList, List.mem_singleton]

/-- An exception that is not taken away stays. -/
theorem mem_sdiff_of_not_mem {name : String} {a b : ExceptionSet} (ha : name ∈ a) (hb : name ∉ b) :
    name ∈ a \ b := by
  -- Whatever the kinds of the sets, `b` and what is left cover `a`.
  have h : a ≤ b ⊔ a \ b := le_sup_sdiff
  exact (mem_union.mp (subset_iff.mp h name ha)).resolve_left hb

/-- Nothing may escape exactly if the set is empty. -/
theorem isEmpty_iff {set : ExceptionSet} : set.isEmpty = true ↔ set = ∅ := by
  cases set with
  | universal => exact iff_of_false Bool.false_ne_true nofun
  | finite names =>
    rw [isEmpty, NameSet.isEmpty_iff]
    constructor
    · exact fun h => ext fun name => iff_of_false (h name) not_mem_empty
    · intro h name hname
      rw [← mem_finite, h] at hname
      exact not_mem_empty hname

/-- A type that is still listed after a removal is none of those removed. -/
theorem not_mem_of_mem_names_sdiff {name : String} {a b : ExceptionSet}
    (h : name ∈ (a \ b).names) : name ∉ b := by
  cases b with
  | universal => cases a <;> exact absurd h List.not_mem_nil
  | finite b =>
    cases a with
    | universal => exact absurd h List.not_mem_nil
    | finite a => exact (NameSet.mem_diff.mp (NameSet.mem_toList.mp h)).2

/-- Any exception may escape exactly if the set is the universal one. -/
theorem isUniversal_iff {set : ExceptionSet} : set.isUniversal = true ↔ set = universal := by
  cases set with
  | universal => exact iff_of_true rfl rfl
  | finite names => exact iff_of_false Bool.false_ne_true nofun

/-- Two sets together are unbounded if one of them is. -/
theorem isUniversal_union (a b : ExceptionSet) :
    (a ∪ b).isUniversal = (a.isUniversal || b.isUniversal) := by
  cases a <;> cases b <;> rfl

/-- What is left is unbounded unless everything is taken away. -/
theorem isUniversal_sdiff (a b : ExceptionSet) :
    (a \ b).isUniversal = (a.isUniversal && !b.isUniversal) := by
  cases a <;> cases b <;> rfl

/-- Joining sets one after the other onto `a` admits what any of them or `a` admits. Sets that are
not looked at could add nothing. -/
theorem mem_joinOnto {name : String} {sets : List ExceptionSet} {a : ExceptionSet} :
    name ∈ a.joinOnto sets ↔ name ∈ a ∨ ∃ set ∈ sets, name ∈ set := by
  induction sets generalizing a with
  | nil => simp [joinOnto]
  | cons first rest ih =>
    rw [joinOnto, List.exists_mem_cons_iff, ← or_assoc, ← mem_union]
    split
    case isTrue huniversal =>
      rw [isUniversal_iff.mp huniversal]
      exact iff_of_true mem_universal (.inl mem_universal)
    case isFalse => exact ih

/-- What several sets admit together. -/
@[simp]
theorem mem_unionAll {name : String} {sets : List ExceptionSet} :
    name ∈ unionAll sets ↔ ∃ set ∈ sets, name ∈ set := by
  rw [unionAll, mem_joinOnto]
  simp

/-- The first set comes first and the others follow. -/
@[simp]
theorem unionAll_cons (first : ExceptionSet) (rest : List ExceptionSet) :
    unionAll (first :: rest) = first ∪ unionAll rest := by
  ext name
  simp

/-- Each of several sets is below all of them together. -/
theorem le_unionAll {set : ExceptionSet} {sets : List ExceptionSet} (h : set ∈ sets) :
    set ≤ unionAll sets :=
  subset_iff.mpr fun _ hname => mem_unionAll.mpr ⟨set, h, hname⟩

/-- Several sets together are below whatever each of them is below. -/
theorem unionAll_le {sets : List ExceptionSet} {bound : ExceptionSet}
    (h : ∀ set ∈ sets, set ≤ bound) : unionAll sets ≤ bound := by
  refine subset_iff.mpr fun name hname => ?_
  obtain ⟨set, hset, hname⟩ := mem_unionAll.mp hname
  exact subset_iff.mp (h set hset) name hname

/-- Several sets together are unbounded if one of them is. -/
theorem isUniversal_unionAll (sets : List ExceptionSet) :
    (unionAll sets).isUniversal = sets.any (·.isUniversal) := by
  induction sets with
  | nil => rfl
  | cons first rest ih => rw [unionAll_cons, isUniversal_union, ih, List.any_cons]

/-- The sets of several lists together. -/
theorem unionAll_flatMap {α : Type} (items : List α) (sets : α → List ExceptionSet) :
    unionAll (items.flatMap sets) = unionAll (items.map fun item => unionAll (sets item)) := by
  ext name
  simp only [mem_unionAll, List.mem_flatMap, List.mem_map]
  constructor
  · rintro ⟨set, ⟨item, hitem, hset⟩, hname⟩
    exact ⟨_, ⟨item, hitem, rfl⟩, mem_unionAll.mpr ⟨set, hset, hname⟩⟩
  · rintro ⟨_, ⟨item, hitem, rfl⟩, hname⟩
    obtain ⟨set, hset, hname⟩ := mem_unionAll.mp hname
    exact ⟨set, ⟨item, hitem, hset⟩, hname⟩

end ExceptionSet

/-! ## Handlers -/

namespace Effect

open Throws.Body

/-- Handlers leave what is not in any of the sets that they catch. -/
theorem uncaught_eq_sdiff (effect : ExceptionSet) (clauses : List Clause) :
    uncaught effect clauses = effect \ .unionAll (clauses.map caught) := by
  induction clauses generalizing effect with
  | nil => exact sdiff_bot.symm
  | cons clause rest ih =>
    -- Removing one set after the other is removing their union.
    rw [List.map_cons, ExceptionSet.unionAll_cons, ← ExceptionSet.sup_eq_union, ← sdiff_sdiff_left]
    exact ih (effect \ caught clause)

/-- Handlers leave the less, the less there is. -/
theorem uncaught_mono {a b : ExceptionSet} (h : a ≤ b) (clauses : List Clause) :
    uncaught a clauses ≤ uncaught b clauses := by
  rw [uncaught_eq_sdiff, uncaught_eq_sdiff]
  exact sdiff_le_sdiff_right h

/-- Handlers add nothing. -/
theorem uncaught_le (effect : ExceptionSet) (clauses : List Clause) :
    uncaught effect clauses ≤ effect := by
  rw [uncaught_eq_sdiff]
  exact sdiff_le

/-- Handlers treat the parts of a union separately. -/
theorem uncaught_union (a b : ExceptionSet) (clauses : List Clause) :
    uncaught (a ∪ b) clauses = uncaught a clauses ∪ uncaught b clauses := by
  rw [uncaught_eq_sdiff, uncaught_eq_sdiff, uncaught_eq_sdiff]
  exact sup_sdiff_distrib a b _

/-- Handlers treat the members of a list of sets separately. -/
theorem uncaught_unionAll (sets : List ExceptionSet) (clauses : List Clause) :
    uncaught (.unionAll sets) clauses = .unionAll (sets.map (uncaught · clauses)) := by
  induction sets with
  | nil =>
    rw [uncaught_eq_sdiff]
    exact bot_sdiff
  | cons first rest ih =>
    rw [ExceptionSet.unionAll_cons, uncaught_union, ih, List.map_cons, ExceptionSet.unionAll_cons]

/-- It does not matter which of two rows of handlers comes first. -/
theorem uncaught_comm (effect : ExceptionSet) (first second : List Clause) :
    uncaught (uncaught effect first) second = uncaught (uncaught effect second) first := by
  simp only [uncaught_eq_sdiff]
  exact sdiff_right_comm effect _ _

/-- Two rows of handlers act one after the other. -/
theorem uncaught_append (effect : ExceptionSet) (first second : List Clause) :
    uncaught effect (first ++ second) = uncaught (uncaught effect first) second :=
  List.foldl_append

/-- Handlers that are changed, but not in what they catch, leave the same. -/
theorem uncaught_map {change : Clause → Clause}
    (h : ∀ clause, caught (change clause) = caught clause) (effect : ExceptionSet)
    (clauses : List Clause) : uncaught effect (clauses.map change) = uncaught effect clauses := by
  rw [uncaught, List.foldl_map]
  simp only [h]
  rfl

/-- A handler catches everything exactly if it names no type. -/
theorem isUniversal_caught (clause : Clause) : (caught clause).isUniversal = clause.catchesAll := by
  unfold caught Clause.catchesAll
  cases clause.type <;> rfl

/-- Handlers leave an unbounded effect unbounded unless one of them catches everything. -/
theorem isUniversal_uncaught (effect : ExceptionSet) (clauses : List Clause) :
    (uncaught effect clauses).isUniversal =
      (effect.isUniversal && !clauses.any (·.catchesAll)) := by
  induction clauses generalizing effect with
  | nil => simp [uncaught]
  | cons clause rest ih =>
    change (uncaught (effect \ caught clause) rest).isUniversal = _
    rw [ih, ExceptionSet.isUniversal_sdiff, isUniversal_caught, List.any_cons, Bool.not_or,
      Bool.and_assoc]

/-- An exception that no handler catches gets through. -/
theorem mem_uncaught {name : String} {effect : ExceptionSet} {clauses : List Clause}
    (heffect : name ∈ effect) (hclauses : ∀ clause ∈ clauses, name ∉ caught clause) :
    name ∈ uncaught effect clauses := by
  rw [uncaught_eq_sdiff]
  refine ExceptionSet.mem_sdiff_of_not_mem heffect fun hcaught => ?_
  obtain ⟨set, hset, hname⟩ := ExceptionSet.mem_unionAll.mp hcaught
  obtain ⟨clause, hclause, rfl⟩ := List.mem_map.mp hset
  exact hclauses clause hclause hname

end Effect

end Throws
