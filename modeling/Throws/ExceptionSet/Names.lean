/-!
# Finite sets of names

A `NameSet` holds finitely many names in strictly increasing order. The order makes the
representation canonical: two sets with the same members are equal (`NameSet.ext`), so equality of
sets can be decided and printed sets are sorted by construction.
-/

namespace Throws

/-- A finite set of names, kept as its members in increasing order. -/
structure NameSet where
  /-- The members, in increasing order. -/
  toList : List String
  /-- The members increase strictly, so none is repeated. -/
  sorted : toList.Pairwise (· < ·)
deriving DecidableEq

namespace NameSet

instance : Membership String NameSet := ⟨fun names name => name ∈ names.toList⟩

instance (name : String) (names : NameSet) : Decidable (name ∈ names) :=
  inferInstanceAs (Decidable (name ∈ names.toList))

@[simp]
theorem mem_toList {name : String} {names : NameSet} : name ∈ names.toList ↔ name ∈ names :=
  Iff.rfl

@[simp]
theorem mem_mk {name : String} {names : List String} {h : names.Pairwise (· < ·)} :
    name ∈ NameSet.mk names h ↔ name ∈ names :=
  Iff.rfl

/-- Two strictly increasing lists with the same members are the same list. -/
theorem eq_of_mem_iff {xs ys : List String} (hxs : xs.Pairwise (· < ·))
    (hys : ys.Pairwise (· < ·)) (h : ∀ name, name ∈ xs ↔ name ∈ ys) : xs = ys := by
  induction xs generalizing ys with
  | nil =>
    cases ys with
    | nil => rfl
    | cons y ys => exact absurd ((h y).mpr List.mem_cons_self) List.not_mem_nil
  | cons x xs ih =>
    cases ys with
    | nil => exact absurd ((h x).mp List.mem_cons_self) List.not_mem_nil
    | cons y ys =>
      rw [List.pairwise_cons] at hxs hys
      -- The least member is the head of either list.
      have head : x = y := by
        rcases List.mem_cons.mp ((h x).mp List.mem_cons_self) with eq | hx
        · exact eq
        · rcases List.mem_cons.mp ((h y).mpr List.mem_cons_self) with eq | hy
          · exact eq.symm
          · exact absurd (hxs.1 y hy) (String.lt_asymm (hys.1 x hx))
      subst head
      refine congrArg (x :: ·) (ih hxs.2 hys.2 fun name => ⟨fun hn => ?_, fun hn => ?_⟩)
      · rcases List.mem_cons.mp ((h name).mp (List.mem_cons_of_mem _ hn)) with rfl | hy
        · exact absurd (hxs.1 name hn) (String.lt_irrefl name)
        · exact hy
      · rcases List.mem_cons.mp ((h name).mpr (List.mem_cons_of_mem _ hn)) with rfl | hx
        · exact absurd (hys.1 name hn) (String.lt_irrefl name)
        · exact hx

@[ext]
theorem ext {a b : NameSet} (h : ∀ name, name ∈ a ↔ name ∈ b) : a = b := by
  obtain ⟨xs, hxs⟩ := a
  obtain ⟨ys, hys⟩ := b
  obtain rfl : xs = ys := eq_of_mem_iff hxs hys h
  rfl

/-- The set without members. -/
def empty : NameSet := ⟨[], .nil⟩

/-- Puts a name at its place in an increasing list, unless it is there already. -/
def insertSorted (name : String) : List String → List String
  | [] => [name]
  | first :: rest =>
    if name < first then name :: first :: rest
    else if first < name then first :: insertSorted name rest
    else first :: rest

theorem mem_insertSorted {name other : String} {names : List String} :
    other ∈ insertSorted name names ↔ other = name ∨ other ∈ names := by
  induction names with
  | nil => simp [insertSorted]
  | cons first rest ih =>
    rw [insertSorted]
    split
    · simp
    · split
      · simp [ih, or_left_comm]
      · rename_i h₁ h₂
        have same : name = first := String.le_antisymm (String.not_lt.mp h₂) (String.not_lt.mp h₁)
        simp [same]

theorem pairwise_insertSorted {name : String} {names : List String}
    (h : names.Pairwise (· < ·)) : (insertSorted name names).Pairwise (· < ·) := by
  induction names with
  | nil => simp [insertSorted]
  | cons first rest ih =>
    rw [List.pairwise_cons] at h
    rw [insertSorted]
    split
    · rename_i hlt
      refine List.pairwise_cons.mpr ⟨fun other hother => ?_, List.pairwise_cons.mpr h⟩
      rcases List.mem_cons.mp hother with rfl | hmem
      · exact hlt
      · exact String.lt_trans hlt (h.1 other hmem)
    · split
      · rename_i hlt
        refine List.pairwise_cons.mpr ⟨fun other hother => ?_, ih h.2⟩
        rcases mem_insertSorted.mp hother with rfl | hmem
        · exact hlt
        · exact h.1 other hmem
      · exact List.pairwise_cons.mpr h

/-- The set with one more member. -/
def insert (name : String) (names : NameSet) : NameSet :=
  ⟨insertSorted name names.toList, pairwise_insertSorted names.sorted⟩

/-- The set of the members of a list, in any order and with any repetitions. -/
def ofList (names : List String) : NameSet := names.foldr insert empty

/-- The members of either set. -/
def union (a b : NameSet) : NameSet := a.toList.foldr insert b

/-- The members of `a` that are not in `b`. -/
def diff (a b : NameSet) : NameSet :=
  ⟨a.toList.filter (fun name => decide (name ∉ b)), a.sorted.filter _⟩

/-- Whether every member of `a` is one of `b`. -/
def isSubset (a b : NameSet) : Bool := a.toList.all (fun name => decide (name ∈ b))

/-- Whether the set has no member. -/
def isEmpty (names : NameSet) : Bool := names.toList.isEmpty

@[simp]
theorem not_mem_empty {name : String} : name ∉ empty := List.not_mem_nil

@[simp]
theorem mem_insert {name other : String} {names : NameSet} :
    other ∈ names.insert name ↔ other = name ∨ other ∈ names :=
  mem_insertSorted

theorem mem_foldr_insert {name : String} {xs : List String} {names : NameSet} :
    name ∈ xs.foldr insert names ↔ name ∈ xs ∨ name ∈ names := by
  induction xs with
  | nil => simp
  | cons x xs ih => simp [ih, or_assoc]

@[simp]
theorem mem_ofList {name : String} {names : List String} : name ∈ ofList names ↔ name ∈ names := by
  simp [ofList, mem_foldr_insert]

@[simp]
theorem mem_union {name : String} {a b : NameSet} : name ∈ a.union b ↔ name ∈ a ∨ name ∈ b :=
  mem_foldr_insert

@[simp]
theorem mem_diff {name : String} {a b : NameSet} : name ∈ a.diff b ↔ name ∈ a ∧ name ∉ b := by
  simp [diff]

theorem isSubset_iff {a b : NameSet} : a.isSubset b = true ↔ ∀ name ∈ a, name ∈ b := by
  simp [isSubset]

theorem isEmpty_iff {names : NameSet} : names.isEmpty = true ↔ ∀ name, name ∉ names := by
  obtain ⟨xs, h⟩ := names
  cases xs with
  | nil => simp [isEmpty]
  | cons x xs => exact ⟨fun h => (nomatch h), fun h => absurd List.mem_cons_self (h x)⟩

end NameSet

end Throws
