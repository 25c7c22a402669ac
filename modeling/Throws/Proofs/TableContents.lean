import Throws.Proofs.TableBuilding

/-!
# What a table contains

A table is built without an error exactly if no specifier contradicts itself and whatever settles
the contract of one function agrees, and then it contains just what that says: every function once,
with the contract that was promised, in its written form if it was written anywhere.
-/

namespace Throws.Verification

open Throws.Body Throws.Signature

/-- The bodyless declarations of a function. -/
def declarationsOf (functions : List Function) (key : FunctionKey) : List Function :=
  functions.filter fun function => !function.isDefinition && decide (function.key = key)

/-- The definitions of a function. -/
def definitionsOf (functions : List Function) (key : FunctionKey) : List Function :=
  functions.filter fun function => function.isDefinition && decide (function.key = key)

/-- What settles the contract of one function: its bodyless declarations, or where there are none
its definitions. -/
def settlingOf (functions : List Function) (key : FunctionKey) : List Function :=
  if (declarationsOf functions key).isEmpty then definitionsOf functions key
  else declarationsOf functions key

/-- The functions contradict neither themselves nor each other. -/
structure Consistent (functions : List Function) : Prop where
  /-- No specifier has both `noexcept` and `throws`. -/
  not_conflicting : ∀ function ∈ functions, function.specifier.isConflicting = false
  /-- The bodyless declarations of a function agree. -/
  declarations_agree : ∀ key, ∀ first ∈ declarationsOf functions key,
    ∀ second ∈ declarationsOf functions key, promised first = promised second
  /-- The definitions of a function agree if there is no bodyless declaration of it. -/
  definitions_agree : ∀ key, declarationsOf functions key = [] →
    ∀ first ∈ definitionsOf functions key, ∀ second ∈ definitionsOf functions key,
      promised first = promised second

/-- The table of functions that are consistent. -/
structure Tabulates (functions : List Function) (table : Table) : Prop where
  /-- First come the functions with a bodyless declaration and then the others, each of them in
  order of first appearance. -/
  keys_eq :
    let declared := (functions.filter (!·.isDefinition)).map (·.key)
    table.keys = declared.eraseDups ++
      ((functions.map (·.key)).filter (decide <| · ∉ declared)).eraseDups
  /-- No function is in the table twice. -/
  nodup : table.keys.Nodup
  /-- The functions in the table are those that were given. -/
  mem_keys_iff : ∀ key, key ∈ table.keys ↔ ∃ function ∈ functions, function.key = key
  /-- Callers reckon with what is promised wherever the contract is settled. -/
  effective_eq : ∀ key, ∀ function ∈ settlingOf functions key,
    (table.lookup key).effective = promised function
  /-- A contract is declared if it is written anywhere where it is settled. -/
  isDeclared_iff : ∀ key, (table.lookup key).isDeclared = true ↔
    ∃ function ∈ settlingOf functions key, function.specifier.isWritten = true

section Tabulation

variable {functions : List Function} {key : FunctionKey} {function : Function}

/-- What settles the contract of a function is what settles contracts and is about it. -/
theorem mem_settlingOf_iff :
    function ∈ settlingOf functions key ↔ function ∈ settling functions ∧ function.key = key := by
  rw [mem_settling_iff]
  cases hempty : (declarationsOf functions key).isEmpty with
  | true =>
    rw [settlingOf, if_pos hempty]
    rw [List.isEmpty_iff, declarationsOf, List.filter_eq_nil_iff] at hempty
    simp only [definitionsOf, List.mem_filter] at hempty ⊢
    grind
  | false =>
    rw [settlingOf, if_neg (Bool.eq_false_iff.mp hempty)]
    rw [List.isEmpty_eq_false_iff_exists_mem] at hempty
    obtain ⟨declaration, hdeclaration⟩ := hempty
    simp only [declarationsOf, List.mem_filter] at hdeclaration ⊢
    grind

/-- The functions that settle contracts agree if those that settle the same contract do. -/
theorem agreeing_settling_iff :
    Agreeing (settling functions) ↔ ∀ key, ∀ first ∈ settlingOf functions key,
      ∀ second ∈ settlingOf functions key, promised first = promised second := by
  simp only [mem_settlingOf_iff]
  constructor
  · rintro h key first ⟨hfirst, rfl⟩ second ⟨hsecond, hkey⟩
    exact h first hfirst second hsecond hkey.symm
  · intro h first hfirst second hsecond hkey
    exact h _ first ⟨hfirst, hkey⟩ second ⟨hsecond, rfl⟩

/-- Functions are consistent if no specifier contradicts itself and those that settle contracts
agree. -/
theorem consistent_iff :
    Consistent functions ↔
      (∀ function ∈ functions, function.specifier.isConflicting = false) ∧
        Agreeing (settling functions) := by
  rw [agreeing_settling_iff]
  constructor
  · rintro ⟨hconflict, hdeclarations, hdefinitions⟩
    refine ⟨hconflict, fun key => ?_⟩
    unfold settlingOf
    split
    case isTrue hnone => exact hdefinitions key (List.isEmpty_iff.mp hnone)
    case isFalse => exact hdeclarations key
  · rintro ⟨hconflict, hagree⟩
    refine ⟨hconflict, fun key first hfirst => ?_, fun key hnone => ?_⟩
    · have hsome : (declarationsOf functions key).isEmpty = false :=
        List.isEmpty_eq_false_iff_exists_mem.mpr ⟨first, hfirst⟩
      have hkey := hagree key
      rw [settlingOf, if_neg (Bool.eq_false_iff.mp hsome)] at hkey
      exact hkey first hfirst
    · have hkey := hagree key
      rwa [settlingOf, if_pos (List.isEmpty_iff.mpr hnone)] at hkey

/-- The keys of the functions that settle contracts, each once. -/
theorem eraseDups_keys_settling (functions : List Function) :
    let declared := (functions.filter (!·.isDefinition)).map (·.key)
    ((settling functions).map (·.key)).eraseDups =
      declared.eraseDups ++
        ((functions.map (·.key)).filter (decide <| · ∉ declared)).eraseDups := by
  intro declared
  -- A function that is declared nowhere is a definition, so the others are listed in full.
  have hothers : ((functions.filter (·.isDefinition)).filter (decide <| ·.key ∉ declared)).map
      (·.key) = (functions.map (·.key)).filter (decide <| · ∉ declared) := by
    rw [List.filter_filter, List.filter_map]
    congr 1
    refine List.filter_congr fun function hfunction => ?_
    cases hdefinition : function.isDefinition with
    | true => simp
    | false =>
      have hdeclared : function.key ∈ declared :=
        List.mem_map.mpr ⟨function, List.mem_filter.mpr ⟨hfunction, by simp [hdefinition]⟩, rfl⟩
      simp [hdeclared]
  have hremove : ((functions.map (·.key)).filter (decide <| · ∉ declared)).removeAll declared =
      (functions.map (·.key)).filter (decide <| · ∉ declared) := by
    refine List.filter_eq_self.mpr fun key hkey => ?_
    simpa using (List.mem_filter.mp hkey).2
  rw [settling, List.map_append, hothers, List.eraseDups_append, hremove]

/-- A table that reflects the functions that settle contracts tabulates all functions. -/
theorem Reflects.tabulates {table : Table} (h : Reflects table (settling functions)) :
    Tabulates functions table where
  keys_eq := h.keys_eq.trans (eraseDups_keys_settling functions)
  nodup := h.nodup
  mem_keys_iff := by
    intro key
    rw [h.keys_eq, eraseDups_keys_settling]
    simp only [List.mem_append, List.mem_eraseDups, List.mem_filter, List.mem_map]
    grind
  effective_eq := by
    intro key function hfunction
    obtain ⟨hsettling, rfl⟩ := mem_settlingOf_iff.mp hfunction
    exact h.effective_eq function hsettling
  isDeclared_iff := by
    intro key
    rw [h.isDeclared_iff]
    simp only [mem_settlingOf_iff, and_assoc]

/-- The functions in a table without errors are those that it was built from. -/
theorem mem_keys_buildTable_iff {table : Table} (h : buildTable functions = (table, [])) :
    key ∈ table.keys ↔ ∃ function ∈ functions, function.key = key := by
  have hreflects := (reflects_buildTable (congrArg Prod.snd h)).2
  rw [h] at hreflects
  exact hreflects.tabulates.mem_keys_iff key

end Tabulation

/-- A table is built without an error exactly if the functions are consistent, and then it tabulates
them. -/
theorem buildTable_exact (functions : List Function) :
    ((buildTable functions).2 = [] ↔ Consistent functions) ∧
      ((buildTable functions).2 = [] → Tabulates functions (buildTable functions).1) :=
  ⟨buildTable_eq_nil_iff.trans consistent_iff.symm, fun h => (reflects_buildTable h).2.tabulates⟩

/-- Functions whose contracts are settled in different ways. `g` is defined twice, as `noexcept` and
as `throws()`. `f` is declared twice, without a contract and as `throws(...)`, and its definition
says `throws(A)`. `h` is defined without a contract. -/
def mixedFunctions : List Function := [
  { key := { name := "g" }, specifier := .nothrow, body := some (.block [] {}) },
  { key := { name := "f" } },
  { key := { name := "f" }, specifier := .throwing ["A"] false, body := some (.block [] {}) },
  { key := { name := "f" }, specifier := .throwing [] true },
  { key := { name := "h" }, body := some (.block [] {}) },
  { key := { name := "g" }, specifier := .throwing [] false, body := some (.block [] {}) }]

/-- `mixedFunctions` are consistent, and the table has `f` first. -/
theorem tabulates_mixedFunctions :
    let table := (buildTable mixedFunctions).1
    (buildTable mixedFunctions).2 = [] ∧
      table.items = [({ name := "f" }, .declared .universal), ({ name := "g" }, .declared ∅),
        ({ name := "h" }, .undeclared)] ∧
      Consistent mixedFunctions ∧ Tabulates mixedFunctions table := by
  have h : (buildTable mixedFunctions).2 = [] := by rfl
  obtain ⟨hconsistent, htabulates⟩ := buildTable_exact mixedFunctions
  exact ⟨h, by rfl, hconsistent.mp h, htabulates h⟩

end Throws.Verification
