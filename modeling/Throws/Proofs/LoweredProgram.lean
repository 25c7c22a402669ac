import Throws.Resolution.Program

/-!
# What a program is resolved to

Resolving a program goes through its declarations three times, for the types, for the signatures and
for the bodies. Each of the passes looks at what the one before it has found out about all files. So
what a declaration is resolved to depends on the program only through `programTypes` and
`programGlobals`, and it can be told for one declaration at a time.

* `value_lowerProgram`: the units hold `loweredIn sources file definition` for each declaration.
* `mem_functions_iff`: the functions of a unit are those declared in its file.
* `clean_lowerProgram_iff`: nothing is reported if nothing is reported for the types, for any of the
  signatures and for any of the bodies.
-/

namespace Throws

/-- A reading that meets nothing and comes to its end. -/
def Trail.Reading.quiet {ε : Type} : Reading ε := ⟨[], true⟩

theorem Trail.Reading.append_eq_quiet_iff {ε : Type} {first second : Reading ε} :
    first.append second = quiet ↔ first = quiet ∧ second = quiet := by
  obtain ⟨events, isComplete⟩ := first
  obtain ⟨events', isComplete'⟩ := second
  cases isComplete <;> simp [append, quiet, and_assoc]

/-- Nothing is met on two trails in a row if nothing is met on either of them. -/
theorem Trail.upTo_append_eq_quiet_iff {ε : Type} {depth : Option Nat} {first second : Trail ε} :
    (Trail.append first second).upTo depth = Reading.quiet ↔
      first.upTo depth = Reading.quiet ∧ second.upTo depth = Reading.quiet := by
  cases depth with
  | none => simp [upTo, events, Reading.quiet]
  | some levels => exact Reading.append_eq_quiet_iff

namespace Resolution

open Throws.Body Throws.Surface

/-! ## Values and logs -/

namespace Logged

variable {α β : Type} {depth : Option Nat}

/-- Nothing is reported, even if resolution may only go down to the given number of levels. -/
def Clean (depth : Option Nat) (logged : Logged α) : Prop :=
  logged.trail.upTo depth = Trail.Reading.quiet

theorem reports_eq_nil_iff {logged : Logged α} :
    logged.reports depth = [] ↔ logged.Clean depth := by
  rw [reports, Clean]
  generalize logged.trail.upTo depth = reading
  obtain ⟨events, isComplete⟩ := reading
  cases isComplete <;> simp [Trail.Reading.quiet]

theorem Clean.log_eq_nil {logged : Logged α} (h : logged.Clean depth) : logged.log = [] := by
  cases depth with
  | none => exact congrArg Trail.Reading.events h
  | some levels =>
    -- What comes to its end within the levels meets all there is.
    have hcomplete : (logged.trail.within levels).isComplete = true :=
      congrArg Trail.Reading.isComplete h
    rw [log, ← Trail.events_within_of_isComplete hcomplete]
    exact congrArg Trail.Reading.events h

@[simp]
theorem clean_pure (a : α) : (pure a : Logged α).Clean depth := by
  cases depth <;> rfl

@[simp]
theorem clean_bind_iff {first : Logged α} {next : α → Logged β} :
    (first >>= next).Clean depth ↔ first.Clean depth ∧ (next first.value).Clean depth :=
  Trail.upTo_append_eq_quiet_iff

@[simp]
theorem not_clean_report (diagnostic : Diagnostic) : ¬ (report diagnostic).Clean depth := by
  intro h
  exact absurd h.log_eq_nil (List.cons_ne_nil _ _)

@[simp]
theorem value_each (compute : α → Logged β) (as : List α) :
    (each compute as).value = as.map fun a => (compute a).value := by
  induction as with
  | nil => rfl
  | cons a rest ih =>
    rw [each, List.map_cons, ← ih]
    rfl

/-- The errors of several computations are those of each of them, in order. -/
@[simp]
theorem log_each (compute : α → Logged β) (as : List α) :
    (each compute as).log = as.flatMap fun a => (compute a).log := by
  induction as with
  | nil => rfl
  | cons a rest ih => simp [each, ih]

theorem clean_each_iff {compute : α → Logged β} {as : List α} :
    (each compute as).Clean depth ↔ ∀ a ∈ as, (compute a).Clean depth := by
  induction as with
  | nil => simp [each]
  | cons a rest ih => simp [each, ih]

end Logged

/-! ## Programs -/

/-- The declarations of functions with their files. -/
def declarations (sources : List (String × Program Pos)) : List (String × FunctionDef Pos) :=
  sources.flatMap fun source => source.2.functions.map (source.1, ·)

/-- The types that are declared in a program. -/
def programTypes (sources : List (String × Program Pos)) : Types := (Types.ofPrograms sources).value

/-- The signature of a declaration in a program. -/
def headerIn (sources : List (String × Program Pos)) (file : String)
    (definition : FunctionDef Pos) : Logged Header :=
  Header.resolve (programTypes sources) file definition

/-- What is declared in a program. -/
def programGlobals (sources : List (String × Program Pos)) : Globals where
  types := programTypes sources
  overloads := overloadsOf ((declarations sources).map fun declared =>
    (headerIn sources declared.1 declared.2).value)

/-- What a declaration in a program is resolved to. -/
def loweredIn (sources : List (String × Program Pos)) (file : String)
    (definition : FunctionDef Pos) : Logged Function :=
  lowerFunction (programGlobals sources) (headerIn sources file definition).value

variable {sources : List (String × Program Pos)} {file : String} {definition : FunctionDef Pos}

theorem mem_declarations_iff :
    (file, definition) ∈ declarations sources ↔
      ∃ program, (file, program) ∈ sources ∧ definition ∈ program.functions := by
  simp only [declarations, List.mem_flatMap, List.mem_map, Prod.exists, Prod.mk.injEq]
  constructor
  · rintro ⟨_, program, hsource, _, hdefinition, rfl, rfl⟩
    exact ⟨program, hsource, hdefinition⟩
  · rintro ⟨program, hsource, hdefinition⟩
    exact ⟨file, program, hsource, definition, hdefinition, rfl, rfl⟩

@[simp]
theorem source_headerIn : (headerIn sources file definition).value.source = definition := rfl

/-- The units hold what the declarations are resolved to. -/
theorem value_lowerProgram (sources : List (String × Program Pos)) :
    (lowerProgram sources).value = unitsOf (sources.map (·.1))
      ((declarations sources).map fun declared =>
        (declared.1, (loweredIn sources declared.1 declared.2).value)) := by
  simp only [lowerProgram, Logged.value_bind, Logged.value_each, Logged.value_pure]
  congr 1
  -- Headers and functions are paired up again; both come from the same declarations.
  rw [List.map_map, List.map_map, List.zip_map']
  rfl

/-- The functions of a unit are those declared in its file. -/
theorem mem_functions_iff {unit : SourceUnit} (hunit : unit ∈ (lowerProgram sources).value)
    {function : Function} :
    function ∈ unit.functions ↔ ∃ definition, (unit.name, definition) ∈ declarations sources ∧
      (loweredIn sources unit.name definition).value = function := by
  rw [value_lowerProgram] at hunit
  obtain ⟨file, _, rfl⟩ := List.mem_map.mp hunit
  simp only [List.mem_map, List.mem_filter, Prod.exists, Prod.mk.injEq, beq_iff_eq]
  constructor
  · rintro ⟨_, _, ⟨⟨_, definition, hmem, rfl, rfl⟩, rfl⟩, rfl⟩
    exact ⟨definition, hmem, rfl⟩
  · rintro ⟨definition, hmem, rfl⟩
    exact ⟨file, _, ⟨⟨file, definition, hmem, rfl, rfl⟩, rfl⟩, rfl⟩

/-- Every file has a unit. -/
theorem exists_unit_of_mem {program : Program Pos} (h : (file, program) ∈ sources) :
    ∃ unit ∈ (lowerProgram sources).value, unit.name = file := by
  rw [value_lowerProgram, unitsOf]
  exact ⟨_, List.mem_map.mpr ⟨file,
    List.mem_eraseDups.mpr (List.mem_map.mpr ⟨(file, program), h, rfl⟩), rfl⟩, rfl⟩

/-- The functions in the units are what the declarations are resolved to. -/
theorem mem_flatMap_functions_iff {function : Function} :
    function ∈ (lowerProgram sources).value.flatMap (·.functions) ↔
      ∃ file definition, (file, definition) ∈ declarations sources ∧
        (loweredIn sources file definition).value = function := by
  rw [List.mem_flatMap]
  constructor
  · rintro ⟨unit, hunit, hfunction⟩
    exact ⟨unit.name, (mem_functions_iff hunit).mp hfunction⟩
  · rintro ⟨file, definition, hmem, hfunction⟩
    obtain ⟨program, hsource, _⟩ := mem_declarations_iff.mp hmem
    obtain ⟨unit, hunit, rfl⟩ := exists_unit_of_mem hsource
    exact ⟨unit, hunit, (mem_functions_iff hunit).mpr ⟨definition, hmem, hfunction⟩⟩

/-- Nothing is reported for a program if nothing is reported in any of the passes. -/
theorem clean_lowerProgram_iff {depth : Option Nat} :
    (lowerProgram sources).Clean depth ↔
      (Types.ofPrograms sources).Clean depth ∧
        (∀ file definition, (file, definition) ∈ declarations sources →
          (headerIn sources file definition).Clean depth) ∧
        ∀ file definition, (file, definition) ∈ declarations sources →
          (loweredIn sources file definition).Clean depth := by
  simp only [lowerProgram, Logged.clean_bind_iff, Logged.clean_each_iff, Logged.value_each,
    Logged.clean_pure, and_true, List.forall_mem_map, Prod.forall]
  exact Iff.rfl

end Resolution

end Throws
