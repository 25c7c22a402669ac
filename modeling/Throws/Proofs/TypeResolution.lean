import Throws.Proofs.LoweredProgram
import Throws.Proofs.SyntaxInduction

/-!
# What types are resolved to

One equation for each function that resolves types says what it makes of its parts. Tables of types
come from declarations one after the other, where a name that is taken already is an error. A
program without such errors has all of its aliases in its table, each once.

The table is used through three questions: is a name an exception, what does an alias stand for, and
how many aliases are there. Tables that agree on these resolve everything in the same way
(`Types.Agree`).
-/

namespace Throws.Resolution

open Throws.Surface

/-! ## Spellings -/

/-- The type with the given qualifiers added. A function type takes none. -/
def Ty.qualify (isConst isVolatile isRef : Bool) : Ty → Ty
  | .value base => .value {
      name := base.name
      isConst := base.isConst || isConst
      isVolatile := base.isVolatile || isVolatile
      isRef := base.isRef || isRef }
  | .function params contract => .function params contract

/-- The contract of a function type with the given specifier. -/
def functionContract (specifier : Specifier) : Contract :=
  if specifier.isConflicting then .undeclared else specifier.meaning

section Spellings

variable (lookup : Lookup) (file : String)

/-- A thrown type is named by what the name stands for. -/
theorem value_resolveThrown (span : Span) (name : String) :
    (resolveThrown lookup span name).value =
      ((lookup name span).value.value?.map (·.name)).getD name := by
  rw [resolveThrown, Logged.value_below, Logged.value_bind]
  cases (lookup name span).value <;> rfl

/-- Clauses name what their names stand for. -/
theorem value_resolveClauses (clauses : Clauses Pos) :
    (resolveClauses lookup file clauses).value = {
      throws := clauses.throws.map fun names => names.map fun name =>
        (resolveThrown lookup (spanAt? file clauses.loc) name).value
      wildcard := clauses.wildcard
      noexcept := clauses.noexcept
      span := spanAt? file clauses.loc } := by
  obtain ⟨throws, wildcard, noexcept, loc⟩ := clauses
  cases throws with
  | none => rfl
  | some names =>
    rw [Option.map_some, ← Logged.value_each]
    rfl

/-- A name stands for a type, with the qualifiers on top. -/
theorem value_resolveType_named (name : String) (isConst isVolatile isRef : Bool) (loc : Pos) :
    (resolveType lookup file (.named name isConst isVolatile isRef loc)).value =
      (lookup name (spanAt file loc)).value.qualify isConst isVolatile isRef := by
  rw [resolveType, Logged.value_below, Logged.value_bind]
  cases (lookup name (spanAt file loc)).value with
  | value base => rfl
  | function params contract =>
    cases isConst <;> cases isVolatile <;> cases isRef <;> rfl

/-- Types in a row are resolved one by one. -/
theorem resolveAll_eq_each (types : List (TypeExpr Pos)) :
    resolveAll lookup file types = Logged.each (resolveType lookup file) types := by
  induction types with
  | nil => rfl
  | cons type rest ih => rw [resolveAll, Logged.each, ih]

/-- They stand for what each of them stands for. -/
theorem value_resolveAll (types : List (TypeExpr Pos)) :
    (resolveAll lookup file types).value =
      types.map fun type => (resolveType lookup file type).value := by
  rw [resolveAll_eq_each, Logged.value_each]

/-- A function type is made of what its parameters and clauses stand for. -/
theorem value_resolveType_function (params : List (TypeExpr Pos)) (clauses : Clauses Pos)
    (loc : Pos) :
    (resolveType lookup file (.function params clauses loc)).value =
      .function (params.map fun param => (resolveType lookup file param).value)
        (functionContract (resolveClauses lookup file clauses).value) := by
  rw [resolveType, ← value_resolveAll, functionContract]
  simp only [Logged.value_below, Logged.value_bind]
  split <;> rfl

end Spellings

/-! ## Tables of types -/

/-- The declarations of aliases with their files. -/
def aliasDefs (sources : List (String × Program Pos)) : List (String × AliasDef Pos) :=
  sources.flatMap fun source => source.2.aliases.map (source.1, ·)

/-- The names of the exceptions that are declared. -/
def exceptionNames (sources : List (String × Program Pos)) : List String :=
  sources.flatMap fun source => source.2.exceptions.map (·.name)

/-- The entry of an alias in a table. -/
def aliasEntry (declared : String × AliasDef Pos) : String × AliasTarget :=
  (declared.2.name, ⟨declared.2.target, declared.1⟩)

namespace Types

variable {types : Types} {depth : Option Nat}

/-- Declaring an alias reports nothing if its name is free. -/
theorem clean_declare_iff {file : String} {definition : AliasDef Pos} :
    (types.declare file definition).Clean depth ↔ types.isTaken definition.name = false := by
  unfold declare
  cases types.isTaken definition.name <;> simp

/-- An alias is added if its name is free. -/
theorem value_declare (types : Types) (file : String) (definition : AliasDef Pos) :
    (types.declare file definition).value =
      if types.isTaken definition.name then types
      else { types with aliases := types.aliases ++ [aliasEntry (file, definition)] } := by
  unfold declare
  split <;> rfl

/-- Adding an alias takes its name and no other. -/
theorem isTaken_append (types : Types) (declared : String × AliasDef Pos) (name : String) :
    ({ types with aliases := types.aliases ++ [aliasEntry declared] } : Types).isTaken name =
      (types.isTaken name || name == declared.2.name) := by
  simp only [isTaken, isBase, alias?, aliasEntry, List.lookup_append, List.lookup_cons]
  cases types.aliases.lookup name <;> cases name == declared.2.name <;> simp

/-- Declaring aliases adds no exceptions. -/
theorem exceptions_declareAll (types : Types) (definitions : List (String × AliasDef Pos)) :
    (types.declareAll definitions).value.exceptions = types.exceptions := by
  induction definitions generalizing types with
  | nil => rfl
  | cons declared rest ih =>
    rw [declareAll, Logged.value_bind, ih, value_declare]
    split <;> rfl

/-- Only declarations put aliases into a table. -/
theorem mem_aliases_declareAll {definitions : List (String × AliasDef Pos)}
    {entry : String × AliasTarget} (h : entry ∈ (types.declareAll definitions).value.aliases) :
    entry ∈ types.aliases ∨ ∃ declared ∈ definitions, aliasEntry declared = entry := by
  induction definitions generalizing types with
  | nil => exact .inl h
  | cons declared rest ih =>
    rw [declareAll, Logged.value_bind, value_declare] at h
    rcases ih h with hmem | ⟨other, hother, heq⟩
    · split at hmem
      · exact .inl hmem
      · rcases List.mem_append.mp hmem with hmem | hmem
        · exact .inl hmem
        · exact .inr ⟨declared, List.mem_cons_self, (List.mem_singleton.mp hmem).symm⟩
    · exact .inr ⟨other, List.mem_cons_of_mem _ hother, heq⟩

/-- Aliases are declared without an error if none of their names is taken, neither before nor by
another one of them. -/
theorem clean_declareAll_iff {definitions : List (String × AliasDef Pos)} :
    (types.declareAll definitions).Clean depth ↔
      (∀ declared ∈ definitions, types.isTaken declared.2.name = false) ∧
        (definitions.map (·.2.name)).Nodup := by
  induction definitions generalizing types with
  | nil => simp [declareAll]
  | cons declared rest ih =>
    rw [declareAll, Logged.clean_bind_iff, clean_declare_iff, value_declare,
      List.forall_mem_cons, List.map_cons, List.nodup_cons]
    -- From here on the name of the first alias is taken too.
    by_cases hfree : types.isTaken declared.2.name = true
    · simp [hfree]
    · rw [if_neg hfree, ih]
      simp only [isTaken_append, Bool.or_eq_false_iff, beq_eq_false_iff_ne, List.mem_map,
        not_exists, not_and]
      grind

/-- A table without errors has all aliases that were declared. -/
theorem aliases_declareAll {definitions : List (String × AliasDef Pos)}
    (h : (types.declareAll definitions).Clean depth) :
    (types.declareAll definitions).value.aliases = types.aliases ++ definitions.map aliasEntry := by
  induction definitions generalizing types with
  | nil => exact (List.append_nil _).symm
  | cons declared rest ih =>
    rw [declareAll, Logged.clean_bind_iff, clean_declare_iff] at h
    obtain ⟨hfree, hrest⟩ := h
    rw [declareAll, Logged.value_bind, ih hrest, value_declare, hfree]
    simp

/-- An alias that is found is in the table. -/
theorem mem_aliases_of_alias? {name : String} {target : AliasTarget}
    (h : types.alias? name = some target) : (name, target) ∈ types.aliases := by
  obtain ⟨before, after, heq, _⟩ := List.lookup_eq_some_iff.mp h
  exact heq ▸ List.mem_append_right _ List.mem_cons_self

/-- What holds of names that stand for themselves, and passes from the names in the target of an
alias to the alias, holds of whatever a name is resolved to. -/
theorem follow_induction {motive : String → Ty → Prop}
    (hplain : ∀ name, motive name (.plain name))
    (halias : ∀ lookup : Lookup, (∀ name span, motive name (lookup name span).value) →
      ∀ name target, (name, target) ∈ types.aliases →
        motive name (resolveType lookup target.file target.type).value)
    (count : Nat) (following : List String) (name : String) (span : Span) :
    motive name (types.follow count following name span).value := by
  -- The names in the target are followed with a smaller count.
  induction count generalizing following name span with
  | zero =>
    rw [follow, Logged.value_below]
    split
    · exact hplain name
    · split
      · exact hplain name
      · split <;> exact hplain name
  | succ count ih =>
    rw [follow, Logged.value_below]
    split
    · exact hplain name
    · split
      case h_1 => exact hplain name
      case h_2 target htarget =>
        split
        · exact hplain name
        · exact halias _ (ih _) name target (mem_aliases_of_alias? htarget)

end Types

section Programs

variable {sources : List (String × Program Pos)} {depth : Option Nat}

/-- The exceptions of a program are those that are declared. -/
@[simp]
theorem exceptions_programTypes (sources : List (String × Program Pos)) :
    (programTypes sources).exceptions = exceptionNames sources :=
  Types.exceptions_declareAll _ _

/-- The aliases of a program are among those that are declared. -/
theorem mem_aliases_programTypes {entry : String × AliasTarget}
    (h : entry ∈ (programTypes sources).aliases) :
    ∃ declared ∈ aliasDefs sources, aliasEntry declared = entry :=
  (Types.mem_aliases_declareAll h).resolve_left List.not_mem_nil

/-- The types of a program are declared without an error if no alias has the name of an exception or
of a type that is built in, and no two aliases have the same name. -/
theorem clean_ofPrograms_iff :
    (Types.ofPrograms sources).Clean depth ↔
      (∀ declared ∈ aliasDefs sources, declared.2.name ∉ exceptionNames sources ∧
        declared.2.name ∉ builtins) ∧
        ((aliasDefs sources).map (·.2.name)).Nodup := by
  have hfree : ∀ name, ({ exceptions := exceptionNames sources } : Types).isTaken name = false ↔
      name ∉ exceptionNames sources ∧ name ∉ builtins := by
    intro name
    simp [Types.isTaken, Types.isBase, Types.alias?]
  simp only [← hfree]
  exact Types.clean_declareAll_iff

/-- They are all of those that are declared if nothing is reported. -/
theorem aliases_programTypes (h : (Types.ofPrograms sources).Clean depth) :
    (programTypes sources).aliases = (aliasDefs sources).map aliasEntry :=
  Types.aliases_declareAll h

/-- In a program without errors an alias stands for what it was declared to. -/
theorem alias?_programTypes_eq_some_iff (h : (Types.ofPrograms sources).Clean depth) {name : String}
    {target : AliasTarget} :
    (programTypes sources).alias? name = some target ↔
      ∃ declared ∈ aliasDefs sources, aliasEntry declared = (name, target) := by
  obtain ⟨_, hnodup⟩ := clean_ofPrograms_iff.mp h
  constructor
  · exact fun halias => mem_aliases_programTypes (Types.mem_aliases_of_alias? halias)
  · rintro ⟨declared, hmem, heq⟩
    obtain ⟨before, after, hsplit⟩ := List.append_of_mem hmem
    rw [Types.alias?, aliases_programTypes h, List.lookup_eq_some_iff]
    refine ⟨before.map aliasEntry, after.map aliasEntry, by rw [hsplit]; simp [heq], ?_⟩
    -- No alias before this one has its name.
    intro entry hentry
    obtain ⟨other, hother, rfl⟩ := List.mem_map.mp hentry
    rw [hsplit, List.map_append, List.map_cons, List.nodup_append] at hnodup
    have hne := hnodup.2.2 other.2.name (List.mem_map.mpr ⟨other, hother, rfl⟩) declared.2.name
      List.mem_cons_self
    obtain rfl : declared.2.name = name := congrArg Prod.fst heq
    simpa [bne_iff_ne, aliasEntry] using Ne.symm hne

end Programs

/-! ## Tables that agree -/

/-- Tables that answer all questions about types in the same way. -/
structure Types.Agree (types types' : Types) : Prop where
  /-- The same names denote exceptions. -/
  contains_eq : ∀ name, types.exceptions.contains name = types'.exceptions.contains name
  /-- The same names denote aliases, and they stand for the same. -/
  alias?_eq : ∀ name, types.alias? name = types'.alias? name
  /-- There are as many aliases. -/
  length_eq : types.aliases.length = types'.aliases.length

namespace Types.Agree

variable {types types' : Types} (h : types.Agree types')

include h

/-- The same names stand for themselves. -/
theorem isBase_eq (name : String) : types.isBase name = types'.isBase name := by
  rw [isBase, isBase, h.contains_eq]

/-- Names are followed to the same type. -/
theorem follow_eq (count : Nat) (following : List String) :
    types.follow count following = types'.follow count following := by
  induction count generalizing following with
  | zero =>
    funext name span
    rw [follow, follow, h.isBase_eq, h.alias?_eq]
  | succ count ih =>
    funext name span
    rw [follow, follow]
    simp only [h.isBase_eq, h.alias?_eq, ih]

/-- Names stand for the same types. -/
theorem lookup_eq : types.lookup = types'.lookup := by
  rw [lookup, lookup, h.length_eq, h.follow_eq]

/-- Spellings stand for the same types. -/
theorem resolve_eq : types.resolve = types'.resolve := by
  funext file type
  rw [resolve, resolve, h.lookup_eq]

/-- The same names are exceptions. -/
theorem exception?_eq : types.exception? = types'.exception? := by
  funext name
  simp only [exception?, h.contains_eq, h.alias?_eq, h.resolve_eq]

/-- Functions have the same signatures. -/
theorem header_eq : Header.resolve types = Header.resolve types' := by
  funext file definition
  simp only [Header.resolve, annotate, h.resolve_eq, h.lookup_eq]

end Types.Agree

end Throws.Resolution
