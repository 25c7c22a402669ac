import Throws.Proofs.CleanResolution

/-!
# Unfolding aliases in types

An alias may be replaced by what it stands for. In a type the qualifiers that are written on the
alias go to its target (`TypeUnfolds`); a `throws` clause lists names only, so there an alias is
replaced by the name that its target spells (`NameUnfolds`). Any number of aliases may be replaced,
also those in what was put in for one, and locations may change at the same time.

The tables of two programs in which aliases have been unfolded resolve related types to the same
type (`Types.Unfolds.unfolding`). The bookkeeping of `Types.follow` is not the same on both sides:
where an alias has been replaced, one side counts it among those that are being followed and the
other does not. What has to be kept is that the second side follows no alias that the first side
does not follow, and that both sides can still follow all others.
-/

namespace Throws

/-- The specifier without its span. -/
def Specifier.unplaced (specifier : Specifier) : Specifier := { specifier with span := {} }

theorem Specifier.isConflicting_unplaced (specifier : Specifier) :
    specifier.unplaced.isConflicting = specifier.isConflicting :=
  rfl

theorem Specifier.meaning_unplaced (specifier : Specifier) :
    specifier.unplaced.meaning = specifier.meaning :=
  rfl

namespace Resolution

open Throws.Surface Logged

/-- A type with qualifiers added to those that are written. A function type takes none. -/
def qualified (isConst isVolatile isRef : Bool) : TypeExpr Pos → TypeExpr Pos
  | .named name isConst' isVolatile' isRef' loc =>
    .named name (isConst' || isConst) (isVolatile' || isVolatile) (isRef' || isRef) loc
  | .function params clauses loc => .function params clauses loc

/-- Aliases in a `throws` clause are replaced by the names that their targets spell. -/
inductive NameUnfolds (types : Types) : String → String → Prop
  | refl (name : String) : NameUnfolds types name name
  | replaced {name other name' : String} {target : AliasTarget} {isConst isVolatile isRef : Bool}
      {loc : Pos} : types.alias? name = some target →
      target.type = .named other isConst isVolatile isRef loc → NameUnfolds types other name' →
      NameUnfolds types name name'

/-- Aliases in exception clauses are unfolded. -/
structure ClausesUnfold (types : Types) (clauses clauses' : Clauses Pos) : Prop where
  /-- Listed names are unfolded one by one. -/
  throws : Option.Rel (List.Forall₂ (NameUnfolds types)) clauses.throws clauses'.throws
  /-- `...` is listed in both or in none. -/
  wildcard_eq : clauses.wildcard = clauses'.wildcard
  /-- `noexcept` is written in both or in none. -/
  noexcept_eq : clauses.noexcept = clauses'.noexcept

/-- Aliases in a type are unfolded. -/
inductive TypeUnfolds (types : Types) : TypeExpr Pos → TypeExpr Pos → Prop
  | named {name : String} {isConst isVolatile isRef : Bool} {loc loc' : Pos} :
      TypeUnfolds types (.named name isConst isVolatile isRef loc)
        (.named name isConst isVolatile isRef loc')
  | replaced {name : String} {isConst isVolatile isRef : Bool} {loc : Pos} {target : AliasTarget}
      {type' : TypeExpr Pos} : types.alias? name = some target →
      TypeUnfolds types (qualified isConst isVolatile isRef target.type) type' →
      TypeUnfolds types (.named name isConst isVolatile isRef loc) type'
  | function {params params' : List (TypeExpr Pos)} {clauses clauses' : Clauses Pos}
      {loc loc' : Pos} : List.Forall₂ (TypeUnfolds types) params params' →
      ClausesUnfold types clauses clauses' →
      TypeUnfolds types (.function params clauses loc) (.function params' clauses' loc')

/-! ## One step -/

namespace Logged.Transfers

variable {α β : Type} {related : α → β → Prop}

theorem refl (logged : Logged α) : Transfers Eq logged logged := fun _ hclean => ⟨hclean, rfl⟩

/-- What transfers without a change can be put in front. -/
theorem trans {first second : Logged α} {third : Logged β} (h : Transfers Eq first second)
    (h' : Transfers related second third) : Transfers related first third := by
  intro depth hclean
  obtain ⟨hsecond, heq⟩ := h depth hclean
  rw [heq]
  exact h' depth hsecond

end Logged.Transfers

theorem value_addQualifiers (isConst isVolatile isRef : Bool) (problem : Diagnostic) (type : Ty) :
    (addQualifiers isConst isVolatile isRef problem type).value =
      type.qualify isConst isVolatile isRef := by
  cases type with
  | value base => rfl
  | function params contract => cases isConst <;> cases isVolatile <;> cases isRef <;> rfl

/-- Qualifiers that are added one after the other may be added at once. -/
theorem transfers_addQualifiers (first : Logged Ty) (isConst isVolatile isRef : Bool)
    (isConst' isVolatile' isRef' : Bool) (problem problem' problem'' : Diagnostic) :
    Transfers Eq
      ((first >>= addQualifiers isConst isVolatile isRef problem) >>=
        addQualifiers isConst' isVolatile' isRef' problem')
      (first >>= addQualifiers (isConst || isConst') (isVolatile || isVolatile')
        (isRef || isRef') problem'') := by
  intro depth hclean
  obtain ⟨hboth, houter⟩ := clean_bind_iff.mp hclean
  obtain ⟨hfirst, hinner⟩ := clean_bind_iff.mp hboth
  rw [clean_bind_iff, value_bind, value_bind, value_bind]
  rw [value_bind] at houter
  cases hvalue : first.value with
  | value base =>
    refine ⟨⟨hfirst, clean_pure _⟩, ?_⟩
    simp [addQualifiers, Ty.qualify, Bool.or_assoc]
  | function params contract =>
    -- Neither step has reported anything, so there are no qualifiers at all.
    rw [hvalue] at hinner houter
    cases isConst <;> cases isVolatile <;> cases isRef <;>
      simp [addQualifiers] at hinner
    cases isConst' <;> cases isVolatile' <;> cases isRef' <;>
      simp [addQualifiers] at houter
    exact ⟨⟨hfirst, clean_pure _⟩, rfl⟩

/-- How qualifiers are reported makes no difference where nothing is reported. -/
theorem transfers_addQualifiers_problem (isConst isVolatile isRef : Bool)
    (problem problem' : Diagnostic) (type : Ty) :
    Transfers Eq (addQualifiers isConst isVolatile isRef problem type)
      (addQualifiers isConst isVolatile isRef problem' type) := by
  cases type with
  | value base => exact .refl _
  | function params contract =>
    rw [addQualifiers, addQualifiers]
    split
    · exact .report
    · exact .refl _

/-- The qualifiers that are written on an alias may be written on its target. -/
theorem transfers_qualified (lookup : Lookup) (file : String) (isConst isVolatile isRef : Bool)
    (problem : Diagnostic) (type : TypeExpr Pos) :
    Transfers Eq
      (.below 1 (.below 1 (resolveType lookup file type) >>=
        addQualifiers isConst isVolatile isRef problem))
      (resolveType lookup file (qualified isConst isVolatile isRef type)) := by
  cases type with
  | named name isConst' isVolatile' isRef' loc =>
    rw [qualified, resolveType_named, resolveType_named]
    -- The target lies deeper than what takes its place.
    refine .below (.trans (.bind (.below_left (.below_left (.refl _))) ?_)
      (transfers_addQualifiers _ _ _ _ _ _ _
        ((Problem.qualifiedFunction name).report (spanAt file loc)) problem _))
    rintro type _ rfl
    exact .refl _
  | function params clauses loc =>
    intro depth hclean
    obtain ⟨htarget, -⟩ := clean_bind_iff.mp hclean.of_below
    refine ⟨htarget.of_below, ?_⟩
    rw [value_below, value_bind, value_below, qualified, value_addQualifiers,
      value_resolveType_function, Ty.qualify]

/-- An alias in a type may be replaced by its target. -/
theorem transfers_alias {types : Types} {count : Nat} {following : List String}
    (henough : types.Enough count following) {name : String} {target : AliasTarget}
    (htarget : types.alias? name = some target) (hbase : types.isBase name = false)
    (file : String) (isConst isVolatile isRef : Bool) (loc : Pos) {result : Logged Ty}
    (hrest : ∀ left, left < count → types.Enough left (name :: following) →
      Transfers Eq (resolveType (types.follow left (name :: following)) target.file
        (qualified isConst isVolatile isRef target.type)) result) :
    Transfers Eq (resolveType (types.follow count following) file
      (.named name isConst isVolatile isRef loc)) result := by
  rw [resolveType_named]
  rcases Types.follow_cases henough name (spanAt file loc) with ⟨htrue, -⟩ |
    ⟨target', left, -, htarget', -, hlt, hleft, heq⟩ | ⟨problem, heq⟩
  · rw [hbase] at htrue
    cases htrue
  · obtain rfl : target = target' := Option.some.inj (htarget.symm.trans htarget')
    rw [heq]
    exact (transfers_qualified _ _ _ _ _ _ _).trans (hrest left hlt hleft)
  · intro depth hclean
    rw [heq] at hclean
    obtain ⟨hlookup, -⟩ := clean_bind_iff.mp hclean.of_below
    exact absurd (clean_bind_iff.mp hlookup.of_below).1 (not_clean_report _)

/-- The name of a type in a `throws` clause. -/
def thrownName (name : String) (span : Span) : Ty → Logged String
  | .value type => return type.name
  | .function _ _ => do
    .report ((Problem.thrownFunction name).report span)
    return name

theorem resolveThrown_eq (lookup : Lookup) (span : Span) (name : String) :
    resolveThrown lookup span name = .below 1 (lookup name span >>= thrownName name span) := by
  rw [resolveThrown]
  refine congrArg (Logged.below 1) (bind_congr fun type => ?_)
  cases type <;> rfl

/-- Qualifiers make no difference in a `throws` clause, nor does the name under which a type is
found. -/
theorem transfers_thrownName (first : Logged Ty) (isConst isVolatile isRef : Bool)
    (problem : Diagnostic) (name name' : String) (span span' : Span) :
    Transfers Eq
      ((first >>= addQualifiers isConst isVolatile isRef problem) >>= thrownName name span)
      (first >>= thrownName name' span') := by
  intro depth hclean
  obtain ⟨hboth, hthrown⟩ := clean_bind_iff.mp hclean
  have hfirst := (clean_bind_iff.mp hboth).1
  rw [value_bind, value_addQualifiers] at hthrown
  rw [clean_bind_iff, value_bind, value_bind, value_bind, value_addQualifiers]
  cases hvalue : first.value with
  | value base => exact ⟨⟨hfirst, clean_pure _⟩, rfl⟩
  | function params contract =>
    rw [hvalue] at hthrown
    exact absurd (clean_bind_iff.mp hthrown).1 (not_clean_report _)

/-- An alias in a `throws` clause may be replaced by the name that its target spells. -/
theorem transfers_alias_thrown {types : Types} {count : Nat} {following : List String}
    (henough : types.Enough count following) {name other : String} {target : AliasTarget}
    (htarget : types.alias? name = some target) (hbase : types.isBase name = false)
    {isConst isVolatile isRef : Bool} {loc : Pos}
    (hother : target.type = .named other isConst isVolatile isRef loc) (span : Span)
    {result : Logged String}
    (hrest : ∀ left, left < count → types.Enough left (name :: following) →
      Transfers Eq (resolveThrown (types.follow left (name :: following))
        (spanAt target.file loc) other) result) :
    Transfers Eq (resolveThrown (types.follow count following) span name) result := by
  rcases Types.follow_cases henough name span with ⟨htrue, -⟩ |
    ⟨target', left, -, htarget', -, hlt, hleft, heq⟩ | ⟨problem, heq⟩
  · rw [hbase] at htrue
    cases htrue
  · obtain rfl : target = target' := Option.some.inj (htarget.symm.trans htarget')
    refine .trans ?_ (hrest left hlt hleft)
    rw [resolveThrown_eq, resolveThrown_eq, heq, hother, resolveType_named]
    refine .below (.trans (.bind (.below_left (.below_left (.refl _))) ?_)
      (transfers_thrownName _ isConst isVolatile isRef
        ((Problem.qualifiedFunction other).report (spanAt target.file loc)) name _ span _))
    rintro type _ rfl
    exact .refl _
  · intro depth hclean
    rw [resolveThrown, heq] at hclean
    obtain ⟨hlookup, -⟩ := clean_bind_iff.mp hclean.of_below
    exact absurd (clean_bind_iff.mp hlookup.of_below).1 (not_clean_report _)

/-! ## Whole types -/

/-- Two ways to look up names that agree, where nothing is reported, on what unfolds to what. -/
structure Unfolding (types : Types) (lookup lookup' : Lookup) : Prop where
  /-- They agree on names with qualifiers. -/
  named : ∀ {name : String} {isConst isVolatile isRef : Bool} {loc : Pos} {type' : TypeExpr Pos},
    TypeUnfolds types (.named name isConst isVolatile isRef loc) type' → ∀ file file' : String,
      Transfers Eq (resolveType lookup file (.named name isConst isVolatile isRef loc))
        (resolveType lookup' file' type')
  /-- They agree on names in `throws` clauses. -/
  thrown : ∀ {name name' : String}, NameUnfolds types name name' → ∀ span span' : Span,
    Transfers Eq (resolveThrown lookup span name) (resolveThrown lookup' span' name')

/-- Clauses come to the same specifier, up to where they stand. -/
theorem Unfolding.clauses {types : Types} {lookup lookup' : Lookup}
    (h : Unfolding types lookup lookup') {clauses clauses' : Clauses Pos}
    (hclauses : ClausesUnfold types clauses clauses') (file file' : String) :
    Transfers (fun specifier specifier' => specifier.unplaced = specifier'.unplaced)
      (resolveClauses lookup file clauses) (resolveClauses lookup' file' clauses') := by
  obtain ⟨throws, wildcard, noexcept, loc⟩ := clauses
  obtain ⟨throws', wildcard', noexcept', loc'⟩ := clauses'
  obtain ⟨hthrows, rfl, rfl⟩ := hclauses
  have hlisted : Transfers Eq (resolveListed lookup (spanAt? file loc) throws)
      (resolveListed lookup' (spanAt? file' loc') throws') := by
    cases hthrows with
    | none => exact .refl _
    | @some names names' hnames =>
      have heach : Transfers (List.Forall₂ Eq)
          (Logged.each (resolveThrown lookup (spanAt? file loc)) names)
          (Logged.each (resolveThrown lookup' (spanAt? file' loc')) names') :=
        .each (hnames.imp fun name name' hname => h.thrown hname _ _)
      exact heach.below.map fun found found' hfound =>
        congrArg some (List.forall₂_eq_eq_eq ▸ hfound)
  rw [resolveClauses_eq, resolveClauses_eq]
  refine .below (hlisted.bind ?_)
  rintro found _ rfl
  exact .pure rfl

/-- Related types in a row come to the same types if each of them does. -/
theorem transfers_resolveAll {types : Types} {lookup lookup' : Lookup} {file file' : String}
    {written written' : List (TypeExpr Pos)}
    (h : ∀ type ∈ written, ∀ type', TypeUnfolds types type type' →
      Transfers Eq (resolveType lookup file type) (resolveType lookup' file' type'))
    (hwritten : List.Forall₂ (TypeUnfolds types) written written') :
    Transfers Eq (resolveAll lookup file written) (resolveAll lookup' file' written') := by
  have hall := Transfers.each_of_alike h hwritten
  rwa [List.forall₂_eq_eq_eq, ← resolveAll_eq_each, ← resolveAll_eq_each] at hall

/-- Related types come to the same type. -/
theorem Unfolding.type {types : Types} {lookup lookup' : Lookup}
    (h : Unfolding types lookup lookup') (file file' : String) (type : TypeExpr Pos)
    {type' : TypeExpr Pos} (htype : TypeUnfolds types type type') :
    Transfers Eq (resolveType lookup file type) (resolveType lookup' file' type') := by
  induction type using TypeExpr.induction generalizing type' with
  | named name isConst isVolatile isRef loc => exact h.named htype file file'
  | function params clauses loc ih =>
    cases htype with
    | function hparams hclauses =>
      rw [resolveType, resolveType]
      refine .below (.bind (.below (transfers_resolveAll (fun param hmem _ => ih param hmem)
        hparams)) ?_)
      rintro found _ rfl
      refine (h.clauses hclauses file file').bind fun specifier specifier' hspecifier => ?_
      -- Spans aside the specifiers are the same, and a conflict has nothing to do with spans.
      have hconflict : specifier.unplaced.isConflicting = specifier'.unplaced.isConflicting :=
        congrArg Specifier.isConflicting hspecifier
      have hmeaning : specifier.unplaced.meaning = specifier'.unplaced.meaning :=
        congrArg Specifier.meaning hspecifier
      rw [Specifier.isConflicting_unplaced, Specifier.isConflicting_unplaced] at hconflict
      rw [Specifier.meaning_unplaced, Specifier.meaning_unplaced] at hmeaning
      rw [hconflict, hmeaning]
      split
      · exact .report
      · exact .refl _

/-! ## Tables of types -/

/-- Tables that have the same exceptions and the same aliases, the targets of which may be unfolded.
In the first one no alias hides a name that stands for itself. -/
structure Types.Unfolds (types types' : Types) : Prop where
  /-- The same names denote exceptions. -/
  contains_eq : ∀ name, types.exceptions.contains name = types'.exceptions.contains name
  /-- The same names denote aliases, and their targets are related. -/
  target : ∀ name, Option.Rel (fun target target' => TypeUnfolds types target.type target'.type)
    (types.alias? name) (types'.alias? name)
  /-- An alias does not stand for itself. -/
  isBase_eq_false : ∀ {name target}, types.alias? name = some target → types.isBase name = false

namespace Types.Unfolds

variable {types types' : Types} (h : types.Unfolds types')

include h

theorem isBase_eq (name : String) : types.isBase name = types'.isBase name := by
  rw [isBase, isBase, h.contains_eq]

theorem exists_target {name : String} {target : AliasTarget}
    (htarget : types.alias? name = some target) :
    ∃ target', types'.alias? name = some target' ∧ TypeUnfolds types target.type target'.type := by
  have hrel := h.target name
  rw [htarget] at hrel
  cases hother : types'.alias? name with
  | none =>
    rw [hother] at hrel
    cases hrel
  | some target' =>
    rw [hother] at hrel
    cases hrel with
    | some htype => exact ⟨target', rfl, htype⟩

/-- A name that is not replaced is followed to the same type. -/
theorem transfers_follow {count count' : Nat} {following following' : List String}
    (henough : types.Enough count following) (henough' : types'.Enough count' following')
    (hsubset : following' ⊆ following)
    (hrest : ∀ left left' name, left < count → types.Enough left (name :: following) →
      types'.Enough left' (name :: following') →
      Unfolding types (types.follow left (name :: following))
        (types'.follow left' (name :: following')))
    (name : String) (span span' : Span) :
    Transfers Eq (types.follow count following name span)
      (types'.follow count' following' name span') := by
  rcases follow_cases henough name span with ⟨hbase, heq⟩ |
    ⟨target, left, hbase, htarget, hnew, hlt, hleft, heq⟩ | ⟨problem, heq⟩ <;> rw [heq]
  · rw [follow_of_isBase (h.isBase_eq name ▸ hbase)]
    exact .refl _
  · obtain ⟨target', htarget', htype⟩ := h.exists_target htarget
    obtain ⟨left', -, hleft', heq'⟩ := follow_of_alias henough' htarget' (h.isBase_eq name ▸ hbase)
      (fun hmem => hnew (hsubset hmem)) span'
    rw [heq']
    exact .below ((hrest left left' name hlt hleft hleft').type _ _ _ htype)
  · exact .below_left .report

/-- Following names in two tables in one of which aliases are unfolded. -/
theorem unfolding_follow {count count' : Nat} {following following' : List String}
    (henough : types.Enough count following) (henough' : types'.Enough count' following')
    (hsubset : following' ⊆ following) :
    Unfolding types (types.follow count following) (types'.follow count' following') := by
  induction count using Nat.strongRecOn generalizing count' following following' with
  | _ count ih =>
    have hfollow := h.transfers_follow henough henough' hsubset
      fun left left' name hlt hleft hleft' =>
        ih left hlt hleft hleft' (List.cons_subset_cons name hsubset)
    constructor
    · intro name isConst isVolatile isRef loc type' htype file file'
      cases htype with
      | named =>
        rw [resolveType_named, resolveType_named]
        refine .below ((hfollow name _ _).bind ?_)
        rintro type _ rfl
        exact transfers_addQualifiers_problem _ _ _ _ _ type
      | replaced htarget htype =>
        -- The second side has no alias to follow here.
        exact transfers_alias henough htarget (h.isBase_eq_false htarget) file _ _ _ _
          fun left hlt hleft => (ih left hlt hleft henough'
            (fun other hother => List.mem_cons_of_mem _ (hsubset hother))).type _ _ _ htype
    · intro name name' hname span span'
      cases hname with
      | refl =>
        rw [resolveThrown_eq, resolveThrown_eq]
        refine .below ((hfollow name _ _).bind ?_)
        rintro type _ rfl
        cases type with
        | value type => exact .refl _
        | function params contract => exact .report
      | replaced htarget hother hname =>
        exact transfers_alias_thrown henough htarget (h.isBase_eq_false htarget) hother span
          fun left hlt hleft => (ih left hlt hleft henough'
            (fun other hother => List.mem_cons_of_mem _ (hsubset hother))).thrown hname _ _

/-- Related types are resolved to the same type. -/
theorem unfolding : Unfolding types types.lookup types'.lookup :=
  h.unfolding_follow types.enough_length types'.enough_length (List.Subset.refl _)

end Types.Unfolds

end Resolution

end Throws
