import Mathlib.Logic.Relation
import Throws.Proofs.CleanResolution

/-!
# What resolution reaches

A type mentions names, an alias among them leads to its target, and the target mentions names in
turn. Resolution goes along all of these ways, and it reports something exactly if there is a defect
on one of them. The notions for this look at the written types only:

* `Types.Uses name other`: the target of the alias `name` mentions `other`.
* `Types.Reaches type name`: the name is mentioned in the type, or aliases lead to it from there.
* `Types.Visits type visited`: the type itself, and the targets of the aliases that it reaches.
* `Types.IsFunctionAlias name`: aliases lead from the name to a function type.
* `Types.Grounded name`: whatever aliases are followed from the name, in the end there are names
  that stand for themselves.
* `Types.Defectless type`: there is no defect in what is reached from the type.

Nothing is reported for a type if and only if it is defectless (`Types.log_resolve_eq_nil_iff`).
Where nothing is reported all names are grounded, since a name that is being followed is never
followed again (`Types.grounded_of_log_follow`). The other way round, what is being followed leads
to every name that is met, so that a name which is met again would be on a cycle.
-/

namespace Throws

namespace Surface

variable {ι : Type}

/-- Whether clauses have both `noexcept` and `throws`. -/
def Clauses.contradict (clauses : Clauses ι) : Bool :=
  clauses.noexcept && (clauses.throws.isSome || clauses.wildcard)

mutual

/-- The types that are written in a type, the type itself first. -/
def TypeExpr.parts : TypeExpr ι → List (TypeExpr ι)
  | .named name isConst isVolatile isRef loc => [.named name isConst isVolatile isRef loc]
  | .function params clauses loc => .function params clauses loc :: partsOfTypes params

/-- The types that are written in several types. -/
def partsOfTypes : List (TypeExpr ι) → List (TypeExpr ι)
  | [] => []
  | type :: rest => type.parts ++ partsOfTypes rest

end

theorem mem_partsOfTypes {types : List (TypeExpr ι)} {part : TypeExpr ι} :
    part ∈ partsOfTypes types ↔ ∃ type ∈ types, part ∈ type.parts := by
  have hparts : partsOfTypes types = types.flatMap TypeExpr.parts :=
    eq_flatMap_of_cons rfl (fun _ _ => rfl) types
  rw [hparts, List.mem_flatMap]

theorem forall_mem_parts_function {params : List (TypeExpr ι)} {clauses : Clauses ι} {loc : ι}
    {p : TypeExpr ι → Prop} :
    (∀ part ∈ (TypeExpr.function params clauses loc).parts, p part) ↔
      p (.function params clauses loc) ∧ ∀ param ∈ params, ∀ part ∈ param.parts, p part := by
  rw [TypeExpr.parts, List.forall_mem_cons]
  refine and_congr_right fun _ => ⟨fun h param hparam part hpart => ?_, fun h part hpart => ?_⟩
  · exact h part (mem_partsOfTypes.mpr ⟨param, hparam, hpart⟩)
  · obtain ⟨param, hparam, hpart⟩ := mem_partsOfTypes.mp hpart
    exact h param hparam part hpart

theorem TypeExpr.self_mem_parts (type : TypeExpr ι) : type ∈ type.parts := by
  cases type <;> exact List.mem_cons_self

/-- The names that a type mentions apart from the types written in it. -/
def TypeExpr.mentions : TypeExpr ι → List String
  | .named name _ _ _ _ => [name]
  | .function _ clauses _ => clauses.throws.getD []

/-- All names in a type, those of parameters and in `throws` clauses included. -/
def TypeExpr.names (type : TypeExpr ι) : List String := type.parts.flatMap mentions

theorem TypeExpr.forall_mem_names {type : TypeExpr ι} {p : String → Prop} :
    (∀ name ∈ type.names, p name) ↔ ∀ part ∈ type.parts, ∀ name ∈ part.mentions, p name :=
  List.forall_mem_flatMap

end Surface

namespace Resolution

open Throws.Surface Relation

/-- Whether the type is that of a function. -/
def Ty.isFunction : Ty → Bool
  | .value _ => false
  | .function _ _ => true

theorem Ty.isFunction_qualify (isConst isVolatile isRef : Bool) (type : Ty) :
    (type.qualify isConst isVolatile isRef).isFunction = type.isFunction := by
  cases type <;> rfl

/-! ## One type -/

section Passing

variable {lookup : Lookup} {file : String}

/-- Nothing is reported for what a type mentions apart from the types written in it. -/
def Passes (lookup : Lookup) (file : String) : TypeExpr Pos → Prop
  | .named name isConst isVolatile isRef loc =>
    (lookup name (spanAt file loc)).log = [] ∧
      ((isConst || isVolatile || isRef) = true →
        (lookup name (spanAt file loc)).value.isFunction = false)
  | .function _ clauses _ =>
    (∀ name ∈ clauses.throws.getD [], (lookup name (spanAt? file clauses.loc)).log = [] ∧
      (lookup name (spanAt? file clauses.loc)).value.isFunction = false) ∧
      clauses.contradict = false

@[simp]
theorem Logged.value_map {α β : Type} (f : α → β) (logged : Logged α) :
    (f <$> logged).value = f logged.value :=
  rfl

@[simp]
theorem Logged.log_map {α β : Type} (f : α → β) (logged : Logged α) :
    (f <$> logged).log = logged.log :=
  List.append_nil _

theorem log_resolveThrown_eq_nil_iff {span : Span} {name : String} :
    (resolveThrown lookup span name).log = [] ↔
      (lookup name span).log = [] ∧ (lookup name span).value.isFunction = false := by
  rw [resolveThrown, Logged.log_below, Logged.log_bind, List.append_eq_nil_iff]
  cases (lookup name span).value <;> simp [Ty.isFunction]

theorem log_resolveClauses_eq_nil_iff {clauses : Clauses Pos} :
    (resolveClauses lookup file clauses).log = [] ↔ ∀ name ∈ clauses.throws.getD [],
      (lookup name (spanAt? file clauses.loc)).log = [] ∧
        (lookup name (spanAt? file clauses.loc)).value.isFunction = false := by
  rw [resolveClauses_eq, Logged.log_below, Logged.log_bind, Logged.log_pure, List.append_nil]
  cases clauses.throws with
  | none => simp [resolveListed]
  | some names =>
    rw [resolveListed, Logged.log_map, Logged.log_below, Logged.log_each,
      List.flatMap_eq_nil_iff]
    exact forall₂_congr fun name _ => log_resolveThrown_eq_nil_iff

theorem isConflicting_resolveClauses (lookup : Lookup) (file : String) (clauses : Clauses Pos) :
    (resolveClauses lookup file clauses).value.isConflicting = clauses.contradict := by
  rw [value_resolveClauses, Specifier.isConflicting, Specifier.hasThrows, Clauses.contradict,
    Option.isSome_map]

theorem log_resolveAll_eq_nil_iff {types : List (TypeExpr Pos)} :
    (resolveAll lookup file types).log = [] ↔
      ∀ type ∈ types, (resolveType lookup file type).log = [] := by
  rw [resolveAll_eq_each, Logged.log_each, List.flatMap_eq_nil_iff]

/-- Nothing is reported for a type if nothing is reported for any of the types written in it. -/
theorem log_resolveType_eq_nil_iff {type : TypeExpr Pos} :
    (resolveType lookup file type).log = [] ↔ ∀ part ∈ type.parts, Passes lookup file part := by
  induction type using TypeExpr.induction with
  | named name isConst isVolatile isRef loc =>
    rw [resolveType_named, Logged.log_below, Logged.log_bind, List.append_eq_nil_iff,
      TypeExpr.parts, List.forall_mem_singleton, Passes]
    refine and_congr_right fun _ => ?_
    cases (lookup name (spanAt file loc)).value with
    | value base => simp [addQualifiers, Ty.isFunction]
    | function params contract =>
      cases isConst <;> cases isVolatile <;> cases isRef <;> simp [addQualifiers, Ty.isFunction]
  | function params clauses loc ih =>
    rw [forall_mem_parts_function, Passes, ← log_resolveClauses_eq_nil_iff,
      ← isConflicting_resolveClauses lookup file]
    have hparams : (∀ param ∈ params, ∀ part ∈ param.parts, Passes lookup file part) ↔
        (resolveAll lookup file params).log = [] := by
      rw [log_resolveAll_eq_nil_iff]
      exact forall₂_congr fun param hparam => (ih param hparam).symm
    rw [hparams, resolveType, Logged.log_below, Logged.log_bind, Logged.log_bind]
    cases (resolveClauses lookup file clauses).value.isConflicting <;> simp [and_comm]

end Passing

/-! ## The graph of aliases -/

namespace Types

variable {types : Types} {type : TypeExpr Pos} {name other : String}

/-- The target of an alias mentions a name. -/
def Uses (types : Types) (name other : String) : Prop :=
  ∃ target, types.isBase name = false ∧ types.alias? name = some target ∧
    other ∈ target.type.names

/-- A name is mentioned in the type, or aliases lead to it from there. -/
def Reaches (types : Types) (type : TypeExpr Pos) (name : String) : Prop :=
  ∃ first ∈ type.names, ReflTransGen types.Uses first name

/-- The types that are gone through in resolving a type. -/
inductive Visits (types : Types) (type : TypeExpr Pos) : TypeExpr Pos → Prop
  /-- The type itself. -/
  | self : Visits types type type
  /-- The target of an alias that the type reaches. -/
  | target {name : String} {target : AliasTarget} : types.Reaches type name →
      types.isBase name = false → types.alias? name = some target → Visits types type target.type

/-- Aliases lead from the name to a function type. -/
inductive IsFunctionAlias (types : Types) : String → Prop
  /-- The alias stands for a function type as it is written. -/
  | direct {name : String} {target : AliasTarget} {params : List (TypeExpr Pos)}
      {clauses : Clauses Pos} {loc : Pos} : types.isBase name = false →
      types.alias? name = some target → target.type = .function params clauses loc →
      IsFunctionAlias types name
  /-- The alias stands for another one. -/
  | through {name other : String} {target : AliasTarget} {isConst isVolatile isRef : Bool}
      {loc : Pos} : types.isBase name = false → types.alias? name = some target →
      target.type = .named other isConst isVolatile isRef loc → IsFunctionAlias types other →
      IsFunctionAlias types name

/-- The expansion of the name ends, and it ends in names that stand for themselves. -/
inductive Grounded (types : Types) : String → Prop
  /-- An exception or a type that is built in. -/
  | base {name : String} : types.isBase name = true → Grounded types name
  /-- An alias for a type in which all names are grounded. -/
  | step {name : String} {target : AliasTarget} : types.isBase name = false →
      types.alias? name = some target → (∀ other ∈ target.type.names, Grounded types other) →
      Grounded types name

/-- A type uses function types as they can be used, apart from the types written in it. -/
def Proper (types : Types) : TypeExpr Pos → Prop
  | .named name isConst isVolatile isRef _ =>
    (isConst || isVolatile || isRef) = true → ¬ types.IsFunctionAlias name
  | .function _ clauses _ =>
    (∀ name ∈ clauses.throws.getD [], ¬ types.IsFunctionAlias name) ∧ clauses.contradict = false

/-- There is no defect in what is reached from a type. -/
structure Defectless (types : Types) (type : TypeExpr Pos) : Prop where
  /-- Every name stands for itself or is that of an alias. -/
  known : ∀ name, types.Reaches type name → types.isTaken name = true
  /-- No name leads back to itself. -/
  acyclic : ∀ name, types.Reaches type name → ¬ TransGen types.Uses name name
  /-- No function type has qualifiers, is listed in a `throws` clause, or has both `noexcept` and
  `throws`. -/
  proper : ∀ visited, types.Visits type visited → ∀ part ∈ visited.parts, types.Proper part

/-! ## Following names without errors -/

/-- Whether anything is reported for a name does not depend on where the name stands. -/
theorem log_follow_of_log_follow {count : Nat} {following : List String} {span : Span}
    (h : (types.follow count following name span).log = []) (span' : Span) :
    (types.follow count following name span').log = [] := by
  unfold follow at h ⊢
  rw [Logged.log_below] at h ⊢
  split at h
  case isTrue hbase => rwa [if_pos hbase]
  case isFalse hbase =>
    rw [if_neg hbase]
    split at h
    case h_1 => cases h
    case h_2 =>
      split at h
      case isTrue => cases h
      case isFalse hnew => rwa [if_neg hnew]

/-- Where nothing is reported, a name is followed to a function type if aliases lead there. -/
theorem isFunction_follow_iff {count : Nat} {following : List String}
    (henough : types.Enough count following) {span : Span}
    (h : (types.follow count following name span).log = []) :
    (types.follow count following name span).value.isFunction = true ↔
      types.IsFunctionAlias name := by
  -- On the number of aliases that may still be followed; each one that is followed takes one away.
  induction count using Nat.strongRecOn generalizing following name span with
  | _ count ih =>
    rcases follow_cases henough name span with ⟨hbase, heq⟩ |
      ⟨target, left, hbase, htarget, -, hlt, hleft, heq⟩ | ⟨problem, heq⟩ <;> rw [heq] at h ⊢
    · constructor
      · rintro ⟨⟩
      · intro hfunction
        cases hfunction <;> simp_all
    · rw [Logged.value_below]
      rw [Logged.log_below, log_resolveType_eq_nil_iff] at h
      cases hwritten : target.type with
      | named other isConst isVolatile isRef loc =>
        rw [hwritten] at h
        obtain ⟨hclean, -⟩ := h _ (TypeExpr.self_mem_parts _)
        rw [value_resolveType_named, Ty.isFunction_qualify, ih left hlt hleft hclean]
        constructor
        · exact .through hbase htarget hwritten
        · intro hfunction
          cases hfunction <;> grind
      | function params clauses loc =>
        rw [value_resolveType_function]
        exact ⟨fun _ => .direct hbase htarget hwritten, fun _ => rfl⟩
    · cases h

/-- Nothing is reported for what a type mentions if its names can be followed and function types are
used as they can be used. -/
theorem passes_follow_iff {count : Nat} {following : List String}
    (henough : types.Enough count following) {file : String} {part : TypeExpr Pos} :
    Passes (types.follow count following) file part ↔
      (∀ name ∈ part.mentions, ∀ span, (types.follow count following name span).log = []) ∧
        types.Proper part := by
  -- Whether a name is followed to a function type is read off the aliases, if it can be followed.
  have hfunction : ∀ {name span}, (types.follow count following name span).log = [] →
      ((types.follow count following name span).value.isFunction = false ↔
        ¬ types.IsFunctionAlias name) := by
    intro name span hclean
    rw [← isFunction_follow_iff henough hclean, Bool.not_eq_true]
  cases part with
  | named name isConst isVolatile isRef loc =>
    rw [Passes, TypeExpr.mentions, List.forall_mem_singleton, Proper]
    constructor
    · rintro ⟨hclean, hplain⟩
      exact ⟨log_follow_of_log_follow hclean, fun hany => (hfunction hclean).mp (hplain hany)⟩
    · rintro ⟨hclean, hplain⟩
      exact ⟨hclean _, fun hany => (hfunction (hclean _)).mpr (hplain hany)⟩
  | function params clauses loc =>
    rw [Passes, TypeExpr.mentions, Proper, ← and_assoc, ← forall₂_and]
    refine and_congr_left fun _ => forall₂_congr fun name _ => ?_
    constructor
    · rintro ⟨hclean, hvalue⟩
      exact ⟨log_follow_of_log_follow hclean, (hfunction hclean).mp hvalue⟩
    · rintro ⟨hclean, hvalue⟩
      exact ⟨hclean _, (hfunction (hclean _)).mpr hvalue⟩

/-- Nothing is reported for a type if all of its names can be followed and function types are used
in it as they can be used. -/
theorem log_resolveType_follow_eq_nil_iff {count : Nat} {following : List String}
    (henough : types.Enough count following) {file : String} :
    (resolveType (types.follow count following) file type).log = [] ↔
      (∀ name ∈ type.names, ∀ span, (types.follow count following name span).log = []) ∧
        ∀ part ∈ type.parts, types.Proper part := by
  rw [log_resolveType_eq_nil_iff, TypeExpr.forall_mem_names, ← forall₂_and]
  exact forall₂_congr fun part _ => passes_follow_iff henough

/-- A name for which nothing is reported is grounded. -/
theorem grounded_of_log_follow {count : Nat} {following : List String}
    (henough : types.Enough count following) {span : Span}
    (h : (types.follow count following name span).log = []) : types.Grounded name := by
  induction count using Nat.strongRecOn generalizing following name span with
  | _ count ih =>
    rcases follow_cases henough name span with ⟨hbase, -⟩ |
      ⟨target, left, hbase, htarget, -, hlt, hleft, heq⟩ | ⟨problem, heq⟩
    · exact .base hbase
    · rw [heq, Logged.log_below, log_resolveType_follow_eq_nil_iff hleft] at h
      exact .step hbase htarget fun other hother => ih left hlt hleft (h.1 other hother span)
    · rw [heq] at h
      cases h

namespace Grounded

theorem isTaken (h : types.Grounded name) : types.isTaken name = true := by
  cases h with
  | base hbase => simp [Types.isTaken, hbase]
  | step _ htarget _ => simp [Types.isTaken, htarget]

theorem of_uses (h : types.Grounded name) (huses : types.Uses name other) :
    types.Grounded other := by
  obtain ⟨target, hbase, htarget, hmem⟩ := huses
  cases h with
  | base hbase' => simp [hbase] at hbase'
  | step _ htarget' hnames =>
    obtain rfl : target = _ := Option.some.inj (htarget.symm.trans htarget')
    exact hnames other hmem

theorem of_reflTransGen (h : types.Grounded name) (hpath : ReflTransGen types.Uses name other) :
    types.Grounded other := by
  induction hpath with
  | refl => exact h
  | tail _ huses ih => exact ih.of_uses huses

/-- A grounded name does not lead back to itself. -/
theorem not_transGen_self (h : types.Grounded name) : ¬ TransGen types.Uses name name := by
  -- A cycle through an alias is one through a name in its target as well.
  induction h with
  | base hbase =>
    intro hcycle
    obtain ⟨_, ⟨_, hbase', _⟩, _⟩ := TransGen.head'_iff.mp hcycle
    simp [hbase] at hbase'
  | step _ htarget _ ih =>
    intro hcycle
    obtain ⟨other, ⟨target', hbase', htarget', hmem⟩, hback⟩ := TransGen.head'_iff.mp hcycle
    obtain rfl := Option.some.inj (htarget.symm.trans htarget')
    exact ih other hmem (TransGen.tail' hback ⟨_, hbase', htarget', hmem⟩)

end Grounded

/-! ## Types without defects -/

/-- Nothing is reported for a type in some state of following aliases. -/
def Clears (types : Types) (type : TypeExpr Pos) : Prop :=
  ∃ count following file, types.Enough count following ∧
    (resolveType (types.follow count following) file type).log = []

/-- A step: from a type to the target of an alias that it mentions. -/
theorem Clears.target (h : types.Clears type) {target : AliasTarget} (hname : name ∈ type.names)
    (hbase : types.isBase name = false) (htarget : types.alias? name = some target) :
    types.Clears target.type := by
  obtain ⟨count, following, file, henough, hlog⟩ := h
  have hclean := ((log_resolveType_follow_eq_nil_iff henough).mp hlog).1 name hname {}
  rcases follow_cases henough name {} with ⟨hbase', -⟩ |
    ⟨target', left, -, htarget', -, -, hleft, heq⟩ | ⟨problem, heq⟩
  · simp [hbase] at hbase'
  · obtain rfl := Option.some.inj (htarget.symm.trans htarget')
    rw [heq, Logged.log_below] at hclean
    exact ⟨left, name :: following, target.file, hleft, hclean⟩
  · rw [heq] at hclean
    cases hclean

/-- Nothing is reported for whatever is visited either. -/
theorem Clears.of_visits (h : types.Clears type) {visited : TypeExpr Pos}
    (hvisits : types.Visits type visited) : types.Clears visited := by
  cases hvisits with
  | self => exact h
  | @target name target hreaches hbase htarget =>
    -- One target after the other along the path to the alias.
    obtain ⟨first, hfirst, hpath⟩ := hreaches
    induction hpath generalizing target with
    | refl => exact h.target hfirst hbase htarget
    | tail _ huses ih =>
      obtain ⟨middle, hbase', htarget', hmem⟩ := huses
      exact (ih hbase' htarget').target hmem hbase htarget

theorem Clears.defectless (h : types.Clears type) : types.Defectless type := by
  have hgrounded : ∀ name, types.Reaches type name → types.Grounded name := by
    rintro name ⟨first, hfirst, hpath⟩
    obtain ⟨count, following, file, henough, hlog⟩ := h
    have hclean := ((log_resolveType_follow_eq_nil_iff henough).mp hlog).1 first hfirst {}
    exact (grounded_of_log_follow henough hclean).of_reflTransGen hpath
  refine ⟨fun name hname => (hgrounded name hname).isTaken,
    fun name hname => (hgrounded name hname).not_transGen_self, fun visited hvisits => ?_⟩
  obtain ⟨count, following, file, henough, hlog⟩ := h.of_visits hvisits
  exact ((log_resolveType_follow_eq_nil_iff henough).mp hlog).2

/-- There is no defect in the target of an alias either. -/
theorem Defectless.target (h : types.Defectless type) {target : AliasTarget}
    (hname : name ∈ type.names) (hbase : types.isBase name = false)
    (htarget : types.alias? name = some target) : types.Defectless target.type := by
  -- What the target reaches is reached from the type through the alias.
  have hreaches : ∀ other, types.Reaches target.type other → types.Reaches type other := by
    rintro other ⟨first, hfirst, hpath⟩
    exact ⟨name, hname, .head ⟨target, hbase, htarget, hfirst⟩ hpath⟩
  refine ⟨fun other hother => h.known other (hreaches other hother),
    fun other hother => h.acyclic other (hreaches other hother), fun visited hvisits => ?_⟩
  cases hvisits with
  | self => exact h.proper _ (.target ⟨name, hname, .refl⟩ hbase htarget)
  | target hother hbase' htarget' => exact h.proper _ (.target (hreaches _ hother) hbase' htarget')

/-- Nothing is reported for a type without defects, if what is being followed leads to its names. -/
theorem Defectless.log_resolveType (h : types.Defectless type) {count : Nat}
    {following : List String} (henough : types.Enough count following)
    (hfollowing : ∀ earlier ∈ following, ∀ name ∈ type.names, TransGen types.Uses earlier name)
    (file : String) : (resolveType (types.follow count following) file type).log = [] := by
  induction count using Nat.strongRecOn generalizing following type file with
  | _ count ih =>
    refine (log_resolveType_follow_eq_nil_iff henough).mpr
      ⟨fun name hname span => ?_, h.proper type .self⟩
    have hknown := h.known name ⟨name, hname, .refl⟩
    cases hbase : types.isBase name with
    | true =>
      rw [follow_of_isBase hbase]
      rfl
    | false =>
      rw [isTaken, hbase, Bool.false_or, Option.isSome_iff_exists] at hknown
      obtain ⟨target, htarget⟩ := hknown
      -- A name that is being followed would lead back to itself.
      have hnew : name ∉ following := fun hmem =>
        h.acyclic name ⟨name, hname, .refl⟩ (hfollowing name hmem name hname)
      obtain ⟨left, hlt, hleft, heq⟩ := follow_of_alias henough htarget hbase hnew span
      rw [heq, Logged.log_below]
      refine ih left hlt (h.target hname hbase htarget) hleft ?_ target.file
      intro earlier hearlier other hother
      have huses : types.Uses name other := ⟨target, hbase, htarget, hother⟩
      rcases List.mem_cons.mp hearlier with rfl | hmem
      · exact .single huses
      · exact .tail (hfollowing earlier hmem name hname) huses

/-- Nothing is reported for a type if and only if there is no defect in what it reaches. -/
theorem log_resolve_eq_nil_iff {file : String} :
    (types.resolve file type).log = [] ↔ types.Defectless type := by
  constructor
  · intro h
    exact Clears.defectless ⟨_, [], file, types.enough_length, h⟩
  · intro h
    exact h.log_resolveType types.enough_length (List.forall_mem_nil _) file

end Types

end Resolution

end Throws
