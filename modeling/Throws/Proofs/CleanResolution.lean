import Mathlib.Data.List.Forall2
import Mathlib.Data.List.Nodup
import Mathlib.Data.List.Perm.Subperm
import Throws.Proofs.TypeResolution

/-!
# Resolving types without errors

Resolution goes on after an error with its best guess, so little can be said of what it comes to in
general. Where nothing is reported there is no guess in it. Two judgements say so, with one rule for
each way to build a computation with a log:

* `Logged.Grants good logged`: if nothing is reported, the value is good.
* `Logged.Transfers related first second`: if nothing is reported for the first computation, then
  nothing is reported for the second one either, and their values are related.

Both hold for whatever depth there is room for.

`Types.follow` keeps count of the aliases that may still be followed and knows which ones are being
followed. The count never runs out before all others have been followed (`Types.Enough`), so a name
stands for itself, or it leads to the target of an alias, or something is reported
(`Types.follow_cases`). What is found under a name is made of types that stand for themselves
(`Types.grants_follow`).
-/

namespace Throws

/-- A trail that can be followed to its end within some levels can be followed within more. -/
theorem Trail.within_eq_quiet_of_le {ε : Type} {levels more : Nat} (hle : levels ≤ more)
    {trail : Trail ε} (h : trail.within levels = Reading.quiet) :
    trail.within more = Reading.quiet := by
  induction trail generalizing levels more with
  | empty => rfl
  | event met => cases h
  | append first second ihFirst ihSecond =>
    obtain ⟨hfirst, hsecond⟩ := Reading.append_eq_quiet_iff.mp h
    exact Reading.append_eq_quiet_iff.mpr ⟨ihFirst hle hfirst, ihSecond hle hsecond⟩
  | deeper count part ih =>
    by_cases hcount : count ≤ levels
    · rw [within, if_pos hcount] at h
      rw [within, if_pos (by omega)]
      exact ih (by omega) h
    · rw [within, if_neg hcount] at h
      cases h

namespace Resolution

open Throws.Body Throws.Surface

/-! ## Computations that report nothing -/

namespace Logged

variable {α β γ δ : Type} {depth : Option Nat} {levels : Nat}

/-- If one computation is clean wherever another one is, then so it is further down. -/
theorem clean_below_of {first : Logged α} {second : Logged β}
    (himp : ∀ depth, first.Clean depth → second.Clean depth)
    (h : (first.below levels).Clean depth) : (second.below levels).Clean depth := by
  cases depth with
  | none => exact himp none h
  | some room =>
    by_cases hlevels : levels ≤ room
    · have hpart : first.Clean (some (room - levels)) := by
        simpa [Clean, below, Trail.upTo, Trail.within, hlevels] using h
      simpa [Clean, below, Trail.upTo, Trail.within, hlevels] using himp _ hpart
    · simp [Clean, below, Trail.upTo, Trail.within, hlevels, Trail.Reading.quiet] at h

/-- What there is room for further down there is room for further up. -/
theorem Clean.of_below {logged : Logged α} (h : (logged.below levels).Clean depth) :
    logged.Clean depth := by
  cases depth with
  | none => exact h
  | some room =>
    by_cases hlevels : levels ≤ room
    · have hpart : logged.trail.within (room - levels) = Trail.Reading.quiet := by
        simpa [Clean, below, Trail.upTo, Trail.within, hlevels] using h
      exact Trail.within_eq_quiet_of_le (by omega) hpart
    · simp [Clean, below, Trail.upTo, Trail.within, hlevels, Trail.Reading.quiet] at h

/-- If nothing is reported, then the value is good. -/
def Grants (good : α → Prop) (logged : Logged α) : Prop :=
  ∀ depth, logged.Clean depth → good logged.value

namespace Grants

variable {good : α → Prop} {good' : β → Prop} {logged : Logged α}

theorem pure {a : α} (h : good a) : Grants good (Pure.pure a) := fun _ _ => h

theorem anything (logged : Logged α) : Grants (fun _ => True) logged := fun _ _ => trivial

theorem bind {next : α → Logged β} (hfirst : Grants good logged)
    (hnext : ∀ a, good a → Grants good' (next a)) : Grants good' (logged >>= next) := by
  intro depth h
  obtain ⟨hclean, hrest⟩ := clean_bind_iff.mp h
  exact hnext _ (hfirst depth hclean) depth hrest

theorem map {f : α → β} (h : Grants good logged) (hmap : ∀ a, good a → good' (f a)) :
    Grants good' (f <$> logged) :=
  h.bind fun a ha => .pure (hmap a ha)

theorem below (h : Grants good logged) : Grants good (logged.below levels) :=
  fun depth hclean => h depth hclean.of_below

/-- Behind a report nothing has to be shown. -/
theorem report {diagnostic : Diagnostic} {next : Unit → Logged α} :
    Grants good (Logged.report diagnostic >>= next) :=
  fun _ h => absurd (clean_bind_iff.mp h).1 (not_clean_report _)

theorem each {compute : β → Logged α} {bs : List β} (h : ∀ b ∈ bs, Grants good (compute b)) :
    Grants (fun as => ∀ a ∈ as, good a) (Logged.each compute bs) := by
  intro depth hclean
  rw [value_each]
  exact List.forall_mem_map.mpr fun b hb => h b hb depth (clean_each_iff.mp hclean b hb)

end Grants

/-- If nothing is reported for the first computation, then nothing is reported for the second one,
and their values are related. -/
def Transfers (related : α → β → Prop) (first : Logged α) (second : Logged β) : Prop :=
  ∀ depth, first.Clean depth → second.Clean depth ∧ related first.value second.value

namespace Transfers

variable {related : α → β → Prop} {related' : γ → δ → Prop} {first : Logged α} {second : Logged β}

theorem pure {a : α} {b : β} (h : related a b) : Transfers related (Pure.pure a) (Pure.pure b) :=
  fun _ _ => ⟨clean_pure b, h⟩

theorem bind {next : α → Logged γ} {next' : β → Logged δ} (hfirst : Transfers related first second)
    (hnext : ∀ a b, related a b → Transfers related' (next a) (next' b)) :
    Transfers related' (first >>= next) (second >>= next') := by
  intro depth h
  obtain ⟨hclean, hrest⟩ := clean_bind_iff.mp h
  obtain ⟨hclean', hvalues⟩ := hfirst depth hclean
  obtain ⟨hrest', hresults⟩ := hnext _ _ hvalues depth hrest
  exact ⟨clean_bind_iff.mpr ⟨hclean', hrest'⟩, hresults⟩

theorem map {f : α → γ} {g : β → δ} (h : Transfers related first second)
    (hmap : ∀ a b, related a b → related' (f a) (g b)) :
    Transfers related' (f <$> first) (g <$> second) :=
  h.bind fun a b hab => .pure (hmap a b hab)

theorem below (h : Transfers related first second) :
    Transfers related (first.below levels) (second.below levels) :=
  fun depth hclean => ⟨clean_below_of (fun depth hfirst => (h depth hfirst).1) hclean,
    (h depth hclean.of_below).2⟩

/-- The first computation may lie further down. -/
theorem below_left (h : Transfers related first second) :
    Transfers related (first.below levels) second :=
  fun depth hclean => h depth hclean.of_below

/-- Behind a report nothing has to be shown. -/
theorem report {diagnostic : Diagnostic} {next : Unit → Logged α} :
    Transfers related (Logged.report diagnostic >>= next) second :=
  fun _ h => absurd (clean_bind_iff.mp h).1 (not_clean_report _)

theorem each {compute : γ → Logged α} {compute' : δ → Logged β} {as : List γ} {bs : List δ}
    (h : List.Forall₂ (fun a b => Transfers related (compute a) (compute' b)) as bs) :
    Transfers (List.Forall₂ related) (Logged.each compute as) (Logged.each compute' bs) := by
  induction h with
  | nil => exact .pure .nil
  | cons hfirst _ ih =>
    exact hfirst.bind fun a b hab => ih.bind fun as bs habs => .pure (.cons hab habs)

/-- Items that are alike one by one come to related values one by one. -/
theorem each_of_alike {alike : γ → δ → Prop} {compute : γ → Logged α} {compute' : δ → Logged β}
    {as : List γ} {bs : List δ}
    (h : ∀ a ∈ as, ∀ b, alike a b → Transfers related (compute a) (compute' b))
    (halike : List.Forall₂ alike as bs) :
    Transfers (List.Forall₂ related) (Logged.each compute as) (Logged.each compute' bs) :=
  each (((List.forall₂_and_left _ _).mpr ⟨h, halike⟩).imp fun _ b hab => hab.1 b hab.2)

end Transfers

end Logged

open Logged

/-! ## Steps of resolution -/

/-- The type with qualifiers added. A function type takes none, so they are reported there. -/
def addQualifiers (isConst isVolatile isRef : Bool) (problem : Diagnostic) : Ty → Logged Ty
  | .value base => return (Ty.value base).qualify isConst isVolatile isRef
  | .function params contract => do
    if isConst || isVolatile || isRef then .report problem
    return .function params contract

theorem resolveType_named (lookup : Lookup) (file name : String)
    (isConst isVolatile isRef : Bool) (loc : Pos) :
    resolveType lookup file (.named name isConst isVolatile isRef loc) =
      .below 1 (lookup name (spanAt file loc) >>= addQualifiers isConst isVolatile isRef
        ((Problem.qualifiedFunction name).report (spanAt file loc))) := by
  rw [resolveType]
  refine congrArg (Logged.below 1) (bind_congr fun type => ?_)
  cases type <;> rfl

/-- The names that are listed in clauses. -/
def resolveListed (lookup : Lookup) (span : Span) : Option (List String) →
    Logged (Option (List String))
  | none => return none
  | some names => some <$> Logged.below 1 (.each (resolveThrown lookup span) names)

theorem resolveClauses_eq (lookup : Lookup) (file : String) (clauses : Clauses Pos) :
    resolveClauses lookup file clauses = .below 1 (do
      let throws ← resolveListed lookup (spanAt? file clauses.loc) clauses.throws
      return { throws := throws, wildcard := clauses.wildcard, noexcept := clauses.noexcept,
               span := spanAt? file clauses.loc }) := by
  obtain ⟨throws, wildcard, noexcept, loc⟩ := clauses
  cases throws <;> rfl

/-! ## Names that stand for themselves -/

/-- All names of exceptions and of types of values in the type are known. -/
inductive Ty.Canonical (known : String → Prop) : Ty → Prop
  | value {type : ValueType} : known type.name → Canonical known (.value type)
  | function {params : List Ty} {contract : Contract} :
      (∀ param ∈ params, Canonical known param) → (∀ name ∈ contract.effective.names, known name) →
      Canonical known (.function params contract)

theorem functionContract_of_not_isConflicting {specifier : Specifier}
    (h : ¬ specifier.isConflicting = true) : functionContract specifier = specifier.meaning :=
  if_neg h

/-- A contract names only what is listed in its clauses. -/
theorem exists_mem_throws_of_mem_names {specifier : Specifier} {name : String}
    (h : name ∈ (functionContract specifier).effective.names) :
    ∃ names, specifier.throws = some names ∧ name ∈ names := by
  obtain ⟨throws, wildcard, noexcept, span⟩ := specifier
  unfold functionContract at h
  split at h
  · exact absurd h List.not_mem_nil
  · cases wildcard with
    | true => exact absurd h List.not_mem_nil
    | false =>
      cases throws with
      | none => cases noexcept <;> exact absurd h List.not_mem_nil
      | some names => exact ⟨names, rfl, NameSet.mem_ofList.mp h⟩

section Canonical

variable {lookup : Lookup} {known : String → Prop} {file : String}
  (hlookup : ∀ name span, Grants (Ty.Canonical known) (lookup name span))

include hlookup

theorem grants_resolveThrown (span : Span) (name : String) :
    Grants known (resolveThrown lookup span name) := by
  refine .below ((hlookup name span).bind fun type htype => ?_)
  cases htype with
  | value hname => exact .pure hname
  | function _ _ => exact .report

theorem grants_resolveClauses (clauses : Clauses Pos) :
    Grants (fun specifier => ∀ names ∈ specifier.throws, ∀ name ∈ names, known name)
      (resolveClauses lookup file clauses) := by
  have hlisted : Grants (fun throws => ∀ names ∈ throws, ∀ name ∈ names, known name)
      (resolveListed lookup (spanAt? file clauses.loc) clauses.throws) := by
    cases clauses.throws with
    | none => exact .pure nofun
    | some names =>
      have heach : Grants (fun found => ∀ name ∈ found, known name)
          (Logged.each (resolveThrown lookup (spanAt? file clauses.loc)) names) :=
        .each fun name _ => grants_resolveThrown hlookup _ name
      refine heach.below.map fun found hfound listed hlisted => ?_
      obtain rfl := Option.some.inj hlisted
      exact hfound
  rw [resolveClauses_eq]
  exact .below (hlisted.bind fun throws hthrows => .pure hthrows)

theorem grants_named (name : String) (isConst isVolatile isRef : Bool) (loc : Pos) :
    Grants (Ty.Canonical known)
      (resolveType lookup file (.named name isConst isVolatile isRef loc)) := by
  rw [resolveType_named]
  refine .below ((hlookup _ _).bind fun type htype => ?_)
  cases htype with
  | value hname => exact .pure (.value hname)
  | function hparams hcontract =>
    rw [addQualifiers]
    split
    · exact .report
    · exact .pure (.function hparams hcontract)

end Canonical

/-- A spelling stands for a type whose names stand for themselves. -/
theorem grants_resolveType {lookup : Lookup} {known : String → Prop} {file : String}
    (hlookup : ∀ name span, Grants (Ty.Canonical known) (lookup name span))
    (type : TypeExpr Pos) : Grants (Ty.Canonical known) (resolveType lookup file type) := by
  induction type using TypeExpr.induction with
  | named name isConst isVolatile isRef loc =>
    exact grants_named hlookup name isConst isVolatile isRef loc
  | function params clauses loc hparams =>
    rw [resolveType, resolveAll_eq_each]
    refine .below ((Grants.each hparams).below.bind fun types htypes =>
      (grants_resolveClauses hlookup clauses).bind fun specifier hspecifier => ?_)
    split
    · exact .report
    case isFalse hconflict =>
      refine .pure (.function htypes fun name hname => ?_)
      -- Clauses without a conflict promise nothing but the names they list.
      rw [← functionContract_of_not_isConflicting hconflict] at hname
      obtain ⟨names, hnames, hmem⟩ := exists_mem_throws_of_mem_names hname
      exact hspecifier names hnames name hmem

/-! ## Following aliases -/

namespace Types

variable {types : Types} {count : Nat} {following : List String} {name : String}

/-- At least as many aliases can be followed as there are that are not being followed already. -/
def Enough (types : Types) (count : Nat) (following : List String) : Prop :=
  ∀ names : List String, names.Nodup →
    (∀ name ∈ names, (types.alias? name).isSome = true ∧ name ∉ following) → names.length ≤ count

/-- To begin with there is one for each alias. -/
theorem enough_length (types : Types) : types.Enough types.aliases.length [] := by
  intro names hnodup hnames
  have hsubset : names ⊆ types.aliases.map (·.1) := by
    intro name hname
    obtain ⟨target, htarget⟩ := Option.isSome_iff_exists.mp (hnames name hname).1
    exact List.mem_map.mpr ⟨_, mem_aliases_of_alias? htarget, rfl⟩
  simpa using (hnodup.subperm hsubset).length_le

/-- Where there is enough left, an alias that is not being followed can be followed, and there is
enough left behind it. -/
theorem Enough.exists_succ (h : types.Enough count following)
    (hname : (types.alias? name).isSome = true) (hnew : name ∉ following) :
    ∃ left, count = left + 1 ∧ types.Enough left (name :: following) := by
  have hone : [name].length ≤ count :=
    h [name] (List.nodup_singleton name) (List.forall_mem_singleton.mpr ⟨hname, hnew⟩)
  refine ⟨count - 1, by simp at hone; omega, fun names hnodup hnames => ?_⟩
  -- The alias itself is one more that is not being followed.
  have hmore : (name :: names).length ≤ count := by
    refine h (name :: names) (List.nodup_cons.mpr ⟨fun hmem => ?_, hnodup⟩)
      (List.forall_mem_cons.mpr ⟨⟨hname, hnew⟩, fun other hother => ?_⟩)
    · exact (hnames name hmem).2 List.mem_cons_self
    · obtain ⟨hsome, hnot⟩ := hnames other hother
      exact ⟨hsome, fun hmem => hnot (List.mem_cons_of_mem _ hmem)⟩
  simp at hmore
  omega

/-- A name that stands for itself is found at once. -/
theorem follow_of_isBase (hbase : types.isBase name = true) (count : Nat)
    (following : List String) (span : Span) :
    types.follow count following name span = .below 1 (return .plain name) := by
  unfold follow
  simp only [hbase, ↓reduceIte]

/-- A name that is not declared is reported. -/
theorem follow_of_unknown (hbase : types.isBase name = false) (hnone : types.alias? name = none)
    (count : Nat) (following : List String) (span : Span) :
    types.follow count following name span =
      .below 1 (.report ((Problem.unknown name).report span) >>= fun _ => return .plain name) := by
  unfold follow
  simp only [hbase, hnone, Bool.false_eq_true, ↓reduceIte]

/-- An alias that is being followed already is reported. -/
theorem follow_of_mem {target : AliasTarget} (hbase : types.isBase name = false)
    (htarget : types.alias? name = some target) (hmem : name ∈ following) (count : Nat)
    (span : Span) :
    types.follow count following name span =
      .below 1 (.report ((Problem.circular name).report span) >>= fun _ =>
        return .plain name) := by
  unfold follow
  simp only [hbase, htarget, List.contains_iff_mem.mpr hmem, Bool.false_eq_true, ↓reduceIte]

/-- An alias that is not being followed leads to its target. -/
theorem follow_of_alias (h : types.Enough count following) {target : AliasTarget}
    (htarget : types.alias? name = some target) (hbase : types.isBase name = false)
    (hnew : name ∉ following) (span : Span) :
    ∃ left, left < count ∧ types.Enough left (name :: following) ∧
      types.follow count following name span =
        .below 1 (resolveType (types.follow left (name :: following)) target.file target.type) := by
  obtain ⟨left, rfl, hleft⟩ := h.exists_succ (Option.isSome_of_mem htarget) hnew
  refine ⟨left, Nat.lt_succ_self left, hleft, ?_⟩
  have hnot : following.contains name = false := by simpa using hnew
  rw [follow]
  simp only [hbase, htarget, hnot, Bool.false_eq_true, ↓reduceIte]

/-- What following a name comes to: the name stands for itself, or it is that of an alias that is
not being followed already, or something is reported. -/
theorem follow_cases (h : types.Enough count following) (name : String) (span : Span) :
    (types.isBase name = true ∧
      types.follow count following name span = .below 1 (return .plain name)) ∨
    (∃ target left, types.isBase name = false ∧ types.alias? name = some target ∧
      name ∉ following ∧ left < count ∧ types.Enough left (name :: following) ∧
      types.follow count following name span =
        .below 1 (resolveType (types.follow left (name :: following)) target.file target.type)) ∨
    ∃ problem, types.follow count following name span =
      .below 1 (.report problem >>= fun _ => return .plain name) := by
  cases hbase : types.isBase name with
  | true => exact .inl ⟨rfl, follow_of_isBase hbase count following span⟩
  | false =>
    cases htarget : types.alias? name with
    | none => exact .inr (.inr ⟨_, follow_of_unknown hbase htarget count following span⟩)
    | some target =>
      by_cases hnew : name ∈ following
      · exact .inr (.inr ⟨_, follow_of_mem hbase htarget hnew count span⟩)
      · obtain ⟨left, hlt, hleft, heq⟩ := follow_of_alias h htarget hbase hnew span
        exact .inr (.inl ⟨target, left, rfl, rfl, hnew, hlt, hleft, heq⟩)

/-- What is found under a name is made of types that stand for themselves. -/
theorem grants_follow (h : types.Enough count following) (name : String) (span : Span) :
    Grants (Ty.Canonical fun name => types.isBase name = true)
      (types.follow count following name span) := by
  induction count using Nat.strongRecOn generalizing following name span with
  | _ count ih =>
    rcases follow_cases h name span with ⟨hbase, heq⟩ | ⟨target, left, _, _, _, hlt, hleft, heq⟩ |
      ⟨problem, heq⟩ <;> rw [heq]
    · exact .below (.pure (.value hbase))
    · exact .below (grants_resolveType (ih left hlt hleft) target.type)
    · exact .below .report

end Types

end Resolution

end Throws
