import Throws.Proofs.CleanResolution
import Throws.Proofs.StaticTypes

/-!
# One name, one exception

The same name is looked up in three ways. A call of it is a construction if it leads to an
exception, a `throws` clause lists the exception that it leads to, and a handler catches the type
that it stands for. The three do not start alike: a construction follows the target of an alias
without noting that the alias is being followed, and so it could follow it once more.

It never does. `Types.LeadsTo` says, without looking up anything, in how many steps a name leads to
an exception. From step to step the number gets smaller, so no name on the way comes up again, and
whatever else is being followed makes no difference (`Types.value_follow_of_leadsTo`).
-/

namespace Throws.Resolution

open Throws.Body Throws.Surface

/-! ## Names that lead to exceptions -/

namespace Types

variable {types : Types} {name : String} {type : ValueType} {steps : Nat}

/-- The name is that of an exception, or aliases lead from it to one in a number of steps; the type
has the qualifiers that are written on the way. -/
inductive LeadsTo (types : Types) : String → ValueType → Nat → Prop
  /-- An exception is declared. -/
  | declared {name : String} : name ∈ types.exceptions → LeadsTo types name { name := name } 0
  /-- An alias stands for such a name, with any qualifiers. -/
  | step {name other : String} {target : AliasTarget} {isConst isVolatile isRef : Bool} {loc : Pos}
      {base type : ValueType} {steps : Nat} : types.isBase name = false →
      types.alias? name = some target → target.type = .named other isConst isVolatile isRef loc →
      LeadsTo types other base steps →
      (Ty.value base).qualify isConst isVolatile isRef = .value type →
      LeadsTo types name type (steps + 1)

theorem isBase_of_mem_exceptions (h : name ∈ types.exceptions) : types.isBase name = true := by
  simp [isBase, h]

/-- A name leads to one exception only, and in one number of steps. -/
theorem LeadsTo.unique {type' : ValueType} {steps' : Nat} (h : types.LeadsTo name type steps)
    (h' : types.LeadsTo name type' steps') : type = type' ∧ steps = steps' := by
  induction h generalizing type' steps' with
  | declared hmem =>
    cases h' with
    | declared => exact ⟨rfl, rfl⟩
    | step hbase => exact absurd (isBase_of_mem_exceptions hmem) (by simp [hbase])
  | step hbase htarget hwritten _ hqualify ih =>
    cases h' with
    | declared hmem => exact absurd (isBase_of_mem_exceptions hmem) (by simp [hbase])
    | step _ htarget' hwritten' hrest hqualify' =>
      -- Both steps go through the same target.
      cases htarget.symm.trans htarget'
      cases hwritten.symm.trans hwritten'
      obtain ⟨rfl, rfl⟩ := ih hrest
      exact ⟨Ty.value.inj (hqualify.symm.trans hqualify'), rfl⟩

/-- A name that leads to an exception is followed to it, whatever is being followed already, unless
that is on the way. -/
theorem value_follow_of_leadsTo (h : types.LeadsTo name type steps) {count : Nat}
    {following : List String} (henough : types.Enough count following)
    (hearlier : ∀ other ∈ following, ∀ type' steps', types.LeadsTo other type' steps' →
      steps < steps') (span : Span) :
    (types.follow count following name span).value = .value type := by
  induction h generalizing count following span with
  | declared hmem => rw [follow_of_isBase (isBase_of_mem_exceptions hmem)]; rfl
  | @step name other target isConst isVolatile isRef loc base type steps hbase htarget hwritten
      hrest hqualify ih =>
    have hname : types.LeadsTo name type (steps + 1) :=
      .step hbase htarget hwritten hrest hqualify
    have hnew : name ∉ following := fun hmem =>
      absurd (hearlier name hmem type (steps + 1) hname) (Nat.lt_irrefl _)
    obtain ⟨left, -, hleft, heq⟩ := follow_of_alias henough htarget hbase hnew span
    rw [heq, Logged.value_below, hwritten, value_resolveType_named, ih hleft ?_, hqualify]
    intro earlier hmem type' steps' hleads
    rcases List.mem_cons.mp hmem with rfl | hmem
    · obtain ⟨-, rfl⟩ := hname.unique hleads
      exact Nat.lt_succ_self _
    · exact Nat.lt_of_succ_lt (hearlier earlier hmem type' steps' hleads)

/-- A name that leads to an exception stands for it. -/
theorem LeadsTo.value_lookup (h : types.LeadsTo name type steps) (span : Span) :
    (types.lookup name span).value = .value type :=
  value_follow_of_leadsTo h types.enough_length (List.forall_mem_nil _) span

/-- Only a name is resolved to the type of a value; qualifiers may be added to what the name stands
for. -/
theorem exists_named_of_resolveType {lookup : Lookup} {file : String} {written : TypeExpr Pos}
    (h : (resolveType lookup file written).value = .value type) :
    ∃ other isConst isVolatile isRef loc base,
      written = .named other isConst isVolatile isRef loc ∧
        (lookup other (spanAt file loc)).value = .value base ∧
        (Ty.value base).qualify isConst isVolatile isRef = .value type ∧
        base.name = type.name := by
  cases written with
  | named other isConst isVolatile isRef loc =>
    rw [value_resolveType_named] at h
    obtain ⟨base, hbase, hname⟩ := Ty.exists_of_qualify h
    exact ⟨other, isConst, isVolatile, isRef, loc, base, rfl, hbase, hbase ▸ h, hname⟩
  | function params clauses loc =>
    rw [value_resolveType_function] at h
    cases h

/-- Whatever is followed to an exception leads to it. -/
theorem exists_leadsTo_of_follow {count : Nat} {following : List String} {span : Span}
    (henough : types.Enough count following)
    (h : (types.follow count following name span).value = .value type)
    (hmem : type.name ∈ types.exceptions) : ∃ steps, types.LeadsTo name type steps := by
  induction count using Nat.strongRecOn generalizing following name span type with
  | _ count ih =>
    rcases follow_cases henough name span with ⟨-, heq⟩ |
      ⟨target, left, hbase, htarget, -, hlt, hleft, heq⟩ | ⟨problem, heq⟩ <;> rw [heq] at h
    · cases h
      exact ⟨0, .declared hmem⟩
    · obtain ⟨other, isConst, isVolatile, isRef, loc, base, hwritten, hother, hqualify, hname⟩ :=
        exists_named_of_resolveType h
      obtain ⟨steps, hleads⟩ := ih left hlt hleft hother (hname ▸ hmem)
      exact ⟨steps + 1, .step hbase htarget hwritten hleads hqualify⟩
    · cases h
      exact ⟨0, .declared hmem⟩

end Types

/-! ## Names in programs -/

section Names

variable {sources : List (String × Program Pos)} {name : String} {type : ValueType}

/-- In no table an alias has the name of a type of its own. -/
theorem Types.isBase_eq_false_of_declareAll {types : Types}
    {definitions : List (String × AliasDef Pos)}
    (hbefore : ∀ entry ∈ types.aliases, types.isBase entry.1 = false) :
    ∀ entry ∈ (types.declareAll definitions).value.aliases,
      (types.declareAll definitions).value.isBase entry.1 = false := by
  induction definitions generalizing types with
  | nil => exact hbefore
  | cons declared rest ih =>
    rw [declareAll, Logged.value_bind]
    refine ih ?_
    rw [value_declare]
    split
    case isTrue => exact hbefore
    case isFalse hfree =>
      -- The exceptions stay as they are, and the new name was free.
      intro entry hentry
      rcases List.mem_append.mp hentry with hentry | hentry
      · exact hbefore entry hentry
      · rw [List.mem_singleton.mp hentry]
        exact (Bool.or_eq_false_iff.mp (Bool.eq_false_iff.mpr hfree)).1

theorem isBase_of_alias?_programTypes {target : AliasTarget}
    (h : (programTypes sources).alias? name = some target) :
    (programTypes sources).isBase name = false :=
  Types.isBase_eq_false_of_declareAll (List.forall_mem_nil _) _
    (Types.mem_aliases_of_alias? h)

/-- What a construction finds under a name is what the name leads to. -/
theorem exists_leadsTo_of_exception?
    (h : ((programTypes sources).exception? name).value = some type) :
    ∃ steps, (programTypes sources).LeadsTo name type steps := by
  rw [Types.exception?, Logged.value_below] at h
  split at h
  case isTrue hmem =>
    cases h
    exact ⟨0, .declared (List.contains_iff_mem.mp hmem)⟩
  case isFalse =>
    split at h
    case h_1 => cases h
    case h_2 target htarget =>
      rw [Logged.value_bind, Logged.value_pure, Option.filter_eq_some_iff] at h
      obtain ⟨hvalue, hmem⟩ := h
      -- The target is resolved while no alias is being followed, this one included.
      obtain ⟨other, isConst, isVolatile, isRef, loc, base, hwritten, hother, hqualify, hname⟩ :=
        Types.exists_named_of_resolveType (Ty.eq_of_value? hvalue)
      obtain ⟨steps, hleads⟩ := Types.exists_leadsTo_of_follow (Types.enough_length _) hother
        (hname ▸ List.contains_iff_mem.mp hmem)
      exact ⟨steps + 1, .step (isBase_of_alias?_programTypes htarget) htarget hwritten hleads
        hqualify⟩

/-- A name stands for the exception that a construction finds under it. -/
theorem value_lookup_of_exception?
    (h : ((programTypes sources).exception? name).value = some type) (span : Span) :
    ((programTypes sources).lookup name span).value = .value type := by
  obtain ⟨steps, hleads⟩ := exists_leadsTo_of_exception? h
  exact hleads.value_lookup span

end Names

end Throws.Resolution
