import Mathlib.Data.Finset.Basic
import Throws.Proofs.AliasGraph

/-!
# Runs of resolution

Resolution is described here once more, as a process that keeps a set of the names in progress: an
alias is put into the set before its target is resolved, and it is taken out again afterwards. No
rule bounds how often aliases are followed. A run from beginning to end is a derivation of `Runs`,
so a process that never ended would have none.

For every piece of work and every set of names in progress there is exactly one run. It comes to
what the functions that resolve types come to, and it leaves the set as it was (`Types.runs_iff`).
-/

namespace Throws.Resolution

open Throws.Surface

/-- A piece of the work of resolving types. -/
inductive Task where
  /-- A name; the span is where it is used. -/
  | name (name : String) (span : Span)
  /-- A name in a `throws` clause. -/
  | thrown (name : String) (span : Span)
  /-- Several names in a `throws` clause. -/
  | listed (names : List String) (span : Span)
  /-- The clauses of a signature in a file. -/
  | clauses (clauses : Clauses Pos) (file : String)
  /-- A type in a file. -/
  | type (type : TypeExpr Pos) (file : String)
  /-- Several types in a file. -/
  | types (types : List (TypeExpr Pos)) (file : String)

namespace Task

/-- What a piece of work comes to. -/
@[reducible]
def Result : Task → Type
  | .name _ _ | .type _ _ => Ty
  | .thrown _ _ => String
  | .listed _ _ => List String
  | .clauses _ _ => Specifier
  | .types _ _ => List Ty

end Task

namespace Types

/-- `Runs types task busy result log after`: with the names `busy` in progress, the work comes to
the result, the errors in the log are reported in this order, and `after` are in progress then. -/
inductive Runs (types : Types) :
    (task : Task) → Finset String → task.Result → List Diagnostic → Finset String → Prop
  /-- An exception or a type that is built in. -/
  | base {name : String} {span : Span} {busy : Finset String} : types.isBase name = true →
      Runs types (.name name span) busy (.plain name) [] busy
  /-- A name that is not declared. -/
  | unknown {name : String} {span : Span} {busy : Finset String} : types.isBase name = false →
      types.alias? name = none →
      Runs types (.name name span) busy (.plain name) [(Problem.unknown name).report span] busy
  /-- An alias that is in progress already. -/
  | circular {name : String} {span : Span} {busy : Finset String} {target : AliasTarget} :
      types.isBase name = false → types.alias? name = some target → name ∈ busy →
      Runs types (.name name span) busy (.plain name) [(Problem.circular name).report span] busy
  /-- Any other alias is in progress until its target is resolved. -/
  | followed {name : String} {span : Span} {busy after : Finset String} {target : AliasTarget}
      {found : Ty} {log : List Diagnostic} : types.isBase name = false →
      types.alias? name = some target → name ∉ busy →
      Runs types (.type target.type target.file) (insert name busy) found log after →
      Runs types (.name name span) busy found log (after.erase name)
  /-- The type of a value is thrown under its own name. -/
  | thrownValue {name : String} {span : Span} {busy after : Finset String} {found : ValueType}
      {log : List Diagnostic} : Runs types (.name name span) busy (.value found) log after →
      Runs types (.thrown name span) busy found.name log after
  /-- A function cannot be thrown. -/
  | thrownFunction {name : String} {span : Span} {busy after : Finset String} {params : List Ty}
      {contract : Contract} {log : List Diagnostic} :
      Runs types (.name name span) busy (.function params contract) log after →
      Runs types (.thrown name span) busy name
        (log ++ [(Problem.thrownFunction name).report span]) after
  /-- No more names are listed. -/
  | listedNil {span : Span} {busy : Finset String} : Runs types (.listed [] span) busy [] [] busy
  /-- Names are looked up from left to right. -/
  | listedCons {name found : String} {names others : List String} {span : Span}
      {busy middle after : Finset String} {log log' : List Diagnostic} :
      Runs types (.thrown name span) busy found log middle →
      Runs types (.listed names span) middle others log' after →
      Runs types (.listed (name :: names) span) busy (found :: others) (log ++ log') after
  /-- Clauses that list nothing. -/
  | unlisted {clauses : Clauses Pos} {file : String} {busy : Finset String} :
      clauses.throws = none → Runs types (.clauses clauses file) busy
        ⟨none, clauses.wildcard, clauses.noexcept, spanAt? file clauses.loc⟩ [] busy
  /-- Clauses that list names. -/
  | clauses {clauses : Clauses Pos} {file : String} {names found : List String}
      {busy after : Finset String} {log : List Diagnostic} : clauses.throws = some names →
      Runs types (.listed names (spanAt? file clauses.loc)) busy found log after →
      Runs types (.clauses clauses file) busy
        ⟨some found, clauses.wildcard, clauses.noexcept, spanAt? file clauses.loc⟩ log after
  /-- The type of a value gets the qualifiers that are written on its name. -/
  | namedValue {name file : String} {isConst isVolatile isRef : Bool} {loc : Pos}
      {busy after : Finset String} {base : ValueType} {log : List Diagnostic} :
      Runs types (.name name (spanAt file loc)) busy (.value base) log after →
      Runs types (.type (.named name isConst isVolatile isRef loc) file) busy
        ((Ty.value base).qualify isConst isVolatile isRef) log after
  /-- A function type takes no qualifiers. -/
  | namedFunction {name file : String} {isConst isVolatile isRef : Bool} {loc : Pos}
      {busy after : Finset String} {params : List Ty} {contract : Contract}
      {log : List Diagnostic} :
      Runs types (.name name (spanAt file loc)) busy (.function params contract) log after →
      Runs types (.type (.named name isConst isVolatile isRef loc) file) busy
        (.function params contract)
        (log ++ if isConst || isVolatile || isRef then
          [(Problem.qualifiedFunction name).report (spanAt file loc)] else []) after
  /-- A function type: first its parameters, then its clauses. -/
  | function {params : List (TypeExpr Pos)} {clauses : Clauses Pos} {loc : Pos} {file : String}
      {busy middle after : Finset String} {found : List Ty} {specifier : Specifier}
      {log log' : List Diagnostic} : Runs types (.types params file) busy found log middle →
      Runs types (.clauses clauses file) middle specifier log' after →
      specifier.isConflicting = false →
      Runs types (.type (.function params clauses loc) file) busy
        (.function found specifier.meaning) (log ++ log') after
  /-- A function type with clauses that contradict each other. -/
  | contradiction {params : List (TypeExpr Pos)} {clauses : Clauses Pos} {loc : Pos}
      {file : String} {busy middle after : Finset String} {found : List Ty}
      {specifier : Specifier} {log log' : List Diagnostic} :
      Runs types (.types params file) busy found log middle →
      Runs types (.clauses clauses file) middle specifier log' after →
      specifier.isConflicting = true →
      Runs types (.type (.function params clauses loc) file) busy (.function found .undeclared)
        (log ++ (log' ++ [(Problem.contradiction specifier).report (spanAt file loc)])) after
  /-- No more types. -/
  | typesNil {file : String} {busy : Finset String} : Runs types (.types [] file) busy [] [] busy
  /-- Types are resolved from left to right. -/
  | typesCons {type : TypeExpr Pos} {rest : List (TypeExpr Pos)} {file : String} {found : Ty}
      {others : List Ty} {busy middle after : Finset String} {log log' : List Diagnostic} :
      Runs types (.type type file) busy found log middle →
      Runs types (.types rest file) middle others log' after →
      Runs types (.types (type :: rest) file) busy (found :: others) (log ++ log') after

variable {types : Types} {busy : Finset String}

/-- A run comes to the given value with the given log, and it leaves the names in progress as they
were. -/
def Completes (types : Types) (busy : Finset String) (task : Task) (logged : Logged task.Result) :
    Prop :=
  types.Runs task busy logged.value logged.log busy

/-! ## There is a run -/

section Existence

variable {lookup : Lookup}
  (hnames : ∀ name span, types.Completes busy (.name name span) (lookup name span))

include hnames

theorem completes_thrown (name : String) (span : Span) :
    types.Completes busy (.thrown name span) (resolveThrown lookup span name) := by
  have hname := hnames name span
  unfold Completes at hname ⊢
  rw [resolveThrown, Logged.value_below, Logged.log_below, Logged.value_bind, Logged.log_bind]
  cases hvalue : (lookup name span).value with
  | value found =>
    rw [hvalue] at hname
    simpa using Runs.thrownValue hname
  | function params contract =>
    rw [hvalue] at hname
    exact .thrownFunction hname

theorem completes_listed (names : List String) (span : Span) :
    types.Completes busy (.listed names span) (.each (resolveThrown lookup span) names) := by
  induction names with
  | nil => exact Runs.listedNil
  | cons name names ih =>
    have hcons := Runs.listedCons (completes_thrown hnames name span) ih
    simpa [Completes, Logged.each] using hcons

theorem completes_clauses (clauses : Clauses Pos) (file : String) :
    types.Completes busy (.clauses clauses file) (resolveClauses lookup file clauses) := by
  unfold Completes
  rw [resolveClauses_eq]
  cases hthrows : clauses.throws with
  | none => exact .unlisted hthrows
  | some names =>
    have hrun := Runs.clauses hthrows (completes_listed hnames names (spanAt? file clauses.loc))
    simpa [resolveListed] using hrun

omit hnames in
theorem completes_types {written : List (TypeExpr Pos)} {file : String}
    (h : ∀ type ∈ written, types.Completes busy (.type type file) (resolveType lookup file type)) :
    types.Completes busy (.types written file) (resolveAll lookup file written) := by
  induction written with
  | nil => exact Runs.typesNil
  | cons type rest ih =>
    obtain ⟨hfirst, hrest⟩ := List.forall_mem_cons.mp h
    have hcons := Runs.typesCons hfirst (ih hrest)
    simpa [Completes, resolveAll] using hcons

/-- If names are looked up by runs, then types are resolved by runs. -/
theorem completes_type (type : TypeExpr Pos) (file : String) :
    types.Completes busy (.type type file) (resolveType lookup file type) := by
  induction type using TypeExpr.induction with
  | named name isConst isVolatile isRef loc =>
    have hname := hnames name (spanAt file loc)
    unfold Completes at hname ⊢
    rw [resolveType_named, Logged.value_below, Logged.log_below, Logged.value_bind, Logged.log_bind]
    cases hvalue : (lookup name (spanAt file loc)).value with
    | value base =>
      rw [hvalue] at hname
      simpa [addQualifiers] using Runs.namedValue hname
    | function params contract =>
      rw [hvalue] at hname
      -- Whether there is one more report depends on the qualifiers.
      have hrun : types.Runs (.type (.named name isConst isVolatile isRef loc) file) busy _ _
          busy := .namedFunction hname
      cases isConst <;> cases isVolatile <;> cases isRef <;>
        simpa [addQualifiers] using hrun
  | function params clauses loc ih =>
    have hparams := completes_types ih
    have hclauses := completes_clauses hnames clauses file
    unfold Completes at hparams hclauses ⊢
    rw [resolveType, Logged.value_below, Logged.log_below]
    simp only [Logged.value_bind, Logged.log_bind, Logged.value_below, Logged.log_below]
    cases hconflict : (resolveClauses lookup file clauses).value.isConflicting with
    | false => simpa using Runs.function hparams hclauses hconflict
    | true => exact .contradiction hparams hclauses hconflict

end Existence

/-- Names are looked up by runs, if just the aliases in progress are being followed. -/
theorem completes_follow {count : Nat} {following : List String}
    (henough : types.Enough count following) (hbusy : ∀ name, name ∈ following ↔ name ∈ busy)
    (name : String) (span : Span) :
    types.Completes busy (.name name span) (types.follow count following name span) := by
  induction count using Nat.strongRecOn generalizing following busy name span with
  | _ count ih =>
    cases hbase : types.isBase name with
    | true =>
      rw [follow_of_isBase hbase]
      exact Runs.base hbase
    | false =>
      cases htarget : types.alias? name with
      | none =>
        rw [follow_of_unknown hbase htarget]
        exact Runs.unknown hbase htarget
      | some target =>
        by_cases hmem : name ∈ following
        · rw [follow_of_mem hbase htarget hmem]
          exact Runs.circular hbase htarget ((hbusy name).mp hmem)
        · have hnew : name ∉ busy := fun h => hmem ((hbusy name).mpr h)
          obtain ⟨left, hlt, hleft, heq⟩ := follow_of_alias henough htarget hbase hmem span
          -- The target is resolved with one more alias in progress, on both sides.
          have hinsert : ∀ other, other ∈ name :: following ↔ other ∈ insert name busy := by
            intro other
            rw [List.mem_cons, Finset.mem_insert, hbusy]
          have htype : types.Runs (.type target.type target.file) (insert name busy) _ _ _ :=
            completes_type (ih left hlt hleft hinsert) target.type target.file
          have hrun : types.Runs (.name name span) busy _ _ _ :=
            .followed hbase htarget hnew htype
          rw [heq]
          rwa [Finset.erase_insert hnew] at hrun

/-! ## There is only one run -/

theorem Runs.unique {task : Task} {result result' : task.Result} {log log' : List Diagnostic}
    {after after' : Finset String} (h : types.Runs task busy result log after)
    (h' : types.Runs task busy result' log' after') :
    result = result' ∧ log = log' ∧ after = after' := by
  -- The work leaves at most four rules to choose from, and their premises exclude each other.
  induction h generalizing log' after' with
  | base hbase => cases h' <;> simp_all
  | unknown hbase hnone => cases h' <;> simp_all
  | circular hbase htarget hmem => cases h' <;> simp_all
  | followed hbase htarget hnew _ ih =>
    cases h' with
    | base hbase' => simp_all
    | unknown _ hnone => simp_all
    | circular _ _ hmem => exact absurd hmem hnew
    | followed _ htarget' _ hrun' =>
      obtain rfl := Option.some.inj (htarget.symm.trans htarget')
      obtain ⟨rfl, rfl, rfl⟩ := ih hrun'
      exact ⟨rfl, rfl, rfl⟩
  | thrownValue _ ih =>
    cases h' with
    | thrownValue hrun' =>
      obtain ⟨hvalue, rfl, rfl⟩ := ih hrun'
      cases hvalue
      exact ⟨rfl, rfl, rfl⟩
    | thrownFunction hrun' => cases (ih hrun').1
  | thrownFunction _ ih =>
    cases h' with
    | thrownValue hrun' => cases (ih hrun').1
    | thrownFunction hrun' =>
      obtain ⟨-, rfl, rfl⟩ := ih hrun'
      exact ⟨rfl, rfl, rfl⟩
  | listedNil =>
    cases h'
    exact ⟨rfl, rfl, rfl⟩
  | listedCons _ _ ihFirst ihRest =>
    cases h' with
    | listedCons hfirst hrest =>
      obtain ⟨rfl, rfl, rfl⟩ := ihFirst hfirst
      obtain ⟨rfl, rfl, rfl⟩ := ihRest hrest
      exact ⟨rfl, rfl, rfl⟩
  | unlisted hthrows =>
    cases h' with
    | unlisted => exact ⟨rfl, rfl, rfl⟩
    | clauses hthrows' => cases hthrows.symm.trans hthrows'
  | clauses hthrows _ ih =>
    cases h' with
    | unlisted hthrows' => cases hthrows.symm.trans hthrows'
    | clauses hthrows' hlisted =>
      obtain rfl := Option.some.inj (hthrows.symm.trans hthrows')
      obtain ⟨rfl, rfl, rfl⟩ := ih hlisted
      exact ⟨rfl, rfl, rfl⟩
  | namedValue _ ih =>
    cases h' with
    | namedValue hrun' =>
      obtain ⟨hvalue, rfl, rfl⟩ := ih hrun'
      cases hvalue
      exact ⟨rfl, rfl, rfl⟩
    | namedFunction hrun' => cases (ih hrun').1
  | namedFunction _ ih =>
    cases h' with
    | namedValue hrun' => cases (ih hrun').1
    | namedFunction hrun' =>
      obtain ⟨hvalue, rfl, rfl⟩ := ih hrun'
      exact ⟨hvalue, rfl, rfl⟩
  | function _ _ hconflict ihParams ihClauses =>
    cases h' with
    | function hparams hclauses =>
      obtain ⟨rfl, rfl, rfl⟩ := ihParams hparams
      obtain ⟨rfl, rfl, rfl⟩ := ihClauses hclauses
      exact ⟨rfl, rfl, rfl⟩
    | contradiction hparams hclauses hconflict' =>
      -- The same clauses cannot be in conflict in one run only.
      obtain ⟨rfl, rfl, rfl⟩ := ihParams hparams
      obtain ⟨rfl, rfl, rfl⟩ := ihClauses hclauses
      cases hconflict.symm.trans hconflict'
  | contradiction _ _ hconflict ihParams ihClauses =>
    cases h' with
    | function hparams hclauses hconflict' =>
      obtain ⟨rfl, rfl, rfl⟩ := ihParams hparams
      obtain ⟨rfl, rfl, rfl⟩ := ihClauses hclauses
      cases hconflict.symm.trans hconflict'
    | contradiction hparams hclauses =>
      obtain ⟨rfl, rfl, rfl⟩ := ihParams hparams
      obtain ⟨rfl, rfl, rfl⟩ := ihClauses hclauses
      exact ⟨rfl, rfl, rfl⟩
  | typesNil =>
    cases h'
    exact ⟨rfl, rfl, rfl⟩
  | typesCons _ _ ihFirst ihRest =>
    cases h' with
    | typesCons hfirst hrest =>
      obtain ⟨rfl, rfl, rfl⟩ := ihFirst hfirst
      obtain ⟨rfl, rfl, rfl⟩ := ihRest hrest
      exact ⟨rfl, rfl, rfl⟩

/-- There is exactly one run for a type: it comes to what the type is resolved to, and it leaves the
names in progress as they were. -/
theorem runs_iff {count : Nat} {following : List String} (henough : types.Enough count following)
    (hbusy : ∀ name, name ∈ following ↔ name ∈ busy) {type : TypeExpr Pos} {file : String}
    {result : Ty} {log : List Diagnostic} {after : Finset String} :
    types.Runs (.type type file) busy result log after ↔
      result = (resolveType (types.follow count following) file type).value ∧
        log = (resolveType (types.follow count following) file type).log ∧ after = busy := by
  have hrun : types.Runs (.type type file) busy _ _ busy :=
    completes_type (completes_follow henough hbusy) type file
  constructor
  · exact fun h => h.unique hrun
  · rintro ⟨rfl, rfl, rfl⟩
    exact hrun

/-- Resolving a type always ends, with no name in progress as at the beginning, and it reports
nothing if and only if there is no defect in what the type reaches. -/
theorem resolution_ends_and_reports_reached_defects (types : Types) (file : String)
    (type : TypeExpr Pos) :
    (∀ result log after, types.Runs (.type type file) ∅ result log after ↔
      result = (types.resolve file type).value ∧ log = (types.resolve file type).log ∧ after = ∅) ∧
    ((types.resolve file type).log = [] ↔ types.Defectless type) :=
  ⟨fun _ _ _ => runs_iff types.enough_length (by simp), log_resolve_eq_nil_iff⟩

end Types

end Throws.Resolution
