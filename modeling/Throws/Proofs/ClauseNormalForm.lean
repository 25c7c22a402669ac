import Throws.Proofs.AliasGraph
import Throws.Proofs.ExceptionNames
import Throws.Proofs.RegistrationHistory
import Throws.Surface.Grammar

/-!
# The normal form of exception clauses

The clauses of a signature are merged, their names are resolved, and what comes out is checked and
turned into a contract. Of all that is written only this is left in the end:

* whether there are clauses of both kinds, which is a conflict;
* otherwise whether there is any clause, whether `...` is listed anywhere, and which types the
  listed names stand for (`Contract.NormalForm`).

So clauses may be split, merged, put in another order and repeated, names in them as well, and a
name may be spelled by an alias for it (`Types.Rearranged`). None of this makes a difference to the
contract, to the conflict, or to whether a table of signatures takes the declaration.

A name in a `throws` clause is followed through aliases up to a name that stands for itself. This is
said by `Types.StandsFor` without following anything, and resolution reports nothing for a name
exactly if there is such a way (`Types.log_resolveThrown_lookup_eq_nil_iff`).
-/

namespace Throws

/-! ## Normal forms -/

/-- The contract of clauses of which it is known whether there are any, whether `...` is listed, and
which types are listed besides. -/
inductive Contract.NormalForm (present wildcard : Prop) (listed : String → Prop) : Contract → Prop
  /-- Without a clause nothing is promised. -/
  | undeclared : ¬ present → NormalForm present wildcard listed .undeclared
  /-- With `...` all other types are of no account. -/
  | universal : present → wildcard → NormalForm present wildcard listed (.declared .universal)
  /-- Otherwise only the listed types are allowed, if there are any. -/
  | finite {names : NameSet} : present → ¬ wildcard → (∀ name, name ∈ names ↔ listed name) →
      NormalForm present wildcard listed (.declared (.finite names))

theorem Contract.NormalForm.unique {present wildcard : Prop} {listed : String → Prop}
    {contract contract' : Contract} (h : NormalForm present wildcard listed contract)
    (h' : NormalForm present wildcard listed contract') : contract = contract' := by
  cases h with
  | undeclared habsent =>
    cases h' with
    | undeclared => rfl
    | universal hpresent | finite hpresent => exact absurd hpresent habsent
  | universal hpresent hwildcard =>
    cases h' with
    | undeclared habsent => exact absurd hpresent habsent
    | universal => rfl
    | finite _ hnone => exact absurd hwildcard hnone
  | @finite names hpresent hnone hnames =>
    cases h' with
    | undeclared habsent => exact absurd hpresent habsent
    | universal _ hwildcard => exact absurd hwildcard hnone
    | @finite names' _ _ hnames' =>
      obtain rfl : names = names' := NameSet.ext fun name => (hnames name).trans (hnames' name).symm
      rfl

theorem Specifier.toOption_contract (specifier : Specifier) :
    specifier.contract.toOption =
      if specifier.isConflicting then none else some specifier.meaning := by
  rw [contract]
  split <;> rfl

/-! ## Tables without spans -/

namespace Signature.Table

variable {table table' : Table} {key : FunctionKey}

theorem lookup_items : table.items.lookup key = (table.find? key).map (·.contract) := by
  obtain ⟨entries⟩ := table
  rw [items, find?]
  induction entries with
  | nil => rfl
  | cons first rest ih =>
    rw [List.map_cons, List.lookup_cons, List.lookup_cons, ih]
    cases key == first.1 <;> rfl

theorem items_setContract (contract : Contract) :
    (table.setContract key contract).items = table.items.map fun item =>
      (item.1, if item.1 = key then contract else item.2) := by
  rw [setContract, items, items, List.map_map, List.map_map]
  refine List.map_congr_left fun item _ => ?_
  simp only [Function.comp_apply]
  split <;> rfl

/-- The functions in a table and their contracts decide what becomes of them when a contract is
recorded. Where the declarations stand is of no account. -/
theorem items_recordContract_congr (h : table.items = table'.items) (contract : Contract)
    (span span' : Span) :
    (table.recordContract key contract span).toOption.map items =
      (table'.recordContract key contract span').toOption.map items := by
  -- Either table has an entry for the function if the other one has, with the same contract.
  have hlookup : (table.find? key).map (·.contract) = (table'.find? key).map (·.contract) := by
    rw [← lookup_items, ← lookup_items, h]
  unfold recordContract
  cases hfind : table.find? key with
  | none =>
    cases hfind' : table'.find? key with
    | none =>
      simp only [Except.toOption, Option.map_some, push, items, List.map_append] at h ⊢
      rw [h]
      rfl
    | some earlier' => simp [hfind, hfind'] at hlookup
  | some earlier =>
    cases hfind' : table'.find? key with
    | none => simp [hfind, hfind'] at hlookup
    | some earlier' =>
      have hcontract : earlier.contract = earlier'.contract := by
        simpa [hfind, hfind'] using hlookup
      simp only [hcontract]
      split
      case isTrue => rfl
      case isFalse =>
        split
        case isTrue => simp [Except.toOption, items_setContract, h]
        case isFalse => simp [Except.toOption, h]

/-- The same for the clauses of a declaration: all that counts is their conflict and their
contract. -/
theorem items_record_congr (h : table.items = table'.items) {specifier specifier' : Specifier}
    (hconflict : specifier.isConflicting = specifier'.isConflicting)
    (hmeaning : specifier.meaning = specifier'.meaning) (span span' : Option Span) :
    (table.record key (.specifier specifier) span).toOption.map items =
      (table'.record key (.specifier specifier') span').toOption.map items := by
  cases hverdict : specifier'.isConflicting with
  | true =>
    rw [hverdict] at hconflict
    simp [record, checkSpecifier, hconflict, hverdict, bind, Except.bind, Except.toOption]
  | false =>
    rw [hverdict] at hconflict
    have hrecord : table.record key (.specifier specifier) span =
        table.recordContract key specifier.meaning _ := checkSpecifier_bind hconflict
    have hrecord' : table'.record key (.specifier specifier') span' =
        table'.recordContract key specifier'.meaning _ := checkSpecifier_bind hverdict
    rw [hrecord, hrecord', hmeaning]
    exact items_recordContract_congr h _ _ _

end Signature.Table

/-! ## Clauses -/

namespace Surface.Grammar.Clause

/-- The `throws` clause that has the given entries; `none` is `...`. -/
def ofEntries (entries : List (Option String)) (loc : Nat) : Clause :=
  .throws (entries.filterMap id) (entries.contains none) loc

/-- Whether the clause is `noexcept`. -/
def isNoexcept : Clause → Bool
  | .throws _ _ _ => false
  | .noexcept _ => true

/-- Whether the clause is a `throws` clause. -/
def isThrows : Clause → Bool
  | .throws _ _ _ => true
  | .noexcept _ => false

/-- Whether `...` is listed. -/
def hasWildcard : Clause → Bool
  | .throws _ wildcard _ => wildcard
  | .noexcept _ => false

/-- The names that are listed. -/
def names : Clause → List String
  | .throws names _ _ => names
  | .noexcept _ => []

theorem noexcept_mergeAll (clauses : List Clause) :
    (mergeAll clauses).noexcept = clauses.any isNoexcept := by
  induction clauses with
  | nil => rfl
  | cons clause rest ih =>
    cases clause with
    | throws => exact ih
    | noexcept => rfl

theorem wildcard_mergeAll (clauses : List Clause) :
    (mergeAll clauses).wildcard = clauses.any hasWildcard := by
  induction clauses with
  | nil => rfl
  | cons clause rest ih =>
    cases clause with
    | throws names wildcard loc => exact congrArg (wildcard || ·) ih
    | noexcept => exact ih

theorem isSome_throws_mergeAll (clauses : List Clause) :
    (mergeAll clauses).throws.isSome = clauses.any isThrows := by
  induction clauses with
  | nil => rfl
  | cons clause rest ih =>
    cases clause with
    | throws => rfl
    | noexcept => exact ih

theorem getD_throws_mergeAll (clauses : List Clause) :
    (mergeAll clauses).throws.getD [] = clauses.flatMap names := by
  induction clauses with
  | nil => rfl
  | cons clause rest ih =>
    cases clause with
    | throws listed wildcard loc => exact congrArg (listed ++ ·) ih
    | noexcept => exact ih

/-- Every clause is of one of the two kinds. -/
theorem ne_nil_iff {clauses : List Clause} :
    clauses ≠ [] ↔ (∃ clause ∈ clauses, clause.isNoexcept = true) ∨
      ∃ clause ∈ clauses, clause.isThrows = true := by
  constructor
  · intro h
    obtain ⟨clause, hclause⟩ := List.exists_mem_of_ne_nil clauses h
    cases clause with
    | throws => exact .inr ⟨_, hclause, rfl⟩
    | noexcept => exact .inl ⟨_, hclause, rfl⟩
  · rintro (⟨clause, hclause, -⟩ | ⟨clause, hclause, -⟩) <;> exact List.ne_nil_of_mem hclause

theorem isThrows_of_hasWildcard {clause : Clause} (h : clause.hasWildcard = true) :
    clause.isThrows = true := by
  cases clause with
  | throws => rfl
  | noexcept => cases h

@[simp]
theorem isNoexcept_ofEntries (entries : List (Option String)) (loc : Nat) :
    (ofEntries entries loc).isNoexcept = false := rfl

@[simp]
theorem isThrows_ofEntries (entries : List (Option String)) (loc : Nat) :
    (ofEntries entries loc).isThrows = true := rfl

@[simp]
theorem hasWildcard_ofEntries {entries : List (Option String)} {loc : Nat} :
    (ofEntries entries loc).hasWildcard = true ↔ none ∈ entries :=
  List.contains_iff_mem

@[simp]
theorem mem_names_ofEntries {entries : List (Option String)} {loc : Nat} {name : String} :
    name ∈ (ofEntries entries loc).names ↔ some name ∈ entries := by
  simp [ofEntries, names]

end Surface.Grammar.Clause

namespace Resolution

open Throws.Surface Throws.Surface.Grammar Throws.Signature

/-! ## What a listed name stands for -/

namespace Types

variable {types : Types} {name other canonical : String}

/-- Aliases lead from a name to one that stands for itself. -/
inductive StandsFor (types : Types) : String → String → Prop
  /-- An exception or a type that is built in. -/
  | base {name : String} : types.isBase name = true → StandsFor types name name
  /-- An alias for such a name, with any qualifiers. -/
  | step {name other canonical : String} {target : AliasTarget} {isConst isVolatile isRef : Bool}
      {loc : Pos} : types.isBase name = false → types.alias? name = some target →
      target.type = .named other isConst isVolatile isRef loc → StandsFor types other canonical →
      StandsFor types name canonical

/-- An alias is declared for a name, with any qualifiers. -/
def IsAliasFor (types : Types) (name other : String) : Prop :=
  ∃ target isConst isVolatile isRef loc, types.isBase name = false ∧
    types.alias? name = some target ∧ target.type = .named other isConst isVolatile isRef loc

/-- An alias stands for what its target stands for. -/
theorem IsAliasFor.standsFor_iff (h : types.IsAliasFor name other) :
    types.StandsFor name canonical ↔ types.StandsFor other canonical := by
  obtain ⟨target, isConst, isVolatile, isRef, loc, hbase, htarget, hwritten⟩ := h
  constructor
  · intro hname
    cases hname with
    | base hbase' => simp [hbase] at hbase'
    | step _ htarget' hwritten' hother =>
      cases htarget.symm.trans htarget'
      cases hwritten.symm.trans hwritten'
      exact hother
  · exact .step hbase htarget hwritten

namespace StandsFor

theorem unique {canonical' : String} (h : types.StandsFor name canonical)
    (h' : types.StandsFor name canonical') : canonical = canonical' := by
  induction h with
  | base hbase =>
    cases h' with
    | base => rfl
    | step hbase' => simp [hbase] at hbase'
  | step hbase htarget hwritten _ ih =>
    exact ih ((IsAliasFor.standsFor_iff ⟨_, _, _, _, _, hbase, htarget, hwritten⟩).mp h')

theorem grounded (h : types.StandsFor name canonical) : types.Grounded name := by
  induction h with
  | base hbase => exact .base hbase
  | step hbase htarget hwritten _ ih =>
    refine .step hbase htarget ?_
    rw [hwritten]
    exact List.forall_mem_singleton.mpr ih

theorem not_isFunctionAlias (h : types.StandsFor name canonical) :
    ¬ types.IsFunctionAlias name := by
  induction h with
  | base hbase =>
    intro hfunction
    cases hfunction <;> simp_all
  | step hbase htarget hwritten _ ih =>
    intro hfunction
    cases hfunction with
    | direct _ htarget' hwritten' =>
      cases htarget.symm.trans htarget'
      cases hwritten.symm.trans hwritten'
    | through _ htarget' hwritten' hother =>
      cases htarget.symm.trans htarget'
      cases hwritten.symm.trans hwritten'
      exact ih hother

/-- Whatever is used on the way stands for the same. -/
theorem of_reflTransGen (h : types.StandsFor name canonical)
    (hpath : Relation.ReflTransGen types.Uses name other) : types.StandsFor other canonical := by
  induction hpath with
  | refl => exact h
  | tail _ huses ih =>
    obtain ⟨target, hbase, htarget, hmem⟩ := huses
    cases ih with
    | base hbase' => simp [hbase] at hbase'
    | step _ htarget' hwritten hnext =>
      cases htarget.symm.trans htarget'
      rw [hwritten] at hmem
      rwa [List.mem_singleton.mp hmem]

theorem defectless (h : types.StandsFor name canonical) :
    types.Defectless (.named name false false false {}) := by
  -- Only one name is reached after the other, since there is no function type on the way.
  have hreaches : ∀ other, types.Reaches (.named name false false false {}) other →
      types.StandsFor other canonical := by
    rintro other ⟨first, hfirst, hpath⟩
    rw [List.mem_singleton.mp hfirst] at hpath
    exact h.of_reflTransGen hpath
  refine ⟨fun other hother => (hreaches other hother).grounded.isTaken,
    fun other hother => (hreaches other hother).grounded.not_transGen_self,
    fun visited hvisits => ?_⟩
  cases hvisits with
  | self => exact List.forall_mem_singleton.mpr (fun hany => absurd hany Bool.false_ne_true)
  | target hother hbase htarget =>
    cases hreaches _ hother with
    | base hbase' => simp [hbase] at hbase'
    | step _ htarget' hwritten hnext =>
      cases htarget.symm.trans htarget'
      rw [hwritten]
      exact List.forall_mem_singleton.mpr fun _ => hnext.not_isFunctionAlias

end StandsFor

/-- A name that is followed to the type of a value stands for the name of this type. -/
theorem standsFor_of_follow {count : Nat} {following : List String} {span : Span}
    {type : ValueType} (henough : types.Enough count following)
    (hlog : (types.follow count following name span).log = [])
    (h : (types.follow count following name span).value = .value type) :
    types.StandsFor name type.name := by
  induction count using Nat.strongRecOn generalizing following name span type with
  | _ count ih =>
    rcases follow_cases henough name span with ⟨hbase, heq⟩ |
      ⟨target, left, hbase, htarget, -, hlt, hleft, heq⟩ | ⟨problem, heq⟩ <;> rw [heq] at h hlog
    · cases h
      exact .base hbase
    · obtain ⟨other, isConst, isVolatile, isRef, loc, base, hwritten, hvalue, -, hname⟩ :=
        exists_named_of_resolveType h
      rw [Logged.log_below, log_resolveType_follow_eq_nil_iff hleft, hwritten] at hlog
      rw [← hname]
      exact .step hbase htarget hwritten
        (ih left hlt hleft (hlog.1 other (List.mem_singleton.mpr rfl) _) hvalue)
    · cases hlog

/-- A listed name stands for a type if nothing is reported for it. -/
theorem log_resolveThrown_lookup_eq_nil_iff (span : Span) :
    (resolveThrown types.lookup span name).log = [] ↔
      ∃ canonical, types.StandsFor name canonical := by
  rw [log_resolveThrown_eq_nil_iff]
  constructor
  · rintro ⟨hlog, hvalue⟩
    cases htype : (types.lookup name span).value with
    | value type => exact ⟨type.name, standsFor_of_follow types.enough_length hlog htype⟩
    | function params contract =>
      rw [htype] at hvalue
      cases hvalue
  · rintro ⟨canonical, h⟩
    -- The name is followed as it would be if it were written as a type.
    have hresolve : (types.resolve "" (.named name false false false {})).log = [] :=
      log_resolve_eq_nil_iff.mpr h.defectless
    have hnames := ((log_resolveType_follow_eq_nil_iff types.enough_length).mp hresolve).1
    have hlog := hnames name (List.mem_singleton.mpr rfl) span
    have hfunction := isFunction_follow_iff types.enough_length hlog
    exact ⟨hlog, Bool.eq_false_iff.mpr fun htrue => h.not_isFunctionAlias (hfunction.mp htrue)⟩

/-- What is listed is the name that it stands for. -/
theorem StandsFor.value_resolveThrown (h : types.StandsFor name canonical) (span : Span) :
    (resolveThrown types.lookup span name).value = canonical := by
  have hlog := (log_resolveThrown_lookup_eq_nil_iff span).mpr ⟨canonical, h⟩
  obtain ⟨hlog, hvalue⟩ := log_resolveThrown_eq_nil_iff.mp hlog
  rw [Resolution.value_resolveThrown]
  cases htype : (types.lookup name span).value with
  | value type => exact (standsFor_of_follow types.enough_length hlog htype).unique h
  | function params contract =>
    rw [htype] at hvalue
    cases hvalue

/-- A type is listed in one of the clauses, by its own name or by that of an alias. -/
def Lists (types : Types) (clauses : List Clause) (canonical : String) : Prop :=
  ∃ clause ∈ clauses, ∃ name ∈ clause.names, types.StandsFor name canonical

/-- Every name that is listed in one of the clauses stands for a type. -/
def Covers (types : Types) (clauses : List Clause) : Prop :=
  ∀ clause ∈ clauses, ∀ name ∈ clause.names, ∃ canonical, types.StandsFor name canonical

/-- What the listed names are resolved to is what the clauses list. -/
theorem Covers.mem_map_resolveThrown_iff {clauses : List Clause} (h : types.Covers clauses)
    (span : Span) :
    (canonical ∈ (clauses.flatMap Clause.names).map fun name =>
        (resolveThrown types.lookup span name).value) ↔ types.Lists clauses canonical := by
  rw [List.mem_map]
  constructor
  · rintro ⟨name, hname, rfl⟩
    obtain ⟨clause, hclause, hname⟩ := List.mem_flatMap.mp hname
    obtain ⟨canonical, hstands⟩ := h clause hclause name hname
    rw [hstands.value_resolveThrown]
    exact ⟨clause, hclause, name, hname, hstands⟩
  · rintro ⟨clause, hclause, name, hname, hstands⟩
    exact ⟨name, List.mem_flatMap.mpr ⟨clause, hclause, hname⟩, hstands.value_resolveThrown span⟩

/-- What the clauses of a signature are resolved to. -/
def specifierOf (types : Types) (file : String) (position : Nat → Pos) (clauses : List Clause) :
    Logged Specifier :=
  types.annotate file ((Clause.mergeAll clauses).mapLoc position)

section Specifiers

variable (file : String) (position : Nat → Pos) {clauses : List Clause}

/-- Nothing is reported for clauses if every listed name stands for a type. -/
theorem log_specifierOf_eq_nil_iff :
    (types.specifierOf file position clauses).log = [] ↔ types.Covers clauses := by
  have hnames : ((Clause.mergeAll clauses).mapLoc position).throws.getD [] =
      clauses.flatMap Clause.names := Clause.getD_throws_mergeAll clauses
  rw [specifierOf, annotate, log_resolveClauses_eq_nil_iff, hnames, Covers,
    ← List.forall_mem_flatMap]
  refine forall₂_congr fun name _ => ?_
  rw [← log_resolveThrown_eq_nil_iff, log_resolveThrown_lookup_eq_nil_iff]

/-- Clauses are in conflict if there are some of both kinds. -/
theorem isConflicting_specifierOf_iff :
    (types.specifierOf file position clauses).value.isConflicting = true ↔
      (∃ clause ∈ clauses, clause.isNoexcept = true) ∧
        ∃ clause ∈ clauses, clause.isThrows = true := by
  -- A wildcard alone would do for a conflict, but it does not stand outside of a `throws` clause.
  have hwildcard : (∃ clause ∈ clauses, clause.hasWildcard = true) →
      ∃ clause ∈ clauses, clause.isThrows = true := by
    rintro ⟨clause, hclause, h⟩
    exact ⟨clause, hclause, Clause.isThrows_of_hasWildcard h⟩
  have hcontradict : ((Clause.mergeAll clauses).mapLoc position).contradict =
      (clauses.any Clause.isNoexcept &&
        (clauses.any Clause.isThrows || clauses.any Clause.hasWildcard)) := by
    rw [← Clause.noexcept_mergeAll, ← Clause.isSome_throws_mergeAll, ← Clause.wildcard_mergeAll]
    rfl
  rw [specifierOf, annotate, isConflicting_resolveClauses, hcontradict, Bool.and_eq_true,
    Bool.or_eq_true, List.any_eq_true, List.any_eq_true, List.any_eq_true, or_iff_left_of_imp]
  exact hwildcard

/-- The meaning of clauses is their normal form. -/
theorem normalForm_specifierOf (h : types.Covers clauses) :
    Contract.NormalForm (clauses ≠ []) (∃ clause ∈ clauses, clause.hasWildcard = true)
      (types.Lists clauses) (types.specifierOf file position clauses).value.meaning := by
  have hpresent : ∀ {p : Clause → Bool}, clauses.any p = true → clauses ≠ [] := by
    rintro p hany rfl
    cases hany
  rw [specifierOf, annotate, value_resolveClauses]
  -- What is left of the clauses after merging, in terms of the clauses.
  have hwildcard := Clause.wildcard_mergeAll clauses
  have hnoexcept := Clause.noexcept_mergeAll clauses
  have hthrows := Clause.isSome_throws_mergeAll clauses
  have hnames := Clause.getD_throws_mergeAll clauses
  generalize Clause.mergeAll clauses = merged at *
  obtain ⟨throws, wildcard, noexcept, loc⟩ := merged
  cases wildcard with
  | true => exact .universal (hpresent hwildcard.symm) (List.any_eq_true.mp hwildcard.symm)
  | false =>
    have hnone : ¬ ∃ clause ∈ clauses, clause.hasWildcard = true := fun hany =>
      absurd (hwildcard.trans (List.any_eq_true.mpr hany)) Bool.false_ne_true
    cases throws with
    | some listed =>
      obtain rfl : listed = _ := hnames
      refine .finite (hpresent hthrows.symm) hnone fun canonical => ?_
      exact NameSet.mem_ofList.trans (h.mem_map_resolveThrown_iff _)
    | none =>
      cases noexcept with
      | true =>
        -- Nothing is listed, and nothing is allowed.
        refine .finite (hpresent hnoexcept.symm) hnone fun canonical => ?_
        rw [← h.mem_map_resolveThrown_iff {}, ← hnames]
        exact iff_of_false NameSet.not_mem_empty List.not_mem_nil
      | false =>
        refine .undeclared fun hne => ?_
        rcases Clause.ne_nil_iff.mp hne with hany | hany
        · exact Bool.false_ne_true (hnoexcept.trans (List.any_eq_true.mpr hany))
        · exact Bool.false_ne_true (hthrows.trans (List.any_eq_true.mpr hany))

end Specifiers

/-! ## Clauses that are written in other ways -/

/-- One change in how clauses are written. Locations may change with it. -/
inductive Rewrites (types : Types) : List Clause → List Clause → Prop
  /-- Two clauses change places. -/
  | swap (first second : Clause) : Rewrites types [first, second] [second, first]
  /-- A clause is repeated. -/
  | repeated (clause : Clause) : Rewrites types [clause] [clause, clause]
  /-- A `throws` clause is split up. -/
  | split (entries entries' : List (Option String)) (loc loc' loc'' : Nat) :
      Rewrites types [.ofEntries (entries ++ entries') loc]
        [.ofEntries entries loc', .ofEntries entries' loc'']
  /-- The entries of a clause are put in another order. -/
  | reordered {entries entries' : List (Option String)} (loc loc' : Nat) : entries.Perm entries' →
      Rewrites types [.ofEntries entries loc] [.ofEntries entries' loc']
  /-- An entry of a clause is repeated. -/
  | listedAgain (entry : Option String) (entries : List (Option String)) (loc loc' : Nat) :
      Rewrites types [.ofEntries (entry :: entries) loc]
        [.ofEntries (entry :: entry :: entries) loc']
  /-- A name is spelled by an alias for it. -/
  | respelled {name other : String} (entries : List (Option String)) (loc loc' : Nat) :
      types.IsAliasFor name other →
      Rewrites types [.ofEntries (some other :: entries) loc]
        [.ofEntries (some name :: entries) loc']
  /-- The word `noexcept` stands elsewhere. -/
  | moved (loc loc' : Nat) : Rewrites types [.noexcept loc] [.noexcept loc']

/-- Any number of such changes, in either direction and among other clauses. -/
def Rearranged (types : Types) : List Clause → List Clause → Prop :=
  Relation.EqvGen fun clauses clauses' => ∃ before changed changed' after,
    types.Rewrites changed changed' ∧ clauses = before ++ changed ++ after ∧
      clauses' = before ++ changed' ++ after

/-- Clauses of which all that counts is the same. -/
structure Alike (types : Types) (clauses clauses' : List Clause) : Prop where
  /-- There is a `noexcept` in both or in none. -/
  noexcept_iff : (∃ clause ∈ clauses, clause.isNoexcept = true) ↔
    ∃ clause ∈ clauses', clause.isNoexcept = true
  /-- There is a `throws` clause in both or in none. -/
  throws_iff : (∃ clause ∈ clauses, clause.isThrows = true) ↔
    ∃ clause ∈ clauses', clause.isThrows = true
  /-- There is a `...` in both or in none. -/
  wildcard_iff : (∃ clause ∈ clauses, clause.hasWildcard = true) ↔
    ∃ clause ∈ clauses', clause.hasWildcard = true
  /-- The listed names stand for the same types. -/
  lists_iff : ∀ canonical, types.Lists clauses canonical ↔ types.Lists clauses' canonical
  /-- All of them stand for a type in both or in none. -/
  covers_iff : types.Covers clauses ↔ types.Covers clauses'

namespace Alike

variable {clauses clauses' clauses'' : List Clause}

theorem refl (clauses : List Clause) : types.Alike clauses clauses :=
  ⟨.rfl, .rfl, .rfl, fun _ => .rfl, .rfl⟩

theorem symm (h : types.Alike clauses clauses') : types.Alike clauses' clauses :=
  ⟨h.noexcept_iff.symm, h.throws_iff.symm, h.wildcard_iff.symm, fun canonical =>
    (h.lists_iff canonical).symm, h.covers_iff.symm⟩

theorem trans (h : types.Alike clauses clauses') (h' : types.Alike clauses' clauses'') :
    types.Alike clauses clauses'' :=
  ⟨h.noexcept_iff.trans h'.noexcept_iff, h.throws_iff.trans h'.throws_iff,
    h.wildcard_iff.trans h'.wildcard_iff, fun canonical =>
    (h.lists_iff canonical).trans (h'.lists_iff canonical), h.covers_iff.trans h'.covers_iff⟩

/-- What counts of clauses in a row is what counts of each part. -/
theorem among (h : types.Alike clauses clauses') (before after : List Clause) :
    types.Alike (before ++ clauses ++ after) (before ++ clauses' ++ after) := by
  have hexists : ∀ {p : Clause → Prop},
      ((∃ clause ∈ clauses, p clause) ↔ ∃ clause ∈ clauses', p clause) →
        ((∃ clause ∈ before ++ clauses ++ after, p clause) ↔
          ∃ clause ∈ before ++ clauses' ++ after, p clause) := by
    intro p hp
    simp only [List.mem_append, or_and_right, exists_or, hp]
  refine ⟨hexists h.noexcept_iff, hexists h.throws_iff, hexists h.wildcard_iff,
    fun canonical => hexists (h.lists_iff canonical), ?_⟩
  have hcovers := h.covers_iff
  simp only [Covers, List.mem_append, or_imp, forall_and] at hcovers ⊢
  rw [hcovers]

/-- Of a `throws` clause it counts whether `...` is among its entries and what the others stand
for. -/
theorem ofEntries {entries entries' : List (Option String)} (loc loc' : Nat)
    (hwildcard : none ∈ entries ↔ none ∈ entries')
    (hlists : ∀ canonical, (∃ name, some name ∈ entries ∧ types.StandsFor name canonical) ↔
      ∃ name, some name ∈ entries' ∧ types.StandsFor name canonical)
    (hcovers : (∀ name, some name ∈ entries → ∃ canonical, types.StandsFor name canonical) ↔
      ∀ name, some name ∈ entries' → ∃ canonical, types.StandsFor name canonical) :
    types.Alike [.ofEntries entries loc] [.ofEntries entries' loc'] := by
  refine ⟨by simp, by simp, by simpa using hwildcard, fun canonical => ?_, ?_⟩
  · simpa [Lists] using hlists canonical
  · simpa [Covers] using hcovers

/-- It does not count in which order the entries stand, and how often. -/
theorem of_mem_iff {entries entries' : List (Option String)} (loc loc' : Nat)
    (h : ∀ entry, entry ∈ entries ↔ entry ∈ entries') :
    types.Alike [.ofEntries entries loc] [.ofEntries entries' loc'] := by
  apply ofEntries <;> simp [h]

end Alike

theorem Rewrites.alike {clauses clauses' : List Clause} (h : types.Rewrites clauses clauses') :
    types.Alike clauses clauses' := by
  cases h with
  | swap first second => constructor <;> simp [Lists, Covers, or_comm, and_comm]
  | repeated clause => constructor <;> simp [Lists, Covers]
  | split entries entries' loc loc' loc'' =>
    constructor <;> simp [Lists, Covers, or_and_right, exists_or, or_imp, forall_and]
  | reordered loc loc' hperm => exact .of_mem_iff loc loc' fun _ => hperm.mem_iff
  | listedAgain entry entries loc loc' => exact .of_mem_iff loc loc' fun _ => by simp
  | respelled entries loc loc' halias =>
    apply Alike.ofEntries <;>
      simp [or_and_right, exists_or, or_imp, forall_and, halias.standsFor_iff]
  | moved loc loc' => constructor <;> simp [Lists, Covers, Clause.isNoexcept, Clause.isThrows,
      Clause.hasWildcard, Clause.names]

theorem Rearranged.alike {clauses clauses' : List Clause} (h : types.Rearranged clauses clauses') :
    types.Alike clauses clauses' := by
  induction h with
  | rel _ _ hchange =>
    obtain ⟨before, changed, changed', after, hrewrites, rfl, rfl⟩ := hchange
    exact hrewrites.alike.among before after
  | refl clauses => exact .refl clauses
  | symm _ _ _ ih => exact ih.symm
  | trans _ _ _ _ _ ih ih' => exact ih.trans ih'

/-- Clauses that are alike are in conflict alike and have the same meaning. -/
theorem Alike.specifierOf {clauses clauses' : List Clause} (h : types.Alike clauses clauses')
    (hcovers : types.Covers clauses) (file file' : String) (position position' : Nat → Pos) :
    let specifier := (types.specifierOf file position clauses).value
    let specifier' := (types.specifierOf file' position' clauses').value
    specifier.isConflicting = specifier'.isConflicting ∧
      specifier.meaning = specifier'.meaning := by
  intro specifier specifier'
  constructor
  · rw [Bool.eq_iff_iff, isConflicting_specifierOf_iff, isConflicting_specifierOf_iff,
      h.noexcept_iff, h.throws_iff]
  · have hform := normalForm_specifierOf file position hcovers
    have hform' := normalForm_specifierOf file' position' (h.covers_iff.mp hcovers)
    have hpresent : clauses ≠ [] ↔ clauses' ≠ [] := by
      rw [Clause.ne_nil_iff, Clause.ne_nil_iff, h.noexcept_iff, h.throws_iff]
    rw [hpresent, h.wildcard_iff, funext fun canonical => propext (h.lists_iff canonical)] at hform
    exact hform.unique hform'

/-- Clauses for which nothing is reported are in conflict exactly if there are some of both kinds,
and otherwise their contract is the normal form. However they are rearranged, nothing is reported,
the conflict and the contract stay the same, and so does what becomes of a table of signatures:
whether it takes the declaration, and the contracts that are in it then. -/
theorem clauses_have_one_normal_form (types : Types) (file : String) (position : Nat → Pos)
    (clauses : List Clause) (h : (types.specifierOf file position clauses).log = []) :
    let specifier := (types.specifierOf file position clauses).value
    (specifier.isConflicting = true ↔ (∃ clause ∈ clauses, clause.isNoexcept = true) ∧
        ∃ clause ∈ clauses, clause.isThrows = true) ∧
      (specifier.isConflicting = false → ∃ contract, specifier.contract = .ok contract ∧
        ∀ other, Contract.NormalForm (clauses ≠ [])
          (∃ clause ∈ clauses, clause.hasWildcard = true) (types.Lists clauses) other ↔
            other = contract) ∧
      ∀ clauses', types.Rearranged clauses clauses' → ∀ file' position',
        let rearranged := types.specifierOf file' position' clauses'
        rearranged.log = [] ∧ rearranged.value.isConflicting = specifier.isConflicting ∧
          rearranged.value.contract.toOption = specifier.contract.toOption ∧
          ∀ (table table' : Table) (key : FunctionKey) (span span' : Option Span),
            table.items = table'.items →
            (table.record key (.specifier specifier) span).toOption.map Table.items =
              (table'.record key (.specifier rearranged.value) span').toOption.map
                Table.items := by
  intro specifier
  have hcovers := (log_specifierOf_eq_nil_iff file position).mp h
  refine ⟨isConflicting_specifierOf_iff file position, fun hverdict => ?_,
    fun clauses' hrearranged file' position' => ?_⟩
  · have hform := normalForm_specifierOf file position hcovers
    refine ⟨specifier.meaning, if_neg (Bool.eq_false_iff.mp hverdict),
      fun other => ⟨fun hother => hother.unique hform, ?_⟩⟩
    rintro rfl
    exact hform
  · have halike := hrearranged.alike
    obtain ⟨hconflict, hmeaning⟩ := halike.specifierOf hcovers file file' position position'
    refine ⟨(log_specifierOf_eq_nil_iff file' position').mpr (halike.covers_iff.mp hcovers),
      hconflict.symm, ?_, fun table table' key span span' htables =>
      Table.items_record_congr htables hconflict hmeaning span span'⟩
    simp only [Specifier.toOption_contract, specifier, hconflict, hmeaning]

/-- Two exceptions, one of which has another name. -/
def twoNames : Types where
  exceptions := ["Failure", "Timeout"]
  aliases := [("Error", ⟨.named "Failure" true false false {}, "a.tc"⟩)]

/-- The clause `throws(Failure, Timeout)` may be written `throws(Timeout) throws(Error)`: it is
split, its parts change places, and a name is spelled by its alias. -/
theorem normal_form_twoNames :
    let single : List Clause := [.ofEntries [some "Failure", some "Timeout"] 3]
    let rearranged : List Clause := [.ofEntries [some "Timeout"] 3, .ofEntries [some "Error"] 7]
    let annotate := twoNames.specifierOf "a.tc" fun index => { line := 1, column := index }
    (annotate single).log = [] ∧ twoNames.Rearranged single rearranged ∧
      (annotate rearranged).log = [] ∧ (annotate rearranged).value.isConflicting = false ∧
      (annotate rearranged).value.contract.toOption =
        some (.declared (.ofList ["Failure", "Timeout"])) := by
  intro single rearranged annotate
  have hlog : (annotate single).log = [] := rfl
  have hrearranged : twoNames.Rearranged single rearranged := by
    refine .trans _ _ _ (.rel _ _ ⟨[], _, _, [], .split [some "Failure"] [some "Timeout"] 3 7 3,
      rfl, rfl⟩) ?_
    refine .trans _ _ _ (.rel _ _ ⟨[], _, _, [], .swap _ _, rfl, rfl⟩) ?_
    have halias : twoNames.IsAliasFor "Error" "Failure" := ⟨_, _, _, _, _, rfl, rfl, rfl⟩
    exact .rel _ _ ⟨[_], _, _, [], .respelled [] 7 7 halias, rfl, rfl⟩
  obtain ⟨-, -, hunchanged⟩ := clauses_have_one_normal_form twoNames "a.tc"
    (fun index => { line := 1, column := index }) single hlog
  obtain ⟨hlog', hconflict, hcontract, -⟩ := hunchanged rearranged hrearranged "a.tc"
    fun index => { line := 1, column := index }
  exact ⟨hlog, hrearranged, hlog', hconflict, hcontract⟩

end Types

end Resolution

end Throws
