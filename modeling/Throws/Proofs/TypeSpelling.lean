import Throws.Proofs.ParserLogic

/-!
# Names in types are identifiers

The reader builds types only from the names that it reads, so all names in a type, in a clause or in
the parameters of a function are identifiers.
-/

namespace Throws.Surface

/-- All names in the clauses are identifiers. -/
def Clauses.Spelled {ι : Type} (clauses : Clauses ι) : Prop :=
  ∀ names ∈ clauses.throws, ∀ name ∈ names, IsIdentifier name

/-- All names in the type are identifiers. -/
inductive TypeExpr.Spelled {ι : Type} : TypeExpr ι → Prop
  | named {name : String} {isConst isVolatile isRef : Bool} {loc : ι} :
      IsIdentifier name → Spelled (.named name isConst isVolatile isRef loc)
  | function {params : List (TypeExpr ι)} {clauses : Clauses ι} {loc : ι} :
      (∀ param ∈ params, Spelled param) → clauses.Spelled →
      Spelled (.function params clauses loc)

namespace Grammar

open Throws.Surface.Parser

variable {ρ : Type}

/-! ## Types and clauses -/

/-- An entry of a `throws` clause is a name or the wildcard. -/
theorem yields_thrown :
    Yields (thrown : Parser ρ _) fun entry => ∀ name ∈ entry, IsIdentifier name := by
  refine .peek fun terminal => ?_
  split
  · -- The token is known to be a name.
    refine (YieldsAt.take _ _).bind fun lexeme hlexeme => .pure fun name hname => ?_
    obtain rfl := Option.some.inj hname
    exact hlexeme rfl
  · exact (YieldsAt.take _ _).bind fun _ _ => .pure fun name hname => nomatch hname
  · exact Yields.reject _

/-- All names among the entries of a `throws` clause are identifiers. -/
def Entries (entries : List (Option String)) : Prop :=
  ∀ entry ∈ entries, ∀ name ∈ entry, IsIdentifier name

/-- The entries behind the first one are such entries. -/
theorem yields_moreThrown (n : Nat) (found : List (Option String)) (hfound : Entries found) :
    Yields (moreThrown n found : Parser ρ _) Entries := by
  induction n generalizing found with
  | zero => exact .reject
  | succ n ih =>
    refine Sane.peek.yields_bind fun terminal => ?_
    split
    · refine (Sane.take _).yields_bind fun _ => yields_thrown.bind fun entry hentry => ?_
      exact ih _ (List.forall_mem_cons.mpr ⟨hentry, hfound⟩)
    · refine (Sane.expect _ _).yields_bind fun _ => .pure fun entry hentry => ?_
      exact hfound entry (List.mem_reverse.mp hentry)

/-- The list of a `throws` clause has only such entries. -/
theorem yields_thrownList (n : Nat) : Yields (thrownList n : Parser ρ _) Entries := by
  refine Sane.peek.yields_bind fun terminal => ?_
  split
  · exact (Sane.take _).yields_bind fun _ => .pure (List.forall_mem_nil _)
  · refine yields_thrown.bind fun entry hentry => yields_moreThrown n _ ?_
    exact List.forall_mem_singleton.mpr hentry

/-- All names in the clause are identifiers. -/
def Clause.Spelled : Clause → Prop
  | .throws names _ _ => ∀ name ∈ names, IsIdentifier name
  | .noexcept _ => True

/-- Merging a clause adds nothing but its own names. -/
theorem Clause.spelled_merge {clause : Clause} {rest : Clauses Nat} (hclause : clause.Spelled)
    (hrest : rest.Spelled) : (clause.merge rest).Spelled := by
  cases clause with
  | noexcept loc => exact hrest
  | throws names wildcard loc =>
    intro all hall name hname
    obtain rfl := Option.some.inj hall
    rcases List.mem_append.mp hname with hname | hname
    · exact hclause name hname
    · cases hthrows : rest.throws with
      | none =>
        rw [hthrows] at hname
        exact absurd hname List.not_mem_nil
      | some others =>
        rw [hthrows] at hname
        exact hrest others hthrows name hname

/-- Merged clauses have only the names of the clauses. -/
theorem Clause.spelled_mergeAll {clauses : List Clause} (h : ∀ clause ∈ clauses, clause.Spelled) :
    (mergeAll clauses).Spelled := by
  induction clauses with
  | nil => exact fun _ hnames => nomatch hnames
  | cons clause rest ih =>
    obtain ⟨hclause, hrest⟩ := List.forall_mem_cons.mp h
    exact spelled_merge hclause (ih hrest)

/-- The names in clauses are identifiers if those found so far are. -/
theorem yields_clauses (n : Nat) (found : List Clause) (hfound : ∀ clause ∈ found, clause.Spelled) :
    Yields (clauses n found : Parser ρ _) Clauses.Spelled := by
  induction n generalizing found with
  | zero => exact .reject
  | succ n ih =>
    refine Sane.peek.yields_bind fun terminal => ?_
    split
    · refine (Sane.take _).yields_bind fun head => (Sane.expect _ _).yields_bind fun _ =>
        (yields_thrownList n).bind fun entries hentries => ih _ ?_
      refine List.forall_mem_cons.mpr ⟨fun name hname => ?_, hfound⟩
      obtain ⟨entry, hentry, heq⟩ := List.mem_filterMap.mp hname
      exact hentries entry hentry name heq
    · exact (Sane.take _).yields_bind fun head =>
        ih _ (List.forall_mem_cons.mpr ⟨trivial, hfound⟩)
    · exact .pure (Clause.spelled_mergeAll fun clause hclause =>
        hfound clause (List.mem_reverse.mp hclause))

/-- The names in the clauses of a function are identifiers. -/
theorem yields_allClauses (n : Nat) : Yields (clauses n [] : Parser ρ _) Clauses.Spelled :=
  yields_clauses n [] (List.forall_mem_nil _)

/-- Qualifiers are made of tokens alone. -/
theorem sane_qualifiers (n : Nat) (found : Qualifiers) :
    Sane (qualifiers n found : Parser ρ _) := by
  induction n generalizing found with
  | zero => exact .reject
  | succ n ih =>
    refine Sane.peek.bind fun terminal => ?_
    split
    · exact (Sane.take _).bind fun _ => ih _
    · exact (Sane.take _).bind fun _ => ih _
    · exact .pure _

/-- So is the mark of a reference. -/
theorem sane_reference : Sane (reference : Parser ρ _) :=
  Sane.peek.bind fun _ => .ite ((Sane.take _).bind fun _ => .pure _) (.pure _)

/-- The name of a type is an identifier. -/
theorem yields_namedType (n : Nat) : Yields (namedType n : Parser ρ _) TypeExpr.Spelled :=
  (sane_qualifiers n _).yields_bind fun _ => (Yields.expect _ _).bind fun _ hname =>
    sane_reference.yields_bind fun _ => .pure (.named (hname rfl))

mutual

/-- The names in a type are identifiers. -/
theorem yields_type : (n : Nat) → Yields (type n : Parser ρ _) TypeExpr.Spelled
  | 0 => .reject
  | n + 1 => by
    rw [type]
    refine Sane.peek.yields_bind fun terminal => ?_
    split
    · exact (Sane.take _).yields_bind fun _ => (Sane.expect _ _).yields_bind fun _ =>
        (yields_typeList n).bind fun params hparams =>
        (yields_allClauses n).bind fun _ hclauses =>
        .pure (.function hparams hclauses)
    · exact yields_namedType n
termination_by structural n => n

/-- So are those in the parameters of a function type. -/
theorem yields_typeList : (n : Nat) →
    Yields (typeList n : Parser ρ _) fun types => ∀ type ∈ types, type.Spelled
  | 0 => .reject
  | n + 1 => by
    rw [typeList]
    refine Sane.peek.yields_bind fun terminal => ?_
    split
    · exact (Sane.take _).yields_bind fun _ => .pure (List.forall_mem_nil _)
    · exact (yields_type n).bind fun _ htype =>
        yields_moreTypes n _ (List.forall_mem_singleton.mpr htype)
termination_by structural n => n

/-- So are those in the rest of the parameters. -/
theorem yields_moreTypes : (n : Nat) → (found : List (TypeExpr Nat)) →
    (∀ type ∈ found, type.Spelled) →
    Yields (moreTypes n found : Parser ρ _) fun types => ∀ type ∈ types, type.Spelled
  | 0, _, _ => .reject
  | n + 1, found, hfound => by
    rw [moreTypes]
    refine Sane.peek.yields_bind fun terminal => ?_
    split
    · exact (Sane.take _).yields_bind fun _ => (yields_type n).bind fun _ htype =>
        yields_moreTypes n _ (List.forall_mem_cons.mpr ⟨htype, hfound⟩)
    · exact (Sane.expect _ _).yields_bind fun _ => .pure fun type htype =>
        hfound type (List.mem_reverse.mp htype)
termination_by structural n => n

end

/-- What a handler catches is made of tokens alone. -/
theorem sane_caught (n : Nat) : Sane (caught n : Parser ρ _) :=
  Sane.peek.bind fun _ => .ite ((Sane.take _).bind fun _ => .pure _)
    ((yields_type n).sane.bind fun _ => Sane.peek.bind fun _ =>
      .ite ((Sane.take _).bind fun _ => .pure _) (.pure _))

/-! ## Parameters -/

/-- The names in the type of a parameter are identifiers. -/
theorem yields_param (n : Nat) : Yields (param n : Parser ρ _) (·.type.Spelled) := by
  refine (yields_type n).bind fun type htype => Sane.peek.yields_bind fun _ => ?_
  split
  · exact (Sane.take _).yields_bind fun _ => .pure htype
  · exact .pure htype

/-- So are those in the rest of the parameters of a function. -/
theorem yields_moreParams (n : Nat) (found : List (Param Nat))
    (hfound : ∀ param ∈ found, param.type.Spelled) :
    Yields (moreParams n found : Parser ρ _) fun params =>
      ∀ param ∈ params, param.type.Spelled := by
  induction n generalizing found with
  | zero => exact .reject
  | succ n ih =>
    refine Sane.peek.yields_bind fun terminal => ?_
    split
    · exact (Sane.take _).yields_bind fun _ => (yields_param n).bind fun _ hparam =>
        ih _ (List.forall_mem_cons.mpr ⟨hparam, hfound⟩)
    · exact (Sane.expect _ _).yields_bind fun _ => .pure fun param hparam =>
        hfound param (List.mem_reverse.mp hparam)

/-- So are those in all parameters of a function. -/
theorem yields_paramList (n : Nat) :
    Yields (paramList n : Parser ρ _) fun params => ∀ param ∈ params, param.type.Spelled := by
  refine Sane.peek.yields_bind fun terminal => ?_
  split
  · exact (Sane.take _).yields_bind fun _ => .pure (List.forall_mem_nil _)
  · exact (yields_param n).bind fun _ hparam =>
      yields_moreParams n _ (List.forall_mem_singleton.mpr hparam)

end Grammar

end Throws.Surface
