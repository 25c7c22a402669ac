import Mathlib.Tactic.FinCases
import Throws.Proofs.Spelling
import Throws.Proofs.TokenReading

/-!
# Reading printed types

A printed type is read back to the type, locations aside, where it is followed by a token that can
stand behind a type (`reads_type`); the same holds of the clauses of a signature (`reads_clauses`).

Every parser has a bound. Four times the number of tokens is always enough, with one or two to
spare, and the constants are such that they fit together.
-/

namespace Throws.Surface.Grammar

open Throws.Surface.Parser

variable {ρ : Type} {stop : Terminal}

theorem name_of_text {lexeme : Lexeme} {name : String} (h : lexeme.text = (nameShape name).2) :
    lexeme.name = name := by
  rw [Lexeme.name, h]
  exact String.ofList_toList

/-! ## Clauses -/

theorem reads_thrown {entry : Option String} (hentry : ∀ name ∈ entry, IsName name)
    (hstop : stop ∈ Follow.commaOrClose) :
    Reads (thrown : Parser ρ _) [thrownShape entry] stop (· = entry) := by
  cases entry with
  | none =>
    refine .peek .ellipsis rfl (.take (isPrinted_shape rfl) (List.mem_cons_of_mem _ hstop) ?_)
    exact fun _ _ => .pure rfl
  | some name =>
    refine .peek .name rfl (.take (.name (hentry name rfl)) (List.mem_cons_of_mem _ hstop) ?_)
    exact fun lexeme hlexeme => .pure (congrArg some (name_of_text hlexeme))

theorem ahead_thrown (entry : Option String) (shapes : List Shape) :
    ahead (thrownShape entry :: shapes) stop ∈ Follow.thrown := by
  cases entry with
  | none => exact List.mem_cons_of_mem _ List.mem_cons_self
  | some name => exact List.mem_cons_self

theorem ahead_listTail (entries : List (List Shape)) :
    ahead (listTail entries) stop ∈ Follow.commaOrClose := by
  cases entries with
  | nil => exact List.mem_cons_of_mem _ List.mem_cons_self
  | cons entry entries => exact List.mem_cons_self

theorem reads_moreThrown {n : Nat} {found entries : List (Option String)}
    (hentries : ∀ entry ∈ entries, ∀ name ∈ entry, IsName name)
    (hn : entries.length + 1 ≤ n) (hstop : stop ∈ Follow.afterClause) :
    Reads (moreThrown n found : Parser ρ _)
      (listTail (entries.map fun entry => [thrownShape entry])) stop
      (· = found.reverse ++ entries) := by
  induction entries generalizing n found with
  | nil =>
    cases n with
    | zero => cases hn
    | succ n =>
      refine .peek .rpar rfl (.expect (isPrinted_shape rfl) rfl (List.mem_cons_of_mem _ hstop) ?_)
      exact fun _ _ => .pure (List.append_nil _).symm
  | cons entry entries ih =>
    obtain ⟨hentry, hentries⟩ := List.forall_mem_cons.mp hentries
    cases n with
    | zero => cases hn
    | succ n =>
      refine .peek .comma rfl (.take (isPrinted_shape rfl)
        (List.mem_cons_of_mem _ (ahead_thrown entry _)) fun _ _ => ?_)
      refine .bind (reads_thrown hentry (ahead_listTail _)) fun value hvalue => ?_
      refine (ih hentries (Nat.le_of_succ_le_succ hn)).mono fun result hresult => ?_
      rw [hresult, hvalue, List.reverse_cons, List.append_assoc, List.singleton_append]

theorem reads_thrownList {n : Nat} {entries : List (Option String)}
    (hentries : ∀ entry ∈ entries, ∀ name ∈ entry, IsName name)
    (hn : entries.length ≤ n) (hstop : stop ∈ Follow.afterClause) :
    Reads (thrownList n : Parser ρ _)
      (listShapes (entries.map fun entry => [thrownShape entry])) stop (· = entries) := by
  cases entries with
  | nil =>
    refine .peek .rpar rfl (.take (isPrinted_shape rfl) (List.mem_cons_of_mem _ hstop) ?_)
    exact fun _ _ => .pure rfl
  | cons entry entries =>
    obtain ⟨hentry, hentries⟩ := List.forall_mem_cons.mp hentries
    have hmore : Reads (do moreThrown n [← thrown] : Parser ρ _)
        (listShapes ((entry :: entries).map fun entry => [thrownShape entry])) stop
        (· = entry :: entries) := by
      refine .bind (reads_thrown hentry (ahead_listTail _)) fun value hvalue => ?_
      rw [hvalue]
      exact reads_moreThrown hentries hn hstop
    cases entry with
    | none => exact .peek .ellipsis rfl hmore
    | some name => exact .peek .name rfl hmore

theorem filterMap_thrownEntries (names : List String) (wildcard : Bool) :
    (thrownEntries names wildcard).filterMap id = names := by
  cases wildcard <;> simp [thrownEntries, List.filterMap_map]

theorem contains_thrownEntries (names : List String) (wildcard : Bool) :
    (thrownEntries names wildcard).contains none = wildcard := by
  cases wildcard <;> simp [thrownEntries]

theorem forall_mem_thrownEntries {p : String → Prop} {names : List String}
    (h : ∀ name ∈ names, p name) (wildcard : Bool) :
    ∀ entry ∈ thrownEntries names wildcard, ∀ name ∈ entry, p name := by
  intro entry hentry name hname
  obtain rfl := Option.mem_def.mp hname
  cases wildcard <;> simp [thrownEntries] at hentry <;> exact h name hentry

theorem length_thrownEntries (names : List String) (wildcard : Bool) :
    (thrownEntries names wildcard).length ≤ names.length + 1 := by
  cases wildcard <;> simp [thrownEntries]

/-- Behind clauses: not another one. -/
def afterClauses : List Terminal := .lbrace :: Follow.afterType

theorem afterClauses_subset : ∀ terminal ∈ afterClauses, terminal ∈ Follow.afterClause := by
  decide

theorem reads_clauses_nil {n : Nat} {found : List Clause} (hstop : stop ∈ afterClauses) :
    Reads (clauses (n + 1) found : Parser ρ _) [] stop (· = Clause.mergeAll found.reverse) := by
  refine .peek stop rfl ?_
  fin_cases hstop <;> exact .pure rfl

theorem reads_clauses_noexcept {n : Nat} {found : List Clause} (hstop : stop ∈ afterClauses) :
    Reads (clauses (n + 2) found : Parser ρ _) [Terminal.kwNoexcept.shape] stop fun result =>
      ∃ loc, result = Clause.mergeAll (.noexcept loc :: found).reverse := by
  refine .peek .kwNoexcept rfl (.take (isPrinted_shape rfl)
    (List.mem_cons_of_mem _ (afterClauses_subset _ hstop)) fun head _ => ?_)
  exact (reads_clauses_nil hstop).mono fun _ hresult => ⟨head.index, hresult⟩

theorem reads_clauses_throws {n : Nat} {found : List Clause} {names : List String}
    {wildcard : Bool} {rest : List Shape} {good : Clauses Nat → Prop}
    (hnames : ∀ name ∈ names, IsName name) (hn : names.length + 1 ≤ n)
    (hfirst : ahead rest stop ∈ Follow.afterClause)
    (hrest : ∀ loc, Reads (clauses n (.throws names wildcard loc :: found) : Parser ρ _) rest stop
      good) :
    Reads (clauses (n + 1) found : Parser ρ _)
      (Terminal.kwThrows.shape :: (thrownShapes names wildcard ++ rest)) stop good := by
  have hentries := forall_mem_thrownEntries hnames wildcard
  have hlength := Nat.le_trans (length_thrownEntries names wildcard) hn
  have hopen : ahead (listShapes ((thrownEntries names wildcard).map fun entry =>
      [thrownShape entry]) ++ rest) stop ∈ Follow.thrownOrClose := by
    cases thrownEntries names wildcard with
    | nil => exact List.mem_cons_self
    | cons entry entries => exact List.mem_cons_of_mem _ (ahead_thrown entry _)
  refine .peek .kwThrows rfl (.take (isPrinted_shape rfl)
    (List.mem_cons_of_mem _ List.mem_cons_self) fun head _ => ?_)
  refine .expect (isPrinted_shape rfl) rfl (List.mem_cons_of_mem _ hopen) fun _ _ => ?_
  refine .bind (reads_thrownList hentries hlength hfirst) fun entries hread => ?_
  rw [hread, filterMap_thrownEntries, contains_thrownEntries]
  exact hrest head.index

theorem length_listTail (entries : List (List Shape)) :
    entries.length + 1 ≤ (listTail entries).length := by
  induction entries with
  | nil => exact Nat.le_refl _
  | cons entry entries ih =>
    rw [listTail, List.length_cons, List.length_cons, List.length_append]
    omega

theorem length_listShapes (entries : List (List Shape)) :
    entries.length ≤ (listShapes entries).length := by
  cases entries with
  | nil => exact Nat.zero_le _
  | cons entry entries =>
    have htail := length_listTail entries
    rw [listShapes, List.length_append, List.length_cons]
    omega

theorem length_thrownShapes (names : List String) (wildcard : Bool) :
    names.length + 1 ≤ (thrownShapes names wildcard).length := by
  have hlist := length_listShapes ((thrownEntries names wildcard).map fun entry =>
    [thrownShape entry])
  rw [List.length_map, thrownEntries, List.length_append, List.length_map] at hlist
  rw [thrownShapes, List.length_cons]
  exact Nat.succ_le_succ (Nat.le_trans (Nat.le_add_right _ _) hlist)

/-- The clauses of a signature are read back. -/
theorem reads_clauses {n : Nat} {clauses : Clauses Unit} (h : clauses.Expressible)
    (hn : 4 * clauses.shapes.length + 1 ≤ n) (hstop : stop ∈ afterClauses) :
    Reads (Grammar.clauses n [] : Parser ρ _) clauses.shapes stop
      fun result => result.mapLoc (fun _ => ()) = clauses := by
  obtain ⟨throws, wildcard, noexcept, loc⟩ := clauses
  obtain ⟨hnames, hwildcard, hloc⟩ := h
  -- The place of the clauses is known from what is written.
  cases throws with
  | none =>
    obtain rfl : wildcard = false := by
      cases wildcard with
      | false => rfl
      | true => cases hwildcard rfl
    cases noexcept with
    | false =>
      obtain rfl : loc = none := Option.isNone_iff_eq_none.mp (Option.isSome_eq_false_iff.mp hloc)
      obtain ⟨n, rfl⟩ := Nat.exists_eq_add_of_le' hn
      refine (reads_clauses_nil hstop).mono fun result hresult => ?_
      rw [hresult]
      rfl
    | true =>
      obtain ⟨⟨⟩, rfl⟩ := Option.isSome_iff_exists.mp hloc
      obtain ⟨n, rfl⟩ : ∃ m, n = m + 2 := Nat.exists_eq_add_of_le' (Nat.le_trans (by decide) hn)
      refine (reads_clauses_noexcept hstop).mono fun result hresult => ?_
      obtain ⟨loc, rfl⟩ := hresult
      rfl
  | some names =>
    obtain ⟨⟨⟩, rfl⟩ := Option.isSome_iff_exists.mp hloc
    have hlength := length_thrownShapes names wildcard
    have hall : ∀ name ∈ names, IsName name := hnames names rfl
    cases noexcept with
    | false =>
      have hshapes : Clauses.shapes { throws := some names, wildcard, loc := some () } =
          Terminal.kwThrows.shape :: (thrownShapes names wildcard ++ []) := rfl
      rw [hshapes, List.length_cons, List.length_append, List.length_nil] at hn
      obtain ⟨n, rfl⟩ : ∃ m, n = m + 2 := Nat.exists_eq_add_of_le' (by omega)
      refine reads_clauses_throws hall (by omega) (afterClauses_subset _ hstop) fun loc => ?_
      refine (reads_clauses_nil hstop).mono fun result hresult => ?_
      rw [hresult]
      simp [Clause.mergeAll, Clause.merge, Clauses.mapLoc]
    | true =>
      have hshapes : Clauses.shapes
          { throws := some names, wildcard, noexcept := true, loc := some () } =
          Terminal.kwThrows.shape :: (thrownShapes names wildcard ++
            [Terminal.kwNoexcept.shape]) := rfl
      rw [hshapes, List.length_cons, List.length_append, List.length_singleton] at hn
      obtain ⟨n, rfl⟩ : ∃ m, n = m + 3 := Nat.exists_eq_add_of_le' (by omega)
      refine reads_clauses_throws hall (by omega)
        (List.mem_cons_of_mem _ List.mem_cons_self) fun loc => ?_
      refine (reads_clauses_noexcept hstop).mono fun result hresult => ?_
      obtain ⟨loc', rfl⟩ := hresult
      simp [Clause.mergeAll, Clause.merge, Clauses.mapLoc]

/-! ## Types -/

theorem reads_qualifiers {n : Nat} (isConst isVolatile : Bool) (hn : 3 ≤ n) :
    Reads (qualifiers n {} : Parser ρ _)
      (optionalWord isConst .kwConst ++ optionalWord isVolatile .kwVolatile) .name
      fun found => found.isConst = isConst ∧ found.isVolatile = isVolatile := by
  obtain ⟨n, rfl⟩ : ∃ m, n = m + 3 := Nat.exists_eq_add_of_le' hn
  have hnone : ∀ n found, Reads (qualifiers (n + 1) found : Parser ρ _) [] .name (· = found) :=
    fun n found => .peek .name rfl (.pure rfl)
  have hqualified : (.name : Terminal) ∈ .endOfText :: Follow.qualified := by decide
  cases isConst with
  | false =>
    cases isVolatile with
    | false => exact (hnone _ _).mono fun found hfound => by rw [hfound]; exact ⟨rfl, rfl⟩
    | true =>
      refine .peek .kwVolatile rfl (.take (isPrinted_shape rfl) hqualified fun word _ => ?_)
      exact (hnone _ _).mono fun found hfound => by rw [hfound]; exact ⟨rfl, rfl⟩
  | true =>
    cases isVolatile with
    | false =>
      refine .peek .kwConst rfl (.take (isPrinted_shape rfl) hqualified fun word _ => ?_)
      exact (hnone _ _).mono fun found hfound => by rw [hfound]; exact ⟨rfl, rfl⟩
    | true =>
      refine .peek .kwConst rfl (.take (isPrinted_shape rfl) (by decide) fun word _ => ?_)
      refine .peek .kwVolatile rfl (.take (isPrinted_shape rfl) hqualified fun word' _ => ?_)
      exact (hnone _ _).mono fun found hfound => by rw [hfound]; exact ⟨rfl, rfl⟩

theorem reads_reference (isRef : Bool) (hstop : stop ∈ Follow.afterType) :
    Reads (reference : Parser ρ _) (optionalWord isRef .amp) stop (· = isRef) := by
  cases isRef with
  | true =>
    exact .peek_eq rfl (.take (isPrinted_shape rfl) (List.mem_cons_of_mem _ hstop)
      fun _ _ => .pure rfl)
  | false => exact .peek_ne (ne_of_mem_of_not_mem hstop (by decide)) (.pure rfl)

theorem reads_namedType {n : Nat} {name : String} (h : IsName name)
    (isConst isVolatile isRef : Bool) (loc : Unit) (hn : 3 ≤ n) (hstop : stop ∈ Follow.afterType) :
    Reads (namedType n : Parser ρ _) (TypeExpr.named name isConst isVolatile isRef loc).shapes stop
      fun type => type.mapLoc (fun _ => ()) = .named name isConst isVolatile isRef loc := by
  rw [TypeExpr.shapes, ← List.append_assoc]
  refine .bind (reads_qualifiers isConst isVolatile hn) fun found hfound => ?_
  have hbehind : ahead (optionalWord isRef .amp) stop ∈ Follow.typeName := by
    cases isRef with
    | true => exact List.mem_cons_of_mem _ List.mem_cons_self
    | false =>
      have hsubset : ∀ terminal ∈ Follow.afterType, terminal ∈ Follow.typeName := by decide
      exact hsubset stop hstop
  refine .expect (.name h) rfl (List.mem_cons_of_mem _ hbehind) fun lexeme hlexeme => ?_
  refine .map (reads_reference isRef hstop) fun isRef' hisRef => ?_
  rw [name_of_text hlexeme, hfound.1, hfound.2, hisRef]
  rfl

/-- A type begins with a word that can begin a type. -/
theorem ahead_type {ι : Type} (type : TypeExpr ι) (rest : List Shape) :
    ahead (type.shapes ++ rest) stop ∈ Follow.type := by
  cases type with
  | named name isConst isVolatile isRef loc =>
    cases isConst with
    | true => exact (by decide : Terminal.kwConst ∈ Follow.type)
    | false =>
      cases isVolatile with
      | true => exact (by decide : Terminal.kwVolatile ∈ Follow.type)
      | false => exact (by decide : Terminal.name ∈ Follow.type)
  | function params clauses loc => exact (by decide : Terminal.kwFn ∈ Follow.type)

/-- What closes a list or goes on with it can stand behind a type. -/
theorem commaOrClose_subset : ∀ terminal ∈ Follow.commaOrClose, terminal ∈ Follow.afterType := by
  decide

/-- What stands behind the parameters of a function type. -/
theorem ahead_clauses {ι : Type} {sought : List Terminal} (clauses : Clauses ι)
    (hsought : .kwThrows ∈ sought ∧ .kwNoexcept ∈ sought) (hstop : stop ∈ sought) :
    ahead clauses.shapes stop ∈ sought := by
  obtain ⟨throws, wildcard, noexcept, loc⟩ := clauses
  cases throws with
  | some names => exact hsought.1
  | none =>
    cases noexcept with
    | true => exact hsought.2
    | false => exact hstop

theorem length_type_pos {ι : Type} (type : TypeExpr ι) : 1 ≤ type.shapes.length := by
  cases type with
  | named name isConst isVolatile isRef loc =>
    rw [TypeExpr.shapes, List.length_append, List.length_append, List.length_cons]
    omega
  | function params clauses loc => exact Nat.le_add_left _ _

mutual

/-- A type is read back. -/
theorem reads_type : (n : Nat) → {stop : Terminal} → {type : TypeExpr Unit} →
    (h : type.Expressible) → (hn : 4 * type.shapes.length + 2 ≤ n) →
    (hstop : stop ∈ Follow.afterType) →
    Reads (Grammar.type n : Parser ρ _) type.shapes stop
      fun result => result.mapLoc (fun _ => ()) = type
  | 0, _, _, _, hn, _ => absurd hn (by omega)
  | n + 1, stop, type, h, hn, hstop => by
    cases h with
    | @named name isConst isVolatile isRef loc hname =>
      have hnamed : Reads (namedType n : Parser ρ _)
          (TypeExpr.named name isConst isVolatile isRef loc).shapes stop
          fun result => result.mapLoc (fun _ => ()) = .named name isConst isVolatile isRef loc :=
        reads_namedType hname isConst isVolatile isRef loc
          (by have := length_type_pos (TypeExpr.named name isConst isVolatile isRef loc); omega)
          hstop
      cases isConst with
      | true => exact .peek .kwConst rfl hnamed
      | false =>
        cases isVolatile with
        | true => exact .peek .kwVolatile rfl hnamed
        | false => exact .peek .name rfl hnamed
    | @function params clauses loc hparams hclauses =>
      have hopen : ahead (listShapes (shapesOfTypes params) ++ clauses.shapes) stop ∈
          Follow.typeOrClose := by
        cases params with
        | nil => exact List.mem_cons_self
        | cons param params =>
          rw [shapesOfTypes, listShapes, List.append_assoc]
          exact List.mem_cons_of_mem _ (ahead_type param _)
      -- The clauses belong to this type, whatever it is the type of.
      have hbehind : ahead clauses.shapes stop ∈ Follow.afterFunctionType :=
        ahead_clauses clauses (by decide) (List.mem_append_right _ hstop)
      rw [TypeExpr.shapes, List.length_cons, List.length_cons, List.length_append] at hn
      refine .peek .kwFn rfl (.take (isPrinted_shape rfl)
        (List.mem_cons_of_mem _ List.mem_cons_self) fun head _ => ?_)
      refine .expect (isPrinted_shape rfl) rfl (List.mem_cons_of_mem _ hopen) fun _ _ => ?_
      refine .bind (reads_typeList n hparams (by omega) hbehind) fun params' hparams' => ?_
      refine .map (reads_clauses hclauses (by omega) (List.mem_cons_of_mem _ hstop))
        fun clauses' hclauses' => ?_
      rw [TypeExpr.mapLoc, hparams', hclauses']
termination_by structural n => n

/-- Parameter types are read back up to their parenthesis. -/
theorem reads_typeList : (n : Nat) → {stop : Terminal} → {types : List (TypeExpr Unit)} →
    (h : ∀ type ∈ types, type.Expressible) →
    (hn : 4 * (listShapes (shapesOfTypes types)).length + 1 ≤ n) →
    (hstop : stop ∈ Follow.afterFunctionType) →
    Reads (typeList n : Parser ρ _) (listShapes (shapesOfTypes types)) stop
      fun result => mapLocTypes (fun _ => ()) result = types
  | 0, _, _, _, hn, _ => absurd hn (by omega)
  | n + 1, stop, [], h, hn, hstop =>
    .peek .rpar rfl (.take (isPrinted_shape rfl) (List.mem_cons_of_mem _ hstop)
      fun _ _ => .pure rfl)
  | n + 1, stop, type :: types, h, hn, hstop => by
    obtain ⟨htype, htypes⟩ := List.forall_mem_cons.mp h
    have hpos := length_type_pos type
    have htail := length_listTail (shapesOfTypes types)
    rw [shapesOfTypes, listShapes, List.length_append] at hn
    have hcomma : ahead (listTail (shapesOfTypes types)) stop ∈ Follow.afterType :=
      commaOrClose_subset _ (ahead_listTail _)
    have hmore : Reads (do moreTypes n [← Grammar.type n] : Parser ρ _)
        (listShapes (shapesOfTypes (type :: types))) stop
        fun result => mapLocTypes (fun _ => ()) result = type :: types := by
      refine .bind (reads_type n htype (by omega) hcomma) fun result hresult => ?_
      refine (reads_moreTypes n htypes (by omega) hstop).mono fun results hresults => ?_
      rw [hresults, List.reverse_singleton, mapLocTypes_eq_map, List.map_singleton, hresult]
      rfl
    -- No type begins with the parenthesis that ends the list.
    refine .peek_mem (ahead_type type _) fun terminal hterminal => ?_
    fin_cases hterminal <;> exact hmore
termination_by structural n => n

/-- The parameter types behind the first one are read back. -/
theorem reads_moreTypes : (n : Nat) → {stop : Terminal} → {found : List (TypeExpr Nat)} →
    {types : List (TypeExpr Unit)} → (h : ∀ type ∈ types, type.Expressible) →
    (hn : 4 * (listTail (shapesOfTypes types)).length + 1 ≤ n) →
    (hstop : stop ∈ Follow.afterFunctionType) →
    Reads (moreTypes n found : Parser ρ _) (listTail (shapesOfTypes types)) stop
      fun result => mapLocTypes (fun _ => ()) result =
        mapLocTypes (fun _ => ()) found.reverse ++ types
  | 0, _, _, _, _, hn, _ => absurd hn (by omega)
  | n + 1, stop, found, [], h, hn, hstop =>
    .peek .rpar rfl (.expect (isPrinted_shape rfl) rfl (List.mem_cons_of_mem _ hstop)
      fun _ _ => .pure (List.append_nil _).symm)
  | n + 1, stop, found, type :: types, h, hn, hstop => by
    obtain ⟨htype, htypes⟩ := List.forall_mem_cons.mp h
    rw [shapesOfTypes, listTail, List.length_cons, List.length_append] at hn
    have hcomma : ahead (listTail (shapesOfTypes types)) stop ∈ Follow.afterType :=
      commaOrClose_subset _ (ahead_listTail _)
    refine .peek .comma rfl (.take (isPrinted_shape rfl)
      (List.mem_cons_of_mem _ (ahead_type type _)) fun _ _ => ?_)
    refine .bind (reads_type n htype (by omega) hcomma) fun result hresult => ?_
    refine (reads_moreTypes n htypes (by omega) hstop).mono fun results hresults => ?_
    rw [hresults, mapLocTypes_eq_map, List.reverse_cons, List.map_append, List.map_singleton,
      hresult, List.append_assoc, mapLocTypes_eq_map]
    rfl
termination_by structural n => n

end

end Throws.Surface.Grammar
