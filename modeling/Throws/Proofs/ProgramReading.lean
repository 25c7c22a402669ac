import Throws.Proofs.StatementReading

/-!
# Reading printed programs

The declarations of a printed program are read back, locations aside, up to the end of the text
(`reads_items`), so the text is parsed to them (`exists_parse_of_expressible`).
-/

namespace Throws.Surface

/-- A parameter without its places. -/
def Param.unlocated {ι : Type} (param : Param ι) : Param Unit :=
  ⟨param.type.mapLoc fun _ => (), param.name⟩

/-- A function is known by its parts. -/
theorem FunctionDef.mapLoc_eq {ι : Type} {read : FunctionDef ι} {function : FunctionDef Unit}
    (hname : read.name = function.name)
    (hparams : read.params.map Param.unlocated = function.params)
    (hreturnType : read.returnType.mapLoc (fun _ => ()) = function.returnType)
    (hclauses : read.clauses.mapLoc (fun _ => ()) = function.clauses)
    (hbody : read.body.map (·.mapLoc fun _ => ()) = function.body) :
    read.mapLoc (fun _ => ()) = function := by
  obtain ⟨name, params, returnType, clauses, body, loc⟩ := function
  subst hname hparams hreturnType hclauses hbody
  rfl

/-- A declaration without its places. -/
def Item.unlocated {ι : Type} : Item ι → Item Unit
  | .exception definition => .exception ⟨definition.name, ()⟩
  | .alias definition => .alias ⟨definition.name, definition.target.mapLoc fun _ => (), ()⟩
  | .function definition => .function (definition.mapLoc fun _ => ())

/-- A declaration that can be written. -/
inductive Item.Expressible {ι : Type} : Item ι → Prop
  | exception {definition : ExceptionDef ι} :
      IsName definition.name → Expressible (.exception definition)
  | alias {definition : AliasDef ι} : IsName definition.name → definition.target.Expressible →
      Expressible (.alias definition)
  | function {definition : FunctionDef ι} :
      definition.Expressible → Expressible (.function definition)

namespace Grammar

open Throws.Surface.Parser

variable {ρ : Type} {stop : Terminal}

/-! ## Parameters -/

/-- A parameter is read back. -/
theorem reads_param {n : Nat} {param : Param Unit} (h : param.Expressible)
    (hn : 4 * param.shapes.length + 2 ≤ n) (hstop : stop ∈ Follow.commaOrClose) :
    Reads (Grammar.param n : Parser ρ _) param.shapes stop (·.unlocated = param) := by
  obtain ⟨type, name⟩ := param
  rw [Param.shapes, List.length_append] at hn
  cases name with
  | none =>
    refine .bind (reads_type n h.type (by omega) (commaOrClose_subset stop hstop))
      fun result hresult => ?_
    exact .peek_ne (ne_of_mem_of_not_mem hstop (by decide))
      (.pure (congrArg (Param.mk · none) hresult))
  | some name =>
    refine .bind (reads_type n h.type (by omega) List.mem_cons_self) fun result hresult => ?_
    refine .peek_eq rfl (.take (.name (h.name name rfl)) (List.mem_cons_of_mem _ hstop)
      fun token htoken => ?_)
    rw [name_of_text htoken]
    exact .pure (congrArg (Param.mk · (some name)) hresult)

theorem ahead_param {ι : Type} (param : Param ι) (rest : List Shape) :
    ahead (param.shapes ++ rest) stop ∈ Follow.type := by
  rw [Param.shapes, List.append_assoc]
  exact ahead_type param.type _

/-- The parameters behind the first one are read back. -/
theorem reads_moreParams {n : Nat} {found : List (Param Nat)} {params : List (Param Unit)}
    (h : ∀ param ∈ params, param.Expressible)
    (hn : 4 * (listTail (params.map Param.shapes)).length + 1 ≤ n)
    (hstop : stop ∈ Follow.afterParams) :
    Reads (moreParams n found : Parser ρ _) (listTail (params.map Param.shapes)) stop
      fun result => result.map Param.unlocated = found.reverse.map Param.unlocated ++ params := by
  induction params generalizing n found with
  | nil =>
    obtain ⟨n, rfl⟩ : ∃ m, n = m + 1 := Nat.exists_eq_add_of_le' (by omega)
    refine .peek .rpar rfl (.expect (isPrinted_shape rfl) rfl (List.mem_cons_of_mem _ hstop) ?_)
    exact fun _ _ => .pure (List.append_nil _).symm
  | cons param params ih =>
    obtain ⟨hparam, hparams⟩ := List.forall_mem_cons.mp h
    obtain ⟨n, rfl⟩ : ∃ m, n = m + 1 := Nat.exists_eq_add_of_le' (by omega)
    rw [List.map_cons, listTail, List.length_cons, List.length_append] at hn
    refine .peek .comma rfl (.take (isPrinted_shape rfl)
      (List.mem_cons_of_mem _ (ahead_param param _)) fun _ _ => ?_)
    refine .bind (reads_param hparam (by omega) (ahead_listTail _)) fun result hresult => ?_
    refine (ih hparams (by omega)).mono fun results hresults => ?_
    rw [hresults, List.reverse_cons, List.map_append, List.map_singleton, hresult,
      List.append_assoc, List.singleton_append]

/-- Parameters are read back up to their parenthesis. -/
theorem reads_paramList {n : Nat} {params : List (Param Unit)}
    (h : ∀ param ∈ params, param.Expressible)
    (hn : 4 * (listShapes (params.map Param.shapes)).length ≤ n)
    (hstop : stop ∈ Follow.afterParams) :
    Reads (paramList n : Parser ρ _) (listShapes (params.map Param.shapes)) stop
      fun result => result.map Param.unlocated = params := by
  cases params with
  | nil =>
    exact .peek .rpar rfl (.take (isPrinted_shape rfl) (List.mem_cons_of_mem _ hstop)
      fun _ _ => .pure rfl)
  | cons param params =>
    obtain ⟨hparam, hparams⟩ := List.forall_mem_cons.mp h
    have hpos : 1 ≤ param.shapes.length := by
      have htype := length_type_pos param.type
      rw [Param.shapes, List.length_append]
      omega
    have htail := length_listTail (params.map Param.shapes)
    rw [List.map_cons, listShapes, List.length_append] at hn
    have hmore : Reads (do moreParams n [← Grammar.param n] : Parser ρ _)
        (listShapes ((param :: params).map Param.shapes)) stop
        fun result => result.map Param.unlocated = param :: params := by
      refine .bind (reads_param hparam (by omega) (ahead_listTail _)) fun result hresult => ?_
      refine (reads_moreParams hparams (by omega) hstop).mono fun results hresults => ?_
      rw [hresults, List.reverse_singleton, List.map_singleton, hresult, List.singleton_append]
    refine .peek_mem (ahead_param param _) fun terminal hterminal => ?_
    fin_cases hterminal <;> exact hmore

/-! ## Declarations -/

theorem ahead_params {ι : Type} (params : List (Param ι)) (rest : List Shape) :
    ahead (listShapes (params.map Param.shapes) ++ rest) stop ∈ Follow.typeOrClose := by
  cases params with
  | nil => exact List.mem_cons_self
  | cons param params =>
    rw [List.map_cons, listShapes, List.append_assoc]
    exact List.mem_cons_of_mem _ (ahead_param param _)

/-- What stands behind the signature of a function. -/
theorem ahead_body {ι : Type} (body : Option (Block ι)) :
    ahead (body.elim [Terminal.semicolon.shape] Block.shapes) stop ∈
      [Terminal.semicolon, Terminal.lbrace] := by
  cases body with
  | none => exact List.mem_cons_self
  | some body => exact List.mem_cons_of_mem _ (ahead_block_mem body)

/-- A function is read back. -/
theorem reads_function {n : Nat} {function : FunctionDef Unit} (h : function.Expressible)
    (hn : 4 * function.shapes.length ≤ n) (hstop : stop ∈ .endOfText :: Follow.item) :
    Reads (Grammar.function n : Parser ρ _) function.shapes stop
      fun result => result.mapLoc (fun _ => ()) = function := by
  -- Behind the signature stands a semicolon or a body, and neither is one more clause.
  have hend : ∀ terminal ∈ [Terminal.semicolon, Terminal.lbrace],
      terminal ∈ afterClauses ∧ terminal ∈ Follow.afterParams := by decide
  have hbehind : ahead (function.body.elim [Terminal.semicolon.shape] Block.shapes) stop ∈
      [Terminal.semicolon, Terminal.lbrace] := ahead_body function.body
  have hparams : ahead (function.clauses.shapes ++
      function.body.elim [Terminal.semicolon.shape] Block.shapes) stop ∈ Follow.afterParams := by
    rw [ahead_append]
    exact ahead_clauses function.clauses (by decide) (hend _ hbehind).2
  simp only [FunctionDef.shapes, List.length_append, List.length_cons] at hn
  refine .bind (reads_type n h.returnType (by omega) List.mem_cons_self)
    fun returnType hreturnType => ?_
  refine .expect (.name h.name) rfl (List.mem_cons_of_mem _ List.mem_cons_self)
    fun token htoken => ?_
  refine .expect (isPrinted_shape rfl) rfl
    (List.mem_cons_of_mem _ (ahead_params function.params _)) fun _ _ => ?_
  refine .bind (reads_paramList h.params (by omega) hparams) fun params hparams' => ?_
  refine .bind (reads_clauses h.clauses (by omega) (hend _ hbehind).1) fun clauses hclauses => ?_
  have hname := name_of_text htoken
  cases hbody : function.body with
  | none =>
    refine .peek_eq rfl (.take (isPrinted_shape rfl) hstop fun _ _ => .pure ?_)
    exact FunctionDef.mapLoc_eq hname hparams' hreturnType hclauses hbody.symm
  | some body =>
    have hsubset : ∀ terminal ∈ .endOfText :: Follow.item,
        terminal ∈ .endOfText :: Follow.afterBlock := by decide
    rw [hbody, Option.elim_some] at hn
    refine .peek_ne (ne_of_mem_of_not_mem (ahead_block_mem body) (by decide)) ?_
    refine .map (reads_block n (h.body body hbody) (by omega) (hsubset stop hstop))
      fun read hread => ?_
    exact FunctionDef.mapLoc_eq hname hparams' hreturnType hclauses
      ((congrArg some hread).trans hbody.symm)

/-- A declaration begins with a token that can begin a declaration. -/
theorem ahead_item {ι : Type} (item : Item ι) : ahead item.shapes stop ∈ Follow.item := by
  cases item with
  | exception => exact (by decide : Terminal.kwException ∈ Follow.item)
  | «alias» => exact (by decide : Terminal.kwUsing ∈ Follow.item)
  | function definition =>
    rw [Item.shapes, FunctionDef.shapes]
    exact List.mem_append_right _ (ahead_type definition.returnType _)

/-- A declaration is read back. -/
theorem reads_item {n : Nat} {item : Item Unit} (h : item.Expressible)
    (hn : 4 * item.shapes.length ≤ n) (hstop : stop ∈ .endOfText :: Follow.item) :
    Reads (Grammar.item n : Parser ρ _) item.shapes stop (·.unlocated = item) := by
  cases h with
  | @exception definition hname =>
    refine .peek .kwException rfl (.take (isPrinted_shape rfl)
      (List.mem_cons_of_mem _ List.mem_cons_self) fun head _ => ?_)
    refine .expect (.name hname) rfl (List.mem_cons_of_mem _ List.mem_cons_self)
      fun token htoken => ?_
    refine .expect (isPrinted_shape rfl) rfl hstop fun _ _ => .pure ?_
    rw [name_of_text htoken]
    rfl
  | @«alias» definition hname htarget =>
    simp only [Item.shapes, List.length_cons, List.length_append] at hn
    refine .peek .kwUsing rfl (.take (isPrinted_shape rfl)
      (List.mem_cons_of_mem _ List.mem_cons_self) fun head _ => ?_)
    refine .expect (.name hname) rfl (List.mem_cons_of_mem _ List.mem_cons_self)
      fun token htoken => ?_
    refine .expect (isPrinted_shape rfl) rfl
      (List.mem_cons_of_mem _ (ahead_type definition.target _)) fun _ _ => ?_
    refine .bind (reads_type n htarget (by omega)
      (by decide : Terminal.semicolon ∈ Follow.afterType)) fun target htarget' => ?_
    refine .expect (isPrinted_shape rfl) rfl hstop fun _ _ => .pure ?_
    rw [name_of_text htoken, Item.unlocated, htarget']
  | @function definition hdefinition =>
    have hread : Reads (do return .function (← Grammar.function n) : Parser ρ (Item Nat))
        (Item.function definition).shapes stop (·.unlocated = .function definition) :=
      .map (reads_function hdefinition hn hstop) fun result hresult =>
        congrArg Item.function hresult
    refine .peek_mem (ahead_type definition.returnType _) fun terminal hterminal => ?_
    fin_cases hterminal <;> exact hread

theorem ahead_items {ι : Type} (items : List (Item ι)) :
    ahead (items.flatMap Item.shapes) .endOfText ∈ .endOfText :: Follow.item := by
  cases items with
  | nil => exact List.mem_cons_self
  | cons item items =>
    rw [List.flatMap_cons, ahead_append]
    exact List.mem_cons_of_mem _ (ahead_item item)

/-- Declarations are read back up to the end of the text. -/
theorem reads_items {n : Nat} {found : List (Item Nat)} {items : List (Item Unit)}
    (h : ∀ item ∈ items, item.Expressible)
    (hn : 4 * (items.flatMap Item.shapes).length + 1 ≤ n) :
    Reads (Grammar.items n found : Parser ρ _) (items.flatMap Item.shapes) .endOfText
      fun result => result.map Item.unlocated = found.reverse.map Item.unlocated ++ items := by
  induction items generalizing n found with
  | nil =>
    obtain ⟨n, rfl⟩ : ∃ m, n = m + 1 := Nat.exists_eq_add_of_le' (by omega)
    exact .peek_eq rfl (.pure (List.append_nil _).symm)
  | cons item items ih =>
    obtain ⟨hitem, hitems⟩ := List.forall_mem_cons.mp h
    obtain ⟨n, rfl⟩ : ∃ m, n = m + 1 := Nat.exists_eq_add_of_le' (by omega)
    have hne : ahead ((item :: items).flatMap Item.shapes) .endOfText ≠ .endOfText := by
      rw [List.flatMap_cons, ahead_append]
      exact ne_of_mem_of_not_mem (ahead_item item) (by decide)
    have hpos : 1 ≤ item.shapes.length :=
      length_pos_of_ahead_ne (ne_of_mem_of_not_mem (ahead_item item) (by decide))
    rw [List.flatMap_cons, List.length_append] at hn
    refine .peek_ne hne ?_
    rw [List.flatMap_cons]
    refine .bind (reads_item hitem (by omega) (ahead_items items)) fun result hresult => ?_
    refine (ih hitems (by omega)).mono fun results hresults => ?_
    rw [hresults, List.reverse_cons, List.map_append, List.map_singleton, hresult,
      List.append_assoc, List.singleton_append]

end Grammar

theorem Program.Expressible.items {ι : Type} {program : Program ι} (h : program.Expressible) :
    ∀ item ∈ program.items, item.Expressible := by
  intro item hitem
  simp only [Program.items, List.mem_append, List.mem_map] at hitem
  rcases hitem with ⟨definition, hmem, rfl⟩ | ⟨definition, hmem, rfl⟩ | ⟨definition, hmem, rfl⟩
  · exact .exception (h.exceptions definition hmem)
  · exact .alias (h.aliases definition hmem).1 (h.aliases definition hmem).2
  · exact .function (h.functions definition hmem)

/-- A program is parsed to its declarations from every text that has its tokens in a row. -/
theorem exists_parse_of_renders {program : Program Unit} (h : program.Expressible)
    {text : List Char} (htext : Renders (program.items.flatMap Item.shapes) text) :
    ∃ items tokens, items.map Item.unlocated = program.items ∧
      parse text = .ok (items, tokens) ∧ ∀ token ∈ tokens.toList, IsPrinted token.shape := by
  refine exists_parse_of_accepts (fun n hn => ?_) (Grammar.ahead_items program.items) htext
  have hreads : Parser.Reads (Grammar.items n [] : Parser (List (Item Nat)) _)
      (program.items.flatMap Item.shapes) .endOfText
      fun items => items.map Item.unlocated = program.items :=
    Grammar.reads_items h.items (by omega)
  obtain ⟨items, hitems, haccepts⟩ := hreads 0
  refine ⟨items, hitems, ?_⟩
  have hdone := haccepts .done [] items rfl .done
  rwa [List.append_nil] at hdone

/-- A printed program is parsed to its declarations. -/
theorem exists_parse_of_expressible {program : Program Unit} (h : program.Expressible) :
    ∃ items tokens, items.map Item.unlocated = program.items ∧
      parse program.print.toList = .ok (items, tokens) ∧
      ∀ token ∈ tokens.toList, IsPrinted token.shape := by
  rw [Program.print, String.toList_ofList]
  exact exists_parse_of_renders h (.spaced _)

end Throws.Surface
