import Throws.Proofs.NamePlaces

/-!
# Names in a source text are identifiers

The reader builds types only from the names that it reads, so all names in the signatures of a
program that was read are identifiers, and so are the names of its exceptions.
-/

namespace Throws.Surface

/-- All names in the signature are identifiers, apart from those of parameters. -/
structure FunctionDef.Spelled {ι : Type} (function : FunctionDef ι) : Prop where
  /-- The name of the function. -/
  name : IsIdentifier function.name
  /-- The types of its parameters. -/
  params : ∀ param ∈ function.params, param.type.Spelled
  /-- The type it returns. -/
  returnType : function.returnType.Spelled

/-- All names in types outside of bodies are identifiers, and so are the names of exceptions and
functions. -/
structure Program.Spelled {ι : Type} (program : Program ι) : Prop where
  /-- The exceptions. -/
  exceptions : ∀ definition ∈ program.exceptions, IsIdentifier definition.name
  /-- What aliases stand for. -/
  aliases : ∀ definition ∈ program.aliases, definition.target.Spelled
  /-- The functions. -/
  functions : ∀ function ∈ program.functions, function.Spelled

namespace Grammar

open Throws.Surface.Parser

variable {ρ : Type}

/-! ## Declarations -/

/-- The names in the signature of a function are identifiers. -/
theorem yields_function (n : Nat) : Yields (function n : Parser ρ _) FunctionDef.Spelled := by
  refine (yields_type n).bind fun returnType hreturn => (Yields.expect _ _).bind fun name hname =>
    (Sane.expect _ _).yields_bind fun _ => (yields_paramList n).bind fun params hparams =>
    (yields_allClauses n).sane.yields_bind fun clauses => Sane.peek.yields_bind fun _ => ?_
  split
  · exact (Sane.take _).yields_bind fun _ => .pure ⟨hname rfl, hparams, hreturn⟩
  · -- Nothing is said about names in bodies, so it is enough that the parser is sane.
    exact (tracks_block n []).sane.yields_bind fun _ => .pure ⟨hname rfl, hparams, hreturn⟩

/-- All names in types of the declaration are identifiers, and so is the name of an exception. -/
def ItemSpelled : Item Nat → Prop
  | .exception definition => IsIdentifier definition.name
  | .alias definition => definition.target.Spelled
  | .function function => function.Spelled

/-- The names in a declaration are identifiers. -/
theorem yields_item (n : Nat) : Yields (item n : Parser ρ _) ItemSpelled := by
  refine Sane.peek.yields_bind fun terminal => ?_
  split
  · exact (Sane.take _).yields_bind fun _ => (Yields.expect _ _).bind fun _ hname =>
      (Sane.expect _ _).yields_bind fun _ => .pure (hname rfl)
  · exact (Sane.take _).yields_bind fun _ => (Sane.expect _ _).yields_bind fun _ =>
      (Sane.expect _ _).yields_bind fun _ => (yields_type n).bind fun _ htarget =>
      (Sane.expect _ _).yields_bind fun _ => .pure htarget
  · exact (yields_function n).bind fun _ hfunction => .pure hfunction

/-- So are those in declarations in a row. -/
theorem yields_items (n : Nat) (found : List (Item Nat))
    (hfound : ∀ item ∈ found, ItemSpelled item) :
    Yields (items n found : Parser ρ _) fun items => ∀ item ∈ items, ItemSpelled item := by
  induction n generalizing found with
  | zero => exact .reject
  | succ n ih =>
    refine Sane.peek.yields_bind fun terminal => ?_
    split
    · exact .pure fun item hitem => hfound item (List.mem_reverse.mp hitem)
    · exact (yields_item n).bind fun _ hitem => ih _ (List.forall_mem_cons.mpr ⟨hitem, hfound⟩)

end Grammar

/-! ## Source texts -/

/-- The names in the declarations of a text are identifiers. -/
theorem itemSpelled_of_parse {text : List Char} {items : List (Item Nat)} {tokens : Array Token}
    (h : parse text = .ok (items, tokens)) : ∀ item ∈ items, Grammar.ItemSpelled item :=
  -- Nothing was found before the first item, so the plan ensures that all items are good.
  good_of_parse (∀ item ∈ ·, Grammar.ItemSpelled item) h fun _ =>
    Grammar.yields_items _ [] (List.forall_mem_nil _) _ _ _ _ _ fun _ h _ _ _ => h

/-- A text has only the names of its declarations. -/
theorem Program.spelled_ofItems {items : List (Item Nat)}
    (h : ∀ item ∈ items, Grammar.ItemSpelled item) : (Program.ofItems items).Spelled where
  exceptions := by
    intro definition hdefinition
    obtain ⟨item, hitem, heq⟩ := List.mem_filterMap.mp hdefinition
    rcases item with found | _ | _
    · obtain rfl := Option.some.inj heq
      exact h _ hitem
    · cases heq
    · cases heq
  aliases := by
    intro definition hdefinition
    obtain ⟨item, hitem, heq⟩ := List.mem_filterMap.mp hdefinition
    rcases item with _ | found | _
    · cases heq
    · obtain rfl := Option.some.inj heq
      exact h _ hitem
    · cases heq
  functions := by
    intro function hfunction
    obtain ⟨item, hitem, heq⟩ := List.mem_filterMap.mp hfunction
    rcases item with _ | _ | found
    · cases heq
    · cases heq
    · obtain rfl := Option.some.inj heq
      exact h _ hitem

section Relocation

variable {ι κ : Type} {f : ι → κ}

/-- A moved type has the same names. -/
theorem TypeExpr.Spelled.mapLoc {type : TypeExpr ι} (h : type.Spelled) :
    (type.mapLoc f).Spelled := by
  induction h with
  | named hname =>
    rw [TypeExpr.mapLoc]
    exact .named hname
  | function _ hclauses ih =>
    rw [TypeExpr.mapLoc, mapLocTypes_eq_map]
    exact .function (List.forall_mem_map.mpr ih) hclauses

/-- A moved function has the same names. -/
theorem FunctionDef.Spelled.mapLoc {function : FunctionDef ι} (h : function.Spelled) :
    (function.mapLoc f).Spelled where
  name := h.name
  params := List.forall_mem_map.mpr fun param hparam => (h.params param hparam).mapLoc
  returnType := h.returnType.mapLoc

/-- A moved text has the same names. -/
theorem Program.Spelled.mapLoc {program : Program ι} (h : program.Spelled) :
    (program.mapLoc f).Spelled where
  exceptions := List.forall_mem_map.mpr h.exceptions
  aliases := List.forall_mem_map.mpr fun definition hmem => (h.aliases definition hmem).mapLoc
  functions := List.forall_mem_map.mpr fun function hmem => (h.functions function hmem).mapLoc

end Relocation

/-- All names in the declarations of a text that can be read are identifiers. -/
theorem spelled_of_read {depth : Option Nat} {text : String} {program : Program Pos}
    (h : read depth text = .ok program) : program.Spelled := by
  obtain ⟨items, tokens, hparse, rfl⟩ := exists_parse_of_read h
  exact (Program.spelled_ofItems (itemSpelled_of_parse hparse)).mapLoc

end Throws.Surface
