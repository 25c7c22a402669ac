import Throws.Proofs.Spelling
import Throws.Proofs.TypeResolution

/-!
# Functions are identified by their types

The identity of a function is made of texts. Since types are told apart by their texts, it says as
much as the resolved types themselves, for all functions of programs that were read from source
texts. None of this needs a program to be free of errors: a name that cannot be resolved stands for
itself, and it is an identifier still.
-/

namespace Throws.Resolution

open Throws.Body Throws.Surface

/-! ## Resolved types have identifiers as names -/

/-- Identifiers are resolved to types with identifiers as names. -/
def Lookup.Spelled (lookup : Lookup) : Prop :=
  ∀ name span, IsIdentifier name → (lookup name span).value.Spelled

section Resolving

variable {lookup : Lookup} {file : String}

/-- A thrown type has an identifier for a name. -/
theorem isIdentifier_resolveThrown (hlookup : lookup.Spelled) {span : Span} {name : String}
    (h : IsIdentifier name) : IsIdentifier (resolveThrown lookup span name).value := by
  have htype := hlookup name span h
  rw [value_resolveThrown]
  cases hvalue : (lookup name span).value with
  | value type =>
    rw [hvalue] at htype
    obtain ⟨hname⟩ := htype
    exact hname
  | function params contract => exact h

/-- Clauses with identifiers mean contracts with identifiers. -/
theorem spelled_functionContract (hlookup : lookup.Spelled) {clauses : Clauses Pos}
    (h : clauses.Spelled) :
    (functionContract (resolveClauses lookup file clauses).value).Spelled := by
  obtain ⟨throws, wildcard, noexcept, loc⟩ := clauses
  intro name hname
  rw [value_resolveClauses, functionContract] at hname
  split at hname
  · exact absurd hname List.not_mem_nil
  · cases wildcard with
    | true => exact absurd hname List.not_mem_nil
    | false =>
      cases throws with
      | none => cases noexcept <;> exact absurd hname List.not_mem_nil
      | some names =>
        obtain ⟨written, hwritten, rfl⟩ := List.mem_map.mp (NameSet.mem_ofList.mp hname)
        exact isIdentifier_resolveThrown hlookup (h names rfl written hwritten)

/-- Qualifiers change no names. -/
theorem Ty.Spelled.qualify {type : Ty} (h : type.Spelled) (isConst isVolatile isRef : Bool) :
    (type.qualify isConst isVolatile isRef).Spelled := by
  cases h with
  | value hname => exact .value hname
  | function hparams hcontract => exact .function hparams hcontract

/-- A spelling with identifiers stands for a type with identifiers. -/
theorem spelled_resolveType (hlookup : lookup.Spelled) {type : TypeExpr Pos} (h : type.Spelled) :
    (resolveType lookup file type).value.Spelled := by
  induction h with
  | named hname =>
    rw [value_resolveType_named]
    exact (hlookup _ _ hname).qualify _ _ _
  | function _ hclauses ih =>
    rw [value_resolveType_function]
    exact .function (List.forall_mem_map.mpr ih) (spelled_functionContract hlookup hclauses)

/-- Types in a row stand for types with identifiers for names. -/
theorem spelled_resolveAll (hlookup : lookup.Spelled) {types : List (TypeExpr Pos)}
    (h : ∀ type ∈ types, type.Spelled) : ∀ type ∈ (resolveAll lookup file types).value,
      type.Spelled := by
  rw [value_resolveAll]
  exact List.forall_mem_map.mpr fun type htype => spelled_resolveType hlookup (h type htype)

end Resolving

/-- What aliases stand for has identifiers as names. -/
def Types.Spelled (types : Types) : Prop := ∀ entry ∈ types.aliases, entry.2.type.Spelled

/-- So does a name that is followed. -/
theorem Types.spelled_follow {types : Types} (h : types.Spelled) (count : Nat)
    (following : List String) : (types.follow count following).Spelled := by
  refine follow_induction (motive := fun name type => IsIdentifier name → type.Spelled) ?_ ?_ _ _
  · exact fun name hname => .value hname
  · intro lookup hlookup name target hmem _
    exact spelled_resolveType hlookup (h (name, target) hmem)

/-! ## Programs -/

/-- A program whose files were read from source texts. -/
def FromText (sources : List (String × Program Pos)) : Prop :=
  ∀ source ∈ sources, ∃ depth text, read depth text = .ok source.2

/-- The name and the resolved types of a function. -/
structure Signature where
  /-- The name. -/
  name : String
  /-- The types of the parameters. -/
  params : List Ty
  /-- What the function returns. -/
  returnType : Ty

/-- The signature of a declaration in a program. -/
def signatureIn (sources : List (String × Program Pos)) (file : String)
    (definition : FunctionDef Pos) : Signature where
  name := definition.name
  params := (resolveAll (programTypes sources).lookup file (definition.params.map (·.type))).value
  returnType := ((programTypes sources).resolve file definition.returnType).value

/-- The function is what a declaration with the given signature is resolved to. -/
def HasSignature (sources : List (String × Program Pos)) (function : Function)
    (signature : Signature) : Prop :=
  ∃ file definition, (file, definition) ∈ declarations sources ∧
    (loweredIn sources file definition).value = function ∧
    signatureIn sources file definition = signature

/-- All names in the signature are identifiers. -/
structure Signature.Spelled (signature : Signature) : Prop where
  /-- The name of the function. -/
  name : IsIdentifier signature.name
  /-- The types of its parameters. -/
  params : ∀ param ∈ signature.params, param.Spelled
  /-- The type it returns. -/
  returnType : signature.returnType.Spelled

/-- The identity of a function with the given signature. -/
def Signature.key (signature : Signature) : FunctionKey :=
  .ofTypes signature.name signature.params signature.returnType

theorem Signature.key_inj {signature signature' : Signature} (h : signature.Spelled)
    (h' : signature'.Spelled) : signature.key = signature'.key ↔ signature = signature' := by
  refine ⟨fun heq => ?_, congrArg key⟩
  obtain ⟨name, params, returnType⟩ := signature
  obtain ⟨name', params', returnType'⟩ := signature'
  obtain ⟨rfl, rfl, rfl⟩ :=
    FunctionKey.ofTypes_inj h.params h'.params h.returnType h'.returnType heq
  rfl

theorem Signature.symbol_inj {signature signature' : Signature} (h : signature.Spelled)
    (h' : signature'.Spelled) :
    signature.key.symbol = signature'.key.symbol ↔ signature.key = signature'.key :=
  ⟨FunctionKey.symbol_ofTypes_inj h.name h'.name h.params h'.params, congrArg FunctionKey.symbol⟩

section Programs

variable {sources : List (String × Program Pos)} {file : String} {definition : FunctionDef Pos}

/-- The names in a text are identifiers. -/
theorem FromText.spelled (h : FromText sources) {source : String × Program Pos}
    (hsource : source ∈ sources) : source.2.Spelled := by
  obtain ⟨depth, text, hread⟩ := h source hsource
  exact spelled_of_read hread

/-- So are those in the tables of a program. -/
theorem spelled_programTypes (h : FromText sources) : (programTypes sources).Spelled := by
  intro entry hentry
  obtain ⟨declared, hdeclared, rfl⟩ := mem_aliases_programTypes hentry
  obtain ⟨source, hsource, hmem⟩ := List.mem_flatMap.mp hdeclared
  obtain ⟨definition, hdefinition, rfl⟩ := List.mem_map.mp hmem
  exact (h.spelled hsource).aliases definition hdefinition

/-- So are those in its signatures. -/
theorem spelled_signatureIn (h : FromText sources)
    (hmem : (file, definition) ∈ declarations sources) :
    (signatureIn sources file definition).Spelled := by
  obtain ⟨program, hsource, hdefinition⟩ := mem_declarations_iff.mp hmem
  have hspelled := (h.spelled hsource).functions definition hdefinition
  have hlookup : (programTypes sources).lookup.Spelled :=
    Types.spelled_follow (spelled_programTypes h) _ _
  exact ⟨hspelled.name, spelled_resolveAll hlookup (List.forall_mem_map.mpr hspelled.params),
    spelled_resolveType hlookup hspelled.returnType⟩

/-- A function has the key of its signature. -/
theorem HasSignature.key_eq {function : Function} {signature : Signature}
    (h : HasSignature sources function signature) : function.key = signature.key := by
  obtain ⟨file, definition, _, rfl, rfl⟩ := h
  rfl

/-- The signature of a function has identifiers for names. -/
theorem HasSignature.spelled {function : Function} {signature : Signature}
    (htext : FromText sources) (h : HasSignature sources function signature) :
    signature.Spelled := by
  obtain ⟨file, definition, hmem, _, rfl⟩ := h
  exact spelled_signatureIn htext hmem

end Programs

/-- Types whose names are identifiers have the same text only if they are the same. Every function
of a program that was read from source texts has a signature, and two such functions, be it of
different programs, have the same identity exactly if they have the same signature. The text of a
signature tells the identity as well. -/
theorem function_identity_is_type_identity :
    (∀ type type' : Ty, type.Spelled → type'.Spelled →
      (type.render = type'.render ↔ type = type')) ∧
    (∀ sources, ∀ unit ∈ (lowerProgram sources).value, ∀ function ∈ unit.functions,
      ∃ signature, HasSignature sources function signature) ∧
    ∀ sources sources', FromText sources → FromText sources' →
      ∀ function function' signature signature', HasSignature sources function signature →
        HasSignature sources' function' signature' →
        (function.key = function'.key ↔ signature = signature') ∧
        (function.key.symbol = function'.key.symbol ↔ function.key = function'.key) := by
  refine ⟨fun type type' h h' => ⟨Ty.render_inj h h', congrArg Ty.render⟩, ?_, ?_⟩
  · intro sources unit hunit function hfunction
    obtain ⟨definition, hmem, hlowered⟩ := (mem_functions_iff hunit).mp hfunction
    exact ⟨_, unit.name, definition, hmem, hlowered, rfl⟩
  · intro sources sources' htext htext' function function' signature signature' h h'
    rw [h.key_eq, h'.key_eq]
    exact ⟨Signature.key_inj (h.spelled htext) (h'.spelled htext'),
      Signature.symbol_inj (h.spelled htext) (h'.spelled htext')⟩

/-- Three declarations of `f`. The parameter of the first one has the type that is written out in
the second one. -/
def overloadedText : String :=
  "exception E; using A = fn(int) throws(E); void f(A); void f(fn(int) throws(E));" ++
    "void f(fn(int), const E &);"

/-- A type named `fn` is not taken for a function type. In `overloadedText` the first two
declarations are about one function and the last one is about another. -/
theorem identity_overloadedText :
    ((Ty.plain "fn").render = (Ty.function [] .undeclared).render ↔
      Ty.plain "fn" = Ty.function [] .undeclared) ∧
    ∃ program, read none overloadedText = .ok program ∧
      let functions := (lowerProgram [("a", program)]).value.flatMap (·.functions)
      functions.map (·.key.symbol) = ["void f(fn(int) throws(E))", "void f(fn(int) throws(E))",
        "void f(fn(int), const E&)"] ∧
      ∀ function ∈ functions, ∀ function' ∈ functions, ∃ signature signature',
        HasSignature [("a", program)] function signature ∧
        HasSignature [("a", program)] function' signature' ∧
        (function.key = function'.key ↔ signature = signature') ∧
        (function.key.symbol = function'.key.symbol ↔ function.key = function'.key) := by
  obtain ⟨hrender, hexists, hkeys⟩ := function_identity_is_type_identity
  have hfn : IsIdentifier "fn" := ⟨'f', ['n'], rfl, by decide, List.all_eq_true.mp (by decide)⟩
  refine ⟨hrender _ _ (.value hfn)
    (.function (List.forall_mem_nil _) (List.forall_mem_nil _)), ?_⟩
  have hsymbols : (read none overloadedText).toOption.map (fun program =>
      ((lowerProgram [("a", program)]).value.flatMap (·.functions)).map (·.key.symbol)) =
      some ["void f(fn(int) throws(E))", "void f(fn(int) throws(E))",
        "void f(fn(int), const E&)"] := by decide +kernel
  cases hread : read none overloadedText with
  | error error =>
    rw [hread] at hsymbols
    cases hsymbols
  | ok program =>
    rw [hread] at hsymbols
    have htext : FromText [("a", program)] := by
      intro source hsource
      obtain rfl := List.mem_singleton.mp hsource
      exact ⟨none, overloadedText, hread⟩
    refine ⟨program, rfl, Option.some.inj hsymbols, fun function hmem function' hmem' => ?_⟩
    obtain ⟨unit, hunit, hfunction⟩ := List.mem_flatMap.mp hmem
    obtain ⟨unit', hunit', hfunction'⟩ := List.mem_flatMap.mp hmem'
    obtain ⟨signature, h⟩ := hexists _ unit hunit function hfunction
    obtain ⟨signature', h'⟩ := hexists _ unit' hunit' function' hfunction'
    exact ⟨signature, signature', h, h', hkeys _ _ htext htext _ _ _ _ h h'⟩

end Throws.Resolution
