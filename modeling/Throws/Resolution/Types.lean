import Throws.Basic
import Throws.Contract.Basic
import Throws.Resolution.Logged
import Throws.Resolution.Problem
import Throws.Surface.Tree

/-!
# Resolving types

The types of a program are built in, declared as exceptions, or other names for types. A spelling
resolves to the type that it stands for in the end: following an alias adds the qualifiers written
on the way, and an alias that leads back to itself stops where it is found out.

A name is resolved by following aliases at most as often as there are aliases, since none is
followed while it is being followed already. An alias takes two levels, one for its name and one for
what it stands for; a parameter type takes two and an entry of a `throws` clause three.
-/

namespace Throws.Resolution

open Throws.Surface

/-- A resolved type. -/
inductive Ty where
  /-- The type of a value. -/
  | value (type : ValueType)
  /-- The type of a function; what a call through it may throw is part of it. -/
  | function (params : List Ty) (contract : Contract)

instance : Inhabited Ty := ⟨.value default⟩

namespace Ty

/-- How the contract of a function type is written behind its parameters. -/
def renderContract : Contract → String
  | .undeclared => ""
  | .declared allowed => " " ++ if allowed.isEmpty then "noexcept" else allowed.render

mutual

/-- A type as text. -/
def render : Ty → String
  | .value type => type.render
  | .function params contract =>
    "fn(" ++ ", ".intercalate (renderAll params) ++ ")" ++ renderContract contract

/-- Several types as text. -/
def renderAll : List Ty → List String
  | [] => []
  | type :: rest => type.render :: renderAll rest

end

/-- The type of a value of the given name. -/
def plain (name : String) : Ty := .value { name := name }

/-- The type of a value, if it is one. -/
def value? : Ty → Option ValueType
  | .value type => some type
  | .function _ _ => none

end Ty

/-- What an alias stands for, and the file in which it says so. -/
structure AliasTarget where
  /-- The type as written. -/
  type : TypeExpr Pos
  /-- The file it is written in. -/
  file : String

/-- The types that a program declares. -/
structure Types where
  /-- Names of exception types. -/
  exceptions : List String := []
  /-- Aliases in order of declaration; no name is there twice. -/
  aliases : List (String × AliasTarget) := []

/-- The names of the types that need no declaration. -/
def builtins : List String := ["void", "bool", "char", "int", "long", "float", "double", "string"]

namespace Types

/-- Whether a name denotes a type of its own. -/
def isBase (types : Types) (name : String) : Bool :=
  types.exceptions.contains name || builtins.contains name

/-- What an alias stands for. -/
def alias? (types : Types) (name : String) : Option AliasTarget := types.aliases.lookup name

/-- Whether a name is taken. -/
def isTaken (types : Types) (name : String) : Bool :=
  types.isBase name || (types.alias? name).isSome

/-- Declares an alias, unless its name is taken. -/
def declare (types : Types) (file : String) (definition : AliasDef Pos) : Logged Types :=
  if types.isTaken definition.name then do
    .report ((Problem.redefined definition.name).report (spanAt file definition.loc))
    return types
  else return { types with
    aliases := types.aliases ++ [(definition.name, ⟨definition.target, file⟩)] }

/-- Declares several aliases in order. -/
def declareAll (types : Types) : List (String × AliasDef Pos) → Logged Types
  | [] => return types
  | (file, definition) :: rest => do
    let types ← types.declare file definition
    types.declareAll rest

/-- The types declared by several files together. All exceptions come first, so an alias never hides
one. -/
def ofPrograms (sources : List (String × Program Pos)) : Logged Types :=
  let exceptions := sources.flatMap fun (_, program) => program.exceptions.map (·.name)
  let aliases := sources.flatMap fun (file, program) => program.aliases.map (file, ·)
  declareAll { exceptions := exceptions } aliases

end Types

/-- How names of types are resolved; the span is where the name is used. -/
abbrev Lookup : Type := String → Span → Logged Ty

/-- The name of an exception in a `throws` clause. -/
def resolveThrown (lookup : Lookup) (span : Span) (name : String) : Logged String := .below 1 do
  match ← lookup name span with
  | .value type => return type.name
  | .function _ _ => do
    .report ((Problem.thrownFunction name).report span)
    return name

/-- The specifier that exception clauses make up. -/
def resolveClauses (lookup : Lookup) (file : String) (clauses : Clauses Pos) :
    Logged Specifier := .below 1 do
  let span := spanAt? file clauses.loc
  let throws ← match clauses.throws with
    | none => pure none
    | some names => some <$> Logged.below 1 (.each (resolveThrown lookup span) names)
  return { throws := throws, wildcard := clauses.wildcard, noexcept := clauses.noexcept,
           span := span }

mutual

/-- The type that a spelling stands for. -/
def resolveType (lookup : Lookup) (file : String) : TypeExpr Pos → Logged Ty
  | .named name isConst isVolatile isRef loc => .below 1 do
    match ← lookup name (spanAt file loc) with
    | .value base => return .value {
        name := base.name
        isConst := base.isConst || isConst
        isVolatile := base.isVolatile || isVolatile
        isRef := base.isRef || isRef }
    | .function params contract => do
      if isConst || isVolatile || isRef then
        .report ((Problem.qualifiedFunction name).report (spanAt file loc))
      return .function params contract
  | .function params clauses loc => .below 1 do
    let params ← .below 1 (resolveAll lookup file params)
    let specifier ← resolveClauses lookup file clauses
    if specifier.isConflicting then do
      .report ((Problem.contradiction specifier).report (spanAt file loc))
      return .function params .undeclared
    else return .function params specifier.meaning

/-- The types that several spellings stand for. -/
def resolveAll (lookup : Lookup) (file : String) : List (TypeExpr Pos) → Logged (List Ty)
  | [] => return []
  | type :: rest => do
    let first ← resolveType lookup file type
    return first :: (← resolveAll lookup file rest)

end

namespace Types

/-- The type of a name, following at most `count` aliases; those in `following` are being followed
already. -/
def follow (types : Types) : (count : Nat) → (following : List String) → Lookup
  | count, following, name, span => .below 1 <|
    if types.isBase name then return .plain name
    else match types.alias? name with
      | none => do
        .report ((Problem.unknown name).report span)
        return .plain name
      | some target =>
        if following.contains name then do
          .report ((Problem.circular name).report span)
          return .plain name
        else match count with
          | 0 => return .plain name
          | count + 1 =>
            resolveType (types.follow count (name :: following)) target.file target.type

/-- The type of a name. -/
def lookup (types : Types) : Lookup := types.follow types.aliases.length []

/-- The type that a spelling stands for. -/
def resolve (types : Types) (file : String) (type : TypeExpr Pos) : Logged Ty :=
  resolveType types.lookup file type

/-- The specifier that exception clauses make up. -/
def annotate (types : Types) (file : String) (clauses : Clauses Pos) : Logged Specifier :=
  resolveClauses types.lookup file clauses

/-- The exception type that a name denotes, directly or as an alias. -/
def exception? (types : Types) (name : String) : Logged (Option ValueType) := .below 1 <|
  if types.exceptions.contains name then return some { name := name }
  else match types.alias? name with
    | none => return none
    | some target => do
      let type ← types.resolve target.file target.type
      return type.value?.filter fun type => types.exceptions.contains type.name

end Types

end Throws.Resolution
