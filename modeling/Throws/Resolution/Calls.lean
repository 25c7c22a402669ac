import Throws.Basic
import Throws.Resolution.Types

/-!
# Resolving calls

A call is resolved by the name that is called and the number of arguments: it has a target if
exactly one function has them both, among all files of the program.
-/

namespace Throws.Resolution

open Throws.Surface

/-- A function that can be called. -/
structure Overload where
  /-- Its identity. -/
  key : FunctionKey
  /-- What it returns. -/
  returnType : Ty
  /-- How many arguments it takes. -/
  arity : Nat

/-- What a declaration of a function says about its type and its exceptions. -/
structure Header where
  /-- The file of the declaration. -/
  file : String
  /-- The declaration. -/
  source : FunctionDef Pos
  /-- The identity of the function. -/
  key : FunctionKey
  /-- What it returns. -/
  returnType : Ty
  /-- Its exception clauses. -/
  specifier : Specifier

/-- Resolves the types and clauses of a declaration. -/
def Header.resolve (types : Types) (file : String) (function : FunctionDef Pos) :
    Logged Header := do
  let returnType ← .below 1 (types.resolve file function.returnType)
  let params ← .below 2 (resolveAll types.lookup file (function.params.map (·.type)))
  let specifier ← types.annotate file function.clauses
  return {
    file := file
    source := function
    key := {
      name := function.name, paramTypes := Ty.renderAll params, returnType := returnType.render }
    returnType := returnType
    specifier := specifier }

/-- The function that a declaration is about. -/
def Header.overload (header : Header) : Overload where
  key := header.key
  returnType := header.returnType
  arity := header.source.params.length

/-- Everything that is declared in a program. -/
structure Globals where
  /-- The types. -/
  types : Types := {}
  /-- The functions, each of them once. -/
  overloads : List Overload := []

/-- Adds a function, unless it is there already. -/
def addOverload (overloads : List Overload) (overload : Overload) : List Overload :=
  if overloads.any (·.key == overload.key) then overloads else overloads ++ [overload]

/-- The functions that several declarations are about. -/
def overloadsOf (headers : List Header) : List Overload :=
  (headers.map (·.overload)).foldl addOverload []

/-- The target of a call, if there is exactly one. -/
def Globals.call? (globals : Globals) (name : String) (arity : Nat) : Option Overload :=
  match globals.overloads.filter fun overload =>
      overload.key.name == name && overload.arity == arity with
  | [overload] => some overload
  | _ => none

end Throws.Resolution
