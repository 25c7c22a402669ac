import Throws.Basic
import Throws.Contract.Basic

/-!
# Resolved bodies

A `Node` is a piece of a function body in which all names have been resolved: a call carries the
identity of its target, a throw and a handler carry the type of their value, and every loop has the
same shape. A front end builds these trees, and so may any other host.

Hosts are not trusted to build sensible trees. A part that is missing is `Node.absent`, and
something that has no place inside a body is `Node.misplaced`; what could not be resolved is left
open in the node itself. The analysis rejects whatever it cannot make sense of.
-/

namespace Throws.Body

/-- Things that occur around bodies but not inside them. -/
inductive Misplaced where
  /-- A handler outside of a `try`. -/
  | clause
  /-- A whole function. -/
  | function
  /-- A whole unit. -/
  | unit
deriving DecidableEq, Inhabited

mutual

/-- An expression or a statement of a resolved body. -/
inductive Node where
  /-- A part that was left out. -/
  | absent
  /-- Something that cannot be part of a body. -/
  | misplaced (what : Misplaced) (span : Span)
  /-- A part cut off because it lies deeper than an analysis is allowed to go. -/
  | depths
  /-- A value written in the program. -/
  | literal (value : Literal) (span : Span)
  /-- A use of a variable. -/
  | variable (name : String) (span : Span)
  /-- A call of a known function; without a `callee` its target could not be found, and `spelling`
  is the name that was called. -/
  | call (callee : Option FunctionKey) (args : List Node) (spelling : Option String) (span : Span)
  /-- A call through a function value whose type promises `contract`. -/
  | indirectCall (callee : Node) (contract : Contract) (args : List Node) (span : Span)
  /-- The construction of an exception value, which itself throws nothing. -/
  | construct (type : Option ValueType) (args : List Node) (span : Span)
  /-- An operator with one operand. -/
  | unary (op : String) (operand : Node) (span : Span)
  /-- An operator with two operands; an assignment is the operator `=`. -/
  | binary (op : String) (left right : Node) (span : Span)
  /-- Statements in a row. -/
  | block (statements : List Node) (span : Span)
  /-- An expression evaluated for its effect. -/
  | eval (expr : Node) (span : Span)
  /-- A local variable, with or without a first value. -/
  | bind (name : String) (value : Node) (span : Span)
  /-- A return, with or without a value. -/
  | ret (value : Node) (span : Span)
  /-- A throw of a value; without a `type` that of the value could not be found. -/
  | throw (value : Node) (type : Option ValueType) (span : Span)
  /-- A throw of the exception being handled. -/
  | rethrow (span : Span)
  /-- A choice between two blocks, of which the second may be left out. -/
  | branch (condition whenTrue whenFalse : Node) (span : Span)
  /-- A loop of any kind; each of its parts may be left out. -/
  | loop (body condition init step : Node) (span : Span)
  /-- A jump out of a loop. -/
  | leave (span : Span)
  /-- A jump to the next round of a loop. -/
  | next (span : Span)
  /-- A block with handlers for the exceptions that escape from it. -/
  | guarded (body : Node) (clauses : List Clause) (span : Span)

/-- A handler: the type of exception that it catches, where none means any exception at all, the
name it gives to the caught value, and what it does. -/
inductive Clause where
  | mk (type : Option ValueType) (binder : Option String) (block : Node) (span : Span)

end

instance : Inhabited Node := ⟨.absent⟩

namespace Clause

/-- The type of exception that the handler catches. -/
def type : Clause → Option ValueType
  | mk type _ _ _ => type

/-- The name given to the caught value. -/
def binder : Clause → Option String
  | mk _ binder _ _ => binder

/-- What the handler does. -/
def block : Clause → Node
  | mk _ _ block _ => block

/-- Where the handler stands. -/
def span : Clause → Span
  | mk _ _ _ span => span

/-- Whether the handler catches any exception. -/
def catchesAll (clause : Clause) : Bool := clause.type.isNone

end Clause

/-- A declaration of a function, or with a body its definition. -/
structure Function where
  /-- The identity of the function. -/
  key : FunctionKey
  /-- The exception clauses of this declaration. -/
  specifier : Specifier := {}
  /-- What the function does, if this is its definition. -/
  body : Option Node := none
  /-- Where the function is named. -/
  span : Span := {}

/-- Whether this is a definition. -/
def Function.isDefinition (function : Function) : Bool := function.body.isSome

/-- A unit of source text: declarations and definitions in source order. -/
structure SourceUnit where
  /-- Name of the unit. -/
  name : String
  /-- The declarations and definitions. -/
  functions : List Function := []

/-- The definitions of a unit in source order. -/
def SourceUnit.definitions (unit : SourceUnit) : List Function :=
  unit.functions.filter (·.isDefinition)

end Throws.Body
