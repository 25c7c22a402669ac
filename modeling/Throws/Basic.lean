/-!
# Values, types and functions

What syntax trees, bodies and reports have in common: the values that a program can spell out, the
types of the values that it throws and catches, and the identity of its functions.

A text is a list of code points and not a `String`, because an escape in a program may name half of
a surrogate pair. Qualifiers never take part in the identity of an exception; whether they are
acceptable is decided where the value is thrown or caught. A function is identified by its name, its
parameter types and its return type. The exception contract is not part of the identity, so
declarations that differ only there are declarations of one function.
-/

namespace Throws

/-- A value written in a program. -/
inductive Literal where
  /-- A whole number. -/
  | int (value : Int)
  /-- A text, as its code points. -/
  | text (points : List Nat)
  /-- A truth value. -/
  | bool (value : Bool)
deriving DecidableEq, Inhabited

/-- A canonical type name with its qualifiers. -/
structure ValueType where
  /-- Canonical name; never the name of an alias. -/
  name : String
  /-- Written with `const`. -/
  isConst : Bool := false
  /-- Written with `volatile`. -/
  isVolatile : Bool := false
  /-- Written with `&`. -/
  isRef : Bool := false
deriving DecidableEq, Inhabited

namespace ValueType

/-- Whether the type is `const` or `volatile`. -/
def isQualified (type : ValueType) : Bool := type.isConst || type.isVolatile

/-- Whether the type is a plain value, neither a reference nor qualified. -/
def isPlain (type : ValueType) : Bool := !(type.isRef || type.isQualified)

/-- The same type as a plain value. -/
def unqualified (type : ValueType) : ValueType := { name := type.name }

/-- The type as it is written, `const` before `volatile`. -/
def render (type : ValueType) : String :=
  (if type.isConst then "const " else "") ++ (if type.isVolatile then "volatile " else "")
    ++ type.name ++ (if type.isRef then "&" else "")

end ValueType

/-- Identity of a function. -/
structure FunctionKey where
  /-- Name of the function. -/
  name : String
  /-- Parameter types as text. -/
  paramTypes : List String := []
  /-- Return type as text. -/
  returnType : String := "void"
deriving DecidableEq, Inhabited

/-- The signature as text, for instance `int f(int, E1)`. -/
def FunctionKey.symbol (key : FunctionKey) : String :=
  key.returnType ++ " " ++ key.name ++ "(" ++ ", ".intercalate key.paramTypes ++ ")"

end Throws
