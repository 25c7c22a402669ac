import Throws.Body.Node
import Throws.Diagnostic
import Throws.Signature.Source

/-!
# Walking through a body

The analysis of a body is a `Walk`: a computation that leaves a `Trace` and may stop early. The
trace collects the recoverable errors and the places at which an unbounded effect arises; it stays
as it is when the walk stops. A walk stops for good at something malformed, and it also stops at
the first recoverable error when nobody collects them.
-/

namespace Throws.Effect

open Throws.Body

/-- A place whose effect is unbounded. -/
structure Site where
  /-- Why the effect is unbounded, in words. -/
  reason : String
  /-- Where it is. -/
  span : Span := {}
  /-- The function called there, if it is a call. -/
  callee : Option FunctionKey := none
deriving DecidableEq, Inhabited

/-- A site as it appears in a note. -/
def Site.describe (site : Site) : String :=
  if site.span.isKnown then site.reason ++ " at " ++ site.span.format else site.reason

/-- Why a body cannot be analysed. -/
inductive Fault where
  /-- A call whose target was never found; the name that was called, if it is known. -/
  | unresolvedCall (spelling : Option String)
  /-- A throw of a value whose type was never found. -/
  | untypedThrow
  /-- Something that has no place inside a body. -/
  | unsupported (what : Misplaced)
  /-- Nothing where something is needed. -/
  | missing
  /-- A part that lies too deep. -/
  | tooDeep
deriving DecidableEq, Inhabited

/-- How a fault names what has no place inside a body. -/
def Fault.label : Misplaced → String
  | .clause => "HCatch"
  | .function => "HFunction"
  | .unit => "HUnit"

/-- The wording of a fault. A call without a name, or with an empty one, is just a call. -/
def Fault.message : Fault → String
  | .unresolvedCall (some spelling) =>
    if spelling.isEmpty then "call has no resolved target"
    else "call `" ++ spelling ++ "` has no resolved target"
  | .unresolvedCall none => "call has no resolved target"
  | .untypedThrow => "throw operand has no resolved static type"
  | .unsupported what => "unsupported HIR node " ++ label what
  | .missing => "unsupported HIR node NoneType"
  | .tooDeep => "body nests too deeply to analyse"

/-- The report of a fault in the body of `function`. -/
def Fault.report (function : Option FunctionKey) (span : Span) (fault : Fault) : Diagnostic := {
  message := fault.message
  kind := .malformedInput
  function := function
  phase := some "verify"
  span := span }

/-- A recoverable error: a type that may not be thrown or caught the way it is. -/
inductive Problem where
  /-- A thrown type that is not a plain value. -/
  | thrown (type : ValueType)
  /-- A type that is caught by reference. -/
  | caughtByReference (type : ValueType)
  /-- A caught type with `const` or `volatile`. -/
  | caughtQualified (type : ValueType)

/-- The kind under which a problem is reported. -/
def Problem.kind : Problem → Diagnostic.Kind
  | .thrown _ => .invalidThrowType
  | .caughtByReference _ => .invalidCatchByReference
  | .caughtQualified _ => .invalidThrowType

/-- The wording of a problem. -/
def Problem.message : Problem → String
  | .thrown type => "cannot throw a value of type `" ++ type.render
      ++ "`; only unqualified value types may be thrown"
  | .caughtByReference type => "cannot catch by reference (`" ++ type.render
      ++ "`); catch the value type `" ++ type.name ++ "`"
  | .caughtQualified type => "cannot catch a value of type `" ++ type.render
      ++ "`; only unqualified value types may be caught"

/-- The report of a problem in the body of `function`. -/
def Problem.report (function : Option FunctionKey) (span : Span) (problem : Problem) :
    Diagnostic := {
  message := problem.message
  kind := problem.kind
  function := function
  phase := some "verify"
  span := span }

/-- What a walk leaves behind. -/
structure Trace where
  /-- The recoverable errors so far, in the order in which they were met. -/
  diagnostics : List Diagnostic := []
  /-- The places of unbounded effect so far that nothing absorbs. -/
  sites : List Site := []
deriving DecidableEq, Inhabited

/-- Why a walk stops. -/
inductive Stop where
  /-- A recoverable error that nobody collects. -/
  | rejected (diagnostic : Diagnostic)
  /-- Something that cannot be analysed, and where it is. -/
  | malformed (fault : Fault) (span : Span)
deriving DecidableEq, Inhabited

/-- A computation that extends a trace and may stop early, leaving the trace as it is. -/
def Walk (α : Type) : Type := Trace → Except Stop α × Trace

namespace Walk

variable {α β : Type}

instance : Monad Walk where
  pure a := fun trace => (.ok a, trace)
  bind walk next := fun trace => match walk trace with
    | (.ok a, after) => next a after
    | (.error stop, after) => (.error stop, after)

/-- The trace so far. -/
def trace : Walk Trace := fun trace => (.ok trace, trace)

/-- Changes the trace. -/
def modify (change : Trace → Trace) : Walk Unit := fun trace => (.ok (), change trace)

/-- Ends the walk. -/
def stop (reason : Stop) : Walk α := fun trace => (.error reason, trace)

/-- Notes a place of unbounded effect. -/
def addSite (site : Site) : Walk Unit :=
  modify fun trace => { trace with sites := trace.sites ++ [site] }

@[simp]
theorem pure_apply (a : α) (trace : Trace) : (pure a : Walk α) trace = (.ok a, trace) := rfl

theorem bind_apply (walk : Walk α) (next : α → Walk β) (trace : Trace) :
    (walk >>= next) trace = match walk trace with
      | (.ok a, after) => next a after
      | (.error stop, after) => (.error stop, after) :=
  rfl

end Walk

end Throws.Effect
