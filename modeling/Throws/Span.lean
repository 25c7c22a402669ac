/-!
# Source spans

A `Span` says where something was written, as far as that is known: a file, a line and a column,
each of which may be missing. Bodies built by hand carry no span at all, and such a span prints
as an unknown location.
-/

namespace Throws

/-- Best-effort position of a declaration, a statement or an expression. -/
structure Span where
  /-- Name of the file, as the reader was given it. -/
  file : Option String := none
  /-- Line, counted from one by the reader. -/
  line : Option Int := none
  /-- Column, counted from one by the reader. -/
  column : Option Int := none
deriving DecidableEq, Inhabited

/-- What a front end can hand over as the place of something. -/
inductive Location where
  /-- Nothing is known. -/
  | unknown
  /-- A finished span. -/
  | span (span : Span)
  /-- The separate parts of a position. -/
  | parts (file : Option String) (line column : Option Int)

namespace Span

/-- A file name that is present and not empty. -/
def namedFile : Option String → Option String
  | some name => if name.isEmpty then none else some name
  | none => none

/-- The span of a location read from `file`. A finished span is taken as it is; a nonempty `file`
is preferred to the one the location itself names. -/
def ofLocation (file : Option String) : Location → Span
  | .unknown => { file := file }
  | .span span => span
  | .parts own line column => { file := (namedFile file).or own, line := line, column := column }

/-- A span is known as soon as its file or its line is. -/
def isKnown (span : Span) : Bool := span.file.isSome || span.line.isSome

/-- `file:line:column`, leaving out what is missing; a missing column counts as zero. -/
def format (span : Span) : String :=
  let position := span.line.map fun line => s!"{line}:{span.column.getD 0}"
  let parts := (namedFile span.file).toList ++ position.toList
  if parts.isEmpty then "<unknown location>" else ":".intercalate parts

end Span

end Throws
