/-!
# Paths

A path is named by its parts, with slashes between them. Empty parts and parts that stay where they
are do not count, so that several names stand for one path; a step up is kept, since the part
before it has to exist.
-/

namespace Throws.CommandLine

/-- Where a path begins. -/
inductive Path.Start where
  /-- At the working directory. -/
  | here
  /-- At the top. -/
  | top
  /-- At the top, written with exactly two slashes, which a system may treat apart. -/
  | special
deriving DecidableEq, Inhabited

/-- A path: where it begins and the parts it goes through. -/
structure Path where
  /-- Where it begins. -/
  start : Path.Start := .here
  /-- The parts in order. -/
  parts : List String := []
deriving DecidableEq, Inhabited

namespace Path

/-- Where the path with the given name begins. -/
def Start.ofName (name : List Char) : Start :=
  match (name.takeWhile (· == '/')).length with
  | 0 => .here
  | 2 => .special
  | _ => .top

/-- What the name of a path begins with. -/
def Start.render : Start → String
  | .here => ""
  | .top => "/"
  | .special => "//"

/-- The path with the given name. -/
def ofName (name : String) : Path := {
  start := .ofName name.toList
  parts := (name.splitOn "/").filter fun part => part != "" && part != "." }

/-- The name of a path, without anything that does not count. -/
def render (path : Path) : String :=
  if path = {} then "." else path.start.render ++ "/".intercalate path.parts

end Path

end Throws.CommandLine
