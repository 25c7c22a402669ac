import Throws.CommandLine.Path

/-!
# Files

What reading a file can come to, and a tree of files in memory that answers as a file system would.
-/

namespace Throws.CommandLine

/-- Why a file cannot be read. -/
inductive ReadFault where
  /-- There is nothing at the path. -/
  | notFound
  /-- The path leads to a directory. -/
  | isDirectory
  /-- The path goes on behind a file. -/
  | notDirectory
  /-- The path, or a part of it, is too long. -/
  | nameTooLong
  /-- The name holds a null character. -/
  | nullInName
  /-- The bytes are no text, from the given one on. -/
  | notText (offset : Nat)
  /-- Something else is wrong. -/
  | other (description : String)
deriving DecidableEq

/-- The wording of a fault. -/
def ReadFault.message : ReadFault → String
  | .notFound => "No such file or directory"
  | .isDirectory => "Is a directory"
  | .notDirectory => "Not a directory"
  | .nameTooLong => "File name too long"
  | .nullInName => "embedded null byte"
  | .notText offset => "not valid UTF-8 (byte " ++ toString offset ++ ")"
  | .other description => description

/-- What a place in a tree of files holds. -/
inductive Entry where
  /-- A file with its bytes. -/
  | file (bytes : List UInt8)
  /-- A directory. -/
  | directory

/-- Files and directories, and the directory in which the program works. Every directory on the way
to an entry exists too. -/
structure Tree where
  /-- The entries with the parts of their paths from the top. -/
  entries : List (List String × Entry) := []
  /-- The path of the working directory, from the top. -/
  workingDirectory : List String := []

namespace Tree

/-- The file with the given path from the top. -/
def file? (tree : Tree) (parts : List String) : Option (List UInt8) :=
  tree.entries.findSome? fun
    | (path, .file bytes) => if path = parts then some bytes else none
    | _ => none

/-- Whether there is a directory with the given path from the top. -/
def hasDirectory (tree : Tree) (parts : List String) : Bool :=
  parts.isPrefixOf tree.workingDirectory || tree.entries.any fun
    | (path, .file _) => parts.isPrefixOf path && path != parts
    | (path, .directory) => parts.isPrefixOf path

/-- The greatest number of bytes in a part of a path. -/
def maxPart : Nat := 255

/-- The greatest number of bytes in a path. -/
def maxPath : Nat := 4095

/-- One step along a path, from the place with the given path from the top. A step up from the top
leads nowhere else. -/
def step (tree : Tree) (place : List String) (part : String) :
    Except ReadFault (List String) :=
  if !tree.hasDirectory place then .error .notDirectory
  else if part = ".." then .ok place.dropLast
  else if maxPart < part.utf8ByteSize then .error .nameTooLong
  else
    let next := place ++ [part]
    if tree.hasDirectory next || (tree.file? next).isSome then .ok next else .error .notFound

/-- Reads the file at a path. -/
def read (tree : Tree) (path : Path) : Except ReadFault (List UInt8) := do
  if path.render.toList.contains '\x00' then throw .nullInName
  if maxPath < path.render.utf8ByteSize then throw .nameTooLong
  let start := if path.start = .here then tree.workingDirectory else []
  let place ← path.parts.foldlM tree.step start
  match tree.file? place with
  | some bytes => return bytes
  | none => throw .isDirectory

end Tree

end Throws.CommandLine
