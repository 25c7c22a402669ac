import Throws.Diagnostic
import Throws.Text.Number

/-!
# JSON documents

Just enough of JSON to write reports: the fields of an object keep their order, a comma and a colon
are followed by a blank, and everything outside of printable ASCII is escaped. A diagnostic has a
structured form, field by field in a fixed order.
-/

namespace Throws

/-- A JSON document. -/
inductive Json where
  | null
  | bool (value : Bool)
  | int (value : Int)
  | str (value : String)
  | arr (items : List Json)
  | obj (fields : List (String × Json))

namespace Json

/-- The escape of a number below 65536. -/
def escapeUnit (unit : Nat) : String := "\\u" ++ Text.hex 4 unit

/-- A code point inside of a JSON string; one beyond 65535 is written as two surrogates. -/
def escape (point : Nat) : String :=
  if point = 0x22 then "\\\""
  else if point = 0x5c then "\\\\"
  else if point = 0x0a then "\\n"
  else if point = 0x0d then "\\r"
  else if point = 0x09 then "\\t"
  else if point = 0x0c then "\\f"
  else if point = 0x08 then "\\b"
  else if 0x20 ≤ point ∧ point < 0x7f then String.singleton (Char.ofNat point)
  else if point < 0x10000 then escapeUnit point
  else escapeUnit (0xd800 + (point - 0x10000) / 0x400) ++
    escapeUnit (0xdc00 + (point - 0x10000) % 0x400)

/-- A JSON string with the given code points. -/
def quotePoints (points : List Nat) : String :=
  "\"" ++ String.join (points.map escape) ++ "\""

/-- A JSON string with the given text. -/
def quote (text : String) : String := quotePoints (text.toList.map Char.toNat)

mutual

/-- The document as text. -/
def render : Json → String
  | .null => "null"
  | .bool value => if value then "true" else "false"
  | .int value => toString value
  | .str value => quote value
  | .arr items => "[" ++ ", ".intercalate (renderItems items) ++ "]"
  | .obj fields => "\x7b" ++ ", ".intercalate (renderFields fields) ++ "\x7d"

/-- The items of an array as text. -/
def renderItems : List Json → List String
  | [] => []
  | item :: rest => item.render :: renderItems rest

/-- The fields of an object as text. -/
def renderFields : List (String × Json) → List String
  | [] => []
  | (name, value) :: rest => (quote name ++ ": " ++ value.render) :: renderFields rest

end

/-- A text that may be missing. -/
def ofText? : Option String → Json
  | some text => .str text
  | none => .null

/-- A number that may be missing. -/
def ofInt? : Option Int → Json
  | some number => .int number
  | none => .null

end Json

/-- A set of exceptions as JSON: its types in order, or `"..."` if it is unbounded. -/
def ExceptionSet.toJson (set : ExceptionSet) : Json :=
  if set.isUniversal then .str "..." else .arr (set.names.map .str)

/-- A diagnostic as JSON. One without a file is attributed to `source`. -/
def Diagnostic.toJson (source : Option String) (diagnostic : Diagnostic) : Json :=
  .obj [
    ("phase", .ofText? diagnostic.phase),
    ("kind", .str diagnostic.kind.name),
    ("message", .str diagnostic.message),
    ("severity", .str diagnostic.severity),
    ("function", .ofText? (diagnostic.function.map (·.symbol))),
    ("escaping", match diagnostic.escaping with
      | some set => set.toJson
      | none => .null),
    ("file", .ofText? ((Span.namedFile diagnostic.span.file).or source)),
    ("line", .ofInt? diagnostic.span.line),
    ("column", .ofInt? diagnostic.span.column),
    ("notes", .arr (diagnostic.notes.map .str))]

end Throws
