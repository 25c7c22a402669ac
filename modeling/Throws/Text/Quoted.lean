import Throws.Text.Number
import Throws.Text.Printable

/-!
# Quoted text

A text in quotes, for reports. Single quotes are used unless the text has some and no double ones.
A backslash, the quote itself and whatever is not printable are escaped.
-/

namespace Throws.Text

/-- A character inside of a text quoted with `quote`. -/
def quoteChar (quote c : Char) : String :=
  if c = quote || c = '\\' then "\\" ++ String.singleton c
  else if c = '\t' then "\\t"
  else if c = '\n' then "\\n"
  else if c = '\r' then "\\r"
  else if isPrintable c then String.singleton c
  else if c.toNat < 0x100 then "\\x" ++ hex 2 c.toNat
  else if c.toNat < 0x10000 then "\\u" ++ hex 4 c.toNat
  else "\\U" ++ hex 8 c.toNat

/-- The quote for a text. -/
def quoteFor (cs : List Char) : Char := if cs.contains '\'' && !cs.contains '"' then '"' else '\''

/-- A text in quotes. -/
def quoted (cs : List Char) : String :=
  let quote := quoteFor cs
  String.singleton quote ++ String.join (cs.map (quoteChar quote)) ++ String.singleton quote

/-- Whether a line ends at the character. -/
def endsLine (c : Char) : Bool :=
  let point := c.toNat
  (0xa ≤ point && point ≤ 0xd) || (0x1c ≤ point && point ≤ 0x1e) || point == 0x85
    || point == 0x2028 || point == 0x2029

/-- A text up to the end of its first line. -/
def firstLine (text : String) : String :=
  String.ofList (text.toList.takeWhile fun c => !endsLine c)

end Throws.Text
