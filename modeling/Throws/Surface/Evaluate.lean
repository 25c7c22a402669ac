import Throws.Basic
import Throws.Text.CharacterName

/-!
# Values of literals

What a number or a text in quotes stands for. Numbers are decimal, and may have any number of
digits up to a limit. In a text a backslash begins an escape: a control character by its letter, a
code point by octal digits or by two, four or eight hexadecimal ones, a character by its name in
braces, or a line end that does not count. A backslash in front of any other character stands for
itself.
-/

namespace Throws.Surface

/-- Why a literal has no value. -/
inductive LiteralFault where
  /-- A text with a broken escape, or one that runs over the end of a line. -/
  | brokenText
  /-- A text with a NUL character. -/
  | nulCharacter
  /-- A number with more digits than are allowed. -/
  | tooManyDigits (count : Nat)
deriving DecidableEq, Inhabited

/-- The greatest number of digits of a number, leading zeros included. -/
def maxDigits : Nat := 4300

/-- The wording of a fault, where there is one. -/
def LiteralFault.message? : LiteralFault → Option String
  | .tooManyDigits count => some ("Exceeds the limit (" ++ toString maxDigits
      ++ " digits) for integer string conversion: value has " ++ toString count
      ++ " digits; use sys.set_int_max_str_digits() to increase the limit")
  | _ => none

/-- The number with the given decimal digits. -/
def decimal (digits : List Char) : Nat :=
  digits.foldl (fun value c => value * 10 + (c.toNat - '0'.toNat)) 0

/-- The value of a number. -/
def evalInt (digits : List Char) : Except LiteralFault Literal :=
  if digits.length > maxDigits then .error (.tooManyDigits digits.length)
  else .ok (.int (decimal digits))

/-- The code point of an escape with exactly `width` hexadecimal digits. -/
def hexEscape? (width : Nat) (cs : List Char) : Option Nat :=
  let digits := cs.take width
  if digits.length = width then (Text.hexNumber? digits).filter (· < 0x110000) else none

/-- Whether a character is an octal digit. -/
def isOctal (c : Char) : Bool := '0' ≤ c && c ≤ '7'

/-- The octal digits of an escape, at most three. -/
def octalDigits (cs : List Char) : List Char := (cs.take 3).takeWhile isOctal

/-- The number with the given octal digits. -/
def octalNumber (digits : List Char) : Nat :=
  digits.foldl (fun value c => value * 8 + (c.toNat - '0'.toNat)) 0

/-- What an escape stands for, and how many characters it has behind its backslash. -/
structure Escape where
  /-- The code points that it stands for. -/
  points : List Nat
  /-- The number of characters. -/
  length : Nat

/-- An escape that consists of its letter only. -/
def Escape.simple (point : Nat) : Option Escape := some ⟨[point], 1⟩

/-- The escape of a character that is given by its name in braces, behind its letter. -/
def namedEscape? : List Char → Option Escape
  | '\x7b' :: rest =>
    let name := rest.takeWhile (· ≠ '\x7d')
    if name.length < rest.length then
      (Text.characterCode? name).map fun point => ⟨[point], name.length + 3⟩
    else none
  | _ => none

/-- The escape that begins with the given character behind a backslash. -/
def escapeOf? (c : Char) (rest : List Char) : Option Escape :=
  match c with
  | '\r' => some ⟨[], 1⟩
  | '\\' => Escape.simple 0x5c
  | '\'' => Escape.simple 0x27
  | '"' => Escape.simple 0x22
  | 'a' => Escape.simple 0x07
  | 'b' => Escape.simple 0x08
  | 'f' => Escape.simple 0x0c
  | 'n' => Escape.simple 0x0a
  | 'r' => Escape.simple 0x0d
  | 't' => Escape.simple 0x09
  | 'v' => Escape.simple 0x0b
  | 'x' => (hexEscape? 2 rest).map fun point => ⟨[point], 3⟩
  | 'u' => (hexEscape? 4 rest).map fun point => ⟨[point], 5⟩
  | 'U' => (hexEscape? 8 rest).map fun point => ⟨[point], 9⟩
  | 'N' => namedEscape? rest
  | _ =>
    if isOctal c then
      let digits := octalDigits (c :: rest)
      some ⟨[octalNumber digits], digits.length⟩
    else some ⟨[0x5c, c.toNat], 1⟩

/-- The code points of a text, where the first `skipped` characters belong to an escape that has
been read already. -/
def unescape : (skipped : Nat) → List Char → Option (List Nat)
  | _, [] => some []
  | skipped + 1, _ :: rest => unescape skipped rest
  | 0, '\\' :: rest =>
    match rest with
    | [] => none
    | c :: more =>
      (escapeOf? c more).bind fun escape => (unescape escape.length rest).map (escape.points ++ ·)
  | 0, c :: rest => if c = '\r' then none else (unescape 0 rest).map (c.toNat :: ·)

/-- The value of a text in quotes. -/
def evalString (quoted : List Char) : Except LiteralFault Literal :=
  if quoted.contains '\x00' then .error .nulCharacter
  else match unescape 0 ((quoted.drop 1).dropLast) with
    | some points => .ok (.text points)
    | none => .error .brokenText

end Throws.Surface
