/-!
# Numbers as text

Numbers in lower-case hexadecimal, padded with zeros to a given width, and the values of
hexadecimal digits of either case.

Whole numbers are read as they may be typed: decimal digits of any one or several scripts, a sign in
front, single underscores between digits, and blanks around it all. Digits and blanks are those of
version 14 of the Unicode character database.
-/

namespace Throws.Text

/-! ## Hexadecimal digits -/

/-- The lower-case digit of a number below sixteen. -/
def hexDigit (value : Nat) : Char :=
  if value < 10 then Char.ofNat ('0'.toNat + value) else Char.ofNat ('a'.toNat + (value - 10))

/-- The last `width` hexadecimal digits of a number, in front of `rest`. -/
def hexDigits : (width : Nat) → (value : Nat) → (rest : List Char) → List Char
  | 0, _, rest => rest
  | width + 1, value, rest => hexDigits width (value / 16) (hexDigit (value % 16) :: rest)

/-- A number in `width` hexadecimal digits. -/
def hex (width value : Nat) : String := String.ofList (hexDigits width value [])

/-- The value of a hexadecimal digit. -/
def hexValue? (c : Char) : Option Nat :=
  if '0' ≤ c ∧ c ≤ '9' then some (c.toNat - '0'.toNat)
  else if 'a' ≤ c ∧ c ≤ 'f' then some (c.toNat - 'a'.toNat + 10)
  else if 'A' ≤ c ∧ c ≤ 'F' then some (c.toNat - 'A'.toNat + 10)
  else none

/-- The number with the given hexadecimal digits. -/
def hexNumber? (digits : List Char) : Option Nat :=
  digits.foldlM (fun value c => (hexValue? c).map (value * 16 + ·)) 0

/-! ## Decimal numbers in any script -/

/-- The digits zero of all scripts; the other nine follow each of them. -/
def zeros : List Nat :=
  [0x30, 0x660, 0x6f0, 0x7c0, 0x966, 0x9e6, 0xa66, 0xae6, 0xb66, 0xbe6, 0xc66, 0xce6, 0xd66,
    0xde6, 0xe50, 0xed0, 0xf20, 0x1040, 0x1090, 0x17e0, 0x1810, 0x1946, 0x19d0, 0x1a80, 0x1a90,
    0x1b50, 0x1bb0, 0x1c40, 0x1c50, 0xa620, 0xa8d0, 0xa900, 0xa9d0, 0xa9f0, 0xaa50, 0xabf0,
    0xff10, 0x104a0, 0x10d30, 0x11066, 0x110f0, 0x11136, 0x111d0, 0x112f0, 0x11450, 0x114d0,
    0x11650, 0x116c0, 0x11730, 0x118e0, 0x11950, 0x11c50, 0x11d50, 0x11da0, 0x16a60, 0x16ac0,
    0x16b50, 0x1d7ce, 0x1d7d8, 0x1d7e2, 0x1d7ec, 0x1d7f6, 0x1e140, 0x1e2f0, 0x1e950, 0x1fbf0]

/-- The value of a decimal digit. -/
def digitValue? (c : Char) : Option Nat :=
  (zeros.find? fun first => first ≤ c.toNat && c.toNat < first + 10).map (c.toNat - ·)

/-- Whether a character is a blank. Separators of the control set are none. -/
def isSpace (c : Char) : Bool :=
  let point := c.toNat
  (0x9 ≤ point && point ≤ 0xd) || point == 0x20 || point == 0x85 || point == 0xa0
    || point == 0x1680 || (0x2000 ≤ point && point ≤ 0x200a) || point == 0x2028
    || point == 0x2029 || point == 0x202f || point == 0x205f || point == 0x3000

/-- The text without the blanks around it. -/
def trimSpace (cs : List Char) : List Char :=
  ((cs.dropWhile isSpace).reverse.dropWhile isSpace).reverse

/-- The greatest number of digits that is read. -/
def maxNumberDigits : Nat := 4300

/-- The values of digits with single underscores between them; `afterDigit` says whether a digit
comes just before. -/
def digitsOf? : (afterDigit : Bool) → List Char → Option (List Nat)
  | afterDigit, [] => if afterDigit then some [] else none
  | afterDigit, c :: cs =>
    if c = '_' then if afterDigit then digitsOf? false cs else none
    else (digitValue? c).bind fun value => (digitsOf? true cs).map (value :: ·)

/-- The number with the given decimal digits, unless there are too many of them. -/
def numberOf? (digits : List Nat) : Option Nat :=
  if digits.length ≤ maxNumberDigits then some (digits.foldl (fun value d => value * 10 + d) 0)
  else none

/-- Reads a whole number. -/
def readInt? (text : String) : Option Int :=
  match trimSpace text.toList with
  | '-' :: digits => ((digitsOf? false digits).bind numberOf?).map fun value => -(value : Int)
  | '+' :: digits => ((digitsOf? false digits).bind numberOf?).map fun value => (value : Int)
  | digits => ((digitsOf? false digits).bind numberOf?).map fun value => (value : Int)

end Throws.Text
