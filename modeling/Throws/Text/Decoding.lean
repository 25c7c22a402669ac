/-!
# Text from bytes

Decodes bytes in UTF-8. Bytes that are no text are refused with the number of bytes in front of the
first one that does not begin a character.

Text may end its lines with a line feed, a carriage return or both. Once read, every line ends with
a line feed.
-/

namespace Throws.Text

/-- Whether a byte continues a character that an earlier byte began. -/
def isContinuation (byte : UInt8) : Bool := 0x80 ≤ byte && byte < 0xc0

/-- The bits that a continuing byte adds to a character. -/
def continued (bits : Nat) (byte : UInt8) : Nat := bits * 64 + (byte.toNat - 0x80)

/-- The character of a lead byte and one that continues it. -/
def ofTwoBytes? (a b : UInt8) : Option Char :=
  if 0xc2 ≤ a && a < 0xe0 && isContinuation b then
    some (.ofNat (continued (a.toNat - 0xc0) b))
  else none

/-- The character of a lead byte and two that continue it. Shorter characters and surrogates are
refused. -/
def ofThreeBytes? (a b c : UInt8) : Option Char :=
  let point := continued (continued (a.toNat - 0xe0) b) c
  if 0xe0 ≤ a && a < 0xf0 && isContinuation b && isContinuation c && 0x800 ≤ point
      && !(0xd800 ≤ point && point < 0xe000) then some (.ofNat point)
  else none

/-- The character of a lead byte and three that continue it. Shorter characters and numbers beyond
the last character are refused. -/
def ofFourBytes? (a b c d : UInt8) : Option Char :=
  let point := continued (continued (continued (a.toNat - 0xf0) b) c) d
  if 0xf0 ≤ a && a < 0xf8 && isContinuation b && isContinuation c && isContinuation d
      && 0x10000 ≤ point && point < 0x110000 then some (.ofNat point)
  else none

/-- Decodes the bytes that come after `offset` others, which held the characters `before`, the last
one first. -/
def decodeFrom (offset : Nat) (before : List Char) : List UInt8 → Except Nat (List Char)
  | [] => .ok before.reverse
  | a :: rest =>
    if a < 0x80 then decodeFrom (offset + 1) (.ofNat a.toNat :: before) rest
    else match rest with
      | [] => .error offset
      | b :: rest =>
        match ofTwoBytes? a b with
        | some char => decodeFrom (offset + 2) (char :: before) rest
        | none => match rest with
          | [] => .error offset
          | c :: rest =>
            match ofThreeBytes? a b c with
            | some char => decodeFrom (offset + 3) (char :: before) rest
            | none => match rest with
              | [] => .error offset
              | d :: rest =>
                match ofFourBytes? a b c d with
                | some char => decodeFrom (offset + 4) (char :: before) rest
                | none => .error offset

/-- Decodes bytes; without success, how many bytes come before the first bad one. -/
def decodeUtf8 (bytes : List UInt8) : Except Nat (List Char) := decodeFrom 0 [] bytes

/-- The text with a line feed at the end of every line; `afterReturn` says whether a carriage
return, already answered for, comes just before. -/
def unifyNewlines (afterReturn : Bool) : List Char → List Char
  | [] => []
  | '\r' :: rest => '\n' :: unifyNewlines true rest
  | '\n' :: rest =>
    if afterReturn then unifyNewlines false rest else '\n' :: unifyNewlines false rest
  | c :: rest => c :: unifyNewlines false rest

end Throws.Text
