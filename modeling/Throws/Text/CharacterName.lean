import Throws.Text.CharacterNames.Aliases
import Throws.Text.CharacterNames.AncientScripts
import Throws.Text.CharacterNames.EastAsian
import Throws.Text.CharacterNames.European
import Throws.Text.CharacterNames.Hieroglyphs
import Throws.Text.CharacterNames.MiddleEastern
import Throws.Text.CharacterNames.Notations
import Throws.Text.CharacterNames.Pictographs
import Throws.Text.CharacterNames.PresentationForms
import Throws.Text.CharacterNames.SouthAsian
import Throws.Text.CharacterNames.Syllabaries
import Throws.Text.CharacterNames.Symbols
import Throws.Text.Number

/-!
# Characters by their names

The character with a given name, as of version 14 of the Unicode character database. Most names are
in tables; those of Hangul syllables are spelled from the letters of the syllable, and those of some
ideographs end in the number of the character.

A table is a list of families: characters in a row whose names begin with the same words. A family
is a line with the number of its first character and those words, and then lines that begin with a
blank and hold what follows the words, with commas or line ends between. Nothing between two commas
means that there is no such character. What ends in two numbers with a tilde between stands for
names with all numbers from the one to the other. A small letter stands for a word that is in many
names, and there are no blanks next to it.
-/

namespace Throws.Text

/-- Names of characters in a row that begin with the same words. -/
structure NameFamily where
  /-- The number of the first character. -/
  first : Nat
  /-- The words, each with a blank behind it. -/
  words : List Char
  /-- What follows the words, character by character. -/
  members : List String

/-- The number of the character of the family that has the given name. -/
def NameFamily.code? (family : NameFamily) (name : List Char) : Option Nat :=
  match family.words.isPrefixOf? name with
  | none | some [] => none
  | some rest => (family.members.idxOf? (String.ofList rest)).map (family.first + ·)

/-- The words that small letters stand for. -/
def frequentWords : List (Char × String) :=
  [('a', "ARROW"), ('b', "BELOW"), ('c', "CAPITAL"), ('d', "DOUBLE"), ('e', "ABOVE"), ('f', "FORM"),
    ('g', "SIGN"), ('h', "WHITE"), ('i', "INITIAL"), ('j', "ISOLATED"), ('k', "BLACK"),
    ('l', "LETTER"), ('m', "MARK"), ('n', "AND"), ('o', "FINAL"), ('p', "STROKE"),
    ('q', "SIGNWRITING"), ('r', "RIGHT"), ('s', "SMALL"), ('t', "THREE"), ('u', "SYMBOL"),
    ('v', "VERTICAL"), ('w', "WITH"), ('x', "LEFT"), ('y', "LEFTWARDS"), ('z', "RIGHTWARDS")]

/-- Some words of a table in full. -/
def spelledOut (words : String) : String :=
  let full := words.toList.flatMap fun c => match frequentWords.lookup c with
    | some word => ' ' :: (word.toList ++ [' '])
    | none => [c]
  " ".intercalate (((String.ofList full).splitOn " ").filter (· ≠ ""))

/-- The family with the given first line. -/
def NameFamily.ofHead (head : List Char) (members : List String) : NameFamily :=
  let words := spelledOut (String.ofList ((head.dropWhile (· ≠ ' ')).drop 1))
  { first := (hexNumber? (head.takeWhile (· ≠ ' '))).getD 0
    words := if words.isEmpty then [] else words.toList ++ [' ']
    members := members }

/-- The members that are written as one, with the first and the last number of several in a row. All
numbers have at least as many digits as the first one. -/
def numberedMembers (member : String) : List String :=
  match member.splitOn "~" with
  | [first, last] =>
    let digits := (first.toList.reverse.takeWhile Char.isDigit).reverse
    let label := first.toList.take (first.length - digits.length)
    let low := (String.ofList digits).toNat?.getD 0
    (List.range' low (last.toNat?.getD 0 + 1 - low)).map fun number =>
      String.ofList (label ++ (toString number).toList.leftpad digits.length '0')
  | _ => [member]

/-- Takes one more line in front: with it come the members found in the lines behind it that have
no family yet, and the families of those lines. -/
def addNameLine (line : String) (found : List String × List NameFamily) :
    List String × List NameFamily :=
  match line.toList with
  | ' ' :: members =>
    let written := ((String.ofList members).splitOn ",").flatMap numberedMembers
    (written.map spelledOut ++ found.1, found.2)
  | head => ([], .ofHead head found.1 :: found.2)

/-- The families of a table. -/
def nameFamiliesOf (table : String) : List NameFamily :=
  ((table.splitOn "\n").foldr addNameLine ([], [])).2

/-- All tables of names. -/
def nameTables : List String :=
  [CharacterNames.european, CharacterNames.symbols, CharacterNames.pictographs,
    CharacterNames.middleEastern, CharacterNames.southAsian, CharacterNames.syllabaries,
    CharacterNames.eastAsian, CharacterNames.presentationForms, CharacterNames.ancientScripts,
    CharacterNames.hieroglyphs, CharacterNames.notations, CharacterNames.aliases]

/-- The families of all tables, found once they are asked for. -/
def nameFamilies : Thunk (List NameFamily) := Thunk.mk fun _ => nameTables.flatMap nameFamiliesOf

/-- Characters in a row whose names are a label and the number of the character. -/
structure NumberedNames where
  /-- The label, with the dash behind it. -/
  label : String
  /-- The number of the first character. -/
  first : Nat
  /-- The number of the last character. -/
  last : Nat

/-- Characters that are numbered in their names. -/
def numberedNames : List NumberedNames :=
  [⟨"CJK COMPATIBILITY IDEOGRAPH-", 0xf900, 0xfa6d⟩,
    ⟨"CJK COMPATIBILITY IDEOGRAPH-", 0xfa70, 0xfad9⟩,
    ⟨"CJK COMPATIBILITY IDEOGRAPH-", 0x2f800, 0x2fa1d⟩,
    ⟨"KHITAN SMALL SCRIPT CHARACTER-", 0x18b00, 0x18cd5⟩,
    ⟨"NUSHU CHARACTER-", 0x1b170, 0x1b2fb⟩]

/-- The number of the character that has the given name, which ends in its digits without a zero
in front. -/
def NumberedNames.code? (names : NumberedNames) (name : List Char) : Option Nat :=
  match names.label.toList.isPrefixOf? name with
  | none | some ('0' :: _) => none
  | some digits =>
    (hexNumber? digits).filter fun code => names.first ≤ code && code ≤ names.last

/-- First and last numbers of unified ideographs. -/
def unifiedIdeographs : List (Nat × Nat) :=
  [(0x3400, 0x4dbf), (0x4e00, 0x9fff), (0x20000, 0x2a6df), (0x2a700, 0x2b738),
    (0x2b740, 0x2b81d), (0x2b820, 0x2cea1), (0x2ceb0, 0x2ebe0), (0x30000, 0x3134a)]

/-- Whether a character is a hexadecimal digit that is no small letter. -/
def isUpperHex (c : Char) : Bool := ('0' ≤ c && c ≤ '9') || ('A' ≤ c && c ≤ 'F')

/-- The unified ideograph with the given digits in its name: four or five of them. -/
def ideographCode? (digits : List Char) : Option Nat :=
  if (digits.length == 4 || digits.length == 5) && digits.all isUpperHex then
    (hexNumber? digits).filter fun code =>
      unifiedIdeographs.any fun (first, last) => first ≤ code && code ≤ last
  else none

/-- The names of the consonants that can begin a Hangul syllable. -/
def syllableLeads : List String :=
  ["G", "GG", "N", "D", "DD", "R", "M", "B", "BB", "S", "SS", "", "J", "JJ", "C", "K", "T", "P",
    "H"]

/-- The names of the vowels of a Hangul syllable. -/
def syllableVowels : List String :=
  ["A", "AE", "YA", "YAE", "EO", "E", "YEO", "YE", "O", "WA", "WAE", "OE", "YO", "U", "WEO", "WE",
    "WI", "YU", "EU", "YI", "I"]

/-- The names of the consonants that can end a Hangul syllable. -/
def syllableTails : List String :=
  ["", "G", "GG", "GS", "N", "NJ", "NH", "D", "L", "LG", "LM", "LB", "LS", "LT", "LP", "LH", "M",
    "B", "BS", "S", "SS", "NG", "J", "C", "K", "T", "P", "H"]

/-- The longest of several texts that the given one begins with, by its index, and what is behind
it. -/
def longest? (texts : List String) (cs : List Char) : Option (Nat × List Char) :=
  texts.zipIdx.foldl (fun best (text, index) =>
    match text.toList.isPrefixOf? cs, best with
    | none, best => best
    | some rest, none => some (index, rest)
    | some rest, some (found, other) =>
      if rest.length < other.length then some (index, rest) else some (found, other)) none

/-- The Hangul syllable that is spelled by the names of its letters. -/
def syllableCode? (letters : List Char) : Option Nat := do
  let (lead, rest) ← longest? syllableLeads letters
  let (vowel, rest) ← longest? syllableVowels rest
  let (tail, rest) ← longest? syllableTails rest
  if rest.isEmpty then
    some (0xac00 + (lead * syllableVowels.length + vowel) * syllableTails.length + tail)
  else none

/-- The number of the character with the given name. In the names of unified ideographs and Hangul
syllables small letters do not count as capital ones. -/
def characterCode? (name : List Char) : Option Nat :=
  match "HANGUL SYLLABLE ".toList.isPrefixOf? name,
      "CJK UNIFIED IDEOGRAPH-".toList.isPrefixOf? name with
  | some letters, _ => syllableCode? letters
  | none, some digits => ideographCode? digits
  | none, none =>
    let name := name.map Char.toUpper
    (numberedNames.findSome? (·.code? name)).or (nameFamilies.get.findSome? (·.code? name))

end Throws.Text
