import Throws.Text.Number

/-!
# Switches

The switches of the command line, and what a single word on it is taken for. A long name may be cut
short as long as it stays unique. A word that looks like a negative number or has a blank in it is
not taken for an unknown switch.
-/

namespace Throws.CommandLine

/-- The switches. -/
inductive Switch where
  | help
  | workers
  | json
  | verbose
deriving DecidableEq, Inhabited

namespace Switch

/-- Every switch, in the order in which help lists them. -/
def all : List Switch := [.help, .workers, .json, .verbose]

/-- The letter that stands for a switch behind one dash. -/
def letter? : Switch → Option Char
  | .help => some 'h'
  | .workers => some 'j'
  | .json => none
  | .verbose => some 'v'

/-- The name of a switch, with its two dashes. -/
def name : Switch → String
  | .help => "--help"
  | .workers => "--workers"
  | .json => "--json"
  | .verbose => "--verbose"

/-- Every way to write a switch in full. -/
def label (switch : Switch) : String :=
  match switch.letter? with
  | some letter => "-" ++ letter.toString ++ "/" ++ switch.name
  | none => switch.name

/-- Whether a switch comes with a value. -/
def takesValue : Switch → Bool
  | .workers => true
  | .help | .json | .verbose => false

/-- The switch that a letter stands for. -/
def ofLetter? (letter : Char) : Option Switch := all.find? (·.letter? == some letter)

/-- The switches whose names begin with the given characters. -/
def abbreviatedBy (start : List Char) : List Switch :=
  all.filter fun switch => start.isPrefixOf switch.name.toList

end Switch

/-- What a word is taken for. -/
inductive Word where
  /-- The name of a source, or the value of a switch. -/
  | operand (text : String)
  /-- The word behind which nothing is taken for a switch. -/
  | separator
  /-- A switch by its name, maybe with a value in the same word. -/
  | named (switch : Switch) (value : Option String)
  /-- A switch by its letter, with the characters that follow in the same word, if any; a value
  may be set off by an equals sign. -/
  | lettered (switch : Switch) (more : Option (List Char))
  /-- A switch that does not exist. -/
  | unknown (text : String)

/-- A word that could stand for several switches. -/
structure Ambiguity where
  /-- The word. -/
  word : String
  /-- The switches. -/
  candidates : List Switch

namespace Word

/-- Whether characters are decimal digits, at least one. -/
def isDigits (cs : List Char) : Bool := !cs.isEmpty && cs.all fun c => (Text.digitValue? c).isSome

/-- Whether the characters behind a dash make a negative number, with or without a fraction. One
line feed at the end is passed over. -/
def isNumeral (cs : List Char) : Bool :=
  let cs := if cs.getLast? == some '\n' then cs.dropLast else cs
  let whole := cs.takeWhile (· != '.')
  isDigits cs || ((whole.isEmpty || isDigits whole) && isDigits (cs.drop (whole.length + 1)))

/-- A word that begins with a dash but is no known switch. -/
def stray (text : String) : Word :=
  let cs := text.toList
  if isNumeral (cs.drop 1) || cs.contains ' ' then .operand text else .unknown text

/-- The word of a switch by its name or by a beginning of it. -/
def ofName (text : String) : Except Ambiguity Word :=
  let written := text.toList.takeWhile (· != '=')
  let value := match text.toList.dropWhile (· != '=') with
    | [] => none
    | _ :: value => some (String.ofList value)
  match Switch.all.find? (·.name.toList == written) with
  | some switch => .ok (.named switch value)
  | none =>
    match Switch.abbreviatedBy written with
    | [] => .ok (stray text)
    | [switch] => .ok (.named switch value)
    | candidates => .error ⟨text, candidates⟩

/-- What a word is taken for. -/
def classify (text : String) : Except Ambiguity Word :=
  match text.toList with
  | ['-', '-'] => .ok .separator
  | '-' :: '-' :: _ => ofName text
  | '-' :: letter :: more =>
    match Switch.ofLetter? letter with
    | some switch => .ok (.lettered switch (match more with
      | [] => none
      | '=' :: value => some value
      | more => some more))
    | none => .ok (stray text)
  | _ => .ok (.operand text)

/-- What the words of a command line are taken for. -/
def classifyAll : List String → Except Ambiguity (List Word)
  | [] => .ok []
  | text :: rest =>
    if text = "--" then .ok (.separator :: rest.map .operand)
    else do return (← classify text) :: (← classifyAll rest)

end Word

end Throws.CommandLine
