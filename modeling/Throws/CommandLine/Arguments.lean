import Throws.CommandLine.Switch
import Throws.Text.Quoted

/-!
# Arguments

What the words of a command line ask for. Switches may stand anywhere, letters behind one dash may
be run together, and the names of the sources are one uninterrupted run of words. The first mistake
from the left is the one that is reported; a call for help counts from where it stands.
-/

namespace Throws.CommandLine

/-- Mistakes on the command line. -/
inductive UsageError where
  /-- A word could stand for several switches. -/
  | ambiguous (ambiguity : Ambiguity)
  /-- A switch lacks its value. -/
  | missingValue (switch : Switch)
  /-- A switch has a value that it does not take. -/
  | superfluousValue (switch : Switch) (value : String)
  /-- The number of workers is no number. -/
  | notANumber (value : String)
  /-- There is no source. -/
  | noSource
  /-- Words are left over. -/
  | unrecognized (words : List String)
  /-- Nobody is left to do the work. -/
  | tooFewWorkers (workers : Int)

/-- A mistake with one switch, in words. -/
def Switch.complain (switch : Switch) (complaint : String) : String :=
  "argument " ++ switch.label ++ ": " ++ complaint

/-- The wording of a mistake. -/
def UsageError.message : UsageError → String
  | .ambiguous ambiguity => "ambiguous option: " ++ ambiguity.word ++ " could match "
      ++ ", ".intercalate (ambiguity.candidates.map (·.name))
  | .missingValue switch => switch.complain "expected one argument"
  | .superfluousValue switch value =>
    switch.complain ("ignored explicit argument " ++ Text.quoted value.toList)
  | .notANumber value =>
    Switch.workers.complain ("invalid int value: " ++ Text.quoted value.toList)
  | .noSource => "the following arguments are required: source"
  | .unrecognized words => "unrecognized arguments: " ++ " ".intercalate words
  | .tooFewWorkers workers => "--workers must be >= 1, got " ++ toString workers

/-- One use of a switch; a value that is wanted and not here is the next word. -/
structure Use where
  /-- The switch. -/
  switch : Switch
  /-- Its value, if it is in the same word. -/
  value : Option String := none

/-- The switches of a word in which `more` follows the letter of `switch`. -/
def Switch.spread (switch : Switch) : (more : List Char) → Except UsageError (List Use)
  | [] =>
    if switch.takesValue then .ok [⟨switch, some ""⟩]
    else .error (.superfluousValue switch "")
  | letter :: rest =>
    if switch.takesValue then .ok [⟨switch, some (String.ofList (letter :: rest))⟩]
    else match Switch.ofLetter? letter with
      | none => .error (.superfluousValue switch (String.ofList (letter :: rest)))
      | some next => do
        let others ← if rest.isEmpty then pure [⟨next, none⟩] else next.spread rest
        return ⟨switch, none⟩ :: others

/-- The uses of switches in one word. -/
def Word.uses : Word → Except UsageError (List Use)
  | .named switch none => .ok [⟨switch, none⟩]
  | .named switch (some value) =>
    if switch.takesValue then .ok [⟨switch, some value⟩]
    else .error (.superfluousValue switch value)
  | .lettered switch none => .ok [⟨switch, none⟩]
  | .lettered switch (some more) => switch.spread more
  | .operand _ | .separator | .unknown _ => .ok []

/-- What has been gathered from the words so far. -/
structure Gathered where
  /-- The number of workers; none if the value given last for it is a separator. -/
  workers : Option Int := some 1
  /-- Whether the report is JSON. -/
  json : Bool := false
  /-- Whether the steps of the verification are shown. -/
  verbose : Bool := false
  /-- Whether help is asked for. -/
  help : Bool := false
  /-- The names of the sources, once they have been found. -/
  sources : Option (List String) := none
  /-- Words left over. -/
  extras : List String := []

namespace Gathered

/-- Takes account of a switch with its value, which is empty for a switch that takes none. A value
that is a separator counts as none. -/
def apply (gathered : Gathered) (switch : Switch) (value : String) :
    Except UsageError Gathered :=
  match switch with
  | .help => .ok { gathered with help := true }
  | .json => .ok { gathered with json := true }
  | .verbose => .ok { gathered with verbose := true }
  | .workers =>
    if value = "--" then .ok { gathered with workers := none }
    else match Text.readInt? value with
      | some workers => .ok { gathered with workers := some workers }
      | none => .error (.notANumber value)

/-- Takes account of the switches of one word, up to a call for help. A value that is not in the
word is `next`. -/
def applyAll (next : String) (gathered : Gathered) : List Use → Except UsageError Gathered
  | [] => .ok gathered
  | use :: rest => do
    let gathered ← gathered.apply use.switch (use.value.getD next)
    if gathered.help then return gathered else gathered.applyAll next rest

/-- Takes account of a run of words that are no switches. The first run that has an operand in it
names the sources; one separator in it does not count. -/
def takeRun (gathered : Gathered) (run : List String) (hasOperand : Bool) : Gathered :=
  if hasOperand && gathered.sources.isNone then
    { gathered with sources := some (run.erase "--") }
  else { gathered with extras := gathered.extras ++ run }

end Gathered

/-- The switch at the end of a word whose value has to be the next word. -/
def wanting? (uses : List Use) : Option Switch :=
  (uses.getLast?.filter fun use => use.switch.takesValue && use.value.isNone).map (·.switch)

/-- The words of a run that are no switches, kept until the run is over. -/
structure Run where
  /-- The words in order. -/
  words : List String := []
  /-- Whether one of them is an operand. -/
  hasOperand : Bool := false

/-- Closes a run of words that are no switches. -/
def Run.close (run : Run) (gathered : Gathered) : Gathered :=
  if run.words.isEmpty then gathered else gathered.takeRun run.words run.hasOperand

/-- Gathers what the words ask for, up to a call for help. -/
def gather (gathered : Gathered) (run : Run) : List Word → Except UsageError Gathered
  | [] => .ok (run.close gathered)
  | .operand text :: rest => gather gathered ⟨run.words ++ [text], true⟩ rest
  | .separator :: rest => gather gathered ⟨run.words ++ ["--"], run.hasOperand⟩ rest
  | .unknown text :: rest =>
    let gathered := run.close gathered
    gather { gathered with extras := gathered.extras ++ [text] } {} rest
  | word :: rest => do
    let gathered := run.close gathered
    let uses ← word.uses
    match wanting? uses, rest with
    | none, rest =>
      let gathered ← gathered.applyAll "" uses
      if gathered.help then return gathered else gather gathered {} rest
    | some _, .operand value :: rest =>
      let gathered ← gathered.applyAll value uses
      if gathered.help then return gathered else gather gathered {} rest
    | some switch, _ => throw (.missingValue switch)

/-- How sources are to be checked. -/
structure Settings where
  /-- The name of the first source. -/
  first : String
  /-- The names of the other sources. -/
  others : List String
  /-- The number of workers; none if there is no telling. -/
  workers : Option Int
  /-- Whether the report is JSON. -/
  json : Bool
  /-- Whether the steps of the verification are shown. -/
  verbose : Bool

/-- The names of all sources. -/
def Settings.sources (settings : Settings) : List String := settings.first :: settings.others

/-- What a command line asks for. -/
inductive Request where
  /-- An explanation of the command line. -/
  | help
  /-- A check of sources. -/
  | check (settings : Settings)

/-- What was gathered, if it is complete and nothing is left over. -/
def Gathered.request (gathered : Gathered) : Except UsageError Request :=
  if gathered.help then .ok .help
  else match gathered.sources with
    | none | some [] => .error .noSource
    | some (first :: others) =>
      if !gathered.extras.isEmpty then .error (.unrecognized gathered.extras)
      else .ok (.check {
        first := first
        others := others
        workers := gathered.workers
        json := gathered.json
        verbose := gathered.verbose })

/-- What the words of a command line ask for. -/
def parseArguments (arguments : List String) : Except UsageError Request :=
  match Word.classifyAll arguments with
  | .error ambiguity => .error (.ambiguous ambiguity)
  | .ok words => do (← gather {} {} words).request

end Throws.CommandLine
