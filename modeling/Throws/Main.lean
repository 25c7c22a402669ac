import Throws.CommandLine.Run

/-!
# The command line program
-/

namespace Throws

open CommandLine

/-- What a system error with the given number and description means for reading a file. Some
numbers come negated. -/
def readFaultOfCode (code : UInt32) (details : String) : ReadFault :=
  let number := if code < 0x80000000 then code else 0 - code
  if number = 20 then .notDirectory
  else if number = 21 then .isDirectory
  else if number = 36 then .nameTooLong
  else .other details

/-- Why the system could not read a file. -/
def readFaultOf : IO.Error → ReadFault
  | .noFileOrDirectory .. => .notFound
  | .inappropriateType _ code details => readFaultOfCode code details
  | .invalidArgument _ code details => readFaultOfCode code details
  | .permissionDenied _ code details => readFaultOfCode code details
  | error => .other (toString error)

/-- Reads one file. -/
def readFile (path : Path) : IO (Path × Except ReadFault (List UInt8)) := do
  if path.render.toList.contains '\x00' then return (path, .error .nullInName)
  try
    let bytes ← IO.FS.readBinFile path.render
    return (path, .ok bytes.toList)
  catch error => return (path, .error (readFaultOf error))

end Throws

open Throws CommandLine in
/-- Runs the program on the given words. -/
def main (arguments : List String) : IO UInt32 := do
  let files ← (wantedFiles arguments).mapM readFile
  let readFile := fun path => (files.lookup path).getD (.error .notFound)
  match run (some Body.standardDepth) readFile arguments with
  | .ok outcome =>
    (← IO.getStderr).putStr outcome.err
    (← IO.getStdout).putStr outcome.out
    return outcome.exit
  | .error (.literal fault) =>
    (← IO.getStderr).putStrLn (fault.message?.getD "a literal has no value")
    return 1
  | .error .noWorkerCount =>
    (← IO.getStderr).putStrLn "the number of workers is missing"
    return 1
  | .error .nullInName =>
    (← IO.getStderr).putStrLn ReadFault.nullInName.message
    return 1
