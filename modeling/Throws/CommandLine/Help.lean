/-!
# Help

The texts that explain the command line.
-/

namespace Throws.CommandLine

/-- The name of the program. -/
def programName : String := "throwcheck"

/-- How the program is called, in one line. -/
def usage : String :=
  "usage: " ++ programName ++ " [-h] [-j WORKERS] [--json] [-v] source [source ...]\n"

/-- What each part of the command line is for. -/
def helpLines : List String := [
  "",
  "Verify declared exception contracts (throws/noexcept)",
  "",
  "positional arguments:",
  "  source                Path(s) to source file(s); each is one translation",
  "                        unit",
  "",
  "options:",
  "  -h, --help            show this help message and exit",
  "  -j WORKERS, --workers WORKERS",
  "                        Number of threads verifying function bodies (default:",
  "                        1)",
  "  --json                Emit diagnostics as JSON (phase/kind/message/severity/",
  "                        function/escaping/file/line/column)",
  "  -v, --verbose         Log phase boundaries and per-function results"]

/-- Several lines, each ended by a line feed. -/
def lines (texts : List String) : String := String.join (texts.map (· ++ "\n"))

/-- How the program is called, and what each part of the command line is for. -/
def help : String := usage ++ lines helpLines

/-- The complaint about a mistake on the command line. -/
def complaint (message : String) : String :=
  usage ++ programName ++ ": error: " ++ message ++ "\n"

end Throws.CommandLine
