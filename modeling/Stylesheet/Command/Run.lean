import Stylesheet.Command.Build
import Stylesheet.Command.Compile
import Stylesheet.Command.Line
import Stylesheet.Yaml.Document
/-!
# Running a command line
-/

namespace Stylesheet

/-- The version. -/
def version : String := "0.3.0"

/-- The value that a file of rules denotes, in two forms if it holds itself. -/
def readRules (files : FileTree) (path : Path) : Except Failure (Value × Option Value) := do
  Yaml.read (← files.read path)

/-- Carries out a command. A file of rules that is not there is a mistake in the command line. -/
def Command.perform (modules : Path → Modules) (files : FileTree) : Command → Report
  | .version => { printed := "stylemap " ++ Stylesheet.version ++ "\n", files }
  | .compile rules out =>
    if files.isFile rules then compileReading rules (readRules files rules) out files
    else .misused files
  | .build target out directory => buildTarget (modules directory) target out files

/-- Carries out a command line: the report, and what is said beside what is printed. -/
def runCommandLine (modules : Path → Modules) (files : FileTree) (words : List String) :
    Report × String :=
  match Invocation.parse? words with
  | none => (.misused files, "")
  | some invocation =>
    let report := invocation.command.perform modules files
    (report, report.errors invocation.verbose)

end Stylesheet
