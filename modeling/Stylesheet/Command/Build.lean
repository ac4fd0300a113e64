import Stylesheet.Command.Module
import Stylesheet.Command.Report
/-!
# Building a stylesheet

A module is imported and the context that one of its attributes holds is flushed.
-/

namespace Stylesheet.Command

/-- The attribute that is meant when none is named. -/
def defaultAttribute : String := "styles"

/-- The module and the attribute that a target names. -/
def splitTarget (target : String) : String × String :=
  let named := String.ofList ((target.toList.dropWhile (· ≠ ':')).drop 1)
  (String.ofList (target.toList.takeWhile (· ≠ ':')),
    if named = "" then defaultAttribute else named)

/-- Flushes a context to its own sink. -/
def flush (s : Session) (files : FileTree) : Logged String × FileTree :=
  let (flushed, outlets) := s.context.updateStylesheet none { s.outlets with files }
  (do return (← flushed).1, outlets.files)

/-- Puts records in front of those of a report. -/
def after (log : List LogRecord) (r : Report) : Report := { r with log := log ++ r.log }

/-- Imports the module that a target names and flushes its context. -/
def buildTarget (modules : Modules) (target : String) (out : Option Path) (files : FileTree) :
    Report :=
  let (name, holder) := splitTarget target
  let (imported, files) := modules.importModule name files
  match imported.result with
  | .error e => .stopped imported.log e files
  | .ok (.error fault) =>
    .refused imported.log ("Could not import " ++ name ++ ": " ++ fault.message ++ "\n") files
  | .ok (.ok found) =>
    match found.lookup holder with
    | none => .refused imported.log (target ++ " is not a StyleContext\n") files
    | some session =>
      let (css, files) := flush session files
      after imported.log (.ofLogged css out files)

end Stylesheet.Command
