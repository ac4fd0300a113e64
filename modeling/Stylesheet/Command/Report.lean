import Stylesheet.Sink
import Stylesheet.Text.ControlSequence
/-!
# Reports

What a command leaves behind: its exit code, what it prints, what it logs and the files as they
are afterwards. What it prints and says is plain text, without control sequences; what it logs and
writes to files is kept as it is.
-/

namespace Stylesheet

/-- What a command leaves behind. `notes` are its own words beside what it prints; a failure that
is nobody's to explain has `escaped`. -/
structure Report where
  exitCode : Nat := 0
  printed : String := ""
  notes : String := ""
  log : List LogRecord := []
  escaped : Option Failure := none
  files : FileTree := {}
  deriving Repr, Inhabited

namespace Report

/-- The exit code of a command that did not do its work. -/
def failureCode : Nat := 1

/-- The exit code of a command line that makes no sense. -/
def usageCode : Nat := 2

/-- The report on a command line that makes no sense. -/
def misused (files : FileTree) : Report := { exitCode := usageCode, files }

/-- The report on a command that gives up with a word of explanation. -/
def refused (log : List LogRecord) (notes : String) (files : FileTree) : Report :=
  { exitCode := failureCode, notes := Text.withoutControl notes, log, files }

/-- The report on a command that something else has stopped. -/
def stopped (log : List LogRecord) (e : Failure) (files : FileTree) : Report :=
  { exitCode := failureCode, log, escaped := some e, files }

/-- The report on a command whose stylesheet cannot be made: failures about styles are explained,
others stop it. -/
def failed (log : List LogRecord) (e : Failure) (files : FileTree) : Report :=
  if e.isStyleFailure then
    refused log ("Error: " ++ e.message?.getD "" ++ "\n") files
  else stopped log e files

/-- The report on a command that has made a stylesheet: it is printed, or written to a file. -/
def emit (log : List LogRecord) (css : String) (out : Option Path) (files : FileTree) : Report :=
  match out with
  | none => { printed := Text.withoutControl (css ++ "\n"), log, files }
  | some path =>
    let (written, outlets) := (Sink.file path).write css { files }
    let log := log ++ written.log
    match written.result with
    | .ok () =>
      { notes := Text.withoutControl ("Wrote " ++ path.text ++ "\n"), log, files := outlets.files }
    | .error e => stopped log e outlets.files

/-- The report on a command that makes a stylesheet or fails. -/
def ofLogged (css : Logged String) (out : Option Path) (files : FileTree) : Report :=
  match css.result with
  | .ok text => emit css.log text out files
  | .error e => failed css.log e files

/-- The records that are shown: all of them, or those that matter to everyone. -/
def shown (verbose : Bool) (log : List LogRecord) : List LogRecord :=
  log.filter fun r => verbose || r.level == .warning

/-- What a command says beside what it prints: its records, a line for each, and its notes. -/
def errors (r : Report) (verbose : Bool) : String :=
  String.join ((shown verbose r.log).map fun record => record.line ++ "\n") ++ r.notes

end Report
end Stylesheet
