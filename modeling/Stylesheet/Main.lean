import Stylesheet.Command.Run
/-!
# The program

Looks at the files that a command line is about, carries out the command on them, and writes what
has changed. No modules are known to the program itself, so `build` finds none.
-/

namespace Stylesheet

/-- The paths that a command is about. -/
def Command.paths : Command → List Path
  | .version => []
  | .compile rules out => rules :: out.toList
  | .build _ out _ => out.toList

/-- The paths that a path leads through, from the shortest to itself. -/
def Path.steps (p : Path) : List Path :=
  (List.range p.parts.length).map fun n => ⟨p.parts.take (n + 1)⟩

/-- What is at a path on disk. -/
def look (p : Path) : IO (Option FileNode) := do
  try return some (.file (← IO.FS.readFile p.text))
  catch
    | .noFileOrDirectory .. => return none
    | _ => return some .directory

/-- The part of the disk that paths lead through. -/
def snapshot (paths : List Path) : IO FileTree := do
  let mut files : FileTree := {}
  for p in paths.flatMap Path.steps do
    match ← look p with
    | some node => files := files.put p.resolved node
    | none => pure ()
  return files

/-- Writes the files that differ from what they were. -/
def save (before after : FileTree) : IO Unit := do
  for (path, text) in after.files do
    unless before.files.lookup path == some text do
      IO.FS.createDirAll (Path.ofText path).parent.text
      IO.FS.writeFile path text

end Stylesheet

open Stylesheet in
/-- Carries out a command line. -/
def main (words : List String) : IO UInt32 := do
  let paths := match Invocation.parse? words with
    | some invocation => invocation.command.paths
    | none => []
  let files ← snapshot paths
  let (report, said) := runCommandLine (fun _ => []) files words
  save files report.files
  IO.print report.printed
  IO.eprint said
  if let some e := report.escaped then
    IO.eprintln (e.message?.getD "The stylesheet could not be made.")
  return UInt32.ofNat report.exitCode
