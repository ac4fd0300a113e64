import Stylesheet.FileTree
import Stylesheet.Log
/-!
# Sinks

A stylesheet is written to a sink: a file, whose directory is made if need be, or a place in
memory that keeps the text last written and counts the writes.
-/

namespace Stylesheet

/-- Where a stylesheet goes. -/
inductive Sink where
  | memory (name : String)
  | file (path : Path)
  deriving DecidableEq, Repr, Inhabited

/-- A place in memory. -/
structure Memory where
  name : String
  text : String := ""
  writes : Nat := 0
  deriving DecidableEq, Repr, Inhabited

/-- All that sinks write to. -/
structure Outlets where
  memories : List Memory := []
  files : FileTree := {}
  deriving DecidableEq, Repr, Inhabited

namespace Outlets

/-- The outlets with a place in memory of this name. -/
def withMemory (o : Outlets) (name : String) : Outlets :=
  if o.memories.any (·.name == name) then o
  else { o with memories := o.memories ++ [{ name }] }

/-- The outlets ready for a sink. -/
def prepare (o : Outlets) : Sink → Outlets
  | .memory name => o.withMemory name
  | .file _ => o

/-- Writes a text to a place in memory. -/
def writeMemory (o : Outlets) (name css : String) : Outlets :=
  { o.withMemory name with
    memories := (o.withMemory name).memories.map fun m =>
      if m.name = name then { m with text := css, writes := m.writes + 1 } else m }

end Outlets

namespace Sink

/-- Writes a stylesheet. The directories made on the way stay even if the file cannot be
written. -/
def write (s : Sink) (css : String) (o : Outlets) : Logged Unit × Outlets :=
  match s with
  | .memory name => (pure (), o.writeMemory name css)
  | .file path =>
    match o.files.makeDirectories false [] path.parent.parts with
    | (.error fault, files) => (.fail (.file fault), { o with files })
    | (.ok (), files) =>
      match files.write path css with
      | .error fault => (.fail (.file fault), { o with files })
      | .ok files => (.record (.wroteFile css.utf8ByteSize path.text), { o with files })

end Sink
end Stylesheet
