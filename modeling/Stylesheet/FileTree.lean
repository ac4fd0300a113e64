import Stylesheet.Failure
import Stylesheet.Path
/-!
# File trees

A file tree is the part of a file system that a run can see: the texts of its files and its
directories. Reading and writing fail as they do on a disk.
-/

namespace Stylesheet

/-- What a path leads to. -/
inductive FileNode where
  | file (text : String)
  | directory
  deriving DecidableEq, Repr, Inhabited

/-- The files and directories below the current directory, each under its parts. -/
structure FileTree where
  nodes : List (List String × FileNode) := []
  deriving DecidableEq, Repr, Inhabited

namespace FileTree

/-- Whether parts lead to a directory that is always there: the current one and those above. -/
def isRoot (parts : List String) : Bool := parts.all fun p => p == ".." || p == "/"

/-- The node at some parts. -/
def node? (t : FileTree) (parts : List String) : Option FileNode :=
  if isRoot parts then some .directory else t.nodes.lookup parts

/-- Follows the parts after a directory `done` one by one; `..` goes back one. -/
def walk (t : FileTree) (done : List String) : List String → Except FileFault FileNode
  | [] => .ok .directory
  | part :: rest =>
    if part = ".." ∧ ¬ isRoot done then walk t done.dropLast rest
    else
      match t.node? (done ++ [part]), rest with
      | none, _ => .error .missing
      | some node, [] => .ok node
      | some (.file _), _ :: _ => .error .notDirectory
      | some .directory, _ :: _ => walk t (done ++ [part]) rest

/-- The node that a path leads to. -/
def find (t : FileTree) (p : Path) : Except FileFault FileNode := t.walk [] p.parts

/-- Whether a path leads anywhere. -/
def contains (t : FileTree) (p : Path) : Bool := (t.find p).toOption.isSome

/-- Whether a path leads to a file. -/
def isFile (t : FileTree) (p : Path) : Bool :=
  match t.find p with
  | .ok (.file _) => true
  | _ => false

/-- Whether a path leads to a directory. -/
def isDirectory (t : FileTree) (p : Path) : Bool :=
  match t.find p with
  | .ok .directory => true
  | _ => false

/-- The text of a file as it was written. -/
def readRaw (t : FileTree) (p : Path) : Except Failure String :=
  match t.find p with
  | .ok (.file text) => .ok text
  | .ok .directory => .error (.file .isDirectory)
  | .error fault => .error (.file fault)

/-- One line break for each of the three kinds. -/
def unifyBreaks : List Char → List Char
  | '\r' :: '\n' :: rest => '\n' :: unifyBreaks rest
  | '\r' :: rest => '\n' :: unifyBreaks rest
  | c :: rest => c :: unifyBreaks rest
  | [] => []

/-- The text of a file, its line breaks made alike. -/
def read (t : FileTree) (p : Path) : Except Failure String := do
  return String.ofList (unifyBreaks (← t.readRaw p).toList)

/-- Puts a node at some parts. -/
def put (t : FileTree) (parts : List String) (node : FileNode) : FileTree :=
  ⟨(parts, node) :: t.nodes.filter (·.1 ≠ parts)⟩

/-- Makes the directories on the way through the parts after `done`; `..` goes back one. What has
been made stays after a fault. A file on the way is no directory to go through, but once something
was missing (`made`) each part is made by itself, and the file is there already. -/
def makeDirectories (t : FileTree) (made : Bool) (done : List String) :
    List String → Except FileFault Unit × FileTree
  | [] => (.ok (), t)
  | part :: rest =>
    if part = ".." ∧ ¬ isRoot done then makeDirectories t made done.dropLast rest
    else
      let here := done ++ [part]
      match t.node? here with
      | some .directory => makeDirectories t made here rest
      | some (.file _) =>
        (.error (if made || rest.isEmpty then .alreadyThere else .notDirectory), t)
      | none => makeDirectories (t.put here .directory) true here rest

/-- Writes a file into a directory that is there. -/
def write (t : FileTree) (p : Path) (text : String) : Except FileFault FileTree :=
  match t.find p.parent, t.find p with
  | .error fault, _ => .error fault
  | .ok (.file _), _ => .error .notDirectory
  | .ok .directory, .ok .directory => .error .isDirectory
  | .ok .directory, _ => .ok (t.put p.resolved (.file text))

/-- The tree of the given files, and of directories where there is no text; the directories on the
way to them are there too. -/
def ofFiles (files : List (String × Option String)) : FileTree :=
  files.foldl
    (fun t f =>
      let p := Path.ofText f.1
      let t := (t.makeDirectories false [] p.parent.parts).2
      t.put p.resolved (match f.2 with
        | some text => .file text
        | none => .directory))
    {}

/-- The files, each under its path. -/
def files (t : FileTree) : List (String × String) :=
  t.nodes.filterMap fun n => match n.2 with
    | .file text => some ((Path.mk n.1).text, text)
    | .directory => none

end FileTree
end Stylesheet
