/-!
# Paths

A path is its parts; empty parts and `.` do not count. An absolute path has `/` as its first
part.
-/

namespace Stylesheet

/-- A path in a file tree. -/
structure Path where
  parts : List String
  deriving DecidableEq, Repr, Inhabited

namespace Path

/-- The parts that count. -/
def proper (parts : List String) : List String := parts.filter fun p => p ≠ "" ∧ p ≠ "."

/-- Reads a path. -/
def ofText (s : String) : Path :=
  let names := proper ((s.toList.splitOn '/').map String.ofList)
  ⟨if s.toList.head? = some '/' then "/" :: names else names⟩

/-- The text of a path; the empty path is the current directory. -/
def text (p : Path) : String :=
  match p.parts with
  | [] => "."
  | "/" :: rest => "/" ++ "/".intercalate rest
  | parts => "/".intercalate parts

/-- A path below another. -/
def join (p : Path) (name : String) : Path := ⟨p.parts ++ proper [name]⟩

/-- The directory that a path lies in. -/
def parent (p : Path) : Path := ⟨p.parts.dropLast⟩

/-- The parts after going back for every `..`. -/
def resolved (p : Path) : List String :=
  p.parts.foldl
    (fun done part =>
      if part = ".." ∧ done ≠ [] ∧ done.getLast? ≠ some ".." then done.dropLast
      else done ++ [part])
    []

end Path
end Stylesheet
