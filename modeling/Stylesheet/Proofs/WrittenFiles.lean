import Stylesheet.Proofs.Outlets
/-!
# Files after a write

Making directories touches no file, and a write puts one text in one place. So after a write the
file holds the text and all other files are as they were (`Outlets.Written.fileAt?`).
-/

namespace Stylesheet

namespace FileTree

variable {t : FileTree} {parts other : List String} {path : Path} {text : String}

/-- The text of the file at some parts, if there is a file. -/
def fileAt? (t : FileTree) (parts : List String) : Option String :=
  match t.nodes.lookup parts with
  | some (.file text) => some text
  | _ => none

theorem lookup_filter_of_ne (nodes : List (List String × FileNode)) (h : other ≠ parts) :
    (nodes.filter (·.1 ≠ parts)).lookup other = nodes.lookup other := by
  induction nodes with
  | nil => rfl
  | cons node rest ih =>
    rw [List.filter_cons, List.lookup_cons]
    split
    · rw [List.lookup_cons, ih]
    · next hn =>
      -- The node that goes is not the one that is asked for.
      obtain rfl : node.1 = parts := by simpa using hn
      rw [beq_false_of_ne h, ih]

theorem fileAt?_put_file (t : FileTree) (parts : List String) (text : String) :
    (t.put parts (.file text)).fileAt? parts = some text := by
  simp [fileAt?, put]

theorem fileAt?_put_of_ne (t : FileTree) (node : FileNode) (h : other ≠ parts) :
    (t.put parts node).fileAt? other = t.fileAt? other := by
  simp only [fileAt?, put, List.lookup_cons, beq_false_of_ne h, lookup_filter_of_ne _ h]

/-- A directory in an empty place is no file, as before. -/
theorem fileAt?_put_directory (hn : t.node? parts = none) (other : List String) :
    (t.put parts .directory).fileAt? other = t.fileAt? other := by
  by_cases h : other = parts
  · subst h
    have hl : t.nodes.lookup other = none := by
      unfold node? at hn
      split at hn
      · cases hn
      · exact hn
    simp [fileAt?, put, hl]
  · exact t.fileAt?_put_of_ne _ h

theorem fileAt?_makeDirectories (t : FileTree) (made : Bool) (done parts other : List String) :
    (t.makeDirectories made done parts).2.fileAt? other = t.fileAt? other := by
  fun_induction makeDirectories t made done parts with
  | case1 => rfl
  | case2 _ _ _ _ _ _ ih => exact ih
  | case3 _ _ _ _ _ _ _ _ ih => exact ih
  | case4 => rfl
  | case5 t made done part rest _ here hn ih => rw [ih, fileAt?_put_directory hn]

/-- Where the directory is there and no other is in the way, a file can be written. -/
theorem write_eq_ok {after : FileTree} :
    t.write path text = .ok after ↔ t.find path.parent = .ok .directory ∧
      t.find path ≠ .ok .directory ∧ after = t.put path.resolved (.file text) := by
  unfold write
  rcases t.find path.parent with fault | (_ | _) <;> rcases t.find path with fault | (_ | _) <;>
    simp [eq_comm]

/-- A file can be written at a path: the directories on the way to it can be made, and then there
is no directory in its place. -/
def Writable (t : FileTree) (path : Path) : Prop :=
  ∃ made, t.makeDirectories false [] path.parent.parts = (.ok (), made) ∧
    made.find path.parent = .ok .directory ∧ made.find path ≠ .ok .directory

end FileTree

namespace Outlets

variable {before after : Outlets} {files : FileTree} {path : Path} {css : String}

theorem Written.fileAt? (h : Written css before after (some (.file path))) :
    after.files.fileAt? path.resolved = some css ∧
      ∀ other, other ≠ path.resolved → after.files.fileAt? other = before.files.fileAt? other := by
  obtain ⟨-, made, hmade, hw⟩ := h
  obtain ⟨-, -, hfiles⟩ := FileTree.write_eq_ok.1 hw
  rw [hfiles]
  refine ⟨made.fileAt?_put_file .., fun other ho => ?_⟩
  rw [made.fileAt?_put_of_ne _ ho]
  have hkeep := before.files.fileAt?_makeDirectories false [] path.parent.parts other
  rwa [hmade] at hkeep

/-- Where a file can be written, a write does so. -/
theorem write_of_writable (h : files.Writable path) (css : String) :
    ((Sink.file path).write css { files }).1.result = .ok () := by
  obtain ⟨made, hmade, hparent, hfree⟩ := h
  simp only [Sink.write, hmade, FileTree.write_eq_ok.2 ⟨hparent, hfree, rfl⟩]
  rfl

end Outlets
end Stylesheet
