import Stylesheet.Sink
/-!
# What outlets show

Outlets show the files and, for each name, what the place in memory holds. A place that is ready
but was never written to shows the same as one that is not there. `Written` says what one
successful write changes; a write that fails changes files only.
-/

namespace Stylesheet.Outlets

variable {o p before after : Outlets} {name css : String} {sink : Sink}

/-- The place in memory of this name. -/
def memory (o : Outlets) (name : String) : Memory :=
  (o.memories.find? (·.name == name)).getD { name }

/-- Outlets that show the same. -/
structure Same (o p : Outlets) : Prop where
  files : o.files = p.files
  memory : ∀ name, o.memory name = p.memory name

theorem Same.refl (o : Outlets) : o.Same o := ⟨rfl, fun _ => rfl⟩

theorem Same.symm (h : o.Same p) : p.Same o := ⟨h.files.symm, fun n => (h.memory n).symm⟩

theorem Same.trans {q : Outlets} (h : o.Same p) (h' : p.Same q) : o.Same q :=
  ⟨h.files.trans h'.files, fun n => (h.memory n).trans (h'.memory n)⟩

/-! ## Places in memory -/

theorem memory_withMemory (o : Outlets) (name other : String) :
    (o.withMemory name).memory other = o.memory other := by
  unfold withMemory
  split
  · rfl
  · rename_i hn
    simp only [memory, List.find?_append]
    cases hf : o.memories.find? (·.name == other) with
    | some m => rfl
    | none =>
      -- The place is new, and shows as one that is not there.
      by_cases h : name = other <;> simp [h]

theorem same_prepare (o : Outlets) (sink : Sink) : (o.prepare sink).Same o := by
  cases sink with
  | file path => exact .refl o
  | memory name =>
    refine ⟨?_, o.memory_withMemory name⟩
    simp only [prepare, withMemory]
    split <;> rfl

theorem find?_withMemory (o : Outlets) (name : String) :
    ∃ m, (o.withMemory name).memories.find? (·.name == name) = some m ∧ m.name = name := by
  have hs : ((o.withMemory name).memories.find? (·.name == name)).isSome := by
    unfold withMemory
    split
    · rename_i h
      rw [List.find?_isSome]
      simpa using h
    · simp
  obtain ⟨m, hm⟩ := Option.isSome_iff_exists.1 hs
  exact ⟨m, hm, by simpa using List.find?_some hm⟩

theorem memory_writeMemory (o : Outlets) (name css other : String) :
    (o.writeMemory name css).memory other =
      if other = name then { name, text := css, writes := (o.memory name).writes + 1 }
      else o.memory other := by
  rw [← o.memory_withMemory name, ← o.memory_withMemory name other]
  have hname : ((·.name == other) ∘ fun m : Memory =>
      if m.name = name then { m with text := css, writes := m.writes + 1 } else m) =
      (·.name == other) := by
    funext m
    by_cases h : m.name = name <;> simp [h]
  simp only [memory, writeMemory, List.find?_map, hname]
  by_cases h : other = name
  · subst h
    obtain ⟨m, hm, rfl⟩ := o.find?_withMemory other
    simp [hm]
  · cases hf : (o.withMemory name).memories.find? (·.name == other) with
    | none => simp [h]
    | some m =>
      have hm : m.name = other := by simpa using List.find?_some hf
      simp [h, hm]

/-! ## Writes -/

/-- All that has changed is that the text was written to the target, once. -/
def Written (css : String) (before after : Outlets) : Option Sink → Prop
  | none => after.Same before
  | some (.memory name) => after.files = before.files ∧ ∀ other, after.memory other =
      if other = name then { name, text := css, writes := (before.memory name).writes + 1 }
      else before.memory other
  | some (.file path) => (∀ other, after.memory other = before.memory other) ∧
      ∃ made, before.files.makeDirectories false [] path.parent.parts = (.ok (), made) ∧
        made.write path css = .ok after.files

theorem Written.of_same {target : Option Sink} (h : Written css before after target)
    (hs : before.Same o) : Written css o after target := by
  match target with
  | none => exact Same.trans h hs
  | some (.memory name) =>
    obtain ⟨hf, hm⟩ := h
    refine ⟨hf.trans hs.files, fun other => ?_⟩
    rw [hm, hs.memory, hs.memory]
  | some (.file path) =>
    obtain ⟨hm, made, hmade, hw⟩ := h
    exact ⟨fun other => (hm other).trans (hs.memory other), made, hs.files ▸ hmade, hw⟩

theorem files_writeMemory (o : Outlets) (name css : String) :
    (o.writeMemory name css).files = o.files :=
  (o.same_prepare (.memory name)).files

theorem memory_writeFile (o : Outlets) (path : Path) (css name : String) :
    ((Sink.file path).write css o).2.memory name = o.memory name := by
  simp only [Sink.write]
  split
  · rfl
  · split <;> rfl

/-- What a write answers, and what it does to the files, is settled by the files. -/
theorem write_of_files (h : o.files = p.files) (sink : Sink) (css : String) :
    (sink.write css o).1 = (sink.write css p).1 ∧
      (sink.write css o).2.files = (sink.write css p).2.files := by
  cases sink with
  | memory name =>
    refine ⟨rfl, ?_⟩
    simp only [Sink.write, files_writeMemory, h]
  | file path =>
    simp only [Sink.write, h]
    split
    · exact ⟨rfl, rfl⟩
    · split <;> exact ⟨rfl, rfl⟩

/-- What a write does is settled by what the outlets show. -/
theorem Same.write (h : o.Same p) (sink : Sink) (css : String) :
    (sink.write css o).1 = (sink.write css p).1 ∧
      (sink.write css o).2.Same (sink.write css p).2 := by
  obtain ⟨hw, hf⟩ := write_of_files h.files sink css
  refine ⟨hw, hf, fun other => ?_⟩
  cases sink with
  | memory name => simp only [Sink.write, memory_writeMemory, h.memory]
  | file path => rw [memory_writeFile, memory_writeFile, h.memory]

theorem written_of_ok (h : (sink.write css o).1.result = .ok ()) :
    Written css o (sink.write css o).2 (some sink) := by
  cases sink with
  | memory name => exact ⟨files_writeMemory o name css, memory_writeMemory o name css⟩
  | file path =>
    refine ⟨o.memory_writeFile path css, ?_⟩
    simp only [Sink.write] at h ⊢
    split at h
    · cases h
    · rename_i made hmade
      split at h
      · cases h
      · rename_i files hw
        exact ⟨made, hmade, hw⟩

/-- Only writing to a file can fail, and then directories on the way to it may have been made. -/
theorem write_error {e : Failure} (h : (sink.write css o).1.result = .error e) :
    (∀ other, (sink.write css o).2.memory other = o.memory other) ∧
      ∃ path, sink = .file path ∧
        (sink.write css o).2.files = (o.files.makeDirectories false [] path.parent.parts).2 := by
  cases sink with
  | memory name => cases h
  | file path =>
    refine ⟨o.memory_writeFile path css, path, rfl, ?_⟩
    simp only [Sink.write] at h ⊢
    split at h
    · rename_i made hmade
      rw [hmade]
    · rename_i made hmade
      split at h
      · rw [hmade]
      · cases h

end Stylesheet.Outlets
