import Stylesheet.Proofs.Outlets
import Stylesheet.Proofs.Runs
/-!
# Flushing

A flush compiles first and writes only what compiles; what it answers is settled by the settings,
the registries and the write (`answer_flush`). One that fails has changed at most directories on
the way to a file, and one that succeeds has written what it answers (`written_of_flush`).
-/

namespace Stylesheet

namespace Context

variable {c : Context} {sink : Option Sink} {o : Outlets}

theorem written_of_writeTo {target : Option Sink} {css : String}
    (hw : (writeTo target css o).1.result = .ok ()) :
    Outlets.Written css o (writeTo target css o).2 target := by
  cases target with
  | none => exact .refl o
  | some sink => exact Outlets.written_of_ok hw

/-- A flush writes what it compiled, to its sink or else to that of the context. -/
theorem updateStylesheet_of_ok {text : String}
    (ht : c.getCss.result = .ok text) :
    (c.updateStylesheet sink o).2 =
        (writeTo (sink.or c.sink) (withSourceUrl c.settings text) o).2 ∧
      (c.updateStylesheet sink o).1.result =
        (writeTo (sink.or c.sink) (withSourceUrl c.settings text) o).1.result.map
          fun _ => (withSourceUrl c.settings text, c.markRendered) := by
  have hb : (Logged.bind c.getCss fun css =>
      pure (withSourceUrl c.settings css)).result =
        .ok (withSourceUrl c.settings text) := by
    simp [Logged.bind, ht, pure]
  simp only [updateStylesheet, hb]
  generalize writeTo _ _ o = written
  obtain ⟨⟨log, _ | _⟩, after⟩ := written <;>
    simp [bind, Logged.bind, ht, Except.map, Logged.record, pure]

theorem updateStylesheet_of_error {e : Failure}
    (ht : c.getCss.result = .error e) :
    (c.updateStylesheet sink o).2 = o ∧ (c.updateStylesheet sink o).1.result = .error e := by
  simp [updateStylesheet, Logged.bind, ht]

/-- A flush depends on its outlets only through what they show. -/
theorem updateStylesheet_of_same {p : Outlets} (h : o.Same p) (c : Context)
    (sink : Option Sink) :
    (c.updateStylesheet sink o).1 = (c.updateStylesheet sink p).1 ∧
      (c.updateStylesheet sink o).2.Same (c.updateStylesheet sink p).2 := by
  simp only [updateStylesheet]
  split
  · exact ⟨rfl, h⟩
  · rename_i css _
    cases sink.or c.sink with
    | none => exact ⟨rfl, h⟩
    | some target =>
      obtain ⟨hw, hs⟩ := h.write target css
      exact ⟨by simp only [writeTo, hw], hs⟩

/-- A flush that fails has changed at most directories on the way to a file. -/
theorem updateStylesheet_error {e : Failure}
    (hr : (c.updateStylesheet sink o).1.result = .error e) :
    (∀ name, (c.updateStylesheet sink o).2.memory name = o.memory name) ∧
      ((c.updateStylesheet sink o).2.files = o.files ∨ ∃ path,
        sink.or c.sink = some (.file path) ∧ (c.updateStylesheet sink o).2.files =
          (o.files.makeDirectories false [] path.parent.parts).2) := by
  cases ht : c.getCss.result with
  | error e' =>
    rw [(updateStylesheet_of_error ht).1]
    exact ⟨fun _ => rfl, .inl rfl⟩
  | ok text =>
    obtain ⟨hw, hx⟩ := @updateStylesheet_of_ok c sink o text ht
    rw [hx, Failure.map_eq_error] at hr
    rw [hw]
    cases htarget : sink.or c.sink with
    | none =>
      rw [htarget] at hr
      cases hr
    | some target =>
      rw [htarget] at hr
      obtain ⟨hm, path, rfl, hf⟩ := Outlets.write_error hr
      exact ⟨hm, .inr ⟨path, rfl, hf⟩⟩

end Context

namespace Session

variable {s : Session} {sink : Option Sink}

/-- The outlets ready for a flush. -/
def prepared (s : Session) : Option Sink → Outlets
  | none => s.outlets
  | some sink => s.outlets.prepare sink

theorem same_prepared (s : Session) (sink : Option Sink) : (s.prepared sink).Same s.outlets := by
  cases sink with
  | none => exact .refl _
  | some sink => exact s.outlets.same_prepare sink

theorem perform_updateStylesheet (s : Session) (sink : Option Sink) :
    s.perform (.updateStylesheet sink) =
      { s with outlets := (s.context.updateStylesheet sink (s.prepared sink)).2 }.settled .text
        (s.context.updateStylesheet sink (s.prepared sink)).1 := by
  cases sink <;> rfl

/-- What a flush answers. -/
theorem answer_flush (s : Session) (sink : Option Sink) :
    (s.perform (.updateStylesheet sink)).1 = do
      let text ← s.context.getCss
      let css := Context.withSourceUrl s.context.settings text
      (Context.writeTo (sink.or s.context.sink) css (s.prepared sink)).1
      Logged.record (Context.flushRecord s.context.registries)
      return .text css := by
  rw [perform_updateStylesheet]
  simp only [Context.updateStylesheet]
  obtain ⟨log, _ | text⟩ := s.context.getCss
  · simp [settled, bind, Logged.bind]
  · simp only [bind, Logged.bind, pure]
    generalize Context.writeTo _ _ _ = written
    obtain ⟨⟨log', _ | _⟩, after⟩ := written <;>
      simp [settled, Logged.record]

/-- Nothing is marked as rendered unless the flush succeeds. -/
theorem context_flush (s : Session) (sink : Option Sink) :
    (s.perform (.updateStylesheet sink)).2.context =
      match (s.perform (.updateStylesheet sink)).1.result with
      | .error _ => s.context
      | .ok _ => s.context.markRendered := by
  rw [perform_updateStylesheet]
  simp only [settled]
  split
  · rename_i css c' hx
    obtain ⟨-, -, -, -, rfl⟩ := Context.updateStylesheet_eq_ok hx
    rfl
  · rfl

/-- A flush touches the files only if it has compiled. -/
theorem files_flush (s : Session) (sink : Option Sink) :
    (s.perform (.updateStylesheet sink)).2.outlets.files =
      match s.context.getCss.result with
      | .error _ => s.outlets.files
      | .ok text => (Context.writeTo (sink.or s.context.sink)
          (Context.withSourceUrl s.context.settings text) (s.prepared sink)).2.files := by
  rw [perform_updateStylesheet, (settled_outside ..).1]
  split
  · rename_i ht
    rw [(Context.updateStylesheet_of_error ht).1]
    exact (s.same_prepared sink).files
  · rename_i ht
    rw [(Context.updateStylesheet_of_ok ht).1]

/-- A flush that succeeds writes what it answers, and marks everything as rendered. -/
theorem written_of_flush {reply : Reply}
    (hr : (s.perform (.updateStylesheet sink)).1.result = .ok reply) :
    ∃ css, reply = .text css ∧
      Outlets.Written css s.outlets (s.perform (.updateStylesheet sink)).2.outlets
        (sink.or s.context.sink) ∧
      (s.perform (.updateStylesheet sink)).2.context = s.context.markRendered := by
  rw [perform_updateStylesheet] at hr ⊢
  simp only [settled] at hr ⊢
  split at hr
  · rename_i css c' hx
    cases hr
    obtain ⟨text, ht, rfl, hw, rfl⟩ := Context.updateStylesheet_eq_ok hx
    refine ⟨_, rfl, ?_, rfl⟩
    rw [(Context.updateStylesheet_of_ok ht).1]
    exact (Context.written_of_writeTo hw).of_same (s.same_prepared sink)
  · cases hr

end Session
end Stylesheet
