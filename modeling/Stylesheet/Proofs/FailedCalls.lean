import Stylesheet.Proofs.Answers
/-!
# Failed calls

A call that fails leaves the context as it was. What it may still change lies outside: directories
made for a file that cannot be written, and an identity drawn from a resolver that says something
else each time (`Outside`). So a run without its failed calls gives the same answers
(`heard_withoutFailures`) as long as the world outside goes on as it did.
-/

namespace Stylesheet

/-- The calls that leave the context alone if they fail. -/
def Call.settles : Call → Bool
  | .style _ _ _ _ | .variable _ _ _ _ | .fontFace _ | .classes _ | .updateStylesheet _ => true
  | _ => false

/-- Whether a computation failed. -/
def Logged.failed {α : Type} (x : Logged α) : Bool :=
  match x.result with
  | .ok _ => false
  | .error _ => true

theorem Logged.failed_iff {α : Type} {x : Logged α} :
    x.failed = true ↔ ∃ e, x.result = .error e := by
  unfold Logged.failed
  split <;> simp [*]

namespace Session

variable {s t : Session} {c c' : Context} {call : Call}

/-! ## One call -/

/-- Of the calls that fail, only the definition of an animation may change the context. -/
theorem context_of_error {reply : Except Failure Reply} {e : Failure}
    (he : Effect c call reply c') (hr : reply = .error e) (hs : call.settles = true) :
    c' = c := by
  cases he with
  | failed => rfl
  | keyframes => cases hs
  | style | customProperty | fontFace | rules | css | flush | reset | requireStylesheet
  | setResolver | classes => cases hr

/-- Asking draws an identity only from a sequence, and only if none is given. -/
theorem identity_resolver (s : Session) (explicit : Option String) (site : List Frame) :
    (s.identity explicit site).2.resolver = s.resolver ∨
      s.context.settings.identityAware = true ∧ explicit = none ∧ ∃ identity rest,
        s.resolver = .sequence (identity :: rest) ∧
        (s.identity explicit site).2.resolver = .sequence rest := by
  unfold identity
  split
  · rename_i ha
    obtain ⟨ha, he⟩ : s.context.settings.identityAware = true ∧ explicit = none := by
      simpa [Context.asksForIdentity] using ha
    cases hr : s.resolver with
    | sequence identities =>
      cases identities with
      | nil => exact .inl rfl
      | cons identity rest => exact .inr ⟨ha, he, identity, rest, rfl, rfl⟩
    | absent | fixed | caller => exact .inl rfl
  · exact .inl rfl

/-! ## Outside the context -/

/-- What a call that fails may have changed outside the context: it drew an identity from a
sequence, or it made directories on the way to a file that it could not write. -/
structure Outside (call : Call) (s t : Session) : Prop where
  memory : ∀ name, t.outlets.memory name = s.outlets.memory name
  resolver : t.resolver = s.resolver ∨
    s.context.settings.identityAware = true ∧ call.asks = true ∧ ∃ identity rest,
      s.resolver = .sequence (identity :: rest) ∧ t.resolver = .sequence rest
  files : t.outlets.files = s.outlets.files ∨ ∃ sink path,
    call = .updateStylesheet sink ∧ sink.or s.context.sink = some (.file path) ∧
    t.outlets.files = (s.outlets.files.makeDirectories false [] path.parent.parts).2

theorem Outside.refl (call : Call) (s : Session) : Outside call s s :=
  ⟨fun _ => rfl, .inl rfl, .inl rfl⟩

/-- Registering changes nothing outside but the resolver. -/
theorem outside_of_identity {explicit : Option String} {site : List Frame}
    (ha : explicit = none → call.asks = true)
    (ho : t.outlets = (s.identity explicit site).2.outlets)
    (hr : t.resolver = (s.identity explicit site).2.resolver) : Outside call s t := by
  rw [identity_outlets] at ho
  refine ⟨fun _ => by rw [ho], ?_, .inl (by rw [ho])⟩
  rw [hr]
  exact (s.identity_resolver explicit site).imp_right fun ⟨hi, he, hs⟩ => ⟨hi, ha he, hs⟩

theorem outside_updateStylesheet {sink : Option Sink} {e : Failure}
    (hr : (s.perform (.updateStylesheet sink)).1.result = .error e) :
    Outside (.updateStylesheet sink) s (s.perform (.updateStylesheet sink)).2 := by
  have hsame := s.same_prepared sink
  rw [perform_updateStylesheet, settled_result] at hr
  obtain ⟨ho, hres⟩ := settled_outside
    { s with outlets := (s.context.updateStylesheet sink (s.prepared sink)).2 } .text
    (s.context.updateStylesheet sink (s.prepared sink)).1
  rw [← perform_updateStylesheet] at ho hres
  obtain ⟨hm, hf⟩ := Context.updateStylesheet_error (Failure.map_eq_error.1 hr)
  rw [hsame.files] at hf
  refine ⟨fun name => by rw [ho, hm, hsame.memory], .inl hres, ?_⟩
  rw [ho]
  exact hf.imp_right fun ⟨path, htarget, hmade⟩ => ⟨sink, path, rfl, htarget, hmade⟩

/-- What a call that fails may have changed. -/
theorem outside_of_error (hs : call.settles = true)
    (hr : (s.perform call).1.failed = true) : Outside call s (s.perform call).2 := by
  match call with
  | .style name styles explicit site =>
    obtain ⟨ho, hx⟩ := settled_outside (s.identity explicit site).2 .handle
      ((s.identity explicit site).2.context.registerStyle name styles
        (s.identity explicit site).1)
    exact outside_of_identity (by rintro rfl; rfl) ho hx
  | .variable property name explicit site =>
    obtain ⟨ho, hx⟩ := settled_outside (s.identity explicit site).2 .variable
      ((s.identity explicit site).2.context.registerVariable property name
        (s.identity explicit site).1)
    exact outside_of_identity (by rintro rfl; rfl) ho hx
  | .fontFace definition =>
    obtain ⟨ho, hx⟩ := settled_outside s .handle (.ofExcept (s.context.registerFontFace definition))
    exact ⟨fun _ => by rw [← ho]; rfl, .inl hx, .inl (by rw [← ho]; rfl)⟩
  | .classes collection => exact .refl _ s
  | .updateStylesheet sink =>
    obtain ⟨e, he⟩ := Logged.failed_iff.1 hr
    exact outside_updateStylesheet he

/-! ## Runs without their failures -/

/-- What a session asks and writes to outside. -/
structure World where
  resolver : Resolver
  files : FileTree
  deriving DecidableEq, Repr

def world (s : Session) : World := ⟨s.resolver, s.outlets.files⟩

def inWorld (s : Session) (w : World) : Session :=
  { s with resolver := w.resolver, outlets := { s.outlets with files := w.files } }

/-- What can happen to a session: a call is made, or the world outside changes. -/
inductive Event where
  | call (call : Call)
  | world (world : World)

def happen (s : Session) : Event → Session
  | .call call => (s.perform call).2
  | .world w => s.inWorld w

/-- The session after events, one after the other. -/
def after (s : Session) (events : List Event) : Session := events.foldl happen s

/-- The calls among events, each with its answer. -/
def heard (s : Session) : List Event → List (Call × Logged Reply)
  | [] => []
  | .call call :: rest => (call, (s.perform call).1) :: (s.happen (.call call)).heard rest
  | .world w :: rest => (s.happen (.world w)).heard rest

/-- Whether a call left nothing but its failure. -/
def traceless (answer : Call × Logged Reply) : Bool := answer.1.settles && answer.2.failed

/-- How the world outside changes, if it does. -/
def changes (s t : Session) : List Event := if t.world = s.world then [] else [.world t.world]

/-- The run without its failed calls, in the world that it went through. -/
def withoutFailures (s : Session) : List Call → List Event
  | [] => []
  | call :: rest =>
    (if traceless (call, (s.perform call).1) then s.changes (s.perform call).2
      else [.call call]) ++ (s.perform call).2.withoutFailures rest

theorem heard_changes (s u v : Session) (events : List Event) :
    s.heard (u.changes v ++ events) = (s.after (u.changes v)).heard events := by
  unfold changes
  split <;> rfl

/-- Where a failed call is left out, the session goes on as if it had been made. -/
theorem Agree.skip (h : Agree s t) {next : Session} (ho : Outside call s next)
    (hc : next.context = s.context) : Agree next (t.after (s.changes next)) := by
  have hm : ∀ name, next.outlets.memory name = t.outlets.memory name := fun name =>
    (ho.memory name).trans (h.outlets.memory name)
  unfold changes
  split
  · rename_i hw
    obtain ⟨hr, hf⟩ := World.mk.injEq .. ▸ hw
    exact ⟨hc.trans h.context, hr.trans h.resolver, hf.trans h.outlets.files, hm⟩
  · exact ⟨hc.trans h.context, rfl, rfl, hm⟩

/-- Leaving out the failed calls changes no other answer, and the context is the same after. -/
theorem heard_withoutFailures (h : Agree s t) (calls : List Call) :
    t.heard (s.withoutFailures calls) =
        (s.answers calls).filter (fun answer => !traceless answer) ∧
      Agree (s.run calls) (t.after (s.withoutFailures calls)) := by
  induction calls generalizing s t with
  | nil => exact ⟨rfl, h⟩
  | cons call rest ih =>
    by_cases hf : traceless (call, (s.perform call).1) = true
    · obtain ⟨hs, hx⟩ := Bool.and_eq_true_iff.1 hf
      obtain ⟨e, he⟩ := Logged.failed_iff.1 hx
      have hskip : Agree (s.perform call).2 (t.after (s.changes (s.perform call).2)) :=
        h.skip (outside_of_error hs hx) (context_of_error (s.perform_effect call) he hs)
      obtain ⟨hrest, hagree⟩ := ih hskip
      simp only [withoutFailures, hf, if_true, heard_changes, answers, List.filter_cons,
        Bool.not_true, Bool.false_eq_true, if_false]
      refine ⟨hrest, ?_⟩
      rw [after, List.foldl_append]
      exact hagree
    · obtain ⟨hreply, hnext⟩ := h.perform call
      obtain ⟨hrest, hagree⟩ := ih hnext
      simp only [Bool.not_eq_true] at hf
      simp only [withoutFailures, hf, Bool.false_eq_true, if_false, List.singleton_append, heard,
        happen, answers, List.filter_cons, Bool.not_false, if_true]
      refine ⟨?_, hagree⟩
      rw [hrest, ← hreply]

/-! ## Failures leave no trace -/

/-- Failed calls leave no trace. A call that fails leaves the context as it was, and outside at
most directories on the way to a file, and one identity less to come from a sequence. So leaving
out the failed calls of a run changes no other answer. A flush that succeeds writes what it
answers, once, and only then are flags set. -/
theorem failures_leave_no_trace (s : Session) :
    (∀ call : Call, call.settles = true → (s.perform call).1.failed = true →
      (s.perform call).2.context = s.context ∧ Outside call s (s.perform call).2) ∧
    (∀ calls : List Call,
      s.heard (s.withoutFailures calls) =
        (s.answers calls).filter (fun answer => !traceless answer) ∧
      (s.after (s.withoutFailures calls)).context = (s.run calls).context) ∧
    (∀ sink reply, (s.perform (.updateStylesheet sink)).1.result = .ok reply → ∃ css,
      reply = .text css ∧
      Outlets.Written css s.outlets (s.perform (.updateStylesheet sink)).2.outlets
        (sink.or s.context.sink) ∧
      (s.perform (.updateStylesheet sink)).2.context = s.context.markRendered) ∧
    ∀ call : Call, call ≠ .reset → ¬ Flushes call (s.perform call).1.result →
      (s.perform call).2.context.registries.rendered = s.context.registries.rendered := by
  refine ⟨fun call hs hf => ?_, fun calls => ?_, fun sink reply hr => written_of_flush hr,
    fun call hne hf => rendered_of_effect (s.perform_effect call) hne hf⟩
  · obtain ⟨e, he⟩ := Logged.failed_iff.1 hf
    exact ⟨context_of_error (s.perform_effect call) he hs, outside_of_error hs hf⟩
  · obtain ⟨hh, ha⟩ := heard_withoutFailures (.refl s) calls
    exact ⟨hh, ha.context.symm⟩

/-- Plainly leaving out a failed call is not the same: the identity that it drew goes to the next
call. -/
theorem failed_call_draws_identity :
    let s := start { identityAware := true } none (.sequence [some "x", some "x", some "y"]) {}
    let style (color : String) : Call :=
      .style "a" (.mapping [(.text "color", .text color)]) none []
    (s.answers [style "red", style "red", style "blue"]).map (·.2.failed) = [false, true, false] ∧
      (s.answers [style "red", style "blue"]).map (·.2.failed) = [false, true] ∧
      (s.run [style "red", style "red", style "blue"]).outlets = s.outlets := by
  decide

end Session
end Stylesheet
