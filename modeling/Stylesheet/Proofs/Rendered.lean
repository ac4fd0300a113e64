import Mathlib.Data.List.Induction
import Stylesheet.Proofs.Runs
import Stylesheet.Proofs.Standing
/-!
# Rendered means flushed

A handle is rendered if the stylesheet was flushed after the handle was handed out and nothing was
reset since. Each call takes one turn with each registry (`turn_of_effect`), and what a turn does to
the standing of a handle is an induction over the calls after it (`standing`).

A handle whose place was taken by a later registration has no record any more. A reset does not
reach it: how it stands from then on is left open.
-/

namespace Stylesheet

/-! ## Registries as ledgers -/

/-- The registrations of a kind. Font faces are a ledger without slots. -/
def Registries.ledger (r : Registries) : Registry → Ledger Value
  | .fontFaces =>
    { records := r.fontFaces.map fun f =>
        { name := f.name, payload := f.definition, rendered := f.rendered, serial := f.serial }
      issued := r.fontFacesIssued }
  | .styles => r.styles
  | .keyframes => r.keyframes

theorem Registries.ticketRendered_eq (r : Registries) (t : Ticket) :
    r.ticketRendered t = (r.ledger t.registry).isRendered t.serial := by
  obtain ⟨registry, serial, identity⟩ := t
  cases registry
  · simp [ticketRendered, ledger, fontFaceRendered, Ledger.isRendered, Function.comp_def]
  · rfl
  · rfl

/-- A new font face is a new record. -/
theorem Context.takes_withFontFace (c : Context) (name : String) (definition : Value) :
    (c.registries.ledger .fontFaces).Takes
      { name, payload := definition, serial := c.registries.fontFacesIssued }
      ((c.withFontFace name definition).registries.ledger .fontFaces) := by
  have h := Ledger.takes_append (l := c.registries.ledger .fontFaces)
    (r := { name, payload := definition, serial := c.registries.fontFacesIssued }) none rfl rfl
  simpa only [Registries.ledger, withFontFace, withRegistries, Ledger.append, List.map_append,
    List.map_cons, List.map_nil] using h

theorem Context.ledger_markRendered (c : Context) (kind : Registry) :
    c.markRendered.registries.ledger kind = (c.registries.ledger kind).markRendered := by
  cases kind with
  | fontFaces =>
    simp only [Registries.ledger, markRendered, withRegistries, Ledger.markRendered, List.map_map]
    rfl
  | styles | keyframes => rfl

theorem Context.ledger_reset (c : Context) (kind : Registry) :
    c.reset.registries.ledger kind = (c.registries.ledger kind).reset := by
  cases kind <;> rfl

namespace Session

/-! ## Turns -/

/-- A call that flushes the stylesheet, and succeeds. -/
def Flushes (call : Call) (reply : Except Failure Reply) : Prop :=
  ∃ sink css, call = .updateStylesheet sink ∧ reply = .ok (.text css)

/-- What a call does to the registrations of a kind. -/
inductive Turn (kind : Registry) (l : Ledger Value) :
    Call → Except Failure Reply → Ledger Value → Prop where
  | reset : Turn kind l .reset (.ok .done) l.reset
  | flush {sink css} : Turn kind l (.updateStylesheet sink) (.ok (.text css)) l.markRendered
  | pass {call reply} (hne : call ≠ .reset) (hf : ¬ Flushes call reply)
      (hh : ∀ h, reply = .ok (.handle h) → h.ticket.registry ≠ kind) : Turn kind l call reply l
  | take {call reply record l'} (hne : call ≠ .reset) (hf : ¬ Flushes call reply)
      (ht : l.Takes record l')
      (hh : ∀ h, reply = .ok (.handle h) → h.name = record.name ∧ h.ticket.serial = record.serial)
      (hk : kind ≠ .keyframes → ∃ h, reply = .ok (.handle h) ∧ h.ticket.registry = kind) :
      Turn kind l call reply l'

variable {s : Session} {c c' : Context} {call : Call} {calls : List Call}
  {reply : Except Failure Reply} {kind : Registry} {l l' : Ledger Value} {h : Handle}

theorem map_animation_ne_handle {x : Except Failure AnimationDefinition} :
    x.map Reply.animation ≠ .ok (.handle h) := by
  cases x <;> nofun

theorem turn_of_effect (he : Effect c call reply c') (kind : Registry) :
    Turn kind (c.registries.ledger kind) call reply (c'.registries.ledger kind) := by
  -- A call takes its turn with the registry it registers in, and passes with the others.
  cases he with
  | failed hne => exact .pass hne nofun nofun
  | style hl =>
    cases kind with
    | styles =>
      refine .take nofun nofun (Ledger.takes_of_register hl) ?_ fun _ => ⟨_, rfl, rfl⟩
      rintro h ⟨⟩
      exact ⟨rfl, rfl⟩
    | fontFaces | keyframes =>
      refine .pass nofun nofun ?_
      rintro h ⟨⟩
      nofun
  | keyframes hl ha =>
    subst ha
    cases kind with
    | keyframes =>
      exact .take nofun (fun ⟨_, _, hc, _⟩ => nomatch hc) (Ledger.takes_of_register hl)
        (fun h he => absurd he map_animation_ne_handle) fun hk => absurd rfl hk
    | styles | fontFaces =>
      exact .pass nofun (fun ⟨_, _, hc, _⟩ => nomatch hc) fun h he =>
        absurd he map_animation_ne_handle
  | fontFace _ _ _ =>
    cases kind with
    | fontFaces =>
      refine .take nofun nofun (c.takes_withFontFace _ _) ?_ fun _ => ⟨_, rfl, rfl⟩
      rintro h ⟨⟩
      exact ⟨rfl, rfl⟩
    | styles | keyframes =>
      refine .pass nofun nofun ?_
      rintro h ⟨⟩
      nofun
  | flush _ _ =>
    rw [Context.ledger_markRendered]
    exact .flush
  | reset =>
    rw [Context.ledger_reset]
    exact .reset
  | customProperty _ | rules | css _ | requireStylesheet | setResolver | classes _ =>
    exact .pass nofun nofun nofun

theorem Turn.keeps_issued (ht : Turn kind l call reply l') (hi : l.Issued) : l'.Issued := by
  cases ht with
  | reset => exact hi.reset
  | flush => exact hi.markRendered
  | pass => exact hi
  | take _ _ ht => exact ht.keeps_issued hi

/-- Only issued serial numbers are in use, in every reachable context. -/
theorem issued_run (settings : Settings) (sink : Option Sink) (resolver : Resolver)
    (outlets : Outlets) (calls : List Call) (kind : Registry) :
    (((start settings sink resolver outlets).run calls).context.registries.ledger kind).Issued := by
  refine run_keeps (p := fun c => (c.registries.ledger kind).Issued)
    (fun he hi => (turn_of_effect he kind).keeps_issued hi) ?_ calls
  cases kind <;> exact ⟨nofun, nofun⟩

/-- A handle that was just handed out has its record, and that is not rendered. -/
theorem holds_of_handle (hi : l.Issued) (ht : Turn h.ticket.registry l call (.ok (.handle h)) l') :
    l'.Holds h.ticket.serial h.name false := by
  cases ht with
  | pass _ _ hh => exact absurd rfl (hh h rfl)
  | take _ _ ht hh =>
    obtain ⟨hn, hs⟩ := hh h rfl
    rw [hn, hs]
    exact ht.holds hi

/-- Unless identities count, no style loses its place. -/
theorem superseded_styles_run {settings : Settings} (ha : settings.identityAware = false)
    (sink : Option Sink) (resolver : Resolver) (outlets : Outlets) (calls : List Call) :
    ((start settings sink resolver outlets).run
      calls).context.registries.styles.superseded = [] := by
  refine (run_keeps (p := fun c => c.registries.styles.identityAware = false ∧
    c.registries.styles.superseded = []) (fun he hp => ?_) ⟨ha, rfl⟩ calls).2
  cases he with
  | style hl =>
    obtain ⟨haware, hs⟩ := Ledger.superseded_of_register hp.1 hl
    exact ⟨haware, hs.trans hp.2⟩
  | _ => exact hp

/-- Only styles lose their place, and only if identities count. -/
theorem styles_of_superseded {settings : Settings} {sink : Option Sink} {resolver : Resolver}
    {outlets : Outlets} {n : Nat} (hk : kind ≠ .keyframes)
    (hm : n ∈ (((start settings sink resolver outlets).run calls).context.registries.ledger
      kind).superseded) : kind = .styles ∧ settings.identityAware = true := by
  cases kind with
  | fontFaces => cases hm
  | keyframes => exact absurd rfl hk
  | styles =>
    refine ⟨rfl, Bool.not_eq_false _ ▸ fun ha => ?_⟩
    rw [Registries.ledger, superseded_styles_run ha] at hm
    cases hm

theorem registry_ne_keyframes (he : Effect c call (.ok (.handle h)) c') :
    h.ticket.registry ≠ .keyframes := by
  generalize hr : Except.ok (Reply.handle h) = reply at he
  cases he with
  | keyframes _ ha => exact absurd (hr.trans ha).symm map_animation_ne_handle
  | style | fontFace => cases hr; nofun
  | _ => cases hr

/-! ## What happened since -/

/-- One of these calls, made one after the other from a session on, is as described. -/
def Occurs (s : Session) (calls : List Call) (p : Call → Except Failure Reply → Prop) : Prop :=
  ∃ earlier call rest, calls = earlier ++ call :: rest ∧
    p call ((s.run earlier).perform call).1.result

/-- The stylesheet was flushed. -/
def Flushed (s : Session) (calls : List Call) : Prop := s.Occurs calls Flushes

/-- The name of a style was handed out again, to a handle that takes the place of this one. -/
def Reissued (s : Session) (h : Handle) (calls : List Call) : Prop :=
  h.ticket.registry = .styles ∧ s.Occurs calls fun _ reply =>
    ∃ h', reply = .ok (.handle h') ∧ h'.ticket.registry = .styles ∧ h'.name = h.name

/-- The place of a handle was taken before the first reset. -/
def ReissuedBeforeReset (s : Session) (h : Handle) (calls : List Call) : Prop :=
  ∃ earlier rest, calls = earlier ++ .reset :: rest ∧ .reset ∉ earlier ∧ s.Reissued h earlier

theorem not_occurs_nil {p : Call → Except Failure Reply → Prop} : ¬ s.Occurs [] p := by
  rintro ⟨earlier, call, rest, h, -⟩
  simp at h

theorem occurs_snoc {p : Call → Except Failure Reply → Prop} :
    s.Occurs (calls ++ [call]) p ↔
      s.Occurs calls p ∨ p call ((s.run calls).perform call).1.result := by
  constructor
  · rintro ⟨earlier, call', rest, h, hp⟩
    rcases List.eq_nil_or_concat rest with rfl | ⟨rest, last, rfl⟩
    · obtain ⟨rfl, hc⟩ := List.append_inj' h rfl
      cases hc
      exact .inr hp
    · rw [List.concat_eq_append, ← List.cons_append, ← List.append_assoc] at h
      exact .inl ⟨earlier, call', rest, (List.append_inj' h rfl).1, hp⟩
  · rintro (⟨earlier, call', rest, rfl, hp⟩ | hp)
    · exact ⟨earlier, call', rest ++ [call], by simp, hp⟩
    · exact ⟨calls, call, [], rfl, hp⟩

theorem flushed_snoc : s.Flushed (calls ++ [call]) ↔
    s.Flushed calls ∨ Flushes call ((s.run calls).perform call).1.result := occurs_snoc

/-- How a handle stands after calls. It loses its place only if identities count. -/
inductive Standing (aware : Bool) (s : Session) (h : Handle) (calls : List Call)
    (l : Ledger Value) : Prop where
  | held {b} (hn : .reset ∉ calls) (hh : l.Holds h.ticket.serial h.name b)
      (hb : b = true ↔ s.Flushed calls)
  | superseded (ha : aware = true) (hn : .reset ∉ calls)
      (hm : h.ticket.serial ∈ l.superseded) (hf : s.Flushed calls) (hr : s.Reissued h calls)
  | forgotten (hr : .reset ∈ calls) (hf : l.Forgotten h.ticket.serial)
  | lost (ha : aware = true) (hl : s.ReissuedBeforeReset h calls)

theorem not_mem_snoc {a b : Call} (hn : a ∉ calls) (hne : b ≠ a) : a ∉ calls ++ [b] := by
  simp [hn, hne.symm]

/-- What one more call does to the standing of a handle. -/
theorem Standing.step {aware : Bool} (hs : Standing aware s h calls l)
    (hk : h.ticket.registry ≠ .keyframes)
    (hplace : h.ticket.serial ∈ l'.superseded → h.ticket.registry = .styles ∧ aware = true)
    (ht : Turn h.ticket.registry l call ((s.run calls).perform call).1.result l') :
    Standing aware s h (calls ++ [call]) l' := by
  generalize hreply : ((s.run calls).perform call).1.result = reply at ht
  -- After a reset the standing is settled; before one it changes with the turn.
  cases hs with
  | lost ha hl =>
    obtain ⟨earlier, rest, rfl, hn, hr⟩ := hl
    exact .lost ha ⟨earlier, rest ++ [call], by simp, hn, hr⟩
  | forgotten hr hf =>
    have hr' : Call.reset ∈ calls ++ [call] := List.mem_append_left _ hr
    cases ht with
    | reset => exact .forgotten hr' hf.reset
    | flush => exact .forgotten hr' hf.markRendered
    | pass => exact .forgotten hr' hf
    | take _ _ ht => exact .forgotten hr' (ht.keeps_forgotten hf)
  | @held b hn hh hb =>
    have same : ¬ Flushes call reply → (b = true ↔ s.Flushed (calls ++ [call])) := fun hf => by
      rw [flushed_snoc, hreply, hb]
      exact ⟨.inl, fun h => h.resolve_right hf⟩
    cases ht with
    | reset => exact .forgotten (List.mem_append_right _ List.mem_cons_self) hh.reset
    | flush =>
      have hf : s.Flushed (calls ++ [_]) := flushed_snoc.2 (.inr ⟨_, _, rfl, hreply⟩)
      exact .held (not_mem_snoc hn nofun) hh.markRendered ⟨fun _ => hf, fun _ => rfl⟩
    | pass hne hf => exact .held (not_mem_snoc hn hne) hh (same hf)
    | take hne hf ht hsame hk' =>
      rcases ht.keeps_holds hh with hh | ⟨rfl, hname, hm⟩
      · exact .held (not_mem_snoc hn hne) hh (same hf)
      · -- The record loses its place, so this is a style, and the call answers its name.
        obtain ⟨h', hr, hreg⟩ := hk' hk
        obtain ⟨hstyles, ha⟩ := hplace hm
        exact .superseded ha (not_mem_snoc hn hne) hm (flushed_snoc.2 (.inl (hb.1 rfl)))
          ⟨hstyles, occurs_snoc.2
            (.inr ⟨h', hreply.trans hr, hreg.trans hstyles, (hsame h' hr).1.trans hname⟩)⟩
  | superseded ha hn hm hf hr =>
    have hf' : s.Flushed (calls ++ [call]) := flushed_snoc.2 (.inl hf)
    have hr' : s.Reissued h (calls ++ [call]) := ⟨hr.1, occurs_snoc.2 (.inl hr.2)⟩
    cases ht with
    | reset => exact .lost ha ⟨calls, [], rfl, hn, hr⟩
    | flush => exact .superseded ha (not_mem_snoc hn nofun) hm hf' hr'
    | pass hne => exact .superseded ha (not_mem_snoc hn hne) hm hf' hr'
    | take hne _ ht => exact .superseded ha (not_mem_snoc hn hne) (ht.still _ hm) hf' hr'

/-- How a handle stands, whatever was called since it was handed out. -/
theorem standing {settings : Settings} {sink : Option Sink} {resolver : Resolver}
    {outlets : Outlets} {before : List Call}
    (hr : (((start settings sink resolver outlets).run before).perform call).1.result =
      .ok (.handle h)) (later : List Call) :
    let s := (((start settings sink resolver outlets).run before).perform call).2
    Standing settings.identityAware s h later
      ((s.run later).context.registries.ledger h.ticket.registry) := by
  intro s
  have he := ((start settings sink resolver outlets).run before).perform_effect call
  rw [hr] at he
  have hk := registry_ne_keyframes he
  have hrun : ∀ calls, s.run calls =
      (start settings sink resolver outlets).run (before ++ call :: calls) := fun calls => by
    rw [run_append]
    rfl
  induction later using List.reverseRecOn with
  | nil =>
    exact .held List.not_mem_nil
      (holds_of_handle (issued_run settings sink resolver outlets before _) (turn_of_effect he _))
      ⟨nofun, fun hf => absurd hf not_occurs_nil⟩
  | append_singleton later call ih =>
    refine ih.step hk (fun hm => ?_) ?_
    · rw [hrun] at hm
      exact styles_of_superseded hk hm
    · rw [run_snoc]
      exact turn_of_effect (perform_effect _ call) _

/-- At every point of every run a handle is rendered exactly if the stylesheet was flushed after
the handle was handed out and nothing was reset since. A reset leaves it unrendered, and it is
refused as a class name while stylesheets are required. If identities count, this leaves out what
becomes of a handle whose place was taken by a later registration before the reset. -/
theorem rendered_iff_flushed (settings : Settings) (sink : Option Sink) (resolver : Resolver)
    (outlets : Outlets) (before : List Call) (call : Call) (later : List Call) (h : Handle) :
    let s₀ := (start settings sink resolver outlets).run before
    let s := (s₀.perform call).2
    let now := (s.run later).context
    (s₀.perform call).1.result = .ok (.handle h) →
      (settings.identityAware = true → ¬ s.ReissuedBeforeReset h later) →
      (now.registries.ticketRendered h.ticket = true ↔
        s.Flushed later ∧ Call.reset ∉ later) ∧
      (Call.reset ∈ later → now.requireStylesheet = true →
        now.classes h.toValue = .error (.unrendered h.name)) := by
  intro s₀ s now hr hl
  have hs := standing hr later
  have hflag : now.registries.ticketRendered h.ticket = true ↔
      s.Flushed later ∧ Call.reset ∉ later := by
    rw [Registries.ticketRendered_eq]
    cases hs with
    | held hn hh hb => rw [hh.isRendered, hb, and_iff_left hn]
    | superseded _ hn hm hf _ => exact iff_of_true (Ledger.isRendered_of_superseded hm) ⟨hf, hn⟩
    | forgotten hr hf =>
      rw [hf.isRendered]
      exact ⟨nofun, fun h => absurd hr h.2⟩
    | lost ha h => exact absurd h (hl ha)
  refine ⟨hflag, fun hm hq => ?_⟩
  have hf : now.registries.ticketRendered h.ticket = false :=
    Bool.eq_false_iff.2 fun ht => (hflag.1 ht).2 hm
  simp only [Context.classes, Handle.toValue, Context.classNames, Registries.rendered, hf, hq]
  rfl

/-- A font face that was flushed is rendered, also where identities count. -/
theorem rendered_iff_flushed_fontFace :
    let settings : Settings := { identityAware := true }
    let face := Value.mapping [(.text "fontFamily", .text "Inter")]
    let s₀ := (start settings none .absent {}).run []
    let s := (s₀.perform (.fontFace face)).2
    let h : Handle := ⟨"Inter", face, .fontFaces, 0, none⟩
    let later := [Call.updateStylesheet none]
    (s₀.perform (.fontFace face)).1.result = .ok (.handle h) ∧
      (settings.identityAware = true → ¬ s.ReissuedBeforeReset h later) ∧
      (s.run later).context.registries.ticketRendered h.ticket = true := by
  intro settings face s₀ s h later
  have hl : settings.identityAware = true → ¬ s.ReissuedBeforeReset h later := by
    rintro - ⟨_, _, _, _, hstyles, _⟩
    cases hstyles
  have hf : s.Flushed later := ⟨[], _, [], rfl, none, _, rfl, rfl⟩
  exact ⟨rfl, hl, (rendered_iff_flushed settings none .absent {} [] (.fontFace face) later h rfl
    hl).1.2 ⟨hf, by simp [later]⟩⟩

/-- A flush after a reset does not reach the handles from before, though nothing is reset after
that flush. -/
theorem reset_outlasts_flush :
    let style := Call.style "a" (.mapping []) none []
    let s₀ := start {} none .absent {}
    let s := (s₀.perform style).2
    let h : Handle := ⟨Ledger.nameAt "a" 0, .mapping [], .styles, 0, none⟩
    let later := [Call.reset, .updateStylesheet none]
    (s₀.perform style).1.result = .ok (.handle h) ∧
      (∃ earlier rest, later = earlier ++ rest ∧ (s.run earlier).Flushed rest ∧
        Call.reset ∉ rest) ∧
      (s.run later).context.registries.ticketRendered h.ticket = false := by
  intro style s₀ s h later
  have hf : (s.run [.reset]).Flushed [.updateStylesheet none] :=
    ⟨[], _, [], rfl, none, _, rfl, rfl⟩
  exact ⟨rfl, ⟨[.reset], [.updateStylesheet none], rfl, hf, by simp⟩, rfl⟩

end Session
end Stylesheet
