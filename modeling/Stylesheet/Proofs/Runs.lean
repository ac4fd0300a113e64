import Stylesheet.Session
import Stylesheet.Proofs.Logged
/-!
# Runs of sessions

A call fails and leaves the context as it was, or does what it is for: `Effect` says once what
each call can do, and every call has an effect (`perform_effect`). What holds of a new context and
is kept by every effect holds of every reachable one.
-/

namespace Stylesheet

/-! ## What registering does -/

namespace Context

variable {c c' : Context} {h : Handle}

theorem registerStyle_eq_ok {name : String} {styles : Value} {identity : Option String}
    (hr : (c.registerStyle name styles identity).result = .ok (h, c')) :
    ∃ record ledger,
      (c.registries.styles.register name styles identity).result = .ok (record, ledger) ∧
      h = ⟨record.name, styles, .styles, record.serial, record.identity⟩ ∧
      c' = c.withRegistries { c.registries with styles := ledger } := by
  obtain ⟨⟨record, ledger⟩, hl, hr⟩ := Logged.result_bind_eq_ok.1 hr
  cases hr
  exact ⟨record, ledger, hl, rfl, rfl⟩

theorem registerKeyframes_eq_ok {name : String} {keyframes : Value} {identity : Option String}
    (hr : (c.registerKeyframes name keyframes identity).result = .ok (h, c')) :
    ∃ record ledger,
      (c.registries.keyframes.register name keyframes identity).result = .ok (record, ledger) ∧
      h = ⟨record.name, keyframes, .keyframes, record.serial, record.identity⟩ ∧
      c' = c.withRegistries { c.registries with keyframes := ledger } := by
  obtain ⟨⟨record, ledger⟩, hl, hr⟩ := Logged.result_bind_eq_ok.1 hr
  cases hr
  exact ⟨record, ledger, hl, rfl, rfl⟩

theorem namedAnimation_eq_ok {name : String} {keyframes : Value}
    {arguments : List (String × Value)} {identity : Option String}
    {answer : Except Failure AnimationDefinition}
    (hr : (c.namedAnimation name keyframes arguments identity).result = .ok (answer, c')) :
    ∃ record ledger,
      (c.registries.keyframes.register name keyframes identity).result = .ok (record, ledger) ∧
      answer = AnimationDefinition.ofArguments (some record.name)
        (.handle record.name keyframes
          (.issued ⟨.keyframes, record.serial, record.identity⟩)) arguments ∧
      c' = c.withRegistries { c.registries with keyframes := ledger } := by
  obtain ⟨⟨h, c''⟩, hk, hr⟩ := Logged.result_bind_eq_ok.1 hr
  obtain ⟨record, ledger, hl, rfl, rfl⟩ := registerKeyframes_eq_ok hk
  cases hr
  exact ⟨record, ledger, hl, rfl, rfl⟩

theorem registerVariable_eq_ok {property : String} {name identity : Option String} {v : Variable}
    (hr : (c.registerVariable property name identity).result = .ok (v, c')) :
    ∃ record ledger, (c.registries.customProperties.register (variableBase property name) property
        identity).result = .ok (record, ledger) ∧
      v = { name := record.name, property } ∧
      c' = c.withRegistries { c.registries with customProperties := ledger } := by
  obtain ⟨⟨record, ledger⟩, hl, hr⟩ := Logged.result_bind_eq_ok.1 hr
  cases hr
  exact ⟨record, ledger, hl, rfl, rfl⟩

/-- The registries with one more font face. -/
def withFontFace (c : Context) (name : String) (definition : Value) : Context :=
  c.withRegistries { c.registries with
    fontFaces := c.registries.fontFaces ++
      [{ name, definition, serial := c.registries.fontFacesIssued }],
    fontFacesIssued := c.registries.fontFacesIssued + 1 }

theorem registerFontFace_eq_ok {definition : Value}
    (hr : c.registerFontFace definition = .ok (h, c')) :
    ∃ family name, family? definition = .ok (some family) ∧ family ≠ .absent ∧
      (family.settle c.registries.rendered).display = .ok name ∧
      h = ⟨name, definition, .fontFaces, c.registries.fontFacesIssued, none⟩ ∧
      c' = c.withFontFace name definition := by
  obtain ⟨family, hf, hr⟩ := Failure.bind_eq_ok.1 hr
  split at hr
  · cases hr
  · rename_i hne
    obtain ⟨name, hn, hr⟩ := Failure.bind_eq_ok.1 hr
    cases hr
    cases family with
    | none => exact absurd rfl hne
    | some family => exact ⟨family, name, hf, hne, hn, rfl, rfl⟩

/-- A flush that succeeds answers what was written and marks everything as rendered. -/
theorem updateStylesheet_eq_ok {sink : Option Sink} {o : Outlets} {css : String}
    (hr : (c.updateStylesheet sink o).1.result = .ok (css, c')) :
    ∃ text, c.getCss.result = .ok text ∧ css = withSourceUrl c.settings text ∧
      (writeTo (sink.or c.sink) css o).1.result = .ok () ∧ c' = c.markRendered := by
  simp only [updateStylesheet] at hr
  split at hr
  · cases hr
  · rename_i css' ht
    obtain ⟨text, hc, hp⟩ := Logged.result_bind_eq_ok.1 ht
    obtain ⟨css'', ht', hr⟩ := Logged.result_bind_eq_ok.1 hr
    obtain ⟨⟨⟩, hw, hr⟩ := Logged.result_bind_eq_ok.1 hr
    obtain ⟨⟨⟩, -, hr⟩ := Logged.result_bind_eq_ok.1 hr
    cases ht.symm.trans ht'
    cases hp
    cases hr
    exact ⟨text, hc, rfl, hw, rfl⟩

end Context

/-! ## Effects -/

namespace Session

/-- What a call does to a context, and what it answers. -/
inductive Effect (c : Context) : Call → Except Failure Reply → Context → Prop where
  /-- A failure leaves the context as it was. -/
  | failed {call e} (hne : call ≠ .reset) : Effect c call (.error e) c
  | style {name styles explicit site asked record ledger}
      (hl : (c.registries.styles.register name styles (c.identity explicit asked)).result =
        .ok (record, ledger)) :
      Effect c (.style name styles explicit site)
        (.ok (.handle ⟨record.name, styles, .styles, record.serial, record.identity⟩))
        (c.withRegistries { c.registries with styles := ledger })
  /-- The keyframes stay registered if the other fields of the animation are rejected. -/
  | keyframes {name keyframes arguments explicit site asked record ledger reply}
      (hl : (c.registries.keyframes.register name keyframes (c.identity explicit asked)).result =
        .ok (record, ledger))
      (ha : reply = (AnimationDefinition.ofArguments (some record.name)
        (.handle record.name keyframes
          (.issued ⟨.keyframes, record.serial, record.identity⟩)) arguments).map .animation) :
      Effect c (.namedAnimation name keyframes arguments explicit site) reply
        (c.withRegistries { c.registries with keyframes := ledger })
  | customProperty {property name explicit site asked record ledger}
      (hl : (c.registries.customProperties.register (Context.variableBase property name) property
        (c.identity explicit asked)).result = .ok (record, ledger)) :
      Effect c (.variable property name explicit site)
        (.ok (.variable { name := record.name, property }))
        (c.withRegistries { c.registries with customProperties := ledger })
  | fontFace {definition family name} (hf : Context.family? definition = .ok (some family))
      (hne : family ≠ .absent) (hn : (family.settle c.registries.rendered).display = .ok name) :
      Effect c (.fontFace definition)
        (.ok (.handle ⟨name, definition, .fontFaces, c.registries.fontFacesIssued, none⟩))
        (c.withFontFace name definition)
  | rules {rules} : Effect c (.cssRules rules) (.ok .done) (c.addRules rules)
  | css {text} (ht : c.getCss.result = .ok text) : Effect c .getCss (.ok (.text text)) c
  | flush {sink css text} (ht : c.getCss.result = .ok text)
      (hc : css = Context.withSourceUrl c.settings text) :
      Effect c (.updateStylesheet sink) (.ok (.text css)) c.markRendered
  | reset : Effect c .reset (.ok .done) c.reset
  | requireStylesheet {enable} :
      Effect c (.requireStylesheet enable) (.ok .done) { c with requireStylesheet := enable }
  | setResolver {resolver} : Effect c (.setResolver resolver) (.ok .done) c
  | classes {collection text} (ht : c.classes collection = .ok text) :
      Effect c (.classes collection) (.ok (.text text)) c

/-- Asking for an identity leaves the context alone. -/
theorem identity_context (s : Session) (explicit : Option String) (site : List Frame) :
    ∃ asked, (s.identity explicit site).1 = s.context.identity explicit asked ∧
      (s.identity explicit site).2.context = s.context := by
  unfold identity
  split
  · exact ⟨_, rfl, rfl⟩
  · exact ⟨none, rfl, rfl⟩

theorem identity_outlets (s : Session) (explicit : Option String) (site : List Frame) :
    (s.identity explicit site).2.outlets = s.outlets := by
  unfold identity
  split <;> rfl

theorem settled_outside {α : Type} (s : Session) (reply : α → Reply)
    (x : Logged (α × Context)) :
    (s.settled reply x).2.outlets = s.outlets ∧
      (s.settled reply x).2.resolver = s.resolver := by
  unfold settled
  split <;> exact ⟨rfl, rfl⟩

theorem settled_result {α : Type} (s : Session) (reply : α → Reply)
    (x : Logged (α × Context)) :
    (s.settled reply x).1.result = x.result.map fun a => reply a.1 := by
  unfold settled
  split <;> simp_all [Except.map]

/-- A settled call has the effect of its computation. -/
theorem settled_effect {α : Type} {s : Session} {call : Call} {reply : α → Reply}
    {x : Logged (α × Context)} {c : Context} (hs : s.context = c) (hne : call ≠ .reset)
    (hok : ∀ a c', x.result = .ok (a, c') → Effect c call (.ok (reply a)) c') :
    Effect c call (s.settled reply x).1.result (s.settled reply x).2.context := by
  unfold settled
  split
  · exact hok _ _ ‹_›
  · exact hs ▸ .failed hne

/-- Every call has an effect. -/
theorem perform_effect (s : Session) (call : Call) :
    Effect s.context call (s.perform call).1.result (s.perform call).2.context := by
  match call with
  | .style name styles explicit site =>
    obtain ⟨asked, hi, hc⟩ := s.identity_context explicit site
    simp only [perform, hi]
    refine settled_effect hc nofun fun h c' hr => ?_
    rw [hc] at hr
    obtain ⟨record, ledger, hl, rfl, rfl⟩ := Context.registerStyle_eq_ok hr
    exact .style hl
  | .namedAnimation name keyframes arguments explicit site =>
    simp only [perform]
    split
    · obtain ⟨asked, hi, hc⟩ := s.identity_context explicit site
      rw [hi, hc]
      split
      · rename_i definition c' hr
        obtain ⟨record, ledger, hl, rfl, rfl⟩ := Context.namedAnimation_eq_ok hr
        exact .keyframes hl rfl
      · exact hc.symm ▸ .failed nofun
    · exact .failed nofun
  | .variable property name explicit site =>
    obtain ⟨asked, hi, hc⟩ := s.identity_context explicit site
    simp only [perform, hi]
    refine settled_effect hc nofun fun v c' hr => ?_
    rw [hc] at hr
    obtain ⟨record, ledger, hl, rfl, rfl⟩ := Context.registerVariable_eq_ok hr
    exact .customProperty hl
  | .fontFace definition =>
    refine settled_effect rfl nofun fun h c' hr => ?_
    obtain ⟨family, name, hf, hne, hn, rfl, rfl⟩ := Context.registerFontFace_eq_ok hr
    exact .fontFace hf hne hn
  | .cssRules rules => exact .rules
  | .getCss =>
    show Effect _ _ (do return Reply.text (← s.context.getCss) : Logged Reply).result _
    cases hx : (do return Reply.text (← s.context.getCss) : Logged Reply).result with
    | error e => exact .failed nofun
    | ok reply =>
      obtain ⟨text, ht, hr⟩ := Logged.result_bind_eq_ok.1 hx
      cases hr
      exact .css ht
  | .updateStylesheet sink =>
    refine settled_effect rfl nofun fun css c' hr => ?_
    obtain ⟨text, ht, rfl, -, rfl⟩ := Context.updateStylesheet_eq_ok hr
    exact .flush ht rfl
  | .reset => exact .reset
  | .requireStylesheet enable => exact .requireStylesheet
  | .setResolver resolver => exact .setResolver
  | .classes collection =>
    show Effect _ _ (do return Reply.text (← s.context.classes collection) : Except _ Reply) _
    cases hx : (do return Reply.text (← s.context.classes collection) : Except _ Reply) with
    | error e => exact .failed nofun
    | ok reply =>
      obtain ⟨text, ht, hr⟩ := Failure.bind_eq_ok.1 hx
      cases hr
      exact .classes ht

/-! ## Runs -/

/-- The session after calls, one after the other. -/
def run (s : Session) (calls : List Call) : Session := calls.foldl (fun s c => (s.perform c).2) s

theorem run_append (s : Session) (calls more : List Call) :
    s.run (calls ++ more) = (s.run calls).run more := List.foldl_append

theorem run_snoc (s : Session) (calls : List Call) (call : Call) :
    s.run (calls ++ [call]) = ((s.run calls).perform call).2 := run_append s calls [call]

/-- What every effect keeps holds after every run. -/
theorem run_keeps {p : Context → Prop}
    (step : ∀ {c call reply c'}, Effect c call reply c' → p c → p c') {s : Session}
    (h : p s.context) (calls : List Call) : p (s.run calls).context := by
  induction calls generalizing s with
  | nil => exact h
  | cons call rest ih => exact ih (step (s.perform_effect call) h)

end Session
end Stylesheet
