import Stylesheet.Proofs.Answers
/-!
# Interleaved registrations

A registration reads and changes the registries of its own kind only. So what a run of
registrations answers, kind by kind, and the stylesheet that it leads to are settled by the calls
of each kind, however these are interleaved (`interleavings_agree`). A call of another sort, such
as a flush or a reset, is a barrier that no registration passes.
-/

namespace Stylesheet

/-! ## Kinds -/

/-- What can be registered. -/
inductive Kind where
  | style
  | rules
  | fontFace
  | keyframes
  | customProperty
  deriving DecidableEq, Repr

/-- What a call registers, if anything. -/
def Call.kind? : Call → Option Kind
  | .style _ _ _ _ => some .style
  | .cssRules _ => some .rules
  | .fontFace _ => some .fontFace
  | .namedAnimation _ _ _ _ _ => some .keyframes
  | .variable _ _ _ _ => some .customProperty
  | _ => none

namespace Registries

/-- The registries of one kind, the others empty. -/
def part (r : Registries) : Kind → Registries
  | .style => { styles := r.styles }
  | .rules => { rules := r.rules }
  | .fontFace => { fontFaces := r.fontFaces, fontFacesIssued := r.fontFacesIssued }
  | .keyframes => { keyframes := r.keyframes }
  | .customProperty => { customProperties := r.customProperties }

theorem eq_of_parts {r r' : Registries} (h : ∀ kind, r.part kind = r'.part kind) : r = r' := by
  have hs := congrArg styles (h .style)
  have hr := congrArg rules (h .rules)
  have hf := congrArg fontFaces (h .fontFace)
  have hi := congrArg fontFacesIssued (h .fontFace)
  have hk := congrArg keyframes (h .keyframes)
  have hc := congrArg customProperties (h .customProperty)
  cases r
  cases r'
  simp only [part] at hs hr hf hi hk hc
  subst hs hr hf hi hk hc
  rfl

end Registries

namespace Session

variable {s t : Session} {c c' : Context} {call : Call} {kind : Kind}

/-! ## One registration -/

/-- What contexts share if they treat the registrations of a kind alike. -/
structure Alike (kind : Kind) (c d : Context) : Prop where
  settings : c.settings = d.settings
  rendered : c.registries.rendered = d.registries.rendered
  part : c.registries.part kind = d.registries.part kind

theorem Alike.refl (kind : Kind) (c : Context) : Alike kind c c := ⟨rfl, rfl, rfl⟩

theorem Alike.trans {c₁ c₂ c₃ : Context} (h : Alike kind c₁ c₂) (h' : Alike kind c₂ c₃) :
    Alike kind c₁ c₃ :=
  ⟨h.settings.trans h'.settings, h.rendered.trans h'.rendered, h.part.trans h'.part⟩

/-- All that a registration changes in a context are the registries of its kind. -/
theorem registering_of_effect {k : Kind} {reply : Except Failure Reply}
    (he : Effect c call reply c') (hk : call.kind? = some k) :
    c' = c.withRegistries c'.registries ∧
      ∀ kind, k ≠ kind → c'.registries.part kind = c.registries.part kind := by
  cases he with
  | failed => exact ⟨rfl, fun _ _ => rfl⟩
  | style | keyframes | customProperty | fontFace | rules =>
    cases hk
    refine ⟨rfl, fun kind hne => ?_⟩
    cases kind <;> first | rfl | exact absurd rfl hne
  | css | flush | reset | requireStylesheet | setResolver | classes => cases hk

/-- A registration writes nothing. -/
theorem outlets_of_kind (s : Session) (hk : call.kind? = some kind) :
    (s.perform call).2.outlets = s.outlets := by
  match call with
  | .style _ _ explicit site | .variable _ _ explicit site =>
    exact (settled_outside ..).1.trans (s.identity_outlets explicit site)
  | .fontFace _ => exact (settled_outside ..).1
  | .cssRules _ => rfl
  | .namedAnimation _ _ _ explicit site =>
    simp only [perform]
    split
    · split <;> exact s.identity_outlets explicit site
    · rfl

/-- Nothing is asked for where identities are given or do not count. -/
theorem identity_of_given {explicit : Option String} (s : Session) (site : List Frame)
    (ha : s.context.settings.identityAware = true → explicit.isNone = false) :
    s.identity explicit site = (s.context.identity explicit none, s) := by
  have hn : s.context.asksForIdentity explicit = false := by
    simpa [Context.asksForIdentity] using ha
  simp [identity, hn]

/-- A registration answers the same where its own kind stands the same. -/
theorem perform_of_alike (h : Alike kind s.context t.context) (hk : call.kind? = some kind)
    (ha : s.context.settings.identityAware = true → call.asks = false) :
    (s.perform call).1 = (t.perform call).1 ∧
      (s.perform call).2.context.registries.part kind =
        (t.perform call).2.context.registries.part kind := by
  have hgiven : ∀ explicit, s.context.identity explicit none = t.context.identity explicit none :=
    fun _ => by simp only [Context.identity, h.settings]
  have ha' : t.context.settings.identityAware = true → call.asks = false := h.settings ▸ ha
  match call with
  | .style name styles explicit site =>
    cases hk
    have hl : s.context.registries.styles = t.context.registries.styles :=
      (congrArg Registries.styles h.part :)
    simp only [perform, identity_of_given _ _ ha, identity_of_given _ _ ha',
      Context.registerStyle, hl, hgiven]
    obtain ⟨log, _ | ⟨record, ledger⟩⟩ :=
      t.context.registries.styles.register name styles (t.context.identity explicit none)
    · exact ⟨rfl, h.part⟩
    · exact ⟨rfl, rfl⟩
  | .variable property name explicit site =>
    cases hk
    have hl : s.context.registries.customProperties = t.context.registries.customProperties :=
      (congrArg Registries.customProperties h.part :)
    simp only [perform, identity_of_given _ _ ha, identity_of_given _ _ ha',
      Context.registerVariable, hl, hgiven]
    obtain ⟨log, _ | ⟨record, ledger⟩⟩ :=
      t.context.registries.customProperties.register (Context.variableBase property name) property
        (t.context.identity explicit none)
    · exact ⟨rfl, h.part⟩
    · exact ⟨rfl, rfl⟩
  | .namedAnimation name keyframes arguments explicit site =>
    cases hk
    have hl : s.context.registries.keyframes = t.context.registries.keyframes :=
      (congrArg Registries.keyframes h.part :)
    simp only [perform, identity_of_given _ _ ha, identity_of_given _ _ ha',
      Context.namedAnimation, Context.registerKeyframes, hl, hgiven]
    split
    · obtain ⟨log, _ | ⟨record, ledger⟩⟩ :=
        t.context.registries.keyframes.register name keyframes (t.context.identity explicit none)
      · exact ⟨rfl, h.part⟩
      · exact ⟨rfl, rfl⟩
    · exact ⟨rfl, h.part⟩
  | .fontFace definition =>
    cases hk
    have hf : s.context.registries.fontFaces = t.context.registries.fontFaces :=
      (congrArg Registries.fontFaces h.part :)
    have hi : s.context.registries.fontFacesIssued = t.context.registries.fontFacesIssued :=
      (congrArg Registries.fontFacesIssued h.part :)
    simp only [perform, Context.registerFontFace, hf, hi, h.rendered]
    obtain e | family := Context.family? definition
    · exact ⟨rfl, h.part⟩
    · simp only [bind, Except.bind]
      split
      · exact ⟨rfl, h.part⟩
      · obtain e | name := (Value.settle _ _).display
        · exact ⟨rfl, h.part⟩
        · exact ⟨rfl, rfl⟩
  | .cssRules rules =>
    cases hk
    have hr : s.context.registries.rules = t.context.registries.rules :=
      (congrArg Registries.rules h.part :)
    exact ⟨rfl, by
      simp only [perform, Context.addRules, Context.withRegistries, Registries.part, hr]⟩

/-- A registration changes no flag. -/
theorem rendered_of_kind (s : Session) (hk : call.kind? = some kind) :
    (s.perform call).2.context.registries.rendered = s.context.registries.rendered := by
  apply rendered_of_effect (s.perform_effect call)
  · rintro rfl
    cases hk
  · rintro ⟨sink, css, rfl, -⟩
    cases hk

/-- No call changes the settings or the sink. -/
theorem steady_of_effect {reply : Except Failure Reply} (he : Effect c call reply c') :
    c'.settings = c.settings ∧ c'.sink = c.sink := by
  cases he <;> exact ⟨rfl, rfl⟩

theorem steady (s : Session) (call : Call) :
    (s.perform call).2.context.settings = s.context.settings ∧
      (s.perform call).2.context.sink = s.context.sink :=
  steady_of_effect (s.perform_effect call)

theorem steady_run (s : Session) (calls : List Call) :
    (s.run calls).context.settings = s.context.settings ∧
      (s.run calls).context.sink = s.context.sink := by
  refine run_keeps (p := fun c => c.settings = s.context.settings ∧ c.sink = s.context.sink)
    (fun he hc => ?_) ⟨rfl, rfl⟩ calls
  obtain ⟨hset, hsink⟩ := steady_of_effect he
  exact ⟨hset.trans hc.1, hsink.trans hc.2⟩

theorem alike_perform (h : Alike kind s.context t.context) (hk : call.kind? = some kind)
    (ha : s.context.settings.identityAware = true → call.asks = false) :
    Alike kind (s.perform call).2.context (t.perform call).2.context where
  settings := by rw [(s.steady call).1, (t.steady call).1, h.settings]
  rendered := by rw [s.rendered_of_kind hk, t.rendered_of_kind hk, h.rendered]
  part := (perform_of_alike h hk ha).2

/-- A registration leaves the other kinds alone. -/
theorem alike_of_other {k : Kind} (s : Session) (hk : call.kind? = some k) (hne : k ≠ kind) :
    Alike kind (s.perform call).2.context s.context :=
  ⟨(s.steady call).1, s.rendered_of_kind hk,
    (registering_of_effect (s.perform_effect call) hk).2 kind hne⟩

/-! ## Runs of registrations -/

/-- The calls that register something of a kind. -/
def ofKind (kind : Kind) (calls : List Call) : List Call :=
  calls.filter fun call => call.kind? = some kind

/-- Calls that only register. -/
def Registering (calls : List Call) : Prop := ∀ call ∈ calls, ∃ kind, call.kind? = some kind

/-- Calls that give an identity wherever one counts. -/
def Given (settings : Settings) (calls : List Call) : Prop :=
  settings.identityAware = true → ∀ call ∈ calls, call.asks = false

/-- The registrations of a kind are answered as if there were no others. -/
theorem answers_ofKind {calls : List Call} (h : Alike kind s.context t.context)
    (hr : Registering calls) (hg : Given s.context.settings calls) :
    (s.answers calls).filter (fun answer => answer.1.kind? = some kind) =
        t.answers (ofKind kind calls) ∧
      Alike kind (s.run calls).context (t.run (ofKind kind calls)).context := by
  induction calls generalizing s t with
  | nil => exact ⟨rfl, h⟩
  | cons call rest ih =>
    obtain ⟨k, hk⟩ := hr call List.mem_cons_self
    have hrest : Registering rest := fun c hc => hr c (List.mem_cons_of_mem _ hc)
    have hg' : Given (s.perform call).2.context.settings rest := by
      rw [(s.steady call).1]
      exact fun ha c hc => hg ha c (List.mem_cons_of_mem _ hc)
    by_cases hkind : k = kind
    · subst hkind
      have ha : s.context.settings.identityAware = true → call.asks = false :=
        fun ha => hg ha call List.mem_cons_self
      obtain ⟨hanswers, halike⟩ := ih (alike_perform h hk ha) hrest hg'
      simp only [ofKind, answers, List.filter_cons, hk, decide_true, if_true] at hanswers ⊢
      rw [hanswers, (perform_of_alike h hk ha).1]
      exact ⟨rfl, halike⟩
    · obtain ⟨hanswers, halike⟩ := ih ((s.alike_of_other hk hkind).trans h) hrest hg'
      have hne : call.kind? ≠ some kind := by
        rw [hk]
        simpa using hkind
      simp only [ofKind, answers, List.filter_cons, hne, decide_false, Bool.false_eq_true,
        if_false] at hanswers ⊢
      exact ⟨hanswers, halike⟩

theorem frame_run {calls : List Call} (hr : Registering calls) (s : Session) :
    (s.run calls).context = s.context.withRegistries (s.run calls).context.registries ∧
      (s.run calls).outlets = s.outlets := by
  induction calls generalizing s with
  | nil => exact ⟨rfl, rfl⟩
  | cons call rest ih =>
    obtain ⟨k, hk⟩ := hr call List.mem_cons_self
    obtain ⟨hc, ho⟩ := ih (fun c hc => hr c (List.mem_cons_of_mem _ hc)) (s.perform call).2
    have hc' := (registering_of_effect (s.perform_effect call) hk).1
    refine ⟨?_, ho.trans (s.outlets_of_kind hk)⟩
    show ((s.perform call).2.run rest).context = _
    rw [hc, hc']
    rfl

theorem mem_answers {calls : List Call} {answer : Call × Logged Reply}
    (h : answer ∈ s.answers calls) : answer.1 ∈ calls := by
  induction calls generalizing s with
  | nil => cases h
  | cons call rest ih =>
    rcases List.mem_cons.1 h with rfl | h
    · exact List.mem_cons_self
    · exact List.mem_cons_of_mem _ (ih h)

/-- Runs of registrations with the same calls of each kind, in the same order. -/
structure SameByKind (calls calls' : List Call) : Prop where
  left : Registering calls
  right : Registering calls'
  ofKind : ∀ kind, ofKind kind calls = ofKind kind calls'

theorem SameByKind.given {calls calls' : List Call} {settings : Settings}
    (h : SameByKind calls calls') (hg : Given settings calls) : Given settings calls' := by
  intro ha call hc
  obtain ⟨kind, hk⟩ := h.right call hc
  have hmem : call ∈ Session.ofKind kind calls' := by simp [Session.ofKind, hc, hk]
  rw [← h.ofKind, Session.ofKind, List.mem_filter] at hmem
  exact hg ha call hmem.1

/-- The answers to the calls of a kind, or to those that register nothing. -/
def answersTo (kind? : Option Kind) (s : Session) (calls : List Call) :
    List (Call × Logged Reply) :=
  (s.answers calls).filter fun answer => answer.1.kind? = kind?

/-! ## Between barriers -/

/-- A context but for its sink. -/
def bare (c : Context) : Context := { c with sink := none }

/-- Sessions at matching points of two interleavings. Their sinks may differ unless a file is
written to. -/
structure Matched (shared : Prop) (s t : Session) : Prop where
  context : bare s.context = bare t.context
  sink : shared → s.context.sink = t.context.sink
  files : shared → s.outlets.files = t.outlets.files

variable {shared : Prop} {calls calls' : List Call}

theorem Matched.settings (h : Matched shared s t) : s.context.settings = t.context.settings :=
  (congrArg Context.settings h.context :)

theorem Matched.registries (h : Matched shared s t) :
    s.context.registries = t.context.registries :=
  (congrArg Context.registries h.context :)

theorem Matched.getCss (h : Matched shared s t) : s.context.getCss = t.context.getCss :=
  (congrArg Context.getCss h.context :)

theorem Matched.classes (h : Matched shared s t) (collection : Value) :
    s.context.classes collection = t.context.classes collection :=
  (congrArg (·.classes collection) h.context :)

theorem Matched.alike (h : Matched shared s t) (kind : Kind) : Alike kind s.context t.context :=
  ⟨h.settings, by rw [h.registries], by rw [h.registries]⟩

/-- Interleaved in one way or another, registrations are answered the same. -/
theorem matched_segment (hm : Matched shared s t) (h : SameByKind calls calls')
    (hg : Given s.context.settings calls) :
    (∀ kind?, s.answersTo kind? calls = t.answersTo kind? calls') ∧
      Matched shared (s.run calls) (t.run calls') := by
  have hleft (kind : Kind) := answers_ofKind (hm.alike kind) h.left hg
  have hright (kind : Kind) := answers_ofKind (Alike.refl kind t.context) h.right
    (hm.settings ▸ h.given hg)
  have hparts : (s.run calls).context.registries = (t.run calls').context.registries :=
    Registries.eq_of_parts fun kind => by
      rw [(hleft kind).2.part, (hright kind).2.part, h.ofKind]
  obtain ⟨hc, ho⟩ := frame_run h.left s
  obtain ⟨hc', ho'⟩ := frame_run h.right t
  refine ⟨fun kind? => ?_, ?_, fun hs => ?_, fun hs => ?_⟩
  · cases kind? with
    | some kind => rw [answersTo, answersTo, (hleft kind).1, (hright kind).1, h.ofKind]
    | none =>
      -- All calls register something.
      rw [answersTo, answersTo, List.filter_eq_nil_iff.2, List.filter_eq_nil_iff.2]
      · intro answer ha
        obtain ⟨kind, hk⟩ := h.right _ (mem_answers ha)
        simp [hk]
      · intro answer ha
        obtain ⟨kind, hk⟩ := h.left _ (mem_answers ha)
        simp [hk]
  · rw [hc, hc', hparts]
    exact congrArg (·.withRegistries (t.run calls').context.registries) hm.context
  · rw [hc, hc']
    exact hm.sink hs
  · rw [ho, ho']
    exact hm.files hs

/-! ## Barriers -/

theorem writeTo_of_no_file {target : Option Sink} (h : ∀ path, target ≠ some (.file path))
    (css : String) (o : Outlets) : (Context.writeTo target css o).1 = pure () := by
  match target with
  | none | some (.memory _) => rfl
  | some (.file path) => exact absurd rfl (h path)

theorem writeTo_of_files {o p : Outlets} (h : o.files = p.files) (target : Option Sink)
    (css : String) :
    (Context.writeTo target css o).1 = (Context.writeTo target css p).1 ∧
      (Context.writeTo target css o).2.files = (Context.writeTo target css p).2.files := by
  cases target with
  | none => exact ⟨rfl, h⟩
  | some sink => exact Outlets.write_of_files h sink css

/-- Whether a call is a flush to a file, where that is its own sink or else the given one. -/
def FlushesToFile (own : Option Sink) (call : Call) : Prop :=
  ∃ sink path, call = .updateStylesheet sink ∧ sink.or own = some (.file path)

theorem matched_flush {sink : Option Sink} (hm : Matched shared s t)
    (hf : FlushesToFile s.context.sink (.updateStylesheet sink) ∨
      FlushesToFile t.context.sink (.updateStylesheet sink) → shared) :
    (s.perform (.updateStylesheet sink)).1 = (t.perform (.updateStylesheet sink)).1 ∧
      Matched shared (s.perform (.updateStylesheet sink)).2
        (t.perform (.updateStylesheet sink)).2 := by
  have hfiles (hs : shared) : (s.prepared sink).files = (t.prepared sink).files := by
    rw [(s.same_prepared sink).files, (t.same_prepared sink).files, hm.files hs]
  have hwrite : ∀ css, (Context.writeTo (sink.or s.context.sink) css (s.prepared sink)).1 =
      (Context.writeTo (sink.or t.context.sink) css (t.prepared sink)).1 := by
    intro css
    by_cases hs : shared
    · rw [hm.sink hs]
      exact (writeTo_of_files (hfiles hs) _ css).1
    · -- Neither is a file, and writing elsewhere always succeeds.
      rw [writeTo_of_no_file, writeTo_of_no_file]
      · exact fun path hp => hs (hf (.inr ⟨sink, path, rfl, hp⟩))
      · exact fun path hp => hs (hf (.inl ⟨sink, path, rfl, hp⟩))
  have hanswer : (s.perform (.updateStylesheet sink)).1 =
      (t.perform (.updateStylesheet sink)).1 := by
    simp only [answer_flush, hm.getCss, hm.settings, hm.registries, hwrite]
  refine ⟨hanswer, ?_, fun hs => ?_, fun hs => ?_⟩
  · rw [context_flush, context_flush, hanswer]
    split
    · exact hm.context
    · exact congrArg Context.markRendered hm.context
  · rw [(s.steady _).2, (t.steady _).2, hm.sink hs]
  · rw [files_flush, files_flush, hm.getCss, hm.settings, hm.sink hs]
    split
    · exact hm.files hs
    · exact (writeTo_of_files (hfiles hs) _ _).2

/-- A call that registers nothing is answered the same, too. -/
theorem matched_barrier (hm : Matched shared s t) (hb : call.kind? = none)
    (hf : FlushesToFile s.context.sink call ∨ FlushesToFile t.context.sink call → shared) :
    (s.perform call).1 = (t.perform call).1 ∧
      Matched shared (s.perform call).2 (t.perform call).2 := by
  match call with
  | .updateStylesheet sink => exact matched_flush hm hf
  | .getCss => exact ⟨by simp only [perform, hm.getCss], hm⟩
  | .classes collection => exact ⟨by simp only [perform, hm.classes], hm⟩
  | .reset => exact ⟨rfl, congrArg Context.reset hm.context, hm.sink, hm.files⟩
  | .requireStylesheet enable =>
    exact ⟨rfl, congrArg (fun c => { c with requireStylesheet := enable }) hm.context,
      hm.sink, hm.files⟩
  | .setResolver resolver => exact ⟨rfl, hm.context, hm.sink, hm.files⟩

/-- Runs that differ in how registrations of different kinds are interleaved; no registration is
moved past a call of another sort. -/
inductive Rearranged : List Call → List Call → Prop where
  | last {calls calls' : List Call} (h : SameByKind calls calls') : Rearranged calls calls'
  | barrier {calls calls' rest rest' : List Call} {call : Call} (h : SameByKind calls calls')
      (hb : call.kind? = none) (hr : Rearranged rest rest') :
      Rearranged (calls ++ call :: rest) (calls' ++ call :: rest')

theorem answersTo_append (kind? : Option Kind) (s : Session) (calls : List Call) (call : Call)
    (rest : List Call) :
    s.answersTo kind? (calls ++ call :: rest) =
      s.answersTo kind? calls ++
        ((if call.kind? = kind? then [(call, ((s.run calls).perform call).1)] else []) ++
          ((s.run calls).perform call).2.answersTo kind? rest) := by
  simp only [answersTo, answers_append, List.filter_append, answers, List.filter_cons,
    decide_eq_true_eq]
  split <;> rfl

theorem matched_run (h : Rearranged calls calls') (hm : Matched shared s t)
    (hg : Given s.context.settings calls)
    (hf : ∀ call ∈ calls,
      FlushesToFile s.context.sink call ∨ FlushesToFile t.context.sink call → shared) :
    (∀ kind?, s.answersTo kind? calls = t.answersTo kind? calls') ∧
      Matched shared (s.run calls) (t.run calls') := by
  induction h generalizing s t with
  | last h => exact matched_segment hm h hg
  | @barrier calls calls' rest rest' call h hb hr ih =>
    obtain ⟨hanswers, hm₁⟩ := matched_segment hm h
      fun ha c hc => hg ha c (List.mem_append_left _ hc)
    obtain ⟨hset, hsink⟩ := s.steady_run calls
    obtain ⟨-, hsink'⟩ := t.steady_run calls'
    obtain ⟨hanswer, hm₂⟩ := matched_barrier hm₁ hb (by
      rw [hsink, hsink']
      exact hf call (by simp))
    obtain ⟨hset₂, hsink₂⟩ := (s.run calls).steady call
    obtain ⟨-, hsink₂'⟩ := (t.run calls').steady call
    obtain ⟨hrest, hm₃⟩ := ih hm₂
      (by
        rw [hset₂, hset]
        exact fun ha c hc => hg ha c (by simp [hc]))
      (by
        rw [hsink₂, hsink₂', hsink, hsink']
        exact fun c hc => hf c (by simp [hc]))
    refine ⟨fun kind? => ?_, ?_⟩
    · rw [answersTo_append, answersTo_append, hanswers, hanswer, hrest]
    · rw [run_append, run_append]
      exact hm₃

theorem start_files (settings : Settings) (sink : Option Sink) (resolver : Resolver)
    (outlets : Outlets) : (start settings sink resolver outlets).outlets.files = outlets.files := by
  cases sink with
  | none => rfl
  | some sink => exact (outlets.same_prepare sink).files

/-- Registrations of different kinds commute. On new contexts with equal settings, two runs that
differ in how these are interleaved between barriers get the same answers, kind by kind, and lead
to the same stylesheet. Where identities count they are given. The sinks may differ unless a file
is written to. -/
theorem interleavings_agree (settings : Settings) (sink sink' : Option Sink)
    (resolver resolver' : Resolver) (outlets outlets' : Outlets)
    (h : Rearranged calls calls') (hg : Given settings calls)
    (hf : ∀ call ∈ calls, FlushesToFile sink call ∨ FlushesToFile sink' call →
      sink = sink' ∧ outlets.files = outlets'.files) :
    let s := start settings sink resolver outlets
    let t := start settings sink' resolver' outlets'
    (∀ kind?, s.answersTo kind? calls = t.answersTo kind? calls') ∧
      (s.run calls).context.getCss = (t.run calls').context.getCss ∧
      (s.run calls).context.registries = (t.run calls').context.registries := by
  intro s t
  have hm : Matched (sink = sink' ∧ outlets.files = outlets'.files) s t :=
    ⟨rfl, And.left, fun hs => by rw [start_files, start_files, hs.2]⟩
  obtain ⟨hanswers, hm'⟩ := matched_run h hm hg hf
  exact ⟨hanswers, hm'.getCss, hm'.registries⟩

/-- A style is registered twice before a flush and once after it, and rules and a font face come
earlier or later. -/
theorem interleavings_agree_twice :
    let style : Call := .style "a" (.mapping [(.text "color", .text "red")]) (some "x") []
    let rules : Call := .cssRules (.mapping [(.text "p", .mapping [(.text "color", .text "red")])])
    let face : Call := .fontFace (.mapping [(.text "fontFamily", .text "F")])
    let calls := [style, rules, style, .updateStylesheet none, face, style]
    let calls' := [rules, style, style, .updateStylesheet none, style, face]
    Rearranged calls calls' ∧ Given { identityAware := true } calls ∧
      let s := start { identityAware := true } (some (.file ⟨["a.css"]⟩)) .absent {}
      let t := start { identityAware := true } (some (.file ⟨["a.css"]⟩)) .caller {}
      (∀ kind?, s.answersTo kind? calls = t.answersTo kind? calls') ∧
        (s.run calls).context.getCss = (t.run calls').context.getCss ∧
        (s.run calls).context.registries = (t.run calls').context.registries := by
  intro style rules face calls calls'
  have h : Rearranged calls calls' := by
    show Rearranged ([style, rules, style] ++ .updateStylesheet none :: [face, style])
      ([rules, style, style] ++ .updateStylesheet none :: [style, face])
    refine .barrier ⟨?_, ?_, ?_⟩ rfl (.last ⟨?_, ?_, ?_⟩)
    · simp [Registering, style, rules, Call.kind?]
    · simp [Registering, style, rules, Call.kind?]
    · rintro ⟨⟩ <;> rfl
    · simp [Registering, style, face, Call.kind?]
    · simp [Registering, style, face, Call.kind?]
    · rintro ⟨⟩ <;> rfl
  have hg : Given { identityAware := true } calls := by
    simp [Given, calls, style, rules, face, Call.asks]
  exact ⟨h, hg, interleavings_agree _ _ _ _ _ _ _ h hg fun _ _ _ => ⟨rfl, rfl⟩⟩

end Session
end Stylesheet
