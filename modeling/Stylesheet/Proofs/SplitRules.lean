import Stylesheet.Proofs.FlatStylesheet
import Stylesheet.Proofs.Flushing
/-!
# Rule sets given in several calls

A stylesheet depends on its raw rule sets only through their entries, one rule set after the other.
So a rule set may be given in one call or in parts, empty ones too, and every stylesheet from then
on is the same (`getCss_is_flat`).
-/

namespace Stylesheet

/-! ## The same entries -/

/-- Raw rule sets with the same entries, however the flags in them stand. -/
def SameEntries (a b : List Value) : Prop := ∀ rendered entries,
  entriesOfAll (a.map (Value.settle rendered)) = .ok entries ↔
    entriesOfAll (b.map (Value.settle rendered)) = .ok entries

theorem SameEntries.refl (a : List Value) : SameEntries a a := fun _ _ => Iff.rfl

theorem SameEntries.append {a b a' b' : List Value} (h : SameEntries a a')
    (hmore : SameEntries b b') : SameEntries (a ++ b) (a' ++ b') := fun rendered entries => by
  simp only [List.map_append, entriesOfAll_append_eq_ok, h rendered _, hmore rendered _]

theorem entriesOfAll_singleton_eq_ok {rules : Value} {entries : List RuleEntry} :
    entriesOfAll [rules] = .ok entries ↔ ruleEntries rules = .ok entries := by
  rw [entriesOfAll_cons_eq_ok]
  constructor
  · rintro ⟨own, more, ho, hm, rfl⟩
    obtain rfl : [] = more := Except.ok.inj hm
    rwa [List.append_nil]
  · intro h
    exact ⟨entries, [], h, rfl, (List.append_nil _).symm⟩

theorem Value.settleEntries_append (rendered : Flag → Bool) (a b : List (Value × Value)) :
    settleEntries rendered (a ++ b) = settleEntries rendered a ++ settleEntries rendered b := by
  induction a with
  | nil => rfl
  | cons e rest ih => exact congrArg (_ :: ·) ih

theorem Value.settleItems_append (rendered : Flag → Bool) (a b : List Value) :
    settleItems rendered (a ++ b) = settleItems rendered a ++ settleItems rendered b := by
  induction a with
  | nil => rfl
  | cons v rest ih => exact congrArg (_ :: ·) ih

/-- A mapping may be given in parts. -/
theorem sameEntries_mapping (parts : List (List (Value × Value))) :
    SameEntries [.mapping parts.flatten] (parts.map .mapping) := fun rendered entries => by
  rw [List.map_singleton, entriesOfAll_singleton_eq_ok]
  induction parts generalizing entries with
  | nil => exact Iff.rfl
  | cons part rest ih =>
    rw [List.map_cons, List.map_cons, entriesOfAll_cons_eq_ok, List.flatten_cons, Value.settle,
      Value.settleEntries_append]
    simp only [← ih]
    constructor
    · intro h
      cases h
      exact ⟨_, _, rfl, rfl, rfl⟩
    · rintro ⟨own, more, ho, hm, rfl⟩
      cases ho
      cases hm
      rfl

/-- A sequence of pairs may be given in parts. -/
theorem sameEntries_sequence {form : List Value → Value} (h : form = .list ∨ form = .tuple)
    (parts : List (List Value)) :
    SameEntries [form parts.flatten] (parts.map form) := fun rendered entries => by
  have entries_form (items : List Value) : ruleEntries ((form items).settle rendered) =
      pairEntries (Value.settleItems rendered items) := by
    rcases h with rfl | rfl <;> rfl
  rw [List.map_singleton, entriesOfAll_singleton_eq_ok]
  induction parts generalizing entries with
  | nil => rw [List.flatten_nil, entries_form]; exact Iff.rfl
  | cons part rest ih =>
    rw [List.map_cons, List.map_cons, entriesOfAll_cons_eq_ok, List.flatten_cons, entries_form,
      Value.settleItems_append, pairEntries_append, Failure.both_eq_ok, entries_form]
    simp only [← ih, entries_form]

/-! ## Stylesheets with the same entries -/

namespace Context

variable {c : Context} {rules : List Value}

/-- The context with other raw rule sets. -/
def withRules (c : Context) (rules : List Value) : Context :=
  c.withRegistries { c.registries with rules }

theorem ruleEntries_withRules (h : SameEntries c.registries.rules rules)
    {entries : List RuleEntry} : (c.withRules rules).registries.ruleEntries = .ok entries ↔
      c.registries.ruleEntries = .ok entries := by
  rw [Registries.ruleEntries, Registries.ruleEntries, Failure.bind_eq_ok, Failure.bind_eq_ok]
  exact exists_congr fun raw => and_congr_left fun _ => (h c.registries.rendered raw).symm

theorem flatParts_withRules (h : SameEntries c.registries.rules rules) {log : List LogRecord}
    {faces texts blocks : List String} :
    FlatParts (c.withRules rules).registries log faces texts blocks ↔
      FlatParts c.registries log faces texts blocks := by
  constructor
  · rintro ⟨hf, pairs, l, m, he, hrest⟩
    exact ⟨hf, pairs, l, m, (ruleEntries_withRules h).1 he, hrest⟩
  · rintro ⟨hf, pairs, l, m, he, hrest⟩
    exact ⟨hf, pairs, l, m, (ruleEntries_withRules h).2 he, hrest⟩

/-- A stylesheet is the same for rule sets with the same entries. -/
theorem getCss_withRules (h : SameEntries c.registries.rules rules) {log : List LogRecord}
    {css : String} : (c.withRules rules).getCss = ⟨log, .ok css⟩ ↔ c.getCss = ⟨log, .ok css⟩ := by
  rw [getCss_eq_ok_flat, getCss_eq_ok_flat]
  simp only [flatParts_withRules h]

theorem result_getCss_withRules (h : SameEntries c.registries.rules rules) {css : String} :
    (c.withRules rules).getCss.result = .ok css ↔ c.getCss.result = .ok css := by
  constructor <;> intro hr
  · rw [(getCss_withRules h).1 (congrArg (Logged.mk _) hr)]
  · rw [(getCss_withRules h).2 (congrArg (Logged.mk _) hr)]

/-! Registering does the same whatever the raw rule sets are. -/

theorem registerStyle_withRules (name : String) (styles : Value) (identity : Option String) :
    (c.withRules rules).registerStyle name styles identity = do
      let (h, c) ← c.registerStyle name styles identity
      return (h, c.withRules rules) := by
  simp only [registerStyle, bind_assoc, pure_bind]
  rfl

theorem registerKeyframes_withRules (name : String) (keyframes : Value)
    (identity : Option String) :
    (c.withRules rules).registerKeyframes name keyframes identity = do
      let (h, c) ← c.registerKeyframes name keyframes identity
      return (h, c.withRules rules) := by
  simp only [registerKeyframes, bind_assoc, pure_bind]
  rfl

theorem namedAnimation_withRules (name : String) (keyframes : Value)
    (arguments : List (String × Value)) (identity : Option String) :
    (c.withRules rules).namedAnimation name keyframes arguments identity = do
      let (definition, c) ← c.namedAnimation name keyframes arguments identity
      return (definition, c.withRules rules) := by
  simp only [namedAnimation, registerKeyframes_withRules, bind_assoc, pure_bind]

theorem registerVariable_withRules (property : String) (name identity : Option String) :
    (c.withRules rules).registerVariable property name identity = do
      let (v, c) ← c.registerVariable property name identity
      return (v, c.withRules rules) := by
  simp only [registerVariable, bind_assoc, pure_bind]
  rfl

theorem registerFontFace_withRules (definition : Value) :
    (c.withRules rules).registerFontFace definition = do
      let (h, c) ← c.registerFontFace definition
      return (h, c.withRules rules) := by
  simp only [registerFontFace, bind_assoc]
  congr 1
  funext family
  split
  · rfl
  · simp only [bind_assoc]
    rfl

end Context

/-! ## Calls on sessions with the same entries -/

/-- Whether a call changes which raw rule sets there are. -/
def Call.setsRules : Call → Bool
  | .cssRules _ | .reset => true
  | _ => false

namespace Session

variable {s : Session} {rules : List Value}

/-- The session with other raw rule sets in its context. -/
def withRules (s : Session) (rules : List Value) : Session :=
  { s with context := s.context.withRules rules }

@[simp]
theorem context_withRules (s : Session) (rules : List Value) :
    (s.withRules rules).context = s.context.withRules rules := rfl

theorem identity_withRules (s : Session) (rules : List Value) (explicit : Option String)
    (site : List Frame) : (s.withRules rules).identity explicit site =
      ((s.identity explicit site).1, (s.identity explicit site).2.withRules rules) := by
  unfold identity
  show (if s.context.asksForIdentity explicit then _ else _) = _
  split <;> rfl

/-- What a registration does does not depend on the raw rule sets. -/
theorem settled_withRules {α : Type} (s : Session) (reply : α → Reply)
    {x y : Logged (α × Context)} (h : y.result = x.result.map fun a => (a.1, a.2.withRules rules)) :
    ((s.withRules rules).settled reply y).2 = (s.settled reply x).2.withRules rules := by
  unfold settled
  rw [h]
  obtain ⟨log, _ | ⟨a, c⟩⟩ := x <;> rfl

/-- A flush that fails leaves the session with its outlets ready. -/
theorem flush_of_error {sink : Option Sink} {e : Failure} (h : s.context.getCss.result = .error e) :
    (s.perform (.updateStylesheet sink)).2 = { s with outlets := s.prepared sink } := by
  obtain ⟨ho, hr⟩ := @Context.updateStylesheet_of_error _ sink (s.prepared sink) _ h
  rw [perform_updateStylesheet, ho]
  simp only [settled, hr]

/-- A flush writes and marks the same if the entries of the rule sets are the same. -/
theorem flush_withRules (h : SameEntries s.context.registries.rules rules) (sink : Option Sink) :
    ((s.withRules rules).perform (.updateStylesheet sink)).2 =
      (s.perform (.updateStylesheet sink)).2.withRules rules := by
  cases ht : s.context.getCss.result with
  | error e =>
    cases ht' : (s.withRules rules).context.getCss.result with
    | ok css =>
      rw [(Context.result_getCss_withRules h).1 ht'] at ht
      cases ht
    | error e' =>
      rw [flush_of_error ht, flush_of_error ht']
      cases sink <;> rfl
  | ok css =>
    have ht' : (s.withRules rules).context.getCss.result = .ok css :=
      (Context.result_getCss_withRules h).2 ht
    obtain ⟨ho, hr⟩ := @Context.updateStylesheet_of_ok _ sink (s.prepared sink) _ ht
    obtain ⟨ho', hr'⟩ := @Context.updateStylesheet_of_ok _ sink
      ((s.withRules rules).prepared sink) _ ht'
    have hp : (s.withRules rules).prepared sink = s.prepared sink := by cases sink <;> rfl
    rw [hp] at ho' hr'
    rw [perform_updateStylesheet, perform_updateStylesheet, hp, ho, ho']
    refine settled_withRules { s with outlets := _ } .text ?_
    rw [hr, hr']
    show Except.map _ (Context.writeTo (sink.or s.context.sink)
      (Context.withSourceUrl s.context.settings css) (s.prepared sink)).1.result = _
    cases (Context.writeTo (sink.or s.context.sink)
      (Context.withSourceUrl s.context.settings css) (s.prepared sink)).1.result <;> rfl

theorem rules_of_effect {c c' : Context} {call : Call} {reply : Except Failure Reply}
    (h : Effect c call reply c') (hc : call.setsRules = false) :
    c'.registries.rules = c.registries.rules := by
  cases h with
  | rules => cases hc
  | reset => cases hc
  | _ => rfl

/-- A call does the same to sessions whose rule sets have the same entries, and leaves them so. -/
theorem perform_withRules (h : SameEntries s.context.registries.rules rules) (call : Call) :
    ∃ others, ((s.withRules rules).perform call).2 = (s.perform call).2.withRules others ∧
      SameEntries (s.perform call).2.context.registries.rules others := by
  have kept (call : Call) (hc : call.setsRules = false) :
      SameEntries (s.perform call).2.context.registries.rules rules :=
    (rules_of_effect (s.perform_effect call) hc).symm ▸ h
  match call with
  | .style name styles explicit site =>
    refine ⟨rules, ?_, kept _ rfl⟩
    simp only [perform, identity_withRules, context_withRules, Context.registerStyle_withRules]
    exact settled_withRules _ _ (Logged.result_map ..)
  | .namedAnimation name keyframes arguments explicit site =>
    refine ⟨rules, ?_, kept _ rfl⟩
    simp only [perform, identity_withRules, context_withRules, Context.namedAnimation_withRules,
      Logged.result_map]
    split
    · generalize Context.namedAnimation _ name keyframes arguments _ = x
      obtain ⟨log, _ | _⟩ := x <;> rfl
    · rfl
  | .variable property name explicit site =>
    refine ⟨rules, ?_, kept _ rfl⟩
    simp only [perform, identity_withRules, context_withRules, Context.registerVariable_withRules]
    exact settled_withRules _ _ (Logged.result_map ..)
  | .fontFace definition =>
    refine ⟨rules, ?_, kept _ rfl⟩
    simp only [perform, context_withRules, Context.registerFontFace_withRules]
    exact settled_withRules s _ rfl
  | .cssRules more => exact ⟨rules ++ [more], rfl, h.append (.refl [more])⟩
  | .updateStylesheet sink => exact ⟨rules, flush_withRules h sink, kept _ rfl⟩
  | .reset => exact ⟨[], rfl, .refl []⟩
  | .getCss => exact ⟨rules, rfl, h⟩
  | .requireStylesheet enable => exact ⟨rules, rfl, h⟩
  | .setResolver resolver => exact ⟨rules, rfl, h⟩
  | .classes collection => exact ⟨rules, rfl, h⟩

/-- Calls do the same to sessions whose rule sets have the same entries. -/
theorem run_withRules (h : SameEntries s.context.registries.rules rules) (calls : List Call) :
    ∃ others, (s.withRules rules).run calls = (s.run calls).withRules others ∧
      SameEntries (s.run calls).context.registries.rules others := by
  induction calls generalizing s rules with
  | nil => exact ⟨rules, rfl, h⟩
  | cons call rest ih =>
    obtain ⟨others, hp, hs⟩ := perform_withRules h call
    show ∃ others, ((s.withRules rules).perform call).2.run rest = _ ∧ _
    rw [hp]
    exact ih hs

/-- Rule sets given one after the other. -/
theorem run_cssRules (s : Session) (parts : List Value) :
    s.run (parts.map .cssRules) = s.withRules (s.context.registries.rules ++ parts) := by
  induction parts generalizing s with
  | nil => rw [List.append_nil]; rfl
  | cons part rest ih =>
    show (s.perform (.cssRules part)).2.run (rest.map .cssRules) = _
    rw [ih, List.append_cons]
    rfl

/-- A rule set and its parts lead to sessions whose rule sets have the same entries. -/
theorem run_parts {parts : List Value} {rules : Value} (h : SameEntries [rules] parts)
    (later : List Call) : ∃ others,
      s.run (parts.map .cssRules ++ later) =
        (s.run (.cssRules rules :: later)).withRules others ∧
      SameEntries (s.run (.cssRules rules :: later)).context.registries.rules others := by
  have whole : SameEntries (s.context.registries.rules ++ [rules])
      (s.context.registries.rules ++ parts) := .append (.refl _) h
  rw [run_append, run_cssRules]
  exact run_withRules (s := (s.perform (.cssRules rules)).2) whole later

end Session

/-- A stylesheet is one flat list of texts, none of them empty, a line break between any two: the
font faces in order, the rules of the one rule set that has the entries of all raw rule sets and
then one for each style, and the keyframes in order. So a rule set may be given in parts, empty ones
too, before any further calls: what it has are the entries of its parts. -/
theorem getCss_is_flat :
    (∀ (c : Context) (log : List LogRecord) (css : String), c.getCss = ⟨log, .ok css⟩ ↔
      ∃ faces rules blocks, FlatParts c.registries log faces rules blocks ∧
        (∀ t ∈ faces ++ rules ++ blocks, t ≠ "") ∧
        css = "\n".intercalate (faces ++ rules ++ blocks)) ∧
    (∀ (s : Session) (rules : Value) (parts : List Value), SameEntries [rules] parts →
      ∀ (later : List Call) (log : List LogRecord) (css : String),
        (s.run (parts.map .cssRules ++ later)).context.getCss = ⟨log, .ok css⟩ ↔
          (s.run (.cssRules rules :: later)).context.getCss = ⟨log, .ok css⟩) ∧
    (∀ parts : List (List (Value × Value)),
      SameEntries [.mapping parts.flatten] (parts.map .mapping)) ∧
    (∀ parts : List (List Value), SameEntries [.list parts.flatten] (parts.map .list) ∧
      SameEntries [.tuple parts.flatten] (parts.map .tuple)) := by
  refine ⟨fun c log css => ?_, fun s rules parts h later log css => ?_, sameEntries_mapping,
    fun parts => ⟨sameEntries_sequence (.inl rfl) parts, sameEntries_sequence (.inr rfl) parts⟩⟩
  · rw [getCss_eq_ok_flat]
    constructor
    · rintro ⟨faces, rules, blocks, flat, hcss⟩
      exact ⟨faces, rules, blocks, flat, flat.ne_empty, hcss⟩
    · rintro ⟨faces, rules, blocks, flat, -, hcss⟩
      exact ⟨faces, rules, blocks, flat, hcss⟩
  · obtain ⟨others, hr, hs⟩ := Session.run_parts (s := s) h later
    rw [hr]
    exact Context.getCss_withRules hs

/-- Two entries, in one mapping, and in two rule sets of different forms around an empty one. -/
theorem getCss_is_flat_forms :
    let red := Value.mapping [(.text "color", .text "red")]
    let whole := Value.mapping [(.text "a", red), (.text "b", .mapping [])]
    let parts := [Value.mapping [(.text "a", red)], .list [],
      .list [.tuple [.text "b", .mapping []]]]
    let later : List Call := [.style "c" red none []]
    SameEntries [whole] parts ∧
      (({} : Session).run (parts.map .cssRules ++ later)).context.getCss =
        ⟨[], .ok "a \x7b color: red; \x7d\n.c-0 \x7b color: red; \x7d"⟩ := by
  intro red whole parts later
  have same : SameEntries [whole] parts := fun rendered entries => Iff.rfl
  have noRules (parent : String) : compileEntries parent [] = ⟨[], .ok []⟩ := by
    rw [compileEntries]
    rfl
  have node (selector : String) {out : List String}
      (h : ownRule selector [("color", .text "red")] = .ok out) :
      compileNode selector red = ⟨[], .ok out⟩ :=
    compileNode_eq_ok.2 ⟨⟨[("color", .text "red")], [], []⟩, out, [], [], [], [], rfl, h,
      noRules _, rfl, rfl, by simp⟩
  have empty (selector : String) : compileNode selector (.mapping []) = ⟨[], .ok []⟩ :=
    compileNode_eq_ok.2 ⟨{}, [], [], [], [], [], rfl, rfl, noRules _, rfl, rfl, rfl⟩
  have rules : compileRules (pairList [("a", red), ("b", .mapping []), (".c-0", red)]) =
      ⟨[], .ok ["a \x7b color: red; \x7d", ".c-0 \x7b color: red; \x7d"]⟩ := by
    rw [compileRules_pairList]
    exact compileEntries_cons_eq_ok.2 ⟨"a", [], _, [], _, rfl, node _ rfl,
      compileEntries_cons_eq_ok.2 ⟨"b", [], [], [], _, rfl, empty _,
        compileEntries_cons_eq_ok.2 ⟨".c-0", [], _, [], [], rfl, node _ rfl, noRules _, rfl, rfl⟩,
        rfl, rfl⟩, rfl, by decide +kernel⟩
  have entries : (({} : Session).run (.cssRules whole :: later)).context.registries.ruleEntries =
      .ok (pairRuleEntries [("a", red), ("b", .mapping []), (".c-0", red)]) := by
    rw [show ".c-0" = "." ++ Ledger.nameAt "c" 0 by decide +kernel]
    rfl
  exact ⟨same, (getCss_is_flat.2.1 {} whole parts same later [] _).2
    (getCss_eq_ok_flat.2
      ⟨[], _, [], ⟨rfl, _, [], [], entries, rules, rfl, rfl⟩, by decide +kernel⟩)⟩

end Stylesheet
