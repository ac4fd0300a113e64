import Stylesheet.Proofs.FlatStylesheet
import Stylesheet.Proofs.InlineBlocks
/-!
# Animation names are defined where they are used

A node is compiled in place, under the selector and in the grouping rules of the path to it
(`exists_compileAt_of_nodeAt`), so the blocks of its inline animations stand in the same grouping
rules as the rule that declares them. A registered animation is defined as long as nothing is reset:
whoever takes the place of its keyframes takes the name too (`animation_names_defined`).
-/

namespace Stylesheet

/-! ## Nodes at the end of a path -/

/-- The node at the end of a path of selectors through nested rules. -/
inductive NodeAt : List RuleEntry → List String → Value → Prop where
  | here {entries : List RuleEntry} {s : String} {node : Value} (hm : (.text s, node) ∈ entries) :
    NodeAt entries [s] node
  | inside {entries nested : List RuleEntry} {s : String} {path : List String}
    {outer : List (Value × Value)} {fields : List Field} {node : Value}
    (hm : (.text s, .mapping outer) ∈ entries) (hf : nodeFields outer = .ok fields)
    (hn : nestedRules fields = .ok nested) (hp : NodeAt nested path node) :
    NodeAt entries (s :: path) node

/-- Rules compile one after the other. -/
theorem exists_compileNode_of_mem {parent s : String} {entries : List RuleEntry} {node : Value}
    {log : List LogRecord} {out : List String} (h : compileEntries parent entries = ⟨log, .ok out⟩)
    (hm : (.text s, node) ∈ entries) : ∃ before l rules after,
      compileNode (Selector.inside parent s) node = ⟨l, .ok rules⟩ ∧
        out = before ++ rules.map (Selector.wrap s) ++ after := by
  induction entries generalizing log out with
  | nil => cases hm
  | cons e rest ih =>
    obtain ⟨selector, other⟩ := e
    obtain ⟨t, l, rules, m, more, rfl, hn, hr, -, rfl⟩ := compileEntries_cons_eq_ok.1 h
    rcases List.mem_cons.1 hm with he | hm
    · cases he
      exact ⟨[], l, rules, more, hn, rfl⟩
    · obtain ⟨before, k, own, after, hk, rfl⟩ := ih hr hm
      exact ⟨rules.map (Selector.wrap t) ++ before, k, own, after, hk, by simp⟩

/-- The node at the end of a path is compiled in place, as its path says. -/
theorem exists_compileAt_of_nodeAt {entries : List RuleEntry} {path : List String} {node : Value}
    (hp : NodeAt entries path node) {parent : String} {log : List LogRecord} {out : List String}
    (h : compileEntries parent entries = ⟨log, .ok out⟩) : ∃ before l rules after,
      compileAt parent path node = ⟨l, .ok rules⟩ ∧ out = before ++ rules ++ after := by
  induction hp generalizing parent log out with
  | @here entries s node hm =>
    obtain ⟨before, l, rules, after, hn, rfl⟩ := exists_compileNode_of_mem h hm
    refine ⟨before, l, _, after, ?_, rfl⟩
    rw [compileAt_cons, Logged.map_eq_ok]
    have placed : compileAt (Selector.inside parent s) [] node = ⟨l, .ok rules⟩ := by
      simp [compileAt, Selector.composed, Selector.groupings, Selector.wrapAll, hn]
    exact ⟨rules, placed, rfl⟩
  | @inside entries nested s path outer fields node hm hf hn hp ih =>
    obtain ⟨before, l, rules, after, ho, rfl⟩ := exists_compileNode_of_mem h hm
    obtain ⟨parts, own, k, others, m, blocks, hs, -, hin, -, -, rfl⟩ := compileNode_eq_ok.1 ho
    obtain ⟨fields', hf', hparts⟩ := splitEntries_eq_ok.1 hs
    cases hf.symm.trans hf'
    cases hn.symm.trans hparts.nested
    obtain ⟨pre, l', inner, post, hi, rfl⟩ := ih hin
    refine ⟨before ++ (own ++ pre).map (Selector.wrap s), l', inner.map (Selector.wrap s),
      (post ++ blocks).map (Selector.wrap s) ++ after, ?_, by simp⟩
    rw [compileAt_cons, Logged.map_eq_ok]
    exact ⟨inner, hi, rfl⟩

/-- A rule set with a node that animates holds the rule of the node and, further down, the blocks of
its inline animations, in the same grouping rules. -/
theorem exists_animated_of_nodeAt {rules : Value} {entries : List RuleEntry} {path : List String}
    {node : List (Value × Value)} {fields : List Field} {v : Value} {log : List LogRecord}
    {out : List String} (h : compileRules rules = ⟨log, .ok out⟩)
    (he : ruleEntries rules = .ok entries) (hp : NodeAt entries path (.mapping node))
    (hf : nodeFields node = .ok fields)
    (hv : fields.filter (·.1 = animationKey) = [(animationKey, v)]) :
    ∃ before rule nested blocks after,
      let wrap := Selector.wrapAll (Selector.groupings path)
      out = before ++ wrap rule :: nested.map wrap ++ blocks.map wrap ++ after ∧
        CompiledNested (Selector.composed "" path) fields nested ∧
        Animated (Selector.composed "" path) v rule blocks := by
  obtain ⟨entries', he', hc⟩ := Logged.ofExcept_bind_eq_ok.1 h
  cases he.symm.trans he'
  obtain ⟨before, l, own, after, ho, rfl⟩ := exists_compileAt_of_nodeAt hp hc
  obtain ⟨own, hn, rfl⟩ := Logged.map_eq_ok.1 ho
  obtain ⟨rule, nested, blocks, rfl, ha⟩ := exists_animated_of_compileNode hn hf hv
  exact ⟨before, rule, nested, blocks, after, by simp, ha⟩

/-! ## Registered animations -/

namespace Ledger

variable {α : Type}

/-- The names of the records. -/
def names (l : Ledger α) : List String := l.records.map Record.name

/-- Who takes the place of a record and its name leaves the names as they are. -/
theorem names_replace {l : Ledger α} {i : Nat} {previous r : Record α}
    (hp : l.records[i]? = some previous) (hn : r.name = previous.name) :
    (l.replace i previous r).names = l.names := by
  refine List.ext_getElem? fun j => ?_
  simp only [names, Ledger.replace, List.getElem?_map, List.getElem?_set]
  split
  · rename_i hij
    subst hij
    rw [if_pos (List.getElem?_eq_some_iff.1 hp).1, hp]
    exact congrArg some hn
  · rfl

/-- A registration that succeeds is among the names, and all the names stay. -/
theorem mem_names_of_register {l l' : Ledger α} {base : String} {payload : α}
    {identity : Option String} {r : Record α}
    (h : (l.register base payload identity).result = .ok (r, l')) :
    r.name ∈ l'.names ∧ l.names ⊆ l'.names := by
  rcases l.register_cases base payload identity with ⟨-, he⟩ | ⟨i, previous, hs, -, he⟩ |
    ⟨i, previous, -, -, he⟩ <;> rw [he] at h <;> cases h
  · simp [names, Ledger.append]
  · obtain ⟨-, -, -, hp⟩ := held?_eq_some.1 hs
    have same := names_replace (r := { l.fresh base payload identity with name := previous.name })
      hp rfl
    exact ⟨same ▸ List.mem_map.2 ⟨previous, List.mem_of_getElem? hp, rfl⟩,
      same ▸ List.Subset.refl _⟩

theorem names_markRendered (l : Ledger α) : l.markRendered.names = l.names := by
  simp [names, markRendered, Function.comp_def]

end Ledger

namespace Session

/-- The names of keyframes stay through every call but a reset. -/
theorem mem_names_of_effect {c c' : Context} {call : Call} {reply : Except Failure Reply}
    (he : Effect c call reply c') (hne : call ≠ .reset) {name : String}
    (hn : name ∈ c.registries.keyframes.names) : name ∈ c'.registries.keyframes.names := by
  cases he with
  | keyframes hl => exact (Ledger.mem_names_of_register hl).2 hn
  | flush => exact (Ledger.names_markRendered _).symm ▸ hn
  | reset => exact absurd rfl hne
  | _ => exact hn

theorem mem_names_of_run {s : Session} {calls : List Call} (hr : .reset ∉ calls) {name : String}
    (hn : name ∈ s.context.registries.keyframes.names) :
    name ∈ (s.run calls).context.registries.keyframes.names := by
  induction calls generalizing s with
  | nil => exact hn
  | cons call rest ih =>
    obtain ⟨hne, hr⟩ : call ≠ .reset ∧ .reset ∉ rest := by simpa [eq_comm] using hr
    exact ih hr (mem_names_of_effect (s.perform_effect call) hne hn)

end Session

/-- Each name of keyframes has a block in the stylesheet. -/
theorem exists_block_of_mem_names {c : Context} {log : List LogRecord} {css name : String}
    (h : c.getCss = ⟨log, .ok css⟩) (hn : name ∈ c.registries.keyframes.names) :
    ∃ before set block after, IsKeyframes name set block ∧
      css = "\n".intercalate (before ++ block :: after) := by
  obtain ⟨faces, rules, blocks, flat, rfl⟩ := getCss_eq_ok_flat.1 h
  obtain ⟨-, pairs, l, m, -, -, hb, -⟩ := flat
  obtain ⟨record, hm, rfl⟩ := List.mem_map.1 hn
  obtain ⟨i, hi⟩ := List.mem_iff_getElem?.1 hm
  obtain ⟨block, k, hblock, hk⟩ := (Logged.forEach_getElem? hb).2 i record hi
  obtain ⟨before, after, rfl⟩ := List.append_of_mem (List.mem_of_getElem? hblock)
  exact ⟨faces ++ rules ++ before, _, block, after, isKeyframes_of_block hk, by simp⟩

/-- A definition uses a registered name: unless it is too long to be written, it resolves to a
shorthand that starts with the name, and needs no keyframes beside the rule. -/
structure UsesName (d : AnimationDefinition) (name : String) : Prop where
  named : d.fields.name = some name
  used : ∀ rendered selector position, ResolvedAnimation.ofItem selector position
    (d.toValue.settle rendered) = Failure.unlessTooLong d.fields.isTooLong
      { value := " ".intercalate (name :: d.fields.remaining) }

/-- An animation has the name and the keyframes that it was made with. -/
theorem AnimationDefinition.of_ofArguments {name : String} {keyframes : Value}
    {arguments : List (String × Value)} {d : AnimationDefinition}
    (h : ofArguments (some name) keyframes arguments = .ok d) :
    d.fields.name = some name ∧ d.keyframes = keyframes := by
  unfold ofArguments ofEntries at h
  simp only at h
  split at h
  · cases h
    exact ⟨rfl, rfl⟩
  · cases h

theorem usesName_of_handle {d : AnimationDefinition} {name other : String} {payload : Value}
    {flag : Flag} (hn : d.fields.name = some name) (hne : name ≠ "")
    (hk : d.keyframes = .handle other payload flag) : UsesName d name := by
  refine ⟨hn, fun rendered selector position => ?_⟩
  rw [AnimationDefinition.toValue, hk, Value.settle, Value.settle, ResolvedAnimation.ofItem,
    ResolvedAnimation.writeDefinition, ResolvedAnimation.ofDefinition,
    if_neg (by simp [AnimationDefinition.isInline]), AnimationFields.shorthand_of_name hn hne]

/-- An animation that is handed out uses the name of registered keyframes. -/
theorem exists_name_of_effect {c c' : Context} {call : Call} {d : AnimationDefinition}
    (he : Session.Effect c call (.ok (.animation d)) c') (hi : c'.registries.keyframes.Inv) :
    ∃ name ∈ c'.registries.keyframes.names, UsesName d name := by
  cases he with
  | @keyframes _ _ _ _ _ _ record ledger _ hl ha =>
    obtain ⟨hr, -⟩ := Ledger.mem_names_of_register hl
    refine ⟨record.name, hr, ?_⟩
    -- The names of a ledger are numbered, so this one is not empty.
    obtain ⟨q, hq, hqn⟩ := List.mem_map.1 hr
    obtain ⟨i, hq⟩ := List.mem_iff_getElem?.1 hq
    obtain ⟨base, hb⟩ := hi.named i q hq
    have hne : record.name ≠ "" := by
      rw [← hqn, hb]
      exact Ledger.nameAt_ne_empty base i
    cases hd : AnimationDefinition.ofArguments (some record.name) _ _ with
    | error e =>
      rw [hd] at ha
      cases ha
    | ok d' =>
      rw [hd] at ha
      cases ha
      obtain ⟨hn, hk⟩ := AnimationDefinition.of_ofArguments hd
      exact usesName_of_handle hn hne hk

/-- Every name of an animation is defined where it is used. The rule of a node that animates, what
its nested rules come to and the blocks of its inline animations stand in the same grouping rules;
the blocks come one for each inline item, in order, under different names that end in the index of
the item, and the part of the declaration for the item is the name, or starts with it. The name of
an animation that a context hands out has a block in every later stylesheet, until a reset. -/
theorem animation_names_defined :
    (∀ (rules : Value) (entries : List RuleEntry) (path : List String)
      (node : List (Value × Value)) (fields : List Field) (v : Value) (log : List LogRecord)
      (out : List String), compileRules rules = ⟨log, .ok out⟩ → ruleEntries rules = .ok entries →
      NodeAt entries path (.mapping node) → nodeFields node = .ok fields →
      fields.filter (·.1 = animationKey) = [(animationKey, v)] →
      ∃ before rule nested blocks after,
        let wrap := Selector.wrapAll (Selector.groupings path)
        out = before ++ wrap rule :: nested.map wrap ++ blocks.map wrap ++ after ∧
          CompiledNested (Selector.composed "" path) fields nested ∧
          Animated (Selector.composed "" path) v rule blocks) ∧
    (∀ (v : Value) (a : InlineAnimation), a ∈ inlineAnimations v ↔ ∃ i item d,
      (animationItems v)[i]? = some item ∧ item.definition? = some d ∧ d.isInline = true ∧
        a = ⟨d.fields.name, i, d.keyframes⟩) ∧
    (∀ v, (inlineAnimations v).Pairwise fun a b => a.position < b.position) ∧
    (∀ (selector : String) (a : InlineAnimation), a.name selector =
      InlineName.stem a.ownName selector ++ "-" ++ toString a.position) ∧
    (∀ (settings : Settings) (sink : Option Sink) (resolver : Resolver) (outlets : Outlets)
      (earlier : List Call) (call : Call) (later : List Call) (d : AnimationDefinition)
      (log : List LogRecord) (css : String),
      let s := (Session.start settings sink resolver outlets).run earlier
      (s.perform call).1.result = .ok (.animation d) → .reset ∉ later →
      ((s.perform call).2.run later).context.getCss = ⟨log, .ok css⟩ →
      ∃ name, UsesName d name ∧ ∃ before set block after, IsKeyframes name set block ∧
        css = "\n".intercalate (before ++ block :: after)) := by
  refine ⟨fun rules entries path node fields v log out h he hp hf hv =>
      exists_animated_of_nodeAt h he hp hf hv, fun v a => mem_inlineAnimations,
    inlineAnimations_ordered, fun selector a => rfl,
    fun settings sink resolver outlets earlier call later d log css => ?_⟩
  intro s h hr hcss
  have hi := Session.inv_keyframes_run settings sink resolver outlets (earlier ++ [call])
  rw [Session.run_snoc] at hi
  have he := s.perform_effect call
  rw [h] at he
  obtain ⟨name, hn, hu⟩ := exists_name_of_effect he hi
  exact ⟨name, hu, exists_block_of_mem_names hcss (Session.mem_names_of_run hr hn)⟩

/-- An inline animation after another item in a grouping rule, and a registered one whose keyframes
are registered again after a flush. -/
theorem animation_names_defined_media :
    let set := Value.mapping [(.text "to", .mapping [])]
    let v := Value.list [.text "none", .animation {} set]
    let rules := nestedRuleSet (.mapping [(.text animationKey, v)]) "@media print" [".a"]
    let spin := Call.namedAnimation "spin" set [] (some "x") []
    let s := Session.start { identityAware := true } none .absent {}
    (∃ out, compileRules rules = ⟨[], .ok out⟩ ∧ ∃ before rule nested blocks after,
      let wrap := Selector.wrapAll (Selector.groupings ["@media print", ".a"])
      out = before ++ wrap rule :: nested.map wrap ++ blocks.map wrap ++ after ∧
        CompiledNested (Selector.composed "" ["@media print", ".a"]) [(animationKey, v)] nested ∧
        Animated (Selector.composed "" ["@media print", ".a"]) v rule blocks) ∧
    ∃ d log css, (s.perform spin).1.result = .ok (.animation d) ∧
      ((s.perform spin).2.run [.updateStylesheet none, spin]).context.getCss = ⟨log, .ok css⟩ ∧
      ∃ name, UsesName d name ∧ ∃ before set block after, IsKeyframes name set block ∧
        css = "\n".intercalate (before ++ block :: after) := by
  intro set v rules spin s
  have noRules (parent : String) : compileEntries parent [] = ⟨[], .ok []⟩ := by
    rw [compileEntries]
    rfl
  obtain ⟨out, compiled⟩ : ∃ out, compileRules rules = ⟨[], .ok out⟩ := by
    rw [compileRules_nestedRuleSet, compileAt,
      show Selector.composed "" ["@media print", ".a"] = ".a" by decide]
    exact ⟨_, Logged.map_eq_ok.2 ⟨_, compileNode_eq_ok.2
      ⟨_, _, [], [], [], _, rfl, rfl, noRules _, rfl, rfl, rfl⟩, rfl⟩⟩
  obtain ⟨d, hd⟩ : ∃ d, (s.perform spin).1.result = .ok (.animation d) := ⟨_, rfl⟩
  obtain ⟨log, css, hcss⟩ : ∃ log css,
      ((s.perform spin).2.run [.updateStylesheet none, spin]).context.getCss = ⟨log, .ok css⟩ := by
    have compiles : ((s.perform spin).2.run
        [.updateStylesheet none, spin]).context.getCss.result.toOption.isSome = true := by
      decide +kernel
    generalize ((s.perform spin).2.run _).context.getCss = sheet at compiles ⊢
    obtain ⟨log, _ | css⟩ := sheet
    · cases compiles
    · exact ⟨log, css, rfl⟩
  obtain ⟨placed, -, -, -, registered⟩ := animation_names_defined
  exact ⟨⟨out, compiled, placed _ _ _ _ _ v [] _ compiled rfl (.inside List.mem_cons_self rfl rfl
    (.here List.mem_cons_self)) rfl rfl⟩, d, log, css, hd, hcss,
    registered _ _ _ _ [] spin _ d log css hd (by simp [spin]) hcss⟩

end Stylesheet
