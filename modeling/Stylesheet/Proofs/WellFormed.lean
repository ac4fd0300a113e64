import Stylesheet.Proofs.Visits
/-!
# Well-formed rule sets

The rule sets that the compiler is meant for: selectors and keys are text, style nodes and keyframes
are mappings, and values are built from scalars, lists, function maps, variables and handles. All
predicates take one on texts, which holds of every text that is written as it is. The nodes of a
well-formed rule set can be visited, and every visit meets what the rule set is made of
(`visits_of_rulesOf`).
-/

namespace Stylesheet

/-! ## Values -/

/-- The text that a scalar is, if it is text, satisfies `p`. -/
def Scalar.All (p : String → Prop) : Scalar → Prop
  | .text s => p s
  | _ => True

theorem Scalar.all_true (s : Scalar) : s.All fun _ => True := by
  cases s <;> trivial

/-- A value built from scalars, lists, function maps, variables and handles. The names of functions,
variables and handles are texts of it too. -/
inductive Value.Plain (p : String → Prop) : Value → Prop where
  | scalar {s : Scalar} (h : s.All p) : Plain p (.scalar s)
  | list {items : List Value} (h : ∀ v ∈ items, Plain p v) : Plain p (.list items)
  | tuple {items : List Value} (h : ∀ v ∈ items, Plain p v) : Plain p (.tuple items)
  | mapping {entries : List (Value × Value)}
    (hk : ∀ e ∈ entries, ∃ function, e.1 = .text function ∧ p function)
    (hv : ∀ e ∈ entries, Plain p e.2) : Plain p (.mapping entries)
  | «variable» {name property : String} {fallback : Value} (hn : p name) (h : Plain p fallback) :
    Plain p (.variable name property fallback)
  | handle {name : String} {payload : Value} {flag : Flag} (hn : p name) :
    Plain p (.handle name payload flag)

/-! ## Keyframes -/

/-- The offset of a keyframe may be anything; what is neither a scalar nor a variable nor a handle
counts as the text of it. -/
def OffsetOf (p : String → Prop) : Value → Prop
  | .scalar s => s.All p
  | .variable name property fallback => (Value.variable name property fallback).Plain p
  | .handle name _ _ => p name
  | v => ∀ t, v.display = .ok t → p t

/-- The body of a keyframe: declarations, and what is left out under other keys. -/
def BodyOf (p : String → Prop) (body : Value) : Prop :=
  ∃ entries, body = .mapping entries ∧ ∀ e ∈ entries, e.2.isAbsent = false →
    ∃ key, e.1 = .text key ∧ (isIgnoredKey key = false → p key ∧ e.2.Plain p)

/-- A keyframe set; a keyframe may lack its body. -/
def KeyframesOf (p : String → Prop) (set : Value) : Prop :=
  ∃ entries, set = .mapping entries ∧ ∀ e ∈ entries, e.2.isAbsent = false →
    OffsetOf p e.1 ∧ BodyOf p e.2

/-! ### What a body declares -/

/-- Whether a declaration of a keyframe is kept. -/
def isKept (e : Value × Value) : Bool := !e.2.isAbsent && e.1.text?.any fun key => !isIgnoredKey key

/-- The values of the declarations that a keyframe keeps. -/
def bodyValues : Value → List Value
  | .mapping entries => (entries.filter isKept).map Prod.snd
  | _ => []

/-- The keys of a well-formed body are read, and the declarations that are kept are plain. -/
theorem keyframeDeclarations_of {p : String → Prop} {entries : List (Value × Value)}
    (h : ∀ e ∈ entries, e.2.isAbsent = false →
      ∃ key, e.1 = .text key ∧ (isIgnoredKey key = false → p key ∧ e.2.Plain p))
    (name offset : String) : ∃ log declarations,
      keyframeDeclarations name offset entries = ⟨log, .ok declarations⟩ ∧
      (∀ d ∈ declarations, p d.1 ∧ d.2.Plain p) ∧
      declarations.map Prod.snd = bodyValues (.mapping entries) := by
  induction entries with
  | nil => exact ⟨[], [], rfl, by simp, rfl⟩
  | cons e rest ih =>
    obtain ⟨key, value⟩ := e
    obtain ⟨he, hrest⟩ := List.forall_mem_cons.1 h
    obtain ⟨log, declarations, hd, hplain, hvalues⟩ := ih hrest
    rw [keyframeDeclarations]
    cases hv : value.isAbsent with
    | true =>
      refine ⟨log, declarations, hd, hplain, ?_⟩
      rw [hvalues]
      simp [bodyValues, isKept, hv]
    | false =>
      obtain ⟨k, rfl, hk⟩ := he hv
      cases hi : isIgnoredKey k with
      | true =>
        refine ⟨.ignoredKey k name offset :: log, declarations, ?_, hplain, ?_⟩
        · simp only [Value.text?, hi, if_true, hd]
          rfl
        · rw [hvalues]
          simp [bodyValues, isKept, hv, hi, Value.text?]
      | false =>
        refine ⟨log, (k, value) :: declarations, ?_, List.forall_mem_cons.2 ⟨hk hi, hplain⟩, ?_⟩
        · simp only [Value.text?, hi, hd]
          exact Logged.map_eq_ok.2 ⟨declarations, rfl, rfl⟩
        · rw [List.map_cons, hvalues]
          simp [bodyValues, isKept, hv, hi, Value.text?]

/-! ## Animations -/

/-- An animation whose inline keyframes, if it has any, are well-formed. -/
structure AnimationDefinition.Of (p : String → Prop) (d : AnimationDefinition) : Prop where
  fields : ∀ f ∈ d.fields.properties, f.2.All p
  keyframes : d.isInline = true → KeyframesOf p d.keyframes

/-- Neither a collection nor an animation. -/
def Value.isAtom : Value → Bool
  | .scalar _ | .variable _ _ _ | .handle _ _ _ => true
  | _ => false

theorem ofItem_of_isAtom {v : Value} (h : v.isAtom = true) (selector : String) (position : Nat) :
    ResolvedAnimation.ofItem selector position v = do return { value := ← v.display } := by
  cases v <;> first | rfl | cases h

/-- An item of an animation value: a definition, a mapping that reads as one, or one of the other
values that are allowed there. -/
inductive AnimationItemOf (p : String → Prop) (other : Value → Prop) : Value → Prop where
  | definition {fields : AnimationFields} {keyframes : Value}
    (h : (⟨fields, keyframes⟩ : AnimationDefinition).Of p) :
    AnimationItemOf p other (.animation fields keyframes)
  | mapping {entries : List (Value × Value)} {d : AnimationDefinition}
    (hr : AnimationDefinition.ofEntries entries = .ok d) (h : d.Of p) :
    AnimationItemOf p other (.mapping entries)
  | atom {v : Value} (ha : v.isAtom = true) (h : other v) : AnimationItemOf p other v

/-- A declaration of a style node, which may be an animation. -/
structure FieldOf (p : String → Prop) (other : Value → Prop) (f : Field) : Prop where
  animation : f.1 = animationKey → ∀ item ∈ animationItems f.2, AnimationItemOf p other item
  value : f.1 ≠ animationKey → p f.1 ∧ f.2.Plain p

/-- An inline animation with well-formed keyframes. -/
structure InlineAnimation.Of (p : String → Prop) (a : InlineAnimation) : Prop where
  ownName : ∀ name ∈ a.ownName, p name
  keyframes : KeyframesOf p a.keyframes

theorem AnimationDefinition.Of.name {p : String → Prop} {d : AnimationDefinition} (h : d.Of p) :
    ∀ name ∈ d.fields.name, p name := fun name hn => by
  have field := h.fields ("animation-name", .ofText d.fields.name) List.mem_cons_self
  rw [Option.mem_def.1 hn] at field
  exact field

theorem AnimationDefinition.Of.inline? {p : String → Prop} {d : AnimationDefinition} (h : d.Of p)
    {position : Nat} {a : InlineAnimation} (ha : d.inline? position = some a) : a.Of p := by
  unfold AnimationDefinition.inline? at ha
  split at ha
  · rename_i hi
    cases ha
    exact ⟨h.name, h.keyframes hi⟩
  · cases ha

theorem AnimationItemOf.inlineAnimation? {p : String → Prop} {other : Value → Prop} {item : Value}
    (h : AnimationItemOf p other item) {position : Nat} {a : InlineAnimation}
    (ha : Stylesheet.inlineAnimation? position item = some a) : a.Of p := by
  cases h with
  | definition h => exact h.inline? ha
  | mapping hr h =>
    rw [Stylesheet.inlineAnimation?, hr] at ha
    exact h.inline? ha
  | atom ht =>
    cases item with
    | scalar s | «variable» name property fallback | handle name payload flag => cases ha
    | _ => cases ht

/-- The inline animations of a well-formed node are well-formed. -/
theorem of_mem_nodeAnimations {p : String → Prop} {other : Value → Prop} {fields : List Field}
    (h : ∀ f ∈ ownFields fields, FieldOf p other f) {a : InlineAnimation}
    (ha : a ∈ nodeAnimations fields) : a.Of p := by
  obtain ⟨f, hf, ha⟩ := List.mem_flatMap.1 ha
  unfold fieldAnimations at ha
  split at ha
  · rename_i hk
    have own : f ∈ ownFields fields := by
      refine List.mem_filter.2 ⟨hf, ?_⟩
      simp [holdsRules, hk, animationKey_ne_nestingKey, isPseudoKey_animationKey]
    obtain ⟨item, hi, ha⟩ := List.mem_filterMap.1 ha
    exact ((h f own).animation hk item.1 (List.fst_mem_of_mem_zipIdx hi)).inlineAnimation? ha
  · cases ha

/-! ## Rule sets -/

/-- The selectors that the first part of a pair lists. -/
def listedSelectors : Value → List Value
  | .list items | .tuple items => items
  | v => [v]

/-- Text that satisfies a predicate. -/
def TextOf (p : String → Prop) (v : Value) : Prop := ∃ s, v = .text s ∧ p s

section RuleSets

variable (selector : String → Prop) (field : Field → Prop)

mutual

/-- A style node. Keys without a value do not count. -/
inductive NodeOf : Value → Prop where
  | mapping {entries : List (Value × Value)}
    (h : ∀ e ∈ entries, e.2.isAbsent = false → EntryOf e) : NodeOf (.mapping entries)

/-- An entry of a style node: nested rules under `$`, a node under a pseudo key, or a declaration of
the node's own. -/
inductive EntryOf : Value × Value → Prop where
  | rules {rules : Value} (h : RulesOf rules) : EntryOf (.text nestingKey, rules)
  | pseudo {key : String} {node : Value} (hk : isPseudoKey key = true) (hs : selector ("&" ++ key))
    (h : NodeOf node) : EntryOf (.text key, node)
  | own {key : String} {v : Value} (hk : holdsRules key = false) (h : field (key, v)) :
    EntryOf (.text key, v)

/-- A rule set: a mapping of selectors to nodes, or a sequence of pairs of them. -/
inductive RulesOf : Value → Prop where
  | mapping {entries : List (Value × Value)} (hs : ∀ e ∈ entries, TextOf selector e.1)
    (hn : ∀ e ∈ entries, NodeOf e.2) : RulesOf (.mapping entries)
  | list {items : List Value} (h : ∀ item ∈ items, PairOf item) : RulesOf (.list items)
  | tuple {items : List Value} (h : ∀ item ∈ items, PairOf item) : RulesOf (.tuple items)

/-- A pair of one or more selectors and the node that they share. -/
inductive PairOf : Value → Prop where
  | mk {item first node : Value} (hu : unpackPair item = .ok (first, node))
    (hs : ∀ s ∈ listedSelectors first, TextOf selector s)
    (hn : listedSelectors first ≠ [] → NodeOf node) : PairOf item

end

variable {selector field}

/-! ## Entries and fields -/

/-- A rule of a rule set: its selector is text and its node is well-formed. -/
structure RuleOf (selector : String → Prop) (field : Field → Prop) (e : RuleEntry) : Prop where
  text : TextOf selector e.1
  node : NodeOf selector field e.2

theorem displayAll_of_texts {p : String → Prop} {items : List Value}
    (h : ∀ v ∈ items, TextOf p v) :
    ∃ ts, displayAll items = .ok ts ∧ (∀ t ∈ ts, p t) ∧ (ts ≠ [] → items ≠ []) := by
  induction items with
  | nil => exact ⟨[], rfl, by simp, fun h => absurd rfl h⟩
  | cons v rest ih =>
    obtain ⟨⟨s, rfl, hs⟩, hrest⟩ := List.forall_mem_cons.1 h
    obtain ⟨ts, ht, hts, -⟩ := ih hrest
    refine ⟨s :: ts, Failure.both_eq_ok.2 ⟨s, ts, rfl, ht, rfl⟩, ?_, by simp⟩
    exact List.forall_mem_cons.2 ⟨hs, hts⟩

theorem selectorTexts_of_texts {p : String → Prop} {first : Value}
    (h : ∀ s ∈ listedSelectors first, TextOf p s) : ∃ ts, selectorTexts first = .ok ts ∧
      (∀ t ∈ ts, p t) ∧ (ts ≠ [] → listedSelectors first ≠ []) := by
  cases first with
  | list items | tuple items => exact displayAll_of_texts h
  | scalar s =>
    obtain ⟨t, hv, ht⟩ := h _ (List.mem_singleton_self _)
    cases hv
    exact ⟨[t], rfl, by simpa using ht, by simp [listedSelectors]⟩
  | _ =>
    obtain ⟨t, hv, -⟩ := h _ (List.mem_singleton_self _)
    cases hv

theorem pairEntries_of {items : List Value} (h : ∀ item ∈ items, PairOf selector field item) :
    ∃ entries, pairEntries items = .ok entries ∧ ∀ e ∈ entries, RuleOf selector field e := by
  induction items with
  | nil => exact ⟨[], rfl, by simp⟩
  | cons item rest ih =>
    obtain ⟨⟨hu, hs, hn⟩, hrest⟩ := List.forall_mem_cons.1 h
    rename_i first node
    obtain ⟨more, hm, hmore⟩ := ih hrest
    obtain ⟨ts, ht, hts, hne⟩ := selectorTexts_of_texts hs
    refine ⟨ts.map (fun s => (.text s, node)) ++ more, ?_, fun e he => ?_⟩
    · rw [pairEntries, hu]
      exact Failure.both_eq_ok.2 ⟨ts, more, ht, hm, rfl⟩
    · rcases List.mem_append.1 he with he | he
      · obtain ⟨t, ht, rfl⟩ := List.mem_map.1 he
        exact ⟨⟨t, rfl, hts t ht⟩, hn (hne (List.ne_nil_of_mem ht))⟩
      · exact hmore e he

theorem ruleEntries_of {rules : Value} (h : RulesOf selector field rules) :
    ∃ entries, ruleEntries rules = .ok entries ∧ ∀ e ∈ entries, RuleOf selector field e := by
  cases h with
  | mapping hs hn => exact ⟨_, rfl, fun e he => ⟨hs e he, hn e he⟩⟩
  | list h => exact pairEntries_of h
  | tuple h => exact pairEntries_of h

/-- A field of a node with its key as a value again. -/
def Field.entry (f : Field) : Value × Value := (.text f.1, f.2)

theorem nodeFields_of {entries : List (Value × Value)}
    (h : ∀ e ∈ entries, e.2.isAbsent = false → EntryOf selector field e) :
    ∃ fields, nodeFields entries = .ok fields ∧ ∀ f ∈ fields, EntryOf selector field f.entry := by
  induction entries with
  | nil => exact ⟨[], rfl, by simp⟩
  | cons e rest ih =>
    obtain ⟨key, value⟩ := e
    obtain ⟨he, hrest⟩ := List.forall_mem_cons.1 h
    obtain ⟨fields, hf, hfields⟩ := ih hrest
    rw [nodeFields]
    cases hv : value.isAbsent with
    | true => exact ⟨fields, hf, hfields⟩
    | false =>
      have entry := he hv
      obtain ⟨k, rfl⟩ : ∃ k, key = .text k := by
        cases entry <;> exact ⟨_, rfl⟩
      exact ⟨(k, value) :: fields, Failure.bind_eq_ok.2 ⟨fields, hf, rfl⟩,
        List.forall_mem_cons.2 ⟨entry, hfields⟩⟩

theorem fieldRules_of {f : Field} (h : EntryOf selector field f.entry) :
    ∃ entries, fieldRules f = .ok entries ∧ ∀ e ∈ entries, RuleOf selector field e := by
  obtain ⟨key, v⟩ := f
  rw [Field.entry] at h
  cases h with
  | rules h => exact ruleEntries_of h
  | pseudo hk hs h =>
    exact ⟨_, fieldRules_pseudo hk v, List.forall_mem_singleton.2 ⟨⟨_, rfl, hs⟩, h⟩⟩
  | own hk h =>
    obtain ⟨hn, hp⟩ : key ≠ nestingKey ∧ isPseudoKey key = false := by
      simpa [holdsRules] using hk
    exact ⟨[], by simp [fieldRules, hn, hp], by simp⟩

theorem nestedRules_of {fields : List Field} (h : ∀ f ∈ fields, EntryOf selector field f.entry) :
    ∃ nested, nestedRules fields = .ok nested ∧ ∀ e ∈ nested, RuleOf selector field e := by
  induction fields with
  | nil => exact ⟨[], rfl, by simp⟩
  | cons f rest ih =>
    obtain ⟨hf, hrest⟩ := List.forall_mem_cons.1 h
    obtain ⟨own, ho, hown⟩ := fieldRules_of hf
    obtain ⟨more, hm, hmore⟩ := ih hrest
    exact ⟨own ++ more, nestedRules_cons_eq_ok.2 ⟨own, more, ho, hm, rfl⟩,
      fun e he => (List.mem_append.1 he).elim (hown e) (hmore e)⟩

theorem field_of_mem_ownFields {fields : List Field}
    (h : ∀ f ∈ fields, EntryOf selector field f.entry) {f : Field} (hf : f ∈ ownFields fields) :
    field f := by
  obtain ⟨hm, hk⟩ := List.mem_filter.1 hf
  obtain ⟨key, v⟩ := f
  have entry := h _ hm
  rw [Field.entry] at entry
  cases entry with
  | rules h => simp [holdsRules, nestingKey] at hk
  | pseudo hp hs h => simp [holdsRules, hp] at hk
  | own hk h => exact h

/-! ## Visits -/

/-- What a visit meets is well-formed. -/
structure Visit.Of (selector : String → Prop) (field : Field → Prop) (v : Visit) : Prop where
  path : ∀ s ∈ v.path, selector s
  fields : ∀ f ∈ ownFields v.fields, field f

/-- Well-formed nodes and rules can be visited. -/
theorem visit_of :
    (∀ node, NodeOf selector field node →
      ∃ vs, visitNode node = .ok vs ∧ ∀ v ∈ vs, v.Of selector field) ∧
    (∀ entries, (∀ e ∈ entries, RuleOf selector field e) →
      ∃ vs, visitEntries entries = .ok vs ∧ ∀ v ∈ vs, v.Of selector field) := by
  refine visitNode.mutual_induct _ _ ?_ ?_ ?_ ?_ ?_ ?_ ?_
  -- The fields of a node are there, and so are its nested rules.
  · rintro entries e he ⟨h⟩
    obtain ⟨fields, hf, -⟩ := nodeFields_of h
    cases he.symm.trans hf
  · rintro entries fields hf e he ⟨h⟩
    obtain ⟨fields', hf', hfields⟩ := nodeFields_of h
    cases hf.symm.trans hf'
    obtain ⟨nested, hn, -⟩ := nestedRules_of hfields
    cases he.symm.trans hn
  -- A node and its nested rules.
  · rintro entries fields hf nested hn ih ⟨h⟩
    obtain ⟨fields', hf', hfields⟩ := nodeFields_of h
    cases hf.symm.trans hf'
    obtain ⟨nested', hn', hnested⟩ := nestedRules_of hfields
    cases hn.symm.trans hn'
    obtain ⟨inner, hi, hinner⟩ := ih hnested
    refine ⟨_, visitNode_eq_ok.2 ⟨entries, fields, nested, inner, rfl, hf, hn, hi, rfl⟩, ?_⟩
    have own : ∀ phase, (⟨[], phase, fields⟩ : Visit).Of selector field := fun phase =>
      ⟨by simp, fun f => field_of_mem_ownFields hfields⟩
    rw [List.cons_append, List.forall_mem_cons, List.forall_mem_append, List.forall_mem_singleton]
    exact ⟨own .entering, hinner, own .leaving⟩
  -- No node.
  · rintro node hnode ⟨h⟩
    exact absurd rfl (hnode _)
  -- No rules.
  · intro _
    exact ⟨[], by rw [visitEntries], by simp⟩
  -- A selector that is not text.
  · intro s node rest hs h
    obtain ⟨⟨⟨t, rfl, -⟩, -⟩, -⟩ := List.forall_mem_cons.1 h
    cases hs
  -- A rule and those after it.
  · intro s node rest t hs ihn ihr h
    obtain rfl := text?_eq_some.1 hs
    obtain ⟨⟨⟨_, he, ht⟩, hnode⟩, hrest⟩ := List.forall_mem_cons.1 h
    cases he
    obtain ⟨own, ho, hown⟩ := ihn hnode
    obtain ⟨more, hm, hmore⟩ := ihr hrest
    refine ⟨_, visitEntries_cons_eq_ok.2 ⟨_, own, more, rfl, ho, hm, rfl⟩, fun v hv => ?_⟩
    rcases List.mem_append.1 hv with hv | hv
    · obtain ⟨w, hw, rfl⟩ := List.mem_map.1 hv
      exact ⟨List.forall_mem_cons.2 ⟨ht, (hown w hw).path⟩, (hown w hw).fields⟩
    · exact hmore v hv

/-- The nodes of a well-formed rule set can be visited, and every visit meets selectors and
declarations of it. -/
theorem visits_of_rulesOf {rules : Value} (h : RulesOf selector field rules) :
    ∃ vs, visits rules = .ok vs ∧ ∀ v ∈ vs, v.Of selector field := by
  obtain ⟨entries, he, hentries⟩ := ruleEntries_of h
  obtain ⟨vs, hv, hvs⟩ := visit_of.2 entries hentries
  exact ⟨vs, Failure.bind_eq_ok.2 ⟨entries, he, hv⟩, hvs⟩

end RuleSets
end Stylesheet
