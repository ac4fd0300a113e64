import Stylesheet.Proofs.KeyframesNames
import Stylesheet.Proofs.Paths
/-!
# Inline animations beside their rule

The rule that declares an animation and the blocks that its inline items get are made apart: the
shorthand is written with the names, and the keyframes are placed after the nested rules. Both come
to the same names (`exists_animated_of_compileNode`).
-/

namespace Stylesheet

/-! ## The shorthand -/

/-- The texts of the sub-properties beside the name, in order. -/
def AnimationFields.remaining (f : AnimationFields) : List String :=
  (f.properties.tail.filterMap fun p => formatScalar p.1 p.2).filter (· ≠ "")

/-- The shorthand of an animation starts with its name. -/
theorem AnimationFields.shorthand_of_name {f : AnimationFields} {name : String}
    (h : f.name = some name) (hne : name ≠ "") :
    f.shorthand = " ".intercalate (name :: f.remaining) := by
  have text : formatScalar "animation-name" (.ofText f.name) = some name := by
    rw [h]
    rfl
  rw [shorthand, remaining, properties, List.filterMap_cons, text]
  simp only [List.tail_cons]
  rw [List.filter_cons_of_pos (by simpa using hne)]

theorem Ledger.nameAt_ne_empty (base : String) (i : Nat) : nameAt base i ≠ "" := by
  simp [nameAt]

/-! ## Items of an animation value -/

/-- The definition that a value is or reads as. -/
def Value.definition? : Value → Option AnimationDefinition
  | .mapping entries => (AnimationDefinition.ofEntries entries).toOption
  | .animation fields keyframes => some { fields, keyframes }
  | _ => none

theorem inlineAnimation?_eq (position : Nat) (v : Value) :
    inlineAnimation? position v = v.definition?.bind (·.inline? position) := by
  cases v <;> rfl

theorem ofItem_of_definition {v : Value} {d : AnimationDefinition} (h : v.definition? = some d)
    (selector : String) (position : Nat) :
    ResolvedAnimation.ofItem selector position v =
      ResolvedAnimation.writeDefinition selector position d := by
  unfold Value.definition? at h
  split at h
  · rename_i entries
    rw [ResolvedAnimation.ofItem]
    cases he : AnimationDefinition.ofEntries entries with
    | error e => simp [he, Except.toOption] at h
    | ok d' =>
      rw [he] at h
      cases h
      rfl
  · cases h
    rfl
  · cases h

/-- The part of the shorthand for an inline definition: the name that it gets, then the texts of its
other sub-properties. -/
theorem value_ofDefinition_inline {d : AnimationDefinition} (h : d.isInline = true)
    (selector : String) (position : Nat) :
    (ResolvedAnimation.ofDefinition selector position d).value =
      " ".intercalate (inlineName d.fields.name selector position :: d.fields.remaining) := by
  rw [ResolvedAnimation.ofDefinition, if_pos h]
  exact AnimationFields.shorthand_of_name rfl (Ledger.nameAt_ne_empty _ position)

theorem ofItems_getElem? {selector : String} {position : Nat} {items : List Value}
    {animations : List ResolvedAnimation}
    (h : ResolvedAnimation.ofItems selector position items = .ok animations) :
    animations.length = items.length ∧ ∀ i item, items[i]? = some item → ∃ a,
      animations[i]? = some a ∧ ResolvedAnimation.ofItem selector (position + i) item = .ok a := by
  induction items generalizing position animations with
  | nil =>
    cases h
    exact ⟨rfl, nofun⟩
  | cons v rest ih =>
    obtain ⟨a, more, ha, hm, rfl⟩ := Failure.both_eq_ok.1 h
    obtain ⟨hl, hi⟩ := ih hm
    refine ⟨congrArg (· + 1) hl, fun i item hitem => ?_⟩
    cases i with
    | zero =>
      cases hitem
      exact ⟨a, rfl, ha⟩
    | succ i =>
      obtain ⟨b, hb, hob⟩ := hi i item hitem
      exact ⟨b, hb, by rwa [Nat.add_right_comm] at hob⟩

/-- A value resolves to its items, joined. -/
theorem resolveAnimation_eq (selector : String) (v : Value) :
    resolveAnimation selector v =
      do return .join (← ResolvedAnimation.ofItems selector 0 (animationItems v)) := by
  unfold resolveAnimation
  split
  · rfl
  · rfl
  · rename_i hl ht
    have items : animationItems v = [v] := by
      cases v <;> first | rfl | exact absurd rfl (hl _) | exact absurd rfl (ht _)
    rw [items, ResolvedAnimation.ofItems, ResolvedAnimation.ofItems]
    cases ResolvedAnimation.ofItem selector 0 v with
    | error e => rfl
    | ok a =>
      show Except.ok a = Except.ok (ResolvedAnimation.join [a])
      simp [ResolvedAnimation.join]

/-- The inline animations of a value are its inline items, each with its index. -/
theorem mem_inlineAnimations {v : Value} {a : InlineAnimation} :
    a ∈ inlineAnimations v ↔ ∃ i item d, (animationItems v)[i]? = some item ∧
      item.definition? = some d ∧ d.isInline = true ∧ a = ⟨d.fields.name, i, d.keyframes⟩ := by
  simp only [inlineAnimations, List.mem_filterMap, inlineAnimation?_eq, Option.bind_eq_some_iff,
    AnimationDefinition.inline?, Option.ite_none_right_eq_some, Option.some.injEq]
  constructor
  · rintro ⟨⟨item, i⟩, hm, d, hd, hi, rfl⟩
    exact ⟨i, item, d, List.mem_zipIdx_iff_getElem?.1 hm, hd, hi, rfl⟩
  · rintro ⟨i, item, d, hitem, hd, hi, rfl⟩
    exact ⟨(item, i), List.mem_zipIdx_iff_getElem?.2 hitem, d, hd, hi, rfl⟩

/-- The inline animations of a value come in the order of their positions. -/
theorem inlineAnimations_ordered (v : Value) :
    (inlineAnimations v).Pairwise fun a b => a.position < b.position := by
  have indexed : (animationItems v).zipIdx.Pairwise fun a b => a.2 < b.2 := by
    rw [← List.pairwise_map (f := Prod.snd) (R := (· < ·)), List.zipIdx_map_snd]
    exact List.pairwise_lt_range'
  have own {position : Nat} {item : Value} {a : InlineAnimation}
      (h : inlineAnimation? position item = some a) : a.position = position := by
    rw [inlineAnimation?_eq, Option.bind_eq_some_iff] at h
    obtain ⟨d, -, h⟩ := h
    unfold AnimationDefinition.inline? at h
    split at h
    · cases h
      rfl
    · cases h
  refine List.pairwise_filterMap.2 (indexed.imp fun hlt a ha b hb => ?_)
  rwa [own ha, own hb]

/-- The inline animations of a value get different names in a rule. -/
theorem inlineAnimations_names_nodup (selector : String) (v : Value) :
    ((inlineAnimations v).map (·.name selector)).Nodup := by
  refine List.pairwise_map.2 ((inlineAnimations_ordered v).imp fun {a b} hlt he => ?_)
  simp only [InlineAnimation.name, inlineName_eq_nameAt, Ledger.nameAt_inj] at he
  omega

/-! ## A rule and its blocks -/

/-- A text is the block of keyframes with a name; its first line says the name. -/
structure IsKeyframes (name : String) (set : Value) (block : String) : Prop where
  text : ∃ log, keyframesBlock name set keyframeIndent = ⟨log, .ok block⟩
  named : ∃ lines, block = "\n".intercalate (("@keyframes " ++ name ++ " \x7b") :: lines)

theorem isKeyframes_of_block {name block : String} {set : Value} {log : List LogRecord}
    (h : keyframesBlock name set keyframeIndent = ⟨log, .ok block⟩) :
    IsKeyframes name set block := by
  refine ⟨⟨log, h⟩, ?_⟩
  unfold keyframesBlock at h
  split at h
  · obtain ⟨lines, -, rfl⟩ := Logged.map_eq_ok.1 h
    exact ⟨_, rfl⟩
  · exact absurd h Logged.fail_ne_ok

/-- A rule declares an animation value, and blocks define the names that it declares. -/
structure Animated (selector : String) (v : Value) (rule : String) (blocks : List String) :
    Prop where
  /-- One block for each inline animation, in order. -/
  count : blocks.length = (inlineAnimations v).length
  defined : ∀ (k : Nat) (a : InlineAnimation), (inlineAnimations v)[k]? = some a →
    ∃ block, blocks[k]? = some block ∧ IsKeyframes (a.name selector) a.keyframes block
  distinct : ((inlineAnimations v).map (·.name selector)).Nodup
  /-- One part for each item; that of an inline one starts with its name. -/
  declared : ∃ texts parts, rule = Selector.block selector (" ".intercalate texts) ∧
    "animation: " ++ ", ".intercalate parts ++ ";" ∈ texts ∧
    parts.length = (animationItems v).length ∧
    ∀ (i : Nat) (item : Value) (d : AnimationDefinition), (animationItems v)[i]? = some item →
      item.definition? = some d → parts[i]? = some (if d.isInline then
        " ".intercalate (inlineName d.fields.name selector i :: d.fields.remaining)
        else d.fields.shorthand)

theorem Logged.forEach_getElem? {α β : Type} {f : α → Logged β} {as : List α}
    {log : List LogRecord} {bs : List β} (h : forEach f as = ⟨log, .ok bs⟩) :
    bs.length = as.length ∧ ∀ (i : Nat) (a : α), as[i]? = some a →
      ∃ b l, bs[i]? = some b ∧ f a = ⟨l, .ok b⟩ := by
  induction as generalizing log bs with
  | nil =>
    obtain ⟨-, rfl⟩ := pure_eq_ok.1 h
    exact ⟨rfl, nofun⟩
  | cons a rest ih =>
    obtain ⟨l, b, m, more, hb, hm, -, rfl⟩ := forEach_cons_eq_ok.1 h
    obtain ⟨hl, hi⟩ := ih hm
    refine ⟨congrArg (· + 1) hl, fun i c hc => ?_⟩
    cases i with
    | zero =>
      cases hc
      exact ⟨b, l, rfl, hb⟩
    | succ i => exact hi i c hc

/-- An animation that is declared has a text among those of the declarations. -/
theorem mem_declarationTexts {declarations : List Declaration} {texts : List String}
    (h : declarationTexts declarations = .ok texts) {value : String}
    (hm : (animationKey, .text value) ∈ declarations) : "animation: " ++ value ++ ";" ∈ texts := by
  induction declarations generalizing texts with
  | nil => cases hm
  | cons d rest ih =>
    obtain ⟨own, more, ho, hmore, rfl⟩ := Failure.both_eq_ok.1 h
    rcases List.mem_cons.1 hm with rfl | hm
    · have text : declarationText? animationKey (.text value) =
          .ok (some (Casing.kebab animationKey ++ ": " ++ value ++ ";")) := rfl
      have property : Casing.kebab animationKey ++ ": " = "animation: " := by decide
      rw [property] at text
      cases ho.symm.trans text
      exact List.mem_append_left _ List.mem_cons_self
    · exact List.mem_append_right _ (ih hmore hm)

/-- The rule of a node that declares an animation has its text in the body. -/
theorem exists_rule_of_ownRule {selector : String} {declarations : List Declaration}
    {own : List String} (h : ownRule selector declarations = .ok own) {value : String}
    (hm : (animationKey, .text value) ∈ declarations) : ∃ texts,
      own = [Selector.block selector (" ".intercalate texts)] ∧
        "animation: " ++ value ++ ";" ∈ texts := by
  obtain ⟨body, hb, h⟩ := Failure.bind_eq_ok.1 h
  obtain ⟨texts, ht, hbody⟩ := Failure.bind_eq_ok.1 hb
  cases hbody
  have text := mem_declarationTexts ht hm
  have hne : " ".intercalate texts ≠ "" := by
    rintro he
    match texts, text, he with
    | [t], text, he =>
      cases List.mem_singleton.1 text
      simp at he
    | t :: u :: more, _, he => simp [String.intercalate_cons_cons] at he
  rw [if_neg hne] at h
  cases h
  exact ⟨texts, rfl, text⟩

theorem exists_of_mem_mapM {α β : Type} {f : α → Except Failure β} {as : List α} {bs : List β}
    (h : as.mapM f = .ok bs) {a : α} (ha : a ∈ as) : ∃ b ∈ bs, f a = .ok b := by
  induction as generalizing bs with
  | nil => cases ha
  | cons c rest ih =>
    rw [List.mapM_cons, Failure.both_eq_ok] at h
    obtain ⟨b, more, hb, hm, rfl⟩ := h
    rcases List.mem_cons.1 ha with rfl | ha
    · exact ⟨b, List.mem_cons_self, hb⟩
    · obtain ⟨x, hx, hax⟩ := ih hm ha
      exact ⟨x, List.mem_cons_of_mem _ hx, hax⟩

theorem nodeAnimations_eq (fields : List Field) : nodeAnimations fields =
    (fields.filter (·.1 = animationKey)).flatMap fun f => inlineAnimations f.2 := by
  induction fields with
  | nil => rfl
  | cons f rest ih =>
    rw [nodeAnimations, List.flatMap_cons, ← nodeAnimations, ih, fieldAnimations]
    by_cases h : f.1 = animationKey <;> simp [h]

/-- What the nested rules of a node come to in a rule with this selector. -/
def CompiledNested (selector : String) (fields : List Field) (rules : List String) : Prop :=
  ∃ entries log, nestedRules fields = .ok entries ∧
    compileEntries selector entries = ⟨log, .ok rules⟩

/-- A node with one animation value gives a rule that declares it, then its nested rules, then the
blocks of its inline animations. -/
theorem exists_animated_of_compileNode {selector : String} {entries : List (Value × Value)}
    {fields : List Field} {v : Value} {log : List LogRecord} {out : List String}
    (h : compileNode selector (.mapping entries) = ⟨log, .ok out⟩)
    (hf : nodeFields entries = .ok fields)
    (hv : fields.filter (·.1 = animationKey) = [(animationKey, v)]) :
    ∃ rule nested blocks, out = rule :: nested ++ blocks ∧
      CompiledNested selector fields nested ∧ Animated selector v rule blocks := by
  obtain ⟨parts, own, l, nested, m, blocks, hs, ho, hc, hb, -, rfl⟩ := compileNode_eq_ok.1 h
  obtain ⟨fields', hf', hp⟩ := splitEntries_eq_ok.1 hs
  obtain rfl : fields = fields' := Except.ok.inj (hf.symm.trans hf')
  have animated : (animationKey, v) ∈ ownFields fields := by
    have hm : (animationKey, v) ∈ fields.filter (·.1 = animationKey) :=
      hv ▸ List.mem_singleton_self _
    exact List.mem_filter.2 ⟨(List.mem_filter.1 hm).1,
      by simp [holdsRules, animationKey_ne_nestingKey, isPseudoKey_animationKey]⟩
  obtain ⟨d, hd, hdeclared⟩ := exists_of_mem_mapM hp.declarations animated
  obtain ⟨a, ha, hda⟩ := Failure.bind_eq_ok.1 ((if_pos rfl).symm.trans hdeclared)
  cases hda
  rw [resolveAnimation_eq] at ha
  obtain ⟨items, hi, hja⟩ := Failure.bind_eq_ok.1 ha
  cases hja
  obtain ⟨texts, rfl, ht⟩ := exists_rule_of_ownRule ho hd
  have inline : nodeAnimations fields = inlineAnimations v := by
    rw [nodeAnimations_eq, hv, List.flatMap_singleton]
  rw [hp.keyframes, inline, inlineKeyframes, Logged.forEach_map] at hb
  obtain ⟨count, defined⟩ := Logged.forEach_getElem? hb
  obtain ⟨hl, hparts⟩ := ofItems_getElem? hi
  refine ⟨_, nested, blocks, rfl, ⟨_, l, hp.nested, hc⟩, count, fun k a hk => ?_,
    inlineAnimations_names_nodup selector v, texts, items.map ResolvedAnimation.value, rfl, ht,
    by simpa using hl, fun i item d hitem hd => ?_⟩
  · obtain ⟨block, l, hblock, hk⟩ := defined k a hk
    exact ⟨block, hblock, isKeyframes_of_block hk⟩
  · obtain ⟨part, hpart, hof⟩ := hparts i item hitem
    rw [ofItem_of_definition hd, Nat.zero_add] at hof
    obtain ⟨-, rfl⟩ := Failure.unlessTooLong_eq_ok.1 hof
    rw [List.getElem?_map, hpart]
    cases hinl : d.isInline with
    | true =>
      rw [if_pos rfl, ← value_ofDefinition_inline hinl]
      rfl
    | false =>
      rw [if_neg Bool.false_ne_true]
      simp [ResolvedAnimation.ofDefinition, hinl]

end Stylesheet
