import Stylesheet.Compile
import Stylesheet.Proofs.Formatting
/-!
# The fields of a style node

A node is a list of fields, the entries whose value is there. What it contributes is read off the
fields one by one: its own declarations, its nested rules, and its inline animations.
`splitEntries_eq_ok` says that splitting a node gives exactly these.
-/

namespace Stylesheet

/-- A key of a style node and the value under it. -/
abbrev Field := String × Value

/-! ## Inline animations -/

/-- An animation whose keyframes are placed beside the rule that uses it. -/
structure InlineAnimation where
  ownName : Option String
  position : Nat
  keyframes : Value

/-- The name that an inline animation gets in a rule. -/
def InlineAnimation.name (selector : String) (a : InlineAnimation) : String :=
  inlineName a.ownName selector a.position

/-- A definition at a position of an animation value, if it is inline. -/
def AnimationDefinition.inline? (position : Nat) (d : AnimationDefinition) :
    Option InlineAnimation :=
  if d.isInline then some { ownName := d.fields.name, position, keyframes := d.keyframes }
  else none

/-- An item at a position of an animation value, if it is or reads as an inline animation. -/
def inlineAnimation? (position : Nat) : Value → Option InlineAnimation
  | .mapping entries => (AnimationDefinition.ofEntries entries).toOption.bind (·.inline? position)
  | .animation fields keyframes => AnimationDefinition.inline? position { fields, keyframes }
  | _ => none

/-- The animations that an animation value lists. -/
def animationItems : Value → List Value
  | .list items | .tuple items => items
  | v => [v]

/-- The inline animations of an animation value, in order. -/
def inlineAnimations (v : Value) : List InlineAnimation :=
  (animationItems v).zipIdx.filterMap fun item => inlineAnimation? item.2 item.1

/-- An inline animation as it is placed beside a rule. -/
def InlineAnimation.placed (selector : String) (a : InlineAnimation) : String × Value :=
  (a.name selector, a.keyframes)

theorem keyframes_ofDefinition (selector : String) (position : Nat) (d : AnimationDefinition) :
    (ResolvedAnimation.ofDefinition selector position d).keyframes =
      (d.inline? position).toList.map (·.placed selector) := by
  unfold ResolvedAnimation.ofDefinition AnimationDefinition.inline?
  split <;> rfl

theorem keyframes_ofItem {selector : String} {position : Nat} {v : Value} {a : ResolvedAnimation}
    (h : ResolvedAnimation.ofItem selector position v = .ok a) :
    a.keyframes = (inlineAnimation? position v).toList.map (·.placed selector) := by
  unfold ResolvedAnimation.ofItem at h
  split at h
  · obtain ⟨d, hd, h⟩ := Failure.bind_eq_ok.1 h
    obtain ⟨-, rfl⟩ := Failure.unlessTooLong_eq_ok.1 h
    simp [inlineAnimation?, hd, Except.toOption, keyframes_ofDefinition]
  · obtain ⟨-, rfl⟩ := Failure.unlessTooLong_eq_ok.1 h
    exact keyframes_ofDefinition ..
  · rename_i hm ha
    obtain ⟨text, -, h⟩ := Failure.bind_eq_ok.1 h
    cases h
    cases v <;> first | rfl | exact absurd rfl (hm _) | exact absurd rfl (ha _ _)

theorem keyframes_ofItems {selector : String} {position : Nat} {items : List Value}
    {animations : List ResolvedAnimation}
    (h : ResolvedAnimation.ofItems selector position items = .ok animations) :
    animations.flatMap ResolvedAnimation.keyframes =
      ((items.zipIdx position).filterMap fun item => inlineAnimation? item.2 item.1).map
        (·.placed selector) := by
  induction items generalizing position animations with
  | nil =>
    cases h
    rfl
  | cons v rest ih =>
    obtain ⟨a, ha, h⟩ := Failure.bind_eq_ok.1 h
    obtain ⟨more, hm, h⟩ := Failure.bind_eq_ok.1 h
    cases h
    rw [List.flatMap_cons, ih hm, keyframes_ofItem ha, List.zipIdx_cons, List.filterMap_cons]
    cases inlineAnimation? position v <;> rfl

/-- Resolving an animation value places its inline animations beside the rule. -/
theorem keyframes_resolveAnimation {selector : String} {v : Value} {a : ResolvedAnimation}
    (h : resolveAnimation selector v = .ok a) :
    a.keyframes = (inlineAnimations v).map (·.placed selector) := by
  have single : ∀ {v a}, ResolvedAnimation.ofItem selector 0 v = .ok a →
      a.keyframes = (([v].zipIdx 0).filterMap fun item => inlineAnimation? item.2 item.1).map
        (·.placed selector) := fun {v a} h => by
    rw [keyframes_ofItem h]
    cases hv : inlineAnimation? 0 v <;> simp [hv]
  unfold resolveAnimation at h
  split at h
  case h_1 | h_2 =>
    obtain ⟨animations, ha, h⟩ := Failure.bind_eq_ok.1 h
    cases h
    exact keyframes_ofItems ha
  case h_3 hl ht =>
    have items : animationItems v = [v] := by
      cases v <;> first | rfl | exact absurd rfl (hl _) | exact absurd rfl (ht _)
    rw [inlineAnimations, items]
    exact single h

/-! ## Fields -/

/-- The fields of a style node: the entries whose value is there. -/
def nodeFields : List (Value × Value) → Except Failure (List Field)
  | [] => .ok []
  | (key, value) :: rest =>
    if value.isAbsent then nodeFields rest
    else match key.text? with
      | none => .error .keyNotText
      | some key => do
        let more ← nodeFields rest
        return (key, value) :: more

/-- Whether a key holds nested rules. -/
def holdsRules (key : String) : Bool := key == nestingKey || isPseudoKey key

/-- The fields that declare something for the node itself. -/
def ownFields (fields : List Field) : List Field := fields.filter fun f => !holdsRules f.1

/-- What a field declares in a rule: its value, or the shorthand of its animation. -/
def declared (selector : String) (f : Field) : Except Failure Declaration :=
  if f.1 = animationKey then do
    let animation ← resolveAnimation selector f.2
    return (f.1, .text animation.value)
  else .ok f

/-- A field declares the text of its animation, or itself. -/
theorem declared_cases {selector : String} {f : Field} {d : Declaration}
    (h : declared selector f = .ok d) :
    (f.1 = animationKey ∧ ∃ t, d = (f.1, .text t)) ∨ (f.1 ≠ animationKey ∧ d = f) := by
  unfold declared at h
  split at h
  · rename_i hk
    obtain ⟨animation, -, h⟩ := Failure.bind_eq_ok.1 h
    cases h
    exact .inl ⟨hk, animation.value, rfl⟩
  · rename_i hk
    cases h
    exact .inr ⟨hk, rfl⟩

/-- The nested rules that a field holds. -/
def fieldRules (f : Field) : Except Failure (List RuleEntry) :=
  if f.1 = nestingKey then ruleEntries f.2
  else if isPseudoKey f.1 then .ok [(.text ("&" ++ f.1), f.2)]
  else .ok []

/-- The nested rules of a node, in the order of its fields. -/
def nestedRules : List Field → Except Failure (List RuleEntry)
  | [] => .ok []
  | f :: rest => do
    let own ← fieldRules f
    let more ← nestedRules rest
    return own ++ more

/-- The inline animations of a field. -/
def fieldAnimations (f : Field) : List InlineAnimation :=
  if f.1 = animationKey then inlineAnimations f.2 else []

/-- The inline animations of a node, in the order of its fields. -/
def nodeAnimations (fields : List Field) : List InlineAnimation := fields.flatMap fieldAnimations

/-- A node's parts are what its fields declare, nest and animate. -/
structure PartsOf (selector : String) (fields : List Field) (parts : NodeParts) : Prop where
  declarations : (ownFields fields).mapM (declared selector) = .ok parts.declarations
  nested : nestedRules fields = .ok parts.nested
  keyframes : parts.keyframes = (nodeAnimations fields).map (·.placed selector)

/-! ## Splitting a node -/

/-- Two results are put together if both are there. -/
theorem Failure.both_eq_ok {α β γ : Type} {x : Except Failure α} {y : Except Failure β}
    {g : α → β → γ} {c : γ} :
    (do let a ← x; let b ← y; return g a b) = .ok c ↔ ∃ a b, x = .ok a ∧ y = .ok b ∧ c = g a b := by
  constructor
  · intro h
    obtain ⟨a, ha, h⟩ := Failure.bind_eq_ok.1 h
    obtain ⟨b, hb, h⟩ := Failure.bind_eq_ok.1 h
    cases h
    exact ⟨a, b, ha, hb, rfl⟩
  · rintro ⟨a, b, ha, hb, rfl⟩
    exact Failure.bind_eq_ok.2 ⟨a, ha, Failure.bind_eq_ok.2 ⟨b, hb, rfl⟩⟩

theorem mapM_append_eq_ok {α β : Type} {f : α → Except Failure β} {as rest : List α}
    {bs : List β} : (as ++ rest).mapM f = .ok bs ↔
      ∃ own more, as.mapM f = .ok own ∧ rest.mapM f = .ok more ∧ bs = own ++ more := by
  rw [List.mapM_append]
  exact Failure.both_eq_ok

theorem nestedRules_cons_eq_ok {f : Field} {rest : List Field} {entries : List RuleEntry} :
    nestedRules (f :: rest) = .ok entries ↔
      ∃ own more, fieldRules f = .ok own ∧ nestedRules rest = .ok more ∧ entries = own ++ more :=
  Failure.both_eq_ok

theorem isPseudoKey_animationKey : isPseudoKey animationKey = false := by decide

theorem animationKey_ne_nestingKey : animationKey ≠ nestingKey := by decide

theorem nestingKey_ne_animationKey : nestingKey ≠ animationKey := by decide

theorem ownFields_animation (v : Value) : ownFields [(animationKey, v)] = [(animationKey, v)] := by
  simp [ownFields, holdsRules, animationKey_ne_nestingKey, isPseudoKey_animationKey]

theorem nestedRules_own {key : String} (h : holdsRules key = false) (v : Value) :
    nestedRules [(key, v)] = .ok [] := by
  obtain ⟨hn, hp⟩ : key ≠ nestingKey ∧ isPseudoKey key = false := by simpa [holdsRules] using h
  simp only [nestedRules, fieldRules, hn, hp, if_false, Bool.false_eq_true]
  rfl

theorem isPseudoKey_nestingKey : isPseudoKey nestingKey = false := by decide

theorem fieldRules_pseudo {key : String} (h : isPseudoKey key = true) (v : Value) :
    fieldRules (key, v) = .ok [(.text ("&" ++ key), v)] := by
  have hn : key ≠ nestingKey := by
    rintro rfl
    simp [isPseudoKey_nestingKey] at h
  simp [fieldRules, hn, h]

theorem nestedRules_pseudo {key : String} (h : isPseudoKey key = true) (v : Value) :
    nestedRules [(key, v)] = .ok [(.text ("&" ++ key), v)] := by
  rw [nestedRules, fieldRules_pseudo h]
  rfl

theorem nestedRules_animation (v : Value) : nestedRules [(animationKey, v)] = .ok [] :=
  nestedRules_own (by decide) v

theorem splitEntry_of_absent {selector : String} {key value : Value}
    (h : value.isAbsent = true) : splitEntry selector key value = .ok {} := by
  rw [splitEntry, h]
  rfl

/-- An entry whose value is there contributes what its field declares, nests and animates. -/
theorem splitEntry_eq {selector key : String} {value : Value} (hv : value.isAbsent = false) :
    splitEntry selector (.text key) value = do
      let declarations ← (ownFields [(key, value)]).mapM (declared selector)
      let nested ← fieldRules (key, value)
      return { declarations, nested,
               keyframes := (fieldAnimations (key, value)).map (·.placed selector) } := by
  simp only [splitEntry, hv, Bool.false_eq_true, if_false, Value.text?, fieldRules, fieldAnimations]
  -- A key holds rules under `$`, or rules under a pseudo key, or it declares something.
  by_cases hn : key = nestingKey
  · subst hn
    simp only [ownFields, holdsRules, nestingKey_ne_animationKey, if_true, if_false]
    rfl
  by_cases hp : isPseudoKey key = true
  · have ha : key ≠ animationKey := by
      rintro rfl
      simp [isPseudoKey_animationKey] at hp
    simp only [ownFields, holdsRules, hn, hp, ha, if_true, if_false]
    simp only [hp, Bool.or_true, List.filter, Bool.not_true]
    rfl
  have own : ownFields [(key, value)] = [(key, value)] := by
    simp [ownFields, holdsRules, hn, hp]
  rw [own, List.mapM_cons]
  by_cases ha : key = animationKey
  · subst ha
    simp only [declared, hn, hp, if_true, if_false]
    cases hr : resolveAnimation selector value with
    | error e => rfl
    | ok animation =>
      show Except.ok _ = Except.ok _
      rw [keyframes_resolveAnimation hr]
      rfl
  · simp only [declared, hn, hp, ha, if_false]
    rfl

theorem ownFields_cons (f : Field) (rest : List Field) :
    ownFields (f :: rest) = ownFields [f] ++ ownFields rest :=
  List.filter_append [f] rest

/-- The parts of a node are those of its first field, then those of the others. -/
theorem partsOf_cons {selector key : String} {value : Value} {rest : List Field}
    {parts : NodeParts} (hv : value.isAbsent = false) :
    PartsOf selector ((key, value) :: rest) parts ↔
      ∃ own more, splitEntry selector (.text key) value = .ok own ∧ PartsOf selector rest more ∧
        parts = own ++ more := by
  rw [splitEntry_eq hv]
  constructor
  · intro h
    have hd := h.declarations
    rw [ownFields_cons, mapM_append_eq_ok] at hd
    obtain ⟨d, ds, hd, hds, hdecl⟩ := hd
    obtain ⟨n, ns, hn, hns, hnest⟩ := nestedRules_cons_eq_ok.1 h.nested
    have hk := h.keyframes
    rw [nodeAnimations, List.flatMap_cons, List.map_append] at hk
    refine ⟨_, ⟨ds, ns, (nodeAnimations rest).map (·.placed selector)⟩,
      Failure.both_eq_ok.2 ⟨d, n, hd, hn, rfl⟩, ⟨hds, hns, rfl⟩, ?_⟩
    obtain ⟨declarations, nested, keyframes⟩ := parts
    obtain ⟨rfl, rfl, rfl⟩ : declarations = _ ∧ nested = _ ∧ keyframes = _ := ⟨hdecl, hnest, hk⟩
    rfl
  · rintro ⟨own, more, ho, hm, rfl⟩
    obtain ⟨d, n, hd, hn, rfl⟩ := Failure.both_eq_ok.1 ho
    refine ⟨?_, nestedRules_cons_eq_ok.2 ⟨n, more.nested, hn, hm.nested, rfl⟩, ?_⟩
    · rw [ownFields_cons]
      exact mapM_append_eq_ok.2 ⟨d, more.declarations, hd, hm.declarations, rfl⟩
    · rw [nodeAnimations, List.flatMap_cons, List.map_append]
      show _ ++ more.keyframes = _
      rw [hm.keyframes]
      rfl

/-- Splitting a node gives what its fields declare, nest and animate. -/
theorem splitEntries_eq_ok {selector : String} {entries : List (Value × Value)}
    {parts : NodeParts} : splitEntries selector entries = .ok parts ↔
      ∃ fields, nodeFields entries = .ok fields ∧ PartsOf selector fields parts := by
  induction entries generalizing parts with
  | nil =>
    constructor
    · intro h
      cases h
      exact ⟨[], rfl, rfl, rfl, rfl⟩
    · rintro ⟨_, hf, h⟩
      cases hf
      have hd := h.declarations
      have hn := h.nested
      have hk := h.keyframes
      obtain ⟨declarations, nested, keyframes⟩ := parts
      cases hd
      cases hn
      cases hk
      rfl
  | cons e rest ih =>
    obtain ⟨key, value⟩ := e
    have split : splitEntries selector ((key, value) :: rest) = .ok parts ↔
        ∃ own more, splitEntry selector key value = .ok own ∧
          splitEntries selector rest = .ok more ∧ parts = own ++ more := Failure.both_eq_ok
    rw [split]
    cases hv : value.isAbsent with
    | true =>
      simp only [splitEntry, nodeFields, hv, if_true]
      constructor
      · rintro ⟨own, more, ho, hm, rfl⟩
        cases ho
        exact ih.1 hm
      · intro h
        exact ⟨{}, parts, rfl, ih.2 h, rfl⟩
    | false =>
      cases hk : key.text? with
      | none => simp [splitEntry, nodeFields, hv, hk]
      | some k =>
        obtain rfl := text?_eq_some.1 hk
        simp only [nodeFields, hv, hk, Bool.false_eq_true, if_false]
        constructor
        · rintro ⟨own, more, ho, hm, rfl⟩
          obtain ⟨fields, hf, hp⟩ := ih.1 hm
          exact ⟨(k, value) :: fields, Failure.bind_eq_ok.2 ⟨fields, hf, rfl⟩,
            (partsOf_cons hv).2 ⟨own, more, ho, hp, rfl⟩⟩
        · rintro ⟨_, hf, hp⟩
          obtain ⟨fields, hrest, he⟩ := Failure.bind_eq_ok.1 hf
          cases he
          obtain ⟨own, more, ho, hm, rfl⟩ := (partsOf_cons hv).1 hp
          exact ⟨own, more, ho, ih.2 ⟨fields, hrest, hm⟩, rfl⟩

/-! ## Fields and the entries they come from -/

theorem nodeFields_cons_eq_ok {key value : Value} {rest : List (Value × Value)}
    {fields : List Field} (h : nodeFields ((key, value) :: rest) = .ok fields) :
    (value.isAbsent = true ∧ nodeFields rest = .ok fields) ∨
      ∃ k more, value.isAbsent = false ∧ key = .text k ∧ nodeFields rest = .ok more ∧
        fields = (k, value) :: more := by
  rw [nodeFields] at h
  cases hv : value.isAbsent with
  | true =>
    rw [hv] at h
    exact .inl ⟨rfl, h⟩
  | false =>
    cases hk : key.text? with
    | none => simp [hv, hk] at h
    | some k =>
      simp only [hv, hk, Bool.false_eq_true, if_false] at h
      obtain ⟨more, hm, he⟩ := Failure.bind_eq_ok.1 h
      cases he
      exact .inr ⟨k, more, rfl, text?_eq_some.1 hk, hm, rfl⟩

/-- The value of a field is there. -/
theorem isAbsent_of_mem_nodeFields {entries : List (Value × Value)} {fields : List Field}
    (h : nodeFields entries = .ok fields) {f : Field} (hf : f ∈ fields) :
    f.2.isAbsent = false := by
  induction entries generalizing fields with
  | nil =>
    cases h
    cases hf
  | cons e rest ih =>
    rcases nodeFields_cons_eq_ok h with ⟨-, hr⟩ | ⟨k, more, hv, -, hr, rfl⟩
    · exact ih hr hf
    · rcases List.mem_cons.1 hf with rfl | hf
      · exact hv
      · exact ih hr hf

theorem nodesHeight_fieldRules_le {f : Field} {entries : List RuleEntry}
    (h : fieldRules f = .ok entries) : nodesHeight entries ≤ f.2.height := by
  unfold fieldRules at h
  split at h
  · exact nodesHeight_ruleEntries_le h
  split at h
  · cases h
    simp [nodesHeight]
  · cases h
    exact Nat.zero_le _

/-- No nested rule of a node is deeper than the node. -/
theorem nodesHeight_nestedRules_le {entries : List (Value × Value)} {fields : List Field}
    {nested : List RuleEntry} (hf : nodeFields entries = .ok fields)
    (hn : nestedRules fields = .ok nested) :
    nodesHeight nested ≤ Value.heightOfEntries entries := by
  induction entries generalizing fields nested with
  | nil =>
    cases hf
    cases hn
    exact Nat.zero_le _
  | cons e rest ih =>
    obtain ⟨key, value⟩ := e
    rw [Value.heightOfEntries]
    rcases nodeFields_cons_eq_ok hf with ⟨-, hr⟩ | ⟨k, more, -, -, hr, rfl⟩
    · have := ih hr hn
      omega
    · obtain ⟨own, others, ho, hm, rfl⟩ := nestedRules_cons_eq_ok.1 hn
      have := nodesHeight_fieldRules_le ho
      have := ih hr hm
      rw [nodesHeight_append]
      simp only at *
      omega

end Stylesheet
