import Stylesheet.Proofs.Formatting
import Stylesheet.Proofs.Visits
/-!
# Changing a rule set node by node

A change says what becomes of each node of a rule set, of each keyframe set and of each declaration.
Splitting a changed node gives its parts changed (`NodeChange.Lawful.splitNode_node`), so a rule set
compiles as before if its declarations and its keyframe sets come out as before
(`NodeChange.Lawful.compileRules_alike`), in whatever sense computations are compared.
-/

namespace Stylesheet

/-! ## Rule sets -/

section Rules

variable (f : Value → Value)

/-- A pair of a rule set with its node changed. -/
def mapPair : Value → Value
  | .list [selector, node] => .list [selector, f node]
  | .tuple [selector, node] => .tuple [selector, f node]
  | .mapping [(selector, v), (node, w)] => .mapping [(selector, v), (f node, w)]
  | v => v

/-- A rule set with its nodes changed, in either form and however its pairs are written. -/
def mapRules : Value → Value
  | .mapping entries => .mapping (entries.map fun e => (e.1, f e.2))
  | .list items => .list (items.map (mapPair f))
  | .tuple items => .tuple (items.map (mapPair f))
  | .animation fields keyframes => .animation fields (f keyframes)
  | v => v

theorem isAbsent_mapRules (v : Value) : (mapRules f v).isAbsent = v.isAbsent := by
  cases v <;> rfl

variable {f} (hf : ∀ s, f (.scalar s) = .scalar s)

include hf

theorem unpackPair_mapPair (item : Value) :
    unpackPair (mapPair f item) = do
      let pair ← unpackPair item
      return (pair.1, f pair.2) := by
  unfold mapPair
  split
  · rfl
  · rfl
  · rfl
  · -- Any other value unpacks to a pair of characters at most.
    rename_i hl ht hm
    unfold unpackPair
    split
    · exact absurd rfl (hl _ _)
    · exact absurd rfl (ht _ _)
    · rfl
    · rfl
    · exact absurd rfl (hm _ _ _ _)
    · rfl
    · split
      · exact congrArg (fun node => Except.ok (_, node)) (hf _).symm
      · rfl
    · rfl
    · rfl

theorem pairEntries_map (items : List Value) :
    pairEntries (items.map (mapPair f)) =
      do return (← pairEntries items).map fun e => (e.1, f e.2) := by
  induction items with
  | nil => rfl
  | cons item rest ih =>
    rw [List.map_cons, pairEntries, pairEntries, unpackPair_mapPair hf, ih]
    simp [Function.comp_def]

/-- The entries of a changed rule set are its entries with their nodes changed. -/
theorem ruleEntries_mapRules (rules : Value) :
    ruleEntries (mapRules f rules) = do return (← ruleEntries rules).map fun e => (e.1, f e.2) := by
  cases rules with
  | mapping entries => rfl
  | list items | tuple items => exact pairEntries_map hf items
  | animation fields keyframes =>
    refine congrArg Except.ok ?_
    simp only [Value.animationEntries, List.map_cons, List.map_nil, hf]
  | scalar s =>
    cases s with
    | text t =>
      have characters : (t.toList.map fun c => Value.text (String.singleton c)).map (mapPair f) =
          t.toList.map fun c => .text (String.singleton c) := by
        rw [List.map_map]
        rfl
      have pairs := pairEntries_map hf (t.toList.map fun c => .text (String.singleton c))
      rw [characters] at pairs
      exact pairs
    | _ => rfl
  | _ => rfl

end Rules

/-! ## Animations -/

/-- The key under which a mapping that reads as an animation gives its keyframes. -/
def keyframesKey : String := "keyframes"

section Animations

variable (f : Value → Value)

/-- An entry of a mapping that reads as an animation, with the keyframes changed. -/
def mapAnimationEntry (e : Value × Value) : Value × Value :=
  if e.1.text? = some keyframesKey then (e.1, f e.2) else e

/-- An animation with its keyframes changed. -/
def mapAnimationItem : Value → Value
  | .mapping entries => .mapping (entries.map (mapAnimationEntry f))
  | .animation fields keyframes => .animation fields (f keyframes)
  | v => v

/-- The value of an `animation` key with all keyframes changed. -/
def mapAnimation : Value → Value
  | .list items => .list (items.map (mapAnimationItem f))
  | .tuple items => .tuple (items.map (mapAnimationItem f))
  | v => mapAnimationItem f v

theorem isAbsent_mapAnimation (v : Value) : (mapAnimation f v).isAbsent = v.isAbsent := by
  cases v <;> rfl

namespace AnimationDefinition

theorem fst_mapAnimationEntry (e : Value × Value) : (mapAnimationEntry f e).1 = e.1 := by
  unfold mapAnimationEntry
  split <;> rfl

variable {entries : List (Value × Value)} {spellings : List String}

theorem get?_map (key : String) : Value.get? (entries.map (mapAnimationEntry f)) key =
    (Value.get? entries key).map (if key = keyframesKey then f else id) := by
  induction entries with
  | nil => rfl
  | cons e rest ih =>
    obtain ⟨k, v⟩ := e
    rw [List.map_cons, mapAnimationEntry]
    by_cases hk : k.text? = some key
    · by_cases hkey : key = keyframesKey
      · subst hkey
        simp [Value.get?, hk]
      · simp [Value.get?, hk, hkey]
    · by_cases hkey : k.text? = some keyframesKey
      · simp only [hkey, if_true, Value.get?]
        rw [← hkey, if_neg hk, if_neg hk, ih]
      · simp only [hkey, if_false, Value.get?, hk, ih]

theorem pick?_map (h : keyframesKey ∉ spellings) :
    pick? (entries.map (mapAnimationEntry f)) spellings = pick? entries spellings := by
  unfold pick?
  induction spellings with
  | nil => rfl
  | cons s rest ih =>
    have hs : s ≠ keyframesKey := fun he => h (he ▸ List.mem_cons_self)
    have hrest : keyframesKey ∉ rest := fun hm => h (List.mem_cons_of_mem _ hm)
    rw [List.findSome?_cons, List.findSome?_cons, get?_map, if_neg hs, ih hrest]
    simp

theorem fst_pick?_map : (pick? (entries.map (mapAnimationEntry f)) spellings).map Prod.fst =
    (pick? entries spellings).map Prod.fst := by
  unfold pick?
  induction spellings with
  | nil => rfl
  | cons s rest ih =>
    rw [List.findSome?_cons, List.findSome?_cons, get?_map]
    cases Value.get? entries s with
    | none => exact ih
    | some v => rfl

theorem readText_map (h : keyframesKey ∉ spellings) :
    readText (entries.map (mapAnimationEntry f)) spellings = readText entries spellings := by
  rw [readText, readText, pick?_map f h]

theorem readAmount_map (h : keyframesKey ∉ spellings) :
    readAmount (entries.map (mapAnimationEntry f)) spellings = readAmount entries spellings := by
  rw [readAmount, readAmount, pick?_map f h]

theorem unknownEntry_map (key : Value) :
    unknownEntry (entries.map (mapAnimationEntry f)) key = unknownEntry entries key := by
  unfold unknownEntry
  simp only [fst_pick?_map]

variable {f} (absent : f .absent = .absent)
  (inline : ∀ fields v, isInline ⟨fields, f v⟩ = isInline ⟨fields, v⟩)

include absent in
/-- A mapping reads as the same animation, its keyframes changed. -/
theorem ofEntries_map : ofEntries (entries.map (mapAnimationEntry f)) =
    (do
      let d ← ofEntries entries
      return { d with keyframes := f d.keyframes }) := by
  have keyframes : ((pick? (entries.map (mapAnimationEntry f)) keyframesSpellings).map
      Prod.snd).getD .absent =
      f (((pick? entries keyframesSpellings).map Prod.snd).getD .absent) := by
    simp only [pick?, keyframesSpellings, List.findSome?_cons, get?_map, keyframesKey, if_true]
    cases Value.get? entries "keyframes" with
    | none => exact absent.symm
    | some v => rfl
  have unknown : (entries.map (mapAnimationEntry f)).filterMap (fun e =>
        unknownEntry (entries.map (mapAnimationEntry f)) e.1) =
      entries.filterMap fun e => unknownEntry entries e.1 := by
    simp only [List.filterMap_map, Function.comp_def, fst_mapAnimationEntry, unknownEntry_map]
  simp only [ofEntries, keyframes, unknown]
  rw [readText_map f (by decide), readAmount_map f (by decide), readText_map f (by decide),
    readAmount_map f (by decide), readAmount_map f (by decide), readText_map f (by decide),
    readText_map f (by decide), readText_map f (by decide)]
  split <;> rfl

end AnimationDefinition

namespace ResolvedAnimation

/-- A resolved animation with its keyframes changed. -/
def mapKeyframes (a : ResolvedAnimation) : ResolvedAnimation :=
  { a with keyframes := a.keyframes.map fun k => (k.1, f k.2) }

variable {f} (absent : f .absent = .absent)
  (inline : ∀ fields v, AnimationDefinition.isInline ⟨fields, f v⟩ =
    AnimationDefinition.isInline ⟨fields, v⟩)

include inline in
theorem ofDefinition_map (selector : String) (position : Nat) (d : AnimationDefinition) :
    ofDefinition selector position { d with keyframes := f d.keyframes } =
      (ofDefinition selector position d).mapKeyframes f := by
  unfold ofDefinition
  rw [inline]
  split <;> rfl

include inline in
/-- Changing the keyframes changes no field, so the shorthand can be written as before. -/
theorem writeDefinition_map (selector : String) (position : Nat) (d : AnimationDefinition) :
    writeDefinition selector position { d with keyframes := f d.keyframes } =
      do return (← writeDefinition selector position d).mapKeyframes f := by
  rw [writeDefinition, ofDefinition_map inline]
  exact (Failure.map_unlessTooLong ..).symm

include absent inline

theorem ofItem_map (selector : String) (position : Nat) (v : Value) :
    ofItem selector position (mapAnimationItem f v) =
      do return (← ofItem selector position v).mapKeyframes f := by
  cases v with
  | mapping entries =>
    rw [mapAnimationItem, ofItem, ofItem, AnimationDefinition.ofEntries_map absent]
    simp [writeDefinition_map inline]
  | animation fields keyframes =>
    exact writeDefinition_map inline selector position ⟨fields, keyframes⟩
  | _ => simp [mapAnimationItem, ofItem, mapKeyframes]

theorem ofItems_map (selector : String) (position : Nat) (items : List Value) :
    ofItems selector position (items.map (mapAnimationItem f)) =
      do return (← ofItems selector position items).map (mapKeyframes f) := by
  induction items generalizing position with
  | nil => rfl
  | cons v rest ih =>
    rw [List.map_cons, ofItems, ofItems, ofItem_map absent inline, ih]
    simp

omit absent inline in
theorem join_map (animations : List ResolvedAnimation) :
    join (animations.map (mapKeyframes f)) = (join animations).mapKeyframes f := by
  simp [join, mapKeyframes, Function.comp_def, List.map_flatMap, List.flatMap_map]

/-- An animation value with changed keyframes resolves to the same shorthand, its keyframes
changed. -/
theorem resolveAnimation_map (selector : String) (v : Value) :
    resolveAnimation selector (mapAnimation f v) =
      do return (← resolveAnimation selector v).mapKeyframes f := by
  have items : ∀ items, (do return join (← ofItems selector 0 (items.map (mapAnimationItem f)))) =
      do return (← (do return join (← ofItems selector 0 items) :
        Except Failure ResolvedAnimation)).mapKeyframes f := fun items => by
    rw [ofItems_map absent inline]
    simp [join_map]
  have one := ofItem_map absent inline selector 0
  cases v with
  | list l | tuple l => exact items l
  | scalar s => exact one (.scalar s)
  | mapping entries => exact one (.mapping entries)
  | «variable» name property fallback => exact one (.variable name property fallback)
  | handle name payload flag => exact one (.handle name payload flag)
  | animation fields keyframes => exact one (.animation fields keyframes)

end ResolvedAnimation

end Animations

/-! ## Style nodes -/

theorem isIgnoredKey_iff {key : String} : isIgnoredKey key = true ↔
    key = nestingKey ∨ key = animationKey ∨ isPseudoKey key = true := by
  simp [isIgnoredKey, or_assoc]

/-- An entry without a value contributes nothing. -/
theorem splitEntries_of_absent {e : Value × Value} (h : e.2.isAbsent = true) (selector : String)
    (rest : List (Value × Value)) :
    splitEntries selector (e :: rest) = splitEntries selector rest := by
  rw [splitEntries, splitEntry_of_absent h]
  cases splitEntries selector rest <;> rfl

/-- What becomes of nodes, of keyframe sets and of declarations. -/
structure NodeChange where
  node : Value → Value
  keyframes : Value → Value
  property : String → String
  value : Value → Value

namespace NodeChange

section Parts

variable (c : NodeChange)

/-- A declaration, changed. -/
def declaration (d : Declaration) : Declaration := (c.property d.1, c.value d.2)

/-- A rule, changed. -/
def entry (e : RuleEntry) : RuleEntry := (e.1, c.node e.2)

/-- Keyframes under their name, changed. -/
def block (k : String × Value) : String × Value := (k.1, c.keyframes k.2)

/-- An entry of a style node, changed. -/
def field : Value × Value → Value × Value
  | (.text key, v) =>
    if key = nestingKey then (.text key, mapRules c.node v)
    else if isPseudoKey key then (.text key, c.node v)
    else if key = animationKey then (.text key, mapAnimation c.keyframes v)
    else (.text (c.property key), c.value v)
  | e => e

theorem field_of_not_text {k : Value} (hk : k.text? = none) (v : Value) :
    c.field (k, v) = (k, v) := by
  unfold field
  split
  · rename_i he
    cases he
    cases hk
  · rfl

theorem isAbsent_field (node : ∀ v, (c.node v).isAbsent = v.isAbsent)
    (value : ∀ v, (c.value v).isAbsent = v.isAbsent) (e : Value × Value) :
    (c.field e).2.isAbsent = e.2.isAbsent := by
  unfold field
  split
  · split
    · exact isAbsent_mapRules c.node _
    split
    · exact node _
    split
    · exact isAbsent_mapAnimation c.keyframes _
    · exact value _
  · rfl

/-- The parts of a node, changed. -/
def parts (p : NodeParts) : NodeParts where
  declarations := p.declarations.map c.declaration
  nested := p.nested.map c.entry
  keyframes := p.keyframes.map c.block

theorem parts_append (a b : NodeParts) : c.parts (a ++ b) = c.parts a ++ c.parts b := by
  show NodeParts.mk ((a.declarations ++ b.declarations).map _) ((a.nested ++ b.nested).map _)
    ((a.keyframes ++ b.keyframes).map _) = _
  rw [List.map_append, List.map_append, List.map_append]
  rfl

/-- Nothing changes what it is, and a changed node has the parts that its entries have once each of
them is changed. -/
structure Lawful : Prop where
  node_scalar : ∀ s, c.node (.scalar s) = .scalar s
  isAbsent_node : ∀ v, (c.node v).isAbsent = v.isAbsent
  splitNode_mapping : ∀ selector entries,
    splitNode selector (c.node (.mapping entries)) = splitEntries selector (entries.map c.field)
  node_of_not_mapping : ∀ v, (∀ entries, v ≠ .mapping entries) → c.node v = v
  keyframes_absent : c.keyframes .absent = .absent
  isInline_keyframes : ∀ fields v, AnimationDefinition.isInline ⟨fields, c.keyframes v⟩ =
    AnimationDefinition.isInline ⟨fields, v⟩
  isIgnoredKey_property : ∀ key, isIgnoredKey key = false → isIgnoredKey (c.property key) = false
  isAbsent_value : ∀ v, (c.value v).isAbsent = v.isAbsent
  animation : ∀ s, c.declaration (animationKey, .text s) = (animationKey, .text s)

end Parts

namespace Lawful

variable {c : NodeChange} (hc : c.Lawful)

include hc

theorem splitEntry_field (selector : String) (e : Value × Value) :
    splitEntry selector (c.field e).1 (c.field e).2 =
      do return c.parts (← splitEntry selector e.1 e.2) := by
  have absent := c.isAbsent_field hc.isAbsent_node hc.isAbsent_value e
  obtain ⟨k, v⟩ := e
  cases ha : v.isAbsent with
  | true =>
    rw [splitEntry_of_absent ha, splitEntry_of_absent (absent.trans ha)]
    rfl
  | false =>
    simp only [splitEntry, absent, ha, Bool.false_eq_true, if_false]
    cases hk : k.text? with
    | none =>
      rw [c.field_of_not_text hk]
      simp only [hk]
      rfl
    | some key =>
      obtain rfl := text?_eq_some.1 hk
      unfold field
      -- The same four cases as in the splitting of an entry.
      by_cases hn : key = nestingKey
      · simp only [hn, if_true, Value.text?, ruleEntries_mapRules hc.node_scalar, bind_assoc,
          pure_bind]
        rfl
      by_cases hp : isPseudoKey key = true
      · simp only [hn, hp, if_true, if_false, Value.text?]
        rfl
      by_cases hanim : key = animationKey
      · subst hanim
        simp only [hn, hp, if_true, if_false, Bool.false_eq_true, Value.text?, bind_assoc,
          pure_bind, ResolvedAnimation.resolveAnimation_map hc.keyframes_absent
            hc.isInline_keyframes, parts, List.map_cons, List.map_nil, hc.animation]
        rfl
      · have plain : isIgnoredKey key = false := by
          rw [Bool.eq_false_iff, Ne, isIgnoredKey_iff]
          simp [hn, hanim, hp]
        have changed := hc.isIgnoredKey_property key plain
        rw [Bool.eq_false_iff, Ne, isIgnoredKey_iff] at changed
        simp only [not_or] at changed
        simp only [hn, hp, hanim, changed.1, changed.2.1, changed.2.2, if_false, Bool.false_eq_true,
          Value.text?]
        rfl

theorem splitEntries_map (selector : String) (entries : List (Value × Value)) :
    splitEntries selector (entries.map c.field) =
      do return c.parts (← splitEntries selector entries) := by
  induction entries with
  | nil => rfl
  | cons e rest ih =>
    rw [List.map_cons, splitEntries, splitEntries, hc.splitEntry_field, ih]
    simp [c.parts_append]

/-- Splitting a changed node gives its parts, changed. -/
theorem splitNode_node (selector : String) (node : Value) :
    splitNode selector (c.node node) =
      do return c.parts (← splitNode selector node) := by
  cases node with
  | mapping entries => exact (hc.splitNode_mapping selector entries).trans (hc.splitEntries_map _ _)
  | _ =>
    rw [hc.node_of_not_mapping _ (by simp)]
    rfl

end Lawful

/-! ## Compiling -/

end NodeChange

/-- A way to compare computations: all are like themselves, and steps that are alike make
computations that are alike. -/
structure Logged.Likeness where
  alike : {α : Type} → Logged α → Logged α → Prop
  refl : ∀ {α : Type} (x : Logged α), alike x x
  bind : ∀ {α β : Type} {x y : Logged α} {f g : α → Logged β},
    alike x y → (∀ a, alike (f a) (g a)) → alike (x >>= f) (y >>= g)

/-- Equality. -/
def Logged.equality : Logged.Likeness where
  alike := Eq
  refl _ := rfl
  bind hx hf := hx ▸ congrArg _ (funext hf)

namespace NodeChange.Lawful

variable {c : NodeChange} (hc : c.Lawful) (l : Logged.Likeness)
  (own : ∀ selector declarations, l.alike
    (Logged.ofExcept (ownRule selector (declarations.map c.declaration)))
    (Logged.ofExcept (ownRule selector declarations)))
  (blocks : ∀ keyframes, l.alike (inlineKeyframes (keyframes.map c.block))
    (inlineKeyframes keyframes))

include hc own blocks

/-- Changed nodes and rules compile as before if own rules and keyframes come out as before. -/
theorem compile_alike :
    (∀ selector node, l.alike (compileNode selector (c.node node)) (compileNode selector node)) ∧
    (∀ parent entries, l.alike (compileEntries parent (entries.map c.entry))
      (compileEntries parent entries)) := by
  refine compileNode.mutual_induct _ _ ?_ ?_ ?_ ?_ ?_
  -- A node that cannot be split.
  · intro selector node e he
    have changed : splitNode selector (c.node node) = .error e := by
      rw [hc.splitNode_node, he]
      rfl
    rw [compileNode_of_split_error he, compileNode_of_split_error changed]
    exact l.refl _
  -- A node and its nested rules.
  · intro selector node parts hs ih
    have changed : splitNode selector (c.node node) = .ok (c.parts parts) := by
      rw [hc.splitNode_node, hs]
      rfl
    rw [compileNode_of_split hs, compileNode_of_split changed]
    exact l.bind (own selector parts.declarations) fun own => l.bind ih fun nested =>
      l.bind (blocks parts.keyframes) fun blocks => l.refl _
  -- No entries.
  · intro parent
    exact l.refl _
  -- A selector that is not text.
  · intro parent selector node rest hs
    rw [List.map_cons, entry, compileEntries, compileEntries, hs]
    exact l.refl _
  -- An entry and those after it.
  · intro parent selector node rest s hs ihn ihr
    rw [List.map_cons, entry, compileEntries, compileEntries, hs]
    exact l.bind ihn fun rules => l.bind ihr fun more => l.refl _

/-- A changed rule set compiles as before if own rules and keyframes come out as before. -/
theorem compileRules_alike (rules : Value) :
    l.alike (compileRules (mapRules c.node rules)) (compileRules rules) := by
  have changed : compileRules (mapRules c.node rules) =
      Logged.ofExcept (ruleEntries rules) >>= fun entries =>
        compileEntries "" (entries.map c.entry) := by
    show Logged.ofExcept (ruleEntries (mapRules c.node rules)) >>= compileEntries "" = _
    rw [ruleEntries_mapRules hc.node_scalar]
    cases ruleEntries rules <;> rfl
  rw [changed]
  exact l.bind (l.refl _) fun entries => (hc.compile_alike l own blocks).2 "" entries

end NodeChange.Lawful
end Stylesheet
