import Stylesheet.Proofs.NodeChanges
import Stylesheet.Proofs.PropertyNames
/-!
# Respelling properties

`respellRules` replaces every property key of a rule set by its hyphenated form, in nodes at any
depth and in the keyframes of inline animations. It is a change to each node
(`respelling_lawful`), so the compiler meets the same tree under other names.
-/

namespace Stylesheet

/-! ## Respelling -/

/-- The hyphenated form of a property key. The keys that hold rules or animations are none. -/
def respellKey : Value → Value
  | .text key => .text (if isIgnoredKey key then key else Casing.kebab key)
  | k => k

/-- A keyframe with its properties respelled. -/
def respellBody : Value → Value
  | .mapping entries => .mapping (entries.map fun e => (respellKey e.1, e.2))
  | v => v

/-- A keyframe set with the properties of its keyframes respelled. -/
def respellKeyframes : Value → Value
  | .mapping entries => .mapping (entries.map fun e => (e.1, respellBody e.2))
  | v => v

/-- An entry of such a mapping. -/
def respellAnimationEntry (e : Value × Value) : Value × Value :=
  if e.1.text? = some keyframesKey then (e.1, respellKeyframes e.2) else e

/-- An animation with its keyframes respelled. -/
def respellAnimationItem : Value → Value
  | .mapping entries => .mapping (entries.map respellAnimationEntry)
  | .animation fields keyframes => .animation fields (respellKeyframes keyframes)
  | v => v

/-- The value of an `animation` key with all keyframes respelled. -/
def respellAnimation : Value → Value
  | .list items => .list (items.map respellAnimationItem)
  | .tuple items => .tuple (items.map respellAnimationItem)
  | v => respellAnimationItem v

mutual

/-- A style node with the properties of its own and of all nodes and keyframes in it respelled. -/
def respellNode : Value → Value
  | .mapping entries => .mapping (respellFields entries)
  | v => v

/-- The entries of a style node. -/
def respellFields : List (Value × Value) → List (Value × Value)
  | [] => []
  | (.text key, v) :: rest =>
    (if key = nestingKey then (.text key, respellRules v)
      else if isPseudoKey key then (.text key, respellNode v)
      else if key = animationKey then (.text key, respellAnimation v)
      else (.text (Casing.kebab key), v)) :: respellFields rest
  | e :: rest => e :: respellFields rest

/-- A rule set with the properties of its nodes respelled, in either form and however its pairs are
written. -/
def respellRules : Value → Value
  | .mapping entries => .mapping (respellEntries entries)
  | .list items => .list (respellPairs items)
  | .tuple items => .tuple (respellPairs items)
  | .animation fields keyframes => .animation fields (respellNode keyframes)
  | v => v

/-- The entries of a rule set. -/
def respellEntries : List (Value × Value) → List (Value × Value)
  | [] => []
  | (selector, node) :: rest => (selector, respellNode node) :: respellEntries rest

/-- The pairs of a rule set. -/
def respellPairs : List Value → List Value
  | [] => []
  | .list [selector, node] :: rest => .list [selector, respellNode node] :: respellPairs rest
  | .tuple [selector, node] :: rest => .tuple [selector, respellNode node] :: respellPairs rest
  | .mapping [(selector, v), (node, w)] :: rest =>
    .mapping [(selector, v), (respellNode node, w)] :: respellPairs rest
  | v :: rest => v :: respellPairs rest

end

/-- Properties are respelled in nested nodes and in keyframes too, selectors and offsets are not. -/
example (one : Value) :
    let set (key : String) : Value := .mapping [(.text "offSet", .mapping [(.text key, one)])]
    respellRules (.mapping [(.text ".navBar", .mapping [(.text "zIndex", one),
      (.text ":firstChild", .mapping [(.text "font_size", one)]),
      (.text "animation", .animation {} (set "msFilter"))])]) =
    .mapping [(.text ".navBar", .mapping [(.text "z-index", one),
      (.text ":firstChild", .mapping [(.text "font-size", one)]),
      (.text "animation", .animation {} (set "-ms-filter"))])] := rfl

/-- A rule of a rule set. -/
def respellEntry (e : RuleEntry) : RuleEntry := (e.1, respellNode e.2)

/-- A declaration with its property respelled. -/
def respellDeclaration (d : Declaration) : Declaration := (Casing.kebab d.1, d.2)

/-! ## Keys -/

theorem isPseudoKey_kebab (key : String) : isPseudoKey (Casing.kebab key) = isPseudoKey key := by
  show [':'].isPrefixOf (String.ofList (Casing.kebabChars key.toList)).toList = _
  rw [String.toList_ofList]
  exact Casing.isPrefixOf_kebabChars key.toList

/-- A respelled property is still a property. -/
theorem isIgnoredKey_kebab {key : String} (h : isIgnoredKey key = false) :
    isIgnoredKey (Casing.kebab key) = false := by
  rw [Bool.eq_false_iff, Ne, isIgnoredKey_iff] at h ⊢
  rintro (hk | hk | hk)
  · exact h (.inl (Casing.eq_of_kebab_eq hk (by decide)))
  · exact h (.inr (.inl (Casing.eq_of_kebab_eq hk (by decide))))
  · exact h (.inr (.inr (isPseudoKey_kebab key ▸ hk)))

/-! ## Respelling as a change to nodes -/

/-- What respelling does to the parts of a rule set. -/
def respelling : NodeChange where
  node := respellNode
  keyframes := respellKeyframes
  property := Casing.kebab
  value := id

theorem respellPairs_eq_map (items : List Value) :
    respellPairs items = items.map (mapPair respellNode) := by
  induction items with
  | nil => rfl
  | cons item rest ih =>
    rw [List.map_cons, ← ih]
    unfold mapPair
    split
    · rw [respellPairs]
    · rw [respellPairs]
    · rw [respellPairs]
    · rename_i hl ht hm
      rw [respellPairs]
      · exact hl
      · exact ht
      · exact hm

theorem respellEntries_eq_map (entries : List RuleEntry) :
    respellEntries entries = entries.map respellEntry := by
  induction entries with
  | nil => rfl
  | cons e rest ih =>
    rw [respellEntries, ih]
    rfl

theorem respellRules_eq_mapRules (rules : Value) :
    respellRules rules = mapRules respellNode rules := by
  cases rules with
  | mapping entries => exact congrArg Value.mapping (respellEntries_eq_map entries)
  | list items => exact congrArg Value.list (respellPairs_eq_map items)
  | tuple items => exact congrArg Value.tuple (respellPairs_eq_map items)
  | _ => rfl

/-- The entries of a respelled rule set are its entries respelled. -/
theorem ruleEntries_respellRules (rules : Value) :
    ruleEntries (respellRules rules) = do return (← ruleEntries rules).map respellEntry := by
  rw [respellRules_eq_mapRules]
  exact ruleEntries_mapRules (fun s => rfl) rules

theorem respellAnimation_eq_mapAnimation (v : Value) :
    respellAnimation v = mapAnimation respellKeyframes v := by
  have items : respellAnimationItem = mapAnimationItem respellKeyframes := by
    funext v
    cases v <;> rfl
  cases v with
  | list l => exact congrArg (fun f => Value.list (l.map f)) items
  | tuple l => exact congrArg (fun f => Value.tuple (l.map f)) items
  | _ => rfl

theorem respellFields_eq_map (entries : List (Value × Value)) :
    respellFields entries = entries.map respelling.field := by
  induction entries with
  | nil => rfl
  | cons e rest ih =>
    rw [List.map_cons, ← ih]
    unfold NodeChange.field
    split
    · rw [respellFields, respellRules_eq_mapRules, respellAnimation_eq_mapAnimation]
      rfl
    · rename_i hk
      rw [respellFields]
      exact fun key v he => hk key v he

theorem respelling_lawful : respelling.Lawful where
  node_scalar s := rfl
  isAbsent_node v := by cases v <;> rfl
  splitNode_mapping selector entries :=
    congrArg (splitEntries selector) (respellFields_eq_map entries)
  node_of_not_mapping v h := by
    cases v with
    | mapping entries => exact absurd rfl (h entries)
    | _ => rfl
  keyframes_absent := rfl
  isInline_keyframes fields v := by cases v <;> rfl
  isIgnoredKey_property key h := isIgnoredKey_kebab h
  isAbsent_value v := rfl
  animation s := by
    have kebab : Casing.kebab animationKey = animationKey := by decide
    exact congrArg (·, Value.text s) kebab

end Stylesheet
