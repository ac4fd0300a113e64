import Stylesheet.Proofs.NodeChanges
import Stylesheet.Proofs.StrippedKeyframes
/-!
# What is missing makes no difference

`pruneRules` takes everything that is missing out of a rule set: entries of nodes at any depth,
keyframes without a body, entries of keyframes, and items of declared lists and of the lists in
them. The arguments of functions and the lists of animations stay as they are, since a missing item
has a text there. The pruned rule set compiles to the same rules and leaves the same records, or
fails in the same way (`compileRules_pruneRules`).
-/

namespace Stylesheet

/-! ## Pruning -/

/-- The items of a list that are there. -/
def presentItems (items : List Value) : List Value := items.filter fun v => !v.isAbsent

/-- An item of a declared list: a list in it loses what is missing. -/
def pruneItem : Value → Value
  | .list items => .list (presentItems items)
  | .tuple items => .tuple (presentItems items)
  | v => v

/-- A declared value: a list loses what is missing, and so do the lists in it. -/
def pruneDeclared : Value → Value
  | .list items => .list ((presentItems items).map pruneItem)
  | .tuple items => .tuple ((presentItems items).map pruneItem)
  | v => v

/-- An entry of a keyframe. One that is left out anyway stays as it is. -/
def pruneFrameEntry (e : Value × Value) : Value × Value :=
  if isIgnoredEntry e then e else (e.1, pruneDeclared e.2)

/-- A keyframe. -/
def pruneBody : Value → Value
  | .mapping entries => .mapping ((presentEntries entries).map pruneFrameEntry)
  | v => v

/-- The keyframes of an inline animation. A handle stands for a set that is declared elsewhere. -/
def pruneKeyframes : Value → Value
  | .mapping frames => .mapping ((presentEntries frames).map fun f => (f.1, pruneBody f.2))
  | v => v

mutual

/-- A style node without what is missing in it, at any depth. -/
def pruneNode : Value → Value
  | .mapping entries => .mapping (pruneFields entries)
  | v => v

/-- The entries of a style node. -/
def pruneFields : List (Value × Value) → List (Value × Value)
  | [] => []
  | (k, v) :: rest =>
    if v.isAbsent then pruneFields rest
    else
      (match k.text? with
        | none => (k, v)
        | some key =>
          if key = nestingKey then (k, pruneRules v)
          else if isPseudoKey key then (k, pruneNode v)
          else if key = animationKey then (k, mapAnimation pruneKeyframes v)
          else (k, pruneDeclared v)) :: pruneFields rest

/-- A rule set. A selector without a node stays: it is an error. -/
def pruneRules : Value → Value
  | .mapping entries => .mapping (pruneEntries entries)
  | .list items => .list (prunePairs items)
  | .tuple items => .tuple (prunePairs items)
  | .animation fields keyframes => .animation fields (pruneNode keyframes)
  | v => v

/-- The entries of a rule set. -/
def pruneEntries : List (Value × Value) → List (Value × Value)
  | [] => []
  | (selector, node) :: rest => (selector, pruneNode node) :: pruneEntries rest

/-- The pairs of a rule set. -/
def prunePairs : List Value → List Value
  | [] => []
  | .list [selector, node] :: rest => .list [selector, pruneNode node] :: prunePairs rest
  | .tuple [selector, node] :: rest => .tuple [selector, pruneNode node] :: prunePairs rest
  | .mapping [(selector, v), (node, w)] :: rest =>
    .mapping [(selector, v), (pruneNode node, w)] :: prunePairs rest
  | v :: rest => v :: prunePairs rest

end

/-- What is missing goes wherever it is, but for the list of animations and the argument. -/
example (x : Value) :
    pruneRules (.mapping [(.text ".a", .mapping [(.text "$", .absent), (.text ":hover", .mapping
        [(.text "color", .absent), (.text "margin", .list [.absent, .list [.text "1", .absent]])]),
      (.text "animation", .list [.absent, .animation {} (.mapping [(.text "to", .absent),
        (.text "from", .mapping [(.text "top", .tuple [x, .absent]), (.text "$", .absent)])])]),
      (.text "rotate", .mapping [(.text "rotate", .list [.absent])])])]) =
    .mapping [(.text ".a", .mapping [(.text ":hover", .mapping
        [(.text "margin", .list [.list [.text "1"]])]),
      (.text "animation", .list [.absent, .animation {} (.mapping
        [(.text "from", .mapping [(.text "top", pruneDeclared (.tuple [x, .absent]))])])]),
      (.text "rotate", .mapping [(.text "rotate", .list [.absent])])])] := rfl

/-! ## Declared values -/

section Values

variable {property : String}

theorem presentItems_cons_of_absent {v : Value} (ha : v.isAbsent = true) (rest : List Value) :
    presentItems (v :: rest) = presentItems rest := by
  simp [presentItems, ha]

theorem presentItems_cons_of_present {v : Value} (ha : v.isAbsent = false) (rest : List Value) :
    presentItems (v :: rest) = v :: presentItems rest := by
  simp [presentItems, ha]

theorem formatItems_presentItems (items : List Value) :
    formatItems property (presentItems items) = formatItems property items := by
  induction items with
  | nil => rfl
  | cons v rest ih =>
    cases ha : v.isAbsent with
    | true => rw [presentItems_cons_of_absent ha, Value.isAbsent_iff.1 ha, formatItems, ih]
    | false => rw [presentItems_cons_of_present ha, formatItems_cons, formatItems_cons, ih]

theorem formatInner_presentItems (items : List Value) :
    formatInner property (presentItems items) = formatInner property items := by
  induction items with
  | nil => rfl
  | cons v rest ih =>
    cases ha : v.isAbsent with
    | true => rw [presentItems_cons_of_absent ha, Value.isAbsent_iff.1 ha, formatInner, ih]
    | false => rw [presentItems_cons_of_present ha, formatInner_cons, formatInner_cons, ih]

theorem isSequence_pruneItem (v : Value) : (pruneItem v).isSequence = v.isSequence := by
  cases v <;> rfl

theorem formatItem_pruneItem (v : Value) :
    formatItem property (pruneItem v) = formatItem property v := by
  cases v with
  | list items | tuple items => rw [pruneItem, formatItem, formatItem, formatInner_presentItems]
  | _ => rfl

/-- What is missing is no list, so that it does not count for the separator. -/
theorem any_isSequence_presentItems (items : List Value) :
    (presentItems items).any Value.isSequence = items.any Value.isSequence := by
  induction items with
  | nil => rfl
  | cons v rest ih =>
    cases ha : v.isAbsent with
    | true =>
      rw [presentItems_cons_of_absent ha, ih, Value.isAbsent_iff.1 ha]
      rfl
    | false => rw [presentItems_cons_of_present ha, List.any_cons, List.any_cons, ih]

theorem joinItems_prune (items : List Value) (parts : List String) :
    joinItems property ((presentItems items).map pruneItem) parts =
      joinItems property items parts := by
  rw [joinItems_map isSequence_pruneItem, joinItems, joinItems, any_isSequence_presentItems]

/-- A declared value has the same text without what is missing in it. -/
theorem format_pruneDeclared (v : Value) :
    format property (pruneDeclared v) = format property v := by
  cases v with
  | list items | tuple items =>
    rw [pruneDeclared, format, format, formatItems_map fun v _ => formatItem_pruneItem v,
      formatItems_presentItems]
    simp only [joinItems_prune]
  | _ => rfl

theorem isAbsent_pruneDeclared (v : Value) : (pruneDeclared v).isAbsent = v.isAbsent := by
  cases v <;> rfl

end Values

/-! ## Declarations and keyframes -/

/-- A declaration without what is missing in its value. -/
def pruneDeclaration (d : Declaration) : Declaration := (d.1, pruneDeclared d.2)

theorem declarationTexts_prune (declarations : List Declaration) :
    declarationTexts (declarations.map pruneDeclaration) = declarationTexts declarations := by
  induction declarations with
  | nil => rfl
  | cons d rest ih =>
    rw [List.map_cons, pruneDeclaration, declarationTexts, declarationTexts, ih,
      declarationText?, format_pruneDeclared, ← declarationText?]

theorem declarationBlock_prune (declarations : List Declaration) :
    declarationBlock (declarations.map pruneDeclaration) = declarationBlock declarations := by
  rw [declarationBlock, declarationTexts_prune, ← declarationBlock]

theorem ownRule_prune (selector : String) (declarations : List Declaration) :
    ownRule selector (declarations.map pruneDeclaration) = ownRule selector declarations := by
  rw [ownRule, declarationBlock_prune, ← ownRule]

/-- A pruned keyframe has the same declarations, pruned, and leaves out the same keys. -/
theorem keyframeDeclarations_prune (name offset : String) (entries : List (Value × Value)) :
    keyframeDeclarations name offset ((presentEntries entries).map pruneFrameEntry) =
      do return (← keyframeDeclarations name offset entries).map pruneDeclaration := by
  induction entries with
  | nil => rfl
  | cons e rest ih =>
    obtain ⟨k, v⟩ := e
    cases ha : v.isAbsent with
    | true => rw [presentEntries_cons_of_absent ha, keyframeDeclarations_of_absent ha, ih]
    | false =>
      rw [presentEntries_cons_of_present ha, List.map_cons, pruneFrameEntry]
      have there := (isAbsent_pruneDeclared v).trans ha
      cases hk : k.text? with
      | none =>
        have kept : isIgnoredEntry (k, v) = false := by simp [isIgnoredEntry, hk]
        rw [kept, keyframeDeclarations_of_not_text ha hk]
        exact keyframeDeclarations_of_not_text there hk
      | some key =>
        obtain rfl := text?_eq_some.1 hk
        cases hi : isIgnoredKey key with
        | true =>
          have ignored : isIgnoredEntry (.text key, v) = true := by simp [isIgnoredEntry, hk, hi]
          rw [if_pos ignored, keyframeDeclarations_of_ignored ha hi,
            keyframeDeclarations_of_ignored ha hi, ih, bind_assoc]
        | false =>
          have kept : isIgnoredEntry (.text key, v) = false := by simp [isIgnoredEntry, hk, hi]
          rw [kept, if_neg Bool.false_ne_true, keyframeDeclarations_of_kept there hi,
            keyframeDeclarations_of_kept ha hi, ih]
          simp [pruneDeclaration]

theorem keyframeLine_prune (name indent : String) (offset body : Value) :
    keyframeLine name indent offset (pruneBody body) = keyframeLine name indent offset body := by
  cases body with
  | mapping entries =>
    simp only [keyframeLine, pruneBody, keyframeDeclarations_prune, bind_assoc, pure_bind,
      declarationBlock_prune]
  | _ => rfl

theorem isAbsent_pruneBody (v : Value) : (pruneBody v).isAbsent = v.isAbsent := by
  cases v <;> rfl

theorem keyframeLines_prune (name indent : String) (frames : List (Value × Value)) :
    keyframeLines name indent ((presentEntries frames).map fun f => (f.1, pruneBody f.2)) =
      keyframeLines name indent frames := by
  rw [keyframeLines_eq_forEach, keyframeLines_eq_forEach, presentEntries_map isAbsent_pruneBody,
    Logged.forEach_map]
  simp only [keyframeLine_prune]

/-- A pruned keyframe set gives the same block and the same warnings. -/
theorem keyframesBlock_prune (name : String) (keyframes : Value) (indent : Nat) :
    keyframesBlock name (pruneKeyframes keyframes) indent =
      keyframesBlock name keyframes indent := by
  cases keyframes with
  | mapping frames =>
    simp only [keyframesBlock, pruneKeyframes, Value.unwrap, keyframeLines_prune]
  | _ => rfl

/-! ## Nodes -/

/-- What pruning does to the parts of a rule set. -/
def pruning : NodeChange where
  node := pruneNode
  keyframes := pruneKeyframes
  property := id
  value := pruneDeclared

theorem inlineKeyframes_prune (keyframes : List (String × Value)) :
    inlineKeyframes (keyframes.map pruning.block) = inlineKeyframes keyframes := by
  rw [inlineKeyframes, Logged.forEach_map]
  exact congrArg (Logged.forEach · keyframes)
    (funext fun k => keyframesBlock_prune k.1 k.2 keyframeIndent)

theorem isAbsent_pruneNode (v : Value) : (pruneNode v).isAbsent = v.isAbsent := by
  cases v <;> rfl

theorem prunePairs_eq_map (items : List Value) :
    prunePairs items = items.map (mapPair pruneNode) := by
  induction items with
  | nil => rfl
  | cons item rest ih =>
    rw [List.map_cons, ← ih]
    unfold mapPair
    split
    · rw [prunePairs]
    · rw [prunePairs]
    · rw [prunePairs]
    · rename_i hl ht hm
      rw [prunePairs]
      · exact hl
      · exact ht
      · exact hm

theorem pruneEntries_eq_map (entries : List RuleEntry) :
    pruneEntries entries = entries.map pruning.entry := by
  induction entries with
  | nil => rfl
  | cons e rest ih =>
    rw [pruneEntries, ih]
    rfl

theorem pruneRules_eq_mapRules (rules : Value) : pruneRules rules = mapRules pruneNode rules := by
  cases rules with
  | mapping entries => exact congrArg Value.mapping (pruneEntries_eq_map entries)
  | list items => exact congrArg Value.list (prunePairs_eq_map items)
  | tuple items => exact congrArg Value.tuple (prunePairs_eq_map items)
  | _ => rfl

theorem pruneFields_eq_map (entries : List (Value × Value)) :
    pruneFields entries = (presentEntries entries).map pruning.field := by
  induction entries with
  | nil => rfl
  | cons e rest ih =>
    obtain ⟨k, v⟩ := e
    rw [pruneFields, ih]
    cases ha : v.isAbsent with
    | true => rw [presentEntries_cons_of_absent ha, if_pos rfl]
    | false =>
      rw [presentEntries_cons_of_present ha, if_neg Bool.false_ne_true, List.map_cons]
      congr 1
      cases hk : k.text? with
      | none => rw [pruning.field_of_not_text hk]
      | some key =>
        obtain rfl := text?_eq_some.1 hk
        rw [pruneRules_eq_mapRules]
        rfl

/-- A node has the same parts without the entries that have no value. -/
theorem splitEntries_presentEntries (selector : String) (entries : List (Value × Value)) :
    splitEntries selector ((presentEntries entries).map pruning.field) =
      splitEntries selector (entries.map pruning.field) := by
  induction entries with
  | nil => rfl
  | cons e rest ih =>
    have there := pruning.isAbsent_field isAbsent_pruneNode isAbsent_pruneDeclared e
    rw [List.map_cons]
    cases ha : e.2.isAbsent with
    | true =>
      rw [presentEntries_cons_of_absent ha, splitEntries_of_absent (there.trans ha), ih]
    | false =>
      rw [presentEntries_cons_of_present ha, List.map_cons, splitEntries, splitEntries, ih]

theorem pruning_lawful : pruning.Lawful where
  node_scalar s := rfl
  isAbsent_node := isAbsent_pruneNode
  splitNode_mapping selector entries := by
    show splitEntries selector (pruneFields entries) = _
    rw [pruneFields_eq_map]
    exact splitEntries_presentEntries selector entries
  node_of_not_mapping v h := by
    cases v with
    | mapping entries => exact absurd rfl (h entries)
    | _ => rfl
  keyframes_absent := rfl
  isInline_keyframes fields v := by cases v <;> rfl
  isIgnoredKey_property key h := h
  isAbsent_value := isAbsent_pruneDeclared
  animation s := rfl

/-- What is missing makes no difference: a rule set without it compiles to the same rules and leaves
the same records, or fails in the same way. -/
theorem compileRules_pruneRules (rules : Value) :
    compileRules (pruneRules rules) = compileRules rules := by
  rw [pruneRules_eq_mapRules]
  exact pruning_lawful.compileRules_alike Logged.equality
    (fun selector declarations => congrArg Logged.ofExcept (ownRule_prune selector declarations))
    inlineKeyframes_prune rules

end Stylesheet
