import Stylesheet.Proofs.Paths
/-!
# Rule sets as lists of pairs

A rule set is a mapping, or a sequence of pairs in which a list of selectors shares its node. Both
can be written as a list of pairs with one selector each, in nested rules and under pseudo keys too
(`pairForm`, `isPairForm_pairForm`).
-/

namespace Stylesheet

/-! ## The form of pairs -/

/-- Pairs of one selector each, for all the selectors that share a node. -/
def singlePairs (selector node : Value) : List Value :=
  match selector with
  | .list items | .tuple items => items.map fun s => .tuple [s, node]
  | s => [.tuple [s, node]]

/-- Text with two characters is a pair of these. -/
def characterPair : Value → Value
  | .text s => match s.toList with
    | [a, b] => .tuple [.text (String.singleton a), .text (String.singleton b)]
    | _ => .text s
  | v => v

mutual

/-- A style node with its nested rules as lists of pairs. -/
def pairFormNode : Value → Value
  | .mapping entries => .mapping (pairFormFields entries)
  | v => v

/-- The entries of a style node. -/
def pairFormFields : List (Value × Value) → List (Value × Value)
  | [] => []
  | (.text key, v) :: rest =>
    (if key = nestingKey then (.text key, pairForm v)
      else if isPseudoKey key then (.text key, pairFormNode v)
      else (.text key, v)) :: pairFormFields rest
  | e :: rest => e :: pairFormFields rest

/-- A rule set as a list of pairs with one selector each, in the nodes too. What is no rule set
stays as it is. -/
def pairForm : Value → Value
  | .mapping entries => .list (pairFormEntries entries)
  | .list items => .list (pairFormItems items)
  | .tuple items => .list (pairFormItems items)
  | .animation fields keyframes =>
    .list ((Value.animationEntries fields (pairFormNode keyframes)).map fun e =>
      .tuple [.text e.1, e.2])
  | v => v

/-- The pairs of a mapping. -/
def pairFormEntries : List (Value × Value) → List Value
  | [] => []
  | (selector, node) :: rest => .tuple [selector, pairFormNode node] :: pairFormEntries rest

/-- The pairs of a sequence of pairs, however these are written. -/
def pairFormItems : List Value → List Value
  | [] => []
  | .list [selector, node] :: rest =>
    singlePairs selector (pairFormNode node) ++ pairFormItems rest
  | .tuple [selector, node] :: rest =>
    singlePairs selector (pairFormNode node) ++ pairFormItems rest
  | .mapping [(selector, _), (node, _)] :: rest =>
    singlePairs selector (pairFormNode node) ++ pairFormItems rest
  | item :: rest => characterPair item :: pairFormItems rest

end

/-- A rule with its node in the form of pairs. -/
def pairFormEntry (e : RuleEntry) : RuleEntry := (e.1, pairFormNode e.2)

/-- An entry of a style node. -/
def pairFormField : Value × Value → Value × Value
  | (.text key, v) =>
    if key = nestingKey then (.text key, pairForm v)
    else if isPseudoKey key then (.text key, pairFormNode v)
    else (.text key, v)
  | e => e

theorem pairFormFields_cons (e : Value × Value) (rest : List (Value × Value)) :
    pairFormFields (e :: rest) = pairFormField e :: pairFormFields rest := by
  unfold pairFormField
  split
  · rw [pairFormFields]
  · rename_i hk
    rw [pairFormFields]
    exact fun key v he => hk key v he

/-! ## Selectors -/

/-- Whether a value is text, or a list of texts. -/
def isSelectors : Value → Bool
  | .list items | .tuple items => items.all fun s => s.text?.isSome
  | s => s.text?.isSome

mutual

/-- Whether the selectors in a style node are text. -/
def textSelectorsNode : Value → Bool
  | .mapping entries => textSelectorsFields entries
  | _ => true

/-- Whether the selectors in the entries of a style node are text. -/
def textSelectorsFields : List (Value × Value) → Bool
  | [] => true
  | (.text key, v) :: rest =>
    (if key = nestingKey then textSelectors v
      else if isPseudoKey key then textSelectorsNode v
      else true) && textSelectorsFields rest
  | _ :: rest => textSelectorsFields rest

/-- Whether the selectors of a rule set and of those in it are text, or in pairs lists of texts. -/
def textSelectors : Value → Bool
  | .mapping entries => textSelectorsEntries entries
  | .list items => textSelectorsItems items
  | .tuple items => textSelectorsItems items
  | .animation _ keyframes => textSelectorsNode keyframes
  | _ => true

/-- Whether the selectors of a mapping are text. A key is one selector. -/
def textSelectorsEntries : List (Value × Value) → Bool
  | [] => true
  | (selector, node) :: rest =>
    selector.text?.isSome && textSelectorsNode node && textSelectorsEntries rest

/-- Whether the selectors of pairs are text, or lists of texts. -/
def textSelectorsItems : List Value → Bool
  | [] => true
  | .list [selector, node] :: rest =>
    isSelectors selector && textSelectorsNode node && textSelectorsItems rest
  | .tuple [selector, node] :: rest =>
    isSelectors selector && textSelectorsNode node && textSelectorsItems rest
  | .mapping [(selector, _), (node, _)] :: rest =>
    isSelectors selector && textSelectorsNode node && textSelectorsItems rest
  | _ :: rest => textSelectorsItems rest

end

/-! ## Lists of single pairs -/

mutual

/-- Whether the rule sets in a style node are lists of pairs with one selector each. -/
def isPairFormNode : Value → Bool
  | .mapping entries => isPairFormFields entries
  | _ => true

/-- Whether the rule sets in the entries of a style node are. -/
def isPairFormFields : List (Value × Value) → Bool
  | [] => true
  | (.text key, v) :: rest =>
    (if key = nestingKey then isPairForm v
      else if isPseudoKey key then isPairFormNode v
      else true) && isPairFormFields rest
  | _ :: rest => isPairFormFields rest

/-- Whether a rule set, and every one in it, is a list of pairs with one selector each. -/
def isPairForm : Value → Bool
  | .mapping _ | .tuple _ | .animation _ _ => false
  | .list items => arePairs items
  | _ => true

/-- Whether all items that are pairs have one selector. -/
def arePairs : List Value → Bool
  | [] => true
  | .tuple [.text _, node] :: rest => isPairFormNode node && arePairs rest
  | item :: rest => (unpackPair item matches .error _) && arePairs rest

end

/-- Whether an item has one selector, if it is a pair. -/
def isSinglePair : Value → Bool
  | .tuple [.text _, node] => isPairFormNode node
  | item => unpackPair item matches .error _

theorem arePairs_eq_all (items : List Value) : arePairs items = items.all isSinglePair := by
  induction items with
  | nil => rfl
  | cons item rest ih =>
    rw [List.all_cons, ← ih]
    unfold isSinglePair
    split
    · rw [arePairs]
    · rename_i ht
      rw [arePairs]
      exact ht

/-- Texts or a list of texts stand for as many pairs. -/
theorem exists_texts_of_isSelectors {selector : Value} (h : isSelectors selector = true) :
    ∃ texts : List String, selectorTexts selector = .ok texts ∧
      ∀ node, singlePairs selector node = texts.map fun s => .tuple [.text s, node] := by
  have all : ∀ items : List Value, (items.all fun s => s.text?.isSome) = true →
      ∃ texts : List String, items = texts.map .text := fun items hi => by
    induction items with
    | nil => exact ⟨[], rfl⟩
    | cons v rest ih =>
      rw [List.all_cons, Bool.and_eq_true] at hi
      obtain ⟨s, hs⟩ := Option.isSome_iff_exists.1 hi.1
      obtain ⟨texts, rfl⟩ := ih hi.2
      exact ⟨s :: texts, by rw [text?_eq_some.1 hs]; rfl⟩
  unfold isSelectors at h
  split at h
  · obtain ⟨texts, rfl⟩ := all _ h
    exact ⟨texts, displayAll_texts texts, fun node => by simp [singlePairs, Function.comp_def]⟩
  · obtain ⟨texts, rfl⟩ := all _ h
    exact ⟨texts, displayAll_texts texts, fun node => by simp [singlePairs, Function.comp_def]⟩
  · obtain ⟨s, hs⟩ := Option.isSome_iff_exists.1 h
    obtain rfl := text?_eq_some.1 hs
    exact ⟨[s], rfl, fun node => rfl⟩

theorem all_singlePairs {selector node : Value} (hs : isSelectors selector = true)
    (hn : isPairFormNode node = true) : (singlePairs selector node).all isSinglePair = true := by
  obtain ⟨texts, -, hp⟩ := exists_texts_of_isSelectors hs
  simp [hp, isSinglePair, hn]

/-- A pair and the items after it, in the three ways to write a pair. -/
theorem all_pairFormItems_pair {selector node : Value} {rest : List Value}
    (h : (isSelectors selector && textSelectorsNode node && textSelectorsItems rest) = true)
    (hn : textSelectorsNode node = true → isPairFormNode (pairFormNode node) = true)
    (hr : textSelectorsItems rest = true → (pairFormItems rest).all isSinglePair = true) :
    (singlePairs selector (pairFormNode node) ++ pairFormItems rest).all isSinglePair = true := by
  simp only [Bool.and_eq_true] at h
  rw [List.all_append, all_singlePairs h.1.1 (hn h.1.2), hr h.2]
  rfl

/-- An item that is not written as a pair is none, unless it is text with two characters. -/
theorem unpackPair_of_not_pair {item : Value}
    (hl : ∀ a b, item ≠ .list [a, b]) (ht : ∀ a b, item ≠ .tuple [a, b])
    (hm : ∀ a v b w, item ≠ .mapping [(a, v), (b, w)]) :
    (∃ e, unpackPair item = .error e ∧ characterPair item = item) ∨
      ∃ a b, unpackPair item = .ok (.text a, .text b) ∧
        characterPair item = .tuple [.text a, .text b] := by
  unfold unpackPair
  split
  · exact absurd rfl (hl _ _)
  · exact absurd rfl (ht _ _)
  · exact .inl ⟨_, rfl, rfl⟩
  · exact .inl ⟨_, rfl, rfl⟩
  · exact absurd rfl (hm _ _ _ _)
  · exact .inl ⟨_, rfl, rfl⟩
  · rename_i s
    rw [characterPair]
    generalize s.toList = characters
    match characters with
    | [] => exact .inl ⟨_, rfl, rfl⟩
    | [a] => exact .inl ⟨_, rfl, rfl⟩
    | [a, b] => exact .inr ⟨_, _, rfl, rfl⟩
    | a :: b :: c :: rest => exact .inl ⟨_, rfl, rfl⟩
  · exact .inl ⟨_, rfl, rfl⟩
  · rename_i hs _
    refine .inl ⟨_, rfl, ?_⟩
    rw [characterPair]
    exact hs

theorem isSinglePair_characterPair {item : Value}
    (hl : ∀ a b, item ≠ .list [a, b]) (ht : ∀ a b, item ≠ .tuple [a, b])
    (hm : ∀ a v b w, item ≠ .mapping [(a, v), (b, w)]) :
    isSinglePair (characterPair item) = true := by
  rcases unpackPair_of_not_pair hl ht hm with ⟨e, hu, hc⟩ | ⟨a, b, -, hc⟩ <;> rw [hc]
  · unfold isSinglePair
    split
    · exact absurd rfl (ht _ _)
    · rw [hu]
  · rfl

/-- The form of pairs has one selector in each pair, at every depth. -/
theorem isPairForm_pairForm :
    (∀ v, textSelectorsNode v = true → isPairFormNode (pairFormNode v) = true) ∧
    (∀ entries, textSelectorsFields entries = true →
      isPairFormFields (pairFormFields entries) = true) ∧
    (∀ v, textSelectors v = true → isPairForm (pairForm v) = true) ∧
    (∀ items, textSelectorsItems items = true → (pairFormItems items).all isSinglePair = true) ∧
    (∀ entries, textSelectorsEntries entries = true →
      (pairFormEntries entries).all isSinglePair = true) := by
  refine pairFormNode.mutual_induct _ _ _ _ _ ?_ ?_ ?_ ?_ ?_ ?_ ?_ ?_ ?_ ?_ ?_ ?_ ?_ ?_ ?_ ?_ ?_
  -- A node.
  · intro entries ih h
    exact ih h
  · intro v hv _
    rw [pairFormNode, isPairFormNode]
    all_goals exact hv
  -- A rule set.
  · intro entries ih h
    exact (arePairs_eq_all _).trans (ih h)
  · intro items ih h
    exact (arePairs_eq_all _).trans (ih h)
  · intro items ih h
    exact (arePairs_eq_all _).trans (ih h)
  · intro fields keyframes ih h
    simp [pairForm, isPairForm, arePairs_eq_all, Value.animationEntries, isSinglePair,
      isPairFormNode, ih h]
  · intro v hm hl ht ha _
    rw [pairForm, isPairForm]
    all_goals assumption
  -- The items of a rule set.
  · intro _
    rfl
  · intro selector node rest ihn ihr h
    exact all_pairFormItems_pair h ihn ihr
  · intro selector node rest ihn ihr h
    exact all_pairFormItems_pair h ihn ihr
  · intro selector v node w rest ihn ihr h
    exact all_pairFormItems_pair h ihn ihr
  · intro item rest hl ht hm ih h
    rw [textSelectorsItems] at h
    · rw [pairFormItems, List.all_cons, isSinglePair_characterPair hl ht hm, ih h]
      · rfl
      all_goals assumption
    all_goals assumption
  -- The entries of a node.
  · intro _
    rfl
  · intro key v rest ihr ihn ih h
    simp only [textSelectorsFields, Bool.and_eq_true] at h
    rw [pairFormFields]
    by_cases hk : key = nestingKey
    · simp only [hk, if_true] at h ⊢
      rw [isPairFormFields, if_pos rfl, ihr h.1, ih h.2]
      rfl
    by_cases hp : isPseudoKey key = true
    · simp only [hk, hp, if_true, if_false] at h ⊢
      rw [isPairFormFields, if_neg hk, if_pos hp, ihn h.1, ih h.2]
      rfl
    · simp only [if_neg hk, if_neg hp] at h ⊢
      rw [isPairFormFields, if_neg hk, if_neg hp, ih h.2]
      rfl
  · intro e rest he ih h
    rw [textSelectorsFields] at h
    · rw [pairFormFields, isPairFormFields]
      · exact ih h
      all_goals exact he
    · exact he
  -- The entries of a rule set.
  · intro _
    rfl
  · intro selector node rest ihn ihr h
    simp only [textSelectorsEntries, Bool.and_eq_true] at h
    obtain ⟨⟨hs, hn⟩, hr⟩ := h
    obtain ⟨s, hs⟩ := Option.isSome_iff_exists.1 hs
    obtain rfl := text?_eq_some.1 hs
    rw [pairFormEntries, List.all_cons, ihr hr]
    simp [isSinglePair, ihn hn]

end Stylesheet
