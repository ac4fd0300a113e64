import Stylesheet.Proofs.FlatStylesheet
import Stylesheet.Proofs.PairForm
/-!
# Compiling a rule set as a list of pairs

A rule set and its list of pairs have the same entries, their nodes in the form of pairs, and these
split into the same parts. Both compile to the same rules and records, or fail in the same way
(`compileRules_pairForm`).
-/

namespace Stylesheet

/-! ## Entries -/

/-- The pairs of an item. What is not written as a pair is at most the pair of its characters. -/
def itemPairs : Value → List Value
  | .list [selector, node] => singlePairs selector (pairFormNode node)
  | .tuple [selector, node] => singlePairs selector (pairFormNode node)
  | .mapping [(selector, _), (node, _)] => singlePairs selector (pairFormNode node)
  | item => [characterPair item]

theorem pairFormItems_cons (item : Value) (rest : List Value) :
    pairFormItems (item :: rest) = itemPairs item ++ pairFormItems rest := by
  unfold itemPairs
  split
  · rw [pairFormItems]
  · rw [pairFormItems]
  · rw [pairFormItems]
  · rw [pairFormItems]
    · rfl
    all_goals assumption

/-- An item of a rule set with text selectors: its pairs have the entries of the item, and its node
has text selectors too. -/
structure PairsUp (item : Value) : Prop where
  entries : pairEntries (itemPairs item) = do
    let (selector, node) ← unpackPair item
    return (← selectorTexts selector).map fun s => pairFormEntry (.text s, node)
  node : ∀ selector node, unpackPair item = .ok (selector, node) → textSelectorsNode node = true

/-- Single pairs have the entries of the selectors that share the node. -/
theorem pairEntries_singlePairs {selector : Value} (h : isSelectors selector = true)
    (node : Value) : pairEntries (singlePairs selector (pairFormNode node)) =
      do return (← selectorTexts selector).map fun s => pairFormEntry (.text s, node) := by
  obtain ⟨texts, ht, hp⟩ := exists_texts_of_isSelectors h
  have pairs := ruleEntries_pairList (texts.map fun s => (s, pairFormNode node))
  simp only [pairList, List.map_map, ruleEntries, pairRuleEntries] at pairs
  rw [hp, ht]
  exact pairs

theorem PairsUp.of_unpacks {item selector node : Value}
    (hu : unpackPair item = .ok (selector, node))
    (hp : itemPairs item = singlePairs selector (pairFormNode node))
    (hs : isSelectors selector = true) (hn : textSelectorsNode node = true) : PairsUp item := by
  refine ⟨?_, fun _ _ hu' => ?_⟩
  · rw [hp, hu, pairEntries_singlePairs hs]
    rfl
  · cases hu.symm.trans hu'
    exact hn

theorem pairsUp_of_textSelectors {item : Value} {rest : List Value}
    (h : textSelectorsItems (item :: rest) = true) :
    PairsUp item ∧ textSelectorsItems rest = true := by
  have pair {item selector node : Value} {rest : List Value}
      (h : (isSelectors selector && textSelectorsNode node && textSelectorsItems rest) = true)
      (hu : unpackPair item = .ok (selector, node))
      (hp : itemPairs item = singlePairs selector (pairFormNode node)) :
      PairsUp item ∧ textSelectorsItems rest = true := by
    simp only [Bool.and_eq_true] at h
    exact ⟨.of_unpacks hu hp h.1.1 h.1.2, h.2⟩
  unfold textSelectorsItems at h
  split at h
  · rename_i he
    cases he
  · rename_i he
    cases he
    exact pair h rfl rfl
  · rename_i he
    cases he
    exact pair h rfl rfl
  · rename_i he
    cases he
    exact pair h rfl rfl
  -- An item that is not written as a pair.
  · rename_i hl ht hm he
    cases he
    refine ⟨?_, h⟩
    have own : itemPairs item = [characterPair item] := by
      unfold itemPairs
      split
      · exact absurd rfl (hl _ _)
      · exact absurd rfl (ht _ _)
      · exact absurd rfl (hm _ _ _ _)
      · rfl
    rcases unpackPair_of_not_pair hl ht hm with ⟨e, hu, hc⟩ | ⟨a, b, hu, hc⟩
    · refine ⟨?_, fun _ _ hu' => ?_⟩
      · rw [own, hc, pairEntries, hu]
        rfl
      · cases hu.symm.trans hu'
    · exact .of_unpacks hu (by rw [own, hc]; rfl) rfl rfl

theorem pairEntries_pairFormItems {items : List Value} (h : textSelectorsItems items = true) :
    pairEntries (pairFormItems items) = do return (← pairEntries items).map pairFormEntry := by
  induction items with
  | nil => rfl
  | cons item rest ih =>
    obtain ⟨hi, hr⟩ := pairsUp_of_textSelectors h
    rw [pairFormItems_cons, pairEntries_append, hi.entries, ih hr, pairEntries]
    simp [Function.comp_def]

theorem pairEntries_pairFormEntries {entries : List RuleEntry}
    (h : textSelectorsEntries entries = true) :
    pairEntries (pairFormEntries entries) = .ok (entries.map pairFormEntry) := by
  induction entries with
  | nil => rfl
  | cons e rest ih =>
    obtain ⟨selector, node⟩ := e
    simp only [textSelectorsEntries, Bool.and_eq_true] at h
    obtain ⟨s, hs⟩ := Option.isSome_iff_exists.1 h.1.1
    obtain rfl := text?_eq_some.1 hs
    rw [pairFormEntries, pairEntries, ih h.2]
    rfl

/-- The characters of a text are no pairs. -/
theorem ruleEntries_text (s : String) :
    ruleEntries (.text s) = .ok [] ∨ ruleEntries (.text s) = .error .notPair := by
  show pairEntries (s.toList.map _) = _ ∨ pairEntries (s.toList.map _) = _
  cases s.toList with
  | nil => exact .inl rfl
  | cons c rest =>
    right
    rw [List.map_cons, pairEntries, unpackPair, String.toList_singleton]
    rfl

/-- The entries of the form of pairs are those of the rule set, their nodes in the form of pairs. -/
theorem ruleEntries_pairForm {rules : Value} (h : textSelectors rules = true) :
    ruleEntries (pairForm rules) = do return (← ruleEntries rules).map pairFormEntry := by
  cases rules with
  | mapping entries => exact pairEntries_pairFormEntries h
  | list items | tuple items => exact pairEntries_pairFormItems h
  | animation fields keyframes =>
    exact ruleEntries_pairList (Value.animationEntries fields (pairFormNode keyframes))
  | scalar s =>
    cases s with
    | text t => rcases ruleEntries_text t with he | he <;> rw [pairForm, he] <;> first | rfl | simp
    | _ => rfl
  | _ => rfl

theorem textSelectorsEntries_eq_all (entries : List (Value × Value)) :
    textSelectorsEntries entries =
      entries.all fun e => e.1.text?.isSome && textSelectorsNode e.2 := by
  induction entries with
  | nil => rfl
  | cons e rest ih => rw [List.all_cons, ← ih]; rfl

theorem textSelectorsNode_of_mem_items {items : List Value}
    (h : textSelectorsItems items = true) {entries : List RuleEntry}
    (he : pairEntries items = .ok entries) {e : RuleEntry} (hm : e ∈ entries) :
    textSelectorsNode e.2 = true := by
  induction items generalizing entries with
  | nil =>
    cases he
    cases hm
  | cons item rest ih =>
    obtain ⟨hi, hr⟩ := pairsUp_of_textSelectors h
    rw [pairEntries] at he
    obtain ⟨⟨selector, node⟩, hu, he⟩ := Failure.bind_eq_ok.1 he
    obtain ⟨selectors, more, -, hmore, rfl⟩ := Failure.both_eq_ok.1 he
    rcases List.mem_append.1 hm with hm | hm
    · obtain ⟨s, -, rfl⟩ := List.mem_map.1 hm
      exact hi.node selector node hu
    · exact ih hr hmore hm

/-- The nodes in a rule set with text selectors have text selectors. -/
theorem textSelectorsNode_of_mem {rules : Value} (h : textSelectors rules = true)
    {entries : List RuleEntry} (he : ruleEntries rules = .ok entries) {e : RuleEntry}
    (hm : e ∈ entries) : textSelectorsNode e.2 = true := by
  cases rules with
  | mapping l =>
    cases he
    rw [textSelectors, textSelectorsEntries_eq_all, List.all_eq_true] at h
    have he := h e hm
    rw [Bool.and_eq_true] at he
    exact he.2
  | list items | tuple items => exact textSelectorsNode_of_mem_items h he hm
  | animation fields keyframes =>
    cases he
    obtain ⟨f, hf, rfl⟩ := List.mem_map.1 hm
    -- All fields but the keyframes are scalars.
    have nodes : (Value.animationEntries fields keyframes).all
        (fun f => textSelectorsNode f.2) = true := by
      rw [textSelectors] at h
      simpa [Value.animationEntries, textSelectorsNode] using h
    exact List.all_eq_true.1 nodes f hf
  | scalar s =>
    cases s with
    | text t =>
      rcases ruleEntries_text t with ht | ht <;> cases ht.symm.trans he
      cases hm
    | _ => cases he
  | _ => cases he

/-! ## Nodes -/

theorem isAbsent_pairForm (v : Value) : (pairForm v).isAbsent = v.isAbsent := by
  cases v <;> rfl

theorem isAbsent_pairFormNode (v : Value) : (pairFormNode v).isAbsent = v.isAbsent := by
  cases v <;> rfl

/-- The parts of a node, the nested nodes in the form of pairs. -/
def NodeParts.pairForm (parts : NodeParts) : NodeParts :=
  { parts with nested := parts.nested.map pairFormEntry }

theorem NodeParts.pairForm_append (a b : NodeParts) :
    (a ++ b).pairForm = a.pairForm ++ b.pairForm := by
  show NodeParts.mk _ ((a.nested ++ b.nested).map _) _ = _
  rw [List.map_append]
  rfl

/-- Whether the selectors in an entry of a style node are text. -/
def textSelectorsField : Value × Value → Bool
  | (.text key, v) =>
    if key = nestingKey then textSelectors v
    else if isPseudoKey key then textSelectorsNode v
    else true
  | _ => true

theorem textSelectorsFields_eq_all (entries : List (Value × Value)) :
    textSelectorsFields entries = entries.all textSelectorsField := by
  induction entries with
  | nil => rfl
  | cons e rest ih =>
    rw [List.all_cons, ← ih]
    unfold textSelectorsField
    split
    · rw [textSelectorsFields]
    · rename_i hk
      rw [textSelectorsFields]
      · rfl
      · exact fun key v he => hk key v he

theorem splitEntry_nesting (selector : String) (v : Value) :
    splitEntry selector (.text nestingKey) v =
      if v.isAbsent then .ok {} else do return { nested := ← ruleEntries v } := by
  simp [splitEntry, Value.text?]

theorem splitEntry_pseudo (selector : String) {key : String} (hn : key ≠ nestingKey)
    (hp : isPseudoKey key = true) (v : Value) :
    splitEntry selector (.text key) v =
      if v.isAbsent then .ok {} else .ok { nested := [(.text ("&" ++ key), v)] } := by
  simp [splitEntry, Value.text?, hn, hp]

/-- What is no text holds no rules, nor does a key that is neither `$` nor starts with a colon. -/
theorem nested_splitEntry {selector : String} {k v : Value}
    (hk : ∀ key, k.text? = some key → key ≠ nestingKey ∧ isPseudoKey key = false)
    {parts : NodeParts} (h : splitEntry selector k v = .ok parts) : parts.nested = [] := by
  unfold splitEntry at h
  split at h
  · cases h
    rfl
  split at h
  · cases h
  rename_i key hkey
  obtain ⟨hn, hp⟩ := hk key hkey
  rw [if_neg hn, hp] at h
  split at h
  · contradiction
  split at h
  · obtain ⟨animation, -, h⟩ := Failure.bind_eq_ok.1 h
    cases h
    rfl
  · cases h
    rfl

/-- What is split in the form of pairs has the same parts, the nested nodes in the form of pairs;
these have text selectors before. -/
structure SplitsInPairs (pairForm parts : Except Failure NodeParts) : Prop where
  split : pairForm = do return (← parts).pairForm
  nested : ∀ p, parts = .ok p → ∀ n ∈ p.nested, textSelectorsNode n.2 = true

/-- What holds no rules is the same in the form of pairs. -/
theorem SplitsInPairs.of_no_rules {parts : Except Failure NodeParts}
    (h : ∀ p, parts = .ok p → p.nested = []) : SplitsInPairs parts parts := by
  cases parts with
  | error e => exact ⟨rfl, nofun⟩
  | ok p =>
    obtain ⟨declarations, nested, keyframes⟩ := p
    obtain rfl : nested = [] := h _ rfl
    refine ⟨rfl, fun p hp => ?_⟩
    cases hp
    exact nofun

theorem splitsInPairs_absent : SplitsInPairs (.ok {}) (.ok {}) :=
  .of_no_rules fun _ hp => by cases hp; rfl

theorem splitsInPairs_field (selector : String) {e : Value × Value}
    (h : textSelectorsField e = true) :
    SplitsInPairs (splitEntry selector (pairFormField e).1 (pairFormField e).2)
      (splitEntry selector e.1 e.2) := by
  obtain ⟨k, v⟩ := e
  cases hk : k.text? with
  | none =>
    have keep : pairFormField (k, v) = (k, v) := by
      unfold pairFormField
      split
      · rename_i he
        cases he
        cases hk
      · rfl
    rw [keep]
    exact .of_no_rules fun p hp =>
      nested_splitEntry (fun key hkey => by cases hk.symm.trans hkey) hp
  | some key =>
    obtain rfl := text?_eq_some.1 hk
    simp only [textSelectorsField] at h
    by_cases hn : key = nestingKey
    · subst hn
      simp only [pairFormField, if_true, splitEntry_nesting, isAbsent_pairForm] at h ⊢
      split
      · exact splitsInPairs_absent
      · refine ⟨by simp [ruleEntries_pairForm h, NodeParts.pairForm], fun p hp => ?_⟩
        obtain ⟨entries, he, hp⟩ := Failure.bind_eq_ok.1 hp
        cases hp
        exact fun n hm => textSelectorsNode_of_mem h he hm
    by_cases hp : isPseudoKey key = true
    · simp only [pairFormField, hn, hp, if_true, if_false, splitEntry_pseudo selector hn hp,
        isAbsent_pairFormNode] at h ⊢
      split
      · exact splitsInPairs_absent
      · refine ⟨rfl, fun p hp => ?_⟩
        cases hp
        exact fun n hm => List.mem_singleton.1 hm ▸ h
    · rw [pairFormField, if_neg hn, if_neg hp]
      refine .of_no_rules fun p hparts => nested_splitEntry (fun other ho => ?_) hparts
      cases ho
      exact ⟨hn, by simpa using hp⟩

theorem splitsInPairs_fields (selector : String) {entries : List (Value × Value)}
    (h : textSelectorsFields entries = true) :
    SplitsInPairs (splitEntries selector (pairFormFields entries))
      (splitEntries selector entries) := by
  rw [textSelectorsFields_eq_all] at h
  induction entries with
  | nil => exact splitsInPairs_absent
  | cons e rest ih =>
    rw [List.all_cons, Bool.and_eq_true] at h
    have own := splitsInPairs_field selector h.1
    have more := ih h.2
    rw [pairFormFields_cons, splitEntries, splitEntries]
    refine ⟨?_, fun p hp n hm => ?_⟩
    · rw [own.split, more.split]
      simp [NodeParts.pairForm_append]
    · obtain ⟨a, b, ha, hb, rfl⟩ := Failure.both_eq_ok.1 hp
      rcases List.mem_append.1 hm with hm | hm
      · exact own.nested a ha n hm
      · exact more.nested b hb n hm

/-- Splitting the form of pairs of a node gives its parts, the nested nodes in the form of pairs. -/
theorem splitsInPairs_node (selector : String) {node : Value} (h : textSelectorsNode node = true) :
    SplitsInPairs (splitNode selector (pairFormNode node)) (splitNode selector node) := by
  cases node with
  | mapping entries => exact splitsInPairs_fields selector h
  | _ => exact ⟨rfl, nofun⟩

/-! ## Compiling -/

/-- Nodes and rule entries compile to the same in the form of pairs. -/
theorem compile_pairForm :
    (∀ selector node, textSelectorsNode node = true →
      compileNode selector (pairFormNode node) = compileNode selector node) ∧
    (∀ parent entries, (∀ e ∈ entries, textSelectorsNode e.2 = true) →
      compileEntries parent (entries.map pairFormEntry) = compileEntries parent entries) := by
  refine compileNode.mutual_induct _ _ ?_ ?_ ?_ ?_ ?_
  -- A node that cannot be split.
  · intro selector node e he h
    have split := (splitsInPairs_node selector h).split
    rw [he] at split
    rw [compileNode_of_split_error he, compileNode_of_split_error split]
  -- A node and its nested rules.
  · intro selector node parts hs ih h
    obtain ⟨split, nested⟩ := splitsInPairs_node selector h
    rw [hs] at split
    rw [compileNode_of_split hs, compileNode_of_split split, ← ih (nested parts hs)]
    rfl
  -- No entries.
  · intro parent _
    rfl
  -- A selector that is not text.
  · intro parent selector node rest hs _
    rw [List.map_cons, pairFormEntry, compileEntries, compileEntries, hs]
  -- An entry and those after it.
  · intro parent selector node rest s hs ihn ihr h
    obtain ⟨hnode, hrest⟩ := List.forall_mem_cons.1 h
    rw [List.map_cons, pairFormEntry, compileEntries, compileEntries, hs]
    simp only [ihn hnode, ihr hrest]

/-- A rule set whose selectors are text, or in pairs lists of texts, compiles to the same rules and
records as its list of pairs with one selector each, or fails in the same way. -/
theorem compileRules_pairForm (rules : Value) (h : textSelectors rules = true) :
    isPairForm (pairForm rules) = true ∧ compileRules (pairForm rules) = compileRules rules := by
  refine ⟨isPairForm_pairForm.2.2.1 rules h, ?_⟩
  show Logged.ofExcept (ruleEntries (pairForm rules)) >>= compileEntries "" = _
  rw [ruleEntries_pairForm h, compileRules]
  cases he : ruleEntries rules with
  | error e => rfl
  | ok entries =>
    exact compile_pairForm.2 "" entries fun e hm => textSelectorsNode_of_mem h he hm

/-- A sequence of a pair that two selectors share, with a mapping in the node and another sequence
under a pseudo key in a grouping rule. -/
theorem compileRules_pairForm_mixed :
    let node := Value.mapping [(.text "width", .scalar (.int 1))]
    let rules := Value.tuple [.list [.list [.text ".a", .text ".b"], .mapping [
      (.text "$", .mapping [(.text "@media print", .mapping [(.text ":focus", .mapping [
        (.text "$", .list [.tuple [.tuple [.text "i", .text "b"], node]])])])])]]]
    let inner := Value.mapping [
      (.text "$", .list [.tuple [.text "@media print", .mapping [(.text ":focus", .mapping [
        (.text "$", .list [.tuple [.text "i", node], .tuple [.text "b", node]])])]]])]
    let pairs := Value.list [.tuple [.text ".a", inner], .tuple [.text ".b", inner]]
    textSelectors rules = true ∧ pairForm rules = pairs ∧
      compileRules pairs = compileRules rules := by
  intro node rules inner pairs
  have h : textSelectors rules = true := by decide
  exact ⟨h, rfl, (compileRules_pairForm rules h).2⟩

end Stylesheet
