import Stylesheet.Format
/-!
# Rule sets

A rule set is a mapping of selectors to style nodes, or a sequence of pairs of them in which a
list of selectors shares its node. `ruleEntries` flattens either form; what it yields is never
nested deeper than the rule set itself (`nodesHeight_ruleEntries_le`).
-/

namespace Stylesheet

/-- A selector and its style node. -/
abbrev RuleEntry := Value × Value

/-- The two parts of a pair: of a list, of text with two characters, or of a mapping with two
keys. -/
def unpackPair : Value → Except Failure RuleEntry
  | .list [a, b] | .tuple [a, b] => .ok (a, b)
  | .list _ | .tuple _ => .error .notPair
  | .mapping [(a, _), (b, _)] => .ok (a, b)
  | .mapping _ => .error .notPair
  | .text s => match s.toList with
    | [a, b] => .ok (.text (String.singleton a), .text (String.singleton b))
    | _ => .error .notPair
  | .animation _ _ => .error .notPair
  | _ => .error .notIterable

/-- The texts of a list of values. -/
def displayAll : List Value → Except Failure (List String)
  | [] => .ok []
  | v :: rest => do
    let text ← v.display
    let more ← displayAll rest
    return text :: more

/-- The selectors that the first part of a pair lists. -/
def selectorTexts : Value → Except Failure (List String)
  | .list items | .tuple items => displayAll items
  | v => do return [← v.display]

/-- The entries of a sequence of pairs, one for each selector. -/
def pairEntries : List Value → Except Failure (List RuleEntry)
  | [] => .ok []
  | item :: rest => do
    let (selector, node) ← unpackPair item
    let selectors ← selectorTexts selector
    let more ← pairEntries rest
    return selectors.map (fun s => (.text s, node)) ++ more

/-- The entries of a rule set, in order. -/
def ruleEntries : Value → Except Failure (List RuleEntry)
  | .mapping entries => .ok entries
  | .list items | .tuple items => pairEntries items
  | .text s => pairEntries (s.toList.map fun c => .text (String.singleton c))
  | .animation fields keyframes =>
    .ok ((Value.animationEntries fields keyframes).map fun e => (.text e.1, e.2))
  | _ => .error .notIterable

/-! ## Height -/

/-- The greatest height among the nodes of rule entries. -/
def nodesHeight : List RuleEntry → Nat
  | [] => 0
  | e :: rest => max e.2.height (nodesHeight rest)

theorem nodesHeight_append (a b : List RuleEntry) :
    nodesHeight (a ++ b) = max (nodesHeight a) (nodesHeight b) := by
  induction a with
  | nil => simp [nodesHeight]
  | cons e rest ih => simp [nodesHeight, ih, Nat.max_assoc]

theorem nodesHeight_le_heightOfEntries (entries : List RuleEntry) :
    nodesHeight entries ≤ Value.heightOfEntries entries := by
  induction entries with
  | nil => simp [nodesHeight]
  | cons e rest ih =>
    obtain ⟨k, v⟩ := e
    simp only [nodesHeight, Value.heightOfEntries]
    omega

theorem height_unpackPair_le {item selector node : Value}
    (h : unpackPair item = .ok (selector, node)) : node.height ≤ item.height := by
  unfold unpackPair at h
  split at h
  case h_1 | h_2 =>
    cases h
    simp only [Value.height, Value.heightOfItems]
    omega
  case h_5 =>
    cases h
    simp only [Value.height, Value.heightOfEntries]
    omega
  case h_7 =>
    split at h
    · cases h
      simp [Value.height]
    · cases h
  all_goals cases h

theorem nodesHeight_map_const_le (selectors : List String) (node : Value) :
    nodesHeight (selectors.map fun s => (.text s, node)) ≤ node.height := by
  induction selectors with
  | nil => simp [nodesHeight]
  | cons s rest ih =>
    simp only [List.map_cons, nodesHeight]
    omega

theorem nodesHeight_pairEntries_le {items : List Value} {entries : List RuleEntry}
    (h : pairEntries items = .ok entries) : nodesHeight entries ≤ Value.heightOfItems items := by
  induction items generalizing entries with
  | nil =>
    cases h
    simp [nodesHeight]
  | cons item rest ih =>
    rw [pairEntries] at h
    obtain ⟨⟨selector, node⟩, hp, h⟩ := Failure.bind_eq_ok.1 h
    obtain ⟨selectors, -, h⟩ := Failure.bind_eq_ok.1 h
    obtain ⟨more, hr, h⟩ := Failure.bind_eq_ok.1 h
    cases h
    have := nodesHeight_map_const_le selectors node
    have := height_unpackPair_le hp
    have := ih hr
    rw [nodesHeight_append, Value.heightOfItems]
    omega

theorem heightOfItems_texts (cs : List Char) :
    Value.heightOfItems (cs.map fun c => .text (String.singleton c)) = 0 := by
  induction cs with
  | nil => rfl
  | cons c rest ih => simp [Value.heightOfItems, Value.height, ih]

/-- No node of a rule set is nested deeper than the rule set. -/
theorem nodesHeight_ruleEntries_le {rules : Value} {entries : List RuleEntry}
    (h : ruleEntries rules = .ok entries) : nodesHeight entries ≤ rules.height := by
  unfold ruleEntries at h
  split at h
  · cases h
    exact Nat.le_succ_of_le (nodesHeight_le_heightOfEntries _)
  · exact Nat.le_succ_of_le (nodesHeight_pairEntries_le h)
  · exact Nat.le_succ_of_le (nodesHeight_pairEntries_le h)
  · have := nodesHeight_pairEntries_le h
    rw [heightOfItems_texts] at this
    omega
  · cases h
    simp [nodesHeight, Value.animationEntries, Value.height]
  · cases h

end Stylesheet
