import Stylesheet.Proofs.Visits
/-!
# The rules of a rule set, by the paths to its nodes

Compiling a rule set is visiting its nodes. Selectors that share a node stand for an entry each, and
a node at the end of a path compiles as its path says (`compileRules_nestedRuleSet`), wherever on
the path the grouping rules stand.
-/

namespace Stylesheet

/-! ## Lists of selectors -/

theorem displayAll_texts (selectors : List String) :
    displayAll (selectors.map .text) = .ok selectors := by
  induction selectors with
  | nil => rfl
  | cons s rest ih =>
    rw [List.map_cons, displayAll, ih]
    rfl

/-- Selectors that share a node stand for an entry each, in their order. -/
theorem pairEntries_lists (pairs : List (List String × Value)) :
    pairEntries (pairs.map fun p => .list [.list (p.1.map .text), p.2]) =
      .ok (pairs.flatMap fun p => p.1.map fun s => (.text s, p.2)) := by
  induction pairs with
  | nil => rfl
  | cons p rest ih =>
    rw [List.map_cons, pairEntries, ih]
    show (do let selectors ← displayAll (p.1.map .text); _) = _
    rw [displayAll_texts]
    rfl

/-! ## One node at the end of a path -/

/-- A node inside rules that hold nothing else. -/
def nestedRuleSet (node : Value) : String → List String → Value
  | s, [] => .mapping [(.text s, node)]
  | s, t :: rest => .mapping [(.text s, .mapping [(.text nestingKey, nestedRuleSet node t rest)])]

theorem compileEntries_single (parent s : String) (node : Value) :
    compileEntries parent [(.text s, node)] =
      do return (← compileNode (Selector.inside parent s) node).map (Selector.wrap s) := by
  rw [compileEntries]
  simp only [Value.text?, compileEntries, pure_bind, List.append_nil]

/-- A node with nothing but nested rules is these rules. -/
theorem compileNode_nested (selector : String) (entries : List RuleEntry) :
    compileNode selector (.mapping [(.text nestingKey, .mapping entries)]) =
      compileEntries selector entries := by
  have split : splitNode selector (.mapping [(.text nestingKey, .mapping entries)]) =
      .ok { nested := entries } := by
    simp only [splitNode, splitEntries, splitEntry, Value.isAbsent, Value.text?, ruleEntries]
    simp only [Bool.false_eq_true, if_false, if_true]
    show Except.ok (_ ++ _) = _
    rw [show ({ nested := entries } ++ ({} : NodeParts)) = { nested := entries } from
      congrArg (NodeParts.mk [] · []) (List.append_nil entries)]
  unfold compileNode
  split
  · rename_i e he
    cases split.symm.trans he
  rename_i parts hs
  obtain rfl : { nested := entries } = parts := Except.ok.inj (split.symm.trans hs)
  show (do let nested ← compileEntries selector entries
           let blocks ← (pure [] : Logged (List String))
           return [] ++ nested ++ blocks) = _
  simp only [pure_bind, List.nil_append, List.append_nil, bind_pure]

/-- Compiles a node under the selector that a path composes, and wraps its rules in the grouping
rules of the path. -/
def compileAt (parent : String) (path : List String) (node : Value) : Logged (List String) := do
  let rules ← compileNode (Selector.composed parent path) node
  return rules.map fun rule => Selector.wrapAll (Selector.groupings path) rule

theorem compileAt_cons (parent s : String) (path : List String) (node : Value) :
    compileAt parent (s :: path) node =
      do return (← compileAt (Selector.inside parent s) path node).map (Selector.wrap s) := by
  simp only [compileAt, bind_assoc, pure_bind, Selector.composed_cons,
    Selector.groupings_cons s path, List.map_map, Function.comp_def,
    Selector.wrapAll_groupings_append]

/-- A node at the end of a path compiles as its path says. -/
theorem compileRules_nestedRuleSet (node : Value) (s : String) (rest : List String) :
    compileRules (nestedRuleSet node s rest) = compileAt "" (s :: rest) node := by
  have inner : ∀ parent, ∃ entries, nestedRuleSet node s rest = .mapping entries ∧
      compileEntries parent entries = compileAt parent (s :: rest) node := by
    -- From the outside in: each selector composes the parent of those after it.
    induction rest generalizing s with
    | nil =>
      intro parent
      refine ⟨[(.text s, node)], rfl, ?_⟩
      rw [compileEntries_single, compileAt_cons]
      simp [compileAt, Selector.composed, Selector.groupings, Selector.wrapAll]
    | cons t rest ih =>
      intro parent
      obtain ⟨entries, he, hc⟩ := ih t (Selector.inside parent s)
      refine ⟨[(.text s, .mapping [(.text nestingKey, .mapping entries)])], ?_, ?_⟩
      · rw [nestedRuleSet, he]
      · rw [compileEntries_single, compileNode_nested, hc, ← compileAt_cons]
  obtain ⟨entries, he, hc⟩ := inner ""
  rw [he]
  exact hc

/-- A rule set compiles to the texts of the pieces that the visits to its nodes emit, each wrapped
in the grouping rules of its path and under the selector that the path composes. Selectors that
share a node stand for an entry each, in their order. Where on a path its grouping rules stand does
not matter, only their order and that of the other selectors. -/
theorem compileRules_by_paths :
    (∀ rules log out, compileRules rules = ⟨log, .ok out⟩ ↔ ∃ vs, visits rules = .ok vs ∧
      Logged.forEach Piece.text (vs.flatMap (Visit.pieces "")) = ⟨log, .ok out⟩) ∧
    (∀ pairs : List (List String × Value),
      visits (.list (pairs.map fun p => .list [.list (p.1.map .text), p.2])) =
        visitEntries (pairs.flatMap fun p => p.1.map fun s => (.text s, p.2))) ∧
    (∀ node s path t others,
      Selector.groupings (s :: path) = Selector.groupings (t :: others) →
      ((s :: path).filter fun s => !Selector.isGrouping s) =
        ((t :: others).filter fun s => !Selector.isGrouping s) →
      compileRules (nestedRuleSet node s path) = compileRules (nestedRuleSet node t others)) := by
  refine ⟨fun rules log out => compileRules_eq_ok, fun pairs => ?_,
    fun node s path t others hg hc => ?_⟩
  · show (do let entries ← pairEntries _; visitEntries entries) = _
    rw [pairEntries_lists]
    rfl
  · rw [compileRules_nestedRuleSet, compileRules_nestedRuleSet, compileAt, compileAt,
      Selector.composed, hc, hg]
    rfl

/-- A grouping rule may stand around a rule or in it. -/
theorem compileRules_by_paths_media :
    let node := Value.mapping [(.text "width", .scalar (.int 1))]
    Selector.groupings ["@media print", ".a", "&:hover"] =
        Selector.groupings [".a", "&:hover", "@media print"] ∧
      ["@media print", ".a", "&:hover"].filter (fun s => !Selector.isGrouping s) =
        [".a", "&:hover", "@media print"].filter (fun s => !Selector.isGrouping s) ∧
      compileRules (nestedRuleSet node "@media print" [".a", "&:hover"]) =
        compileRules (nestedRuleSet node ".a" ["&:hover", "@media print"]) :=
  ⟨by decide, by decide, compileRules_by_paths.2.2 _ _ _ _ _ (by decide) (by decide)⟩

end Stylesheet
