import Stylesheet.Proofs.Paths
/-!
# Rules stay in their scope

A rule set with one selector compiles to rules for that selector only. Every selector composed
below it still contains it, since a nested selector either says where its parent goes or is a
descendant of it (`ScopedTo.compose`), and grouping rules leave the selector as it is.
-/

namespace Stylesheet

namespace Selector

/-! ## Selectors in a scope -/

/-- A selector that contains the scope and leaves no parent to be filled in. -/
def ScopedTo (scope selector : String) : Prop :=
  scope.toList <:+: selector.toList ∧ '&' ∉ selector.toList

theorem toList_fillParent (parent child : String) : (fillParent parent child).toList =
    child.toList.flatMap fun c => if c = '&' then parent.toList else [c] := by
  rw [fillParent, String.toList_ofList]

theorem ScopedTo.refl {scope : String} (h : '&' ∉ scope.toList) : ScopedTo scope scope :=
  ⟨List.infix_rfl, h⟩

theorem ScopedTo.ne_empty {scope selector : String} (h : ScopedTo scope selector)
    (hs : scope ≠ "") : selector ≠ "" := by
  rintro rfl
  exact hs (String.toList_eq_nil_iff.1 (List.eq_nil_of_infix_nil h.1))

/-- Where a selector says `&`, the parent is put in. -/
theorem ScopedTo.fillParent {scope parent child : String} (h : ScopedTo scope parent)
    (hc : '&' ∈ child.toList) : ScopedTo scope (fillParent parent child) := by
  rw [ScopedTo, toList_fillParent]
  constructor
  · obtain ⟨before, after, hsplit⟩ := List.append_of_mem hc
    refine h.1.trans ?_
    rw [hsplit, List.flatMap_append, List.flatMap_cons, if_pos rfl]
    exact ⟨_, _, (List.append_assoc _ _ _).trans rfl⟩
  · rw [List.mem_flatMap]
    rintro ⟨c, -, hmem⟩
    split at hmem
    · exact h.2 hmem
    · rename_i hne
      exact hne (List.mem_singleton.1 hmem).symm

/-- A selector below one in the scope is in the scope, wherever it puts its parent. -/
theorem ScopedTo.compose {scope parent : String} (hs : scope ≠ "") (h : ScopedTo scope parent)
    (child : String) : ScopedTo scope (compose parent child) := by
  unfold Selector.compose
  split
  · rename_i hc
    exact h.fillParent (by simpa using hc)
  · rename_i hc
    rw [if_neg (h.ne_empty hs)]
    constructor
    · refine h.1.trans ⟨[], " ".toList ++ child.toList, ?_⟩
      simp
    · have hchild : '&' ∉ child.toList := by simpa using hc
      simpa [hchild] using h.2

/-- A path below a selector in the scope stays in the scope. -/
theorem ScopedTo.composed {scope parent : String} (hs : scope ≠ "") (h : ScopedTo scope parent)
    (path : List String) : ScopedTo scope (composed parent path) := by
  induction path generalizing parent with
  | nil => exact h
  | cons s rest ih =>
    rw [composed_cons]
    apply ih
    unfold Selector.inside
    split
    · exact h
    · exact h.compose hs s

theorem compose_empty {child : String} (h : '&' ∉ child.toList) :
    Selector.compose "" child = child := by
  simp [Selector.compose, h]

end Selector

/-! ## Blocks in a scope -/

/-- The text of a block of keyframes, or of a rule whose selector is in the scope. -/
inductive ScopedText (scope : String) : String → Prop where
  | keyframes {name : String} {set : Value} {log : List LogRecord} {text : String}
      (h : keyframesBlock name set keyframeIndent = ⟨log, .ok text⟩) : ScopedText scope text
  | rule {selector body : String} {declarations : List Declaration}
      (h : declarationBlock declarations = .ok body) (hs : Selector.ScopedTo scope selector) :
      ScopedText scope (Selector.block selector body)

theorem ScopedText.of_mem_blocks {scope selector : String} (hs : Selector.ScopedTo scope selector)
    {v : Visit} {b : Block} (hb : b ∈ v.blocks selector) {log : List LogRecord} {text : String}
    (h : b.text = ⟨log, .ok text⟩) : ScopedText scope text := by
  obtain rfl | ⟨a, -, rfl⟩ := Visit.mem_blocks hb
  · obtain ⟨declarations, body, -, hbody, rfl⟩ := Block.text_rule_eq_ok h
    exact .rule hbody hs
  · exact .keyframes h

/-- Every rule of a rule set with one selector is, inside grouping rules, keyframes or a rule whose
selector contains that one and leaves no parent to be filled in. -/
theorem compileRules_scoped {scope : String} (hne : scope ≠ "") (hamp : '&' ∉ scope.toList)
    (hg : Selector.isGrouping scope = false) (node : Value) {log : List LogRecord}
    {out : List String} (h : compileRules (.mapping [(.text scope, node)]) = ⟨log, .ok out⟩)
    {text : String} (ht : text ∈ out) :
    ∃ groupings inner, (∀ g ∈ groupings, Selector.isGrouping g = true) ∧
      text = Selector.wrapAll groupings inner ∧ ScopedText scope inner := by
  obtain ⟨vs, hv, hout⟩ := compileRules_eq_ok.1 h
  obtain ⟨p, hp, l, hpt⟩ := Logged.exists_mem_of_forEach hout ht
  obtain ⟨v, hvs, hp⟩ := List.mem_flatMap.1 hp
  -- The path to every node starts with the scope.
  obtain ⟨s, own, more, hs, -, hm, rfl⟩ := visitEntries_cons_eq_ok.1 hv
  cases hs
  cases hm.symm.trans (visitEntries.eq_1)
  rw [List.append_nil] at hvs
  obtain ⟨w, -, rfl⟩ := List.mem_map.1 hvs
  obtain ⟨b, hb, rfl⟩ := List.mem_map.1 hp
  obtain ⟨inner, hinner, rfl⟩ := Logged.map_eq_ok.1 hpt
  refine ⟨_, inner, fun g hg => (List.mem_filter.1 hg).2, rfl, ?_⟩
  refine ScopedText.of_mem_blocks ?_ hb hinner
  show Selector.ScopedTo scope (Selector.composed "" (scope :: w.path))
  rw [Selector.composed_cons, Selector.inside, hg, Selector.compose_empty hamp]
  exact (Selector.ScopedTo.refl hamp).composed hne w.path

/-- A grouping rule in the scope, and in it a selector that says twice where its parent goes. -/
theorem compileRules_scoped_media :
    let leaf := Value.mapping [(.text "width", .scalar (.int 1))]
    let rule := Selector.block "@media print" (Selector.block "a .x + .x" "width: 1px;")
    ".x" ≠ "" ∧ '&' ∉ ".x".toList ∧ Selector.isGrouping ".x" = false ∧
      compileRules (nestedRuleSet leaf ".x" ["@media print", "a & + &"]) = ⟨[], .ok [rule]⟩ ∧
      ∃ groupings inner, (∀ g ∈ groupings, Selector.isGrouping g = true) ∧
        rule = Selector.wrapAll groupings inner ∧ ScopedText ".x" inner := by
  intro leaf rule
  have compiled : compileRules (nestedRuleSet leaf ".x" ["@media print", "a & + &"]) =
      ⟨[], .ok [rule]⟩ := by
    have path : Selector.composed "" [".x", "@media print", "a & + &"] = "a .x + .x" := by decide
    have split : splitNode "a .x + .x" leaf =
        .ok { declarations := [("width", .scalar (.int 1))] } := rfl
    have own : ownRule "a .x + .x" [("width", .scalar (.int 1))] =
        .ok [Selector.block "a .x + .x" "width: 1px;"] := rfl
    rw [compileRules_nestedRuleSet, compileAt, path, compileNode_of_split split, own,
      compileEntries]
    have groupings : Selector.groupings [".x", "@media print", "a & + &"] = ["@media print"] := by
      decide
    rw [groupings]
    rfl
  have hne : ".x" ≠ "" := by decide
  have hamp : '&' ∉ ".x".toList := by decide
  have hg : Selector.isGrouping ".x" = false := by decide
  exact ⟨hne, hamp, hg, compiled, compileRules_scoped hne hamp hg _ compiled List.mem_cons_self⟩

end Stylesheet
