import Stylesheet.Keyframes
/-!
# Compiling rule sets

Nested rules are lowered to a flat list: each node gives its own declarations first, then its
nested rules, then the keyframes of its inline animations. The rules inside a grouping rule are
compiled under the selector around it, and each is wrapped on its own.
-/

namespace Stylesheet

/-- The rule of a node's own declarations, if it has any. -/
def ownRule (selector : String) (declarations : List (String × Value)) :
    Except Failure (List String) := do
  let body ← declarationBlock declarations
  return if body = "" then [] else [Selector.block selector body]

/-- The blocks of inline keyframes. -/
def inlineKeyframes (keyframes : List (String × Value)) : Logged (List String) :=
  Logged.forEach (fun k => keyframesBlock k.1 k.2 keyframeIndent) keyframes

mutual

/-- The rules of a style node. -/
def compileNode (selector : String) (styles : Value) : Logged (List String) :=
  match _h : splitNode selector styles with
  | .error e => .fail e
  | .ok parts => do
    let own ← Logged.ofExcept (ownRule selector parts.declarations)
    let nested ← compileEntries selector parts.nested
    let blocks ← inlineKeyframes parts.keyframes
    return own ++ nested ++ blocks
termination_by (styles.height, 0, 0)
decreasing_by
  have := nodesHeight_splitNode_lt _h
  exact Prod.Lex.left _ _ this

/-- The rules of the entries of a rule set inside a rule with the selector `parent`. -/
def compileEntries (parent : String) : List RuleEntry → Logged (List String)
  | [] => pure []
  | (selector, styles) :: rest =>
    match selector.text? with
    | none => .fail .keyNotText
    | some selector => do
      let rules ← compileNode (Selector.inside parent selector) styles
      let more ← compileEntries parent rest
      return rules.map (Selector.wrap selector) ++ more
termination_by entries => (nodesHeight entries, 1, entries.length)
decreasing_by
  all_goals simp only [nodesHeight, List.length_cons, Prod.lex_def]
  all_goals simp
  all_goals omega

end

/-- The rules of a rule set. -/
def compileRules (rules : Value) : Logged (List String) := do
  let entries ← Logged.ofExcept (ruleEntries rules)
  compileEntries "" entries

/-- The CSS text of a rule set, a rule on each line. -/
def css (rules : Value) : Logged String := do
  return "\n".intercalate (← compileRules rules)

end Stylesheet
