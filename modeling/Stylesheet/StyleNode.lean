import Stylesheet.Animation.Resolve
import Stylesheet.RuleSet
import Stylesheet.Selector
/-!
# Style nodes

A style node mixes declarations, nested rules (under `$` or under a key that starts with a colon)
and animations. `splitNode` separates the three; the nested nodes are less deep than the node
(`nodesHeight_splitNode_lt`).
-/

namespace Stylesheet

/-- The three parts of a style node, each in the order of the node's entries. -/
structure NodeParts where
  declarations : List (String × Value) := []
  nested : List RuleEntry := []
  keyframes : List (String × Value) := []
  deriving Repr, Inhabited

namespace NodeParts

/-- The parts of two stretches of a node, one after the other. -/
def append (a b : NodeParts) : NodeParts :=
  { declarations := a.declarations ++ b.declarations, nested := a.nested ++ b.nested,
    keyframes := a.keyframes ++ b.keyframes }

instance : Append NodeParts := ⟨append⟩

end NodeParts

/-- The key of nested rule sets. -/
def nestingKey : String := "$"

/-- The key of animations. -/
def animationKey : String := "animation"

/-- Whether a key stands for a state or a part of the element: it starts with a colon. -/
def isPseudoKey (key : String) : Bool := Selector.startsWith key ":"

/-- The parts that an entry contributes. Absent values are dropped before the key is looked at. -/
def splitEntry (selector : String) (key value : Value) : Except Failure NodeParts :=
  if value.isAbsent then .ok {}
  else match key.text? with
    | none => .error .keyNotText
    | some key =>
      if key = nestingKey then do return { nested := ← ruleEntries value }
      else if isPseudoKey key then .ok { nested := [(.text ("&" ++ key), value)] }
      else if key = animationKey then do
        let animation ← resolveAnimation selector value
        return { declarations := [(key, .text animation.value)], keyframes := animation.keyframes }
      else .ok { declarations := [(key, value)] }

/-- The parts of a list of entries. -/
def splitEntries (selector : String) : List (Value × Value) → Except Failure NodeParts
  | [] => .ok {}
  | (key, value) :: rest => do
    let parts ← splitEntry selector key value
    let more ← splitEntries selector rest
    return parts ++ more

/-- The parts of a style node in a rule with this selector. -/
def splitNode (selector : String) : Value → Except Failure NodeParts
  | .mapping entries => splitEntries selector entries
  | _ => .error .notMapping

/-! ## Height -/

theorem nodesHeight_splitEntry_le {selector : String} {key value : Value} {parts : NodeParts}
    (h : splitEntry selector key value = .ok parts) :
    nodesHeight parts.nested ≤ value.height := by
  unfold splitEntry at h
  split at h
  · cases h
    exact Nat.zero_le _
  split at h
  · cases h
  split at h
  · obtain ⟨entries, he, h⟩ := Failure.bind_eq_ok.1 h
    cases h
    exact nodesHeight_ruleEntries_le he
  split at h
  · cases h
    simp [nodesHeight]
  split at h
  · obtain ⟨animation, -, h⟩ := Failure.bind_eq_ok.1 h
    cases h
    exact Nat.zero_le _
  · cases h
    exact Nat.zero_le _

theorem nodesHeight_splitEntries_le {selector : String} {entries : List (Value × Value)}
    {parts : NodeParts} (h : splitEntries selector entries = .ok parts) :
    nodesHeight parts.nested ≤ Value.heightOfEntries entries := by
  induction entries generalizing parts with
  | nil =>
    cases h
    exact Nat.zero_le _
  | cons e rest ih =>
    obtain ⟨key, value⟩ := e
    rw [splitEntries] at h
    obtain ⟨own, ho, h⟩ := Failure.bind_eq_ok.1 h
    obtain ⟨more, hm, h⟩ := Failure.bind_eq_ok.1 h
    cases h
    have := nodesHeight_splitEntry_le ho
    have := ih hm
    show nodesHeight (own.nested ++ more.nested) ≤ _
    rw [nodesHeight_append, Value.heightOfEntries]
    omega

/-- The nested nodes of a node are less deep than the node. -/
theorem nodesHeight_splitNode_lt {selector : String} {styles : Value} {parts : NodeParts}
    (h : splitNode selector styles = .ok parts) : nodesHeight parts.nested < styles.height := by
  unfold splitNode at h
  split at h
  · exact Nat.lt_succ_of_le (nodesHeight_splitEntries_le h)
  · cases h

end Stylesheet
