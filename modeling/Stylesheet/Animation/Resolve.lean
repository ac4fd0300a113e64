import Stylesheet.Animation.Fields
/-!
# Resolving animation values

The value of an `animation` key is text, a definition, a mapping that reads as one, or a list of
these. Resolving it gives the shorthand to declare and the keyframes of its inline animations,
each under the name that the shorthand uses.
-/

namespace Stylesheet

/-- The shorthand and the keyframes to place beside the rule. -/
structure ResolvedAnimation where
  value : String
  keyframes : List (String × Value) := []
  deriving Repr, Inhabited

namespace ResolvedAnimation

/-- What a definition at a position resolves to. -/
def ofDefinition (selector : String) (position : Nat) (d : AnimationDefinition) :
    ResolvedAnimation :=
  if d.isInline then
    let name := inlineName d.fields.name selector position
    { value := { d.fields with name := some name }.shorthand, keyframes := [(name, d.keyframes)] }
  else { value := d.fields.shorthand }

/-- Resolves a definition at a position, if its shorthand can be written. -/
def writeDefinition (selector : String) (position : Nat) (d : AnimationDefinition) :
    Except Failure ResolvedAnimation :=
  Failure.unlessTooLong d.fields.isTooLong (ofDefinition selector position d)

/-- Resolves one animation. -/
def ofItem (selector : String) (position : Nat) : Value → Except Failure ResolvedAnimation
  | .mapping entries => do
    writeDefinition selector position (← AnimationDefinition.ofEntries entries)
  | .animation fields keyframes => writeDefinition selector position { fields, keyframes }
  | v => do return { value := ← v.display }

/-- Resolves the animations of a list from a position on. -/
def ofItems (selector : String) (position : Nat) : List Value →
    Except Failure (List ResolvedAnimation)
  | [] => .ok []
  | v :: rest => do
    let a ← ofItem selector position v
    let more ← ofItems selector (position + 1) rest
    return a :: more

/-- Joins the animations of a list. -/
def join (animations : List ResolvedAnimation) : ResolvedAnimation where
  value := ", ".intercalate (animations.map value)
  keyframes := animations.flatMap keyframes

end ResolvedAnimation

/-- Resolves the value of an `animation` key in a rule with this selector. -/
def resolveAnimation (selector : String) : Value → Except Failure ResolvedAnimation
  | .list items => do return .join (← ResolvedAnimation.ofItems selector 0 items)
  | .tuple items => do return .join (← ResolvedAnimation.ofItems selector 0 items)
  | v => ResolvedAnimation.ofItem selector 0 v

end Stylesheet
