import Stylesheet.Format
import Stylesheet.Text.Alphanumeric
/-!
# Animations

An animation is its eight sub-properties and its keyframes. One whose keyframes are not
registered is inline: wherever it is used, its keyframes get a name made from the selector and
are placed beside the rule.
-/

namespace Stylesheet

/-- An animation and its keyframes, `absent` if it has none of its own. -/
structure AnimationDefinition where
  fields : AnimationFields
  keyframes : Value := .absent
  deriving Repr, Inhabited

namespace AnimationDefinition

/-- An animation as a value. -/
def toValue (d : AnimationDefinition) : Value := .animation d.fields d.keyframes

/-- Whether the keyframes still need a name. -/
def isInline (d : AnimationDefinition) : Bool :=
  match d.keyframes with
  | .absent => false
  | .handle _ _ _ => false
  | _ => true

end AnimationDefinition

/-! ## The shorthand -/

/-- The sub-properties in the order of the shorthand, with their values. -/
def AnimationFields.properties (f : AnimationFields) : List (String × Scalar) := [
  ("animation-name", .ofText f.name),
  ("animation-duration", .ofAmount f.duration),
  ("animation-timing-function", .ofText f.timingFunction),
  ("animation-delay", .ofAmount f.delay),
  ("animation-iteration-count", .ofAmount f.iterationCount),
  ("animation-direction", .ofText f.direction),
  ("animation-fill-mode", .ofText f.fillMode),
  ("animation-play-state", .ofText f.playState)]

/-- The text of the `animation` shorthand: the sub-properties that have a text, in order. -/
def AnimationFields.shorthand (f : AnimationFields) : String :=
  " ".intercalate
    ((f.properties.filterMap fun p => formatScalar p.1 p.2).filter (· ≠ ""))

/-! ## Names of inline animations -/

namespace InlineName

/-- A character that a name keeps. -/
def keeps (c : Char) : Bool := Text.isWord c || c == '-'

/-- Every run of other characters becomes one `_`; the flag says whether such a run is going on. -/
def sanitize : Bool → List Char → List Char
  | _, [] => []
  | inRun, c :: rest =>
    if keeps c then c :: sanitize false rest
    else if inRun then sanitize true rest
    else '_' :: sanitize true rest

/-- Drops one `_` at the front. -/
def dropMark : List Char → List Char
  | '_' :: rest => rest
  | cs => cs

/-- What an inline animation is named after: its own name, or else the selector using it. -/
def base (name : Option String) (selector : String) : String :=
  match name with
  | none | some "" => selector ++ "-animation"
  | some n => n

end InlineName

/-- The name of the inline animation at a position of an animation value. -/
def inlineName (name : Option String) (selector : String) (position : Int) : String :=
  String.ofList
    (InlineName.dropMark (InlineName.sanitize false (InlineName.base name selector).toList))
    ++ "-" ++ toString position

end Stylesheet
