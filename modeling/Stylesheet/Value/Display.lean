import Stylesheet.Number.Numeral
import Stylesheet.Number.Shortest
import Stylesheet.Text.Quoted
import Stylesheet.Value
/-!
# The text of values

`inspect` is the text of a value inside a collection: text is quoted there and handles show their
parts. The text of a scalar by itself is given here too; that of a variable needs its fallback
formatted and is given with the formatting of values.

A whole number with more digits than `Numeral.digitLimit` cannot be written. The texts here are
those of what can be: whoever writes a text asks `isTooLong` first.
-/

namespace Stylesheet

/-- The text of a truth value. -/
def boolText (b : Bool) : String := if b then "True" else "False"

/-! ## What can be written -/

/-- Whether a scalar is a whole number that is too long. -/
def Scalar.isTooLong : Scalar → Bool
  | .int n => Numeral.isTooLong n.natAbs
  | _ => false

/-- Whether a field of an animation is too long. -/
def AnimationFields.isTooLong (f : AnimationFields) : Bool := f.scalars.any Scalar.isTooLong

namespace Value

mutual

/-- Whether a number that is too long stands anywhere in a value. -/
def isTooLong : Value → Bool
  | .scalar s => s.isTooLong
  | .list items => areTooLong items
  | .tuple items => areTooLong items
  | .mapping entries => entriesTooLong entries
  | .variable _ _ fallback => fallback.isTooLong
  | .handle _ payload _ => payload.isTooLong
  | .animation fields keyframes => fields.isTooLong || keyframes.isTooLong

/-- The same of the items of a collection. -/
def areTooLong : List Value → Bool
  | [] => false
  | v :: rest => v.isTooLong || areTooLong rest

/-- The same of the entries of a mapping. -/
def entriesTooLong : List (Value × Value) → Bool
  | [] => false
  | (k, v) :: rest => k.isTooLong || v.isTooLong || entriesTooLong rest

end

end Value

/-! ## Texts -/

/-- A scalar by itself, whatever its length. -/
def Scalar.display : Scalar → String
  | .absent => "None"
  | .bool b => boolText b
  | .int n => toString n
  | .float x => x.text
  | .text s => s

/-- A scalar inside a collection. -/
def Scalar.inspect : Scalar → String
  | .text s => Text.quoted s
  | s => s.display

/-- The fields of an animation, each as `name=value`, given the text of its keyframes. -/
def AnimationFields.parts (f : AnimationFields) (keyframes : String) : List String :=
  ["name=" ++ (Scalar.ofText f.name).inspect,
   "keyframes=" ++ keyframes,
   "duration=" ++ (Scalar.ofAmount f.duration).inspect,
   "timing_function=" ++ (Scalar.ofText f.timingFunction).inspect,
   "delay=" ++ (Scalar.ofAmount f.delay).inspect,
   "iteration_count=" ++ (Scalar.ofAmount f.iterationCount).inspect,
   "direction=" ++ (Scalar.ofText f.direction).inspect,
   "fill_mode=" ++ (Scalar.ofText f.fillMode).inspect,
   "play_state=" ++ (Scalar.ofText f.playState).inspect]

namespace Value

/-- A tuple of one item keeps a comma. -/
def tupleText : List String → String
  | [t] => "(" ++ t ++ ",)"
  | ts => "(" ++ ", ".intercalate ts ++ ")"

/-- Whether a flag is set; one that is still with its registry counts as not set. -/
def flagText : Flag → String
  | .fixed rendered _ => boolText rendered
  | .issued _ => boolText false

mutual

/-- A value inside a collection. -/
def inspect : Value → String
  | .scalar s => s.inspect
  | .list items => "[" ++ ", ".intercalate (inspectItems items) ++ "]"
  | .tuple items => tupleText (inspectItems items)
  | .mapping entries => "\x7b" ++ ", ".intercalate (inspectEntries entries) ++ "\x7d"
  | .variable name property fallback =>
    "Variable(name=" ++ Text.quoted name ++ ", property=" ++ Text.quoted property ++
      ", fallback=" ++ fallback.inspect ++ ")"
  | .handle name payload flag =>
    "Registered(payload=" ++ payload.inspect ++ ", name=" ++ Text.quoted name ++
      ", rendered=" ++ flagText flag ++ ")"
  | .animation fields keyframes =>
    "AnimationDefinition(" ++ ", ".intercalate (fields.parts keyframes.inspect) ++ ")"

/-- The items of a collection. -/
def inspectItems : List Value → List String
  | [] => []
  | v :: rest => v.inspect :: inspectItems rest

/-- The entries of a mapping. -/
def inspectEntries : List (Value × Value) → List String
  | [] => []
  | (k, v) :: rest => (k.inspect ++ ": " ++ v.inspect) :: inspectEntries rest

end

/-- The kind of a value, as error texts name it. -/
def kindName : Value → String
  | .scalar .absent => "NoneType"
  | .scalar (.bool _) => "bool"
  | .scalar (.int _) => "int"
  | .scalar (.float _) => "float"
  | .scalar (.text _) => "str"
  | .list _ => "list"
  | .tuple _ => "tuple"
  | .mapping _ => "dict"
  | .variable _ _ _ => "Variable"
  | .handle _ _ _ => "Registered"
  | .animation _ _ => "AnimationDefinition"

end Value
end Stylesheet
