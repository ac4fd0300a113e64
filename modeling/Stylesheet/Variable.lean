import Stylesheet.Format
/-!
# Custom properties

A variable is a custom property together with the property whose units it has by default and a
fallback, which may be a variable again. The variables along the fallbacks form a chain.
-/

namespace Stylesheet

/-- A custom property. -/
structure Variable where
  name : String
  property : String
  fallback : Value := .absent
  deriving Repr, Inhabited

namespace Variable

/-- A variable as a value. -/
def toValue (v : Variable) : Value := .variable v.name v.property v.fallback

/-- The variable that a value is, if it is one. -/
def ofValue? : Value → Option Variable
  | .variable name property fallback => some { name, property, fallback }
  | _ => none

/-- The value with the end of its chain of variables replaced; by itself if it is no variable. -/
def replaceEnd (last : Value) : Value → Value
  | .variable name property fallback => .variable name property (replaceEnd last fallback)
  | _ => last

/-- The variable with another end of its chain of fallbacks. -/
def orElse (v : Variable) (fallback : Value) : Variable :=
  { v with fallback := replaceEnd fallback v.fallback }

/-- Whether a variable of this name is in the chain that a value starts. -/
def chainMentions (name : String) : Value → Bool
  | .variable n _ fallback => n == name || chainMentions name fallback
  | _ => false

/-- The mapping that assigns a value to the variable, to be merged into a style node. -/
def set (v : Variable) (value : Value) : Except Failure (List (Value × Value)) :=
  if chainMentions v.name value then .error (.selfReference v.name)
  else do
    let text ← format v.property value
    return [(.text v.name, .scalar (.ofText text))]

/-- A reference to the variable for a property, or for the declared one. -/
def reference (v : Variable) (property : Option String) : Except Failure String :=
  if v.fallback.isAbsent then .ok (varText v.name none)
  else do
    let text ← format (settingProperty (property.getD "") v.property) v.fallback
    return varText v.name text

end Variable
end Stylesheet
