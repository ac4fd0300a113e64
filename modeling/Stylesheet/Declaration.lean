import Stylesheet.Declaration.Unnamed
/-!
# Declarations

The body of a rule: `property: value;` for each declaration whose value has a text.
-/

namespace Stylesheet

/-- A property and its value. -/
abbrev Declaration := String × Value

/-- One declaration as CSS; none if its value has no text. -/
def declarationText? (property : String) (value : Value) : Except Failure (Option String) := do
  let text ← format property value
  return text.map fun t => Casing.kebab property ++ ": " ++ t ++ ";"

/-- The declarations as CSS, in order. -/
def declarationTexts : List Declaration → Except Failure (List String)
  | [] => .ok []
  | (property, value) :: rest => do
    let text ← declarationText? property value
    let more ← declarationTexts rest
    return text.toList ++ more

/-- The body of a rule. -/
def declarationBlock (declarations : List Declaration) : Except Failure String := do
  return " ".intercalate (← declarationTexts declarations)

/-- The entries of a mapping as declarations, in order. -/
def entryTexts : List (Value × Value) → Except Failure (List String)
  | [] => .ok []
  | (.text property, value) :: rest => do
    let text ← declarationText? property value
    let more ← entryTexts rest
    return text.toList ++ more
  | (key, value) :: _ => .error (Unnamed.failure key value)

/-- The entries of a mapping as the body of a rule. -/
def entryBlock (entries : List (Value × Value)) : Except Failure String := do
  return " ".intercalate (← entryTexts entries)

end Stylesheet
