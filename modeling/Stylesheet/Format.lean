import Stylesheet.Casing
import Stylesheet.Catalogue
import Stylesheet.Failure
/-!
# Formatting values

`format` writes a value as the text of a declaration for one property. A list is joined by the
property's separator and may hold lists one level deep; a mapping is a row of function calls; a
variable is written as `var()` with its fallback formatted for the same property; a handle by its
name. The only failures are lists nested too deep, function names that are not text and numbers that
are too long to be written.
-/

namespace Stylesheet

/-! ## Pieces -/

/-- The text of an animation by itself. -/
def AnimationFields.display (f : AnimationFields) (keyframes : Value) : String :=
  " ".intercalate (f.parts keyframes.inspect)

/-- Writes an animation by itself. -/
def AnimationFields.write (f : AnimationFields) (keyframes : Value) : Except Failure String :=
  Failure.unlessTooLong (f.isTooLong || keyframes.isTooLong) (f.display keyframes)

/-- A reference to a custom property, with the text of its fallback unless that is empty. -/
def varText (name : String) (fallback : Option String) : String :=
  match fallback with
  | none => "var(" ++ name ++ ")"
  | some t => if t = "" then "var(" ++ name ++ ")" else "var(" ++ name ++ ", " ++ t ++ ")"

/-- The property whose defaults hold for a variable's fallback: the one being set, or else the
declared one. -/
def settingProperty (property declared : String) : String :=
  if property = "" then declared else property

/-- A scalar for a property. -/
def formatScalar (property : String) (s : Scalar) : Option String :=
  (Catalogue.propertyFormatter (Casing.kebab property)).apply s

/-- A scalar as the parameter of a function: the function's own rule, else the property's. -/
def formatParameter (property function : String) (position : Nat) (s : Scalar) : Option String :=
  match Catalogue.functionFormatter? (Casing.functionName function) position with
  | some f => f.apply s
  | none => formatScalar property s

/-- Lists and tuples. -/
def Value.isSequence : Value → Bool
  | .list _ | .tuple _ => true
  | _ => false

/-- The formatted items of a list, given the list itself. -/
def joinItems (property : String) (items : List Value) (parts : List String) : String :=
  (Catalogue.outerSeparator (Casing.kebab property) (items.any Value.isSequence)).intercalate parts

/-- The formatted items of a list inside a list. -/
def joinInner (property : String) (parts : List String) : String :=
  (Catalogue.innerSeparator (Casing.kebab property)).intercalate parts

/-- The separator of a function's parameters, or of a list that is one parameter. -/
def parameterSeparator (position : Option Nat) : String :=
  if position.isNone then ", " else " "

/-! ## Formatting -/

mutual

/-- A value for a property; `none` means that there is nothing to declare. -/
def format (property : String) : Value → Except Failure (Option String)
  | .scalar s => Failure.unlessTooLong s.isTooLong (formatScalar property s)
  | .list items => do
    let parts ← formatItems property items
    return some (joinItems property items parts)
  | .tuple items => do
    let parts ← formatItems property items
    return some (joinItems property items parts)
  | .mapping entries => do
    let calls ← formatCalls property entries
    return some (" ".intercalate calls)
  | .variable name declared fallback =>
    if fallback.isAbsent then .ok (some (varText name none))
    else do
      let text ← format (settingProperty property declared) fallback
      return some (varText name text)
  | .handle name _ _ => .ok (some name)
  | .animation fields keyframes => do return some (← fields.write keyframes)

/-- The items of a list; absent ones are left out. -/
def formatItems (property : String) : List Value → Except Failure (List String)
  | [] => .ok []
  | .list inner :: rest => do
    let parts ← formatInner property inner
    let more ← formatItems property rest
    return joinInner property parts :: more
  | .tuple inner :: rest => do
    let parts ← formatInner property inner
    let more ← formatItems property rest
    return joinInner property parts :: more
  | .absent :: rest => formatItems property rest
  | v :: rest => do
    let text ← format property v
    let more ← formatItems property rest
    return text.toList ++ more

/-- The items of a list inside a list; a further list is one too many. -/
def formatInner (property : String) : List Value → Except Failure (List String)
  | [] => .ok []
  | .list _ :: _ => .error (.nesting property 3)
  | .tuple _ :: _ => .error (.nesting property 3)
  | .absent :: rest => formatInner property rest
  | v :: rest => do
    let text ← format property v
    let more ← formatInner property rest
    return text.toList ++ more

/-- The function calls that a mapping stands for. -/
def formatCalls (property : String) : List (Value × Value) → Except Failure (List String)
  | [] => .ok []
  | (.text function, v) :: rest => do
    let arguments ← formatArgument property function none v
    let more ← formatCalls property rest
    return (Casing.functionName function ++ "(" ++ arguments.getD "" ++ ")") :: more
  | (_, _) :: _ => .error .functionNotText

/-- The arguments of a function, or with a position the one argument there. A list of arguments
is joined by commas, a list that is one argument by spaces. -/
def formatArgument (property function : String) (position : Option Nat) :
    Value → Except Failure (Option String)
  | .scalar s =>
    Failure.unlessTooLong s.isTooLong (formatParameter property function (position.getD 0) s)
  | .list items => do
    let parts ← formatArguments property function (position.getD 0) position.isNone items
    return some ((parameterSeparator position).intercalate parts)
  | .tuple items => do
    let parts ← formatArguments property function (position.getD 0) position.isNone items
    return some ((parameterSeparator position).intercalate parts)
  | .mapping entries => do
    let calls ← formatCalls property entries
    return some (" ".intercalate calls)
  | .variable name declared fallback =>
    if fallback.isAbsent then .ok (some (varText name none))
    else do
      let text ← format (settingProperty property declared) fallback
      return some (varText name text)
  | .handle name _ _ => .ok (some name)
  | .animation fields keyframes => do return some (← fields.write keyframes)

/-- The items of an argument list from a position on; in a list that is one argument all of them
have its position. -/
def formatArguments (property function : String) (position : Nat) (advance : Bool) :
    List Value → Except Failure (List String)
  | [] => .ok []
  | v :: rest => do
    let text ← formatArgument property function (some position) v
    let more ← formatArguments property function (if advance then position + 1 else position)
      advance rest
    return text.toList ++ more

end

/-! ## Values by themselves -/

/-- The text of a value by itself: a variable as a reference to it, a handle by its name. -/
def Value.display : Value → Except Failure String
  | .scalar s => Failure.unlessTooLong s.isTooLong s.display
  | .variable name declared fallback =>
    if fallback.isAbsent then .ok (varText name none)
    else do
      let text ← format declared fallback
      return varText name text
  | .handle name _ _ => .ok name
  | .animation fields keyframes => fields.write keyframes
  | v => Failure.unlessTooLong v.isTooLong v.inspect

/-- A formatter on any value: what is not a scalar is written by itself. -/
def Formatter.applyTo (f : Formatter) : Value → Except Failure (Option String)
  | .scalar s => f.write s
  | v => do return some (← v.display)

end Stylesheet
