import Stylesheet.Declaration
import Stylesheet.Log
import Stylesheet.StyleNode
/-!
# Keyframes and font faces

A keyframe set maps offsets to style nodes. Only declarations are written: other keys are left
out with a warning each. A bare number as an offset is a percentage.
-/

namespace Stylesheet

/-- How offsets are written. -/
def offsetFormatter : Formatter := .unit "%" true

/-- The text of an offset. -/
def offsetText : Value → Except Failure String
  | .scalar s => do return (← offsetFormatter.write s).getD Scalar.absent.display
  | v => v.display

/-- Whether a key has no place in a keyframe. -/
def isIgnoredKey (key : String) : Bool :=
  key == nestingKey || key == animationKey || isPseudoKey key

/-- The declarations of a keyframe; every key that is left out is recorded. -/
def keyframeDeclarations (name offset : String) :
    List (Value × Value) → Logged (List (String × Value))
  | [] => pure []
  | (key, value) :: rest =>
    if value.isAbsent then keyframeDeclarations name offset rest
    else match key.text? with
      | none => .fail .keyNotText
      | some key =>
        if isIgnoredKey key then do
          Logged.record (.ignoredKey key name offset)
          keyframeDeclarations name offset rest
        else do
          let more ← keyframeDeclarations name offset rest
          return (key, value) :: more

/-- One keyframe: its offset and its declarations. -/
def keyframeLine (name indent : String) (offset body : Value) : Logged String := do
  let offset ← Logged.ofExcept (offsetText offset)
  match body with
  | .mapping entries =>
    let declarations ← keyframeDeclarations name offset entries
    let text ← Logged.ofExcept (declarationBlock declarations)
    return indent ++ Selector.block offset text
  | _ => .fail .notMapping

/-- The keyframes that have a body, a line each. -/
def keyframeLines (name indent : String) : List (Value × Value) → Logged (List String)
  | [] => pure []
  | (offset, body) :: rest =>
    if body.isAbsent then keyframeLines name indent rest
    else do
      let line ← keyframeLine name indent offset body
      let more ← keyframeLines name indent rest
      return line :: more

/-- An `@keyframes` block. A handle stands for the set registered under it. -/
def keyframesBlock (name : String) (keyframes : Value) (indent : Nat) : Logged String :=
  match keyframes.unwrap with
  | .mapping entries => do
    let lines ← keyframeLines name (String.ofList (List.replicate indent ' ')) entries
    return "\n".intercalate (("@keyframes " ++ name ++ " \x7b") :: (lines ++ ["\x7d"]))
  | _ => .fail .notMapping

/-- The indentation of keyframes unless another is asked for. -/
def keyframeIndent : Nat := 2

/-- An `@font-face` block. -/
def fontFaceBlock : Value → Except Failure String
  | .mapping entries => do return Selector.block "@font-face" (← entryBlock entries)
  | _ => .error .notMapping

end Stylesheet
