import Stylesheet.Failure
import Stylesheet.Value.Display
/-!
# Formatters of scalars

A formatter says how one property or one parameter of a function writes a bare scalar: which unit
a number takes and what stands for a missing value. `apply` is the text it gives; `write` gives it
unless the scalar is a number that is too long.
-/

namespace Stylesheet

/-- A number as CSS writes it, whatever its length: a whole one without a point. -/
def Scalar.numberText : Scalar → String
  | .float x => match x.toInt? with
    | some n => toString n
    | none => x.text
  | s => s.display

/-- How a property writes a scalar. -/
inductive Formatter where
  /-- Numbers take the unit; with `coerce`, so does text that reads as a number. -/
  | unit (u : String) (coerce : Bool)
  /-- A missing value is written as the default. -/
  | fallback (default : String)
  /-- Numbers take the unit, and a missing value is written as the default. -/
  | unitOr (u default : String)
  deriving DecidableEq, Repr, Inhabited

namespace Formatter

/-- A scalar with the unit if it is a number, whatever its length; a missing value has no text. -/
def withUnit (u : String) (coerce : Bool) : Scalar → Option String
  | .absent => none
  | .int n => some (toString n ++ u)
  | .float x => some ((Scalar.float x).numberText ++ u)
  | .text s => some (if coerce && isNumeral s then Text.strip s ++ u else s)
  | .bool b => some (boolText b)

/-- A scalar, or the fallback for a missing value. -/
def withFallback (default : String) : Scalar → String
  | .absent => default
  | s => s.display

/-- The text of a scalar, if it has any. -/
def apply : Formatter → Scalar → Option String
  | .unit u coerce, s => withUnit u coerce s
  | .fallback default, s => some (withFallback default s)
  | .unitOr u default, s => some ((withUnit u false s).getD default)

/-- Writes a scalar. -/
def write (f : Formatter) (s : Scalar) : Except Failure (Option String) :=
  Failure.unlessTooLong s.isTooLong (f.apply s)

end Formatter
end Stylesheet
