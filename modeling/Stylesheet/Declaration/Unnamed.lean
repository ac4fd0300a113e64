import Stylesheet.Format
/-!
# Declarations without a property name

A declaration whose key is not text cannot be written. Which failure it meets depends on its
value: formatting starts first, and may fail by itself before the key is needed.
-/

namespace Stylesheet.Unnamed

mutual

/-- The failure of formatting a value under a key that is not text; none if the key is never
needed. A key that counts as false gives way to the property that a variable declares. -/
def failure? (truthy : Bool) : Value → Option Failure
  | .scalar _ | .list _ | .tuple _ | .animation _ _ => some .keyNotText
  | .mapping entries => callsFailure? truthy entries
  | .variable _ declared fallback =>
    if fallback.isAbsent then none
    else if truthy then failure? truthy fallback
    else match format declared fallback with
      | .error e => some e
      | .ok _ => none
  | .handle _ _ _ => none

/-- The failure of the first call that has one. -/
def callsFailure? (truthy : Bool) : List (Value × Value) → Option Failure
  | [] => none
  | (.text function, v) :: rest =>
    (argumentFailure? truthy function 0 true v).or (callsFailure? truthy rest)
  | (_, _) :: _ => some .functionNotText

/-- The failure of an argument; the position advances along the argument list itself only. -/
def argumentFailure? (truthy : Bool) (function : String) (position : Nat) (advance : Bool) :
    Value → Option Failure
  | .scalar _ | .animation _ _ =>
    if (Catalogue.functionFormatter? (Casing.functionName function) position).isSome then none
    else some .keyNotText
  | .list items => argumentsFailure? truthy function position advance items
  | .tuple items => argumentsFailure? truthy function position advance items
  | .mapping entries => callsFailure? truthy entries
  | .variable _ declared fallback =>
    if fallback.isAbsent then none
    else if truthy then failure? truthy fallback
    else match format declared fallback with
      | .error e => some e
      | .ok _ => none
  | .handle _ _ _ => none

/-- The failure of the first argument that has one. -/
def argumentsFailure? (truthy : Bool) (function : String) (position : Nat) (advance : Bool) :
    List Value → Option Failure
  | [] => none
  | v :: rest =>
    (argumentFailure? truthy function position false v).or
      (argumentsFailure? truthy function (if advance then position + 1 else position) advance rest)

end

/-- The failure of a declaration under a key that is not text. -/
def failure (key value : Value) : Failure := (failure? key.truthy value).getD .keyNotText

end Stylesheet.Unnamed
