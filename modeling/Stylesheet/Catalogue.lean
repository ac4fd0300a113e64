import Stylesheet.Formatter
/-!
# The catalogue

Which properties write numbers without `px` and what they write for a missing value; which
functions write their parameters in another unit; which properties separate the items of a list
by something other than a comma. Properties are looked up by their hyphenated names.
-/

namespace Stylesheet.Catalogue

/-- Numbers take this unit; text is never read as a number. -/
def inUnit (unit : String) : Formatter := .unit unit false

/-! ## Properties -/

/-- The properties whose scalars are not written in `px`. -/
def propertyFormatters : List (String × Formatter) := [
  ("animation-duration", .unitOr "ms" "0ms"),
  ("animation-timing-function", .fallback "ease"),
  ("animation-delay", .unitOr "ms" "0ms"),
  ("animation-iteration-count", .unitOr "" "1"),
  ("animation-direction", .fallback "normal"),
  ("animation-fill-mode", .fallback "none"),
  ("animation-play-state", .fallback "running"),
  ("column-count", inUnit ""),
  ("flex", inUnit ""),
  ("flex-grow", inUnit ""),
  ("flex-shrink", inUnit ""),
  ("font-weight", inUnit ""),
  ("grid-column", inUnit ""),
  ("grid-row", inUnit ""),
  ("line-height", inUnit ""),
  ("opacity", inUnit ""),
  ("order", inUnit ""),
  ("transition-duration", inUnit "ms"),
  ("transition-delay", inUnit "ms"),
  ("z-index", inUnit "")]

/-- The formatter of a property: `px` unless it is listed. -/
def propertyFormatter (cssName : String) : Formatter :=
  (propertyFormatters.lookup cssName).getD (inUnit "px")

/-! ## Functions -/

/-- The formatters of a function's parameters by position; the last one serves all that follow. -/
def functionFormatters : List (String × List Formatter) := [
  ("matrix", [inUnit ""]),
  ("matrix3d", [inUnit ""]),
  ("repeat", [inUnit "", inUnit "px"]),
  ("rotate", [inUnit "deg"]),
  ("rotateX", [inUnit "deg"]),
  ("rotateY", [inUnit "deg"]),
  ("rotateZ", [inUnit "deg"]),
  ("rotate3d", [inUnit "", inUnit "", inUnit "", inUnit "deg"]),
  ("scale", [inUnit ""]),
  ("scaleX", [inUnit ""]),
  ("scaleY", [inUnit ""]),
  ("scaleZ", [inUnit ""]),
  ("scale3d", [inUnit ""]),
  ("skew", [inUnit "deg"]),
  ("skewX", [inUnit "deg"]),
  ("skewY", [inUnit "deg"])]

/-- The formatter of a parameter of a function, if the function is listed. -/
def functionFormatter? (function : String) (position : Nat) : Option Formatter :=
  (functionFormatters.lookup function).bind fun fs => fs[min position (fs.length - 1)]?

/-- The formatter at a position that may be counted from the last one back: `-1` is the last. The
inner option is empty where there is no such position. -/
def functionFormatterFrom? (function : String) (position : Int) : Option (Option Formatter) :=
  (functionFormatters.lookup function).map fun fs =>
    if 0 ≤ position then fs[min position.toNat (fs.length - 1)]?
    else if position.natAbs ≤ fs.length then fs[fs.length - position.natAbs]?
    else none

/-- Counted from the first one on it is the formatter of that position. -/
theorem functionFormatterFrom?_natCast (function : String) (position : Nat) :
    (functionFormatterFrom? function position).join = functionFormatter? function position := by
  unfold functionFormatterFrom? functionFormatter?
  cases functionFormatters.lookup function <;> simp

/-- Counted back from the last one it is the formatter of the position that many before it. -/
theorem functionFormatterFrom?_back {function : String} {fs : List Formatter}
    (h : functionFormatters.lookup function = some fs) {back : Nat} (inside : back < fs.length) :
    functionFormatterFrom? function (-(back + 1)) =
      some (functionFormatter? function (fs.length - 1 - back)) := by
  have negative : ¬(0 : Int) ≤ -(back + 1) := by omega
  have count : (-((back : Int) + 1)).natAbs = back + 1 := by omega
  have position : fs.length - (back + 1) = min (fs.length - 1 - back) (fs.length - 1) := by omega
  simp only [functionFormatterFrom?, functionFormatter?, h, Option.map_some, Option.bind_some,
    negative, if_false, count, Nat.succ_le_iff.2 inside, if_true, position]

/-! ## Separators -/

/-- The properties whose lists are not separated by commas. A second separator joins the items of
a list that holds lists, which the first then joins within. -/
def propertySeparators : List (String × List String) := [
  ("border-color", [" "]),
  ("border-radius", [" "]),
  ("border-style", [" "]),
  ("border-width", [" "]),
  ("grid-column", [" / "]),
  ("grid-row", [" / "]),
  ("grid-template", [" ", " / "]),
  ("grid-template-areas", [" "]),
  ("grid-template-columns", [" "]),
  ("grid-template-rows", [" "]),
  ("inset", [" "]),
  ("margin", [" "]),
  ("padding", [" "]),
  ("transform", [" "])]

/-- The separators of a property. -/
def separators (cssName : String) : List String :=
  (propertySeparators.lookup cssName).getD [", "]

/-- The separator of the items of an inner list, or of a list without inner lists. -/
def innerSeparator (cssName : String) : String := (separators cssName).headD ", "

/-- The separator of the items of an outer list. -/
def outerSeparator (cssName : String) (nested : Bool) : String :=
  if nested then (separators cssName).getLastD ", " else innerSeparator cssName

end Stylesheet.Catalogue
