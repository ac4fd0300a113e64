/-!
# Casing of property and function names

`kebab` gives a property name its hyphenated form, whichever of the humped, underscored and
hyphenated spellings it has; `functionName` does the same for a function, whose last capital
stays.
-/

namespace Stylesheet.Casing

/-- A capital becomes a hyphen and its small letter, an underscore a hyphen. -/
def hyphenate (c : Char) : List Char :=
  if c.isUpper then ['-', c.toLower]
  else if c = '_' then ['-']
  else [c]

/-- The hyphenated form of a property name. The `ms` before a capital is a vendor's mark and takes
a hyphen of its own; a custom property, which starts with two hyphens, stays as it is. -/
def kebabChars : List Char → List Char
  | '-' :: '-' :: rest => '-' :: '-' :: rest
  | 'm' :: 's' :: c :: rest =>
    if c.isUpper then '-' :: 'm' :: 's' :: (c :: rest).flatMap hyphenate
    else 'm' :: 's' :: (c :: rest).flatMap hyphenate
  | cs => cs.flatMap hyphenate

/-- The hyphenated form of a property name. -/
def kebab (name : String) : String := String.ofList (kebabChars name.toList)

/-- Whether a line ends here: nothing follows, or only the last line break. -/
def atLineEnd (rest : List Char) : Bool := rest == [] || rest == ['\n']

/-- The hyphenated form of a function name; a capital at the end of the line stays. -/
def functionChars : List Char → List Char
  | [] => []
  | c :: rest => (if c.isUpper && atLineEnd rest then [c] else hyphenate c) ++ functionChars rest

/-- The hyphenated form of a function name. -/
def functionName (name : String) : String := String.ofList (functionChars name.toList)

end Stylesheet.Casing
