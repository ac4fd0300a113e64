/-!
# Selectors

A nested selector is composed with that of the rule around it, unless it starts a grouping rule,
which is wrapped around the rules inside it.
-/

namespace Stylesheet.Selector

/-- How the rules start that group others under a condition. -/
def groupingStarts : List String :=
  ["@media", "@supports", "@container", "@layer", "@scope", "@starting-style"]

/-- Whether text starts with a given start. -/
def startsWith (s start : String) : Bool := start.toList.isPrefixOf s.toList

/-- Whether a selector starts a grouping rule. -/
def isGrouping (selector : String) : Bool := groupingStarts.any (startsWith selector)

/-- Every `&` replaced by the parent. -/
def fillParent (parent child : String) : String :=
  String.ofList (child.toList.flatMap fun c => if c = '&' then parent.toList else [c])

/-- A selector inside a rule: where it says `&` the parent is meant, otherwise a descendant of the
parent. Without a parent it stands alone. -/
def compose (parent child : String) : String :=
  if child.toList.contains '&' then fillParent parent child
  else if parent = "" then child
  else parent ++ " " ++ child

/-- The selector of the rules inside a rule: a grouping rule leaves it as it is. -/
def inside (parent selector : String) : String :=
  if isGrouping selector then parent else compose parent selector

/-- A block: what stands before it and its body. -/
def block (head body : String) : String := head ++ " \x7b " ++ body ++ " \x7d"

/-- A rule inside a rule: a grouping rule is wrapped around it. -/
def wrap (selector rule : String) : String :=
  if isGrouping selector then block selector rule else rule

end Stylesheet.Selector
