import Stylesheet.Command.Report
import Stylesheet.Compile
/-!
# Compiling a file of rules

The command is all or nothing: either the CSS of the whole rule set is printed or written, or
nothing is.
-/

namespace Stylesheet.Command

/-- Whether a value may be a rule set: a mapping from selectors to styles, or a list of pairs. -/
def holdsRules : Value → Bool
  | .mapping _ | .list _ => true
  | _ => false

/-- Compiles what was read from a file. A value that counts as nothing has no CSS. -/
def compileRules (name : Path) (content : Except Failure Value) (out : Option Path)
    (files : FileTree) : Report :=
  match content with
  | .error .malformedRules => .refused [] ("Could not read " ++ name.text ++ ":") files
  | .error e => .stopped [] e files
  | .ok rules =>
    if !rules.truthy then .emit [] "" out files
    else if holdsRules rules then .ofLogged (css rules) out files
    else
      .refused []
        (name.text ++ " must contain a mapping or a list of [selector, styles] pairs\n") files

/-- Compiles what was read from a file. Rules that hold themselves come in two forms: what both
forms come to is what the rules come to, and if there is no such thing, there is no end to them. -/
def compileReading (name : Path) (content : Except Failure (Value × Option Value))
    (out : Option Path) (files : FileTree) : Report :=
  match content with
  | .error e => compileRules name (.error e) out files
  | .ok (rules, none) => compileRules name (.ok rules) out files
  | .ok (rules, some other) =>
    if (css rules).agrees (css other) then compileRules name (.ok rules) out files
    else .stopped ((css rules).sharedLog (css other)) .endless files

end Stylesheet.Command
