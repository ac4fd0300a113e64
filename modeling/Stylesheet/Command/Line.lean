import Stylesheet.Path
/-!
# Command lines

A command line names a command after the options that hold for all commands; the command's own
options may stand among its arguments. What is not understood is refused without a reason.
-/

namespace Stylesheet

/-! ## Options and arguments -/

/-- An option: its name, the letter it may be shortened to, and whether it takes a value. -/
structure OptionForm where
  name : String
  letter : Option Char := none
  takesValue : Bool := false
  deriving DecidableEq, Repr, Inhabited

/-- Options by name, each with its value or nothing, and arguments, all in order. -/
structure Arguments where
  options : List (String × String) := []
  positional : List String := []
  deriving DecidableEq, Repr, Inhabited

namespace Arguments

/-- Whether an option is given. -/
def has (a : Arguments) (name : String) : Bool := a.options.any (·.1 == name)

/-- The value of an option; the last one counts. -/
def value? (a : Arguments) (name : String) : Option String := a.options.reverse.lookup name

end Arguments

namespace OptionForm

/-- What one word says: options that are complete, and perhaps one whose value is the next word. -/
structure Reading where
  complete : List (String × String) := []
  pending : Option String := none

/-- The options behind a single dash. What follows the letter of an option that takes a value is
that value. -/
def readLetters (forms : List OptionForm) : List Char → Option Reading
  | [] => some {}
  | c :: rest =>
    match forms.find? (·.letter == some c) with
    | none => none
    | some f =>
      if f.takesValue then
        if rest.isEmpty then some { pending := some f.name }
        else some { complete := [(f.name, String.ofList rest)] }
      else (readLetters forms rest).map fun r => { r with complete := (f.name, "") :: r.complete }

/-- The option of a name, with the value behind `=` if there is one. -/
def readName (f : OptionForm) (value : Option (List Char)) : Option Reading :=
  match value, f.takesValue with
  | some v, true => some { complete := [(f.name, String.ofList v)] }
  | none, true => some { pending := some f.name }
  | none, false => some { complete := [(f.name, "")] }
  | some _, false => none

/-- The options that a word starting with a dash says. -/
def readWord (forms : List OptionForm) (word : List Char) : Option Reading :=
  let name := word.takeWhile (· ≠ '=')
  let value := if word.contains '=' then some ((word.dropWhile (· ≠ '=')).drop 1) else none
  match forms.find? (·.name.toList == name) with
  | some f => f.readName value
  | none =>
    match word with
    | '-' :: '-' :: _ => none
    | _ => readLetters forms word.tail

/-- Whether a word stands for options. -/
def isOptionWord (word : String) : Bool := word ≠ "-" && word.toList.head? == some '-'

/-- Reads words as options and arguments. After `--` all words are arguments; unless options may
stand among the arguments, the first argument ends the options as well. -/
def readWords (forms : List OptionForm) (among : Bool) : List String → Option Arguments
  | [] => some {}
  | word :: rest =>
    if word = "--" then some { positional := rest }
    else if isOptionWord word then
      match readWord forms word.toList with
      | none => none
      | some { complete, pending := none } =>
        (readWords forms among rest).map fun a => { a with options := complete ++ a.options }
      | some { complete, pending := some name } =>
        match rest with
        | [] => none
        | value :: rest =>
          (readWords forms among rest).map fun a =>
            { a with options := complete ++ (name, value) :: a.options }
    else if among then
      (readWords forms among rest).map fun a => { a with positional := word :: a.positional }
    else some { positional := word :: rest }

end OptionForm

/-! ## Commands -/

/-- What is to be done: print the version, compile a file of rules, or build the stylesheet of a
context that a module holds, looking for modules in a directory. -/
inductive Command where
  | version
  | compile (rules : Path) (out : Option Path)
  | build (target : String) (out : Option Path) (directory : Path)
  deriving DecidableEq, Repr, Inhabited

/-- A command, and whether everything that is logged is shown. -/
structure Invocation where
  command : Command
  verbose : Bool := false
  deriving DecidableEq, Repr, Inhabited

namespace Invocation

/-- The option for the version. -/
def versionOption : String := "--version"

/-- The option for showing everything that is logged. -/
def verboseOption : String := "--verbose"

/-- The option for the file to write. -/
def outOption : String := "--out"

/-- The option for the directory of modules. -/
def pathOption : String := "--path"

/-- The options before the command. -/
def commonForms : List OptionForm :=
  [{ name := versionOption }, { name := verboseOption, letter := some 'v' }]

/-- The options of `compile`. -/
def compileForms : List OptionForm :=
  [{ name := outOption, letter := some 'o', takesValue := true }]

/-- The options of `build`. -/
def buildForms : List OptionForm :=
  { name := pathOption, letter := some 'p', takesValue := true } :: compileForms

/-- A path that an option gives. -/
def path? (a : Arguments) (name : String) : Option Path := (a.value? name).map Path.ofText

/-- Reads a command with its arguments. -/
def readCommand : List String → Option Command
  | "compile" :: rest => do
    let a ← OptionForm.readWords compileForms true rest
    match a.positional with
    | [rules] => some (.compile (Path.ofText rules) (path? a outOption))
    | _ => none
  | "build" :: rest => do
    let a ← OptionForm.readWords buildForms true rest
    match a.positional with
    | [target] => some (.build target (path? a outOption) ((path? a pathOption).getD ⟨[]⟩))
    | _ => none
  | _ => none

/-- Reads a command line. The option for the version wins over any command. -/
def parse? (words : List String) : Option Invocation := do
  let a ← OptionForm.readWords commonForms false words
  let verbose := a.has verboseOption
  if a.has versionOption then return { command := .version, verbose }
  else return { command := ← readCommand a.positional, verbose }

end Invocation
end Stylesheet
