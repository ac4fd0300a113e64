import Stylesheet.Session
/-!
# Modules

A module is a named place where contexts are set up. Its name is a path of parts; the modules
above it are imported first, and are packages that hold nothing if nothing is said of them.
-/

namespace Stylesheet

/-- What a module does to set up one of its attributes: it may end up with a context at work, and
with files changed on the way. -/
abbrev Setup := FileTree → Logged (Option Session) × FileTree

/-- What importing a module comes to: it is broken for a reason, or it sets up its attributes one
after the other. -/
inductive ModuleBody where
  | broken (reason : String)
  | attributes (setups : List (String × Setup))

/-- The modules there are, each under the parts of its name. -/
abbrev Modules := List (List String × ModuleBody)

/-- Why a module cannot be imported. -/
inductive ImportFault where
  | missing (name : String)
  | notPackage (name parent : String)
  | broken (reason : String)
  deriving DecidableEq, Repr, Inhabited

/-- The wording of an import fault. -/
def ImportFault.message : ImportFault → String
  | .missing name => "No module named " ++ Text.quoted name
  | .notPackage name parent =>
    "No module named " ++ Text.quoted name ++ "; " ++ Text.quoted parent ++ " is not a package"
  | .broken reason => reason

/-- The contexts that a module holds, by attribute. -/
abbrev Contexts := List (String × Session)

namespace Modules

/-- The parts of a name. -/
def partsOf (name : String) : List String := (name.toList.splitOn '.').map String.ofList

/-- The name with these parts. -/
def nameOf (parts : List String) : String := ".".intercalate parts

/-- Whether there are modules below a name. -/
def isPackage (modules : Modules) (parts : List String) : Bool :=
  modules.any fun m => parts.isPrefixOf m.1 && m.1 ≠ parts

/-- Sets up attributes in order. The first failure is the last thing that happens. -/
def setUp : List (String × Setup) → FileTree → Logged Contexts × FileTree
  | [], files => (pure [], files)
  | (name, setup) :: rest, files =>
    let (made, files) := setup files
    match made.result with
    | .error e => (⟨made.log, .error e⟩, files)
    | .ok session =>
      let (more, files) := setUp rest files
      let found := match session with
        | some s => [(name, s)]
        | none => []
      (do
        let _ ← made
        return found ++ (← more), files)

/-- Imports one module, its parents having been imported. -/
def importOne (modules : Modules) (parent parts : List String) (files : FileTree) :
    Logged (Except ImportFault Contexts) × FileTree :=
  match modules.lookup parts with
  | some (.broken reason) => (pure (.error (.broken reason)), files)
  | some (.attributes setups) =>
    let (found, files) := setUp setups files
    (do return .ok (← found), files)
  | none =>
    if modules.isPackage parts then (pure (.ok []), files)
    else if parent.isEmpty || modules.isPackage parent then
      (pure (.error (.missing (nameOf parts))), files)
    else (pure (.error (.notPackage (nameOf parts) (nameOf parent))), files)

/-- Imports the modules on the way from a parent through further parts, and gives what the last
one holds. -/
def importFrom (modules : Modules) (parent : List String) (found : Contexts) :
    List String → FileTree → Logged (Except ImportFault Contexts) × FileTree
  | [], files => (pure (.ok found), files)
  | part :: rest, files =>
    let parts := parent ++ [part]
    let (one, files) := modules.importOne parent parts files
    match one.result with
    | .ok (.ok found) =>
      let (more, files) := modules.importFrom parts found rest files
      (do
        let _ ← one
        more, files)
    | _ => (one, files)

/-- Imports a module by its name. A name has to be there, and cannot start from no package. -/
def importModule (modules : Modules) (name : String) (files : FileTree) :
    Logged (Except ImportFault Contexts) × FileTree :=
  if name = "" then (.fail .emptyModuleName, files)
  else if name.toList.head? = some '.' then (.fail .relativeModuleName, files)
  else modules.importFrom [] [] (partsOf name) files

end Modules
end Stylesheet
