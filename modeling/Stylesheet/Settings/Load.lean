import Stylesheet.FileTree
import Stylesheet.Settings
import Stylesheet.Text.Character
import Stylesheet.Toml.Document
/-!
# Loading settings

Settings come from the environment, from the `stylemap` table of a TOML file and from its
`tool.stylemap` table. Each field is taken from the first of these that gives it.
-/

namespace Stylesheet.Settings

/-! ## Files -/

/-- The settings files of a directory, the one that counts first in front. -/
def fileNames : List String := ["stylemap.toml", "pyproject.toml"]

/-- The settings file of a directory. -/
def findFile (files : FileTree) (directory : Path) : Option Path :=
  (fileNames.map directory.join).find? files.isFile

/-- A value of a document, as far as reading a field looks at it. -/
def rawOfToml : Toml.Value → RawSetting
  | .text s => .text s
  | .int n => .whole n
  | .float x => .decimal x
  | .bool b => .switch b
  | .moment _ | .array _ | .table _ => .other

/-- A field of a section: its key, which need not be text, and its value. -/
abbrev SectionField := Toml.Value × RawSetting

/-- A pair as a field; a list or a table cannot be its key. -/
def fieldOf (key value : Toml.Value) : Except Failure SectionField :=
  match key with
  | .array _ | .table _ => .error .unhashable
  | _ => .ok (key, rawOfToml value)

/-- A field from a list of two, from the two keys of a table, or from two characters. -/
def pairField : Toml.Value → Except Failure SectionField
  | .array [k, v] => fieldOf k v
  | .array _ => .error .notPair
  | .table [(k, _), (v, _)] => fieldOf (.text k) (.text v)
  | .table _ => .error .notPair
  | .text s => match s.toList with
    | [k, v] => fieldOf (.text (String.singleton k)) (.text (String.singleton v))
    | _ => .error .notPair
  | _ => .error .notIterable

/-- The fields of a section, those that win first: of a table, or of a list of pairs, where later
ones win. -/
def sectionFields : Toml.Value → Except Failure (List SectionField)
  | .table entries => .ok (entries.map fun e => (.text e.1, rawOfToml e.2))
  | .array items => do return (← items.mapM pairField).reverse
  | .text "" => .ok []
  | .text _ => .error .notPair
  | _ => .error .notIterable

/-- A field under its name. -/
def namedField (f : SectionField) : Except Failure (String × RawSetting) :=
  match f.1 with
  | .text name => .ok (name, f.2)
  | _ => .error .badArguments

/-- The name of the section. -/
def sectionName : String := "stylemap"

/-- The section below `tool`. -/
def toolSection (document : Toml.Entries) : Except Failure Toml.Value :=
  match document.lookup "tool" with
  | none => .ok (.table [])
  | some (.table entries) => .ok ((entries.lookup sectionName).getD (.table []))
  | some _ => .error .notMapping

/-- The fields of a document, those that win first. -/
def documentFields (document : Toml.Entries) : Except Failure (List (String × RawSetting)) := do
  let tool ← sectionFields (← toolSection document)
  let own ← sectionFields ((document.lookup sectionName).getD (.table []))
  (own ++ tool).mapM namedField

/-- The fields of a settings file; a file that is not there has none. -/
def fileFields (files : FileTree) (path : Path) : Except Failure (List (String × RawSetting)) :=
  if files.contains path then do
    documentFields (← Toml.parse (← files.read path))
  else .ok []

/-! ## The environment -/

/-- The words for a switch that is on in the environment. -/
def environmentWords : List String := ["1", "true", "yes", "on"]

/-- The variable of the environment for a switch, and the field it sets. -/
def switchVariables : List (String × String) :=
  [("STYLEMAP_REQUIRE_STYLESHEET", requireStylesheetField),
   ("STYLEMAP_IDENTITY_AWARE", identityAwareField)]

/-- Whether a switch is on in the environment: everything but the words for on is off. -/
def environmentSwitch (s : String) : Bool :=
  environmentWords.contains (lowerAscii (Text.strip s))

/-- The fields that the environment sets; an empty address does not count. -/
def environmentFields (environment : List (String × String)) : List (String × RawSetting) :=
  (switchVariables.filterMap fun v =>
    (environment.lookup v.1).map fun s => (v.2, .switch (environmentSwitch s))) ++
  (match environment.lookup "STYLEMAP_SOURCE_URL" with
    | none | some "" => []
    | some s => [(sourceUrlField, .text s)])

/-! ## Loading -/

/-- Loads settings from a file, or from the settings file of the current directory if none is
named. -/
def load (files : FileTree) (path : Option Path) (environment : List (String × String)) :
    Except Failure Settings := do
  let fields ← match path.or (findFile files ⟨[]⟩) with
    | none => .ok []
    | some path => fileFields files path
  ofRaw (environmentFields environment ++ fields)

end Stylesheet.Settings
