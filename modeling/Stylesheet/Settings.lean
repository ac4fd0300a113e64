import Stylesheet.Failure
import Stylesheet.Number.Numeral
import Stylesheet.Value
/-!
# Settings

How a context behaves. Settings are read from raw values of any kind: unknown fields are passed
over, and every field that cannot be read is reported.
-/

namespace Stylesheet

/-- The switches of a context and the address that a stylesheet ends with. -/
structure Settings where
  requireStylesheet : Bool := true
  identityAware : Bool := false
  sourceUrl : Option String := none
  deriving DecidableEq, Repr, Inhabited

/-- A raw value, as far as reading a field looks at it. -/
inductive RawSetting where
  | absent
  | switch (b : Bool)
  | whole (n : Int)
  | decimal (x : Binary64)
  | text (s : String)
  | other
  deriving DecidableEq, Repr, Inhabited

/-- A value, as far as reading a field looks at it. -/
def RawSetting.ofValue : Value → RawSetting
  | .scalar .absent => .absent
  | .scalar (.bool b) => .switch b
  | .scalar (.int n) => .whole n
  | .scalar (.float x) => .decimal x
  | .scalar (.text s) => .text s
  | _ => .other

namespace Settings

/-- The field that says whether styles must be in the stylesheet before they are used. -/
def requireStylesheetField : String := "require_stylesheet"

/-- The field that says whether registrations are told apart by their call sites. -/
def identityAwareField : String := "identity_aware"

/-- The field of the address. -/
def sourceUrlField : String := "source_url"

/-- The spellings of a switch that is on. -/
def onWords : List String := ["1", "true", "t", "yes", "y", "on"]

/-- The spellings of a switch that is off. -/
def offWords : List String := ["0", "false", "f", "no", "n", "off"]

/-- Text with the capitals of ASCII made small. -/
def lowerAscii (s : String) : String := String.ofList (s.toList.map Char.toLower)

/-- A whole number as a switch: one or zero. -/
def switchOfInt (n : Int) : Except Rejection Bool :=
  if n = 1 then .ok true
  else if n = 0 then .ok false
  else if fits64 n then .error .unreadableSwitch
  else .error .notSwitch

/-- Reads a switch: a truth value, one or zero, or one of the words for either. -/
def readSwitch : RawSetting → Except Rejection Bool
  | .switch b => .ok b
  | .whole n => switchOfInt n
  | .decimal x => match x.toInt? with
    | some n => switchOfInt n
    | none => .error .notSwitch
  | .text s =>
    if onWords.contains (lowerAscii s) then .ok true
    else if offWords.contains (lowerAscii s) then .ok false
    else .error .unreadableSwitch
  | .absent | .other => .error .notSwitch

/-- Reads text that may be absent. -/
def readText : RawSetting → Except Rejection (Option String)
  | .text s => .ok (some s)
  | .absent => .ok none
  | _ => .error .notText

/-- Reads a field, or takes its default if there is none. -/
def readField {α : Type} (raw : List (String × RawSetting)) (name : String) (default : α)
    (read : RawSetting → Except Rejection α) : α × List Issue :=
  match raw.lookup name with
  | none => (default, [])
  | some v => match read v with
    | .ok a => (a, [])
    | .error reason => (default, [{ path := [.field name], reason }])

/-- Reads settings. Where a field is given more than once, the first one counts. -/
def ofRaw (raw : List (String × RawSetting)) : Except Failure Settings :=
  let required := readField raw requireStylesheetField true readSwitch
  let aware := readField raw identityAwareField false readSwitch
  let url := readField raw sourceUrlField none readText
  let issues := required.2 ++ aware.2 ++ url.2
  if issues.isEmpty then
    .ok { requireStylesheet := required.1, identityAware := aware.1, sourceUrl := url.1 }
  else .error (.rejected issues)

/-- Reads settings from the entries of a mapping. -/
def ofEntries (entries : List (Value × Value)) : Except Failure Settings := do
  let raw ← entries.mapM fun e => match e.1.text? with
    | some name => .ok (name, RawSetting.ofValue e.2)
    | none => .error .badArguments
  ofRaw raw

end Settings
end Stylesheet
