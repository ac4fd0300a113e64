import Stylesheet.Animation
/-!
# Reading animations from mappings

Each sub-property may be spelled in four ways; the first spelling present counts, in a fixed
order, and any other one is an unknown field. All rejected fields are reported together: the
known ones in the order of the fields, then the unknown ones in the order of the mapping.
-/

namespace Stylesheet.AnimationDefinition

/-! ## Spellings -/

/-- The spellings of each sub-property, the one that counts first in front. -/
def nameSpellings : List String :=
  ["name", "animation_name", "animationName", "animation-name"]

/-- Spellings of the duration. -/
def durationSpellings : List String :=
  ["duration", "animation_duration", "animationDuration", "animation-duration"]

/-- Spellings of the timing function. -/
def timingFunctionSpellings : List String :=
  ["timing_function", "animation_timing_function", "animationTimingFunction",
    "animation-timing-function"]

/-- Spellings of the delay. -/
def delaySpellings : List String :=
  ["delay", "animation_delay", "animationDelay", "animation-delay"]

/-- Spellings of the iteration count. -/
def iterationCountSpellings : List String :=
  ["iteration_count", "animation_iteration_count", "animationIterationCount",
    "animation-iteration-count"]

/-- Spellings of the direction. -/
def directionSpellings : List String :=
  ["direction", "animation_direction", "animationDirection", "animation-direction"]

/-- Spellings of the fill mode. -/
def fillModeSpellings : List String :=
  ["fill_mode", "animation_fill_mode", "animationFillMode", "animation-fill-mode"]

/-- Spellings of the play state. -/
def playStateSpellings : List String :=
  ["play_state", "animation_play_state", "animationPlayState", "animation-play-state"]

/-- The keyframes have one spelling only. -/
def keyframesSpellings : List String := ["keyframes"]

/-- All fields. -/
def allSpellings : List (List String) :=
  [nameSpellings, keyframesSpellings, durationSpellings, timingFunctionSpellings, delaySpellings,
    iterationCountSpellings, directionSpellings, fillModeSpellings, playStateSpellings]

/-- The first of the spellings that is a key of the mapping, with its value. -/
def pick? (entries : List (Value × Value)) (spellings : List String) : Option (String × Value) :=
  spellings.findSome? fun s => (Value.get? entries s).map (s, ·)

/-! ## Fields -/

/-- Text, or nothing. -/
def readText (entries : List (Value × Value)) (spellings : List String) :
    Option String × List Issue :=
  match pick? entries spellings with
  | none | some (_, .absent) => (none, [])
  | some (_, .text s) => (some s, [])
  | some (key, _) => (none, [{ path := [.field key], reason := .notText }])

/-- A number, text, or nothing; a truth value counts as one or zero. -/
def readAmount (entries : List (Value × Value)) (spellings : List String) :
    Option Amount × List Issue :=
  match pick? entries spellings with
  | none | some (_, .absent) => (none, [])
  | some (_, .scalar (.bool b)) => (some (.int (if b then 1 else 0)), [])
  | some (_, .scalar (.int n)) => (some (.int n), [])
  | some (_, .scalar (.float x)) => (some (.float x), [])
  | some (_, .text s) => (some (.text s), [])
  | some (key, _) => (none,
      [{ path := [.field key, .field "int"], reason := .notWhole },
       { path := [.field key, .field "float"], reason := .notNumber },
       { path := [.field key, .field "str"], reason := .notText }])

/-- The text of a key in the path to a field; a key that cannot be written goes by its kind. -/
def keyText (key : Value) : String :=
  if key.isTooLong then "<unprintable " ++ key.kindName ++ " object>" else key.inspect

/-- How the path to a field names a key that is not text. -/
def keyStep (key : Value) : Step :=
  match key with
  | .scalar (.bool b) => .index (if b then 1 else 0)
  | .scalar (.int n) => if fits64 n then .index n else .field (keyText key)
  | v => .field (keyText v)

/-- The complaint about an entry that belongs to no field. -/
def unknownEntry (entries : List (Value × Value)) (key : Value) : Option Issue :=
  match key.text? with
  | some s =>
    if allSpellings.any fun spellings => (pick? entries spellings).map Prod.fst == some s then none
    else some { path := [.field s], reason := .unknownField }
  | none => some { path := [keyStep key], reason := .keyNotText }

/-- Reads an animation from a mapping. -/
def ofEntries (entries : List (Value × Value)) : Except Failure AnimationDefinition :=
  let name := readText entries nameSpellings
  let duration := readAmount entries durationSpellings
  let timingFunction := readText entries timingFunctionSpellings
  let delay := readAmount entries delaySpellings
  let iterationCount := readAmount entries iterationCountSpellings
  let direction := readText entries directionSpellings
  let fillMode := readText entries fillModeSpellings
  let playState := readText entries playStateSpellings
  let issues := name.2 ++ duration.2 ++ timingFunction.2 ++ delay.2 ++ iterationCount.2 ++
    direction.2 ++ fillMode.2 ++ playState.2 ++ entries.filterMap fun e => unknownEntry entries e.1
  if issues.isEmpty then
    .ok
      { fields :=
          { name := name.1, duration := duration.1, timingFunction := timingFunction.1,
            delay := delay.1, iterationCount := iterationCount.1, direction := direction.1,
            fillMode := fillMode.1, playState := playState.1 },
        keyframes := ((pick? entries keyframesSpellings).map Prod.snd).getD .absent }
  else .error (.rejected issues)

/-! ## Arguments -/

/-- The arguments that an animation takes beside its name and keyframes. -/
def argumentNames : List String :=
  ["duration", "timing_function", "delay", "iteration_count", "direction", "fill_mode",
    "play_state"]

/-- Whether all arguments exist. -/
def argumentsExist (arguments : List (String × Value)) : Bool :=
  arguments.all fun a => argumentNames.contains a.1

/-- An animation with this name and keyframes, and with the arguments given. -/
def ofArguments (name : Option String) (keyframes : Value) (arguments : List (String × Value)) :
    Except Failure AnimationDefinition :=
  ofEntries ((.text "name", .scalar (.ofText name)) :: (.text "keyframes", keyframes) ::
    arguments.map fun a => (.text a.1, a.2))

/-- An animation with inline keyframes that are named where it is used. -/
def anonymous (keyframes : Value) (arguments : List (String × Value)) :
    Except Failure AnimationDefinition :=
  ofArguments none keyframes arguments

end Stylesheet.AnimationDefinition
