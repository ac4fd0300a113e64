import Stylesheet.Compile
import Stylesheet.Ledger
import Stylesheet.Settings
import Stylesheet.Sink
import Stylesheet.Variable
/-!
# Contexts

A context holds all that one stylesheet is made of: font faces, raw rule sets, and ledgers of
styles, keyframes and variables. Registering hands out names; flushing compiles everything,
writes it to a sink and only then marks what was registered as rendered.
-/

namespace Stylesheet

/-! ## State -/

/-- A registered font face; its name is the family. -/
structure FontFace where
  name : String
  definition : Value
  rendered : Bool := false
  serial : Nat := 0
  deriving Repr, Inhabited

/-- What a stylesheet is made of. -/
structure Registries where
  fontFaces : List FontFace := []
  fontFacesIssued : Nat := 0
  rules : List Value := []
  styles : Ledger Value := {}
  keyframes : Ledger Value := {}
  customProperties : Ledger String := {}
  deriving Repr, Inhabited

/-- A stylesheet in the making. `requireStylesheet` is the switch as it stands now; the settings
only say how it starts. -/
structure Context where
  settings : Settings := {}
  sink : Option Sink := none
  requireStylesheet : Bool := true
  registries : Registries := {}
  deriving Repr, Inhabited

/-- What registering hands out. -/
structure Handle where
  name : String
  payload : Value
  ticket : Ticket
  deriving Repr, Inhabited

/-- A handle as a value. -/
def Handle.toValue (h : Handle) : Value := .handle h.name h.payload (.issued h.ticket)

/-! ## Rendered flags -/

namespace Registries

/-- Whether a registered font face has reached the stylesheet. -/
def fontFaceRendered (r : Registries) (serial : Nat) : Bool :=
  r.fontFaces.any fun f => f.serial == serial && f.rendered

/-- Whether what a ticket stands for counts as having reached the stylesheet. -/
def ticketRendered (r : Registries) (t : Ticket) : Bool :=
  match t.registry with
  | .fontFaces => r.fontFaceRendered t.serial
  | .styles => r.styles.isRendered t.serial
  | .keyframes => r.keyframes.isRendered t.serial

/-- Whether a flag is set. -/
def rendered (r : Registries) : Flag → Bool
  | .fixed b _ => b
  | .issued t => r.ticketRendered t

end Registries

namespace Value

mutual

/-- The value with every flag replaced by how it stands. -/
def settle (rendered : Flag → Bool) : Value → Value
  | .scalar s => .scalar s
  | .list items => .list (settleItems rendered items)
  | .tuple items => .tuple (settleItems rendered items)
  | .mapping entries => .mapping (settleEntries rendered entries)
  | .variable name property fallback => .variable name property (settle rendered fallback)
  | .handle name payload flag =>
    .handle name (settle rendered payload) (.fixed (rendered flag) none)
  | .animation fields keyframes => .animation fields (settle rendered keyframes)

/-- The items with every flag replaced. -/
def settleItems (rendered : Flag → Bool) : List Value → List Value
  | [] => []
  | v :: rest => settle rendered v :: settleItems rendered rest

/-- The entries with every flag replaced. -/
def settleEntries (rendered : Flag → Bool) : List (Value × Value) → List (Value × Value)
  | [] => []
  | (k, v) :: rest => (settle rendered k, settle rendered v) :: settleEntries rendered rest

end

end Value

namespace Context

/-! ## Making a context -/

/-- A context with nothing registered. -/
def new (settings : Settings) (sink : Option Sink) : Context :=
  { settings, sink, requireStylesheet := settings.requireStylesheet,
    registries :=
      { styles := .empty settings.identityAware, keyframes := .empty settings.identityAware,
        customProperties := .empty settings.identityAware } }

/-- The context with other registries. -/
def withRegistries (c : Context) (r : Registries) : Context := { c with registries := r }

/-! ## Registering -/

/-- Whether the call site has to be asked for. -/
def asksForIdentity (c : Context) (explicit : Option String) : Bool :=
  c.settings.identityAware && explicit.isNone

/-- The identity of a registration: an explicit one, or else that of the call site; none at all
unless identities count. -/
def identity (c : Context) (explicit site : Option String) : Option String :=
  if c.settings.identityAware then explicit.or site else none

/-- Registers a style. -/
def registerStyle (c : Context) (name : String) (styles : Value) (identity : Option String) :
    Logged (Handle × Context) := do
  let (r, ledger) ← c.registries.styles.register name styles identity
  return ({ name := r.name, payload := styles,
            ticket := { registry := .styles, serial := r.serial, identity := r.identity } },
    c.withRegistries { c.registries with styles := ledger })

/-- Registers keyframes. -/
def registerKeyframes (c : Context) (name : String) (keyframes : Value)
    (identity : Option String) : Logged (Handle × Context) := do
  let (r, ledger) ← c.registries.keyframes.register name keyframes identity
  return ({ name := r.name, payload := keyframes,
            ticket := { registry := .keyframes, serial := r.serial, identity := r.identity } },
    c.withRegistries { c.registries with keyframes := ledger })

/-- Registers keyframes and defines an animation that uses them. The keyframes stay registered if
the other fields of the animation are rejected. -/
def namedAnimation (c : Context) (name : String) (keyframes : Value)
    (arguments : List (String × Value)) (identity : Option String) :
    Logged (Except Failure AnimationDefinition × Context) := do
  let (h, c) ← c.registerKeyframes name keyframes identity
  return (AnimationDefinition.ofArguments (some h.name) h.toValue arguments, c)

/-- What a variable is named after: a name of its own, or else the property. -/
def variableBase (property : String) (name : Option String) : String :=
  "--" ++ (match name with
    | none | some "" => Casing.kebab property
    | some n => n)

/-- Registers a variable. -/
def registerVariable (c : Context) (property : String) (name identity : Option String) :
    Logged (Variable × Context) := do
  let (r, ledger) ← c.registries.customProperties.register (variableBase property name) property
    identity
  return ({ name := r.name, property },
    c.withRegistries { c.registries with customProperties := ledger })

/-- The keys under which a font face may give its family, the one that counts first in front. -/
def familyKeys : List String := ["fontFamily", "font_family", "font-family"]

/-- Whether text holds other text. -/
def holdsText (part : List Char) : List Char → Bool
  | [] => part.isEmpty
  | c :: rest => part.isPrefixOf (c :: rest) || holdsText part rest

/-- The family that a font face gives; the first of the keys that is there counts. What is no
mapping has no keys, but a list or text may seem to hold one. -/
def family? : Value → Except Failure (Option Value)
  | .mapping entries => .ok (familyKeys.findSome? (Value.get? entries))
  | .list items | .tuple items =>
    if familyKeys.any fun k => items.any fun v => v.text? == some k then .error .noEntries
    else .ok none
  | .text s =>
    if familyKeys.any fun k => holdsText k.toList s.toList then .error .noEntries else .ok none
  | .animation _ _ => .ok none
  | _ => .error .notIterable

/-- Registers a font face. -/
def registerFontFace (c : Context) (definition : Value) : Except Failure (Handle × Context) := do
  match (← family? definition).getD .absent with
  | .absent => .error .missingFontFamily
  | family =>
    let name ← (family.settle c.registries.rendered).display
    let serial := c.registries.fontFacesIssued
    return ({ name, payload := definition, ticket := { registry := .fontFaces, serial } },
      c.withRegistries { c.registries with
        fontFaces := c.registries.fontFaces ++ [{ name, definition, serial }],
        fontFacesIssued := serial + 1 })

/-- Adds a raw rule set. -/
def addRules (c : Context) (rules : Value) : Context :=
  c.withRegistries { c.registries with rules := c.registries.rules ++ [rules] }

/-! ## The stylesheet -/

/-- The CSS of everything registered, a chunk for each: font faces, raw rule sets, styles,
keyframes. -/
def chunks (r : Registries) : Logged (List String) := do
  let settle := Value.settle r.rendered
  let faces ← Logged.forEach (fun f => Logged.ofExcept (fontFaceBlock (settle f.definition)))
    r.fontFaces
  let rules ← Logged.forEach (fun rules => css (settle rules)) r.rules
  let styles ← Logged.forEach
    (fun s => css (.mapping [(.text ("." ++ s.name), settle s.payload)])) r.styles.records
  let keyframes ← Logged.forEach
    (fun k => keyframesBlock k.name (settle k.payload) keyframeIndent) r.keyframes.records
  return faces ++ rules ++ styles ++ keyframes

/-- The stylesheet: the chunks that are not empty, each on a line of its own. -/
def getCss (c : Context) : Logged String := do
  return "\n".intercalate ((← chunks c.registries).filter (· ≠ ""))

/-- The stylesheet with the address it ends with, if there is one. -/
def withSourceUrl (settings : Settings) (css : String) : String :=
  match settings.sourceUrl with
  | none | some "" => css
  | some url => css ++ "\n/*# sourceURL=" ++ url ++ " */"

/-- The context with everything registered marked as rendered. -/
def markRendered (c : Context) : Context :=
  c.withRegistries { c.registries with
    fontFaces := c.registries.fontFaces.map fun f => { f with rendered := true },
    styles := c.registries.styles.markRendered,
    keyframes := c.registries.keyframes.markRendered,
    customProperties := c.registries.customProperties.markRendered }

/-- The record that a flush leaves. -/
def flushRecord (r : Registries) : LogRecord :=
  .flushed r.styles.size r.keyframes.size r.rules.length

/-- Writes a text to a sink, if there is one. -/
def writeTo (sink : Option Sink) (css : String) (o : Outlets) : Logged Unit × Outlets :=
  match sink with
  | none => (pure (), o)
  | some s => s.write css o

/-- Flushes the stylesheet to a sink, or else to the context's own. Nothing is marked as rendered
unless the stylesheet has been written. -/
def updateStylesheet (c : Context) (sink : Option Sink) (o : Outlets) :
    Logged (String × Context) × Outlets :=
  let text := Logged.bind c.getCss fun css => pure (withSourceUrl c.settings css)
  match text.result with
  | .error e => (⟨text.log, .error e⟩, o)
  | .ok css =>
    let written := writeTo (sink.or c.sink) css o
    (do
      let css ← text
      written.1
      Logged.record (flushRecord c.registries)
      return (css, c.markRendered), written.2)

/-- Forgets everything registered. -/
def reset (c : Context) : Context :=
  c.withRegistries { c.registries with
    fontFaces := [],
    rules := [],
    styles := c.registries.styles.reset,
    keyframes := c.registries.keyframes.reset,
    customProperties := c.registries.customProperties.reset }

/-! ## Class names -/

mutual

/-- The class names in a collection of handles and text, nested as it may be. Entries that count
as false are skipped; a handle whose style is not in the stylesheet is refused while `required`
is on. -/
def classNames (required : Bool) (rendered : Flag → Bool) : Value → Except Failure String
  | .scalar s =>
    if !s.truthy then .ok ""
    else match s with
      | .text t => .ok t
      | s => .error (.noClassNames (Value.scalar s).kindName)
  | .list items => do
    return " ".intercalate ((← classNamesOfItems required rendered items).filter (· ≠ ""))
  | .tuple items => do
    return " ".intercalate ((← classNamesOfItems required rendered items).filter (· ≠ ""))
  | .handle name _ flag =>
    if rendered flag || !required then .ok name else .error (.unrendered name)
  | .mapping [] => .ok ""
  | v => .error (.noClassNames v.kindName)

/-- The class names of each item. -/
def classNamesOfItems (required : Bool) (rendered : Flag → Bool) :
    List Value → Except Failure (List String)
  | [] => .ok []
  | v :: rest => do
    let names ← classNames required rendered v
    let more ← classNamesOfItems required rendered rest
    return names :: more

end

/-- The class names in a collection. -/
def classes (c : Context) (collection : Value) : Except Failure String :=
  classNames c.requireStylesheet c.registries.rendered collection

end Context
end Stylesheet
