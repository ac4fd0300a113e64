import Stylesheet.Yaml.Token
/-!
# YAML nodes

The tree that tokens spell out. An alias stands for the node that its anchor names, and may stand
inside that node: then the node is a loop, which holds itself. A text holds a single document; an
empty one is an empty scalar.
-/

namespace Stylesheet.Yaml

/-- A node. A scalar without a tag means what its text says if it is plain, and is text if it is
quoted. -/
inductive Node where
  | scalar (tag : Option String) (plain : Bool) (text : String)
  | sequence (tag : Option String) (items : List Node)
  | mapping (tag : Option String) (entries : List (Node × Node))
  /-- A node inside which `again` with this name stands for the whole. -/
  | loop (name : String) (body : Node)
  | again (name : String)
  deriving Repr, Inhabited

/-- The node where nothing is written. -/
def Node.empty : Node := .scalar none true ""

namespace Node

mutual

/-- The node with a loop in the places where its name comes again. -/
def close (name : String) (whole : Node) : Node → Node
  | .scalar tag plain text => .scalar tag plain text
  | .sequence tag items => .sequence tag (closeItems name whole items)
  | .mapping tag entries => .mapping tag (closeEntries name whole entries)
  | .loop inner body => .loop inner (close name whole body)
  | .again other => if other = name then whole else .again other

/-- The items with a loop where its name comes again. -/
def closeItems (name : String) (whole : Node) : List Node → List Node
  | [] => []
  | n :: rest => close name whole n :: closeItems name whole rest

/-- The entries with a loop where its name comes again. -/
def closeEntries (name : String) (whole : Node) : List (Node × Node) → List (Node × Node)
  | [] => []
  | (k, v) :: rest => (close name whole k, close name whole v) :: closeEntries name whole rest

end

mutual

/-- Whether there is a loop in a node. -/
def hasLoop : Node → Bool
  | .scalar _ _ _ => false
  | .sequence _ items => anyHasLoop items
  | .mapping _ entries => anyEntryHasLoop entries
  | .loop _ _ | .again _ => true

/-- Whether there is a loop in an item. -/
def anyHasLoop : List Node → Bool
  | [] => false
  | n :: rest => n.hasLoop || anyHasLoop rest

/-- Whether there is a loop in a key or a value. -/
def anyEntryHasLoop : List (Node × Node) → Bool
  | [] => false
  | (k, v) :: rest => k.hasLoop || v.hasLoop || anyEntryHasLoop rest

end

end Node

/-! ## State -/

/-- The tokens that are left, the nodes that anchors name, those still being read without a node,
and the names that have come again inside their own nodes. -/
structure Reading where
  tokens : List Token
  anchors : List (String × Option Node) := []
  loops : List String := []

namespace Reading

/-- Goes one token on. -/
def next (r : Reading) : Reading := { r with tokens := r.tokens.tail }

/-- Whether the next token is one of these. -/
def atAny (r : Reading) (ts : List Token) : Bool := r.tokens.head?.any ts.contains

/-- The node that a name stands for, after the token that says so. -/
def resolve (r : Reading) (name : String) : Except Failure (Node × Reading) :=
  match r.anchors.lookup name with
  | none => malformed
  | some none => .ok (.again name, { r.next with loops := name :: r.loops })
  | some (some n) => .ok (n, r.next)

/-- Announces a node under a name that is not yet taken. -/
def announce (r : Reading) (name : Option String) : Except Failure Reading :=
  match name with
  | none => .ok r
  | some name =>
    if (r.anchors.lookup name).isSome then malformed
    else .ok { r with anchors := (name, none) :: r.anchors }

/-- Gives a name its node. If the name has come again inside, the node is a loop, and so are the
parts of it that have names of their own. -/
def define (r : Reading) (name : Option String) (n : Node) : Node × Reading :=
  match name with
  | none => (n, r)
  | some name =>
    if r.loops.contains name then
      let whole := Node.loop name n
      let anchors := r.anchors.map fun a => (a.1, a.2.map (Node.close name whole))
      (whole, { r with anchors := (name, some whole) :: anchors })
    else (n, { r with anchors := (name, some n) :: r.anchors })

end Reading

/-- What may stand before a node. -/
structure Properties where
  anchor : Option String := none
  tag : Option String := none

/-- An anchor and a tag in either order. -/
def properties (r : Reading) : Properties × Reading :=
  match r.tokens with
  | .anchor a :: .tag t :: rest | .tag t :: .anchor a :: rest =>
    ({ anchor := some a, tag := some t }, { r with tokens := rest })
  | .anchor a :: rest => ({ anchor := some a }, { r with tokens := rest })
  | .tag t :: rest => ({ tag := some t }, { r with tokens := rest })
  | _ => ({}, r)

namespace Properties

/-- Whether anything is given. -/
def isGiven (p : Properties) : Bool := p.anchor.isSome || p.tag.isSome

/-- The tag, if it says something. -/
def properTag (p : Properties) : Option String := p.tag.filter (· ≠ bareTag)

/-- A scalar; the tag that says nothing makes any text count as plain. -/
def scalar (p : Properties) (text : String) (plain : Bool) : Node :=
  .scalar p.properTag (plain || p.tag == some bareTag) text

end Properties

/-! ## Reading nodes -/

/-- Where a node stands: between brackets, in an entry of a block, or as a key or a value of a
block, where the entries of a sequence need not be indented. -/
inductive Site where
  | flow
  | entry
  | member
  deriving DecidableEq, Repr

/-- What the first token of a key or a value of a block cannot be. -/
def memberEnds : List Token := [.key, .value, .blockEnd]

mutual

/-- A node. In all these functions the fuel bounds the number of calls within one another. -/
def node : Nat → Site → Reading → Except Failure (Node × Reading)
  | 0, _, _ => malformed
  | fuel + 1, site, r =>
    match r.tokens with
    | .alias name :: _ => r.resolve name
    | _ => do
      let (p, r) := properties r
      let r ← r.announce p.anchor
      let (n, r) ← content fuel site p r
      return r.define p.anchor n

/-- What follows the properties of a node. -/
def content : Nat → Site → Properties → Reading → Except Failure (Node × Reading)
  | 0, _, _, _ => malformed
  | fuel + 1, site, p, r =>
    match r.tokens, site with
    | .entry :: _, .member => do
      let (items, r) ← looseItems fuel r
      return (.sequence p.properTag items, r)
    | .scalar text plain :: _, _ => .ok (p.scalar text plain, r.next)
    | .flowSequence :: _, _ => do
      let (items, r) ← flowItems fuel true r.next
      return (.sequence p.properTag items, r)
    | .flowMapping :: _, _ => do
      let (entries, r) ← flowEntries fuel true r.next
      return (.mapping p.properTag entries, r)
    | .blockSequence :: _, .entry | .blockSequence :: _, .member => do
      let (items, r) ← blockItems fuel r.next
      return (.sequence p.properTag items, r)
    | .blockMapping :: _, .entry | .blockMapping :: _, .member => do
      let (entries, r) ← blockEntries fuel r.next
      return (.mapping p.properTag entries, r)
    | _, _ => if p.isGiven then .ok (p.scalar "" true, r) else malformed

/-- A node, or nothing if one of the tokens `ends` comes next. -/
def nodeUnless : Nat → Site → List Token → Reading → Except Failure (Node × Reading)
  | 0, _, _, _ => malformed
  | fuel + 1, site, ends, r => if r.atAny ends then .ok (.empty, r) else node fuel site r

/-- A value after its `:`, or nothing if there is none. -/
def valueUnless : Nat → Site → List Token → Reading → Except Failure (Node × Reading)
  | 0, _, _, _ => malformed
  | fuel + 1, site, ends, r =>
    if r.atAny [.value] then nodeUnless fuel site ends r.next else .ok (.empty, r)

/-- The entries of a sequence up to the end of its block. -/
def blockItems : Nat → Reading → Except Failure (List Node × Reading)
  | 0, _ => malformed
  | fuel + 1, r =>
    match r.tokens with
    | .entry :: _ => do
      let (item, r) ← nodeUnless fuel .entry [.entry, .blockEnd] r.next
      let (items, r) ← blockItems fuel r
      return (item :: items, r)
    | .blockEnd :: _ => .ok ([], r.next)
    | _ => malformed

/-- The entries of a sequence that is no block of its own. -/
def looseItems : Nat → Reading → Except Failure (List Node × Reading)
  | 0, _ => malformed
  | fuel + 1, r =>
    match r.tokens with
    | .entry :: _ => do
      let (item, r) ← nodeUnless fuel .entry (.entry :: memberEnds) r.next
      let (items, r) ← looseItems fuel r
      return (item :: items, r)
    | _ => .ok ([], r)

/-- The keys and values of a mapping up to the end of its block. -/
def blockEntries : Nat → Reading → Except Failure (List (Node × Node) × Reading)
  | 0, _ => malformed
  | fuel + 1, r =>
    match r.tokens with
    | .key :: _ => do
      let (k, r) ← nodeUnless fuel .member memberEnds r.next
      let (v, r) ← valueUnless fuel .member memberEnds r
      let (entries, r) ← blockEntries fuel r
      return ((k, v) :: entries, r)
    | .blockEnd :: _ => .ok ([], r.next)
    | _ => malformed

/-- The items of a sequence up to its closing bracket. A key makes an item a mapping of its
own. -/
def flowItems : Nat → Bool → Reading → Except Failure (List Node × Reading)
  | 0, _, _ => malformed
  | fuel + 1, first, r => do
    if r.atAny [.flowSequenceEnd] then return ([], r.next)
    else if !first && !r.atAny [.separator] then malformed
    else
      let r := if first then r else r.next
      match r.tokens with
      | .key :: _ =>
        let (k, r) ← nodeUnless fuel .flow [.value, .separator, .flowSequenceEnd] r.next
        let (v, r) ← valueUnless fuel .flow [.separator, .flowSequenceEnd] r
        let (items, r) ← flowItems fuel false r
        return (.mapping none [(k, v)] :: items, r)
      | .flowSequenceEnd :: _ => return ([], r.next)
      | _ =>
        let (item, r) ← node fuel .flow r
        let (items, r) ← flowItems fuel false r
        return (item :: items, r)

/-- The keys and values of a mapping up to its closing bracket. A node that no key sign
announces is a key without a value. -/
def flowEntries : Nat → Bool → Reading → Except Failure (List (Node × Node) × Reading)
  | 0, _, _ => malformed
  | fuel + 1, first, r => do
    if r.atAny [.flowMappingEnd] then return ([], r.next)
    else if !first && !r.atAny [.separator] then malformed
    else
      let r := if first then r else r.next
      match r.tokens with
      | .key :: _ =>
        let (k, r) ← nodeUnless fuel .flow [.value, .separator, .flowMappingEnd] r.next
        let (v, r) ← valueUnless fuel .flow [.separator, .flowMappingEnd] r
        let (entries, r) ← flowEntries fuel false r
        return ((k, v) :: entries, r)
      | .flowMappingEnd :: _ => return ([], r.next)
      | _ =>
        let (k, r) ← node fuel .flow r
        let (entries, r) ← flowEntries fuel false r
        return ((k, .empty) :: entries, r)

end

/-! ## Documents -/

/-- Steps over the directives before a document; a version may be given once, and has to be a
first one. -/
def skipDirectives (seen : Bool) : List Token → Except Failure (List Token)
  | .directive none :: rest => skipDirectives seen rest
  | .directive (some major) :: rest =>
    if seen || major ≠ 1 then malformed else skipDirectives true rest
  | rest => .ok rest

/-- Whether tokens hold no content before the next document or the end. -/
def holdsNothing : List Token → Bool
  | [] | .directive _ :: _ | .documentStart :: _ | .documentEnd :: _ => true
  | _ => false

/-- The content of a document and what follows it. -/
def documentContent (explicit : Bool) (ts : List Token) : Except Failure (Node × List Token) := do
  if explicit && holdsNothing ts then return (.empty, ts)
  else
    let (n, r) ← node (4 * ts.length + 8) .entry { tokens := ts }
    return (n, r.tokens)

/-- A document and what follows it. -/
def firstDocument (ts : List Token) : Except Failure (Node × List Token) :=
  match ts with
  | [] => .ok (.empty, [])
  | .directive _ :: _ | .documentStart :: _ => do
    match ← skipDirectives false ts with
    | .documentStart :: rest => documentContent true rest
    | _ => malformed
  | _ => documentContent false ts

/-- The single document of a list of tokens. -/
def Node.ofTokens (ts : List Token) : Except Failure Node := do
  let (n, rest) ← firstDocument ts
  if rest.all (· == .documentEnd) then return n else malformed

end Stylesheet.Yaml
