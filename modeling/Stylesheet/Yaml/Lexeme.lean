import Stylesheet.Failure
import Stylesheet.Text.Character
import Stylesheet.Yaml.Cursor
/-!
# The pieces of YAML

Names, tags, directives, and plain and quoted text. Every reader takes the place where its piece
starts and gives back what it read and the place after it.
-/

namespace Stylesheet.Yaml
open Text

/-- What was read, and the place after it. -/
abbrev Placed (α : Type) := α × Cursor

/-- The text is not well-formed. -/
def malformed {α : Type} : Except Failure α := .error .malformedRules

/-- Whether a piece that takes up a line to its end may end here. -/
def endsPiece (cs : List Char) : Bool := endsOr (fun c => c == ' ' || isBreak c) cs

/-- The rest of a line that may hold nothing but a comment. -/
def restOfLine (c : Cursor) : Except Failure Cursor :=
  let c := (c.skipWhile (· == ' ')).skipComment
  match c.break? with
  | some (_, after) => .ok after
  | none => if c.rest.isEmpty then .ok c else malformed

/-! ## Names and tags -/

/-- A character of a name. -/
def isNameCharacter (c : Char) : Bool := c.isAlphanum || c == '-' || c == '_'

/-- What may follow a name without a blank. -/
def afterName : List Char := "?:,]\x7d%@\x60".toList

/-- The name of an anchor, after the character that announces it. -/
def anchorName (c : Cursor) : Except Failure (Placed String) :=
  let (name, after) := c.next.span isNameCharacter
  if name.isEmpty then malformed
  else if endsOr (fun x => isGap x || afterName.contains x) after.rest then
    .ok (String.ofList name, after)
  else malformed

/-- The tag that says nothing. -/
def bareTag : String := "!"

/-- What the tags of the core types start with. -/
def coreTag : String := "tag:yaml.org,2002:"

/-- A character of a tag. -/
def isTagCharacter (c : Char) : Bool :=
  c.isAlphanum || "-;/?:@&=+$,_.!~*\x27()[]%".toList.contains c

/-- The name in a tag. -/
def tagName (c : Cursor) : Except Failure (Placed String) :=
  let (name, after) := c.span isTagCharacter
  if name.isEmpty then malformed else .ok (String.ofList name, after)

/-- A tag in any of its forms. -/
def tagForm (c : Cursor) : Except Failure (Placed String) :=
  match c.rest with
  | '!' :: '<' :: _ => do
    let (name, after) ← tagName (c.skip 2)
    if after.peek? = some '>' then return (name, after.next) else malformed
  | '!' :: '!' :: _ => do
    let (name, after) ← tagName (c.skip 2)
    return (coreTag ++ name, after)
  | '!' :: rest =>
    if endsOr isGap rest then .ok (bareTag, c.next)
    else do
      let (name, after) ← tagName c.next
      if name.contains '!' then malformed else return (bareTag ++ name, after)
  | _ => malformed

/-- A tag, which a blank or the end of the line follows. -/
def tag (c : Cursor) : Except Failure (Placed String) := do
  let (name, after) ← tagForm c
  if endsPiece after.rest then return (name, after) else malformed

/-! ## Directives -/

/-- The version that a directive gives: its first number. -/
def version (c : Cursor) : Except Failure (Placed Nat) :=
  let (major, c) := (c.skipWhile (· == ' ')).span Char.isDigit
  if major.isEmpty ∨ c.peek? ≠ some '.' then malformed
  else
    let (minor, c) := c.next.span Char.isDigit
    if minor.isEmpty || !endsPiece c.rest then malformed
    else .ok (numberInBase 10 major, c)

/-- A directive, with the version it gives if it gives one. -/
def directive (c : Cursor) : Except Failure (Placed (Option Nat)) := do
  let (name, c) := c.next.span isNameCharacter
  if name.isEmpty || !endsPiece c.rest then malformed
  else if name = "YAML".toList then
    let (major, c) ← version c
    return (some major, ← restOfLine c)
  else return (none, ← restOfLine (c.skipWhile fun x => !isBreak x))

/-! ## Plain text -/

/-- Whether plain text ends before these characters. -/
def endsPlain (inFlow : Bool) : List Char → Bool
  | [] => true
  | c :: rest =>
    isGap c || (inFlow && ",?[]\x7b\x7d".toList.contains c) ||
      (c == ':' && endsOr (fun x => isGap x || (inFlow && ",[]\x7b\x7d".toList.contains x)) rest)

/-- The characters up to the end of plain text or to a blank. -/
def plainRun (inFlow : Bool) : List Char → List Char
  | [] => []
  | c :: rest => if endsPlain inFlow (c :: rest) then [] else c :: plainRun inFlow rest

/-- A gap in plain text: what it becomes, nothing if the text does not go on after it, whether
the line ends in it, and the place after it. -/
structure PlainGap where
  text : List Char := []
  broken : Bool := false
  after : Cursor

/-- Further empty lines, unless a marker stops them. -/
def emptyLines : Nat → Cursor → Option (List Char) × Cursor
  | 0, c => (some [], c)
  | fuel + 1, c =>
    let c := c.skipWhile (· == ' ')
    match c.break? with
    | none => (some [], c)
    | some (b, c) =>
      if startsWithMarker c.rest then (none, c)
      else
        let r := emptyLines fuel c
        (r.1.map (b :: ·), r.2)

/-- The gap that starts here. -/
def plainGap (c : Cursor) : PlainGap :=
  let (spaces, c) := c.span (· == ' ')
  match c.break? with
  | none => { text := spaces, after := c }
  | some (b, c) =>
    if startsWithMarker c.rest then { broken := true, after := c }
    else match emptyLines (c.rest.length + 1) c with
      | (none, c) => { broken := true, after := c }
      | (some more, c) => { text := joinLines b more, broken := true, after := c }

/-- Plain text after a gap, and the gap that ends it. Outside of brackets a line that starts
before column `indent` ends it. -/
def plainText (inFlow : Bool) (indent : Nat) : Nat → PlainGap → List Char × PlainGap
  | 0, gap => ([], gap)
  | fuel + 1, gap =>
    let run := if gap.after.peek? = some '#' then [] else plainRun inFlow gap.after.rest
    if run.isEmpty then ([], gap)
    else
      let next := plainGap (gap.after.skip run.length)
      if next.text.isEmpty || next.after.peek? == some '#' ||
          (!inFlow && next.after.column < indent) then (gap.text ++ run, next)
      else
        let r := plainText inFlow indent fuel next
        (gap.text ++ run ++ r.1, r.2)

/-- Plain text from here on. -/
def plain (inFlow : Bool) (indent : Nat) (c : Cursor) : List Char × PlainGap :=
  plainText inFlow indent (c.rest.length + 1) { after := c }

/-! ## Quoted text -/

/-- What stands for a character after a backslash. -/
def escapes : List (Char × Char) :=
  [('0', '\x00'), ('a', '\x07'), ('b', '\x08'), ('t', '\t'), ('\t', '\t'), ('n', '\n'),
   ('v', '\x0b'), ('f', '\x0c'), ('r', '\r'), ('e', '\x1b'), (' ', ' '), ('\x22', '\x22'),
   ('\\', '\\'), ('/', '/'), ('N', '\x85'), ('_', '\xa0'), ('L', '\u2028'), ('P', '\u2029')]

/-- How many digits a code has, by the letter in front of it. -/
def codeWidths : List (Char × Nat) := [('x', 2), ('u', 4), ('U', 8)]

/-- A character by its code. -/
def codeCharacter (width : Nat) (c : Cursor) : Except Failure (Placed (List Char)) :=
  let digits := c.rest.take width
  if digits.length < width then malformed
  else match hexNumber? digits with
    | none => malformed
    | some n =>
      if n.isValidChar then .ok ([Char.ofNat n], c.skip width) else .error (.notCharacter n)

/-- The empty lines after a line break in quoted text, and the blanks that follow. -/
def quotedLines : Nat → Cursor → Except Failure (Placed (List Char))
  | 0, _ => malformed
  | fuel + 1, c =>
    if startsWithMarker c.rest then malformed
    else
      let c := c.skipWhile isSpace
      match c.break? with
      | none => .ok ([], c)
      | some (b, c) => do
        let (more, c) ← quotedLines fuel c
        return (b :: more, c)

/-- What follows a backslash. -/
def escapeSequence (c : Cursor) : Except Failure (Placed (List Char)) :=
  match c.rest with
  | [] => malformed
  | x :: _ =>
    match escapes.lookup x, codeWidths.lookup x with
    | some y, _ => .ok ([y], c.next)
    | none, some width => codeCharacter width c.next
    | none, none =>
      match c.break? with
      | some (_, after) => quotedLines (after.rest.length + 1) after
      | none => malformed

/-- A gap in quoted text: blanks stay, line breaks are joined. -/
def quotedGap (c : Cursor) : Except Failure (Placed (List Char)) :=
  let (spaces, c) := c.span isSpace
  match c.break? with
  | none => .ok (spaces, c)
  | some (b, c) => do
    let (more, c) ← quotedLines (c.rest.length + 1) c
    return (joinLines b more, c)

/-- The rest of quoted text up to its closing quote. Between double quotes a backslash escapes;
between single ones a quote is written twice. -/
def quotedText (double : Bool) : Nat → Cursor → Except Failure (Placed (List Char))
  | 0, _ => malformed
  | fuel + 1, c =>
    let quote := if double then '\x22' else '\x27'
    match c.rest with
    | [] => malformed
    | x :: rest =>
      if x = quote then
        if !double && rest.head? == some quote then do
          let (text, after) ← quotedText double fuel (c.skip 2)
          return (quote :: text, after)
        else .ok ([], c.next)
      else do
        let (piece, c) ←
          if double && x == '\\' then escapeSequence c.next
          else if isGap x then quotedGap c
          else .ok ([x], c.next)
        let (text, after) ← quotedText double fuel c
        return (piece ++ text, after)

/-- Quoted text from its opening quote on. -/
def quoted (double : Bool) (c : Cursor) : Except Failure (Placed String) := do
  let (text, after) ← quotedText double (c.rest.length + 1) c.next
  return (String.ofList text, after)

end Stylesheet.Yaml
