import Stylesheet.Yaml.Lexeme
/-!
# Indented text

Text that follows its header on lines of its own, indented further than what it belongs to. A
header says whether line breaks are kept or folded, how the text ends and, if need be, how far it
is indented.
-/

namespace Stylesheet.Yaml
open Text

/-- What becomes of the line breaks at the end: one is left, none or all of them. -/
inductive Chomping where
  | clip
  | strip
  | keep
  deriving DecidableEq, Repr

/-- A header: how the text ends, and its indentation if that is given. -/
structure BlockHeader where
  chomping : Chomping := .clip
  indentation : Option Nat := none

/-- The sign in a header. -/
def chompingSign (c : Cursor) : Option Chomping × Cursor :=
  match c.peek? with
  | some '+' => (some .keep, c.next)
  | some '-' => (some .strip, c.next)
  | _ => (none, c)

/-- The digit in a header. -/
def indentationDigit (c : Cursor) : Option Nat × Cursor :=
  match c.peek? with
  | some x => if x.isDigit then (some (x.toNat - 48), c.next) else (none, c)
  | none => (none, c)

/-- A header, its sign before or after its digit. -/
def blockHeader (c : Cursor) : Except Failure (Placed BlockHeader) := do
  let (before, c) := chompingSign c
  let (indentation, c) := indentationDigit c
  let (after, c) := if before.isNone && indentation.isSome then chompingSign c else (none, c)
  if indentation = some 0 ∨ endsPiece c.rest = false then malformed
  else return ({ chomping := (before.or after).getD .clip, indentation }, ← restOfLine c)

/-- The empty lines from here on, and the place where the indentation of the next text ends. -/
def blockBreaks (indent : Nat) : Nat → Cursor → List Char × Cursor
  | 0, c => ([], c)
  | fuel + 1, c =>
    let c := c.skipSpacesTo indent indent
    match c.break? with
    | none => ([], c)
    | some (b, c) =>
      let r := blockBreaks indent fuel c
      (b :: r.1, r.2)

/-- The empty lines before the first text, with the widest indentation among them. -/
def leadingBreaks : Nat → Nat → Cursor → List Char × Nat × Cursor
  | 0, widest, c => ([], widest, c)
  | fuel + 1, widest, c =>
    let c := c.skipWhile (· == ' ')
    let widest := max widest c.column
    match c.break? with
    | none => ([], widest, c)
    | some (b, c) =>
      let r := leadingBreaks fuel widest c
      (b :: r.1, r.2)

/-- Lines of text: their content, the break after the last one, the empty lines that follow, and
the place after them. -/
structure BlockLines where
  text : List Char := []
  last : List Char := []
  trailing : List Char
  after : Cursor

/-- Whether a line of the text starts here. -/
def startsLine (indent : Nat) (c : Cursor) : Bool := c.column == indent && !c.rest.isEmpty

/-- Whether folding joins a line that starts here with its neighbour. -/
def foldsLine (c : Cursor) : Bool := !endsOr isSpace c.rest

/-- The lines from here on, after the empty lines `breaks`. -/
def blockLines (folded : Bool) (indent : Nat) : Nat → List Char → Cursor → BlockLines
  | 0, breaks, c => { trailing := breaks, after := c }
  | fuel + 1, breaks, c =>
    if startsLine indent c then
      let (line, ending) := c.span fun x => !isBreak x
      let (last, next) := match ending.break? with
        | some (b, next) => ([b], next)
        | none => ([], ending)
      let (more, next) := blockBreaks indent (next.rest.length + 1) next
      if startsLine indent next then
        let joint :=
          if folded && last == ['\n'] && foldsLine c && foldsLine next then
            if more.isEmpty then [' '] else []
          else last
        let r := blockLines folded indent fuel more next
        { r with text := breaks ++ line ++ joint ++ r.text }
      else { text := breaks ++ line, last, trailing := more, after := next }
    else { trailing := breaks, after := c }

/-- The text with its end. -/
def chomp (chomping : Chomping) (lines : BlockLines) : List Char :=
  match chomping with
  | .strip => lines.text
  | .clip => lines.text ++ lines.last
  | .keep => lines.text ++ lines.last ++ lines.trailing

/-- Indented text from its header on; `least` is the least column it may start at. -/
def blockText (folded : Bool) (least : Nat) (c : Cursor) : Except Failure (Placed String) := do
  let (header, c) ← blockHeader c.next
  let fuel := c.rest.length + 1
  let (indent, breaks, c) := match header.indentation with
    | some n =>
      let indent := least + n - 1
      (indent, blockBreaks indent fuel c)
    | none =>
      let r := leadingBreaks fuel 0 c
      (max least r.2.1, r.1, r.2.2)
  let lines := blockLines folded indent fuel breaks c
  return (String.ofList (chomp header.chomping lines), lines.after)

end Stylesheet.Yaml
