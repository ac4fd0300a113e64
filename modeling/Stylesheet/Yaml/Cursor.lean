/-!
# Places in a YAML text

A cursor is what is left of a text, with the line and the column where it starts; the columns are
what indentation is measured by. Carriage returns have become line feeds before.
-/

namespace Stylesheet.Yaml

/-! ## Characters -/

/-- A character that ends a line. -/
def isBreak (c : Char) : Bool := c == '\n' || c == '\x85' || c == '\u2028' || c == '\u2029'

/-- A blank within a line. -/
def isSpace (c : Char) : Bool := c == ' ' || c == '\t'

/-- A blank or the end of a line. -/
def isGap (c : Char) : Bool := isSpace c || isBreak c

/-- A character that may stand in a document. -/
def isReadable (c : Char) : Bool :=
  let n := c.toNat
  n == 9 || n == 10 || n == 13 || (32 ≤ n && n ≤ 126) || n == 0x85 ||
    (0xa0 ≤ n && n ≠ 0xfffe && n ≠ 0xffff)

/-- The mark that may stand at the start of a document and takes no column. -/
def byteOrderMark : Char := '\ufeff'

/-- Whether the text ends here or goes on with a character of a class. -/
def endsOr (p : Char → Bool) (cs : List Char) : Bool := cs.head?.all p

/-- Whether a line starts with the marker of the start or the end of a document. -/
def isMarker (c : Char) (cs : List Char) : Bool :=
  cs.take 3 == [c, c, c] && endsOr isGap (cs.drop 3)

/-- Whether a line starts with either marker. -/
def startsWithMarker (cs : List Char) : Bool := isMarker '-' cs || isMarker '.' cs

/-! ## Cursors -/

/-- What is left of a text, how much came before it, and where it starts. -/
structure Cursor where
  rest : List Char
  index : Nat := 0
  line : Nat := 0
  column : Nat := 0
  deriving Repr, Inhabited

namespace Cursor

/-- The next character. -/
def peek? (c : Cursor) : Option Char := c.rest.head?

/-- Goes one character on. -/
def next (c : Cursor) : Cursor :=
  match c.rest with
  | [] => c
  | x :: rest =>
    if isBreak x then { rest, index := c.index + 1, line := c.line + 1 }
    else
      { rest, index := c.index + 1, line := c.line,
        column := if x = byteOrderMark then c.column else c.column + 1 }

/-- Goes so many characters on. -/
def skip (c : Cursor) : Nat → Cursor
  | 0 => c
  | n + 1 => c.next.skip n

/-- The characters of a class that come first, and the place after them. -/
def span (p : Char → Bool) (c : Cursor) : List Char × Cursor :=
  let run := c.rest.takeWhile p
  (run, c.skip run.length)

/-- The place after the characters of a class that come first. -/
def skipWhile (p : Char → Bool) (c : Cursor) : Cursor := (c.span p).2

/-- Spaces up to a column. -/
def skipSpacesTo (column : Nat) : Nat → Cursor → Cursor
  | 0, c => c
  | fuel + 1, c =>
    if c.column < column ∧ c.peek? = some ' ' then skipSpacesTo column fuel c.next else c

/-- The rest of the line if it is a comment. -/
def skipComment (c : Cursor) : Cursor :=
  if c.peek? = some '#' then c.skipWhile (fun x => !isBreak x) else c

/-- A line break as it counts in text, and the place after it. -/
def break? (c : Cursor) : Option (Char × Cursor) :=
  match c.rest with
  | x :: _ => if isBreak x then some (if x = '\x85' then '\n' else x, c.next) else none
  | [] => none

end Cursor

/-- What line breaks become when lines are joined: the first is a space if no other follows, and
is dropped otherwise. -/
def joinLines (first : Char) (more : List Char) : List Char :=
  if first ≠ '\n' then first :: more
  else if more.isEmpty then [' ']
  else more

end Stylesheet.Yaml
