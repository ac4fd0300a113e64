import Stylesheet.Yaml.Block
/-!
# YAML tokens

A text becomes a list of tokens in which indentation has turned into brackets. What may be a key
is remembered until a `:` shows that it is one; the tokens for it are then put in front of it.
-/

namespace Stylesheet.Yaml

/-! ## Tokens -/

/-- A token. Those called `block…` and `key` stand for indentation and for keys that need no sign
of their own. -/
inductive Token where
  | directive (version : Option Nat)
  | documentStart
  | documentEnd
  | blockSequence
  | blockMapping
  | blockEnd
  | flowSequence
  | flowSequenceEnd
  | flowMapping
  | flowMappingEnd
  | entry
  | separator
  | key
  | value
  | alias (name : String)
  | anchor (name : String)
  | tag (name : String)
  | scalar (text : String) (plain : Bool)
  deriving DecidableEq, Repr, Inhabited

/-! ## State -/

/-- The start of what may turn out to be a key: how many tokens came before it and where it is. In
a mapping whose keys start at this column it has to be one. -/
structure Candidate where
  position : Nat
  required : Bool
  start : Cursor

/-- How far a text has been read: the tokens, the latest first; the columns of the open blocks,
the innermost first; what may be a key at this level of brackets and at the levels around it; and
whether a key may start here. -/
structure Lexer where
  cursor : Cursor
  tokens : List Token := []
  indents : List Nat := []
  candidate : Option Candidate := none
  outer : List (Option Candidate) := []
  keyAllowed : Bool := true

namespace Lexer

/-- Whether a bracket is open. -/
def inFlow (l : Lexer) : Bool := !l.outer.isEmpty

/-- Adds a token. -/
def emit (l : Lexer) (t : Token) : Lexer := { l with tokens := t :: l.tokens }

/-- Adds a token for the next `n` characters. -/
def emitOver (l : Lexer) (n : Nat) (t : Token) : Lexer :=
  { l.emit t with cursor := l.cursor.skip n }

/-- Puts a token where there were so many before it. -/
def emitAt (l : Lexer) (position : Nat) (t : Token) : Lexer :=
  { l with tokens := l.tokens.insertIdx (l.tokens.length - position) t }

/-- The least column at which text within the innermost block starts. -/
def least (l : Lexer) : Nat :=
  match l.indents with
  | [] => 0
  | i :: _ => i + 1

/-! ### Indentation -/

/-- Closes the blocks that are indented further than a column, or all blocks. -/
def closeBlocks (l : Lexer) (column : Option Nat) : Lexer :=
  if l.inFlow then l
  else
    let closed := l.indents.takeWhile fun i => column.all (· < i)
    { l with
      tokens := List.replicate closed.length .blockEnd ++ l.tokens,
      indents := l.indents.drop closed.length }

/-- Whether a block that starts at a column is a new one. -/
def opensBlock (l : Lexer) (column : Nat) : Bool := !l.inFlow && l.indents.head?.all (· < column)

/-- Opens a block at the current column if there is none yet. -/
def openBlock (l : Lexer) (t : Token) : Lexer :=
  if l.opensBlock l.cursor.column then
    { l.emit t with indents := l.cursor.column :: l.indents }
  else l

/-! ### Keys -/

/-- How many characters there may be between the start of a key and its `:`. -/
def keyLimit : Nat := 1024

/-- Whether it is too late for a `:`. -/
def isStale (here : Cursor) (k : Candidate) : Bool :=
  k.start.line ≠ here.line || keyLimit < here.index - k.start.index

/-- Gives up a candidate for good reason; one that has to be a key is missed. -/
def giveUp : Option Candidate → Except Failure (Option Candidate)
  | some k => if k.required then malformed else .ok none
  | none => .ok none

/-- Gives up a candidate if it is too late. -/
def giveUpStale (here : Cursor) (k : Option Candidate) : Except Failure (Option Candidate) :=
  if k.any (isStale here) then giveUp k else .ok k

/-- Gives up all candidates for which it is too late. -/
def dropStale (l : Lexer) : Except Failure Lexer := do
  let candidate ← giveUpStale l.cursor l.candidate
  let outer ← l.outer.mapM (giveUpStale l.cursor)
  return { l with candidate, outer }

/-- Gives up the candidate of this level. -/
def dropCandidate (l : Lexer) : Except Failure Lexer := do
  let candidate ← giveUp l.candidate
  return { l with candidate }

/-- Remembers that a key may start here. -/
def saveCandidate (l : Lexer) : Except Failure Lexer := do
  if l.keyAllowed then
    let l ← l.dropCandidate
    let required := !l.inFlow && l.indents.head? == some l.cursor.column
    let k : Candidate := { position := l.tokens.length, required, start := l.cursor }
    return { l with candidate := some k }
  else return l

/-! ## Reading one token -/

/-- Goes on to the next token, over blanks, comments and line breaks. -/
def skipGap : Nat → Lexer → Lexer
  | 0, l => l
  | fuel + 1, l =>
    let c := (l.cursor.skipWhile (· == ' ')).skipComment
    match c.break? with
    | some (_, c) => skipGap fuel { l with cursor := c, keyAllowed := l.keyAllowed || !l.inFlow }
    | none => { l with cursor := c }

/-- Ends everything that is open before a line that belongs to no block. -/
def endContent (l : Lexer) : Except Failure Lexer := do
  let l ← (l.closeBlocks none).dropCandidate
  return { l with keyAllowed := false }

/-- A directive. -/
def readDirective (l : Lexer) : Except Failure Lexer := do
  let l ← l.endContent
  let (version, cursor) ← directive l.cursor
  return { l.emit (.directive version) with cursor }

/-- The marker of the start or the end of a document. -/
def readMarker (l : Lexer) (t : Token) : Except Failure Lexer := do
  return (← l.endContent).emitOver 3 t

/-- An opening bracket. -/
def openFlow (l : Lexer) (t : Token) : Except Failure Lexer := do
  let l ← l.saveCandidate
  return { l.emitOver 1 t with
    candidate := none, outer := l.candidate :: l.outer, keyAllowed := true }

/-- A closing bracket. -/
def closeFlow (l : Lexer) (t : Token) : Except Failure Lexer :=
  match l.outer with
  | [] => malformed
  | candidate :: outer => .ok { l.emitOver 1 t with candidate, outer, keyAllowed := false }

/-- A comma between brackets. -/
def readSeparator (l : Lexer) : Except Failure Lexer := do
  let l ← l.dropCandidate
  return { l.emitOver 1 .separator with keyAllowed := true }

/-- Opens a block unless brackets are open; a block may start only where a key may. -/
def startBlock (l : Lexer) (t : Token) : Except Failure Lexer :=
  if l.inFlow || l.keyAllowed then .ok (l.openBlock t) else malformed

/-- The `-` of an entry. -/
def readEntry (l : Lexer) : Except Failure Lexer := do
  let l ← (← l.startBlock .blockSequence).dropCandidate
  return { l.emitOver 1 .entry with keyAllowed := true }

/-- The `?` of a key. -/
def readKey (l : Lexer) : Except Failure Lexer := do
  let l ← (← l.startBlock .blockMapping).dropCandidate
  return { l.emitOver 1 .key with keyAllowed := !l.inFlow }

/-- Makes a candidate a key. The first key of a block opens the block. -/
def confirm (l : Lexer) (k : Candidate) : Lexer :=
  let keyed := { l with candidate := none, keyAllowed := false }.emitAt k.position .key
  if l.opensBlock k.start.column then
    { keyed.emitAt k.position .blockMapping with indents := k.start.column :: l.indents }
  else keyed

/-- The `:` before a value. -/
def readValue (l : Lexer) : Except Failure Lexer := do
  match l.candidate with
  | some k => return (l.confirm k).emitOver 1 .value
  | none =>
    let l ← l.startBlock .blockMapping
    return { l.emitOver 1 .value with keyAllowed := !l.inFlow }

/-- A piece that may be a key, or the start of one. -/
def readPiece (l : Lexer) (piece : Cursor → Except Failure (Placed Token)) :
    Except Failure Lexer := do
  let l ← l.saveCandidate
  let (t, cursor) ← piece l.cursor
  return { l.emit t with cursor, keyAllowed := false }

/-- Plain text. -/
def readPlain (l : Lexer) : Except Failure Lexer := do
  let l ← l.saveCandidate
  let (text, gap) := plain l.inFlow l.least l.cursor
  return { l.emit (.scalar (String.ofList text) true) with
    cursor := gap.after, keyAllowed := gap.broken }

/-- Indented text. -/
def readBlock (l : Lexer) (folded : Bool) : Except Failure Lexer := do
  if l.inFlow then malformed
  else
    let l ← l.dropCandidate
    let (text, cursor) ← blockText folded (max 1 l.least) l.cursor
    return { l.emit (.scalar text false) with cursor, keyAllowed := true }

/-- Quoted text as a token. -/
def quotedToken (double : Bool) (c : Cursor) : Except Failure (Placed Token) := do
  let (text, c) ← quoted double c
  return (.scalar text false, c)

/-- A name as a token. -/
def nameToken (token : String → Token) (c : Cursor) : Except Failure (Placed Token) := do
  let (name, c) ← anchorName c
  return (token name, c)

/-- A tag as a token. -/
def tagToken (c : Cursor) : Except Failure (Placed Token) := do
  let (name, c) ← Yaml.tag c
  return (.tag name, c)

/-- Characters that no token starts with. -/
def strays : List Char := "#%@\x60\t".toList

/-- Reads the token that starts with `x`, before the characters `rest`. -/
def readToken (l : Lexer) (x : Char) (rest : List Char) : Except Failure Lexer :=
  let apart := endsOr isGap rest
  let atStart := l.cursor.column == 0
  if atStart && x == '%' then l.readDirective
  else if atStart && isMarker '-' l.cursor.rest then l.readMarker .documentStart
  else if atStart && isMarker '.' l.cursor.rest then l.readMarker .documentEnd
  else match x with
  | '[' => l.openFlow .flowSequence
  | '\x7b' => l.openFlow .flowMapping
  | ']' => l.closeFlow .flowSequenceEnd
  | '\x7d' => l.closeFlow .flowMappingEnd
  | ',' => l.readSeparator
  | '-' => if apart then l.readEntry else l.readPlain
  | '?' => if l.inFlow || apart then l.readKey else l.readPlain
  | ':' => if l.inFlow || apart then l.readValue else l.readPlain
  | '*' => l.readPiece (nameToken .alias)
  | '&' => l.readPiece (nameToken .anchor)
  | '!' => l.readPiece tagToken
  | '|' => l.readBlock false
  | '>' => l.readBlock true
  | '\x27' => l.readPiece (quotedToken false)
  | '\x22' => l.readPiece (quotedToken true)
  | x => if strays.contains x then malformed else l.readPlain

/-- The tokens up to the end of the text. -/
def run : Nat → Lexer → Except Failure (List Token)
  | 0, _ => malformed
  | fuel + 1, l => do
    let l ← (l.skipGap (l.cursor.rest.length + 1)).dropStale
    let l := l.closeBlocks (some l.cursor.column)
    match l.cursor.rest with
    | [] => return (← l.endContent).tokens.reverse
    | x :: rest => run fuel (← l.readToken x rest)

end Lexer

/-- The place where reading a text starts, after a byte order mark. -/
def startOf (cs : List Char) : Cursor :=
  let c : Cursor := { rest := cs }
  if cs.head? = some byteOrderMark then c.next else c

/-- The tokens of a text. -/
def tokens (s : String) : Except Failure (List Token) :=
  if s.toList.all isReadable then
    let c := startOf s.toList
    Lexer.run (c.rest.length + 1) { cursor := c }
  else malformed

end Stylesheet.Yaml
