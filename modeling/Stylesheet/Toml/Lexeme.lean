import Stylesheet.Number.Numeral
import Stylesheet.Text.Character
import Stylesheet.Toml.Table
/-!
# The pieces of TOML

Blanks and comments, keys, strings, numbers and dates. Every reader takes the characters that are
left and gives back what it read and the rest; `none` means that the text is malformed.
-/

namespace Stylesheet.Toml
open Text

/-- What was read, and the characters after it. -/
abbrev WithRest (α : Type) := α × List Char

/-! ## Blanks and comments -/

/-- A control character, which may not be written as it is. -/
def isControl (c : Char) : Bool := c.toNat < 32 || c.toNat == 127

/-- A blank within a line. -/
def isSpace (c : Char) : Bool := c == ' ' || c == '\t'

/-- Skips the blanks within a line. -/
def skipSpace (cs : List Char) : List Char := cs.dropWhile isSpace

/-- Skips a comment up to the end of the line. -/
def skipComment : List Char → Option (List Char)
  | '#' :: rest =>
    let comment := rest.takeWhile (· ≠ '\n')
    if comment.any fun c => isControl c && c ≠ '\t' then none
    else some (rest.dropWhile (· ≠ '\n'))
  | cs => some cs

/-- Skips blanks, line breaks and comments. The fuel bounds the number of comments. -/
def skipLines : Nat → List Char → Option (List Char)
  | 0, cs => some cs
  | fuel + 1, cs =>
    match cs.dropWhile fun c => isSpace c || c == '\n' with
    | '#' :: rest => do skipLines fuel (← skipComment ('#' :: rest))
    | rest => some rest

/-! ## Strings -/

/-- The character with a code of so many digits. -/
def codeCharacter (width : Nat) (cs : List Char) : Option (WithRest Char) := do
  if cs.length < width then none
  else
    let n ← hexNumber? (cs.take width)
    if n.isValidChar then some (Char.ofNat n, cs.drop width) else none

/-- What stands for a single character after a backslash. -/
def escapes : List (Char × Char) :=
  [('b', '\x08'), ('t', '\t'), ('n', '\n'), ('f', '\x0c'), ('r', '\r'), ('\x22', '\x22'),
   ('\\', '\\')]

/-- What follows a backslash. In a string of several lines a backslash at the end of a line joins
it with the next text. -/
def escapeSequence (multiline : Bool) : List Char → Option (WithRest (List Char))
  | 'u' :: rest => (codeCharacter 4 rest).map fun r => ([r.1], r.2)
  | 'U' :: rest => (codeCharacter 8 rest).map fun r => ([r.1], r.2)
  | c :: rest =>
    if multiline && (isSpace c || c == '\n') then
      match skipSpace (c :: rest) with
      | [] => some ([], [])
      | '\n' :: more => some ([], more.dropWhile fun c => isSpace c || c == '\n')
      | _ => none
    else (escapes.lookup c).map fun e => ([e], rest)
  | [] => none

/-- The rest of a string with escapes, up to its closing quote or three of them. -/
def basicText (multiline : Bool) : Nat → List Char → Option (WithRest (List Char))
  | 0, _ => none
  | fuel + 1, cs =>
    match cs with
    | [] => none
    | '\x22' :: rest =>
      if !multiline then some ([], rest)
      else match rest with
        | '\x22' :: '\x22' :: more => some ([], more)
        | _ => (basicText multiline fuel rest).map fun r => ('\x22' :: r.1, r.2)
    | '\\' :: rest => do
      let (escaped, more) ← escapeSequence multiline rest
      let (text, after) ← basicText multiline fuel more
      return (escaped ++ text, after)
    | c :: rest =>
      if isControl c && c ≠ '\t' && !(multiline && c == '\n') then none
      else (basicText multiline fuel rest).map fun r => (c :: r.1, r.2)

/-- The rest of a string without escapes, up to its closing quote or three of them. -/
def literalText (multiline : Bool) : List Char → Option (WithRest (List Char))
  | [] => none
  | '\x27' :: '\x27' :: '\x27' :: rest =>
    some ([], if multiline then rest else '\x27' :: '\x27' :: rest)
  | c :: rest =>
    if c = '\x27' ∧ multiline = false then some ([], rest)
    else if isControl c && c ≠ '\t' && !(multiline && c == '\n') then none
    else (literalText multiline rest).map fun r => (c :: r.1, r.2)

/-- Up to two quotes right after three closing ones belong to the string. -/
def trailingQuotes (quote : Char) (text : List Char) : List Char → List Char × List Char
  | a :: b :: rest =>
    if a = quote ∧ b = quote then (text ++ [quote, quote], rest)
    else if a = quote then (text ++ [quote], b :: rest)
    else (text, a :: b :: rest)
  | [a] => if a = quote then (text ++ [quote], []) else (text, [a])
  | [] => (text, [])

/-- A line break right after three opening quotes does not count. -/
def dropFirstBreak : List Char → List Char
  | '\n' :: rest => rest
  | cs => cs

/-- A string of any of the four kinds. -/
def string? : List Char → Option (WithRest String)
  | '\x22' :: '\x22' :: '\x22' :: rest => do
    let (text, more) ← basicText true (rest.length + 1) (dropFirstBreak rest)
    let r := trailingQuotes '\x22' text more
    return (String.ofList r.1, r.2)
  | '\x27' :: '\x27' :: '\x27' :: rest => do
    let (text, more) ← literalText true (dropFirstBreak rest)
    let r := trailingQuotes '\x27' text more
    return (String.ofList r.1, r.2)
  | '\x22' :: rest => do
    let (text, more) ← basicText false (rest.length + 1) rest
    return (String.ofList text, more)
  | '\x27' :: rest => do
    let (text, more) ← literalText false rest
    return (String.ofList text, more)
  | _ => none

/-! ## Keys -/

/-- A character of a key without quotes. -/
def isBare (c : Char) : Bool := c.isAlphanum || c == '-' || c == '_'

/-- One part of a key: bare, or a string on one line. -/
def keyPart : List Char → Option (WithRest String)
  | '\x22' :: rest => do
    let (text, more) ← basicText false (rest.length + 1) rest
    return (String.ofList text, more)
  | '\x27' :: rest => do
    let (text, more) ← literalText false rest
    return (String.ofList text, more)
  | cs =>
    let bare := cs.takeWhile isBare
    if bare.isEmpty then none else some (String.ofList bare, cs.dropWhile isBare)

/-- A dotted key. The fuel bounds the number of its parts. -/
def key : Nat → List Char → Option (WithRest (List String))
  | 0, _ => none
  | fuel + 1, cs => do
    let (part, rest) ← keyPart cs
    match skipSpace rest with
    | '.' :: more => do
      let (parts, after) ← key fuel (skipSpace more)
      return (part :: parts, after)
    | after => some ([part], after)

/-! ## Numbers -/

/-- Digits of a base with single `_` between them. -/
def digitRun (isDigit : Char → Bool) : List Char → List Char × List Char
  | '_' :: d :: rest =>
    if isDigit d then
      let r := digitRun isDigit rest
      (d :: r.1, r.2)
    else ([], '_' :: d :: rest)
  | d :: rest =>
    if isDigit d then
      let r := digitRun isDigit rest
      (d :: r.1, r.2)
    else ([], d :: rest)
  | [] => ([], [])

/-- A run of digits that starts with a digit. -/
def digits (isDigit : Char → Bool) (cs : List Char) : List Char × List Char :=
  match cs with
  | '_' :: _ => ([], cs)
  | _ => digitRun isDigit cs

/-- A whole number in a base other than ten. -/
def basedNumber? : List Char → Option (WithRest Value)
  | '0' :: 'x' :: rest => based 16 (fun c => (hexDigit? c).isSome) rest
  | '0' :: 'b' :: rest => based 2 (fun c => c == '0' || c == '1') rest
  | '0' :: 'o' :: rest => based 8 (fun c => '0' ≤ c && c ≤ '7') rest
  | _ => none
where
  based (base : Nat) (isDigit : Char → Bool) (cs : List Char) : Option (WithRest Value) :=
    match digits isDigit cs with
    | ([], _) => none
    | (ds, rest) => some (.int (numberInBase base ds), rest)

/-- The digits after a point. -/
def fraction : List Char → List Char × List Char
  | '.' :: rest => match digits Char.isDigit rest with
    | ([], _) => ([], '.' :: rest)
    | r => r
  | cs => ([], cs)

/-- An exponent, if one follows. -/
def exponent : List Char → Option Int × List Char
  | c :: rest =>
    if c = 'e' ∨ c = 'E' then
      let s := Numeral.sign rest
      match digits Char.isDigit s.2 with
      | ([], _) => (none, c :: rest)
      | (ds, more) =>
        (some (if s.1 then -(Numeral.natOf ds : Int) else Numeral.natOf ds), more)
    else (none, c :: rest)
  | [] => (none, [])

/-- A number in base ten: a whole one, or a decimal one with a point or an exponent. -/
def decimalNumber? (cs : List Char) : Option (WithRest Value) :=
  let s := Numeral.sign cs
  let whole := match s.2 with
    | '0' :: rest => (['0'], rest)
    | more => digits Char.isDigit more
  match whole with
  | ([], _) => none
  | (ds, rest) =>
    let f := fraction rest
    let e := exponent f.2
    if f.1.isEmpty && e.1.isNone then
      let n := Numeral.natOf ds
      some (.int (if s.1 then -(n : Int) else n), e.2)
    else
      some (.float (.ofDecimal s.1 (Numeral.natOf (ds ++ f.1)) (e.1.getD 0 - f.1.length)), e.2)

/-- The words for numbers without digits. -/
def wordNumber? (cs : List Char) : Option (WithRest Value) :=
  let s := Numeral.sign cs
  match s.2 with
  | 'i' :: 'n' :: 'f' :: rest => some (.float (.infinite s.1), rest)
  | 'n' :: 'a' :: 'n' :: rest => some (.float .nan, rest)
  | _ => none

/-! ## Dates and times -/

/-- A number of exactly so many digits, between two bounds. -/
def fixedNumber (width low high : Nat) (cs : List Char) : Option (WithRest Nat) :=
  let ds := cs.take width
  if ds.length = width ∧ ds.all Char.isDigit then
    let n := Numeral.natOf ds
    if low ≤ n ∧ n ≤ high then some (n, cs.drop width) else none
  else none

/-- Steps over a character. -/
def expect (c : Char) : List Char → Option (List Char)
  | d :: rest => if c = d then some rest else none
  | [] => none

/-- The days of a month. -/
def daysIn (year month : Nat) : Nat :=
  if month = 2 then
    if year % 4 = 0 ∧ (year % 100 ≠ 0 ∨ year % 400 = 0) then 29 else 28
  else if month = 4 ∨ month = 6 ∨ month = 9 ∨ month = 11 then 30
  else 31

/-- A date by its form alone: year, month and day. -/
def dateForm? (cs : List Char) : Option (WithRest (Nat × Nat × Nat)) := do
  let (year, cs) ← fixedNumber 4 0 9999 cs
  let cs ← expect '-' cs
  let (month, cs) ← fixedNumber 2 1 12 cs
  let cs ← expect '-' cs
  let (day, cs) ← fixedNumber 2 1 31 cs
  return ((year, month, day), cs)

/-- A time of day, with or without a fraction of a second. -/
def time? (cs : List Char) : Option (List Char) := do
  let (_, cs) ← fixedNumber 2 0 23 cs
  let cs ← expect ':' cs
  let (_, cs) ← fixedNumber 2 0 59 cs
  let cs ← expect ':' cs
  let (_, cs) ← fixedNumber 2 0 59 cs
  match cs with
  | '.' :: d :: rest =>
    if d.isDigit then some (rest.dropWhile Char.isDigit) else some cs
  | _ => some cs

/-- The distance from universal time, if one follows. -/
def skipOffset (cs : List Char) : List Char :=
  match cs with
  | 'Z' :: rest | 'z' :: rest => rest
  | c :: rest =>
    if c = '+' ∨ c = '-' then
      (do
        let (_, cs) ← fixedNumber 2 0 23 rest
        let cs ← expect ':' cs
        let (_, cs) ← fixedNumber 2 0 59 cs
        return cs : Option (List Char)).getD cs
    else cs
  | [] => []

/-- The time that may follow a date. -/
def skipTime (cs : List Char) : List Char :=
  match cs with
  | c :: rest =>
    if c = 'T' ∨ c = 't' ∨ c = ' ' then ((time? rest).map skipOffset).getD cs else cs
  | [] => []

/-- A date, with or without a time. The outer level says whether the text has the form of one, the
inner whether there is such a day. -/
def moment? (cs : List Char) : Option (Option (WithRest Value)) := do
  let ((year, month, day), rest) ← dateForm? cs
  let after := skipTime rest
  if 1 ≤ year ∧ day ≤ daysIn year month then
    return some (.moment (String.ofList (cs.take (cs.length - after.length))), after)
  else return none

/-- A time of day by itself. -/
def localTime? (cs : List Char) : Option (WithRest Value) := do
  let rest ← time? cs
  return (.moment (String.ofList (cs.take (cs.length - rest.length))), rest)

end Stylesheet.Toml
