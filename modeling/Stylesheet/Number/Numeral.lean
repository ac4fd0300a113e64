import Stylesheet.Number.Binary64
import Stylesheet.Text.Character
/-!
# Numerals

The texts that are read as a number: white space around, a sign, digits of any script with single
`_` between them, a point, an exponent; or the words for infinity and not-a-number.
-/

namespace Stylesheet

/-- What a numeral says, before any rounding. -/
inductive Numeral where
  | nan
  | infinite (negative : Bool)
  /-- The decimal `± digits · 10 ^ exponent`. -/
  | decimal (negative : Bool) (digits : Nat) (exponent : Int)
  deriving DecidableEq, Repr

namespace Numeral
open Text

/-- Digits of any script become ASCII digits and white space beyond ASCII becomes a space. -/
def plain (c : Char) : Char :=
  if c.toNat < 128 then c
  else if isBlank c then ' '
  else match digit? c with
    | some d => Char.ofNat (48 + d)
    | none => c

/-- Drops every `_` that stands between two digits; any other refuses the text. -/
def dropUnderscores? (before : Char) : List Char → Option (List Char)
  | [] => if before = '_' then none else some []
  | c :: rest =>
    if c = '_' then if before.isDigit then dropUnderscores? c rest else none
    else if before = '_' ∧ ¬ c.isDigit then none
    else (dropUnderscores? c rest).map (c :: ·)

/-- A sign at the front, and what follows it. -/
def sign : List Char → Bool × List Char
  | '-' :: rest => (true, rest)
  | '+' :: rest => (false, rest)
  | cs => (false, cs)

/-- The value of a run of ASCII digits. -/
def natOf (ds : List Char) : Nat := ds.foldl (fun n c => 10 * n + (c.toNat - 48)) 0

/-- An exponent: nothing, or `e`, a sign and digits to the end. -/
def exponent? : List Char → Option Int
  | [] => some 0
  | c :: rest =>
    let s := sign rest
    if c.toLower = 'e' ∧ s.2 ≠ [] ∧ s.2.all Char.isDigit then
      some (if s.1 then -(natOf s.2 : Int) else natOf s.2)
    else none

/-- Digits with at most one point among or around them, then an exponent. -/
def decimal? (negative : Bool) (cs : List Char) : Option Numeral :=
  let whole := cs.takeWhile Char.isDigit
  let rest := cs.dropWhile Char.isDigit
  let fraction := if rest.head? = some '.' then rest.tail.takeWhile Char.isDigit else []
  let tail := if rest.head? = some '.' then rest.tail.dropWhile Char.isDigit else rest
  if whole = [] ∧ fraction = [] then none
  else (exponent? tail).map fun e =>
    .decimal negative (natOf (whole ++ fraction)) (e - fraction.length)

/-- A word for a number that has no digits. -/
def word? (negative : Bool) (cs : List Char) : Option Numeral :=
  let w := cs.map Char.toLower
  if w = "inf".toList ∨ w = "infinity".toList then some (.infinite negative)
  else if w = "nan".toList then some .nan
  else none

/-- Reads a numeral. -/
def parse? (s : String) : Option Numeral :=
  (dropUnderscores? ' ' (trim isAsciiBlank (s.toList.map plain))).bind fun cs =>
    let r := sign cs
    (decimal? r.1 r.2).or (word? r.1 r.2)

/-- The nearest double. -/
def toBinary64 : Numeral → Binary64
  | .nan => .nan
  | .infinite negative => .infinite negative
  | .decimal negative digits exponent => .ofDecimal negative digits exponent

/-- How many digits a whole number may have to be read or written in base ten. -/
def digitLimit : Nat := 4300

/-- Whether a whole number has more digits than that. -/
def isTooLong (n : Nat) : Bool := digitLimit < Binary64.digitCount n

end Numeral

/-- Whether a whole number fits into 64 bits with its sign. -/
def fits64 (n : Int) : Bool := -9223372036854775808 ≤ n && n ≤ 9223372036854775807

/-- Whether text reads as a number. -/
def isNumeral (s : String) : Bool := (Numeral.parse? s).isSome

/-- The double that a numeral denotes. -/
def Binary64.ofText? (s : String) : Option Binary64 := (Numeral.parse? s).map Numeral.toBinary64

end Stylesheet
