import Stylesheet.Number.Numeral
import Stylesheet.Value
import Stylesheet.Yaml.Lexeme
/-!
# What plain scalars mean

Plain text may be nothing, a truth value, or a number in one of several notations; otherwise it is
text. Digits may be separated by `_`. Dates and times are not told apart from text: there is no
value for them, and a date is written as it is read.
-/

namespace Stylesheet.Yaml
open Text

/-! ## Words -/

/-- A word in small letters, with a capital, and in capitals. -/
def casings (word : String) : List String :=
  match word.toList with
  | [] => [word]
  | c :: rest =>
    [word, String.ofList (c.toUpper :: rest), String.ofList ((c :: rest).map Char.toUpper)]

/-- The words for the truth values. -/
def truthWords : List (String × Bool) :=
  [("yes", true), ("no", false), ("true", true), ("false", false), ("on", true), ("off", false)]

/-- The truth value that a word stands for. -/
def truth? (s : String) : Option Bool :=
  truthWords.findSome? fun w => if (casings w.1).contains s then some w.2 else none

/-- Whether a text stands for nothing. -/
def meansNothing (s : String) : Bool := s == "" || s == "~" || (casings "null").contains s

/-! ## Digits -/

/-- A digit or a separator. -/
def isSeparatedDigit (c : Char) : Bool := c.isDigit || c == '_'

/-- The digits without their separators. -/
def bare (cs : List Char) : List Char := cs.filter (· ≠ '_')

/-- A part of sixty: one digit, or two of which the first is below six. -/
def isSixtieth : List Char → Bool
  | [a] => a.isDigit
  | [a, b] => '0' ≤ a && a ≤ '5' && b.isDigit
  | _ => false

/-! ## Whole numbers -/

/-- The number that separated digits denote in a base; there has to be a digit among them. -/
def numberOf (base : Nat) (cs : List Char) : Except Failure Nat :=
  if (bare cs).isEmpty then .error .noDigits else .ok (numberInBase base (bare cs))

/-- The number that separated digits denote in base ten, the only base in which it can be too
long. -/
def decimalNumber (cs : List Char) : Except Failure Nat :=
  let n := numberInBase 10 (bare cs)
  Failure.unlessTooLong (Numeral.isTooLong n) n

/-- The number whose parts are given in base sixty, each of them in base ten. -/
def sixtieths (parts : List (List Char)) : Except Failure Nat :=
  parts.foldlM (fun n part => return 60 * n + (← decimalNumber part)) 0

/-- Digits that are not empty and of one kind. -/
def areDigits (p : Char → Bool) (cs : List Char) : Bool := !cs.isEmpty && cs.all p

/-- A number without its sign: in base two, sixteen or eight after a zero, else in base ten, or
in base sixty with colons between its parts. `none` means that the text is no whole number. -/
def unsigned? (cs : List Char) : Option (Except Failure Nat) :=
  match cs with
  | ['0'] => some (.ok 0)
  | '0' :: 'b' :: rest =>
    if areDigits (fun c => c == '0' || c == '1' || c == '_') rest then some (numberOf 2 rest)
    else none
  | '0' :: 'x' :: rest =>
    if areDigits (fun c => (hexDigit? c).isSome || c == '_') rest then some (numberOf 16 rest)
    else none
  | '0' :: rest =>
    if areDigits (fun c => ('0' ≤ c && c ≤ '7') || c == '_') rest then
      some (.ok (numberInBase 8 (bare rest)))
    else none
  | c :: _ =>
    match cs.splitOn ':' with
    | first :: more =>
      if c.isDigit && first.all isSeparatedDigit && more.all isSixtieth then
        some (sixtieths (first :: more))
      else none
    | [] => none
  | [] => none

/-- A whole number. -/
def whole? (cs : List Char) : Option (Except Failure Int) :=
  let s := Numeral.sign cs
  (unsigned? s.2).map fun n => n.map fun n => if s.1 then -(n : Int) else n

/-! ## Decimal numbers -/

/-- Nothing, or an exponent with its sign. -/
def isExponent : List Char → Bool
  | [] => true
  | e :: sign :: digits =>
    (e == 'e' || e == 'E') && (sign == '-' || sign == '+') && areDigits Char.isDigit digits
  | _ => false

/-- A point, digits and perhaps an exponent. -/
def isFraction : List Char → Bool
  | '.' :: rest => isExponent (rest.dropWhile isSeparatedDigit)
  | _ => false

/-- A decimal number with a point; one that starts with the point has no sign. -/
def isDecimal (cs : List Char) : Bool :=
  match cs with
  | '.' :: d :: _ => d.isDigit && isFraction cs
  | _ =>
    let s := (Numeral.sign cs).2
    s.head?.any Char.isDigit && isFraction (s.dropWhile isSeparatedDigit)

/-- The nearest double to a decimal number. -/
def decimalOf (cs : List Char) : Binary64 :=
  (Binary64.ofText? (String.ofList (bare cs))).getD .nan

/-- The last part of a decimal number in base sixty. -/
def isLastPart (cs : List Char) : Bool :=
  isSixtieth (cs.takeWhile Char.isDigit) &&
    match cs.dropWhile Char.isDigit with
    | '.' :: rest => rest.all isSeparatedDigit
    | _ => false

/-- The sum of parts from the last one on, each worth sixty times the one after it. Every part,
product and sum is rounded. -/
def addSixtieths (sum : Binary64) (base : Nat) : List (List Char) → Binary64
  | [] => sum
  | part :: before =>
    addSixtieths (sum.add ((decimalOf part).mul (.ofNat base))) (60 * base) before

/-- A decimal number in base sixty, without its sign. -/
def sexagesimal? (cs : List Char) : Option Binary64 :=
  match (cs.splitOn ':').reverse with
  | last :: part :: more =>
    let before := part :: more
    let first := before.getLastD []
    if isLastPart last && before.dropLast.all isSixtieth && first.head?.any Char.isDigit &&
        first.all isSeparatedDigit then
      some (addSixtieths (.ofNat 0) 1 (last :: before))
    else none
  | _ => none

/-- The words for infinity and for what is no number. -/
def floatWord? (cs : List Char) : Option Binary64 :=
  let s := Numeral.sign cs
  if (casings "inf").any fun w => s.2 == '.' :: w.toList then some (.infinite s.1)
  else if [".nan", ".NaN", ".NAN"].any fun w => cs == w.toList then some .nan
  else none

/-- A decimal number. -/
def decimal? (cs : List Char) : Option Binary64 :=
  if isDecimal cs then some (decimalOf cs)
  else
    let s := Numeral.sign cs
    ((sexagesimal? s.2).map fun x => if s.1 then x.negate else x).or (floatWord? cs)

/-! ## Plain scalars -/

/-- What plain text means. -/
def plainMeaning (s : String) : Except Failure Scalar :=
  if meansNothing s then .ok .absent
  else match truth? s, whole? s.toList, decimal? s.toList with
    | some b, _, _ => .ok (.bool b)
    | none, some n, _ => n.map Scalar.int
    | none, none, some x => .ok (.float x)
    | none, none, none => .ok (.text s)

end Stylesheet.Yaml
