import Stylesheet.Number.Binary64
/-!
# The shortest decimal of a double

`shortest` finds the fewest digits that read back as the same double, and of those the nearest to
it. `Binary64.text` lays them out: positional notation from `0.0001` up to sixteen digits before
the point, exponent notation outside.
-/

namespace Stylesheet.Binary64

/-! ## Choosing the digits -/

/-- A double and the interval of reals that round to it, in quarters of its last bit: the real
`x` quarters above zero is `x · num / den` on the decimal grid in use. -/
structure Grid where
  low : Nat
  value : Nat
  high : Nat
  closed : Bool
  num : Nat
  den : Nat

/-- The double `mantissa · 2 ^ exponent` on the grid of multiples of `10 ^ step`. Just above a
power of two the gap below is half as wide. -/
def grid (mantissa : Nat) (exponent step : Int) : Grid :=
  let atStep := mantissa = Nat.pow 2 52 ∧ -1074 < exponent
  let low := if atStep then 4 * mantissa - 1 else 4 * mantissa - 2
  let e := exponent - 2
  { low := low, value := 4 * mantissa, high := 4 * mantissa + 2, closed := mantissa % 2 == 0,
    num := Nat.pow 2 e.toNat * Nat.pow 10 (-step).toNat,
    den := Nat.pow 2 (-e).toNat * Nat.pow 10 step.toNat }

/-- Whether the grid point `c` rounds to the double. -/
def Grid.holds (g : Grid) (c : Nat) : Bool :=
  if g.closed then g.low * g.num ≤ c * g.den && c * g.den ≤ g.high * g.num
  else g.low * g.num < c * g.den && c * g.den < g.high * g.num

/-- The grid point that rounds to the double and is nearest to it, if one of its two neighbours
does. -/
def Grid.pick? (g : Grid) : Option Nat :=
  let below := g.value * g.num / g.den
  let rest := g.value * g.num % g.den
  match g.holds below, g.holds (below + 1) with
  | true, false => some below
  | false, true => some (below + 1)
  | false, false => none
  | true, true =>
    if 2 * rest < g.den then some below
    else if g.den < 2 * rest then some (below + 1)
    else some (below + below % 2)

/-- Whether `10 ^ k` is at most `mantissa · 2 ^ exponent`. -/
def reaches (mantissa : Nat) (exponent k : Int) : Bool :=
  Nat.pow 10 k.toNat * Nat.pow 2 (-exponent).toNat ≤
    mantissa * Nat.pow 2 exponent.toNat * Nat.pow 10 (-k).toNat

/-- The largest `k` with `10 ^ k` at most the value, from a guess at most three below it. -/
def climb (mantissa : Nat) (exponent : Int) : Nat → Int → Int
  | 0, k => k
  | n + 1, k => if reaches mantissa exponent (k + 1) then climb mantissa exponent n (k + 1) else k

/-- The decimal exponent of `mantissa · 2 ^ exponent`. -/
def decimalExponent (mantissa : Nat) (exponent : Int) : Int :=
  climb mantissa exponent 3 ((exponent + mantissa.log2) * 30103 / 100000 - 1)

/-- The first grid, from coarse to fine, that holds the value: its point and its step. -/
def search (mantissa : Nat) (exponent top : Int) : Nat → Nat → Nat × Int
  | 0, n => (0, top - n)
  | fuel + 1, n =>
    let step := top - n
    match (grid mantissa exponent step).pick? with
    | some c => (c, step)
    | none => search mantissa exponent top fuel (n + 1)

/-- Drops the zeros at the end of a decimal. -/
def trimZeros : Nat → Nat → Int → Nat × Int
  | 0, c, step => (c, step)
  | fuel + 1, c, step => if c % 10 = 0 then trimZeros fuel (c / 10) (step + 1) else (c, step)

/-- The shortest decimal `c · 10 ^ step` that reads back as `mantissa · 2 ^ exponent`; seventeen
digits always do. -/
def shortest (mantissa : Nat) (exponent : Int) : Nat × Int :=
  let r := search mantissa exponent (decimalExponent mantissa exponent) 18 0
  trimZeros 20 r.1 r.2

/-! ## Laying them out -/

/-- A decimal exponent: its sign and at least two digits. -/
def exponentText (e : Int) : List Char :=
  let digits := Nat.toDigits 10 e.natAbs
  (if e < 0 then '-' else '+') :: (if digits.length < 2 then '0' :: digits else digits)

/-- The digits `ds` with the point after the first `point` of them, in positional notation. -/
def positional (ds : List Char) (point : Int) : List Char :=
  if point ≤ 0 then '0' :: '.' :: (List.replicate (-point).toNat '0' ++ ds)
  else if ds.length ≤ point.toNat then
    ds ++ List.replicate (point.toNat - ds.length) '0' ++ ['.', '0']
  else ds.take point.toNat ++ '.' :: ds.drop point.toNat

/-- The digits `ds` in exponent notation. -/
def scientific (ds : List Char) (e : Int) : List Char :=
  match ds with
  | [] => []
  | [d] => d :: 'e' :: exponentText e
  | d :: more => d :: '.' :: (more ++ 'e' :: exponentText e)

/-- A positive decimal `c · 10 ^ step`: positional from `10 ^ -4` up to below `10 ^ 16`. -/
def decimalText (c : Nat) (step : Int) : List Char :=
  let ds := Nat.toDigits 10 c
  let e := step + ds.length - 1
  if -4 ≤ e ∧ e < 16 then positional ds (e + 1) else scientific ds e

/-- The text of a double: the shortest digits that read back, `.0` after a whole number. -/
def text : Binary64 → String
  | .nan => "nan"
  | .infinite negative => if negative then "-inf" else "inf"
  | .finite negative m e =>
    let body := if m = 0 then ['0', '.', '0'] else
      let r := shortest m e
      decimalText r.1 r.2
    String.ofList (if negative then '-' :: body else body)

end Stylesheet.Binary64
