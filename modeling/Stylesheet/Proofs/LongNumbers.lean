import Mathlib.Algebra.Ring.Int.Defs
import Mathlib.Algebra.Ring.Nat
import Stylesheet.Proofs.Formatting
/-!
# Numbers that are too long to be written

A whole number with more than `Numeral.digitLimit` digits has no text, so whatever writes one fails.
Formatting meets the scalars of a value and of its fallbacks and arguments, but not what handles
stand for (`Value.formatsTooLong`).
-/

namespace Stylesheet

/-- The numbers that are too long are those from a power of ten on. -/
theorem Numeral.isTooLong_iff {n : Nat} : isTooLong n = true ↔ 10 ^ digitLimit ≤ n := by
  rw [isTooLong, decide_eq_true_iff, Binary64.digitCount, ← Nat.not_le,
    Nat.length_toDigits_le_iff (by decide) (by decide), Nat.not_lt]

theorem Scalar.isTooLong_int {n : Int} :
    (Scalar.int n).isTooLong = true ↔ 10 ^ Numeral.digitLimit ≤ n.natAbs :=
  Numeral.isTooLong_iff

theorem Scalar.isTooLong_int_eq_false {n : Int} :
    (Scalar.int n).isTooLong = false ↔ n.natAbs < 10 ^ Numeral.digitLimit := by
  rw [Bool.eq_false_iff, ne_eq, Scalar.isTooLong_int, Nat.not_le]

/-- The least number that is too long. -/
theorem Scalar.isTooLong_power : (Scalar.int (10 ^ Numeral.digitLimit)).isTooLong = true := by
  rw [Scalar.isTooLong_int, Int.natAbs_pow]
  exact Nat.pow_le_pow_left (by decide) _

namespace Failure

variable {α β γ : Type}

/-- Two results are there unless one of them is too long. -/
theorem both_unlessTooLong (g : α → β → γ) (long more : Bool) (a : α) (b : β) :
    (do let x ← unlessTooLong long a; let y ← unlessTooLong more b; return g x y) =
      unlessTooLong (long || more) (g a b) := by
  cases long <;> cases more <;> rfl

end Failure

/-! ## What formatting writes -/

namespace Value

mutual

/-- Whether formatting a value writes a number that is too long. -/
def formatsTooLong : Value → Bool
  | .scalar s => s.isTooLong
  | .list items => itemsTooLong items
  | .tuple items => itemsTooLong items
  | .mapping entries => callsTooLong entries
  | .variable _ _ fallback => fallback.formatsTooLong
  | .handle _ _ _ => false
  | .animation fields keyframes => fields.isTooLong || keyframes.isTooLong

/-- The same of the items of a list. -/
def itemsTooLong : List Value → Bool
  | [] => false
  | v :: rest => v.formatsTooLong || itemsTooLong rest

/-- The same of the arguments of function calls. -/
def callsTooLong : List (Value × Value) → Bool
  | [] => false
  | (_, v) :: rest => v.formatsTooLong || callsTooLong rest

end

theorem itemsTooLong_eq_any (items : List Value) :
    itemsTooLong items = items.any formatsTooLong := by
  induction items with
  | nil => rfl
  | cons v rest ih => rw [itemsTooLong, ih, List.any_cons]

theorem callsTooLong_eq_any (entries : List (Value × Value)) :
    callsTooLong entries = entries.any fun e => e.2.formatsTooLong := by
  induction entries with
  | nil => rfl
  | cons e rest ih => rw [callsTooLong, ih, List.any_cons]

theorem formatsTooLong_of_isAbsent {v : Value} (h : v.isAbsent = true) :
    v.formatsTooLong = false := by
  rw [isAbsent_iff.1 h]
  rfl

end Value
end Stylesheet
