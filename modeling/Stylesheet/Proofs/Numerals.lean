import Stylesheet.Formatter
/-!
# The characters of numbers

The text of a number is made of digits, signs, a point and the letters of `e`, `inf` and `nan`
(`Scalar.numeric_numberText`), so what is looked for in the text around it is not found in it.
-/

namespace Stylesheet

/-- A character that the text of a number may have. -/
def isNumeric (c : Char) : Bool := c.isDigit || ['+', '-', '.', 'a', 'e', 'f', 'i', 'n'].contains c

/-- Characters of numbers only. -/
def Numeric (cs : List Char) : Prop := ∀ c ∈ cs, isNumeric c = true

instance (cs : List Char) : Decidable (Numeric cs) :=
  decidable_of_iff (cs.all isNumeric = true) List.all_eq_true

namespace Numeric

theorem cons {c : Char} {cs : List Char} (hc : isNumeric c = true) (h : Numeric cs) :
    Numeric (c :: cs) := List.forall_mem_cons.2 ⟨hc, h⟩

theorem append {a b : List Char} (ha : Numeric a) (hb : Numeric b) : Numeric (a ++ b) :=
  List.forall_mem_append.2 ⟨ha, hb⟩

theorem replicate (n : Nat) : Numeric (List.replicate n '0') := fun c hc => by
  rw [List.eq_of_mem_replicate hc]
  decide

theorem toDigits (n : Nat) : Numeric (Nat.toDigits 10 n) := fun c hc => by
  rw [isNumeric, Nat.isDigit_of_mem_toDigits (by decide) (by decide) hc, Bool.true_or]

theorem nat (n : Nat) : Numeric (toString n).toList := by
  show Numeric n.repr.toList
  rw [Nat.toList_repr]
  exact toDigits n

theorem int (n : Int) : Numeric (toString n).toList := by
  cases n with
  | ofNat n => exact nat n
  | negSucc n =>
    show Numeric ("-" ++ toString (n + 1)).toList
    rw [String.toList_append]
    exact append (by decide) (nat (n + 1))

end Numeric

namespace Binary64

theorem numeric_exponentText (e : Int) : Numeric (exponentText e) := by
  have digits := Numeric.toDigits e.natAbs
  unfold exponentText
  refine Numeric.cons (by split <;> decide) ?_
  split
  · exact digits.cons (by decide)
  · exact digits

theorem numeric_positional {ds : List Char} (h : Numeric ds) (point : Int) :
    Numeric (positional ds point) := by
  unfold positional
  split
  · exact (((Numeric.replicate _).append h).cons (by decide)).cons (by decide)
  split
  · exact (h.append (Numeric.replicate _)).append (by decide)
  · exact Numeric.append (fun c hc => h c (List.take_subset _ _ hc))
      (Numeric.cons (by decide) fun c hc => h c (List.drop_subset _ _ hc))

theorem numeric_scientific {ds : List Char} (h : Numeric ds) (e : Int) :
    Numeric (scientific ds e) := by
  have exponent := (numeric_exponentText e).cons (c := 'e') (by decide)
  unfold scientific
  split
  · exact h
  · exact exponent.cons (h _ List.mem_cons_self)
  · have more := Numeric.append (fun c hc => h c (List.mem_cons_of_mem _ hc)) exponent
    exact (more.cons (by decide)).cons (h _ List.mem_cons_self)

theorem numeric_decimalText (c : Nat) (step : Int) : Numeric (decimalText c step) := by
  simp only [decimalText]
  split
  · exact numeric_positional (Numeric.toDigits c) _
  · exact numeric_scientific (Numeric.toDigits c) _

theorem numeric_text (x : Binary64) : Numeric x.text.toList := by
  unfold text
  split
  · decide
  · split <;> decide
  · rename_i negative m e
    have body : Numeric (if m = 0 then ['0', '.', '0'] else
        let r := shortest m e
        decimalText r.1 r.2) := by
      split
      · decide
      · exact numeric_decimalText _ _
    rw [String.toList_ofList]
    split
    · exact body.cons (by decide)
    · exact body

end Binary64

namespace Scalar

variable {s : Scalar}

theorem numeric_display (h : s.isNumber = true) : Numeric s.display.toList := by
  cases s with
  | int n => exact Numeric.int n
  | float x => exact x.numeric_text
  | _ => cases h

theorem numeric_numberText (h : s.isNumber = true) : Numeric s.numberText.toList := by
  unfold numberText
  split
  · split
    · exact Numeric.int _
    · exact Binary64.numeric_text _
  · exact numeric_display h

end Scalar
end Stylesheet
