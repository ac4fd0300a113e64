import Stylesheet.Ledger
/-!
# Numbered names

A generated name is a base, a hyphen and a number in decimal digits. Digits hold no hyphen, so the
last hyphen of the name ends the base: the name determines both (`nameAt_inj`), whatever hyphens
and digits the base holds.
-/

namespace Stylesheet.Ledger

/-- What stands before the last separator and after it is determined by the whole. -/
theorem append_separator_inj {α : Type} {c : α} {a b d e : List α} (hd : c ∉ d) (he : c ∉ e)
    (h : a ++ c :: d = b ++ c :: e) : a = b ∧ d = e := by
  -- If one part were longer, the separator of the other would stand in what follows its own.
  rcases List.append_eq_append_iff.1 h with ⟨as, rfl, h'⟩ | ⟨bs, rfl, h'⟩
  · cases as with
    | nil => simpa using h'
    | cons x as =>
      obtain ⟨rfl, rfl⟩ : c = x ∧ d = as ++ c :: e := by simpa using h'
      simp at hd
  · cases bs with
    | nil => simpa [eq_comm] using h'
    | cons x bs =>
      obtain ⟨rfl, rfl⟩ : c = x ∧ e = bs ++ c :: d := by simpa using h'
      simp at he

theorem hyphen_not_mem_digits (n : Nat) : '-' ∉ Nat.toDigits 10 n := by
  intro h
  have := Nat.isDigit_of_mem_toDigits (by decide) (by decide) h
  simp at this

theorem toDigits_inj {i j : Nat} (h : Nat.toDigits 10 i = Nat.toDigits 10 j) : i = j := by
  have := congrArg (fun ds => Nat.ofDigitChars 10 ds 0) h
  simpa using this

theorem toList_nameAt (base : String) (i : Nat) :
    (nameAt base i).toList = base.toList ++ '-' :: Nat.toDigits 10 i := by
  simp [nameAt]

/-- A name determines its base and its number. -/
theorem nameAt_inj {a b : String} {i j : Nat} : nameAt a i = nameAt b j ↔ a = b ∧ i = j := by
  constructor
  · intro h
    have h' := congrArg String.toList h
    rw [toList_nameAt, toList_nameAt] at h'
    obtain ⟨hb, hd⟩ := append_separator_inj (hyphen_not_mem_digits i) (hyphen_not_mem_digits j) h'
    exact ⟨String.toList_inj.1 hb, toDigits_inj hd⟩
  · rintro ⟨rfl, rfl⟩
    rfl

end Stylesheet.Ledger
