import Stylesheet.Keyframes
import Stylesheet.Proofs.LongNumbers
import Stylesheet.Proofs.NumeralReading
/-!
# Offsets of keyframes

An offset that is a number, or text that reads as one, is written as a percentage, and what is
written is left alone when it is given as an offset again (`offset_written_once`): no numeral has a
percent sign. A whole number, its text and its text between blanks are the same offset, but only the
texts can be written if the number is too long (`offset_of_long_number`).
-/

namespace Stylesheet

variable {s u : String}

theorem isNumeral_toString (n : Int) : isNumeral (toString n) = true := by
  rw [isNumeral, Numeral.parse?_toString]
  rfl

theorem isNumeral_padded {before after : String}
    (hb : ∀ c ∈ before.toList, Text.isAsciiBlank c = true)
    (ha : ∀ c ∈ after.toList, Text.isAsciiBlank c = true) (s : String) :
    isNumeral (before ++ s ++ after) = isNumeral s := by
  rw [isNumeral, Numeral.parse?_padded hb ha, isNumeral]

/-- Text with a character that is no mark of numerals is not read as a number. -/
theorem isNumeral_eq_false {c : Char} (hc : c ∈ s.toList)
    (hm : Numeral.isMark (Numeral.plain c) = false) : isNumeral s = false := by
  rw [Bool.eq_false_iff]
  intro h
  obtain ⟨n, hn⟩ := Option.isSome_iff_exists.1 h
  rw [Numeral.isMark_of_parse? hn c hc] at hm
  cases hm

namespace Formatter

/-! ## Units added once -/

theorem withUnit_numeral (h : isNumeral s = true) :
    withUnit u true (.text s) = some (Text.strip s ++ u) := by
  simp [withUnit, h]

theorem withUnit_of_not_numeral (h : isNumeral s = false) :
    withUnit u true (.text s) = some s := by
  simp [withUnit, h]

/-- A scalar has a text unless it is missing. -/
theorem exists_withUnit {x : Scalar} (h : x ≠ .absent) : ∃ t, withUnit u true x = some t := by
  cases x with
  | absent => exact absurd rfl h
  | _ => exact ⟨_, rfl⟩

/-- A unit that numerals have no room for is not added to the text that has it already. -/
theorem withUnit_withUnit (hu : ∃ c ∈ u.toList, Numeral.isMark (Numeral.plain c) = false)
    {x : Scalar} {t : String} (h : withUnit u true x = some t) :
    withUnit u true (.text t) = some t := by
  obtain ⟨c, hc, hm⟩ := hu
  have ended : ∀ s : String, isNumeral (s ++ u) = false := fun s =>
    isNumeral_eq_false (by simp [hc]) hm
  refine withUnit_of_not_numeral ?_
  cases x with
  | absent => cases h
  | int n =>
    cases h
    exact ended _
  | float x =>
    cases h
    exact ended _
  | text s =>
    cases hs : isNumeral s with
    | true =>
      rw [withUnit_numeral hs] at h
      cases h
      exact ended _
    | false =>
      rw [withUnit_of_not_numeral hs] at h
      cases h
      exact hs
  | bool b =>
    cases h
    cases b <;> decide

/-- A whole number has the same text as its text between blanks. -/
theorem withUnit_padded {before after : String}
    (hb : ∀ c ∈ before.toList, Text.isAsciiBlank c = true)
    (ha : ∀ c ∈ after.toList, Text.isAsciiBlank c = true) (n : Int) :
    withUnit u true (.text (before ++ toString n ++ after)) = some (toString n ++ u) := by
  have numeral : isNumeral (before ++ toString n ++ after) = true :=
    (isNumeral_padded hb ha _).trans (isNumeral_toString n)
  have bare : Text.strip (toString n) = toString n :=
    Text.strip_eq_self fun c hc => (Numeral.bare_of_isNumeric (Numeric.int n c hc)).2.1
  have stripped : Text.strip (before ++ toString n ++ after) = toString n :=
    (Text.strip_padded (fun c hc => Text.isBlank_of_isAsciiBlank (hb c hc))
      (fun c hc => Text.isBlank_of_isAsciiBlank (ha c hc)) _).trans bare
  rw [withUnit_numeral numeral, stripped]

theorem withUnit_toString (n : Int) :
    withUnit u true (.text (toString n)) = some (toString n ++ u) := by
  have alone : withUnit u true (.text ("" ++ toString n ++ "")) = some (toString n ++ u) :=
    withUnit_padded (by simp) (by simp) n
  rwa [String.empty_append, String.append_empty] at alone

/-! ## Writing -/

/-- A whole number is written unless it is too long. -/
theorem write_int (f : Formatter) (n : Int) : f.write (.int n) =
    if n.natAbs < 10 ^ Numeral.digitLimit then .ok (f.apply (.int n))
    else .error .tooManyDigits := by
  by_cases h : n.natAbs < 10 ^ Numeral.digitLimit
  · rw [if_pos h, write, Scalar.isTooLong_int_eq_false.2 h]
    rfl
  · rw [if_neg h, write, Scalar.isTooLong_int.2 (Nat.not_lt.1 h)]
    rfl

end Formatter

/-! ## Offsets -/

open Formatter

/-- Every scalar that is not missing has a text as an offset, unless it is a whole number that is
too long, and that text as an offset has itself. A whole number has the number and a percent sign,
unless it is too long; its text, and its text with white space of ASCII around it, have the same in
any case. Any text has itself, or itself without the white space around it and a percent sign. -/
theorem offset_written_once :
    (∀ x : Scalar, x ≠ .absent → ∃ t,
      offsetFormatter.write x = Failure.unlessTooLong x.isTooLong (some t) ∧
      offsetFormatter.write (.text t) = .ok (some t)) ∧
    (∀ (n : Int) (before after : String), (∀ c ∈ before.toList, Text.isAsciiBlank c = true) →
      (∀ c ∈ after.toList, Text.isAsciiBlank c = true) →
      offsetFormatter.write (.int n) =
        (if n.natAbs < 10 ^ Numeral.digitLimit then .ok (some (toString n ++ "%"))
          else .error .tooManyDigits) ∧
      offsetFormatter.write (.text (toString n)) = .ok (some (toString n ++ "%")) ∧
      offsetFormatter.write (.text (before ++ toString n ++ after)) =
        .ok (some (toString n ++ "%"))) ∧
    ∀ s : String, offsetFormatter.write (.text s) = .ok (some s) ∨
      offsetFormatter.write (.text s) = .ok (some (Text.strip s ++ "%")) := by
  have percent : ∃ c ∈ "%".toList, Numeral.isMark (Numeral.plain c) = false :=
    ⟨'%', by decide, by decide⟩
  refine ⟨fun x hx => ?_, fun n before after hb ha => ⟨write_int offsetFormatter n,
    congrArg Except.ok (withUnit_toString n), congrArg Except.ok (withUnit_padded hb ha n)⟩,
    fun s => ?_⟩
  · obtain ⟨t, ht⟩ := exists_withUnit (u := "%") hx
    exact ⟨t, congrArg _ ht, congrArg Except.ok (withUnit_withUnit percent ht)⟩
  · cases hs : isNumeral s with
    | true => exact .inr (congrArg Except.ok (withUnit_numeral hs))
    | false => exact .inl (congrArg Except.ok (withUnit_of_not_numeral hs))

/-- Five below zero, between a tab with a space and a line break. -/
theorem offset_written_once_below_zero :
    Scalar.text "\t -5\n" ≠ .absent ∧ (∀ c ∈ "\t ".toList, Text.isAsciiBlank c = true) ∧
      (∀ c ∈ "\n".toList, Text.isAsciiBlank c = true) ∧
      (∃ t, offsetFormatter.write (.text "\t -5\n") = .ok (some t) ∧
        offsetFormatter.write (.text t) = .ok (some t)) ∧
      offsetFormatter.write (.int (-5)) = .ok (some "-5%") ∧
      offsetFormatter.write (.text "-5") = .ok (some "-5%") ∧
      offsetFormatter.write (.text "\t -5\n") = .ok (some "-5%") := by
  have hx : Scalar.text "\t -5\n" ≠ .absent := by decide
  have hb : ∀ c ∈ "\t ".toList, Text.isAsciiBlank c = true := List.all_eq_true.1 (by decide)
  have ha : ∀ c ∈ "\n".toList, Text.isAsciiBlank c = true := List.all_eq_true.1 (by decide)
  obtain ⟨once, numbers, -⟩ := offset_written_once
  obtain ⟨number, alone, padded⟩ := numbers (-5) "\t " "\n" hb ha
  have short : Int.natAbs (-5) < 10 ^ Numeral.digitLimit :=
    Nat.lt_of_lt_of_le (by decide) (Nat.pow_le_pow_right (by decide) (by decide : 1 ≤ _))
  rw [if_pos short] at number
  exact ⟨hx, hb, ha, once _ hx, number, alone, padded⟩

/-- A number that is too long has no text as an offset, though its text has one. -/
theorem offset_of_long_number :
    let n : Int := 10 ^ Numeral.digitLimit
    offsetFormatter.write (.int n) = .error .tooManyDigits ∧
      offsetFormatter.write (.int n) ≠ .ok (some (toString n ++ "%")) ∧
      offsetFormatter.write (.text (toString n)) = .ok (some (toString n ++ "%")) := by
  intro n
  have refused : offsetFormatter.write (.int n) = .error .tooManyDigits := by
    rw [write, Scalar.isTooLong_power]
    rfl
  refine ⟨refused, ?_, congrArg Except.ok (withUnit_toString n)⟩
  rw [refused]
  nofun

end Stylesheet
