import Mathlib.Data.List.TakeWhile
import Stylesheet.Proofs.Numerals
/-!
# Reading numerals

A numeral has no characters but a few marks (`isMark_of_parse?`), so what stands behind a number may
keep it from being read as one. White space of ASCII around a text does not change what it is read
as (`parse?_padded`), and the text of a whole number is read as that number (`parse?_toString`).
-/

namespace Stylesheet

/-! ## White space around text -/

namespace Text

variable {p : Char → Bool} {cs : List Char}

theorem trim_eq_self (h : ∀ c ∈ cs, p c = false) : trim p cs = cs := by
  have kept : ∀ ds : List Char, (∀ c ∈ ds, p c = false) → ds.dropWhile p = ds := fun ds hd =>
    List.dropWhile_eq_self_iff.2 fun hl => by simp [hd _ (List.getElem_mem hl)]
  rw [trim, kept cs h, kept _ (by simpa using h), List.reverse_reverse]

/-- What is trimmed away may stand around text or not. -/
theorem trim_padded {before after : List Char} (hb : ∀ c ∈ before, p c = true)
    (ha : ∀ c ∈ after, p c = true) : trim p (before ++ cs ++ after) = trim p cs := by
  have turned : ∀ c ∈ after.reverse, p c = true := by simpa using ha
  rw [trim, List.append_assoc, List.dropWhile_append_of_pos hb, List.dropWhile_append]
  -- If nothing of the text itself is left, what stands behind it goes with the front.
  split
  · rename_i hcs
    rw [List.dropWhile_eq_nil_iff.2 ha, trim, List.isEmpty_iff.1 hcs]
  · rw [List.reverse_append, List.dropWhile_append_of_pos turned, trim]

theorem mem_trim {c : Char} (hc : c ∈ cs) (hp : p c = false) : c ∈ trim p cs := by
  have kept : ∀ ds : List Char, c ∈ ds → c ∈ ds.dropWhile p := fun ds hd => by
    rw [← List.takeWhile_append_dropWhile (p := p) (l := ds), List.mem_append] at hd
    refine hd.resolve_left fun ht => ?_
    rw [List.mem_takeWhile_imp ht] at hp
    cases hp
  exact List.mem_reverse.2 (kept _ (List.mem_reverse.2 (kept _ hc)))

theorem isBlank_of_isAsciiBlank {c : Char} (h : isAsciiBlank c = true) : isBlank c = true := by
  simp [isBlank, h]

theorem toNat_lt_of_isAsciiBlank {c : Char} (h : isAsciiBlank c = true) : c.toNat < 128 := by
  simp only [isAsciiBlank, Bool.or_eq_true, beq_iff_eq, Bool.and_eq_true, decide_eq_true_eq] at h
  rcases h with rfl | h
  · decide
  · omega

theorem strip_padded {before after : String} (hb : ∀ c ∈ before.toList, isBlank c = true)
    (ha : ∀ c ∈ after.toList, isBlank c = true) (s : String) :
    strip (before ++ s ++ after) = strip s := by
  rw [strip, String.toList_append, String.toList_append, trim_padded hb ha, strip]

theorem strip_eq_self {s : String} (h : ∀ c ∈ s.toList, isBlank c = false) : strip s = s := by
  rw [strip, trim_eq_self h, String.ofList_toList]

end Text

namespace Numeral
open Text

variable {cs : List Char} {negative : Bool} {n : Numeral}

/-! ## The characters of a numeral -/

/-- A character that a numeral may have, its digits and blanks being ASCII. -/
def isMark (c : Char) : Bool :=
  c.isDigit || isAsciiBlank c || ['+', '-', '.', '_'].contains c ||
    ['a', 'e', 'f', 'i', 'n', 't', 'y'].contains c.toLower

theorem isMark_of_isDigit {c : Char} (h : c.isDigit = true) : isMark c = true := by
  simp [isMark, h]

theorem isMark_of_isAsciiBlank {c : Char} (h : isAsciiBlank c = true) : isMark c = true := by
  simp [isMark, h]

theorem mem_of_dropUnderscores? {before : Char} {out : List Char}
    (h : dropUnderscores? before cs = some out) {c : Char} (hc : c ∈ cs) : c = '_' ∨ c ∈ out := by
  induction cs generalizing before out with
  | nil => cases hc
  | cons d rest ih =>
    rw [dropUnderscores?] at h
    split at h
    · rename_i hd
      obtain ⟨-, h⟩ := Option.ite_none_right_eq_some.1 h
      rcases List.mem_cons.1 hc with rfl | hc
      · exact .inl hd
      · exact ih h hc
    · obtain ⟨-, h⟩ := Option.ite_none_left_eq_some.1 h
      obtain ⟨more, hm, rfl⟩ := Option.map_eq_some_iff.1 h
      rcases List.mem_cons.1 hc with rfl | hc
      · exact .inr List.mem_cons_self
      · exact (ih hm hc).imp_right (List.mem_cons_of_mem _)

theorem isMark_or_mem_sign {c : Char} (hc : c ∈ cs) : isMark c = true ∨ c ∈ (sign cs).2 := by
  have behind : ∀ (d : Char) (rest : List Char), isMark d = true → c ∈ d :: rest →
      isMark c = true ∨ c ∈ rest := fun d rest hd hc => by
    rcases List.mem_cons.1 hc with rfl | hc
    · exact .inl hd
    · exact .inr hc
  unfold sign
  split
  · exact behind _ _ (by decide) hc
  · exact behind _ _ (by decide) hc
  · exact .inr hc

theorem isMark_of_exponent? {e : Int} (h : exponent? cs = some e) : ∀ c ∈ cs, isMark c = true := by
  intro c hc
  cases cs with
  | nil => cases hc
  | cons d rest =>
    obtain ⟨⟨letter, -, digits⟩, -⟩ := Option.ite_none_right_eq_some.1 h
    rcases List.mem_cons.1 hc with rfl | hc
    · simp [isMark, letter]
    · exact (isMark_or_mem_sign hc).elim id fun hc =>
        isMark_of_isDigit (List.all_eq_true.1 digits c hc)

/-- A decimal is digits, a point with digits behind it or neither, and an exponent. -/
theorem exists_of_decimal? (h : decimal? negative cs = some n) :
    ∃ whole point fraction tail e, cs = whole ++ (point ++ (fraction ++ tail)) ∧
      (∀ c ∈ whole, c.isDigit = true) ∧ (∀ c ∈ point, c = '.') ∧
      (∀ c ∈ fraction, c.isDigit = true) ∧ exponent? tail = some e ∧
      n = .decimal negative (natOf (whole ++ fraction)) (e - fraction.length) := by
  have parts := (List.takeWhile_append_dropWhile (p := Char.isDigit) (l := cs)).symm
  have digits : ∀ ds : List Char, ∀ c ∈ ds.takeWhile Char.isDigit, c.isDigit = true :=
    fun ds c => List.mem_takeWhile_imp
  rw [decimal?] at h
  by_cases hp : (cs.dropWhile Char.isDigit).head? = some '.'
  · obtain ⟨more, hmore⟩ := List.head?_eq_some_iff.1 hp
    simp only [hmore, List.head?_cons, List.tail_cons, if_true] at h
    obtain ⟨e, he, rfl⟩ := Option.map_eq_some_iff.1 (Option.ite_none_left_eq_some.1 h).2
    refine ⟨_, ['.'], _, _, e, ?_, digits cs, by simp, digits more, he, rfl⟩
    rw [List.takeWhile_append_dropWhile, List.singleton_append, ← hmore, ← parts]
  · simp only [if_neg hp] at h
    obtain ⟨e, he, rfl⟩ := Option.map_eq_some_iff.1 (Option.ite_none_left_eq_some.1 h).2
    exact ⟨_, [], [], _, e, parts, digits cs, by simp, by simp, he, rfl⟩

theorem isMark_of_decimal? (h : decimal? negative cs = some n) : ∀ c ∈ cs, isMark c = true := by
  obtain ⟨whole, point, fraction, tail, e, rfl, hw, hp, hf, he, -⟩ := exists_of_decimal? h
  simp only [List.forall_mem_append]
  refine ⟨fun c hc => isMark_of_isDigit (hw c hc), fun c hc => ?_,
    fun c hc => isMark_of_isDigit (hf c hc), isMark_of_exponent? he⟩
  rw [hp c hc]
  decide

theorem isMark_of_word? (h : word? negative cs = some n) : ∀ c ∈ cs, isMark c = true := by
  intro c hc
  have letters : ∀ w ∈ ["inf".toList, "infinity".toList, "nan".toList],
      w.all ['a', 'e', 'f', 'i', 'n', 't', 'y'].contains = true := by decide
  have word : cs.map Char.toLower ∈ ["inf".toList, "infinity".toList, "nan".toList] := by
    simp only [word?] at h
    split at h
    · next hw => rcases hw with hw | hw <;> simp [hw]
    · obtain ⟨hw, -⟩ := Option.ite_none_right_eq_some.1 h
      simp [hw]
  have letter := List.all_eq_true.1 (letters _ word) _ (List.mem_map_of_mem hc)
  simp only [isMark, letter, Bool.or_true]

/-- A numeral has no characters but marks: what is dropped on the way to its decimal or its word
are blanks, underscores and a sign. -/
theorem isMark_of_parse? {s : String} (h : parse? s = some n) :
    ∀ c ∈ s.toList, isMark (plain c) = true := by
  intro c hc
  obtain ⟨cs, hcs, h⟩ := Option.bind_eq_some_iff.1 h
  cases hb : isAsciiBlank (plain c) with
  | true => exact isMark_of_isAsciiBlank hb
  | false =>
    have trimmed := mem_trim (List.mem_map_of_mem (f := plain) hc) hb
    rcases mem_of_dropUnderscores? hcs trimmed with hu | kept
    · rw [hu]
      decide
    rcases isMark_or_mem_sign kept with hm | unsigned
    · exact hm
    rcases Option.or_eq_some_iff.1 h with h | ⟨-, h⟩
    · exact isMark_of_decimal? h _ unsigned
    · exact isMark_of_word? h _ unsigned

/-! ## White space around a numeral -/

theorem plain_of_lt {c : Char} (h : c.toNat < 128) : plain c = c := if_pos h

/-- White space of ASCII around a text does not change what it is read as. -/
theorem parse?_padded {before after : String} (hb : ∀ c ∈ before.toList, isAsciiBlank c = true)
    (ha : ∀ c ∈ after.toList, isAsciiBlank c = true) (s : String) :
    parse? (before ++ s ++ after) = parse? s := by
  have blank : ∀ cs : List Char, (∀ c ∈ cs, isAsciiBlank c = true) →
      ∀ c ∈ cs.map plain, isAsciiBlank c = true := fun cs h => List.forall_mem_map.2 fun c hc => by
    rw [plain_of_lt (toNat_lt_of_isAsciiBlank (h c hc))]
    exact h c hc
  rw [parse?, String.toList_append, String.toList_append, List.map_append, List.map_append,
    trim_padded (blank _ hb) (blank _ ha), parse?]

/-! ## Whole numbers -/

/-- The characters of numbers are ASCII, no blanks and no underscores. -/
theorem bare_of_isNumeric {c : Char} (h : isNumeric c = true) :
    c.toNat < 128 ∧ isBlank c = false ∧ c ≠ '_' := by
  have digits : ∀ n < 10, (Char.ofNat (48 + n)).toNat < 128 ∧
      isBlank (Char.ofNat (48 + n)) = false ∧ Char.ofNat (48 + n) ≠ '_' := by decide
  have others : ∀ c ∈ ['+', '-', '.', 'a', 'e', 'f', 'i', 'n'],
      c.toNat < 128 ∧ isBlank c = false ∧ c ≠ '_' := by simp [isBlank, isAsciiBlank]
  rcases Bool.or_eq_true_iff.1 h with h | h
  · have range : 48 ≤ c.toNat ∧ c.toNat ≤ 57 := Char.isDigit_iff_toNat.1 h
    have := digits (c.toNat - 48) (by omega)
    rwa [Nat.add_sub_cancel' range.1, Char.ofNat_toNat] at this
  · exact others c (by simpa using h)

theorem dropUnderscores?_eq_self {before : Char} (hb : before ≠ '_') (h : '_' ∉ cs) :
    dropUnderscores? before cs = some cs := by
  induction cs generalizing before with
  | nil => rw [dropUnderscores?, if_neg hb]
  | cons c rest ih =>
    obtain ⟨hc, hrest⟩ := not_or.1 (mt List.mem_cons.2 h)
    rw [dropUnderscores?, if_neg (Ne.symm hc), if_neg fun hn => hb hn.1, ih (Ne.symm hc) hrest]
    rfl

theorem toList_toString (n : Int) :
    (toString n).toList = (if n < 0 then ['-'] else []) ++ Nat.toDigits 10 n.natAbs := by
  cases n with
  | ofNat n =>
    show n.repr.toList = _
    simp
  | negSucc n =>
    show ("-" ++ (n + 1).repr).toList = _
    simp

theorem sign_toString (n : Int) :
    sign (toString n).toList = (decide (n < 0), Nat.toDigits 10 n.natAbs) := by
  rw [toList_toString]
  by_cases hn : n < 0
  · simp [hn, sign]
  · simp only [hn, if_false, decide_false, List.nil_append]
    have digit : ∀ d rest, Nat.toDigits 10 n.natAbs = d :: rest → d.isDigit = true :=
      fun d rest h => Nat.isDigit_of_mem_toDigits (b := 10) (n := n.natAbs) (by decide) (by decide)
        (by simp [h])
    unfold sign
    split
    · next h => exact absurd (digit _ _ h) (by decide)
    · next h => exact absurd (digit _ _ h) (by decide)
    · rfl

theorem decimal?_toDigits (negative : Bool) (n : Nat) :
    decimal? negative (Nat.toDigits 10 n) = some (.decimal negative n 0) := by
  have digits : ∀ c ∈ Nat.toDigits 10 n, c.isDigit = true := fun c =>
    Nat.isDigit_of_mem_toDigits (by decide) (by decide)
  have value : natOf (Nat.toDigits 10 n) = n := Nat.ofDigitChars_toDigits (by decide) (by decide)
  rw [decimal?, List.takeWhile_eq_self_iff.2 digits, List.dropWhile_eq_nil_iff.2 digits]
  simp [exponent?, value]

/-- The text of a whole number is read as that number. -/
theorem parse?_toString (n : Int) :
    parse? (toString n) = some (.decimal (decide (n < 0)) n.natAbs 0) := by
  have bare := fun c hc => bare_of_isNumeric (Numeric.int n c hc)
  have ascii : (toString n).toList.map plain = (toString n).toList :=
    (List.map_congr_left fun c hc => plain_of_lt (bare c hc).1).trans (List.map_id _)
  have trimmed : trim isAsciiBlank (toString n).toList = (toString n).toList :=
    trim_eq_self fun c hc => Bool.eq_false_iff.2 fun hb =>
      Bool.eq_false_iff.1 (bare c hc).2.1 (isBlank_of_isAsciiBlank hb)
  have whole : dropUnderscores? ' ' (toString n).toList = some (toString n).toList :=
    dropUnderscores?_eq_self (by decide) fun hu => (bare _ hu).2.2 rfl
  rw [parse?, ascii, trimmed, whole, Option.bind_some]
  simp only [sign_toString, decimal?_toDigits, Option.some_or]

end Numeral
end Stylesheet
