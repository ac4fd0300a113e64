import Stylesheet.Declaration
import Stylesheet.Proofs.JoinedTexts
/-!
# Declarations have text

Only a missing value formats to nothing. So the body of a rule is empty exactly if the rule
declares nothing (`declarationBlock_eq_empty_iff`).
-/

namespace Stylesheet

theorem Formatter.eq_absent_of_apply {f : Formatter} {s : Scalar} (h : f.apply s = none) :
    s = .absent := by
  cases f with
  | unit u coerce => cases s <;> simp [Formatter.apply, Formatter.withUnit] at h ⊢
  | fallback default => cases h
  | unitOr u default => cases h

/-- A value that formats to nothing is missing. -/
theorem isAbsent_of_format {property : String} {v : Value} (h : format property v = .ok none) :
    v.isAbsent = true := by
  cases v with
  | scalar s =>
    rw [format, Failure.unlessTooLong_eq_ok] at h
    rw [Formatter.eq_absent_of_apply h.2]
    rfl
  | list items =>
    rw [format] at h
    obtain ⟨parts, -, h⟩ := Failure.bind_eq_ok.1 h
    cases h
  | tuple items =>
    rw [format] at h
    obtain ⟨parts, -, h⟩ := Failure.bind_eq_ok.1 h
    cases h
  | mapping entries =>
    rw [format] at h
    obtain ⟨calls, -, h⟩ := Failure.bind_eq_ok.1 h
    cases h
  | «variable» name declared fallback =>
    rw [format] at h
    split at h
    · cases h
    · obtain ⟨text, -, h⟩ := Failure.bind_eq_ok.1 h
      cases h
  | handle name payload flag => simp [format] at h
  | animation fields keyframes =>
    rw [format] at h
    obtain ⟨text, -, h⟩ := Failure.bind_eq_ok.1 h
    cases h

theorem exists_text_of_declarationText? {property : String} {v : Value} {text : Option String}
    (h : declarationText? property v = .ok text) (hv : v.isAbsent = false) :
    ∃ t, text = some t ∧ t ≠ "" := by
  obtain ⟨formatted, hf, h⟩ := Failure.bind_eq_ok.1 h
  cases h
  cases formatted with
  | none => simp [isAbsent_of_format hf] at hv
  | some t => exact ⟨_, rfl, by simp⟩

/-- The body of a rule is empty only if the rule declares nothing. -/
theorem declarationBlock_eq_empty_iff {declarations : List Declaration}
    (h : ∀ d ∈ declarations, d.2.isAbsent = false) :
    declarationBlock declarations = .ok "" ↔ declarations = [] := by
  constructor
  · intro hb
    cases declarations with
    | nil => rfl
    | cons d rest =>
      obtain ⟨property, v⟩ := d
      obtain ⟨texts, ht, hb⟩ := Failure.bind_eq_ok.1 hb
      obtain ⟨text, hd, ht⟩ := Failure.bind_eq_ok.1 ht
      obtain ⟨more, -, ht⟩ := Failure.bind_eq_ok.1 ht
      obtain ⟨t, rfl, hne⟩ := exists_text_of_declarationText? hd (h _ List.mem_cons_self)
      cases ht
      exact absurd (Except.ok.inj hb) (intercalate_cons_ne_empty hne)
  · rintro rfl
    rfl

end Stylesheet
