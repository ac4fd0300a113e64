import Stylesheet.Proofs.BraceFree
import Stylesheet.Proofs.Ways
/-!
# Scalars as fallbacks

A scalar that becomes the fallback of a variable in its place is written for the property that is
set, and everything around it stays (`Way.text_of_fallback`). By itself and in lists it was written
so before. Only a function with units of its own writes a number in another way than a fallback
(`Way.fallback_misses_unit`).
-/

namespace Stylesheet

/-! ## Scalars that have a text -/

/-- A scalar with a text of its own: not missing, and not the empty text. -/
def Scalar.Written (s : Scalar) : Prop := s ≠ .absent ∧ s ≠ .text ""

instance (s : Scalar) : Decidable s.Written := inferInstanceAs (Decidable (_ ∧ _))

theorem append_ne_empty {t : String} (u : String) (h : t ≠ "") : t ++ u ≠ "" := by
  rw [ne_eq, String.append_eq_empty_iff]
  exact fun both => h both.1

theorem int_text_ne_empty (n : Int) : toString n ≠ "" := by
  cases n with
  | ofNat n => exact Nat.repr_ne_empty
  | negSucc n =>
    show "-" ++ toString (n + 1) ≠ ""
    simp

namespace Binary64

theorem positional_ne_nil (ds : List Char) (point : Int) : positional ds point ≠ [] := by
  unfold positional
  split
  · exact List.cons_ne_nil _ _
  split <;> simp

theorem scientific_ne_nil {ds : List Char} (h : ds ≠ []) (e : Int) : scientific ds e ≠ [] := by
  unfold scientific
  split
  · exact absurd rfl h
  · exact List.cons_ne_nil _ _
  · exact List.cons_ne_nil _ _

theorem decimalText_ne_nil (c : Nat) (step : Int) : decimalText c step ≠ [] := by
  simp only [decimalText]
  split
  · exact positional_ne_nil _ _
  · exact scientific_ne_nil Nat.toDigits_ne_nil _

theorem text_ne_empty (x : Binary64) : x.text ≠ "" := by
  unfold text
  split
  · decide
  · split <;> decide
  · rename_i negative m e
    have body : (if m = 0 then ['0', '.', '0'] else
        let r := shortest m e
        decimalText r.1 r.2) ≠ [] := by
      split
      · decide
      · exact decimalText_ne_nil _ _
    rw [ne_eq, String.ofList_eq_empty_iff]
    split
    · exact List.cons_ne_nil _ _
    · exact body

end Binary64

namespace Scalar

variable {s : Scalar}

theorem Written.isAbsent (h : s.Written) : (Value.scalar s).isAbsent = false := by
  cases s with
  | absent => exact absurd rfl h.1
  | _ => rfl

theorem boolText_ne_empty (b : Bool) : boolText b ≠ "" := by
  cases b <;> decide

theorem Written.display_ne_empty (h : s.Written) : s.display ≠ "" := by
  cases s with
  | absent => exact absurd rfl h.1
  | bool b => exact boolText_ne_empty b
  | int n => exact int_text_ne_empty n
  | float x => exact x.text_ne_empty
  | text t => exact fun ht => h.2 (congrArg text ht)

theorem Written.numberText_ne_empty (h : s.Written) : s.numberText ≠ "" := by
  unfold numberText
  split
  · split
    · exact int_text_ne_empty _
    · exact Binary64.text_ne_empty _
  · exact h.display_ne_empty

end Scalar

/-! ## Formatters of the catalogue -/

namespace Formatter

variable {f : Formatter} {s : Scalar}

/-- Whether a formatter writes text as it is. -/
def keepsText : Formatter → Bool
  | .unit _ coerce => !coerce
  | _ => true

theorem withUnit_of_written (u : String) (h : s.Written) :
    ∃ t, withUnit u false s = some t ∧ t ≠ "" ∧ (s.isNumber = false → t = s.display) := by
  cases s with
  | absent => exact absurd rfl h.1
  | bool b => exact ⟨_, rfl, Scalar.boolText_ne_empty b, fun _ => rfl⟩
  | int n => exact ⟨_, rfl, append_ne_empty u (int_text_ne_empty n), nofun⟩
  | float x => exact ⟨_, rfl, append_ne_empty u h.numberText_ne_empty, nofun⟩
  | text t => exact ⟨t, rfl, h.display_ne_empty, fun _ => rfl⟩

/-- A scalar that has a text is written, and as it is if it is no number. -/
theorem apply_of_written (hf : f.keepsText = true) (h : s.Written) :
    ∃ t, f.apply s = some t ∧ t ≠ "" ∧ (s.isNumber = false → t = s.display) := by
  cases f with
  | unit u coerce =>
    obtain rfl : coerce = false := by simpa [keepsText] using hf
    exact withUnit_of_written u h
  | fallback default =>
    have kept : withFallback default s = s.display := by
      unfold withFallback
      split
      · exact absurd rfl h.1
      · rfl
    exact ⟨s.display, congrArg some kept, h.display_ne_empty, fun _ => rfl⟩
  | unitOr u default =>
    obtain ⟨t, ht, hne⟩ := withUnit_of_written u h
    exact ⟨t, by rw [apply, ht]; rfl, hne⟩

end Formatter

namespace Catalogue

theorem keepsText_propertyFormatter (name : String) :
    (propertyFormatter name).keepsText = true := by
  have listed : ∀ e ∈ propertyFormatters, e.2.keepsText = true := by decide
  exact of_propertyFormatters (p := fun f => f.keepsText = true) listed rfl name

theorem keepsText_functionFormatter {function : String} {position : Nat} {f : Formatter}
    (h : functionFormatter? function position = some f) : f.keepsText = true := by
  have listed : ∀ e ∈ functionFormatters, ∀ f ∈ e.2, f.keepsText = true := by decide
  exact of_functionFormatters (p := fun f => f.keepsText = true) listed h

end Catalogue

/-! ## Scalars and variables in a role -/

namespace Role

variable {property : String} {r : Role} {s : Scalar}

/-- The formatter that a function has for an argument, if it is in the catalogue. -/
def ownFormatter? : Role → Option Formatter
  | .argument function position =>
    Catalogue.functionFormatter? (Casing.functionName function) (position.getD 0)
  | _ => none

/-- How a scalar is written: as the function says, else as the property says. -/
def formatter (property : String) (r : Role) : Formatter :=
  r.ownFormatter?.getD (Catalogue.propertyFormatter (Casing.kebab property))

theorem keepsText_formatter (property : String) (r : Role) :
    (r.formatter property).keepsText = true := by
  unfold formatter
  cases h : r.ownFormatter? with
  | none => exact Catalogue.keepsText_propertyFormatter _
  | some f =>
    cases r with
    | argument function position => exact Catalogue.keepsText_functionFormatter h
    | _ => cases h

/-- A scalar that has a text is written by the formatter of its role. -/
theorem text_of_written {t : String} (hs : s.Written)
    (h : (r.formatter property).apply s = some t) :
    r.text property (.scalar s) = Failure.unlessTooLong s.isTooLong t := by
  suffices written : r.texts property (.scalar s) = Failure.unlessTooLong s.isTooLong [t] by
    rw [text, written]
    exact Failure.map_unlessTooLong ..
  cases r with
  | argument function position =>
    have parameter : formatParameter property function (position.getD 0) s = some t := by
      rw [← h, formatParameter, formatter, ownFormatter?]
      cases Catalogue.functionFormatter? (Casing.functionName function) (position.getD 0) <;> rfl
    rw [texts, formatArgument, parameter]
    exact Failure.map_unlessTooLong ..
  | _ =>
    have scalar : formatScalar property s = some t := h
    rw [texts_of_no_sequence rfl hs.isAbsent rfl, format, scalar]
    exact Failure.map_unlessTooLong ..

/-- A variable with a scalar as its fallback is written in the same way in all roles. -/
theorem text_variable {u : String} (hp : property ≠ "") (hs : s.Written)
    (short : s.isTooLong = false) (h : formatScalar property s = some u) (hu : u ≠ "")
    (name declared : String) :
    r.text property (.variable name declared (.scalar s)) =
      .ok ("var(" ++ name ++ ", " ++ u ++ ")") := by
  have reference : format property (.variable name declared (.scalar s)) =
      .ok (some ("var(" ++ name ++ ", " ++ u ++ ")")) := by
    rw [format, hs.isAbsent, settingProperty, if_neg hp, format, short, h]
    show Except.ok (some (varText name (some u))) = _
    rw [varText, if_neg hu]
  suffices written : r.texts property (.variable name declared (.scalar s)) =
      .ok ["var(" ++ name ++ ", " ++ u ++ ")"] by
    rw [text, written]
    rfl
  cases r with
  | argument function position =>
    rw [texts, formatArgument, ← format, reference]
    rfl
  | _ =>
    rw [texts_of_no_sequence rfl rfl rfl, reference]
    rfl

end Role

/-! ## A fallback in the place of a scalar -/

namespace Way

/-- A scalar that becomes a fallback in its place is written for the property that is set, and the
text around the place stays. It was written so before, unless it is a number and the place is a
parameter of a function in the catalogue. The same holds of any other scalar in the place that can
be written. -/
theorem text_of_fallback {property : String} (hp : property ≠ "") {w : Way} {s₀ : Scalar}
    {text : Option String} (hs₀ : s₀.Written)
    (h : format property (w.fill (.scalar s₀)) = .ok text) :
    s₀.isTooLong = false ∧ ∃ before after, ∀ s : Scalar, s.Written → s.isTooLong = false → ∃ t u,
      ((w.role .value).formatter property).apply s = some t ∧
      format property (.scalar s) = .ok (some u) ∧
      format property (w.fill (.scalar s)) = .ok (some (before ++ t ++ after)) ∧
      (∀ name declared, format property (w.fill (.variable name declared (.scalar s))) =
        .ok (some (before ++ ("var(" ++ name ++ ", " ++ u ++ ")") ++ after))) ∧
      ((w.role .value).ownFormatter? = none ∨ s.isNumber = false → u = t) := by
  obtain ⟨before, after, around⟩ := exists_text_around hs₀.isAbsent h
  refine ⟨?_, before, after, fun s hs short => ?_⟩
  · obtain ⟨t₀, ht₀, -⟩ := Formatter.apply_of_written (Role.keepsText_formatter property _) hs₀
    rw [around _ hs₀.isAbsent rfl, Role.text_of_written hs₀ ht₀] at h
    obtain ⟨own, ho, -⟩ := Failure.bind_eq_ok.1 h
    exact (Failure.unlessTooLong_eq_ok.1 ho).1
  obtain ⟨t, ht, -, asIs⟩ := Formatter.apply_of_written (Role.keepsText_formatter property _) hs
  obtain ⟨u, hu, hne, asIs'⟩ :=
    Formatter.apply_of_written (Catalogue.keepsText_propertyFormatter (Casing.kebab property)) hs
  refine ⟨t, u, ht, ?_, ?_, fun name declared => ?_, ?_⟩
  · rw [format, formatScalar, hu, short]
    rfl
  · rw [around _ hs.isAbsent rfl, Role.text_of_written hs ht, short]
    rfl
  · rw [around (.variable name declared (.scalar s)) rfl rfl,
      Role.text_variable hp hs short hu hne]
    rfl
  · rintro (own | number)
    · rw [Role.formatter, own, Option.getD_none, hu] at ht
      exact Option.some.inj ht
    · rw [asIs number, asIs' number]

theorem text_of_fallback_rotate :
    "transform" ≠ "" ∧ (Scalar.int 45).Written ∧
      format "transform" (.mapping [(.text "rotate", .scalar (.int 45))]) =
        .ok (some "rotate(45deg)") ∧
      ∃ before after t u, before ++ t ++ after = "rotate(45deg)" ∧
        (Formatter.unit "deg" false).apply (.int 45) = some t ∧
        format "transform" (.scalar (.int 45)) = .ok (some u) ∧
        format "transform" (.mapping
          [(.text "rotate", .variable "--a" "rotate" (.scalar (.int 45)))]) =
          .ok (some (before ++ ("var(" ++ "--a" ++ ", " ++ u ++ ")") ++ after)) := by
  have formatted : format "transform" ((argument [] "rotate" .here []).fill (.scalar (.int 45))) =
      .ok (some "rotate(45deg)") := rfl
  obtain ⟨short, before, after, texts⟩ := text_of_fallback (by decide) (by decide) formatted
  obtain ⟨t, u, ht, hu, whole, reference, -⟩ := texts (.int 45) (by decide) short
  rw [formatted] at whole
  exact ⟨by decide, by decide, formatted, before, after, t, u,
    (Option.some.inj (Except.ok.inj whole)).symm, ht, hu, reference "--a" "rotate"⟩

/-- A fallback in a function that has its own unit is written with the unit of the property. -/
theorem fallback_misses_unit :
    format "transform" (.mapping [(.text "rotate", .scalar (.int 45))]) =
        .ok (some "rotate(45deg)") ∧
      format "transform" (.mapping
        [(.text "rotate", .variable "--a" "rotate" (.scalar (.int 45)))]) =
        .ok (some "rotate(var(--a, 45px))") := ⟨rfl, rfl⟩

end Way
end Stylesheet
