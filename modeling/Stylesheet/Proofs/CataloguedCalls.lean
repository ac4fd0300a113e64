import Stylesheet.Proofs.FallbackText
import Stylesheet.Proofs.LongNumbers
/-!
# Calls of functions of the catalogue

A function of the catalogue writes its arguments by formatters of its own. So a function map that
calls no others, at any depth, has one text for all properties, and how a scalar is written in it is
settled by the function around it and its position among that function's arguments
(`format_of_catalogued`). Nothing but a number that is too long keeps it from being written.
-/

namespace Stylesheet

/-! ## Calls that the catalogue covers -/

/-- Whether the catalogue has formatters for the arguments of a function, whichever its spelling. -/
def Catalogue.lists (function : String) : Bool :=
  (functionFormatters.lookup (Casing.functionName function)).isSome

theorem Catalogue.exists_formatter {function : String} (h : lists function = true)
    (position : Nat) :
    ∃ f, functionFormatter? (Casing.functionName function) position = some f := by
  obtain ⟨fs, found⟩ := Option.isSome_iff_exists.1 h
  exact exists_functionFormatter found position

namespace Value

mutual

/-- Whether an argument calls functions of the catalogue only, at any depth, and its variables have
no fallbacks, which would be written for the property. -/
def isCatalogued : Value → Bool
  | .list items => areCatalogued items
  | .tuple items => areCatalogued items
  | .mapping entries => callsCatalogued entries
  | .variable _ _ fallback => fallback.isAbsent
  | _ => true

/-- Whether all arguments in a list do. -/
def areCatalogued : List Value → Bool
  | [] => true
  | v :: rest => v.isCatalogued && areCatalogued rest

/-- Whether a function map calls functions of the catalogue only. -/
def callsCatalogued : List (Value × Value) → Bool
  | [] => true
  | (k, v) :: rest =>
    k.text?.any Catalogue.lists && v.isCatalogued && callsCatalogued rest

end

theorem areCatalogued_eq_all (items : List Value) :
    areCatalogued items = items.all isCatalogued := by
  induction items with
  | nil => rfl
  | cons v rest ih => rw [areCatalogued, ih, List.all_cons]

theorem callsCatalogued_eq_all (entries : List (Value × Value)) :
    callsCatalogued entries =
      entries.all fun e => e.1.text?.any Catalogue.lists && e.2.isCatalogued := by
  induction entries with
  | nil => rfl
  | cons e rest ih => rw [callsCatalogued, ih, List.all_cons]

theorem isCatalogued_sequence (tuple : Bool) (items : List Value) :
    (sequence tuple items).isCatalogued = items.all isCatalogued := by
  cases tuple <;> simp [sequence, isCatalogued, areCatalogued_eq_all]

theorem formatsTooLong_sequence (tuple : Bool) (items : List Value) :
    (sequence tuple items).formatsTooLong = items.any formatsTooLong := by
  cases tuple <;> simp [sequence, formatsTooLong, itemsTooLong_eq_any]

end Value

/-! ## One result for all properties -/

/-- Comes to the same, whatever the property, unless a number is too long. -/
def Uniform {α : Type} (tooLong : Bool) (x : String → Except Failure α) : Prop :=
  ∃ a, ∀ property, x property = Failure.unlessTooLong tooLong a

namespace Uniform

variable {α β γ : Type} {long more : Bool} {x : String → Except Failure α}
  {y : String → Except Failure β}

theorem ok (a : α) : Uniform false fun _ => .ok a := ⟨a, fun _ => rfl⟩

theorem map {g : α → β} (hx : Uniform long x) :
    Uniform long fun property => do return g (← x property) := by
  obtain ⟨a, ha⟩ := hx
  refine ⟨g a, fun property => ?_⟩
  simp only [ha property]
  exact Failure.map_unlessTooLong g long a

theorem both {g : α → β → γ} (hx : Uniform long x) (hy : Uniform more y) :
    Uniform (long || more) fun property => do
      let a ← x property
      let b ← y property
      return g a b := by
  obtain ⟨a, ha⟩ := hx
  obtain ⟨b, hb⟩ := hy
  refine ⟨g a b, fun property => ?_⟩
  simp only [ha property, hb property]
  exact Failure.both_unlessTooLong g long more a b

end Uniform

section Formatting

variable {function : String} {v : Value}

theorem formatArguments_uniform {items : List Value}
    (h : ∀ v ∈ items, ∀ position,
      Uniform v.formatsTooLong fun property => formatArgument property function position v)
    (position : Nat) (advance : Bool) : Uniform (Value.itemsTooLong items) fun property =>
      formatArguments property function position advance items := by
  induction items generalizing position with
  | nil => exact .ok []
  | cons v rest ih =>
    obtain ⟨hv, hrest⟩ := List.forall_mem_cons.1 h
    exact (hv (some position)).both (ih hrest _)

theorem formatCalls_uniform {entries : List (Value × Value)}
    (hc : Value.callsCatalogued entries = true)
    (h : ∀ e ∈ entries, ∀ function, Catalogue.lists function = true → e.2.isCatalogued = true →
      Uniform e.2.formatsTooLong fun property => formatArgument property function none e.2) :
    Uniform (Value.callsTooLong entries) fun property => formatCalls property entries := by
  induction entries with
  | nil => exact .ok []
  | cons e rest ih =>
    obtain ⟨k, v⟩ := e
    obtain ⟨hv, hrest⟩ := List.forall_mem_cons.1 h
    simp only [Value.callsCatalogued, Bool.and_eq_true, Option.any_eq_true] at hc
    obtain ⟨⟨⟨function, hk, hf⟩, hc⟩, hcs⟩ := hc
    obtain rfl := text?_eq_some.1 hk
    exact (hv function hf hc).both (ih hcs hrest)

/-- A function of the catalogue writes its arguments alike for all properties. -/
theorem formatArgument_uniform (hf : Catalogue.lists function = true) (hv : v.isCatalogued = true)
    (position : Option Nat) : Uniform v.formatsTooLong fun property =>
      formatArgument property function position v := by
  induction v using Value.inductionOn generalizing function position with
  | scalar s =>
    obtain ⟨f, hp⟩ := Catalogue.exists_formatter hf (position.getD 0)
    refine ⟨f.apply s, fun property => ?_⟩
    simp only [formatArgument, formatParameter, hp, Value.formatsTooLong]
  | list items ih | tuple items ih =>
    rw [Value.isCatalogued, Value.areCatalogued_eq_all, List.all_eq_true] at hv
    exact (formatArguments_uniform (fun v hm position => ih v hm hf (hv v hm) position) _ _).map
  | mapping entries ih =>
    exact (formatCalls_uniform hv fun e he function hf hc => ih e he hf hc none).map
  | «variable» name declared fallback ih =>
    rw [Value.isCatalogued] at hv
    refine ⟨some (varText name none), fun property => ?_⟩
    simp only [formatArgument, if_pos hv, Value.formatsTooLong,
      Value.formatsTooLong_of_isAbsent hv, Failure.unlessTooLong_false]
  | handle name payload flag => exact .ok (some name)
  | animation fields keyframes =>
    refine ⟨some (fields.display keyframes), fun property => ?_⟩
    simp only [formatArgument, AnimationFields.write]
    exact Failure.map_unlessTooLong ..

end Formatting

/-! ## Places in a function map -/

namespace Way

variable {u v : Value}

theorem isCatalogued_fill (h : u.isCatalogued = v.isCatalogued) (w : Way) :
    (w.fill u).isCatalogued = (w.fill v).isCatalogued := by
  induction w with
  | here => exact h
  | item tuple before way after ih =>
    simp only [fill, Value.isCatalogued_sequence, List.all_append, List.all_cons, ih]
  | argument before function way after ih =>
    simp only [fill, Value.isCatalogued, Value.callsCatalogued_eq_all, List.all_append,
      List.all_cons, ih]

/-- What is outside a place is too long or not, whatever stands in the place. -/
theorem formatsTooLong_fill (w : Way) (v : Value) :
    (w.fill v).formatsTooLong = ((w.fill .absent).formatsTooLong || v.formatsTooLong) := by
  induction w with
  | here => rfl
  | item tuple before way after ih =>
    simp only [fill, Value.formatsTooLong_sequence, List.any_append, List.any_cons, ih]
    ac_rfl
  | argument before function way after ih =>
    simp only [fill, Value.formatsTooLong, Value.callsTooLong_eq_any, List.any_append,
      List.any_cons, ih]
    ac_rfl

/-- The function around a place is in the catalogue. -/
theorem lists_of_role {w : Way} {r : Role}
    (hr : ∀ function position, r = .argument function position → Catalogue.lists function = true)
    (hv : (w.fill v).isCatalogued = true) {function : String} {position : Option Nat}
    (h : w.role r = .argument function position) : Catalogue.lists function = true := by
  induction w generalizing r with
  | here => exact hr function position h
  | item tuple before way after ih =>
    simp only [fill, Value.isCatalogued_sequence, List.all_append, List.all_cons,
      Bool.and_eq_true] at hv
    refine ih (fun function position hi => ?_) hv.2.1 h
    cases r with
    | argument outer place =>
      cases hi
      exact hr _ place rfl
    | _ => cases hi
  | argument before outer way after ih =>
    simp only [fill, Value.isCatalogued, Value.callsCatalogued_eq_all, List.all_append,
      List.all_cons, Bool.and_eq_true] at hv
    refine ih (fun function position hi => ?_) hv.2.1.2 h
    cases hi
    exact hv.2.1.1

/-- A function map with something else in a place is a function map again. -/
theorem exists_mapping_of_fill {w : Way} {s₀ : Scalar} {entries : List (Value × Value)}
    (h : w.fill (.scalar s₀) = .mapping entries) (v : Value) :
    ∃ entries', w.fill v = .mapping entries' := by
  cases w with
  | here => cases h
  | item tuple before way after => cases tuple <;> cases h
  | argument before function way after => exact ⟨_, rfl⟩

end Way

section FunctionMaps

variable {entries : List (Value × Value)}

theorem format_mapping_uniform (hc : Value.callsCatalogued entries = true) :
    ∃ text, ∀ property, format property (.mapping entries) =
      Failure.unlessTooLong (Value.mapping entries).formatsTooLong (some text) := by
  obtain ⟨calls, hcalls⟩ :=
    formatCalls_uniform hc fun e _ function hf hv => formatArgument_uniform hf hv none
  refine ⟨" ".intercalate calls, fun property => ?_⟩
  simp only [format, hcalls property]
  exact Failure.map_unlessTooLong ..

/-- A scalar that is there is written as an argument by the formatter of the function. -/
theorem text_argument {property function : String} {position : Option Nat} {f : Formatter}
    {s : Scalar} {t : String}
    (hf : Catalogue.functionFormatter? (Casing.functionName function) (position.getD 0) = some f)
    (ht : f.apply s = some t) : (Role.argument function position).text property (.scalar s) =
      Failure.unlessTooLong s.isTooLong t := by
  rw [Role.text, Role.texts, formatArgument, formatParameter, hf]
  simp only [ht]
  cases s.isTooLong <;> rfl

/-- Around a place in a function map stands the same text, whatever scalar is in the place, if only
the function map can be written with it. -/
theorem exists_text_around_catalogued {w : Way} {s₀ : Scalar} {function : String}
    {position : Option Nat} {f : Formatter}
    (hw : w.fill (.scalar s₀) = .mapping entries) (hc : Value.callsCatalogued entries = true)
    (hrole : w.role .value = .argument function position)
    (hf : Catalogue.functionFormatter? (Casing.functionName function) (position.getD 0) = some f) :
    ∃ before after, ∀ (s : Scalar) (t : String), (Value.scalar s).isAbsent = false →
      f.apply s = some t → ∀ property,
      format property (w.fill (.scalar s)) = Failure.unlessTooLong
        (w.fill (.scalar s)).formatsTooLong (some (before ++ t ++ after)) := by
  -- With any scalar in the place the function map has one text for all properties.
  have same (s : Scalar) : ∃ text, ∀ property, format property (w.fill (.scalar s)) =
      Failure.unlessTooLong (w.fill (.scalar s)).formatsTooLong (some text) := by
    obtain ⟨entries', filled⟩ := Way.exists_mapping_of_fill hw (.scalar s)
    have catalogued : Value.callsCatalogued entries' = true := by
      rw [← Value.isCatalogued, ← filled,
        Way.isCatalogued_fill (u := .scalar s) (v := .scalar s₀) rfl, hw, Value.isCatalogued]
      exact hc
    rw [filled]
    exact format_mapping_uniform catalogued
  cases outside : (w.fill .absent).formatsTooLong with
  | true =>
    refine ⟨"", "", fun s t _ _ property => ?_⟩
    obtain ⟨text, formatted⟩ := same s
    rw [formatted property, Way.formatsTooLong_fill, outside]
    rfl
  | false =>
    -- The text around the place is found for one property and one text in the place.
    obtain ⟨text, formatted⟩ := same (.text "")
    have short : (w.fill (.text "")).formatsTooLong = false := by
      rw [Way.formatsTooLong_fill, outside]
      rfl
    rw [short] at formatted
    obtain ⟨before, after, around⟩ := Way.exists_text_around (u := .text "") rfl (formatted "")
    refine ⟨before, after, fun s t hs ht property => ?_⟩
    obtain ⟨text', formatted'⟩ := same s
    calc format property (w.fill (.scalar s))
        = format "" (w.fill (.scalar s)) := by rw [formatted', formatted']
      _ = Failure.unlessTooLong s.isTooLong (some (before ++ t ++ after)) := by
        rw [around _ hs rfl, hrole, text_argument hf ht]
        exact Failure.map_unlessTooLong ..
      _ = _ := by
        rw [Way.formatsTooLong_fill, outside, Bool.false_or, Value.formatsTooLong]

/-- A function map that calls functions of the catalogue only comes to the same for all properties:
it has one text, unless a number in it is too long. How a scalar in it is written depends on the
function that it is an argument of and on its position there, and nothing else: the text around it
stays. -/
theorem format_of_catalogued (hc : Value.callsCatalogued entries = true) :
    (∃ text, ∀ property, format property (.mapping entries) =
      Failure.unlessTooLong (Value.mapping entries).formatsTooLong (some text)) ∧
    ∀ (w : Way) (function : String) (position : Option Nat) (s₀ : Scalar),
      w.fill (.scalar s₀) = .mapping entries → s₀ ≠ .absent →
      w.role .value = .argument function position →
      ∃ f before after,
        Catalogue.functionFormatter? (Casing.functionName function) (position.getD 0) = some f ∧
        ∀ s : Scalar, s ≠ .absent → ∃ t, f.apply s = some t ∧
          ∀ property, format property (w.fill (.scalar s)) =
            Failure.unlessTooLong (w.fill (.scalar s)).formatsTooLong
              (some (before ++ t ++ after)) := by
  refine ⟨format_mapping_uniform hc, fun w function position s₀ hw hs₀ hrole => ?_⟩
  have there {s : Scalar} (hs : s ≠ .absent) : (Value.scalar s).isAbsent = false := by
    cases s with
    | absent => exact absurd rfl hs
    | _ => rfl
  have whole : (w.fill (.scalar s₀)).isCatalogued = true := by
    rw [hw, Value.isCatalogued]
    exact hc
  have listed := Way.lists_of_role (fun _ _ hr => by cases hr) whole hrole
  obtain ⟨f, hf⟩ := Catalogue.exists_formatter listed (position.getD 0)
  obtain ⟨before, after, around⟩ := exists_text_around_catalogued hw hc hrole hf
  refine ⟨f, before, after, hf, fun s hs => ?_⟩
  obtain ⟨t, ht⟩ : ∃ t, f.apply s = some t :=
    Option.ne_none_iff_exists'.1 fun hn => hs (Formatter.eq_absent_of_apply hn)
  exact ⟨t, ht, around s t (there hs) ht⟩

/-- The fourth argument of a rotation is an angle, in a map for a length as well. -/
theorem format_of_catalogued_rotation :
    let before : List Value := [.scalar (.int 1),
      .tuple [.text "2", .mapping [(.text "scaleX", .scalar (.int 3))]],
      .variable "--z" "width" .absent]
    let map (angle : Int) : List (Value × Value) :=
      [(.text "rotate3d", .list (before ++ [.scalar (.int angle)])), (.text "scale", .absent)]
    Value.callsCatalogued (map 45) = true ∧
      (∃ text, ∀ property, format property (.mapping (map 45)) = .ok (some text)) ∧
      format "width" (.mapping (map 45)) =
        .ok (some "rotate3d(1, 2 scaleX(3), var(--z), 45deg) scale()") ∧
      ∃ left right, ∀ property,
        format property (.mapping (map 90)) = .ok (some (left ++ "90deg" ++ right)) := by
  intro before map
  have covered : Value.callsCatalogued (map 45) = true := rfl
  obtain ⟨same, places⟩ := format_of_catalogued covered
  obtain ⟨f, left, right, hf, written⟩ := places
    (.argument [] "rotate3d" (.item false before .here []) [(.text "scale", .absent)])
    "rotate3d" (some 3) (.int 45) rfl (by decide) rfl
  obtain rfl : Formatter.unit "deg" false = f := Option.some.inj hf
  obtain ⟨t, ht, formatted⟩ := written (.int 90) (by decide)
  obtain rfl : "90deg" = t := Option.some.inj ht
  exact ⟨covered, same, rfl, left, right, formatted⟩

end FunctionMaps
end Stylesheet
