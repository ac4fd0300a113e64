import Stylesheet.Proofs.Formatting
/-!
# The properties that variables declare

A fallback is formatted for the property that is set, and the property is passed on along the chain
of fallbacks and into arguments. So the properties that the variables in a value declare have no
influence on its text (`format_eq_of_undeclared_eq`). Only a variable by itself, with no property to
be set, goes by its own.
-/

namespace Stylesheet

namespace Value

/-! ## Values but for what they declare -/

mutual

/-- The value with nothing declared: every variable in it, at any depth and along fallbacks, has the
empty property. -/
def undeclared : Value → Value
  | .list items => .list (undeclaredItems items)
  | .tuple items => .tuple (undeclaredItems items)
  | .mapping entries => .mapping (undeclaredEntries entries)
  | .variable name _ fallback => .variable name "" fallback.undeclared
  | .handle name payload flag => .handle name payload.undeclared flag
  | v => v

/-- The items of a list with nothing declared. -/
def undeclaredItems : List Value → List Value
  | [] => []
  | v :: rest => v.undeclared :: undeclaredItems rest

/-- The entries of a mapping with nothing declared in their values. -/
def undeclaredEntries : List (Value × Value) → List (Value × Value)
  | [] => []
  | (k, v) :: rest => (k, v.undeclared) :: undeclaredEntries rest

end

/-- Only the declared properties are left out. -/
example (fallback : Value) :
    (Value.list [.text "a", .mapping [(.text "rotate", .variable "--a" "rotate" .absent)],
      .variable "--b" "width" (.variable "--c" "zIndex" fallback)]).undeclared =
    .list [.text "a", .mapping [(.text "rotate", .variable "--a" "" .absent)],
      .variable "--b" "" (.variable "--c" "" fallback.undeclared)] := rfl

theorem undeclaredItems_eq_map (items : List Value) :
    undeclaredItems items = items.map undeclared := by
  induction items with
  | nil => rfl
  | cons v rest ih => rw [undeclaredItems, ih, List.map_cons]

theorem undeclaredEntries_eq_map (entries : List (Value × Value)) :
    undeclaredEntries entries = entries.map fun e => (e.1, e.2.undeclared) := by
  induction entries with
  | nil => rfl
  | cons e rest ih => rw [undeclaredEntries, ih, List.map_cons]

theorem isAbsent_undeclared (v : Value) : v.undeclared.isAbsent = v.isAbsent := by
  cases v <;> rfl

theorem isSequence_undeclared (v : Value) : v.undeclared.isSequence = v.isSequence := by
  cases v <;> rfl

end Value

/-! ## Formatting -/

/-- What a value declares has no influence on how it is formatted, as an item and as an argument. -/
structure Value.IgnoresDeclared (property : String) (v : Value) : Prop where
  value : format property v.undeclared = format property v
  item : formatItem property v.undeclared = formatItem property v
  argument : ∀ function position, formatArgument property function position v.undeclared =
    formatArgument property function position v

section Formatting

variable {property : String}

theorem settingProperty_of_ne (hp : property ≠ "") (declared : String) :
    settingProperty property declared = property := if_neg hp

/-- What is no list is an item as it is by itself. -/
theorem formatItem_undeclared {v : Value} (hs : v.isSequence = false)
    (h : format property v.undeclared = format property v) :
    formatItem property v.undeclared = formatItem property v := by
  cases ha : v.isAbsent with
  | true => rw [Value.isAbsent_iff.1 ha]; rfl
  | false =>
    rw [formatItem_eq_format hs ha, ← h]
    exact formatItem_eq_format (v.isSequence_undeclared.trans hs) (v.isAbsent_undeclared.trans ha)

/-- A fallback is formatted for the property that is set, whatever is declared. -/
theorem format_variable_undeclared (hp : property ≠ "") {fallback : Value}
    (h : format property fallback.undeclared = format property fallback) (name declared : String) :
    format property (Value.variable name declared fallback).undeclared =
      format property (.variable name declared fallback) := by
  rw [Value.undeclared, format, format, Value.isAbsent_undeclared, settingProperty_of_ne hp,
    settingProperty_of_ne hp, h]

theorem Value.ignoresDeclared (hp : property ≠ "") (v : Value) : v.IgnoresDeclared property := by
  induction v using Value.inductionOn with
  | scalar s => exact ⟨rfl, rfl, fun _ _ => rfl⟩
  | list items ih | tuple items ih =>
    have whole := formatItems_map fun v hv => (ih v hv).item
    have inner := formatInner_map fun v hv =>
      formatInnerItem_congr v.isSequence_undeclared (ih v hv).item
    refine ⟨?_, ?_, fun function position => ?_⟩
    · rw [undeclared, undeclaredItems_eq_map, format, format, whole]
      simp only [joinItems_map isSequence_undeclared]
    · rw [undeclared, undeclaredItems_eq_map, formatItem, formatItem, inner]
    · rw [undeclared, undeclaredItems_eq_map, formatArgument, formatArgument,
        formatArguments_map fun v hv => (ih v hv).argument function]
  | mapping entries ih =>
    have calls := formatCalls_map fun e he function => (ih e he).argument function none
    have value : format property (Value.mapping entries).undeclared =
        format property (.mapping entries) := by
      rw [undeclared, undeclaredEntries_eq_map, format, format, calls]
    refine ⟨value, formatItem_undeclared rfl value, fun function position => ?_⟩
    rw [undeclared, undeclaredEntries_eq_map, formatArgument, formatArgument, calls]
  | «variable» name declared fallback ih =>
    have value := format_variable_undeclared hp ih.value name declared
    refine ⟨value, formatItem_undeclared rfl value, fun function position => ?_⟩
    -- As an argument a variable is written as it is by itself.
    rw [undeclared, formatArgument, formatArgument, ← format, ← format]
    exact value
  | handle name payload flag =>
    have value : format property (Value.handle name payload flag).undeclared =
        format property (.handle name payload flag) := by
      rw [undeclared, format, format]
    refine ⟨value, formatItem_undeclared rfl value, fun function position => ?_⟩
    rw [undeclared, formatArgument, formatArgument]
  | animation fields keyframes => exact ⟨rfl, rfl, fun _ _ => rfl⟩

/-- The property that is set alone decides how variables are formatted: two values that are the same
but for the properties their variables declare come to the same text, or fail in the same way. -/
theorem format_eq_of_undeclared_eq (hp : property ≠ "") {v w : Value}
    (h : v.undeclared = w.undeclared) : format property v = format property w :=
  calc format property v
      = format property v.undeclared := (v.ignoresDeclared hp).value.symm
    _ = format property w.undeclared := by rw [h]
    _ = format property w := (w.ignoresDeclared hp).value

/-- The end of a chain of fallbacks and an argument of a function go by the width, not by what the
variables declare. -/
theorem format_eq_of_undeclared_eq_width :
    let value (first second third : String) : Value :=
      .list [.list [.variable "--a" first (.variable "--b" second (.scalar (.int 2)))],
        .mapping [(.text "rotate", .list [.variable "--c" third (.scalar (.int 5))])]]
    "width" ≠ "" ∧
      (value "z-index" "color" "rotate").undeclared = (value "" "rotate" "opacity").undeclared ∧
      format "width" (value "z-index" "color" "rotate") =
        format "width" (value "" "rotate" "opacity") :=
  ⟨by decide, rfl, format_eq_of_undeclared_eq (by decide) rfl⟩

end Formatting
end Stylesheet
