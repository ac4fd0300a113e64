import Stylesheet.Proofs.DeclaredProperties
import Stylesheet.Proofs.SelfReference
/-!
# Chains of fallbacks

A fallback is put at the end of a variable's chain. Variables that are put there one after the other
make the same chain from whichever end it is built, and it is written as references one inside the
other (`Variable.orElse_chains`). What a chain ends in is not kept: a fallback takes its place, so a
chain that has a default loses it (`Variable.orElse_keeps_iff`).
-/

namespace Stylesheet

namespace Variable

/-! ## The end of a chain -/

theorem toValue_orElse (v : Variable) (f : Value) : (v.orElse f).toValue = replaceEnd f v.toValue :=
  rfl

theorem replaceEnd_replaceEnd (f w v : Value) :
    replaceEnd f (replaceEnd w v) = replaceEnd (replaceEnd f w) v := by
  induction v using Value.inductionOn with
  | «variable» name property fallback ih => rw [replaceEnd, replaceEnd, replaceEnd, ih]
  | _ => rfl

theorem chainNames_replaceEnd (f v : Value) :
    (replaceEnd f v).chainNames = v.chainNames ++ f.chainNames := by
  induction v using Value.inductionOn with
  | «variable» name property fallback ih =>
    rw [replaceEnd, Value.chainNames, Value.chainNames, ih, List.cons_append]
  | _ => rfl

/-- What two fallbacks do one after the other, the second does to the first. -/
theorem orElse_orElse (v : Variable) (w f : Value) :
    (v.orElse w).orElse f = v.orElse (replaceEnd f w) := by
  rw [orElse, orElse, orElse, replaceEnd_replaceEnd]

/-! ## Chains of variables -/

/-- The variable with fallbacks put at the end of its chain one after the other. -/
def orElseAll (v : Variable) (fallbacks : List Value) : Variable := fallbacks.foldl orElse v

/-- The chain of variables that ends in a value, built from the end. -/
def chain : List Variable → Value → Value
  | [], last => last
  | v :: rest, last => (v.orElse (chain rest last)).toValue

/-- References one inside the other, around a text. -/
def nestedReference : List String → String → String
  | [], t => t
  | name :: rest, t => "var(" ++ name ++ ", " ++ nestedReference rest t ++ ")"

theorem orElseAll_eq_orElse_chain (first : Variable) (rest : List Variable) (last : Value) :
    first.orElseAll (rest.map toValue ++ [last]) = first.orElse (chain rest last) := by
  induction rest generalizing first with
  | nil => rfl
  | cons w rest ih =>
    calc first.orElseAll ((w :: rest).map toValue ++ [last])
        = (first.orElse w.toValue).orElseAll (rest.map toValue ++ [last]) := rfl
      _ = (first.orElse w.toValue).orElse (chain rest last) := ih _
      _ = first.orElse (chain (w :: rest) last) := orElse_orElse first w.toValue _

section Rendering

variable {property t : String} {last : Value} {vs : List Variable}

theorem isAbsent_chain (hl : last.isAbsent = false) (vs : List Variable) :
    (chain vs last).isAbsent = false := by
  cases vs with
  | nil => exact hl
  | cons v rest => rfl

theorem nestedReference_ne_empty (ht : t ≠ "") (names : List String) :
    nestedReference names t ≠ "" := by
  cases names with
  | nil => exact ht
  | cons name rest => simp [nestedReference]

/-- A variable is formatted as a reference to it. -/
theorem format_toValue (property : String) (v : Variable) :
    format property v.toValue = do return some (← v.reference (some property)) := by
  rw [toValue, format, reference]
  cases v.fallback.isAbsent with
  | true => rfl
  | false => simp

/-- Variables that have no fallbacks of their own are written one inside the other. -/
theorem format_chain (hp : property ≠ "") (hl : last.isAbsent = false)
    (h : format property last = .ok (some t)) (ht : t ≠ "") (hvs : ∀ v ∈ vs, v.fallback = .absent) :
    format property (chain vs last) = .ok (some (nestedReference (vs.map name) t)) := by
  induction vs with
  | nil => exact h
  | cons v rest ih =>
    obtain ⟨hv, hrest⟩ := List.forall_mem_cons.1 hvs
    have appended : chain (v :: rest) last = .variable v.name v.property (chain rest last) := by
      rw [chain, toValue_orElse, toValue, hv]
      rfl
    have inner := nestedReference_ne_empty ht (rest.map name)
    rw [appended, format, isAbsent_chain hl, settingProperty_of_ne hp, ih hrest]
    show Except.ok (some (varText v.name (some _))) = _
    rw [varText, if_neg inner]
    rfl

end Rendering

/-- Putting fallbacks at the end of chains is associative, and the names along the chains follow one
another. So a chain of variables comes to the same whether it is built from the left or from the
right, and a value at its end that is there is written inside the references to all of them. -/
theorem orElse_chains :
    (∀ (v w : Variable) (f : Value),
      (v.orElse w.toValue).orElse f = v.orElse (w.orElse f).toValue) ∧
    (∀ v w : Variable, (v.orElse w.toValue).toValue.chainNames =
      v.toValue.chainNames ++ w.toValue.chainNames) ∧
    ∀ (first : Variable) (rest : List Variable) (last : Value),
      first.orElseAll (rest.map toValue ++ [last]) = first.orElse (chain rest last) ∧
      ∀ property t : String, (∀ v ∈ first :: rest, v.fallback = .absent) → property ≠ "" →
        last.isAbsent = false → format property last = .ok (some t) → t ≠ "" →
        (first.orElse (chain rest last)).reference (some property) =
          .ok (nestedReference ((first :: rest).map name) t) := by
  refine ⟨fun v w f => orElse_orElse v w.toValue f,
    fun v w => chainNames_replaceEnd w.toValue v.toValue,
    fun first rest last => ⟨orElseAll_eq_orElse_chain first rest last, ?_⟩⟩
  intro property t hfree hp hl h ht
  have whole : format property (first.orElse (chain rest last)).toValue =
      .ok (some (nestedReference ((first :: rest).map name) t)) := format_chain hp hl h ht hfree
  rw [format_toValue] at whole
  obtain ⟨text, hr, he⟩ := Failure.bind_eq_ok.1 whole
  rw [hr, Option.some.inj (Except.ok.inj he)]

/-- Three variables and a duration, in milliseconds where a delay is set. -/
theorem orElse_chains_delay :
    let v (name : String) : Variable := { name, property := "width" }
    let last : Value := .scalar (.int 5)
    (∀ u ∈ [v "--a", v "--b", v "--c"], u.fallback = .absent) ∧ "transition-delay" ≠ "" ∧
      last.isAbsent = false ∧ format "transition-delay" last = .ok (some "5ms") ∧ "5ms" ≠ "" ∧
      (v "--a").orElseAll [(v "--b").toValue, (v "--c").toValue, last] =
        (v "--a").orElse (chain [v "--b", v "--c"] last) ∧
      ((v "--a").orElse (chain [v "--b", v "--c"] last)).reference (some "transition-delay") =
        .ok "var(--a, var(--b, var(--c, 5ms)))" := by
  intro v last
  have free : ∀ u ∈ [v "--a", v "--b", v "--c"], u.fallback = .absent := by simp [v]
  have formatted : format "transition-delay" last = .ok (some "5ms") := rfl
  obtain ⟨-, -, chains⟩ := orElse_chains
  obtain ⟨same, written⟩ := chains (v "--a") [v "--b", v "--c"] last
  exact ⟨free, by decide, rfl, formatted, by decide, same,
    written "transition-delay" "5ms" free (by decide) rfl formatted (by decide)⟩

/-- A missing value is no fallback, also for a property that writes a default in its place. -/
theorem orElse_absent_writes_no_default :
    let v : Variable := { name := "--a", property := "width" }
    v.fallback = .absent ∧
      format "animation-timing-function" (.scalar .absent) = .ok (some "ease") ∧
      (v.orElseAll [.scalar .absent]).reference (some "animation-timing-function") =
        .ok "var(--a)" ∧
      nestedReference [v.name] "ease" ≠ "var(--a)" :=
  ⟨rfl, rfl, rfl, by decide⟩

end Variable

/-! ## What is met along a chain -/

namespace Value

/-- What is met along the chain of fallbacks that a value starts: variables by their names, and what
the chain ends in, unless that is missing. -/
def stops : Value → List (String ⊕ Value)
  | .variable name _ fallback => .inl name :: fallback.stops
  | .absent => []
  | v => [.inr v]

/-- What is met first: nothing, the value as an end, or the variable that it is. -/
theorem stops_cases (v : Value) :
    (v.isAbsent = true ∧ v.stops = []) ∨ (v.isAbsent = false ∧ v.stops = [.inr v]) ∨
      v.isAbsent = false ∧ v.chainNames ≠ [] ∧ ∃ name more, v.stops = .inl name :: more := by
  cases v with
  | scalar s =>
    cases s with
    | absent => exact .inl ⟨rfl, rfl⟩
    | _ => exact .inr (.inl ⟨rfl, rfl⟩)
  | «variable» name property fallback =>
    exact .inr (.inr ⟨rfl, List.cons_ne_nil _ _, name, _, rfl⟩)
  | _ => exact .inr (.inl ⟨rfl, rfl⟩)

theorem stops_eq_nil_iff {v : Value} : v.stops = [] ↔ v.isAbsent = true := by
  obtain ⟨ha, hs⟩ | ⟨ha, hs⟩ | ⟨ha, -, name, more, hs⟩ := stops_cases v <;> simp [ha, hs]

theorem stops_of_no_variable {v : Value} (hv : v.chainNames = []) (ha : v.isAbsent = false) :
    v.stops = [.inr v] := by
  obtain ⟨there, -⟩ | ⟨-, hs⟩ | ⟨-, hn, -⟩ := stops_cases v
  · simp [there] at ha
  · exact hs
  · exact absurd hv hn

/-- An end of a chain is met first just along the chain that it is by itself. -/
theorem end_prefix_stops_iff {last v : Value} (hl : last.chainNames = [])
    (ha : last.isAbsent = false) : [.inr last] <+: v.stops ↔ v = last := by
  constructor
  · intro h
    obtain ⟨-, hs⟩ | ⟨-, hs⟩ | ⟨-, -, name, more, hs⟩ := stops_cases v
    · simp [hs] at h
    · simpa [hs, eq_comm] using h
    · simp [hs] at h
  · rintro rfl
    exact ⟨[], by rw [List.append_nil, stops_of_no_variable hl ha]⟩

theorem chainNames_chainEnd (v : Value) : v.chainEnd.chainNames = [] := by
  induction v using Value.inductionOn with
  | «variable» name property fallback ih => exact ih
  | _ => rfl

theorem stops_replaceEnd (f v : Value) :
    (Variable.replaceEnd f v).stops = v.chainNames.map .inl ++ f.stops := by
  induction v using Value.inductionOn with
  | «variable» name property fallback ih =>
    rw [Variable.replaceEnd, stops, ih, chainNames, List.map_cons, List.cons_append]
  | _ => rfl

/-- The names come first, then the end. -/
theorem stops_eq (v : Value) : v.stops = v.chainNames.map .inl ++ v.chainEnd.stops := by
  induction v using Value.inductionOn with
  | «variable» name property fallback ih =>
    rw [stops, ih, chainNames, chainEnd, List.map_cons, List.cons_append]
  | _ => rfl

end Value

namespace Variable

/-- A fallback leaves the variables of a chain in their places and takes the place of what the chain
ended in, as if there had been nothing. So it is appended to the chain just if there was nothing.
All that was met along the chain is still met first only then, or if the fallback is the old end. -/
theorem orElse_keeps_iff (v : Variable) (f : Value) :
    (v.orElse f).toValue.stops = v.toValue.chainNames.map .inl ++ f.stops ∧
    v.orElse f = (v.orElse .absent).orElse f ∧
    ((v.orElse f).toValue.stops = v.toValue.stops ++ f.stops ↔
      v.toValue.chainEnd.isAbsent = true) ∧
    (v.toValue.stops <+: (v.orElse f).toValue.stops ↔
      v.toValue.chainEnd.isAbsent = true ∨ f = v.toValue.chainEnd) := by
  have stops := Value.stops_replaceEnd f v.toValue
  rw [← toValue_orElse] at stops
  refine ⟨stops, (orElse_orElse v .absent f).symm, ?_, ?_⟩
  · rw [stops, Value.stops_eq v.toValue, List.append_assoc, List.append_cancel_left_eq,
      List.self_eq_append_left, Value.stops_eq_nil_iff]
  · rw [stops, Value.stops_eq v.toValue, List.prefix_append_right_inj]
    cases ha : v.toValue.chainEnd.isAbsent with
    | true => simp [Value.stops_eq_nil_iff.2 ha]
    | false =>
      have last := Value.chainNames_chainEnd v.toValue
      rw [Value.stops_of_no_variable last ha, Value.end_prefix_stops_iff last ha]
      simp

/-- A default that a variable already has is replaced by the next one. -/
theorem orElse_drops_default :
    let v : Variable := { name := "--a", property := "width", fallback := .text "1px" }
    v.orElse (.text "2px") = { v with fallback := .text "2px" } ∧
      (v.orElse (.text "2px")).reference none = .ok "var(--a, 2px)" ∧
      v.toValue.chainEnd.isAbsent = false ∧
      ¬ v.toValue.stops <+: (v.orElse (.text "2px")).toValue.stops := by
  refine ⟨rfl, rfl, rfl, ?_⟩
  rintro ⟨more, h⟩
  simp [Variable.toValue, Variable.orElse, Variable.replaceEnd, Value.stops] at h

end Variable
end Stylesheet
