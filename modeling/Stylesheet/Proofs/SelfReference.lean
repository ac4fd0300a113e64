import Stylesheet.Proofs.Formatting
import Stylesheet.Variable
/-!
# Values that refer to the variable they are assigned to

A variable refuses to be set to a value whose chain of fallbacks leads back to it
(`Variable.set_refuses_iff_on_chain`). The check follows the chain only: what the chain ends in may
be a list or a function map, and a reference in there is not looked for
(`Variable.set_overlooks_list`).
-/

namespace Stylesheet

/-! ## Why formatting fails -/

/-- What formatting fails with: lists nested too deep, a function whose name is no text, or a number
that is too long. -/
inductive FormatFailure : Failure → Prop where
  | nesting (property : String) : FormatFailure (.nesting property 3)
  | function : FormatFailure .functionNotText
  | digits : FormatFailure .tooManyDigits

/-- Fails, if at all, as formatting does. -/
def FormatsOrFails {α : Type} (x : Except Failure α) : Prop := ∀ e, x = .error e → FormatFailure e

namespace FormatsOrFails

variable {α β : Type} {x : Except Failure α}

theorem ok (a : α) : FormatsOrFails (.ok a) := nofun

theorem error {e : Failure} (h : FormatFailure e) :
    FormatsOrFails (.error e : Except Failure α) := by
  rintro e' ⟨⟩
  exact h

theorem unlessTooLong (tooLong : Bool) (a : α) :
    FormatsOrFails (Failure.unlessTooLong tooLong a) := by
  cases tooLong with
  | false => exact ok a
  | true => exact error .digits

theorem bind {f : α → Except Failure β} (hx : FormatsOrFails x) (hf : ∀ a, FormatsOrFails (f a)) :
    FormatsOrFails (x >>= f) := by
  cases x with
  | error e => exact error (hx e rfl)
  | ok a => exact hf a

theorem map {g : α → β} (hx : FormatsOrFails x) : FormatsOrFails (do return g (← x)) :=
  hx.bind fun a => ok (g a)

theorem both {γ : Type} {y : Except Failure β} {g : α → β → γ} (hx : FormatsOrFails x)
    (hy : FormatsOrFails y) : FormatsOrFails (do let a ← x; let b ← y; return g a b) :=
  hx.bind fun _ => hy.map

end FormatsOrFails

section Formatting

variable {property : String}

theorem formatItems_fails {items : List Value}
    (h : ∀ v ∈ items, FormatsOrFails (formatItem property v)) :
    FormatsOrFails (formatItems property items) := by
  induction items with
  | nil => exact .ok []
  | cons v rest ih =>
    obtain ⟨hv, hrest⟩ := List.forall_mem_cons.1 h
    rw [formatItems_cons]
    exact hv.both (ih hrest)

theorem formatInner_fails {items : List Value}
    (h : ∀ v ∈ items, FormatsOrFails (formatItem property v)) :
    FormatsOrFails (formatInner property items) := by
  induction items with
  | nil => exact .ok []
  | cons v rest ih =>
    obtain ⟨hv, hrest⟩ := List.forall_mem_cons.1 h
    have own : FormatsOrFails (formatInnerItem property v) := by
      cases hs : v.isSequence with
      | false => rwa [formatInnerItem_eq_formatItem hs]
      | true =>
        cases v with
        | list items | tuple items => exact .error (.nesting property)
        | _ => cases hs
    rw [formatInner_cons]
    exact own.both (ih hrest)

theorem formatArguments_fails {function : String} {items : List Value}
    (h : ∀ v ∈ items, ∀ position, FormatsOrFails (formatArgument property function position v))
    (position : Nat) (advance : Bool) :
    FormatsOrFails (formatArguments property function position advance items) := by
  induction items generalizing position with
  | nil => exact .ok []
  | cons v rest ih =>
    obtain ⟨hv, hrest⟩ := List.forall_mem_cons.1 h
    rw [formatArguments]
    exact (hv _).both (ih hrest _)

theorem formatCalls_fails {entries : List (Value × Value)}
    (h : ∀ e ∈ entries, ∀ function, FormatsOrFails (formatArgument property function none e.2)) :
    FormatsOrFails (formatCalls property entries) := by
  induction entries with
  | nil => exact .ok []
  | cons e rest ih =>
    obtain ⟨he, hrest⟩ := List.forall_mem_cons.1 h
    obtain ⟨k, v⟩ := e
    cases hk : k.text? with
    | none =>
      rw [formatCalls_of_not_text hk]
      exact .error .function
    | some function =>
      obtain rfl := text?_eq_some.1 hk
      rw [formatCalls_cons]
      exact ((he function).map).both (ih hrest)

end Formatting

/-- A value as it is formatted by itself, as an item and as an argument. -/
structure Value.Formats (v : Value) : Prop where
  value : ∀ property, FormatsOrFails (format property v)
  item : ∀ property, FormatsOrFails (formatItem property v)
  argument : ∀ property function position,
    FormatsOrFails (formatArgument property function position v)

theorem formatItem_fails {v : Value} (hs : v.isSequence = false)
    (h : ∀ property, FormatsOrFails (format property v)) (property : String) :
    FormatsOrFails (formatItem property v) := by
  cases ha : v.isAbsent with
  | true =>
    obtain rfl := Value.isAbsent_iff.1 ha
    exact .ok []
  | false =>
    rw [formatItem_eq_format hs ha]
    exact (h property).map

/-- Formatting fails for these reasons only, whatever the value. -/
theorem Value.formats (v : Value) : v.Formats := by
  induction v using Value.inductionOn with
  | scalar s =>
    have value (property : String) : FormatsOrFails (format property (.scalar s)) := by
      rw [format]
      exact .unlessTooLong _ _
    refine ⟨value, formatItem_fails rfl value, fun property function position => ?_⟩
    rw [formatArgument]
    exact .unlessTooLong _ _
  | list items ih | tuple items ih =>
    refine ⟨fun property => ?_, fun property => ?_, fun property function position => ?_⟩
    · rw [format]
      exact (formatItems_fails fun v hv => (ih v hv).item property).map
    · rw [formatItem]
      exact (formatInner_fails fun v hv => (ih v hv).item property).map
    · rw [formatArgument]
      exact (formatArguments_fails (fun v hv => (ih v hv).argument property function) _ _).map
  | mapping entries ih =>
    have calls (property : String) : FormatsOrFails (formatCalls property entries) :=
      formatCalls_fails fun e he function => (ih e he).argument property function none
    have value (property : String) : FormatsOrFails (format property (.mapping entries)) := by
      rw [format]
      exact (calls property).map
    refine ⟨value, formatItem_fails rfl value, fun property function position => ?_⟩
    rw [formatArgument]
    exact (calls property).map
  | «variable» name declared fallback ih =>
    have value (property : String) :
        FormatsOrFails (format property (.variable name declared fallback)) := by
      rw [format]
      split
      · exact .ok _
      · exact (ih.value _).map
    refine ⟨value, formatItem_fails rfl value, fun property function position => ?_⟩
    rw [formatArgument, ← format]
    exact value property
  | handle name payload flag _ =>
    have value (property : String) :
        FormatsOrFails (format property (.handle name payload flag)) := by
      rw [format]
      exact .ok _
    refine ⟨value, formatItem_fails rfl value, fun property function position => ?_⟩
    rw [formatArgument]
    exact .ok _
  | animation fields keyframes _ =>
    have value (property : String) :
        FormatsOrFails (format property (.animation fields keyframes)) := by
      rw [format]
      exact (FormatsOrFails.unlessTooLong _ _).map
    refine ⟨value, formatItem_fails rfl value, fun property function position => ?_⟩
    rw [formatArgument]
    exact (FormatsOrFails.unlessTooLong _ _).map

/-! ## Chains -/

namespace Value

/-- The names of the variables on the chain of fallbacks that a value starts, in order. -/
def chainNames : Value → List String
  | .variable name _ fallback => name :: fallback.chainNames
  | _ => []

/-- What the chain of fallbacks ends in; the value itself if it is no variable. -/
def chainEnd : Value → Value
  | .variable _ _ fallback => fallback.chainEnd
  | v => v

/-- The items of a list, or the arguments of a function map. -/
def parts : Value → List Value
  | .list items | .tuple items => items
  | .mapping entries => entries.map Prod.snd
  | _ => []

/-- A variable of this name occurs in the value: as the value itself, in a fallback, in a list or
among the arguments of a function map, at any depth. -/
inductive Mentions (name : String) : Value → Prop where
  | itself {property : String} {fallback : Value} : Mentions name (.variable name property fallback)
  | fallback {other property : String} {fallback : Value} (h : Mentions name fallback) :
    Mentions name (.variable other property fallback)
  | part {v part : Value} (hp : part ∈ v.parts) (h : Mentions name part) : Mentions name v

/-- A variable occurs on the chain, or in a part of what the chain ends in. -/
theorem mentions_iff {name : String} {v : Value} : v.Mentions name ↔
    name ∈ v.chainNames ∨ ∃ part ∈ v.chainEnd.parts, part.Mentions name := by
  constructor
  · intro h
    induction h with
    | itself => exact .inl List.mem_cons_self
    | fallback _ ih => exact ih.imp_left (List.mem_cons_of_mem _)
    | @part v part hp h _ =>
      -- What has parts is no variable, so it ends its own chain.
      have ends : v.chainEnd = v := by
        cases v with
        | «variable» name property fallback => cases hp
        | _ => rfl
      exact .inr ⟨part, by rwa [ends], h⟩
  · induction v using Value.inductionOn with
    | «variable» n property fallback ih =>
      rintro (h | h)
      · rcases List.mem_cons.1 h with rfl | h
        · exact .itself
        · exact .fallback (ih (.inl h))
      · exact .fallback (ih (.inr h))
    | _ =>
      rintro (h | ⟨part, hp, h⟩)
      · cases h
      · exact .part hp h

end Value

/-! ## Setting a variable -/

namespace Variable

theorem chainMentions_iff {name : String} {v : Value} :
    chainMentions name v = true ↔ name ∈ v.chainNames := by
  induction v using Value.inductionOn with
  | «variable» n property fallback ih =>
    simp [chainMentions, Value.chainNames, ih, eq_comm (a := n)]
  | _ => simp [chainMentions, Value.chainNames]

/-- Setting a variable to a value is refused as a self-reference exactly if the variable's name is
on the chain of the value, and otherwise comes to what formatting the value comes to. So of the
places where the variable may occur in a value, those in a list or a function map at the end of the
chain are not looked at. -/
theorem set_refuses_iff_on_chain (v : Variable) (x : Value) :
    (∀ name, v.set x = .error (.selfReference name) ↔
      name = v.name ∧ v.name ∈ x.chainNames) ∧
    (∀ entries, v.set x = .ok entries ↔ v.name ∉ x.chainNames ∧ ∃ text,
      format v.property x = .ok text ∧ entries = [(.text v.name, .scalar (.ofText text))]) ∧
    (x.Mentions v.name ↔
      v.name ∈ x.chainNames ∨ ∃ part ∈ x.chainEnd.parts, part.Mentions v.name) := by
  refine ⟨fun name => ?_, fun entries => ?_, Value.mentions_iff⟩ <;> rw [set]
  · by_cases h : v.name ∈ x.chainNames
    · rw [if_pos (chainMentions_iff.2 h)]
      simp [h, eq_comm]
    · rw [if_neg (mt chainMentions_iff.1 h)]
      -- Formatting never fails as a self-reference.
      have other := ((x.formats.value v.property).map
        (g := fun text => [(Value.text v.name, Value.scalar (.ofText text))])) (.selfReference name)
      constructor
      · intro he
        cases other he
      · exact fun he => absurd he.2 h
  · by_cases h : v.name ∈ x.chainNames
    · rw [if_pos (chainMentions_iff.2 h)]
      simp [h]
    · rw [if_neg (mt chainMentions_iff.1 h), Failure.bind_eq_ok]
      simp only [h, not_false_eq_true, true_and]
      exact exists_congr fun text => and_congr_right fun _ =>
        ⟨fun he => (Except.ok.inj he).symm, fun he => congrArg Except.ok he.symm⟩

/-- A variable may be set to a list that holds the variable itself. -/
theorem set_overlooks_list :
    let v : Variable := { name := "--v", property := "width" }
    (Value.list [v.toValue]).Mentions v.name ∧
      v.set (.list [v.toValue]) = .ok [(.text "--v", .text "var(--v)")] :=
  ⟨.part List.mem_cons_self .itself, rfl⟩

end Variable
end Stylesheet
