import Stylesheet.Proofs.LongNumbers
import Stylesheet.Proofs.WellFormed
/-!
# Lists nested too deep

A list may hold lists, but those may hold none. This is checked wherever a list stands in value
position: a value itself, an item of a list, and the fallback of a variable, but not the list of a
function's arguments, whose items are arguments however deep it is. Formatting a plain value fails
exactly if such a list in it is nested too deep or a number in it is too long (`Value.Plain.fails`).
-/

namespace Stylesheet

theorem any_or {α : Type} (as : List α) (p q : α → Bool) :
    as.any (fun a => p a || q a) = (as.any p || as.any q) := by
  induction as with
  | nil => rfl
  | cons a rest ih => simp only [List.any_cons, ih, Bool.or_assoc, Bool.or_left_comm]

/-! ## Value positions -/

namespace Value

/-- The items of a list or a tuple. -/
def items : Value → List Value
  | .list items | .tuple items => items
  | _ => []

/-- A list with a list item that has a list item itself. -/
def isTooDeep (v : Value) : Bool := v.items.any fun item => item.items.any isSequence

mutual

/-- All that stands in value position in a value. -/
def positions : Value → List Value
  | .list items => .list items :: itemPositions items
  | .tuple items => .tuple items :: itemPositions items
  | .mapping entries => .mapping entries :: callPositions entries
  | .variable name property fallback => .variable name property fallback :: fallback.positions
  | v => [v]

/-- All that stands in value position in the items of a list. -/
def itemPositions : List Value → List Value
  | [] => []
  | v :: rest => v.positions ++ itemPositions rest

/-- All that stands in value position in the arguments of function calls. -/
def callPositions : List (Value × Value) → List Value
  | [] => []
  | (_, v) :: rest => v.argumentPositions ++ callPositions rest

/-- All that stands in value position in an argument: a list is not there itself, it is a list of
arguments. -/
def argumentPositions : Value → List Value
  | .list items => argumentListPositions items
  | .tuple items => argumentListPositions items
  | .mapping entries => callPositions entries
  | .variable _ _ fallback => fallback.positions
  | _ => []

/-- All that stands in value position in a list of arguments. -/
def argumentListPositions : List Value → List Value
  | [] => []
  | v :: rest => v.argumentPositions ++ argumentListPositions rest

end

/-- Whether a list in value position is nested too deep. -/
def isOverNested (v : Value) : Bool := v.positions.any isTooDeep

/-- The same of an argument of a function. -/
def isOverNestedArgument (v : Value) : Bool := v.argumentPositions.any isTooDeep

/-- The same of an item of a list: a list there may not hold lists. -/
def isOverNestedItem (v : Value) : Bool := v.items.any isSequence || v.isOverNested

/-- The same of an item of a list inside a list: it may not be a list. -/
def isOverNestedInner (v : Value) : Bool := v.isSequence || v.isOverNested

/-! ### By the kind of value -/

theorem any_itemPositions (items : List Value) :
    (itemPositions items).any isTooDeep = items.any isOverNested := by
  induction items with
  | nil => rfl
  | cons v rest ih => rw [itemPositions, List.any_append, ih, List.any_cons, isOverNested]

theorem any_callPositions (entries : List (Value × Value)) :
    (callPositions entries).any isTooDeep = entries.any fun e => e.2.isOverNestedArgument := by
  induction entries with
  | nil => rfl
  | cons e rest ih =>
    rw [callPositions, List.any_append, ih, List.any_cons, isOverNestedArgument]

theorem any_argumentListPositions (items : List Value) :
    (argumentListPositions items).any isTooDeep = items.any isOverNestedArgument := by
  induction items with
  | nil => rfl
  | cons v rest ih =>
    rw [argumentListPositions, List.any_append, ih, List.any_cons, isOverNestedArgument]

theorem isOverNested_of_items {v : Value} (h : v.positions = v :: itemPositions v.items) :
    v.isOverNested = v.items.any isOverNestedItem := by
  rw [isOverNested, h, List.any_cons, any_itemPositions]
  exact (any_or v.items _ _).symm

theorem isOverNested_list (items : List Value) :
    (Value.list items).isOverNested = items.any isOverNestedItem :=
  isOverNested_of_items (by rw [positions, Value.items])

theorem isOverNested_tuple (items : List Value) :
    (Value.tuple items).isOverNested = items.any isOverNestedItem :=
  isOverNested_of_items (by rw [positions, Value.items])

/-- What has a list among its items is a list. -/
theorem isOverNestedInner_eq (v : Value) :
    v.isOverNestedInner = (v.isSequence || v.isOverNestedItem) := by
  cases v <;> simp [isOverNestedInner, isOverNestedItem, isSequence, Value.items]

/-- A list in a list is nested too deep if it holds a list or what is nested too deep. -/
theorem isOverNestedItem_eq {v : Value} (h : v.isOverNested = v.items.any isOverNestedItem) :
    v.isOverNestedItem = v.items.any isOverNestedInner := by
  rw [isOverNestedItem, h, ← any_or]
  exact congrArg v.items.any (funext fun w => (isOverNestedInner_eq w).symm)

theorem isOverNested_mapping (entries : List (Value × Value)) :
    (Value.mapping entries).isOverNested = entries.any fun e => e.2.isOverNestedArgument := by
  rw [isOverNested, positions, List.any_cons, any_callPositions]
  rfl

end Value

/-! ## Outcomes -/

/-- Fails exactly if something is nested too deep, where two levels are allowed, or a number is too
long, and says which of the two it met first. -/
inductive FailsIf {α : Type} : Bool → Bool → Except Failure α → Prop where
  | ok (a : α) : FailsIf false false (.ok a)
  | nested {long : Bool} (property : String) : FailsIf true long (.error (.nesting property 3))
  | digits {nested : Bool} : FailsIf nested true (.error .tooManyDigits)

namespace FailsIf

variable {α β : Type} {nested long nested' long' : Bool} {x : Except Failure α}

theorem unlessTooLong (long : Bool) (a : α) :
    FailsIf false long (Failure.unlessTooLong long a) := by
  cases long with
  | false => exact .ok a
  | true => exact .digits

/-- Two steps fail if either does. -/
theorem bind {f : α → Except Failure β} (hx : FailsIf nested long x)
    (hf : ∀ a, FailsIf nested' long' (f a)) :
    FailsIf (nested || nested') (long || long') (x >>= f) := by
  cases hx with
  | ok a => exact hf a
  | nested property => exact .nested property
  | digits =>
    rw [Bool.true_or]
    exact .digits

theorem map {g : α → β} (hx : FailsIf nested long x) :
    FailsIf nested long (do return g (← x)) := by
  rw [← Bool.or_false nested, ← Bool.or_false long]
  exact hx.bind fun a => .ok (g a)

/-- Two results are put together unless either fails. -/
theorem both {γ : Type} {y : Except Failure β} {g : α → β → γ} (hx : FailsIf nested long x)
    (hy : FailsIf nested' long' y) :
    FailsIf (nested || nested') (long || long') (do let a ← x; let b ← y; return g a b) :=
  hx.bind fun _ => hy.map

end FailsIf

/-! ## Formatting -/

section Formatting

variable {property : String}

theorem formatItems_failsIf {items : List Value}
    (h : ∀ v ∈ items, FailsIf v.isOverNestedItem v.formatsTooLong (formatItem property v)) :
    FailsIf (items.any Value.isOverNestedItem) (items.any Value.formatsTooLong)
      (formatItems property items) := by
  induction items with
  | nil => exact .ok []
  | cons v rest ih =>
    obtain ⟨hv, hrest⟩ := List.forall_mem_cons.1 h
    rw [formatItems_cons, List.any_cons, List.any_cons]
    exact hv.both (ih hrest)

/-- A list inside a list inside a list is one too many, whatever it holds. -/
theorem formatInnerItem_failsIf {v : Value}
    (h : FailsIf v.isOverNestedItem v.formatsTooLong (formatItem property v)) :
    FailsIf v.isOverNestedInner v.formatsTooLong (formatInnerItem property v) := by
  cases hs : v.isSequence with
  | false =>
    have same : v.isOverNestedInner = v.isOverNestedItem := by
      cases v with
      | list items | tuple items => cases hs
      | _ => rfl
    rw [same, formatInnerItem_eq_formatItem hs]
    exact h
  | true =>
    rw [Value.isOverNestedInner, hs, Bool.true_or]
    cases v with
    | list items | tuple items => exact .nested property
    | _ => cases hs

theorem formatInner_failsIf {items : List Value}
    (h : ∀ v ∈ items, FailsIf v.isOverNestedItem v.formatsTooLong (formatItem property v)) :
    FailsIf (items.any Value.isOverNestedInner) (items.any Value.formatsTooLong)
      (formatInner property items) := by
  induction items with
  | nil => exact .ok []
  | cons v rest ih =>
    obtain ⟨hv, hrest⟩ := List.forall_mem_cons.1 h
    rw [formatInner_cons, List.any_cons, List.any_cons]
    exact (formatInnerItem_failsIf hv).both (ih hrest)

theorem formatArguments_failsIf {function : String} {items : List Value}
    (h : ∀ v ∈ items, ∀ position, FailsIf v.isOverNestedArgument v.formatsTooLong
      (formatArgument property function position v)) (position : Nat) (advance : Bool) :
    FailsIf (items.any Value.isOverNestedArgument) (items.any Value.formatsTooLong)
      (formatArguments property function position advance items) := by
  induction items generalizing position with
  | nil => exact .ok []
  | cons v rest ih =>
    obtain ⟨hv, hrest⟩ := List.forall_mem_cons.1 h
    rw [formatArguments, List.any_cons, List.any_cons]
    exact (hv _).both (ih hrest _)

theorem formatCalls_failsIf {entries : List (Value × Value)}
    (hk : ∀ e ∈ entries, ∃ function, e.1 = .text function)
    (hv : ∀ e ∈ entries, ∀ function, FailsIf e.2.isOverNestedArgument e.2.formatsTooLong
      (formatArgument property function none e.2)) :
    FailsIf (entries.any fun e => e.2.isOverNestedArgument)
      (entries.any fun e => e.2.formatsTooLong) (formatCalls property entries) := by
  induction entries with
  | nil => exact .ok []
  | cons e rest ih =>
    obtain ⟨⟨function, hf⟩, hks⟩ := List.forall_mem_cons.1 hk
    obtain ⟨he, hvs⟩ := List.forall_mem_cons.1 hv
    obtain ⟨k, v⟩ := e
    obtain rfl : k = .text function := hf
    rw [formatCalls_cons, List.any_cons, List.any_cons]
    exact ((he function).map).both (ih hks hvs)

end Formatting

/-- What formatting does with a value, as an item and as an argument, for every property. -/
structure Value.FailsExactly (v : Value) : Prop where
  value : ∀ property, FailsIf v.isOverNested v.formatsTooLong (format property v)
  item : ∀ property, FailsIf v.isOverNestedItem v.formatsTooLong (formatItem property v)
  argument : ∀ property function position, FailsIf v.isOverNestedArgument v.formatsTooLong
    (formatArgument property function position v)

/-- What is no list is an item as it is by itself. -/
theorem formatItem_failsIf {v : Value} (hs : v.isSequence = false)
    (h : ∀ property, FailsIf v.isOverNested v.formatsTooLong (format property v))
    (property : String) : FailsIf v.isOverNestedItem v.formatsTooLong (formatItem property v) := by
  have same : v.isOverNestedItem = v.isOverNested := by
    cases v with
    | list items | tuple items => cases hs
    | _ => rfl
  rw [same]
  cases ha : v.isAbsent with
  | true =>
    obtain rfl := Value.isAbsent_iff.1 ha
    exact .ok []
  | false =>
    rw [formatItem_eq_format hs ha]
    exact (h property).map

/-- Formatting a plain value fails exactly if a list in value position is nested too deep or a
number is too long. -/
theorem Value.Plain.fails {p : String → Prop} {v : Value} (h : v.Plain p) : v.FailsExactly := by
  induction h with
  | @scalar s _ =>
    have value (property : String) :
        FailsIf false s.isTooLong (format property (.scalar s)) := by
      rw [format]
      exact .unlessTooLong _ _
    refine ⟨value, formatItem_failsIf rfl value, fun property function position => ?_⟩
    rw [formatArgument]
    exact FailsIf.unlessTooLong s.isTooLong _
  | @list items _ ih | @tuple items _ ih =>
    -- As an item a list is one level down already; as an argument its depth does not count.
    refine ⟨fun property => ?_, fun property => ?_, fun property function position => ?_⟩ <;>
      rw [Value.formatsTooLong, Value.itemsTooLong_eq_any]
    · simp only [Value.isOverNested_list, Value.isOverNested_tuple, format]
      exact (formatItems_failsIf fun v hv => (ih v hv).item property).map
    · rw [Value.isOverNestedItem_eq (by
        simp only [Value.isOverNested_list, Value.isOverNested_tuple, Value.items]), formatItem]
      exact (formatInner_failsIf fun v hv => (ih v hv).item property).map
    · simp only [Value.isOverNestedArgument, Value.argumentPositions,
        Value.any_argumentListPositions, formatArgument]
      exact (formatArguments_failsIf (fun v hv => (ih v hv).argument property function) _ _).map
  | @mapping entries hk _ ih =>
    have calls (property : String) : FailsIf (Value.mapping entries).isOverNested
        (Value.mapping entries).formatsTooLong (formatCalls property entries) := by
      rw [Value.isOverNested_mapping, Value.formatsTooLong, Value.callsTooLong_eq_any]
      exact formatCalls_failsIf (fun e he => (hk e he).imp fun _ h => h.1)
        fun e he function => (ih e he).argument property function none
    have value (property : String) : FailsIf (Value.mapping entries).isOverNested
        (Value.mapping entries).formatsTooLong (format property (.mapping entries)) := by
      rw [format]
      exact (calls property).map
    refine ⟨value, formatItem_failsIf rfl value, fun property function position => ?_⟩
    rw [formatArgument]
    exact (calls property).map
  | @«variable» name declared fallback _ _ ih =>
    -- A fallback starts at the top level again, wherever the variable stands.
    have value (property : String) : FailsIf fallback.isOverNested fallback.formatsTooLong
        (format property (.variable name declared fallback)) := by
      rw [format]
      split
      · rename_i ha
        rw [Value.isAbsent_iff.1 ha]
        exact .ok _
      · exact (ih.value _).map
    refine ⟨value, formatItem_failsIf rfl value, fun property function position => ?_⟩
    have := value property
    rw [format] at this
    rw [formatArgument]
    exact this
  | @handle name payload flag _ =>
    have value (property : String) :
        FailsIf false false (format property (.handle name payload flag)) := by
      rw [format]
      exact .ok _
    refine ⟨value, formatItem_failsIf rfl value, fun property function position => ?_⟩
    rw [formatArgument]
    exact .ok _

end Stylesheet
