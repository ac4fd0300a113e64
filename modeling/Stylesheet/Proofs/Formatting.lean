import Stylesheet.Format
/-!
# Formatting item by item

What formatting does with one item of a list, one call of a function map and one argument, so that
a fact about all values is an induction over values (`Value.inductionOn`) with one case for each
kind of value.
-/

namespace Stylesheet

/-! ## Induction over values -/

/-- A fact about a value may assume it of the parts of the value, the keys of mappings apart. -/
@[elab_as_elim]
theorem Value.inductionOn {motive : Value → Prop} (v : Value)
    (scalar : ∀ s, motive (.scalar s))
    (list : ∀ items, (∀ v ∈ items, motive v) → motive (.list items))
    (tuple : ∀ items, (∀ v ∈ items, motive v) → motive (.tuple items))
    (mapping : ∀ entries, (∀ e ∈ entries, motive e.2) → motive (.mapping entries))
    («variable» : ∀ name property fallback, motive fallback →
      motive (.variable name property fallback))
    (handle : ∀ name payload flag, motive payload → motive (.handle name payload flag))
    (animation : ∀ fields keyframes, motive keyframes → motive (.animation fields keyframes)) :
    motive v := by
  refine @Value.rec motive (fun items => ∀ v ∈ items, motive v)
    (fun entries => ∀ e ∈ entries, motive e.2) (fun e => motive e.2)
    scalar list tuple mapping «variable» handle animation ?_ ?_ ?_ ?_ ?_ v
  · intro v hv
    cases hv
  · intro v rest hv hrest
    exact List.forall_mem_cons.2 ⟨hv, hrest⟩
  · intro e he
    cases he
  · intro e rest he hrest
    exact List.forall_mem_cons.2 ⟨he, hrest⟩
  · intro k v _ hv
    exact hv

/-! ## Missing values and text -/

theorem Value.isAbsent_iff {v : Value} : v.isAbsent = true ↔ v = .absent := by
  unfold Value.isAbsent
  split
  · simp
  · rename_i h
    simpa using fun hv => h hv

theorem text?_eq_some {v : Value} {s : String} : v.text? = some s ↔ v = .text s := by
  unfold Value.text?
  split
  · simp
  · rename_i hv
    constructor
    · intro h
      cases h
    · rintro rfl
      exact absurd rfl (hv s)

/-! ## The catalogue -/

/-- What holds of all that a table lists holds of what is found in it. -/
theorem of_lookup {α : Type} {p : String → α → Prop} {k : String} {a : α}
    {entries : List (String × α)} (listed : ∀ e ∈ entries, p e.1 e.2)
    (ha : entries.lookup k = some a) : p k a := by
  obtain ⟨before, after, rfl, -⟩ := List.lookup_eq_some_iff.1 ha
  exact listed (k, a) (by simp)

namespace Catalogue

theorem of_propertyFormatters {p : Formatter → Prop} (listed : ∀ e ∈ propertyFormatters, p e.2)
    (other : p (inUnit "px")) (name : String) : p (propertyFormatter name) := by
  unfold propertyFormatter
  cases h : propertyFormatters.lookup name with
  | none => exact other
  | some f => exact of_lookup (p := fun _ f => p f) listed h

theorem of_functionFormatters {p : Formatter → Prop}
    (listed : ∀ e ∈ functionFormatters, ∀ f ∈ e.2, p f) {function : String} {position : Nat}
    {f : Formatter} (h : functionFormatter? function position = some f) : p f := by
  obtain ⟨fs, hfs, hf⟩ := Option.bind_eq_some_iff.1 h
  exact of_lookup (p := fun _ fs => ∀ f ∈ fs, p f) listed hfs f (List.mem_of_getElem? hf)

theorem of_propertySeparators {p : String → List String → Prop}
    (listed : ∀ e ∈ propertySeparators, p e.1 e.2) {name : String}
    (other : propertySeparators.lookup name = none → p name [", "]) :
    p name (separators name) := by
  unfold separators
  cases h : propertySeparators.lookup name with
  | none => exact other h
  | some ts => exact of_lookup listed h

/-- A function of the catalogue has a formatter for every position. -/
theorem exists_functionFormatter {function : String} {fs : List Formatter}
    (h : functionFormatters.lookup function = some fs) (position : Nat) :
    ∃ f, functionFormatter? function position = some f := by
  have listed : ∀ e ∈ functionFormatters, e.2 ≠ [] := by decide
  have found : fs ≠ [] := of_lookup (p := fun _ fs => fs ≠ []) listed h
  have inside : min position (fs.length - 1) < fs.length := by
    have := List.length_pos_iff.2 found
    omega
  refine ⟨fs[min position (fs.length - 1)], ?_⟩
  rw [functionFormatter?, h]
  exact List.getElem?_eq_getElem inside

end Catalogue

/-! ## Items of lists -/

/-- An item of a list: nothing if it is missing, a list inside the list joined to one text. -/
def formatItem (property : String) : Value → Except Failure (List String)
  | .absent => pure []
  | .list inner => do return [joinInner property (← formatInner property inner)]
  | .tuple inner => do return [joinInner property (← formatInner property inner)]
  | v => do return (← format property v).toList

/-- An item of a list inside a list. -/
def formatInnerItem (property : String) : Value → Except Failure (List String)
  | .absent => pure []
  | .list _ => .error (.nesting property 3)
  | .tuple _ => .error (.nesting property 3)
  | v => do return (← format property v).toList

theorem formatItems_cons (property : String) (v : Value) (rest : List Value) :
    formatItems property (v :: rest) = do
      let own ← formatItem property v
      let more ← formatItems property rest
      return own ++ more := by
  rcases v with (_ | _ | _ | _ | _) | _ | _ | _ | _ | _ | _ <;> simp [formatItems, formatItem]

theorem formatInner_cons (property : String) (v : Value) (rest : List Value) :
    formatInner property (v :: rest) = do
      let own ← formatInnerItem property v
      let more ← formatInner property rest
      return own ++ more := by
  rcases v with (_ | _ | _ | _ | _) | _ | _ | _ | _ | _ | _ <;>
    simp [formatInner, formatInnerItem]
  all_goals rfl

/-- What is no list and not missing is an item as it is by itself. -/
theorem formatItem_eq_format {property : String} {v : Value} (hs : v.isSequence = false)
    (ha : v.isAbsent = false) : formatItem property v = do return (← format property v).toList := by
  cases v with
  | scalar s => cases s <;> first | rfl | simp [Value.isAbsent] at ha
  | list items | tuple items => simp [Value.isSequence] at hs
  | _ => rfl

theorem formatInnerItem_eq_formatItem {property : String} {v : Value} (hs : v.isSequence = false) :
    formatInnerItem property v = formatItem property v := by
  cases v with
  | scalar s => cases s <;> rfl
  | list items | tuple items => simp [Value.isSequence] at hs
  | _ => rfl

/-! ## Calls and arguments -/

/-- One call of a function map. -/
def formatCall (property function : String) (v : Value) : Except Failure String := do
  let arguments ← formatArgument property function none v
  return Casing.functionName function ++ "(" ++ arguments.getD "" ++ ")"

theorem formatCalls_cons (property function : String) (v : Value)
    (rest : List (Value × Value)) :
    formatCalls property ((.text function, v) :: rest) = do
      let call ← formatCall property function v
      let more ← formatCalls property rest
      return call :: more := by
  simp [formatCalls, formatCall]

theorem formatCalls_of_not_text {property : String} {k v : Value} {rest : List (Value × Value)}
    (h : k.text? = none) : formatCalls property ((k, v) :: rest) = .error .functionNotText := by
  rw [formatCalls]
  rintro function rfl
  cases h

/-! ## Parts changed one by one -/

section Parts

variable {property : String} {f : Value → Value}

theorem formatItems_map {items : List Value}
    (h : ∀ v ∈ items, formatItem property (f v) = formatItem property v) :
    formatItems property (items.map f) = formatItems property items := by
  induction items with
  | nil => rfl
  | cons v rest ih =>
    obtain ⟨hv, hrest⟩ := List.forall_mem_cons.1 h
    rw [List.map_cons, formatItems_cons, formatItems_cons, hv, ih hrest]

/-- A further list is refused whatever it holds; anything else is an item like those of the list
around it. -/
theorem formatInnerItem_congr {v w : Value} (hs : w.isSequence = v.isSequence)
    (h : formatItem property w = formatItem property v) :
    formatInnerItem property w = formatInnerItem property v := by
  cases hv : v.isSequence with
  | false => rw [formatInnerItem_eq_formatItem hv, formatInnerItem_eq_formatItem (hs.trans hv), h]
  | true =>
    have refused {u : Value} (hu : u.isSequence = true) :
        formatInnerItem property u = .error (.nesting property 3) := by
      cases u with
      | list items | tuple items => rfl
      | _ => cases hu
    rw [refused hv, refused (hs.trans hv)]

theorem formatInner_map {items : List Value}
    (h : ∀ v ∈ items, formatInnerItem property (f v) = formatInnerItem property v) :
    formatInner property (items.map f) = formatInner property items := by
  induction items with
  | nil => rfl
  | cons v rest ih =>
    obtain ⟨hv, hrest⟩ := List.forall_mem_cons.1 h
    rw [List.map_cons, formatInner_cons, formatInner_cons, hv, ih hrest]

theorem joinItems_map {items : List Value} (h : ∀ v, (f v).isSequence = v.isSequence)
    (parts : List String) :
    joinItems property (items.map f) parts = joinItems property items parts := by
  simp only [joinItems, List.any_map, Function.comp_def, h]

theorem formatArguments_map {function : String} {items : List Value}
    (h : ∀ v ∈ items, ∀ position, formatArgument property function position (f v) =
      formatArgument property function position v) (position : Nat) (advance : Bool) :
    formatArguments property function position advance (items.map f) =
      formatArguments property function position advance items := by
  induction items generalizing position with
  | nil => rfl
  | cons v rest ih =>
    obtain ⟨hv, hrest⟩ := List.forall_mem_cons.1 h
    rw [List.map_cons, formatArguments, formatArguments, hv, ih hrest]

theorem formatCalls_map {entries : List (Value × Value)}
    (h : ∀ e ∈ entries, ∀ function, formatArgument property function none (f e.2) =
      formatArgument property function none e.2) :
    formatCalls property (entries.map fun e => (e.1, f e.2)) = formatCalls property entries := by
  induction entries with
  | nil => rfl
  | cons e rest ih =>
    obtain ⟨he, hrest⟩ := List.forall_mem_cons.1 h
    obtain ⟨k, v⟩ := e
    rw [List.map_cons]
    cases hk : k.text? with
    | none => rw [formatCalls_of_not_text hk, formatCalls_of_not_text hk]
    | some function =>
      obtain rfl := text?_eq_some.1 hk
      rw [formatCalls_cons, formatCalls_cons, formatCall, formatCall, he, ih hrest]

end Parts

end Stylesheet
