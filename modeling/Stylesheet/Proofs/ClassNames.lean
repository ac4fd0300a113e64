import Stylesheet.Proofs.Formatting
import Stylesheet.Proofs.StylesheetText
/-!
# Class names of a collection

Resolving a collection joins its names list by list, from the inside out. It comes to what its
leaves come to, one after the other (`classNames_eq`), so how the items are grouped into lists
cannot be seen, neither in the names nor in what is refused first.
-/

namespace Stylesheet

namespace Value

/-! ## Leaves -/

mutual

/-- The leaves of a collection from left to right. What counts as false has none. -/
def leaves : Value → List Value
  | .list items => leavesOfItems items
  | .tuple items => leavesOfItems items
  | v => if v.truthy then [v] else []

/-- The leaves of each item. -/
def leavesOfItems : List Value → List Value
  | [] => []
  | v :: rest => leaves v ++ leavesOfItems rest

end

theorem leavesOfItems_eq_flatMap (items : List Value) :
    leavesOfItems items = items.flatMap leaves := by
  induction items with
  | nil => rfl
  | cons v rest ih => rw [leavesOfItems, List.flatMap_cons, ih]

/-- What is no list is a leaf, unless it counts as false. -/
theorem leaves_of_no_sequence {v : Value} (h : v.isSequence = false) :
    v.leaves = if v.truthy then [v] else [] := by
  cases v with
  | list items | tuple items => cases h
  | _ => rfl

/-- The same collection with its items put into lists in another way: items move into a list of
their own or out of it, and a list becomes a tuple or a tuple a list. -/
inductive Regroups : Value → Value → Prop where
  | refl (v : Value) : Regroups v v
  | symm {v w : Value} (h : Regroups v w) : Regroups w v
  | trans {u v w : Value} (h : Regroups u v) (h' : Regroups v w) : Regroups u w
  | kind (items : List Value) : Regroups (.list items) (.tuple items)
  | group (before inner after : List Value) :
    Regroups (.list (before ++ inner ++ after)) (.list (before ++ .list inner :: after))
  | inside (before : List Value) {v w : Value} (after : List Value) (h : Regroups v w) :
    Regroups (.list (before ++ v :: after)) (.list (before ++ w :: after))

theorem Regroups.leaves_eq {v w : Value} (h : v.Regroups w) : w.leaves = v.leaves := by
  induction h with
  | refl v => rfl
  | symm _ ih => exact ih.symm
  | trans _ _ ih ih' => exact ih'.trans ih
  | kind items => rw [leaves, leaves]
  | group before inner after => simp [leaves, leavesOfItems_eq_flatMap]
  | inside before after _ ih => simp [leaves, leavesOfItems_eq_flatMap, ih]

/-- The name that a leaf stands for. -/
def className : Value → String
  | .handle name _ _ => name
  | .text s => s
  | _ => ""

/-- Why a leaf is refused, if it is: a handle whose style is not in the stylesheet while that is
required, or what is neither a handle nor text. -/
def refusal? (required : Bool) (rendered : Flag → Bool) : Value → Option Failure
  | .handle name _ flag => if rendered flag || !required then none else some (.unrendered name)
  | .text _ => none
  | v => some (.noClassNames v.kindName)

/-- The names of leaves, the empty ones left out. -/
def joinedNames (leaves : List Value) : String :=
  " ".intercalate ((leaves.map className).filter (· ≠ ""))

end Value

namespace Context
open Value

/-! ## Resolving -/

section

variable {required : Bool} {rendered : Flag → Bool}

/-- What leaves come to: the first refusal, or what is made of them. -/
def resolveLeaves {α : Type} (required : Bool) (rendered : Flag → Bool) (leaves : List Value)
    (result : α) : Except Failure α :=
  match leaves.findSome? (refusal? required rendered) with
  | some e => .error e
  | none => .ok result

theorem resolveLeaves_append {α β γ : Type} (leaves more : List Value) (a : α) (b : β)
    (g : α → β → γ) : resolveLeaves required rendered (leaves ++ more) (g a b) = do
      let a ← resolveLeaves required rendered leaves a
      let b ← resolveLeaves required rendered more b
      return g a b := by
  simp only [resolveLeaves, List.findSome?_append]
  cases leaves.findSome? (refusal? required rendered) with
  | some e => rfl
  | none => cases more.findSome? (refusal? required rendered) <;> rfl

/-- The names of a list are those of its items, joined in two steps. -/
theorem joinedNames_leavesOfItems (items : List Value) :
    " ".intercalate ((items.map fun v => joinedNames v.leaves).filter (· ≠ "")) =
      joinedNames (leavesOfItems items) := by
  have parts := @intercalate_filter_parts " "
    (items.map fun v => (v.leaves.map className).filter (· ≠ "")) (by simp)
  rw [List.map_map] at parts
  refine parts.trans ?_
  rw [joinedNames, leavesOfItems_eq_flatMap, List.map_flatMap, List.filter_flatMap,
    List.flatMap_def]

theorem classNamesOfItems_eq {items : List Value}
    (h : ∀ v ∈ items, classNames required rendered v =
      resolveLeaves required rendered v.leaves (joinedNames v.leaves)) :
    classNamesOfItems required rendered items =
      resolveLeaves required rendered (leavesOfItems items)
        (items.map fun v => joinedNames v.leaves) := by
  induction items with
  | nil => rfl
  | cons v rest ih =>
    obtain ⟨hv, hrest⟩ := List.forall_mem_cons.1 h
    rw [classNamesOfItems, hv, ih hrest, leavesOfItems, List.map_cons,
      resolveLeaves_append _ _ (joinedNames v.leaves) _ List.cons]

/-- A collection that is one leaf comes to its name, or is refused. -/
theorem resolveLeaves_leaf (v : Value) :
    resolveLeaves required rendered [v] (joinedNames [v]) =
      match refusal? required rendered v with
      | some e => .error e
      | none => .ok v.className := by
  have name : joinedNames [v] = v.className := by
    by_cases h : v.className = "" <;> simp [joinedNames, h]
  rw [resolveLeaves, List.findSome?_singleton, name]

/-- Resolving a collection comes to what its leaves come to. -/
theorem classNames_eq (v : Value) : classNames required rendered v =
    resolveLeaves required rendered v.leaves (joinedNames v.leaves) := by
  induction v using Value.inductionOn with
  | list items ih | tuple items ih =>
    rw [classNames, classNamesOfItems_eq ih, leaves, ← joinedNames_leavesOfItems]
    simp only [resolveLeaves]
    cases (leavesOfItems items).findSome? (refusal? required rendered) <;> rfl
  | scalar s =>
    rw [leaves_of_no_sequence rfl, Value.truthy]
    cases ht : s.truthy with
    | false => simp [classNames, ht, resolveLeaves, joinedNames]
    | true =>
      rw [if_pos rfl, resolveLeaves_leaf]
      cases s <;> simp [classNames, ht, Value.refusal?, className]
  | mapping entries _ =>
    cases entries with
    | nil => rfl
    | cons e rest => rfl
  | «variable» name property fallback _ => rfl
  | handle name payload flag _ =>
    have truthy : (Value.handle name payload flag).truthy = true := rfl
    rw [classNames, leaves_of_no_sequence rfl, if_pos truthy, resolveLeaves_leaf, Value.refusal?]
    split <;> rfl
  | animation fields keyframes _ => rfl

end

/-- The class names of a collection are the names of its leaves in order, the empty ones left out,
with a space between any two; or the first leaf that is refused is reported. So the collection may
be regrouped at will. -/
theorem classes_by_leaves (c : Context) (v : Value) :
    let refused := Value.refusal? c.requireStylesheet c.registries.rendered
    ((∀ leaf ∈ v.leaves, refused leaf = none) →
      c.classes v = .ok (" ".intercalate ((v.leaves.map className).filter (· ≠ "")))) ∧
    (∀ before leaf after e, v.leaves = before ++ leaf :: after →
      (∀ other ∈ before, refused other = none) → refused leaf = some e →
      c.classes v = .error e) ∧
    ∀ w, v.Regroups w → c.classes w = c.classes v := by
  intro refused
  refine ⟨fun h => ?_, fun before leaf after e hv hb he => ?_, fun w hw => ?_⟩
  · rw [classes, classNames_eq, resolveLeaves, List.findSome?_eq_none_iff.2 h, joinedNames]
  · rw [classes, classNames_eq, resolveLeaves,
      List.findSome?_eq_some_iff.2 ⟨before, leaf, after, hv, he, hb⟩]
  · rw [classes, classes, classNames_eq, classNames_eq, hw.leaves_eq]

/-- Two names that are there, in lists of their own or not, before a handle that is not. -/
theorem classes_by_leaves_nested :
    let c : Context := {}
    let base := Value.handle "base" .absent (.fixed true none)
    let late := Value.handle "late" .absent (.fixed false none)
    let named := Value.list [base, .scalar (.bool false), .list [.text "", .tuple [.text "on"]]]
    let refused := Value.list [named, .list [late, .scalar (.int 4)]]
    (∀ leaf ∈ named.leaves, leaf.refusal? true c.registries.rendered = none) ∧
      c.classes named = .ok "base on" ∧
      late.refusal? true c.registries.rendered = some (.unrendered "late") ∧
      c.classes refused = .error (.unrendered "late") ∧
      named.Regroups (.tuple [base, .scalar (.bool false), .list [.text "", .tuple [.text "on"]]]) ∧
      c.classes (.tuple [base, .scalar (.bool false), .list [.text "", .tuple [.text "on"]]]) =
        c.classes named := by
  intro c base late named refused
  have hn : ∀ leaf ∈ named.leaves, leaf.refusal? true c.registries.rendered = none := by decide
  obtain ⟨joined, -, regrouped⟩ := classes_by_leaves c named
  obtain ⟨-, reported, -⟩ := classes_by_leaves c refused
  exact ⟨hn, joined hn, rfl, reported [base, .text "on"] late [.scalar (.int 4)] _ rfl hn rfl,
    .kind _, regrouped _ (.kind _)⟩

end Context
end Stylesheet
