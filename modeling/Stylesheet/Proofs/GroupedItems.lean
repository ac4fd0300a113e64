import Stylesheet.Proofs.EmptyItems
import Stylesheet.Proofs.Pruning
/-!
# Lists in lists

A property with one separator writes a list with the items of the lists in it in their places
(`formatItems_members`). Only where there is a second separator can be seen how the items are
grouped: it stands between the items of the outer list, and the first one within the inner lists
(`format_grouping`).
-/

namespace Stylesheet

/-! ## Groups -/

namespace Value

/-- The items of a list or a tuple; any other value is its own only item. -/
def members : Value → List Value
  | .list items | .tuple items => items
  | v => [v]

/-- A list in a list: it holds no further list, and something is there in it. -/
def IsGroup (v : Value) : Prop :=
  (∀ u ∈ v.members, u.isSequence = false) ∧ ∃ u ∈ v.members, u.isAbsent = false

instance (v : Value) : Decidable v.IsGroup := inferInstanceAs (Decidable (_ ∧ _))

theorem members_sequence (tuple : Bool) (items : List Value) :
    (sequence tuple items).members = items := by
  cases tuple <;> rfl

theorem members_of_no_sequence {v : Value} (hs : v.isSequence = false) : v.members = [v] := by
  cases v with
  | list items | tuple items => cases hs
  | _ => rfl

end Value

section Formatting

variable {property : String} {items : List Value} {v : Value}

/-! ## Texts of groups -/

/-- The texts of the items that are there, each formatted by itself. -/
def presentTexts (property : String) (items : List Value) : Except Failure (List String) := do
  return (← (presentItems items).mapM (format property)).flatMap Option.toList

theorem format_sequence (tuple : Bool) :
    format property (.sequence tuple items) = do
      return some (joinItems property items (← formatItems property items)) := by
  cases tuple <;> simp [Value.sequence, format]

theorem formatItem_sequence (tuple : Bool) :
    formatItem property (.sequence tuple items) = do
      return [joinInner property (← formatInner property items)] := by
  cases tuple <;> rfl

/-- A list in a list is formatted as a list by itself if it holds no further one. -/
theorem formatInner_eq_formatItems (h : ∀ v ∈ items, v.isSequence = false) :
    formatInner property items = formatItems property items := by
  induction items with
  | nil => rfl
  | cons v rest ih =>
    obtain ⟨hv, hrest⟩ := List.forall_mem_cons.1 h
    rw [formatInner_cons, formatItems_cons, formatInnerItem_eq_formatItem hv, ih hrest]

/-- A list of one level is joined by the separator of inner lists, also by itself. -/
theorem format_flat (h : ∀ v ∈ items, v.isSequence = false) (tuple : Bool) :
    format property (.sequence tuple items) = do
      return some (joinInner property (← formatItems property items)) := by
  have flat : items.any Value.isSequence = false := by simpa using h
  rw [format_sequence]
  simp only [joinItems, joinInner, flat, Catalogue.outerSeparator]
  rfl

/-- What is there in a list of at most two levels is an item as it is by itself. -/
theorem formatItem_eq_format_of_group (hg : v.isSequence = true → v.IsGroup)
    (ha : v.isAbsent = false) :
    formatItem property v = do return (← format property v).toList := by
  cases hs : v.isSequence with
  | false => exact formatItem_eq_format hs ha
  | true =>
    obtain ⟨tuple, inner, rfl⟩ := Value.exists_sequence hs
    have flat := (hg hs).1
    rw [Value.members_sequence] at flat
    rw [formatItem_sequence, formatInner_eq_formatItems flat, format_flat flat]
    simp

theorem formatItems_eq_presentTexts (hg : ∀ v ∈ items, v.isSequence = true → v.IsGroup) :
    formatItems property items = presentTexts property items := by
  unfold presentTexts
  induction items with
  | nil => rfl
  | cons v rest ih =>
    obtain ⟨hv, hrest⟩ := List.forall_mem_cons.1 hg
    cases ha : v.isAbsent with
    | true =>
      rw [presentItems_cons_of_absent ha, Value.isAbsent_iff.1 ha, formatItems, ih hrest]
    | false =>
      rw [presentItems_cons_of_present ha, formatItems_cons, ih hrest,
        formatItem_eq_format_of_group hv ha]
      simp

/-! ## Items in the places of their lists -/

theorem formatItems_append (more : List Value) :
    formatItems property (items ++ more) = do
      let own ← formatItems property items
      let others ← formatItems property more
      return own ++ others := by
  rw [Role.formatItems_eq 0, Role.itemTexts_append, ← Role.formatItems_eq, ← Role.formatItems_eq]

theorem formatItems_singleton : formatItems property [v] = formatItem property v := by
  rw [formatItems_cons]
  cases formatItem property v with
  | error e => rfl
  | ok ts =>
    show Except.ok (ts ++ []) = _
    rw [List.append_nil]

/-- An item is what its members come to, joined if they come to anything. -/
theorem formatItem_members (hg : v.isSequence = true → v.IsGroup) :
    formatItem property v = do
      return ([← formatItems property v.members].filter (· ≠ [])).map (joinInner property) := by
  cases hs : v.isSequence with
  | false =>
    rw [Value.members_of_no_sequence hs, formatItems_singleton]
    cases ha : v.isAbsent with
    | true =>
      rw [Value.isAbsent_iff.1 ha]
      rfl
    | false =>
      have single : formatItem property v = do return [← Role.item.text property v] :=
        Role.texts_eq_text (r := .item) ha
      rw [single]
      simp [joinInner]
  | true =>
    obtain ⟨tuple, inner, rfl⟩ := Value.exists_sequence hs
    obtain ⟨flat, u, hu, there⟩ := hg hs
    rw [Value.members_sequence] at flat hu
    rw [formatItem_sequence, formatInner_eq_formatItems flat, Value.members_sequence]
    cases h : formatItems property inner with
    | error e => rfl
    | ok ts =>
      rw [Role.formatItems_eq 0] at h
      have written : ts ≠ [] := fun hts => by
        simpa [there] using (Role.itemTexts_eq_nil_iff rfl h).1 hts u hu
      simp [written]

theorem formatItems_grouped (hg : ∀ v ∈ items, v.isSequence = true → v.IsGroup) :
    formatItems property items = do
      return ((← items.mapM fun v => formatItems property v.members).filter (· ≠ [])).map
        (joinInner property) := by
  induction items with
  | nil => rfl
  | cons v rest ih =>
    obtain ⟨hv, hrest⟩ := List.forall_mem_cons.1 hg
    rw [formatItems_cons, formatItem_members hv, ih hrest, List.mapM_cons]
    simp only [bind_assoc, pure_bind, ← List.map_append, ← List.filter_append,
      List.singleton_append]

theorem formatItems_ungrouped (items : List Value) :
    formatItems property (items.flatMap Value.members) = do
      return (← items.mapM fun v => formatItems property v.members).flatten := by
  induction items with
  | nil => rfl
  | cons v rest ih =>
    rw [List.flatMap_cons, formatItems_append, ih, List.mapM_cons]
    simp only [bind_assoc, pure_bind, List.flatten_cons]

/-- Joined by the separator of inner lists, a list comes to the same with the items of the lists in
it in their places. -/
theorem formatItems_members (hg : ∀ v ∈ items, v.isSequence = true → v.IsGroup) :
    (do return joinInner property (← formatItems property items)) =
      (do return joinInner property (← formatItems property (items.flatMap Value.members))) := by
  rw [formatItems_grouped hg, formatItems_ungrouped]
  cases items.mapM fun v => formatItems property v.members with
  | error e => rfl
  | ok groups => exact congrArg Except.ok (intercalate_parts _ groups)

end Formatting

/-! ## Separators -/

/-- All properties have one separator, but for one that has two. -/
theorem Catalogue.length_separators (name : String) :
    (separators name).length = if name = "grid-template" then 2 else 1 := by
  have listed : ∀ e ∈ propertySeparators,
      e.2.length = if e.1 = "grid-template" then 2 else 1 := by decide
  refine of_propertySeparators (p := fun name ts =>
    ts.length = if name = "grid-template" then 2 else 1) listed fun h => ?_
  have other : name ≠ "grid-template" := by
    rintro rfl
    cases h
  rw [if_neg other]
  rfl

theorem Catalogue.nodup_separators (name : String) : (separators name).Nodup := by
  have listed : ∀ e ∈ propertySeparators, e.2.Nodup := by decide
  exact of_propertySeparators (p := fun _ ts => ts.Nodup) listed fun _ => by decide

theorem joinItems_of_one_separator {property s : String}
    (hs : Catalogue.separators (Casing.kebab property) = [s]) (items : List Value)
    (parts : List String) : joinItems property items parts = joinInner property parts := by
  unfold joinItems joinInner Catalogue.outerSeparator Catalogue.innerSeparator
  rw [hs]
  split <;> rfl

/-- How the items of a list are grouped into lists makes no difference for a property with one
separator. Where there are two, the second separates the items of a list that holds lists, each of
which has its items separated by the first. -/
theorem format_grouping (property : String) {items : List Value}
    (hg : ∀ v ∈ items, v.isSequence = true → v.IsGroup) (tuple : Bool) :
    (Catalogue.separators (Casing.kebab property)).length =
      (if Casing.kebab property = "grid-template" then 2 else 1) ∧
    (∀ s, Catalogue.separators (Casing.kebab property) = [s] → ∀ tuple',
      format property (.sequence tuple items) =
        format property (.sequence tuple' (items.flatMap Value.members))) ∧
    (∀ s t, Catalogue.separators (Casing.kebab property) = [s, t] →
      items.any Value.isSequence = true →
      s ≠ t ∧
      format property (.sequence tuple items) =
        (do return some (t.intercalate (← presentTexts property items))) ∧
      ∀ v ∈ items, v.isSequence = true → format property v =
        (do return some (s.intercalate (← presentTexts property v.members)))) := by
  refine ⟨Catalogue.length_separators _, fun s hs tuple' => ?_, fun s t hst hn => ⟨?_, ?_, ?_⟩⟩
  · rw [format_sequence, format_sequence]
    have same := congrArg (fun text => do return some (← text))
      (@formatItems_members property items hg)
    simpa only [joinItems_of_one_separator hs, bind_assoc, pure_bind] using same
  · have distinct := Catalogue.nodup_separators (Casing.kebab property)
    rw [hst] at distinct
    simpa using distinct
  · rw [format_sequence, formatItems_eq_presentTexts hg]
    simp only [joinItems, hn, Catalogue.outerSeparator, hst]
    rfl
  · intro v hv hs
    obtain ⟨tuple', inner, rfl⟩ := Value.exists_sequence hs
    obtain ⟨flat, -⟩ := hg _ hv hs
    rw [Value.members_sequence] at flat ⊢
    rw [format_flat flat, formatItems_eq_presentTexts fun u hu hs => by simp [flat u hu] at hs]
    simp only [joinInner, Catalogue.innerSeparator, hst]
    rfl

theorem format_grouping_template :
    let items : List Value :=
      [.text "auto", .tuple [.scalar (.int 1), .absent, .handle "gap" .absent (.fixed false none)],
        .absent]
    (∀ v ∈ items, v.isSequence = true → v.IsGroup) ∧
      Catalogue.separators (Casing.kebab "margin") = [" "] ∧
      format "margin" (.list items) = format "margin" (.tuple (items.flatMap Value.members)) ∧
      format "margin" (.list items) = .ok (some "auto 1px gap") ∧
      Catalogue.separators (Casing.kebab "gridTemplate") = [" ", " / "] ∧
      format "gridTemplate" (.list items) =
        (do return some (" / ".intercalate (← presentTexts "gridTemplate" items))) ∧
      format "gridTemplate" (.list items) = .ok (some "auto / 1px gap") ∧
      format "gridTemplate" (.list (items.flatMap Value.members)) = .ok (some "auto 1px gap") := by
  intro items
  have groups : ∀ v ∈ items, v.isSequence = true → v.IsGroup := by decide
  obtain ⟨-, same, -⟩ := format_grouping "margin" groups false
  obtain ⟨-, -, apart⟩ := format_grouping "gridTemplate" groups false
  exact ⟨groups, rfl, same " " rfl true, rfl, rfl, (apart " " " / " rfl rfl).2.1, rfl, rfl⟩

end Stylesheet
