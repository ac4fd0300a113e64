import Stylesheet.Proofs.BraceFree
import Stylesheet.Proofs.Ways
/-!
# Empty lists among the items of a list

A missing item of a list has no text and no separator. An empty list has a text, if an empty one,
and keeps its separator. So a missing item in its place changes the text, unless nothing else in the
list has a text or the empty list has the text that stands for a missing argument
(`Way.format_without_empty_list`).
-/

namespace Stylesheet

/-! ## Empty lists -/

namespace Value

mutual

/-- Whether there is nothing in a value: it is missing, or a list of such items. -/
def isVacant : Value → Bool
  | .absent => true
  | .list items => areVacant items
  | .tuple items => areVacant items
  | _ => false

/-- Whether there is nothing in any item. -/
def areVacant : List Value → Bool
  | [] => true
  | v :: rest => v.isVacant && areVacant rest

end

mutual

/-- The text of an item with nothing in it, given what stands for a missing one. -/
def blankText (placeholder : Option String) : Value → Option String
  | .list items => some (" ".intercalate (blankTexts placeholder items))
  | .tuple items => some (" ".intercalate (blankTexts placeholder items))
  | _ => placeholder

/-- The texts of items with nothing in them. -/
def blankTexts (placeholder : Option String) : List Value → List String
  | [] => []
  | v :: rest => (blankText placeholder v).toList ++ blankTexts placeholder rest

end

theorem areVacant_iff {items : List Value} :
    areVacant items = true ↔ ∀ v ∈ items, v.isVacant = true := by
  induction items with
  | nil => simp [areVacant]
  | cons v rest ih => simp [areVacant, ih]

theorem isVacant_sequence {tuple : Bool} {items : List Value} :
    (sequence tuple items).isVacant = areVacant items := by
  cases tuple <;> simp [sequence, isVacant]

theorem blankText_sequence (placeholder : Option String) (tuple : Bool) (items : List Value) :
    (sequence tuple items).blankText placeholder =
      some (" ".intercalate (blankTexts placeholder items)) := by
  cases tuple <;> simp [sequence, blankText]

theorem isAbsent_of_isVacant {v : Value} (hv : v.isVacant = true) (hs : v.isSequence = false) :
    v.isAbsent = true := by
  cases v with
  | scalar s => cases s <;> simp_all [isVacant, isAbsent]
  | list items | tuple items => cases hs
  | _ => simp [isVacant] at hv

theorem blankText_of_isAbsent {placeholder : Option String} {v : Value} (h : v.isAbsent = true) :
    v.blankText placeholder = placeholder := by
  rw [isAbsent_iff.1 h, blankText]
  all_goals nofun

theorem blankTexts_none_of_isAbsent {items : List Value} (h : ∀ v ∈ items, v.isAbsent = true) :
    blankTexts none items = [] := by
  induction items with
  | nil => rfl
  | cons v rest ih =>
    obtain ⟨hv, hrest⟩ := List.forall_mem_cons.1 h
    rw [blankTexts, blankText_of_isAbsent hv, ih hrest]
    rfl

end Value

/-! ## What stands for a missing value -/

/-- A function gives a missing argument the same text, if any, in all positions. -/
theorem formatParameter_absent (property function : String) (i j : Nat) :
    formatParameter property function i .absent = formatParameter property function j .absent := by
  have listed : ∀ e ∈ Catalogue.functionFormatters, ∀ f ∈ e.2, f.apply .absent = none := by decide
  unfold formatParameter
  cases h : Catalogue.functionFormatters.lookup (Casing.functionName function) with
  | none =>
    rw [Catalogue.functionFormatter?, Catalogue.functionFormatter?, h]
    rfl
  | some fs =>
    obtain ⟨f, hi⟩ := Catalogue.exists_functionFormatter h i
    obtain ⟨g, hj⟩ := Catalogue.exists_functionFormatter h j
    have hf := Catalogue.of_functionFormatters (p := fun f => f.apply .absent = none) listed hi
    have hg := Catalogue.of_functionFormatters (p := fun f => f.apply .absent = none) listed hj
    rw [hi, hj]
    show f.apply .absent = g.apply .absent
    rw [hf, hg]

namespace Role

variable {property : String} {r : Role} {v : Value} {items : List Value}

/-- What stands for a missing value: nothing in a list, and in a list of arguments what the function
or the property says. -/
def placeholder (property : String) : Role → Option String
  | .value => formatScalar property .absent
  | .item | .innerItem => none
  | .argument function position => formatParameter property function (position.getD 0) .absent

theorem texts_of_isAbsent (h : v.isAbsent = true) :
    r.texts property v = .ok (r.placeholder property).toList := by
  rw [Value.isAbsent_iff.1 h]
  cases r with
  | value =>
    rw [texts, format]
    rfl
  | argument function position =>
    rw [texts, formatArgument]
    rfl
  | item | innerItem => rfl

/-- The items of a list have the same placeholder. -/
theorem placeholder_ofItem (r : Role) (i j : Nat) :
    (r.ofItem i).placeholder property = (r.ofItem j).placeholder property := by
  cases r with
  | argument function outer => exact formatParameter_absent property function _ _
  | _ => rfl

theorem texts_of_itemTexts {position : Nat} {ts : List String}
    (h : r.itemTexts property position items = .ok ts) :
    ∀ v ∈ items, ∃ i us, (r.ofItem i).texts property v = .ok us := by
  induction items generalizing position ts with
  | nil => nofun
  | cons v rest ih =>
    obtain ⟨own, hv, h⟩ := Failure.bind_eq_ok.1 h
    obtain ⟨more, hrest, -⟩ := Failure.bind_eq_ok.1 h
    exact List.forall_mem_cons.2 ⟨⟨position, own, hv⟩, ih hrest⟩

/-- Items have no text only if all of them are missing and nothing stands for them. -/
theorem itemTexts_eq_nil_iff (hp : (r.ofItem 0).placeholder property = none) {position : Nat}
    {ts : List String} (h : r.itemTexts property position items = .ok ts) :
    ts = [] ↔ ∀ v ∈ items, v.isAbsent = true := by
  induction items generalizing position ts with
  | nil =>
    cases h
    simp
  | cons v rest ih =>
    obtain ⟨own, hv, h⟩ := Failure.bind_eq_ok.1 h
    obtain ⟨more, hrest, h⟩ := Failure.bind_eq_ok.1 h
    cases h
    have first : own = [] ↔ v.isAbsent = true := by
      cases ha : v.isAbsent with
      | true =>
        rw [texts_of_isAbsent ha, placeholder_ofItem r position 0, hp] at hv
        cases hv
        simp
      | false =>
        obtain ⟨t, rfl⟩ := exists_text_of_texts ha hv
        simp
    rw [List.append_eq_nil_iff, first, ih hrest, List.forall_mem_cons]

/-! ### The texts of empty lists -/

theorem itemTexts_eq_blankTexts {d : Option String} {position : Nat} {ts : List String}
    (hv : ∀ v ∈ items, ∀ i us, (r.ofItem i).texts property v = .ok us → us = (v.blankText d).toList)
    (h : r.itemTexts property position items = .ok ts) : ts = Value.blankTexts d items := by
  induction items generalizing position ts with
  | nil =>
    cases h
    rfl
  | cons v rest ih =>
    obtain ⟨hv, hrest⟩ := List.forall_mem_cons.1 hv
    obtain ⟨own, ho, h⟩ := Failure.bind_eq_ok.1 h
    obtain ⟨more, hm, h⟩ := Failure.bind_eq_ok.1 h
    cases h
    rw [Value.blankTexts, hv _ _ ho, ih hrest hm]

/-- A list in a list with nothing in it holds no list, so its text is empty. -/
theorem texts_item_of_areVacant {tuple : Bool} {ts : List String}
    (hv : Value.areVacant items = true)
    (h : Role.item.texts property (.sequence tuple items) = .ok ts) :
    ts = ((Value.sequence tuple items).blankText none).toList := by
  rw [texts_sequence (by decide)] at h
  obtain ⟨parts, hp, h⟩ := Failure.bind_eq_ok.1 h
  cases h
  have missing : ∀ v ∈ items, v.isAbsent = true := by
    intro v hm
    refine Value.isAbsent_of_isVacant (Value.areVacant_iff.1 hv v hm) ?_
    obtain ⟨i, us, hi⟩ := texts_of_itemTexts hp v hm
    cases hs : v.isSequence with
    | false => rfl
    | true =>
      obtain ⟨tuple', inner, rfl⟩ := Value.exists_sequence hs
      cases (texts_innerItem_sequence tuple' inner).symm.trans hi
  rw [(itemTexts_eq_nil_iff rfl hp).2 missing, Value.blankText_sequence,
    Value.blankTexts_none_of_isAbsent missing]
  simp

/-- In a list that is one argument, every item has the role of the list. -/
theorem texts_argument_of_areVacant {function : String} {position : Nat} {ts : List String}
    (tuple : Bool)
    (ih : ∀ v ∈ items, ∀ us, v.isVacant = true →
      (Role.argument function (some position)).texts property v = .ok us →
      us = (v.blankText ((Role.argument function (some position)).placeholder property)).toList)
    (hv : Value.areVacant items = true)
    (h : (Role.argument function (some position)).texts property (.sequence tuple items) = .ok ts) :
    ts = ((Value.sequence tuple items).blankText
      ((Role.argument function (some position)).placeholder property)).toList := by
  rw [texts_sequence (fun hr => by cases hr)] at h
  obtain ⟨parts, hp, h⟩ := Failure.bind_eq_ok.1 h
  cases h
  have blank := itemTexts_eq_blankTexts
    (fun v hm _ us hu => ih v hm us (Value.areVacant_iff.1 hv v hm) hu) hp
  rw [blank, Value.blankText_sequence]
  rfl

theorem texts_argument_of_isVacant {function : String} {position : Nat} {ts : List String}
    (hv : v.isVacant = true)
    (h : (Role.argument function (some position)).texts property v = .ok ts) :
    ts = (v.blankText ((Role.argument function (some position)).placeholder property)).toList := by
  induction v using Value.inductionOn generalizing ts with
  | list items ih =>
    rw [Value.isVacant] at hv
    exact texts_argument_of_areVacant false (fun v hm us => ih v hm) hv h
  | tuple items ih =>
    rw [Value.isVacant] at hv
    exact texts_argument_of_areVacant true (fun v hm us => ih v hm) hv h
  | _ =>
    have ha := Value.isAbsent_of_isVacant hv rfl
    rw [texts_of_isAbsent ha] at h
    rw [Value.blankText_of_isAbsent ha]
    exact (Except.ok.inj h).symm

/-- The text of an empty list among the items of a list. -/
theorem texts_of_isVacant {position : Nat} {ts : List String} (hs : v.isSequence = true)
    (hv : v.isVacant = true) (h : (r.ofItem position).texts property v = .ok ts) :
    ts = (v.blankText ((r.ofItem position).placeholder property)).toList := by
  obtain ⟨tuple, items, rfl⟩ := Value.exists_sequence hs
  cases r with
  | value => exact texts_item_of_areVacant (Value.isVacant_sequence ▸ hv) h
  | item | innerItem => cases (texts_innerItem_sequence tuple items).symm.trans h
  | argument function outer => exact texts_argument_of_isVacant hv h

/-! ### Separators -/

/-- The separator of lists that hold lists is the longer one, and no separator is empty. -/
theorem length_separator (property : String) (r : Role) (nested : Bool) :
    0 < (r.separator property true).length ∧
      (r.separator property nested).length ≤ (r.separator property true).length := by
  have listed : ∀ e ∈ Catalogue.propertySeparators, 0 < (e.2.headD ", ").length ∧
      (e.2.headD ", ").length ≤ (e.2.getLastD ", ").length := by decide
  have ofProperty (name : String) : 0 < (Catalogue.innerSeparator name).length ∧
      (Catalogue.innerSeparator name).length ≤ (Catalogue.outerSeparator name true).length :=
    Catalogue.of_propertySeparators (p := fun _ ts => 0 < (ts.headD ", ").length ∧
      (ts.headD ", ").length ≤ (ts.getLastD ", ").length) listed fun _ => by decide
  cases r with
  | value =>
    obtain ⟨hp, hle⟩ := ofProperty (Casing.kebab property)
    refine ⟨Nat.lt_of_lt_of_le hp hle, ?_⟩
    cases nested with
    | true => exact Nat.le_refl _
    | false => exact hle
  | item | innerItem => exact ⟨(ofProperty (Casing.kebab property)).1, Nat.le_refl _⟩
  | argument function position =>
    refine ⟨?_, Nat.le_refl _⟩
    rw [separator, parameterSeparator]
    split <;> decide

end Role

/-! ## A missing item in the place of an empty list -/

namespace Role

variable {property : String} {r : Role} {v : Value} {before after : List Value}

/-- An empty list among the items of a list leaves no text and no separator: it has the text of a
missing item, or it has the empty text and every item is missing and has none. -/
def Unseen (property : String) (r : Role) (before after : List Value) (v : Value) : Prop :=
  v.blankText ((r.ofItem before.length).placeholder property) =
      (r.ofItem before.length).placeholder property ∨
    (r.ofItem before.length).placeholder property = none ∧ v.blankText none = some "" ∧
      ∀ u ∈ before ++ after, u.isAbsent = true

instance : Decidable (r.Unseen property before after v) := by
  unfold Unseen
  infer_instance

/-- Only among arguments something stands for a missing item, and those have one separator. -/
theorem separator_of_placeholder {position : Nat}
    (h : (r.ofItem position).placeholder property ≠ none) (nested nested' : Bool) :
    r.separator property nested = r.separator property nested' := by
  cases r with
  | argument function position => rfl
  | _ => exact absurd rfl h

/-- A missing item among the items of a list. -/
theorem text_sequence_absent (hr : r ≠ .innerItem) (tuple : Bool) :
    r.text property (.sequence tuple (before ++ .absent :: after)) = do
      let own ← r.itemTexts property 0 before
      let more ← r.itemTexts property (before.length + 1) after
      return (r.separator property ((before ++ .absent :: after).any Value.isSequence)).intercalate
        (own ++ (((r.ofItem before.length).placeholder property).toList ++ more)) := by
  rw [text, texts_sequence hr, itemTexts_append, itemTexts, texts_of_isAbsent rfl]
  simp
  rfl

theorem text_without_empty_list {tuple : Bool} {t : String} (hs : v.isSequence = true)
    (hv : v.isVacant = true)
    (h : r.text property (.sequence tuple (before ++ v :: after)) = .ok t) :
    ∃ t', r.text property (.sequence tuple (before ++ .absent :: after)) = .ok t' ∧
      (t' = t ↔ r.Unseen property before after v) := by
  have hr : r ≠ .innerItem := by
    rintro rfl
    rw [text, texts_innerItem_sequence] at h
    cases h
  have ha : v.isAbsent = false := by
    obtain ⟨tuple', items, rfl⟩ := Value.exists_sequence hs
    exact Value.isAbsent_sequence tuple' items
  rw [text_sequence hr ha] at h
  obtain ⟨own, ho, h⟩ := Failure.bind_eq_ok.1 h
  obtain ⟨e, he, h⟩ := Failure.bind_eq_ok.1 h
  obtain ⟨more, hm, h⟩ := Failure.bind_eq_ok.1 h
  cases h
  have blank : v.blankText ((r.ofItem before.length).placeholder property) = some e := by
    have single : (r.ofItem before.length).texts property v = .ok [e] := by
      rw [texts_eq_text ha, he]
      rfl
    exact Option.toList_eq_singleton_iff.1 (texts_of_isVacant hs hv single).symm
  refine ⟨_, (text_sequence_absent hr tuple).trans (by rw [ho, hm]; rfl), ?_⟩
  obtain ⟨positive, longest⟩ := length_separator property r
    ((before ++ .absent :: after).any Value.isSequence)
  have nested : (before ++ v :: after).any Value.isSequence = true := by simp [hs]
  rw [nested, intercalate_replaced_iff positive longest
    fun hp => separator_of_placeholder hp _ _, Unseen, blank]
  refine or_congr Iff.rfl (and_congr_right fun hp => ?_)
  have first := (placeholder_ofItem r 0 before.length).trans hp
  rw [hp] at blank
  rw [blank, itemTexts_eq_nil_iff first ho, itemTexts_eq_nil_iff first hm, List.forall_mem_append,
    Option.some.injEq]

end Role

namespace Way

/-- A missing item in the place of an empty list changes the text unless the empty list leaves
nothing in it. -/
theorem format_without_empty_list {property : String} {w : Way} {tuple : Bool}
    {before after : List Value} {v : Value} {text : Option String} (hs : v.isSequence = true)
    (hv : v.isVacant = true)
    (h : format property (w.fill (.sequence tuple (before ++ v :: after))) = .ok text) :
    ∃ text', format property (w.fill (.sequence tuple (before ++ .absent :: after))) = .ok text' ∧
      (text' = text ↔ (w.role .value).Unseen property before after v) := by
  obtain ⟨left, right, around⟩ := exists_text_around (Value.isAbsent_sequence tuple _) h
  have filled (items : List Value) := around (.sequence tuple items)
    (Value.isAbsent_sequence tuple items) (by simp only [Value.isSequence_sequence])
  rw [filled] at h
  obtain ⟨t, ht, h⟩ := Failure.bind_eq_ok.1 h
  cases h
  obtain ⟨t', ht', hiff⟩ := Role.text_without_empty_list hs hv ht
  refine ⟨some (left ++ t' ++ right), ?_, ?_⟩
  · rw [filled, ht']
    rfl
  · rw [Option.some.injEq, append_cancel_around, hiff]

theorem format_without_empty_list_translate :
    (Value.list []).isSequence = true ∧ (Value.list []).isVacant = true ∧
      format "transform" (.mapping [(.text "translate", .list [.scalar (.int 10), .list []])]) =
        .ok (some "translate(10px, )") ∧
      ∃ text', format "transform"
        (.mapping [(.text "translate", .list [.scalar (.int 10), .absent])]) = .ok text' ∧
        text' ≠ some "translate(10px, )" := by
  have formatted : format "transform" ((argument [] "translate" .here []).fill
      (.sequence false ([.scalar (.int 10)] ++ .list [] :: []))) =
      .ok (some "translate(10px, )") := rfl
  obtain ⟨text', ht, changed⟩ := format_without_empty_list rfl (by decide) formatted
  exact ⟨rfl, by decide, formatted, text', ht, fun h => absurd (changed.1 h) (by decide)⟩

/-- An empty list at the end of a list keeps the separator before it. -/
theorem empty_list_keeps_separator :
    (Value.list []).isVacant = true ∧
      format "transitionProperty" (.list [.text "width", .list []]) = .ok (some "width, ") ∧
      format "transitionProperty" (.list [.text "width", .absent]) = .ok (some "width") :=
  ⟨by decide, rfl, rfl⟩

end Way
end Stylesheet
