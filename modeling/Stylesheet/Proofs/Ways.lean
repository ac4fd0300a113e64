import Stylesheet.Proofs.Declarations
import Stylesheet.Proofs.Formatting
/-!
# Ways into a value

A place in a value is reached through items of lists and arguments of functions (`Way`). How a value
is formatted there is its role. The text around a place does not depend on what stands there, as
long as something does and lists are not exchanged for what is no list (`Way.text_fill`).
-/

namespace Stylesheet

/-- A list or a tuple. -/
def Value.sequence (tuple : Bool) (items : List Value) : Value :=
  if tuple then .tuple items else .list items

theorem Value.exists_sequence {v : Value} (h : v.isSequence = true) :
    ∃ tuple items, v = .sequence tuple items := by
  cases v with
  | list items => exact ⟨false, items, rfl⟩
  | tuple items => exact ⟨true, items, rfl⟩
  | _ => cases h

theorem Value.isSequence_sequence (tuple : Bool) (items : List Value) :
    (Value.sequence tuple items).isSequence = true := by
  cases tuple <;> rfl

theorem Value.isAbsent_sequence (tuple : Bool) (items : List Value) :
    (Value.sequence tuple items).isAbsent = false := by
  cases tuple <;> rfl

/-! ## Roles -/

/-- How a value is formatted where it stands: by itself, as an item of a list or of a list in a
list, or as an argument. A value that is all the arguments of a function has no position. -/
inductive Role where
  | value
  | item
  | innerItem
  | argument (function : String) (position : Option Nat)
  deriving DecidableEq, Repr

namespace Role

variable {property : String} {r : Role} {v : Value}

/-- The texts that a value comes to: one if it is there, and at most one if it is missing. -/
def texts (property : String) : Role → Value → Except Failure (List String)
  | .value, v => do return (← format property v).toList
  | .item, v => formatItem property v
  | .innerItem, v => formatInnerItem property v
  | .argument function position, v => do
    return (← formatArgument property function position v).toList

/-- Whether what has the role is an argument of a function. -/
def isArgument : Role → Bool
  | .argument _ _ => true
  | _ => false

/-- The role of the item at a position of a list that has a role. -/
def ofItem (position : Nat) : Role → Role
  | .value => .item
  | .item | .innerItem => .innerItem
  | .argument function outer => .argument function (some (outer.getD position))

/-- The texts of the items of a list, from a position on. -/
def itemTexts (property : String) (r : Role) (position : Nat) :
    List Value → Except Failure (List String)
  | [] => .ok []
  | v :: rest => do
    let own ← (r.ofItem position).texts property v
    let more ← itemTexts property r (position + 1) rest
    return own ++ more

/-- What separates the items of a list; `nested` says whether there is a list among them. -/
def separator (property : String) (nested : Bool) : Role → String
  | .value => Catalogue.outerSeparator (Casing.kebab property) nested
  | .item | .innerItem => Catalogue.innerSeparator (Casing.kebab property)
  | .argument _ position => parameterSeparator position

/-! ### Lists and function maps -/

theorem formatItems_eq (position : Nat) (items : List Value) :
    formatItems property items = Role.value.itemTexts property position items := by
  induction items generalizing position with
  | nil => rfl
  | cons v rest ih =>
    rw [formatItems_cons, ih (position + 1)]
    rfl

theorem formatInner_eq (position : Nat) (items : List Value) :
    formatInner property items = Role.item.itemTexts property position items := by
  induction items generalizing position with
  | nil => rfl
  | cons v rest ih =>
    rw [formatInner_cons, ih (position + 1)]
    rfl

theorem formatArguments_eq {function : String} {outer : Option Nat} (position : Nat)
    (items : List Value) :
    formatArguments property function (outer.getD position) outer.isNone items =
      (Role.argument function outer).itemTexts property position items := by
  induction items generalizing position with
  | nil => rfl
  | cons v rest ih =>
    have next : (if outer.isNone then outer.getD position + 1 else outer.getD position) =
        outer.getD (position + 1) := by
      cases outer <;> rfl
    rw [formatArguments, next, ih (position + 1), itemTexts, ofItem, texts]
    simp

/-- The items of a list are joined; a list in a list in a list is one too many. -/
theorem texts_sequence (hr : r ≠ .innerItem) (tuple : Bool) (items : List Value) :
    r.texts property (.sequence tuple items) = do
      return [(r.separator property (items.any Value.isSequence)).intercalate
        (← r.itemTexts property 0 items)] := by
  cases tuple <;> cases r with
  | value =>
    simp [texts, Value.sequence, format, formatItems_eq 0, joinItems, separator]
  | item => simp [texts, Value.sequence, formatItem, formatInner_eq 0, joinInner, separator]
  | innerItem => exact absurd rfl hr
  | argument function position =>
    simp [texts, Value.sequence, formatArgument, formatArguments_eq, separator]

theorem texts_mapping (entries : List (Value × Value)) :
    r.texts property (.mapping entries) = do
      return [" ".intercalate (← formatCalls property entries)] := by
  cases r <;> simp [texts, formatItem, formatInnerItem, format, formatArgument]

theorem itemTexts_append (position : Nat) (items more : List Value) :
    r.itemTexts property position (items ++ more) = do
      let own ← r.itemTexts property position items
      let others ← r.itemTexts property (position + items.length) more
      return own ++ others := by
  induction items generalizing position with
  | nil => cases h : r.itemTexts property position more <;> simp [itemTexts, h] <;> rfl
  | cons v rest ih =>
    rw [List.cons_append, itemTexts, ih, itemTexts, List.length_cons, Nat.add_assoc, Nat.add_comm 1]
    simp only [bind_assoc, pure_bind, List.append_assoc]

theorem formatCalls_append (entries more : List (Value × Value)) :
    formatCalls property (entries ++ more) = do
      let own ← formatCalls property entries
      let others ← formatCalls property more
      return own ++ others := by
  induction entries with
  | nil => cases h : formatCalls property more <;> simp [formatCalls, h] <;> rfl
  | cons e rest ih =>
    obtain ⟨k, v⟩ := e
    rw [List.cons_append]
    cases hk : k.text? with
    | none => rw [formatCalls_of_not_text hk, formatCalls_of_not_text hk]; rfl
    | some function =>
      obtain rfl := text?_eq_some.1 hk
      rw [formatCalls_cons, formatCalls_cons, ih]
      simp

/-! ### One text -/

theorem isAbsent_of_formatArgument {function : String} {position : Option Nat}
    (h : formatArgument property function position v = .ok none) : v.isAbsent = true := by
  cases v with
  | scalar s =>
    rw [formatArgument, Failure.unlessTooLong_eq_ok, formatParameter] at h
    obtain ⟨-, h⟩ := h
    have absent : s = .absent := by
      split at h <;> exact Formatter.eq_absent_of_apply h
    rw [absent]
    rfl
  | list items | tuple items | mapping entries | animation fields keyframes =>
    rw [formatArgument] at h
    obtain ⟨parts, -, h⟩ := Failure.bind_eq_ok.1 h
    cases h
  | «variable» name declared fallback =>
    rw [formatArgument, ← format] at h
    have := isAbsent_of_format h
    exact this
  | handle name payload flag => simp [formatArgument] at h

/-- A third level of lists is refused. -/
theorem texts_innerItem_sequence (tuple : Bool) (items : List Value) :
    Role.innerItem.texts property (.sequence tuple items) = .error (.nesting property 3) := by
  cases tuple <;> rfl

/-- What is there and no list is an item as it is by itself. -/
theorem texts_of_no_sequence (hs : v.isSequence = false) (ha : v.isAbsent = false)
    (hr : r.isArgument = false) : r.texts property v = do return (← format property v).toList := by
  cases r with
  | value => rfl
  | item => exact formatItem_eq_format hs ha
  | innerItem => exact (formatInnerItem_eq_formatItem hs).trans (formatItem_eq_format hs ha)
  | argument function position => cases hr

/-- What is there has one text. -/
theorem exists_text_of_texts {ts : List String} (ha : v.isAbsent = false)
    (h : r.texts property v = .ok ts) : ∃ t, ts = [t] := by
  have present {text : Option String} (hn : text = none → v.isAbsent = true) :
      ∃ t, text.toList = [t] := by
    cases text with
    | none => exact absurd (hn rfl) (by simp [ha])
    | some t => exact ⟨t, rfl⟩
  cases hs : v.isSequence with
  | true =>
    obtain ⟨tuple, items, rfl⟩ := Value.exists_sequence hs
    by_cases hr : r = .innerItem
    · subst hr
      cases (texts_innerItem_sequence tuple items).symm.trans h
    · rw [texts_sequence hr] at h
      obtain ⟨parts, -, h⟩ := Failure.bind_eq_ok.1 h
      exact ⟨_, (Except.ok.inj h).symm⟩
  | false =>
    cases r with
    | argument function position =>
      obtain ⟨text, ht, h⟩ := Failure.bind_eq_ok.1 h
      cases h
      exact present fun hn => isAbsent_of_formatArgument (hn ▸ ht)
    | _ =>
      rw [texts_of_no_sequence hs ha rfl] at h
      obtain ⟨text, ht, h⟩ := Failure.bind_eq_ok.1 h
      cases h
      exact present fun hn => isAbsent_of_format (hn ▸ ht)

/-- The text of a value that is there. -/
def text (property : String) (r : Role) (v : Value) : Except Failure String := do
  return (← r.texts property v).headD ""

theorem texts_eq_text (ha : v.isAbsent = false) :
    r.texts property v = do return [← r.text property v] := by
  rw [text]
  cases h : r.texts property v with
  | error e => rfl
  | ok ts =>
    obtain ⟨t, rfl⟩ := exists_text_of_texts ha h
    rfl

theorem format_eq_text (ha : v.isAbsent = false) :
    format property v = do return some (← Role.value.text property v) := by
  rw [text, texts]
  cases h : format property v with
  | error e => rfl
  | ok text =>
    cases text with
    | none => exact absurd (isAbsent_of_format h) (by simp [ha])
    | some t => rfl

/-- One item among the items of a list. -/
theorem text_sequence (hr : r ≠ .innerItem) (ha : v.isAbsent = false) (tuple : Bool)
    (before after : List Value) :
    r.text property (.sequence tuple (before ++ v :: after)) = do
      let own ← r.itemTexts property 0 before
      let t ← (r.ofItem before.length).text property v
      let more ← r.itemTexts property (before.length + 1) after
      return (r.separator property ((before ++ v :: after).any Value.isSequence)).intercalate
        (own ++ t :: more) := by
  rw [text, texts_sequence hr, itemTexts_append, itemTexts, texts_eq_text ha]
  simp

/-- One call among the calls of a mapping. -/
theorem text_mapping (function : String) (before after : List (Value × Value)) :
    r.text property (.mapping (before ++ (.text function, v) :: after)) = do
      let own ← formatCalls property before
      let t ← (Role.argument function none).text property v
      let more ← formatCalls property after
      return " ".intercalate
        (own ++ (Casing.functionName function ++ "(" ++ t ++ ")") :: more) := by
  rw [text, texts_mapping, formatCalls_append, formatCalls_cons, formatCall, text, texts]
  simp

end Role

/-! ## Text around a place -/

/-- What is formatted outside is what is formatted inside with fixed text around it, or it is
refused in any case. -/
def Surrounds {α : Type} (p : α → Prop) (inner outer : α → Except Failure String) : Prop :=
  (∀ a, p a → ∃ e, outer a = .error e) ∨
    ∃ before after, ∀ a, p a → outer a = do return before ++ (← inner a) ++ after

namespace Surrounds

variable {α : Type} {p : α → Prop} {inner middle outer : α → Except Failure String}

theorem refl : Surrounds p inner inner :=
  .inr ⟨"", "", fun a _ => by cases inner a <;> simp⟩

/-- One text more among others. -/
theorem among (h : Surrounds p inner middle) {own more : Except Failure (List String)}
    {separator left right : String}
    (ho : ∀ a, p a → outer a = do
      let own ← own
      let t ← middle a
      let more ← more
      return separator.intercalate (own ++ (left ++ t ++ right) :: more)) :
    Surrounds p inner outer := by
  cases own with
  | error e => exact .inl fun a ha => ⟨e, ho a ha⟩
  | ok own =>
    cases more with
    | error e =>
      refine .inl fun a ha => ?_
      rw [ho a ha]
      cases middle a with
      | error e' => exact ⟨e', rfl⟩
      | ok t => exact ⟨e, rfl⟩
    | ok more =>
      obtain h | ⟨before, after, h⟩ := h
      · refine .inl fun a ha => ?_
        obtain ⟨e, he⟩ := h a ha
        exact ⟨e, by rw [ho a ha, he]; rfl⟩
      · obtain ⟨own', more', h'⟩ := exists_intercalate_around separator own more
        refine .inr ⟨own' ++ left ++ before, after ++ right ++ more', fun a ha => ?_⟩
        rw [ho a ha, h a ha]
        cases inner a with
        | error e => rfl
        | ok t =>
          show Except.ok _ = Except.ok _
          rw [h']
          simp only [String.append_assoc]

end Surrounds

/-! ## Ways -/

/-- The way to a place in a value: through items of lists and arguments of functions. -/
inductive Way where
  | here
  | item (tuple : Bool) (before : List Value) (way : Way) (after : List Value)
  | argument (before : List (Value × Value)) (function : String) (way : Way)
    (after : List (Value × Value))
  deriving Repr

namespace Way

variable {u v : Value}

/-- The value with something in the place. -/
def fill : Way → Value → Value
  | .here, v => v
  | .item tuple before way after, v => .sequence tuple (before ++ way.fill v :: after)
  | .argument before function way after, v =>
    .mapping (before ++ (.text function, way.fill v) :: after)

/-- The role of the place in a value that has a role. -/
def role : Way → Role → Role
  | .here, r => r
  | .item _ before way _, r => way.role (r.ofItem before.length)
  | .argument _ function way _, _ => way.role (.argument function none)

theorem isAbsent_fill (hv : v.isAbsent = false) (w : Way) : (w.fill v).isAbsent = false := by
  cases w with
  | here => exact hv
  | item tuple before way after => exact Value.isAbsent_sequence tuple _
  | argument before function way after => rfl

theorem isSequence_fill (h : u.isSequence = v.isSequence) (w : Way) :
    (w.fill u).isSequence = (w.fill v).isSequence := by
  cases w with
  | here => exact h
  | item tuple before way after => simp only [fill, Value.isSequence_sequence]
  | argument before function way after => rfl

/-- The text around a place is the same whatever stands there, if lists stand for lists only. -/
theorem text_fill (property : String) (u : Value) (w : Way) (r : Role) :
    Surrounds (fun v => v.isAbsent = false ∧ v.isSequence = u.isSequence)
      (fun v => (w.role r).text property v) (fun v => r.text property (w.fill v)) := by
  induction w generalizing r with
  | here => exact .refl
  | item tuple before way after ih =>
    by_cases hr : r = .innerItem
    · subst hr
      refine .inl fun v _ => ⟨.nesting property 3, ?_⟩
      show Role.innerItem.text property (.sequence tuple _) = _
      rw [Role.text, Role.texts_innerItem_sequence]
      rfl
    · have filled (v : Value) (hv : v.isAbsent = false ∧ v.isSequence = u.isSequence) :
          r.text property (.sequence tuple (before ++ way.fill v :: after)) = do
            let own ← r.itemTexts property 0 before
            let t ← (r.ofItem before.length).text property (way.fill v)
            let more ← r.itemTexts property (before.length + 1) after
            return (r.separator property
              ((before ++ way.fill u :: after).any Value.isSequence)).intercalate
                (own ++ ("" ++ t ++ "") :: more) := by
        have nested : (before ++ way.fill v :: after).any Value.isSequence =
            (before ++ way.fill u :: after).any Value.isSequence := by
          simp only [List.any_append, List.any_cons, isSequence_fill hv.2 way]
        rw [Role.text_sequence hr (isAbsent_fill hv.1 way), nested]
        simp only [String.empty_append, String.append_empty]
      exact (ih (r.ofItem before.length)).among filled
  | argument before function way after ih =>
    exact (ih (.argument function none)).among fun v _ => Role.text_mapping function before after

/-- Around a place in a value that formats there is a text before it and a text after it. -/
theorem exists_text_around {property : String} {w : Way} {text : Option String}
    (hu : u.isAbsent = false) (h : format property (w.fill u) = .ok text) :
    ∃ before after, ∀ v, v.isAbsent = false → v.isSequence = u.isSequence →
      format property (w.fill v) = do
        return some (before ++ (← (w.role .value).text property v) ++ after) := by
  rw [Role.format_eq_text (isAbsent_fill hu w)] at h
  rcases text_fill property u w .value with refused | ⟨before, after, around⟩
  · obtain ⟨e, he⟩ := refused u ⟨hu, rfl⟩
    have he : Role.value.text property (w.fill u) = .error e := he
    rw [he] at h
    cases h
  · refine ⟨before, after, fun v hv hs => ?_⟩
    have hv' : Role.value.text property (w.fill v) = _ := around v ⟨hv, hs⟩
    rw [Role.format_eq_text (isAbsent_fill hv w), hv']
    simp

end Way
end Stylesheet
