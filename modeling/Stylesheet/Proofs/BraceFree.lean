import Stylesheet.Proofs.Braces
import Stylesheet.Proofs.Numerals
import Stylesheet.Proofs.PropertyNames
import Stylesheet.Proofs.WellFormed
/-!
# Text without braces

Numbers, units, separators, hyphenated names and names made from selectors hold no brace. So what is
written for a value, an animation or a selector holds none unless a text in it does
(`Value.Plain.writesFree`).
-/

namespace Stylesheet

/-- Text without braces. -/
def BraceFree (s : String) : Prop := NoBrace s.toList

instance (s : String) : Decidable (BraceFree s) := inferInstanceAs (Decidable (NoBrace s.toList))

/-! ## Texts put together -/

namespace NoBrace

theorem nil : NoBrace [] := fun c hc => by cases hc

theorem cons {c : Char} {cs : List Char} (hc : c ≠ '\x7b' ∧ c ≠ '\x7d') (h : NoBrace cs) :
    NoBrace (c :: cs) := List.forall_mem_cons.2 ⟨hc, h⟩

theorem replicate {c : Char} (hc : c ≠ '\x7b' ∧ c ≠ '\x7d') (n : Nat) :
    NoBrace (List.replicate n c) := fun d hd => by
  rw [List.eq_of_mem_replicate hd]
  exact hc

theorem of_subset {a b : List Char} (h : NoBrace b) (hs : a ⊆ b) : NoBrace a :=
  fun c hc => h c (hs hc)

end NoBrace

namespace BraceFree

theorem append {a b : String} (ha : BraceFree a) (hb : BraceFree b) : BraceFree (a ++ b) := by
  rw [BraceFree, String.toList_append]
  exact NoBrace.append ha hb

theorem ofList {cs : List Char} (h : NoBrace cs) : BraceFree (String.ofList cs) := by
  rw [BraceFree, String.toList_ofList]
  exact h

theorem intercalate {separator : String} {ts : List String} (hs : BraceFree separator)
    (h : ∀ t ∈ ts, BraceFree t) : BraceFree (separator.intercalate ts) :=
  forall_mem_intercalate hs h

end BraceFree

/-! ## Numbers -/

theorem Numeric.noBrace {cs : List Char} (h : Numeric cs) : NoBrace cs := fun c hc => by
  have numeric := h c hc
  constructor <;> rintro rfl <;> revert numeric <;> decide

theorem braceFree_int (n : Int) : BraceFree (toString n) := (Numeric.int n).noBrace

theorem Binary64.braceFree_text (x : Binary64) : BraceFree x.text := x.numeric_text.noBrace

theorem Scalar.braceFree_display {s : Scalar} (h : s.All BraceFree) : BraceFree s.display := by
  cases s with
  | absent => decide
  | bool b => cases b <;> decide
  | int n => exact braceFree_int n
  | float x => exact x.braceFree_text
  | text t => exact h

theorem Scalar.braceFree_numberText {s : Scalar} (h : s.All BraceFree) :
    BraceFree s.numberText := by
  unfold numberText
  split
  · split
    · exact braceFree_int _
    · exact Binary64.braceFree_text _
  · exact s.braceFree_display h

/-! ## The catalogue -/

/-- The texts that a formatter adds. -/
def Formatter.texts : Formatter → List String
  | .unit u _ => [u]
  | .fallback default => [default]
  | .unitOr u default => [u, default]

theorem Text.braceFree_strip {s : String} (h : BraceFree s) : BraceFree (Text.strip s) := by
  refine BraceFree.ofList (h.of_subset fun c hc => ?_)
  have := List.dropWhile_subset _ (List.mem_reverse.1 hc)
  exact List.dropWhile_subset _ (List.mem_reverse.1 this)

theorem Formatter.braceFree_withUnit {u : String} (hu : BraceFree u) (coerce : Bool) {s : Scalar}
    (h : s.All BraceFree) : ∀ t ∈ withUnit u coerce s, BraceFree t := by
  unfold withUnit
  split
  · simp
  · rintro _ ⟨⟩
    exact (braceFree_int _).append hu
  · rintro _ ⟨⟩
    exact (Scalar.braceFree_numberText h).append hu
  · rintro _ ⟨⟩
    split
    · exact (Text.braceFree_strip h).append hu
    · exact h
  · rintro _ ⟨⟩
    exact Scalar.braceFree_display h

/-- A formatter adds no braces to a scalar. -/
theorem Formatter.braceFree_apply {f : Formatter} (hf : ∀ t ∈ f.texts, BraceFree t) {s : Scalar}
    (h : s.All BraceFree) : ∀ t ∈ f.apply s, BraceFree t := by
  cases f with
  | unit u coerce => exact braceFree_withUnit (hf u List.mem_cons_self) coerce h
  | fallback default =>
    rintro _ ⟨⟩
    unfold withFallback
    split
    · exact hf default List.mem_cons_self
    · exact Scalar.braceFree_display h
  | unitOr u default =>
    rintro _ ⟨⟩
    cases hw : withUnit u false s with
    | none => exact hf default (.tail _ List.mem_cons_self)
    | some t => exact braceFree_withUnit (hf u List.mem_cons_self) false h t hw

namespace Catalogue

theorem braceFree_propertyFormatter (name : String) :
    ∀ t ∈ (propertyFormatter name).texts, BraceFree t := by
  have listed : ∀ e ∈ propertyFormatters, ∀ t ∈ e.2.texts, BraceFree t := by decide
  exact of_propertyFormatters (p := fun f => ∀ t ∈ f.texts, BraceFree t) listed (by decide) name

theorem braceFree_functionFormatter {function : String} {position : Nat} {f : Formatter}
    (h : functionFormatter? function position = some f) : ∀ t ∈ f.texts, BraceFree t := by
  have listed : ∀ e ∈ functionFormatters, ∀ f ∈ e.2, ∀ t ∈ f.texts, BraceFree t := by decide
  exact of_functionFormatters (p := fun f => ∀ t ∈ f.texts, BraceFree t) listed h

theorem braceFree_separators (name : String) : ∀ t ∈ separators name, BraceFree t := by
  have listed : ∀ e ∈ propertySeparators, ∀ t ∈ e.2, BraceFree t := by decide
  exact of_propertySeparators (p := fun _ ts => ∀ t ∈ ts, BraceFree t) listed fun _ => by decide

theorem braceFree_innerSeparator (name : String) : BraceFree (innerSeparator name) := by
  have listed := braceFree_separators name
  unfold innerSeparator
  cases h : separators name with
  | nil => decide
  | cons t rest => exact listed t (h ▸ List.mem_cons_self)

theorem braceFree_outerSeparator (name : String) (nested : Bool) :
    BraceFree (outerSeparator name nested) := by
  have listed := braceFree_separators name
  unfold outerSeparator
  split
  · cases h : separators name with
    | nil => decide
    | cons t rest =>
      rw [h] at listed
      exact listed _ (List.getLast_mem (List.cons_ne_nil t rest))
  · exact braceFree_innerSeparator name

end Catalogue

/-! ## Names -/

namespace Casing

theorem noBrace_hyphenate {c : Char} (h : c ≠ '\x7b' ∧ c ≠ '\x7d') : NoBrace (hyphenate c) := by
  unfold hyphenate
  split
  · rename_i hu
    obtain ⟨hn, hl, hr⟩ := toNat_toLower hu
    refine NoBrace.cons (by decide) (NoBrace.cons ?_ NoBrace.nil)
    -- A capital becomes a character from 97 to 122, and the braces are 123 and 125.
    constructor <;> intro he <;> rw [he] at hn <;> simp at hn <;> omega
  · split
    · decide
    · exact NoBrace.cons h NoBrace.nil

theorem noBrace_flatMap {cs : List Char} (h : NoBrace cs) : NoBrace (cs.flatMap hyphenate) :=
  fun d hd => by
    obtain ⟨c, hc, hd⟩ := List.mem_flatMap.1 hd
    exact noBrace_hyphenate (h c hc) d hd

theorem braceFree_kebab {name : String} (h : BraceFree name) : BraceFree (kebab name) := by
  refine BraceFree.ofList ?_
  unfold BraceFree at h
  unfold kebabChars
  split
  · rename_i hn
    exact hn ▸ h
  · rename_i c rest hn
    rw [hn] at h
    have tail : NoBrace ((c :: rest).flatMap hyphenate) := noBrace_flatMap
      fun d hd => h d (List.mem_cons_of_mem _ (List.mem_cons_of_mem _ hd))
    split
    · exact NoBrace.append (a := ['-', 'm', 's']) (by decide) tail
    · exact NoBrace.append (a := ['m', 's']) (by decide) tail
  · exact noBrace_flatMap h

theorem braceFree_functionName {name : String} (h : BraceFree name) :
    BraceFree (functionName name) := by
  refine BraceFree.ofList ?_
  unfold BraceFree at h
  generalize name.toList = cs at h
  induction cs with
  | nil => exact NoBrace.nil
  | cons c rest ih =>
    obtain ⟨hc, hrest⟩ := List.forall_mem_cons.1 h
    rw [functionChars]
    refine NoBrace.append ?_ (ih hrest)
    split
    · exact NoBrace.cons hc NoBrace.nil
    · exact noBrace_hyphenate hc

end Casing

/-! ## What comes out -/

/-- Whatever comes out satisfies `p`. -/
def Yields {α : Type} (p : α → Prop) (x : Except Failure α) : Prop := ∀ a, x = .ok a → p a

namespace Yields

variable {α β γ : Type} {p : α → Prop} {q : β → Prop} {r : γ → Prop} {x : Except Failure α}

theorem ok {a : α} (h : p a) : Yields p (.ok a) := by
  rintro _ ⟨⟩
  exact h

theorem error {e : Failure} : Yields p (.error e) := by
  rintro _ ⟨⟩

theorem unlessTooLong {a : α} (tooLong : Bool) (h : p a) :
    Yields p (Failure.unlessTooLong tooLong a) := fun b hb => by
  obtain ⟨-, rfl⟩ := Failure.unlessTooLong_eq_ok.1 hb
  exact h

theorem bind {f : α → Except Failure β} (hx : Yields p x) (hf : ∀ a, p a → Yields q (f a)) :
    Yields q (x >>= f) := fun b hb => by
  obtain ⟨a, ha, hb⟩ := Failure.bind_eq_ok.1 hb
  exact hf a (hx a ha) b hb

theorem map {g : α → β} (hx : Yields p x) (hg : ∀ a, p a → q (g a)) :
    Yields q (do return g (← x)) := hx.bind fun a ha => .ok (hg a ha)

theorem both {y : Except Failure β} {g : α → β → γ} (hx : Yields p x) (hy : Yields q y)
    (hg : ∀ a b, p a → q b → r (g a b)) : Yields r (do let a ← x; let b ← y; return g a b) :=
  hx.bind fun a ha => hy.map fun b hb => hg a b ha hb

end Yields

/-- A text that may be missing, without braces. -/
def BraceFreeOption (t : Option String) : Prop := ∀ s ∈ t, BraceFree s

/-- Texts without braces. -/
def BraceFreeAll (ts : List String) : Prop := ∀ t ∈ ts, BraceFree t

theorem BraceFreeOption.toList {t : Option String} (h : BraceFreeOption t) :
    BraceFreeAll t.toList := fun s hs => h s (Option.mem_toList.1 hs)

theorem BraceFreeAll.append {ts us : List String} (ht : BraceFreeAll ts) (hu : BraceFreeAll us) :
    BraceFreeAll (ts ++ us) := List.forall_mem_append.2 ⟨ht, hu⟩

theorem BraceFreeAll.optionAppend {t : Option String} {us : List String} (ht : BraceFreeOption t)
    (hu : BraceFreeAll us) : BraceFreeAll (t.toList ++ us) := ht.toList.append hu

/-! ## Values -/

theorem braceFree_formatScalar (property : String) {s : Scalar} (h : s.All BraceFree) :
    BraceFreeOption (formatScalar property s) :=
  Formatter.braceFree_apply (Catalogue.braceFree_propertyFormatter _) h

theorem braceFree_formatParameter (property function : String) (position : Nat) {s : Scalar}
    (h : s.All BraceFree) : BraceFreeOption (formatParameter property function position s) := by
  unfold formatParameter
  split
  · rename_i f hf
    exact Formatter.braceFree_apply (Catalogue.braceFree_functionFormatter hf) h
  · exact braceFree_formatScalar property h

theorem braceFree_joinItems (property : String) (items : List Value) {parts : List String}
    (h : BraceFreeAll parts) : BraceFree (joinItems property items parts) :=
  .intercalate (Catalogue.braceFree_outerSeparator _ _) h

theorem braceFree_joinInner (property : String) {parts : List String} (h : BraceFreeAll parts) :
    BraceFree (joinInner property parts) :=
  .intercalate (Catalogue.braceFree_innerSeparator _) h

theorem braceFree_varText {name : String} {fallback : Option String} (hn : BraceFree name)
    (h : BraceFreeOption fallback) : BraceFree (varText name fallback) := by
  have opened : BraceFree ("var(" ++ name) := BraceFree.append (by decide) hn
  unfold varText
  split
  · exact opened.append (by decide)
  · rename_i t
    split
    · exact opened.append (by decide)
    · exact ((opened.append (by decide)).append (h t rfl)).append (by decide)

theorem formatItems_braceFree {property : String} {items : List Value}
    (h : ∀ v ∈ items, Yields BraceFreeAll (formatItem property v)) :
    Yields BraceFreeAll (formatItems property items) := by
  induction items with
  | nil => exact .ok (by simp [BraceFreeAll])
  | cons v rest ih =>
    obtain ⟨hv, hrest⟩ := List.forall_mem_cons.1 h
    rw [formatItems_cons]
    exact hv.both (ih hrest) fun _ _ => BraceFreeAll.append

theorem formatInner_braceFree {property : String} {items : List Value}
    (h : ∀ v ∈ items, Yields BraceFreeAll (formatItem property v)) :
    Yields BraceFreeAll (formatInner property items) := by
  induction items with
  | nil => exact .ok (by simp [BraceFreeAll])
  | cons v rest ih =>
    obtain ⟨hv, hrest⟩ := List.forall_mem_cons.1 h
    rw [formatInner_cons]
    refine Yields.both ?_ (ih hrest) fun _ _ => BraceFreeAll.append
    cases hs : v.isSequence with
    | false =>
      rw [formatInnerItem_eq_formatItem hs]
      exact hv
    | true =>
      cases v with
      | list items | tuple items => exact .error
      | _ => cases hs

theorem formatArguments_braceFree {property function : String} {items : List Value}
    (h : ∀ v ∈ items, ∀ position,
      Yields BraceFreeOption (formatArgument property function position v))
    (position : Nat) (advance : Bool) :
    Yields BraceFreeAll (formatArguments property function position advance items) := by
  induction items generalizing position with
  | nil => exact .ok (by simp [BraceFreeAll])
  | cons v rest ih =>
    obtain ⟨hv, hrest⟩ := List.forall_mem_cons.1 h
    rw [formatArguments]
    exact (hv _).both (ih hrest _) fun _ _ => BraceFreeAll.optionAppend

theorem formatCalls_braceFree {property : String} {entries : List (Value × Value)}
    (hk : ∀ e ∈ entries, TextOf BraceFree e.1)
    (hv : ∀ e ∈ entries, ∀ function,
      Yields BraceFreeOption (formatArgument property function none e.2)) :
    Yields BraceFreeAll (formatCalls property entries) := by
  induction entries with
  | nil => exact .ok (by simp [BraceFreeAll])
  | cons e rest ih =>
    obtain ⟨⟨function, hf, hname⟩, hks⟩ := List.forall_mem_cons.1 hk
    obtain ⟨he, hvs⟩ := List.forall_mem_cons.1 hv
    obtain ⟨k, v⟩ := e
    obtain rfl : k = .text function := hf
    rw [formatCalls_cons]
    refine Yields.both (p := BraceFree) ?_ (ih hks hvs) fun _ _ => ?_
    · refine (he function).map fun arguments ha => ?_
      have name := Casing.braceFree_functionName hname
      refine BraceFree.append (BraceFree.append (name.append (by decide)) ?_) (by decide)
      cases arguments with
      | none => decide
      | some t => exact ha t rfl
    · exact fun hc hm => List.forall_mem_cons.2 ⟨hc, hm⟩

/-- What is written for a value holds no brace, for every property, as an item and as an argument
too. -/
structure Value.WritesFree (v : Value) : Prop where
  value : ∀ property, Yields BraceFreeOption (format property v)
  item : ∀ property, Yields BraceFreeAll (formatItem property v)
  argument : ∀ property function position,
    Yields BraceFreeOption (formatArgument property function position v)

theorem formatItem_braceFree {v : Value} (hs : v.isSequence = false)
    (h : ∀ property, Yields BraceFreeOption (format property v)) (property : String) :
    Yields BraceFreeAll (formatItem property v) := by
  cases ha : v.isAbsent with
  | true =>
    obtain rfl := Value.isAbsent_iff.1 ha
    exact .ok (by simp [BraceFreeAll])
  | false =>
    rw [formatItem_eq_format hs ha]
    exact (h property).map fun _ => BraceFreeOption.toList

theorem braceFreeOption_some {t : String} (h : BraceFree t) : BraceFreeOption (some t) := by
  rintro _ ⟨⟩
  exact h

/-- A plain value without braces is written without braces. -/
theorem Value.Plain.writesFree {v : Value} (h : v.Plain BraceFree) : v.WritesFree := by
  induction h with
  | @scalar s hs =>
    have value (property : String) : Yields BraceFreeOption (format property (.scalar s)) := by
      rw [format]
      exact .unlessTooLong _ (braceFree_formatScalar property hs)
    refine ⟨value, formatItem_braceFree rfl value, fun property function position => ?_⟩
    rw [formatArgument]
    exact .unlessTooLong _ (braceFree_formatParameter _ _ _ hs)
  | @list items _ ih | @tuple items _ ih =>
    refine ⟨fun property => ?_, fun property => ?_, fun property function position => ?_⟩
    · rw [format]
      exact (formatItems_braceFree fun v hv => (ih v hv).item property).map fun _ hp =>
        braceFreeOption_some (braceFree_joinItems property items hp)
    · rw [formatItem]
      exact (formatInner_braceFree fun v hv => (ih v hv).item property).map fun _ hp =>
        List.forall_mem_singleton.2 (braceFree_joinInner property hp)
    · rw [formatArgument]
      refine (formatArguments_braceFree (fun v hv => (ih v hv).argument property function) _ _).map
        fun _ hp => braceFreeOption_some (.intercalate ?_ hp)
      unfold parameterSeparator
      split <;> decide
  | @mapping entries hk _ ih =>
    have calls (property : String) : Yields BraceFreeAll (formatCalls property entries) :=
      formatCalls_braceFree hk fun e he function => (ih e he).argument property function none
    have joined : ∀ texts, BraceFreeAll texts → BraceFreeOption (some (" ".intercalate texts)) :=
      fun _ ht => braceFreeOption_some (.intercalate (by decide) ht)
    have value (property : String) :
        Yields BraceFreeOption (format property (.mapping entries)) := by
      rw [format]
      exact (calls property).map joined
    refine ⟨value, formatItem_braceFree rfl value, fun property function position => ?_⟩
    rw [formatArgument]
    exact (calls property).map joined
  | @«variable» name declared fallback hn _ ih =>
    -- The fallback is formatted for the property that is declared, so all of them are needed.
    have reference (property : String) : Yields BraceFreeOption
        (format property (.variable name declared fallback)) := by
      rw [format]
      split
      · exact .ok (braceFreeOption_some (braceFree_varText hn (by simp [BraceFreeOption])))
      · exact (ih.value _).map fun _ ht => braceFreeOption_some (braceFree_varText hn ht)
    refine ⟨reference, formatItem_braceFree rfl reference, fun property function position => ?_⟩
    have := reference property
    rw [format] at this
    rw [formatArgument]
    exact this
  | @handle name payload flag hn =>
    have value (property : String) :
        Yields BraceFreeOption (format property (.handle name payload flag)) := by
      rw [format]
      exact .ok (braceFreeOption_some hn)
    refine ⟨value, formatItem_braceFree rfl value, fun property function position => ?_⟩
    rw [formatArgument]
    exact .ok (braceFreeOption_some hn)

end Stylesheet
