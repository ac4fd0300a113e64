import Stylesheet.Proofs.FallbackText
import Stylesheet.Proofs.LongNumbers
import Stylesheet.Proofs.NodeFields
import Stylesheet.Proofs.SelfReference
/-!
# Animation values without definitions

An `animation` key writes what is no definition by itself, item by item, where the formatter of
values leaves out what is missing and formats fallbacks for the property that is set. The two come
to the same text just if no item is missing and no fallback is a number that its variable writes in
another unit than `px` (`resolveAnimation_eq_format_iff`). Why not otherwise is seen by counting: an
item that is missing is written with an `N` and a fallback that changes its unit loses a `p`, and
nothing makes up for either. Numbers that are too long keep both from writing anything.
-/

namespace Stylesheet

/-! ## Counting characters -/

/-- How often a character occurs in a text. -/
def occurrences (c : Char) (t : String) : Nat := t.toList.count c

/-- How often a character occurs in texts. -/
def totalOccurrences (c : Char) (ts : List String) : Nat := (ts.flatMap String.toList).count c

section Counting

variable {c : Char}

theorem occurrences_append (c : Char) (t u : String) :
    occurrences c (t ++ u) = occurrences c t + occurrences c u := by
  rw [occurrences, String.toList_append, List.count_append]
  rfl

theorem occurrences_intercalate (hc : occurrences c ", " = 0) (ts : List String) :
    occurrences c (", ".intercalate ts) = totalOccurrences c ts := by
  induction ts with
  | nil => rfl
  | cons t rest ih =>
    cases rest with
    | nil => simp [totalOccurrences, occurrences]
    | cons u more =>
      rw [String.intercalate_cons_cons, occurrences_append, occurrences_append, ih, hc]
      simp only [totalOccurrences, occurrences, List.flatMap_cons, List.count_append, Nat.add_zero]

theorem totalOccurrences_append (c : Char) (ts us : List String) :
    totalOccurrences c (ts ++ us) = totalOccurrences c ts + totalOccurrences c us := by
  simp [totalOccurrences]

theorem totalOccurrences_singleton (c : Char) (t : String) :
    totalOccurrences c [t] = occurrences c t := by
  simp [totalOccurrences, occurrences]

/-- The text of a fallback adds its characters to those of the reference. -/
theorem occurrences_varText (hc : occurrences c ", " = 0) (name t : String) :
    occurrences c (varText name (some t)) =
      occurrences c ("var(" ++ name ++ ")") + occurrences c t := by
  rw [varText]
  by_cases ht : t = ""
  · rw [if_pos ht, ht]
    rfl
  · rw [if_neg ht]
    simp only [occurrences_append, hc]
    omega

/-- Text with neither of the two letters that are counted below. -/
def Letterless (t : String) : Prop := occurrences 'N' t = 0 ∧ occurrences 'p' t = 0

instance (t : String) : Decidable (Letterless t) := inferInstanceAs (Decidable (_ ∧ _))

theorem Letterless.append {t u : String} (ht : Letterless t) (hu : Letterless u) :
    Letterless (t ++ u) := by
  constructor
  · rw [occurrences_append, ht.1, hu.1]
  · rw [occurrences_append, ht.2, hu.2]

theorem Numeric.letterless {t : String} (h : Numeric t.toList) : Letterless t := by
  have not (c : Char) (hc : isNumeric c = false) : occurrences c t = 0 :=
    List.count_eq_zero.2 fun hm => Bool.false_ne_true (hc.symm.trans (h c hm))
  exact ⟨not 'N' (by decide), not 'p' (by decide)⟩

end Counting

/-! ## Texts that are compared -/

/-- How texts that items have by themselves compare with those they are set to: one letter `N` more
for each gap, an item that is missing, one letter `p` less for each loss of a unit, and the same if
there are none of either. -/
structure Tally (own set : List String) (gaps losses : Nat) : Prop where
  gap : totalOccurrences 'N' own = totalOccurrences 'N' set + gaps
  loss : totalOccurrences 'p' set = totalOccurrences 'p' own + losses
  same : gaps = 0 → losses = 0 → own = set

namespace Tally

variable {own set own' set' : List String} {gaps losses gaps' losses' : Nat}

theorem refl (ts : List String) : Tally ts ts 0 0 := ⟨rfl, rfl, fun _ _ => rfl⟩

theorem append (h : Tally own set gaps losses) (h' : Tally own' set' gaps' losses') :
    Tally (own ++ own') (set ++ set') (gaps + gaps') (losses + losses') where
  gap := by
    rw [totalOccurrences_append, totalOccurrences_append, h.gap, h'.gap]
    omega
  loss := by
    rw [totalOccurrences_append, totalOccurrences_append, h.loss, h'.loss]
    omega
  same hg hl := by rw [h.same (by omega) (by omega), h'.same (by omega) (by omega)]

/-- The texts are joined to the same just if there is no gap and no loss. -/
theorem intercalate_eq_iff (h : Tally own set gaps losses) :
    ", ".intercalate own = ", ".intercalate set ↔ gaps = 0 ∧ losses = 0 := by
  constructor
  · intro same
    have letters (c : Char) (hc : occurrences c ", " = 0) :
        totalOccurrences c own = totalOccurrences c set := by
      rw [← occurrences_intercalate hc, same, occurrences_intercalate hc]
    have := h.gap
    have := h.loss
    have := letters 'N' (by decide)
    have := letters 'p' (by decide)
    omega
  · rintro ⟨hg, hl⟩
    rw [h.same hg hl]

/-- References compare as their fallbacks do. -/
theorem varText {own set : String} (h : Tally [own] [set] 0 losses) (name : String) :
    Tally [Stylesheet.varText name (some own)] [Stylesheet.varText name (some set)] 0 losses where
  gap := by
    have := h.gap
    simp only [totalOccurrences_singleton] at this ⊢
    rw [occurrences_varText (by decide), occurrences_varText (by decide), this, Nat.add_assoc]
  loss := by
    have := h.loss
    simp only [totalOccurrences_singleton] at this ⊢
    rw [occurrences_varText (by decide), occurrences_varText (by decide), this, Nat.add_assoc]
  same hg hl := by
    obtain rfl : own = set := List.singleton_inj.1 (h.same hg hl)
    rfl

end Tally

/-! ## Scalars for two properties -/

/-- Whether a property writes numbers in `px`. -/
def writesPixels (property : String) : Bool :=
  Catalogue.propertyFormatter (Casing.kebab property) == Catalogue.inUnit "px"

theorem formatScalar_of_writesPixels {property : String} (h : writesPixels property = true)
    (s : Scalar) : formatScalar property s = Formatter.withUnit "px" false s := by
  rw [formatScalar, eq_of_beq h]
  rfl

/-- What is no number is written as it is by a formatter that keeps text. -/
theorem Formatter.apply_of_not_number {f : Formatter} (hf : f.keepsText = true) {s : Scalar}
    (hn : s.isNumber = false) (ha : s ≠ .absent) : f.apply s = some s.display := by
  cases f with
  | unit u coerce =>
    obtain rfl : coerce = false := by simpa [keepsText] using hf
    cases s <;> first | rfl | exact absurd rfl ha | cases hn
  | fallback default => cases s <;> first | rfl | exact absurd rfl ha
  | unitOr u default => cases s <;> first | rfl | exact absurd rfl ha | cases hn

theorem formatScalar_of_not_number {s : Scalar} (hn : s.isNumber = false) (ha : s ≠ .absent)
    (property : String) : formatScalar property s = some s.display :=
  Formatter.apply_of_not_number (Catalogue.keepsText_propertyFormatter _) hn ha

theorem withUnit_of_number {s : Scalar} (h : s.isNumber = true) (u : String) (coerce : Bool) :
    Formatter.withUnit u coerce s = some (s.numberText ++ u) := by
  cases s with
  | int n | float x => rfl
  | _ => cases h

/-- A formatter adds its own texts to a number only. -/
theorem Formatter.exists_letterless {f : Formatter} (hf : ∀ u ∈ f.texts, Letterless u) {s : Scalar}
    (hn : s.isNumber = true) : ∃ t, f.apply s = some t ∧ Letterless t := by
  have number := (Scalar.numeric_numberText hn).letterless
  cases f with
  | unit u coerce =>
    exact ⟨s.numberText ++ u, withUnit_of_number hn u coerce,
      number.append (hf u List.mem_cons_self)⟩
  | fallback default =>
    have shown : withFallback default s = s.display := by
      cases s <;> first | rfl | cases hn
    exact ⟨s.display, congrArg some shown, (Scalar.numeric_display hn).letterless⟩
  | unitOr u default =>
    refine ⟨s.numberText ++ u, ?_, number.append (hf u List.mem_cons_self)⟩
    rw [apply, withUnit_of_number hn]
    rfl

/-- A number that is not written in `px` has neither of the two letters. -/
theorem formatScalar_of_number {s : Scalar} {property : String} (hn : s.isNumber = true)
    (hp : writesPixels property = false) :
    ∃ t, formatScalar property s = some t ∧ Letterless t := by
  have listed : ∀ e ∈ Catalogue.propertyFormatters, ∀ u ∈ e.2.texts, Letterless u := by decide
  have added := Catalogue.of_propertyFormatters
    (p := fun f => (f == Catalogue.inUnit "px") = false → ∀ u ∈ f.texts, Letterless u)
    (fun e he _ => listed e he) (fun h => by simp at h) (Casing.kebab property)
  exact Formatter.exists_letterless (added hp) hn

/-! ## Chains of fallbacks -/

namespace Value

/-- Whether a value is a scalar, or variables in one another down to one. -/
def endsInScalar : Value → Bool
  | .scalar _ => true
  | .variable _ _ fallback => fallback.endsInScalar
  | _ => false

/-- The property that the end of a chain of variables is formatted for by itself: the first that is
declared along the chain. -/
def declaredProperty : Value → String
  | .variable _ declared fallback => settingProperty declared fallback.declaredProperty
  | _ => ""

/-- Whether a number at the end of a chain is not written in `px`, when the chain is formatted for a
property. -/
def losesUnitFor (property : String) (v : Value) : Bool :=
  match v.chainEnd with
  | .scalar s => s.isNumber && !writesPixels (settingProperty property v.declaredProperty)
  | _ => false

/-- Whether a variable by itself writes the number at the end of its chain in another way than in
`px`. -/
def losesUnit (v : Value) : Bool := v.losesUnitFor ""

end Value

theorem settingProperty_empty (p : String) : settingProperty p "" = p := by
  unfold settingProperty
  by_cases hp : p = "" <;> simp [hp]

theorem settingProperty_assoc (p q r : String) :
    settingProperty (settingProperty p q) r = settingProperty p (settingProperty q r) := by
  unfold settingProperty
  by_cases hp : p = "" <;> simp [hp]

theorem losesUnitFor_variable (property name declared : String) (fallback : Value) :
    (Value.variable name declared fallback).losesUnitFor property =
      fallback.losesUnitFor (settingProperty property declared) := by
  simp only [Value.losesUnitFor, Value.chainEnd, Value.declaredProperty, settingProperty_assoc]

/-- A scalar written for a property and for `animation`. -/
theorem tally_scalar {s : Scalar} (ha : s ≠ .absent) (property : String) :
    ∃ own set, format property (.scalar s) = Failure.unlessTooLong s.isTooLong (some own) ∧
      format animationKey (.scalar s) = Failure.unlessTooLong s.isTooLong (some set) ∧
      Tally [own] [set] 0 ((Value.scalar s).losesUnitFor property).toNat := by
  have pixels : formatScalar animationKey s = Formatter.withUnit "px" false s :=
    formatScalar_of_writesPixels (by decide) s
  simp only [format, Value.losesUnitFor, Value.chainEnd, Value.declaredProperty,
    settingProperty_empty]
  cases hn : s.isNumber with
  | false =>
    exact ⟨s.display, s.display, by rw [formatScalar_of_not_number hn ha],
      by rw [formatScalar_of_not_number hn ha], .refl _⟩
  | true =>
    rw [pixels, withUnit_of_number hn]
    cases hp : writesPixels property with
    | true =>
      refine ⟨_, _, ?_, rfl, .refl _⟩
      rw [formatScalar_of_writesPixels hp, withUnit_of_number hn]
    | false =>
      obtain ⟨t, ht, letterless⟩ := formatScalar_of_number hn hp
      have digits := (Scalar.numeric_numberText hn).letterless
      refine ⟨t, _, by rw [ht], rfl, ?_, ?_, fun _ hl => absurd hl (by decide)⟩
      · rw [totalOccurrences_singleton, totalOccurrences_singleton, occurrences_append,
          letterless.1, digits.1]
        rfl
      · rw [totalOccurrences_singleton, totalOccurrences_singleton, occurrences_append,
          letterless.2, digits.2]
        rfl

/-- A chain of fallbacks written for a property and for `animation`. -/
theorem tally_chain {v : Value} (hv : v.endsInScalar = true) (ha : v.isAbsent = false)
    (property : String) :
    ∃ own set, format property v = Failure.unlessTooLong v.formatsTooLong (some own) ∧
      format animationKey v = Failure.unlessTooLong v.formatsTooLong (some set) ∧
      Tally [own] [set] 0 (v.losesUnitFor property).toNat := by
  induction v using Value.inductionOn generalizing property with
  | scalar s =>
    refine tally_scalar (fun hs => ?_) property
    rw [hs] at ha
    cases ha
  | «variable» name declared fallback ih =>
    rw [losesUnitFor_variable]
    have set : settingProperty animationKey declared = animationKey := rfl
    simp only [format, set, Value.formatsTooLong]
    cases hf : fallback.isAbsent with
    | true =>
      obtain rfl := Value.isAbsent_iff.1 hf
      exact ⟨_, _, rfl, rfl, .refl _⟩
    | false =>
      obtain ⟨own, set, hown, hset, tally⟩ := ih hv hf (settingProperty property declared)
      exact ⟨_, _, by rw [hown]; exact Failure.map_unlessTooLong .., by
        rw [hset]; exact Failure.map_unlessTooLong .., tally.varText name⟩
  | _ => cases hv

/-! ## Items and lists -/

namespace Value

/-- What may stand among animations without a definition: text, a handle, a variable whose chain
ends in a scalar, or nothing. -/
def isBareAnimation : Value → Bool
  | .absent | .text _ | .handle _ _ _ => true
  | .variable _ _ fallback => fallback.endsInScalar
  | _ => false

/-- An animation value without definitions: one such item, or a list of them. -/
def isDefinitionFree : Value → Bool
  | .list items | .tuple items => items.all isBareAnimation
  | v => !v.isAbsent && v.isBareAnimation

end Value

/-- A variable by itself is formatted for no property. -/
theorem format_eq_display (name declared : String) (fallback : Value) :
    format "" (.variable name declared fallback) =
      do return some (← (Value.variable name declared fallback).display) := by
  have own : settingProperty "" declared = declared := rfl
  rw [format, own, Value.display]
  split
  · rfl
  · simp

theorem eq_unlessTooLong_of_map_some {α : Type} {x : Except Failure α} {long : Bool} {a : α}
    (h : (do return some (← x)) = Failure.unlessTooLong long (some a)) :
    x = Failure.unlessTooLong long a := by
  cases x <;> cases long <;> cases h <;> rfl

/-- An animation that is there, by itself and as it is set. -/
theorem tally_present {v : Value} (hv : v.isBareAnimation = true) (ha : v.isAbsent = false) :
    ∃ own set, v.display = Failure.unlessTooLong v.formatsTooLong own ∧
      format animationKey v = Failure.unlessTooLong v.formatsTooLong (some set) ∧
      Tally [own] [set] 0 v.losesUnit.toNat := by
  cases v with
  | scalar s =>
    cases s with
    | absent => cases ha
    | text t => exact ⟨t, t, rfl, rfl, .refl _⟩
    | _ => cases hv
  | «variable» name declared fallback =>
    obtain ⟨own, set, hown, hset, tally⟩ :=
      tally_chain (v := .variable name declared fallback) hv rfl ""
    rw [format_eq_display] at hown
    exact ⟨own, set, eq_unlessTooLong_of_map_some hown, hset, tally⟩
  | handle name payload flag => exact ⟨name, name, rfl, rfl, .refl _⟩
  | _ => cases hv

theorem isSequence_of_isBareAnimation {v : Value} (hv : v.isBareAnimation = true) :
    v.isSequence = false := by
  cases v with
  | list items | tuple items => cases hv
  | _ => rfl

/-- An item of a list by itself and as it is set. -/
theorem tally_item {v : Value} (hv : v.isBareAnimation = true) :
    ∃ own sets, v.display = Failure.unlessTooLong v.formatsTooLong own ∧
      formatItem animationKey v = Failure.unlessTooLong v.formatsTooLong sets ∧
      Tally [own] sets v.isAbsent.toNat v.losesUnit.toNat := by
  cases ha : v.isAbsent with
  | true =>
    obtain rfl := Value.isAbsent_iff.1 ha
    exact ⟨"None", [], rfl, rfl, by decide, by decide, fun hg => absurd hg (by decide)⟩
  | false =>
    obtain ⟨own, set, hown, hset, tally⟩ := tally_present hv ha
    refine ⟨own, [set], hown, ?_, tally⟩
    rw [formatItem_eq_format (isSequence_of_isBareAnimation hv) ha, hset]
    exact Failure.map_unlessTooLong ..

/-- The items of a list by themselves and as they are set. -/
theorem tally_items {items : List Value} (h : ∀ v ∈ items, v.isBareAnimation = true) :
    ∃ texts sets,
      displayAll items = Failure.unlessTooLong (items.any Value.formatsTooLong) texts ∧
      formatItems animationKey items =
        Failure.unlessTooLong (items.any Value.formatsTooLong) sets ∧
      Tally texts sets (items.countP Value.isAbsent) (items.countP Value.losesUnit) := by
  induction items with
  | nil => exact ⟨[], [], rfl, rfl, .refl _⟩
  | cons v rest ih =>
    obtain ⟨hv, hrest⟩ := List.forall_mem_cons.1 h
    obtain ⟨own, set, hown, hset, tally⟩ := tally_item hv
    obtain ⟨texts, sets, htexts, hsets, more⟩ := ih hrest
    refine ⟨own :: texts, set ++ sets, ?_, ?_, ?_⟩
    · rw [displayAll, hown, htexts]
      exact Failure.both_unlessTooLong ..
    · rw [formatItems_cons, hset, hsets]
      exact Failure.both_unlessTooLong ..
    · have counts (p : Value → Bool) : (v :: rest).countP p = (p v).toNat + rest.countP p := by
        rw [List.countP_cons, Nat.add_comm]
        cases p v <;> rfl
      rw [counts, counts]
      exact tally.append more

/-! ## Animation values -/

theorem ofItem_of_isBareAnimation {v : Value} (hv : v.isBareAnimation = true) (selector : String)
    (position : Nat) : ResolvedAnimation.ofItem selector position v =
      do return { value := ← v.display } := by
  cases v with
  | mapping entries | animation fields keyframes => cases hv
  | _ => rfl

theorem ofItems_of_isBareAnimation {items : List Value} (h : ∀ v ∈ items, v.isBareAnimation = true)
    (selector : String) (position : Nat) : ResolvedAnimation.ofItems selector position items =
      do return (← displayAll items).map fun t => { value := t } := by
  induction items generalizing position with
  | nil => rfl
  | cons v rest ih =>
    obtain ⟨hv, hrest⟩ := List.forall_mem_cons.1 h
    rw [ResolvedAnimation.ofItems, ofItem_of_isBareAnimation hv, ih hrest, displayAll]
    simp

theorem join_map_value (texts : List String) :
    ResolvedAnimation.join (texts.map fun t => { value := t }) = ⟨", ".intercalate texts, []⟩ := by
  simp [ResolvedAnimation.join, Function.comp_def]

theorem joinItems_animation (items : List Value) (parts : List String) :
    joinItems animationKey items parts = ", ".intercalate parts := by
  have separator : ∀ nested,
      Catalogue.outerSeparator (Casing.kebab animationKey) nested = ", " := by decide
  rw [joinItems, separator]

section DefinitionFree

variable {v : Value} (hv : v.isDefinitionFree = true)

include hv

/-- Without definitions an animation value is a list, or the one animation in it, which is there. -/
theorem isDefinitionFree_cases : (∃ items, (v = .list items ∨ v = .tuple items) ∧
      ∀ item ∈ items, item.isBareAnimation = true) ∨
    animationItems v = [v] ∧ v.isBareAnimation = true ∧ v.isAbsent = false ∧
      ∀ selector, resolveAnimation selector v = ResolvedAnimation.ofItem selector 0 v := by
  cases v with
  | list items => exact .inl ⟨items, .inl rfl, List.all_eq_true.1 hv⟩
  | tuple items => exact .inl ⟨items, .inr rfl, List.all_eq_true.1 hv⟩
  | _ =>
    simp only [Value.isDefinitionFree, Bool.and_eq_true, Bool.not_eq_true'] at hv
    exact .inr ⟨rfl, hv.2, hv.1, fun selector => rfl⟩

theorem isBareAnimation_of_mem :
    ∀ item ∈ animationItems v, item.isBareAnimation = true := by
  rcases isDefinitionFree_cases hv with ⟨items, rfl | rfl, each⟩ | ⟨hs, hv, -, -⟩
  · exact each
  · exact each
  · rw [hs]
    exact List.forall_mem_singleton.2 hv

/-- An animation value is resolved to its items by themselves, and places nothing. -/
theorem resolveAnimation_of_isDefinitionFree (selector : String) :
    resolveAnimation selector v =
      do return ⟨", ".intercalate (← displayAll (animationItems v)), []⟩ := by
  rcases isDefinitionFree_cases hv with ⟨items, rfl | rfl, each⟩ | ⟨hs, hv, -, resolve⟩
  · simp [resolveAnimation, animationItems, ofItems_of_isBareAnimation each, join_map_value]
  · simp [resolveAnimation, animationItems, ofItems_of_isBareAnimation each, join_map_value]
  · rw [resolve, ofItem_of_isBareAnimation hv, hs, displayAll, displayAll]
    cases v.display with
    | error e => rfl
    | ok t =>
      show Except.ok _ = Except.ok (ResolvedAnimation.mk (", ".intercalate [t]) [])
      rw [String.intercalate_singleton]

/-- The formatter of values joins its items in the same way. -/
theorem format_of_isDefinitionFree : format animationKey v =
    do return some (", ".intercalate (← formatItems animationKey (animationItems v))) := by
  rcases isDefinitionFree_cases hv with ⟨items, rfl | rfl, -⟩ | ⟨hs, hv, ha, -⟩
  · simp only [format, animationItems, joinItems_animation]
  · simp only [format, animationItems, joinItems_animation]
  · obtain ⟨own, set, -, hset, -⟩ := tally_present hv ha
    rw [hs, formatItems_cons, formatItem_eq_format (isSequence_of_isBareAnimation hv) ha, hset]
    cases v.formatsTooLong with
    | true => rfl
    | false =>
      show Except.ok _ = Except.ok (some (", ".intercalate [set]))
      rw [String.intercalate_singleton]

/-- The items of an animation value are all that is written of it. -/
theorem formatsTooLong_animationItems :
    (animationItems v).any Value.formatsTooLong = v.formatsTooLong := by
  rcases isDefinitionFree_cases hv with ⟨items, rfl | rfl, -⟩ | ⟨hs, -⟩
  · rw [Value.formatsTooLong, Value.itemsTooLong_eq_any, animationItems]
  · rw [Value.formatsTooLong, Value.itemsTooLong_eq_any, animationItems]
  · rw [hs, List.any_cons, List.any_nil, Bool.or_false]

/-- An animation value without definitions places no keyframes. Its text is what its items are by
themselves, and it is what the formatter of values writes just if nothing is missing among them and
no variable writes a number in another way than in `px`. With a number that is too long neither
writes anything. -/
theorem resolveAnimation_eq_format_iff (selector : String) :
    ∃ texts set,
      displayAll (animationItems v) = Failure.unlessTooLong v.formatsTooLong texts ∧
      resolveAnimation selector v =
        Failure.unlessTooLong v.formatsTooLong ⟨", ".intercalate texts, []⟩ ∧
      format animationKey v = Failure.unlessTooLong v.formatsTooLong (some set) ∧
      (", ".intercalate texts = set ↔
        ∀ item ∈ animationItems v, item.isAbsent = false ∧ item.losesUnit = false) := by
  obtain ⟨texts, sets, htexts, hsets, tally⟩ :=
    tally_items (isBareAnimation_of_mem hv)
  rw [formatsTooLong_animationItems hv] at htexts hsets
  refine ⟨texts, ", ".intercalate sets, htexts, ?_, ?_, ?_⟩
  · rw [resolveAnimation_of_isDefinitionFree hv, htexts]
    exact Failure.map_unlessTooLong ..
  · rw [format_of_isDefinitionFree hv, hsets]
    exact Failure.map_unlessTooLong ..
  · rw [tally.intercalate_eq_iff, List.countP_eq_zero, List.countP_eq_zero]
    simp [forall_and]

end DefinitionFree

/-- A chain of fallbacks that declares a width first keeps its unit. -/
theorem resolveAnimation_eq_format_iff_width :
    let v : Value := .list [.text "fade 1s", .handle "spin-0" .absent (.fixed false none),
      .variable "--a" "width" (.variable "--b" "opacity" (.scalar (.int 5)))]
    v.isDefinitionFree = true ∧ ∃ text, resolveAnimation ".a" v = .ok ⟨text, []⟩ ∧
      format animationKey v = .ok (some text) := by
  intro v
  have free : v.isDefinitionFree = true := rfl
  obtain ⟨texts, set, -, resolved, formatted, same⟩ := resolveAnimation_eq_format_iff free ".a"
  have agree : ", ".intercalate texts = set := same.2 (by decide)
  exact ⟨free, set, agree ▸ resolved, formatted⟩

/-- A missing item is written as `None`, and a fallback in the unit of the declared property. -/
theorem resolveAnimation_ne_format :
    let gap : Value := .list [.text "fade", .absent]
    let loss : Value := .variable "--d" "animation-duration" (.scalar (.int 200))
    gap.isDefinitionFree = true ∧ loss.isDefinitionFree = true ∧
      resolveAnimation ".a" gap = .ok ⟨"fade, None", []⟩ ∧
      format animationKey gap = .ok (some "fade") ∧
      resolveAnimation ".a" loss = .ok ⟨"var(--d, 200ms)", []⟩ ∧
      format animationKey loss = .ok (some "var(--d, 200px)") := ⟨rfl, rfl, rfl, rfl, rfl, rfl⟩

end Stylesheet
