import Stylesheet.Declaration
import Stylesheet.Proofs.Formatting
/-!
# Properties by their hyphenated names

The hyphenated form of a name is its own hyphenated form (`kebab_kebab`), and a value is formatted
for a property by its hyphenated form only (`format_sameOutcome`): all spellings of a property have
the same units, defaults and separators, in fallbacks and function arguments too. Only a failure
tells them apart, since it names the property as it was spelled.
-/

namespace Stylesheet

/-! ## Hyphenated names -/

namespace Casing

theorem toNat_toLower {c : Char} (h : c.isUpper = true) :
    c.toLower.toNat = c.toNat + 32 ∧ 65 ≤ c.toNat ∧ c.toNat ≤ 90 := by
  have inside : c.val ≥ 'A'.val ∧ c.val ≤ 'Z'.val := of_decide_eq_true h
  have range : 65 ≤ c.toNat ∧ c.toNat ≤ 90 := by
    simpa [UInt32.le_iff_toNat_le] using inside
  have lower : c.toLower.val = c.val + ('a'.val - 'A'.val) := congrArg Char.val (dif_pos inside)
  refine ⟨?_, range⟩
  have : c.val.toNat ≤ 90 := range.2
  rw [Char.toNat, lower, UInt32.toNat_add, Nat.mod_eq_of_lt]
  · simp
  · simp
    omega

/-- A character that hyphenating leaves as it is. -/
def IsPlain (c : Char) : Prop := c.isUpper = false ∧ c ≠ '_'

theorem hyphenate_plain {c : Char} (h : IsPlain c) : hyphenate c = [c] := by
  simp [hyphenate, h.1, h.2]

theorem isPlain_of_mem_hyphenate {c d : Char} (h : d ∈ hyphenate c) : IsPlain d := by
  unfold hyphenate at h
  split at h
  · rename_i hu
    obtain ⟨hn, hl, hr⟩ := toNat_toLower hu
    rcases List.mem_cons.1 h with rfl | h
    · exact ⟨by decide, by decide⟩
    · obtain rfl := List.mem_singleton.1 h
      constructor
      · rw [Bool.eq_false_iff]
        intro hup
        have := (toNat_toLower hup).2
        omega
      · intro he
        have : c.toLower.toNat = 95 := by rw [he]; rfl
        omega
  · rename_i hu
    split at h
    · obtain rfl := List.mem_singleton.1 h
      exact ⟨by decide, by decide⟩
    · rename_i hne
      obtain rfl := List.mem_singleton.1 h
      exact ⟨by simpa using hu, hne⟩

theorem hyphenate_ne_nil (c : Char) : hyphenate c ≠ [] := by
  unfold hyphenate
  split
  · simp
  · split <;> simp

theorem flatMap_hyphenate {cs : List Char} (h : ∀ c ∈ cs, IsPlain c) :
    cs.flatMap hyphenate = cs := by
  induction cs with
  | nil => rfl
  | cons c rest ih =>
    rw [List.flatMap_cons, hyphenate_plain (h c List.mem_cons_self),
      ih fun d hd => h d (List.mem_cons_of_mem _ hd)]
    rfl

theorem isPlain_of_mem_flatMap {cs : List Char} {d : Char} (h : d ∈ cs.flatMap hyphenate) :
    IsPlain d := by
  obtain ⟨c, -, hd⟩ := List.mem_flatMap.1 h
  exact isPlain_of_mem_hyphenate hd

/-- A name that hyphenating leaves as it is: a custom property, or one without capitals and
underscores. -/
def IsHyphenated (cs : List Char) : Prop :=
  (∃ rest, cs = '-' :: '-' :: rest) ∨ ∀ c ∈ cs, IsPlain c

theorem isHyphenated_kebabChars (cs : List Char) : IsHyphenated (kebabChars cs) := by
  unfold kebabChars
  split
  · exact .inl ⟨_, rfl⟩
  · refine .inr fun d hd => ?_
    have front : ∀ c ∈ ['-', 'm', 's'], IsPlain c := by
      simp only [List.forall_mem_cons]
      exact ⟨⟨by decide, by decide⟩, ⟨by decide, by decide⟩, ⟨by decide, by decide⟩, by simp⟩
    split at hd
    · rcases List.mem_append.1 (show d ∈ ['-', 'm', 's'] ++ _ from hd) with hd | hd
      · exact front d hd
      · exact isPlain_of_mem_flatMap hd
    · rcases List.mem_append.1 (show d ∈ ['m', 's'] ++ _ from hd) with hd | hd
      · exact front d (List.mem_cons_of_mem _ hd)
      · exact isPlain_of_mem_flatMap hd
  · exact .inr fun d => isPlain_of_mem_flatMap

theorem kebabChars_of_isHyphenated {cs : List Char} (h : IsHyphenated cs) : kebabChars cs = cs := by
  rcases h with ⟨rest, rfl⟩ | h
  · rfl
  · unfold kebabChars
    split
    · rfl
    · rename_i c rest
      have tail : ∀ d ∈ c :: rest, IsPlain d := fun d hd =>
        h d (List.mem_cons_of_mem _ (List.mem_cons_of_mem _ hd))
      rw [if_neg (by simp [(tail c List.mem_cons_self).1]), flatMap_hyphenate tail]
    · exact flatMap_hyphenate h

/-- Hyphenating twice changes nothing more. -/
theorem kebab_kebab (name : String) : kebab (kebab name) = kebab name := by
  rw [kebab, kebab, String.toList_ofList,
    kebabChars_of_isHyphenated (isHyphenated_kebabChars name.toList)]

theorem kebab_eq_empty {name : String} : kebab name = "" ↔ name = "" := by
  constructor
  · intro h
    have hchars : kebabChars name.toList = [] := by
      simpa [kebab] using congrArg String.toList h
    unfold kebabChars at hchars
    split at hchars
    · cases hchars
    · split at hchars <;> cases hchars
    · rename_i cs _ _
      cases hc : name.toList with
      | nil => exact String.toList_eq_nil_iff.1 hc
      | cons c rest =>
        rw [hc, List.flatMap_cons, List.append_eq_nil_iff] at hchars
        exact absurd hchars.1 (hyphenate_ne_nil c)
  · rintro rfl
    rfl

/-- A name whose hyphenated form has no hyphen is that form. -/
theorem kebabChars_of_not_mem {cs : List Char} (h : '-' ∉ kebabChars cs) : kebabChars cs = cs := by
  have plain : ∀ cs : List Char, '-' ∉ cs.flatMap hyphenate → cs.flatMap hyphenate = cs :=
    fun cs h => flatMap_hyphenate fun c hc => by
      have hne : '-' ∉ hyphenate c := fun hm => h (List.mem_flatMap.2 ⟨c, hc, hm⟩)
      unfold hyphenate at hne
      split at hne
      · simp at hne
      · split at hne
        · simp at hne
        · rename_i hu hc
          exact ⟨by simpa using hu, hc⟩
  revert h
  unfold kebabChars
  split
  · intro h
    rfl
  · split
    · intro h
      simp at h
    · intro h
      rw [plain _ fun hm => h (List.mem_cons_of_mem _ (List.mem_cons_of_mem _ hm))]
  · exact plain _

theorem eq_of_kebab_eq {name s : String} (h : kebab name = s) (hs : '-' ∉ s.toList) : name = s := by
  rw [kebab] at h
  have hchars : kebabChars name.toList = s.toList := by rw [← h, String.toList_ofList]
  rw [← hchars] at hs
  rw [← h, kebabChars_of_not_mem hs, String.ofList_toList]

theorem isPrefixOf_kebabChars (cs : List Char) :
    [':'].isPrefixOf (kebabChars cs) = [':'].isPrefixOf cs := by
  unfold kebabChars
  split
  · rfl
  · split <;> rfl
  · cases cs with
    | nil => rfl
    | cons c rest =>
      rw [List.flatMap_cons]
      unfold hyphenate
      split
      · rename_i hu
        have : ':' ≠ c := by
          rintro rfl
          simp at hu
        simp [List.isPrefixOf, this]
      · split
        · rename_i hc
          subst hc
          rfl
        · rfl

end Casing

/-! ## Outcomes -/

/-- A failure but for the property that it names. -/
def Failure.kind : Failure → Failure
  | .nesting _ depth => .nesting "" depth
  | e => e

/-- Both succeed with the same, or both fail in the same way, whatever property they name. -/
inductive SameOutcome {α : Type} : Except Failure α → Except Failure α → Prop where
  | ok (a : α) : SameOutcome (.ok a) (.ok a)
  | error {d e : Failure} (h : d.kind = e.kind) : SameOutcome (.error d) (.error e)

namespace SameOutcome

variable {α β : Type}

theorem refl : (x : Except Failure α) → SameOutcome x x
  | .ok a => .ok a
  | .error _ => .error rfl

theorem bind {x y : Except Failure α} {f g : α → Except Failure β} (h : SameOutcome x y)
    (hf : ∀ a, SameOutcome (f a) (g a)) : SameOutcome (x >>= f) (y >>= g) := by
  cases h with
  | ok a => exact hf a
  | error h => exact .error h

end SameOutcome

/-! ## Formatting for two spellings of a property -/

section Spellings
open Casing

variable {p q : String}

theorem formatScalar_spelling (h : kebab p = kebab q) (s : Scalar) :
    formatScalar p s = formatScalar q s := by
  rw [formatScalar, formatScalar, h]

theorem formatParameter_spelling (h : kebab p = kebab q) (function : String) (position : Nat)
    (s : Scalar) :
    formatParameter p function position s = formatParameter q function position s := by
  rw [formatParameter, formatParameter, formatScalar_spelling h]

theorem joinItems_spelling (h : kebab p = kebab q) : joinItems p = joinItems q := by
  funext items parts
  rw [joinItems, joinItems, h]

theorem joinInner_spelling (h : kebab p = kebab q) : joinInner p = joinInner q := by
  funext parts
  rw [joinInner, joinInner, h]

theorem formatItems_sameOutcome {items : List Value}
    (hv : ∀ v ∈ items, SameOutcome (formatItem p v) (formatItem q v)) :
    SameOutcome (formatItems p items) (formatItems q items) := by
  induction items with
  | nil => exact .ok []
  | cons v rest ih =>
    obtain ⟨hv, hrest⟩ := List.forall_mem_cons.1 hv
    rw [formatItems_cons, formatItems_cons]
    exact hv.bind fun own => (ih hrest).bind fun more => .refl _

/-- A further list is one too many for both spellings, and each is named as it is spelled. -/
theorem formatInner_sameOutcome {items : List Value}
    (hv : ∀ v ∈ items, SameOutcome (formatItem p v) (formatItem q v)) :
    SameOutcome (formatInner p items) (formatInner q items) := by
  induction items with
  | nil => exact .ok []
  | cons v rest ih =>
    obtain ⟨hv, hrest⟩ := List.forall_mem_cons.1 hv
    rw [formatInner_cons, formatInner_cons]
    refine SameOutcome.bind ?_ fun own => (ih hrest).bind fun more => .refl _
    cases hs : v.isSequence with
    | false =>
      rw [formatInnerItem_eq_formatItem hs, formatInnerItem_eq_formatItem hs]
      exact hv
    | true =>
      cases v with
      | list inner | tuple inner => exact .error rfl
      | _ => cases hs

theorem formatArguments_sameOutcome {function : String} {items : List Value}
    (hv : ∀ v ∈ items, ∀ position, SameOutcome (formatArgument p function position v)
      (formatArgument q function position v)) (position : Nat) (advance : Bool) :
    SameOutcome (formatArguments p function position advance items)
      (formatArguments q function position advance items) := by
  induction items generalizing position with
  | nil => exact .ok []
  | cons v rest ih =>
    obtain ⟨hv, hrest⟩ := List.forall_mem_cons.1 hv
    rw [formatArguments, formatArguments]
    exact (hv _).bind fun text => (ih hrest _).bind fun more => .refl _

theorem formatCalls_sameOutcome {entries : List (Value × Value)}
    (he : ∀ e ∈ entries, ∀ function, SameOutcome (formatArgument p function none e.2)
      (formatArgument q function none e.2)) :
    SameOutcome (formatCalls p entries) (formatCalls q entries) := by
  induction entries with
  | nil => exact .ok []
  | cons e rest ih =>
    obtain ⟨he, hrest⟩ := List.forall_mem_cons.1 he
    obtain ⟨k, v⟩ := e
    cases hk : k.text? with
    | none =>
      rw [formatCalls_of_not_text hk, formatCalls_of_not_text hk]
      exact .refl _
    | some function =>
      obtain rfl := text?_eq_some.1 hk
      rw [formatCalls_cons, formatCalls_cons]
      refine SameOutcome.bind ?_ fun call => (ih hrest).bind fun more => .refl _
      exact (he function).bind fun arguments => .refl _

/-- A fallback is formatted for the property that is set, in either spelling of it. -/
theorem fallback_sameOutcome (h : kebab p = kebab q) {fallback : Value}
    (hv : SameOutcome (format p fallback) (format q fallback)) (declared : String) :
    SameOutcome (format (settingProperty p declared) fallback)
      (format (settingProperty q declared) fallback) := by
  have empty : p = "" ↔ q = "" := by
    rw [← kebab_eq_empty, h, kebab_eq_empty]
  unfold settingProperty
  by_cases hp : p = ""
  · rw [if_pos hp, if_pos (empty.1 hp)]
    exact .refl _
  · rw [if_neg hp, if_neg (mt empty.2 hp)]
    exact hv

/-- Values, items and arguments come out the same for two spellings of a property. -/
theorem format_sameOutcome_all (h : kebab p = kebab q) (v : Value) :
    SameOutcome (format p v) (format q v) ∧ SameOutcome (formatItem p v) (formatItem q v) ∧
      ∀ function position, SameOutcome (formatArgument p function position v)
        (formatArgument q function position v) := by
  -- By itself and as an item alike, for what is neither a list nor missing.
  have item : ∀ {v : Value}, v.isSequence = false → SameOutcome (format p v) (format q v) →
      SameOutcome (formatItem p v) (formatItem q v) := fun {v} hs hv => by
    cases ha : v.isAbsent with
    | true =>
      rw [Value.isAbsent_iff.1 ha]
      exact .ok []
    | false =>
      rw [formatItem_eq_format hs ha, formatItem_eq_format hs ha]
      exact hv.bind fun text => .refl _
  induction v using Value.inductionOn with
  | scalar s =>
    have value : SameOutcome (format p (.scalar s)) (format q (.scalar s)) := by
      rw [format, format, formatScalar_spelling h]
      exact .refl _
    refine ⟨value, item rfl value, fun function position => ?_⟩
    rw [formatArgument, formatArgument, formatParameter_spelling h]
    exact .refl _
  | list items ih | tuple items ih =>
    refine ⟨?_, ?_, fun function position => ?_⟩
    · rw [format, format, joinItems_spelling h]
      exact (formatItems_sameOutcome fun v hv => (ih v hv).2.1).bind fun parts => .refl _
    · rw [formatItem, formatItem, joinInner_spelling h]
      exact (formatInner_sameOutcome fun v hv => (ih v hv).2.1).bind fun parts => .refl _
    · rw [formatArgument, formatArgument]
      exact (formatArguments_sameOutcome (fun v hv => (ih v hv).2.2 function) _ _).bind
        fun parts => .refl _
  | mapping entries ih =>
    have calls := formatCalls_sameOutcome fun e he function => (ih e he).2.2 function none
    have value : SameOutcome (format p (.mapping entries)) (format q (.mapping entries)) := by
      rw [format, format]
      exact calls.bind fun texts => .refl _
    refine ⟨value, item rfl value, fun function position => ?_⟩
    rw [formatArgument, formatArgument]
    exact calls.bind fun texts => .refl _
  | «variable» name declared fallback ih =>
    have set := fallback_sameOutcome h ih.1 declared
    have value : SameOutcome (format p (.variable name declared fallback))
        (format q (.variable name declared fallback)) := by
      rw [format, format]
      split
      · exact .refl _
      · exact set.bind fun text => .refl _
    refine ⟨value, item rfl value, fun function position => ?_⟩
    rw [formatArgument, formatArgument]
    split
    · exact .refl _
    · exact set.bind fun text => .refl _
  | handle name payload flag =>
    refine ⟨?_, item rfl ?_, fun function position => ?_⟩
    · rw [format, format]
      exact .refl _
    · rw [format, format]
      exact .refl _
    · rw [formatArgument, formatArgument]
      exact .refl _
  | animation fields keyframes =>
    refine ⟨?_, item rfl ?_, fun function position => ?_⟩
    · rw [format, format]
      exact .refl _
    · rw [format, format]
      exact .refl _
    · rw [formatArgument, formatArgument]
      exact .refl _

/-- A value is formatted for a property by its hyphenated name only. -/
theorem format_sameOutcome (h : kebab p = kebab q) (v : Value) :
    SameOutcome (format p v) (format q v) := (format_sameOutcome_all h v).1

/-- The hyphenated spelling of a property declares the same. -/
theorem declarationText?_kebab (property : String) (v : Value) :
    SameOutcome (declarationText? (kebab property) v) (declarationText? property v) := by
  unfold declarationText?
  rw [kebab_kebab]
  exact (format_sameOutcome (kebab_kebab property) v).bind fun text => .refl _

end Spellings
end Stylesheet
