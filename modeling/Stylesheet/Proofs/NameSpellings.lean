import Mathlib
import Stylesheet.Proofs.JoinedTexts
import Stylesheet.Proofs.PropertyNames
/-!
# Spellings of a property name

The words of a property name can be put together in four ways: with humps, underscores or hyphens,
or with a capital for every word. Hyphenating takes the first three to the hyphenated one and the
last to that with a hyphen in front (`kebab_of_spelling`). Only the word `ms` before a hump is not
an ordinary first word: it is a vendor's mark and gets a hyphen in front (`kebab_humped_ms`).
-/

namespace Stylesheet.Casing

/-! ## Words -/

/-- Whether text is a word of a name: it starts with a small letter of ASCII and has no capital of
ASCII, no underscore and no hyphen. -/
def isWord (w : String) : Bool :=
  w.toList.head?.any Char.isLower && w.toList.all fun c => !c.isUpper && c != '_' && c != '-'

/-- Every word with a capital. -/
def capitalized (words : List String) : String := String.join (words.map String.capitalize)

/-- Every word but the first with a capital. -/
def humped : List String → String
  | [] => ""
  | w :: more => w ++ capitalized more

variable {w : String} {words more : List String}

theorem isPlain_of_isWord (h : isWord w = true) : ∀ c ∈ w.toList, IsPlain c := by
  intro c hc
  have := List.all_eq_true.1 (Bool.and_eq_true_iff.1 h).2 c hc
  simp only [Bool.and_eq_true, Bool.not_eq_true', bne_iff_ne] at this
  exact this.1

theorem toList_of_isWord (h : isWord w = true) :
    ∃ c cs, w.toList = c :: cs ∧ c.isLower = true := by
  have first := (Bool.and_eq_true_iff.1 h).1
  cases hw : w.toList with
  | nil => simp [hw] at first
  | cons c cs => exact ⟨c, cs, rfl, by simpa [hw] using first⟩

theorem toList_capitalize {c : Char} {cs : List Char} (h : w.toList = c :: cs) :
    w.capitalize.toList = c.toUpper :: cs := by
  obtain rfl : w = String.ofList (c :: cs) := String.toList_inj.1 (by simpa using h)
  have first : String.Pos.Raw.get (String.ofList (c :: cs)) 0 = c :=
    String.get_of_valid [] (c :: cs)
  have changed : String.Pos.Raw.set (String.ofList (c :: cs)) 0 c.toUpper =
      String.ofList (c.toUpper :: cs) := String.set_of_valid [] (c :: cs) c.toUpper
  rw [String.capitalize, first, changed, String.toList_ofList]

theorem isUpper_toUpper {c : Char} (h : c.isLower = true) : c.toUpper.isUpper = true := by
  rw [Char.isUpper_toUpper_eq_isAlpha, Char.isAlpha, h, Bool.or_true]

theorem isUpper_of_capitalized (h : ∀ u ∈ words, isWord u = true) {c : Char} {cs : List Char}
    (hc : (capitalized words).toList = c :: cs) : c.isUpper = true := by
  cases words with
  | nil => cases hc
  | cons u rest =>
    obtain ⟨d, ds, hu, hd⟩ := toList_of_isWord (h u List.mem_cons_self)
    rw [capitalized, String.toList_join, List.map_cons, List.flatMap_cons,
      toList_capitalize hu] at hc
    cases hc
    exact isUpper_toUpper hd

/-! ## Character by character -/

/-- The capital of a word becomes a hyphen in front of it. -/
theorem flatMap_hyphenate_capitalize (h : isWord w = true) :
    w.capitalize.toList.flatMap hyphenate = '-' :: w.toList := by
  obtain ⟨c, cs, hw, hc⟩ := toList_of_isWord h
  have small : c.toUpper.toLower = c := by
    rw [Char.toLower_toUpper_eq_toLower,
      Char.toLower_eq_of_not_isUpper (Char.not_isUpper_of_isLower hc)]
  have rest : ∀ d ∈ cs, IsPlain d := fun d hd => isPlain_of_isWord h d (by simp [hw, hd])
  rw [toList_capitalize hw, List.flatMap_cons, hyphenate, if_pos (isUpper_toUpper hc), small,
    flatMap_hyphenate rest, hw]
  rfl

theorem flatMap_hyphenate_capitalized (h : ∀ u ∈ words, isWord u = true) :
    (capitalized words).toList.flatMap hyphenate = words.flatMap fun u => '-' :: u.toList := by
  rw [capitalized, String.toList_join, List.flatMap_map, List.flatMap_assoc]
  exact List.flatMap_congr fun u hu => flatMap_hyphenate_capitalize (h u hu)

theorem toList_hyphenated (w : String) (more : List String) :
    ("-".intercalate (w :: more)).toList = w.toList ++ more.flatMap fun u => '-' :: u.toList :=
  toList_intercalate_cons "-" w more

theorem flatMap_hyphenate_humped (h : ∀ u ∈ w :: more, isWord u = true) :
    (humped (w :: more)).toList.flatMap hyphenate = ("-".intercalate (w :: more)).toList := by
  obtain ⟨hw, hmore⟩ := List.forall_mem_cons.1 h
  rw [humped, String.toList_append, List.flatMap_append, flatMap_hyphenate (isPlain_of_isWord hw),
    flatMap_hyphenate_capitalized hmore, toList_hyphenated]

theorem flatMap_hyphenate_underscored (h : ∀ u ∈ w :: more, isWord u = true) :
    ("_".intercalate (w :: more)).toList.flatMap hyphenate =
      ("-".intercalate (w :: more)).toList := by
  obtain ⟨hw, hmore⟩ := List.forall_mem_cons.1 h
  have behind : ∀ u ∈ more, ("_".toList ++ u.toList).flatMap hyphenate = '-' :: u.toList :=
    fun u hu => by
      rw [List.flatMap_append, flatMap_hyphenate (isPlain_of_isWord (hmore u hu))]
      rfl
  rw [toList_intercalate_cons, List.flatMap_append, flatMap_hyphenate (isPlain_of_isWord hw),
    List.flatMap_assoc, List.flatMap_congr behind, toList_hyphenated]

/-! ## The two marks at the front -/

/-- Two hyphens, or the mark of a vendor before a capital, are all that is treated apart. -/
theorem kebabChars_eq_flatMap {cs : List Char} (custom : ∀ rest, cs ≠ '-' :: '-' :: rest)
    (vendor : ∀ c rest, cs = 'm' :: 's' :: c :: rest → c.isUpper = false) :
    kebabChars cs = cs.flatMap hyphenate := by
  unfold kebabChars
  split
  · exact absurd rfl (custom _)
  · rename_i c rest
    rw [if_neg (by simp [vendor c rest rfl])]
    rfl
  · rfl

theorem ne_hyphens_of_isWord (h : isWord w = true) (tail rest : List Char) :
    w.toList ++ tail ≠ '-' :: '-' :: rest := by
  obtain ⟨c, cs, hw, hc⟩ := toList_of_isWord h
  rw [hw]
  intro he
  obtain ⟨rfl, -⟩ := List.cons.inj he
  simp at hc

/-- No hump follows `m` and `s`, unless they are the whole first word. -/
theorem isUpper_after_ms (h : ∀ u ∈ w :: more, isWord u = true) (hms : w = "ms" → more = [])
    {c : Char} {rest : List Char} (hc : (humped (w :: more)).toList = 'm' :: 's' :: c :: rest) :
    c.isUpper = false := by
  obtain ⟨hw, hmore⟩ := List.forall_mem_cons.1 h
  have plain := isPlain_of_isWord hw
  obtain ⟨d, ds, hd, -⟩ := toList_of_isWord hw
  rw [humped, String.toList_append, hd] at hc
  rw [hd] at plain
  match ds with
  | [] =>
    -- The hump would start with the second letter, a small one.
    have := isUpper_of_capitalized hmore (List.cons.inj hc).2
    simp at this
  | [e] =>
    obtain ⟨rfl, rfl, tail⟩ : d = 'm' ∧ e = 's' ∧ (capitalized more).toList = c :: rest := by
      simpa using hc
    rw [hms (String.toList_inj.1 hd)] at tail
    cases tail
  | e :: f :: fs =>
    obtain ⟨-, -, rfl, -⟩ : d = 'm' ∧ e = 's' ∧ f = c ∧ fs ++ _ = rest := by simpa using hc
    exact (plain f (by simp)).1

/-! ## Spellings -/

theorem kebab_eq {name s : String} (h : kebabChars name.toList = s.toList) : kebab name = s := by
  rw [kebab, h, String.ofList_toList]

theorem kebab_humped (h : ∀ u ∈ w :: more, isWord u = true) (hms : w = "ms" → more = []) :
    kebab (humped (w :: more)) = "-".intercalate (w :: more) := by
  refine kebab_eq ((kebabChars_eq_flatMap ?_ ?_).trans (flatMap_hyphenate_humped h))
  · rw [humped, String.toList_append]
    exact ne_hyphens_of_isWord (h w List.mem_cons_self) _
  · exact fun c rest hc => isUpper_after_ms h hms hc

/-- The mark of a vendor before a hump has a hyphen in front. -/
theorem kebab_humped_ms (h : ∀ u ∈ more, isWord u = true) (hne : more ≠ []) :
    kebab (humped ("ms" :: more)) = "-" ++ "-".intercalate ("ms" :: more) := by
  obtain ⟨u, rest, rfl⟩ := List.exists_cons_of_ne_nil hne
  have hyphenated := flatMap_hyphenate_capitalized h
  cases hc : (capitalized (u :: rest)).toList with
  | nil =>
    rw [hc] at hyphenated
    cases hyphenated
  | cons c cs =>
    have parts : (humped ("ms" :: u :: rest)).toList = 'm' :: 's' :: c :: cs := by
      rw [humped, String.toList_append, hc]
      rfl
    refine kebab_eq ?_
    rw [parts, kebabChars, if_pos (isUpper_of_capitalized h hc), ← hc, hyphenated,
      String.toList_append, toList_hyphenated]
    rfl

theorem kebab_underscored (h : ∀ u ∈ w :: more, isWord u = true) :
    kebab ("_".intercalate (w :: more)) = "-".intercalate (w :: more) := by
  refine kebab_eq ((kebabChars_eq_flatMap ?_ ?_).trans (flatMap_hyphenate_underscored h))
  · rw [toList_intercalate_cons]
    exact ne_hyphens_of_isWord (h w List.mem_cons_self) _
  · intro c rest hc
    have small : ∀ d ∈ ("_".intercalate (w :: more)).toList, d.isUpper = false :=
      forall_mem_intercalate (by simp) fun u hu d hd => (isPlain_of_isWord (h u hu) d hd).1
    exact small c (by simp [hc])

theorem kebab_hyphenated (h : ∀ u ∈ words, isWord u = true) :
    kebab ("-".intercalate words) = "-".intercalate words := by
  refine kebab_eq (kebabChars_of_isHyphenated (.inr ?_))
  exact forall_mem_intercalate (by simp [IsPlain]) fun u hu => isPlain_of_isWord (h u hu)

theorem kebab_capitalized (h : ∀ u ∈ w :: more, isWord u = true) :
    kebab (capitalized (w :: more)) = "-" ++ "-".intercalate (w :: more) := by
  have first : ∀ c cs, (capitalized (w :: more)).toList = c :: cs → c.isUpper = true :=
    fun c cs => isUpper_of_capitalized h
  refine kebab_eq ((kebabChars_eq_flatMap ?_ ?_).trans ?_)
  · intro rest hc
    exact absurd (first _ _ hc) (by decide)
  · intro c rest hc
    exact absurd (first _ _ hc) (by decide)
  · rw [flatMap_hyphenate_capitalized h, String.toList_append, toList_hyphenated]
    rfl

/-- Hyphenating a name twice changes nothing more. All spellings of the same words have their
hyphenated spelling as the hyphenated form, the one with a capital for every word with a hyphen in
front; for the humped one the first word must not be `ms` unless it is alone. -/
theorem kebab_of_spelling : (∀ name, kebab (kebab name) = kebab name) ∧
    ∀ words : List String, words ≠ [] → (∀ w ∈ words, isWord w = true) →
      (words.head? = some "ms" → words = ["ms"]) →
      kebab (humped words) = "-".intercalate words ∧
      kebab ("_".intercalate words) = "-".intercalate words ∧
      kebab ("-".intercalate words) = "-".intercalate words ∧
      kebab (capitalized words) = "-" ++ "-".intercalate words := by
  refine ⟨kebab_kebab, fun words hne h hms => ?_⟩
  obtain ⟨w, more, rfl⟩ := List.exists_cons_of_ne_nil hne
  have alone : w = "ms" → more = [] := fun hw => (List.cons.inj (hms (by simp [hw]))).2
  exact ⟨kebab_humped h alone, kebab_underscored h, kebab_hyphenated h, kebab_capitalized h⟩

/-- The spellings of a name of three words. -/
theorem kebab_of_spelling_align_self :
    let words := ["webkit", "align", "self"]
    words ≠ [] ∧ (∀ w ∈ words, isWord w = true) ∧ (words.head? = some "ms" → words = ["ms"]) ∧
      kebab "webkitAlignSelf" = "webkit-align-self" ∧
      kebab "webkit_align_self" = "webkit-align-self" ∧
      kebab "webkit-align-self" = "webkit-align-self" ∧
      kebab "WebkitAlignSelf" = "-webkit-align-self" := by
  intro words
  have hne : words ≠ [] := by decide
  have hw : ∀ w ∈ words, isWord w = true := by decide
  have hms : words.head? = some "ms" → words = ["ms"] := by decide
  exact ⟨hne, hw, hms, kebab_of_spelling.2 words hne hw hms⟩

end Stylesheet.Casing
