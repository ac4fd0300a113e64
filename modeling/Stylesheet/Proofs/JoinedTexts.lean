/-!
# Joined texts

Texts are joined with a separator between any two. The characters of the join are those of the texts
and of the separators (`toList_intercalate_cons`), a join of joins is a join (`intercalate_parts`),
and a join shows what stands in the place of one text (`intercalate_replaced_iff`).
-/

namespace Stylesheet

/-! ## Characters -/

theorem toList_intercalate_cons (separator t : String) (rest : List String) :
    (separator.intercalate (t :: rest)).toList =
      t.toList ++ rest.flatMap fun u => separator.toList ++ u.toList := by
  induction rest generalizing t with
  | nil => simp
  | cons u rest ih => simp [String.intercalate_cons_cons, ih]

/-- What holds of the characters of the separator and of all texts holds of those of their join. -/
theorem forall_mem_intercalate {p : Char → Prop} {separator : String} {ts : List String}
    (hs : ∀ c ∈ separator.toList, p c) (h : ∀ t ∈ ts, ∀ c ∈ t.toList, p c) :
    ∀ c ∈ (separator.intercalate ts).toList, p c := by
  cases ts with
  | nil => simp
  | cons t rest =>
    obtain ⟨ht, hrest⟩ := List.forall_mem_cons.1 h
    rw [toList_intercalate_cons]
    refine List.forall_mem_append.2 ⟨ht, fun c hc => ?_⟩
    obtain ⟨u, hu, hc⟩ := List.mem_flatMap.1 hc
    exact List.forall_mem_append.2 ⟨hs, hrest u hu⟩ c hc

theorem length_intercalate (separator : String) (ts : List String) :
    (separator.intercalate ts).length =
      (ts.flatMap String.toList).length + (ts.length - 1) * separator.length := by
  induction ts with
  | nil => simp
  | cons t rest ih =>
    cases rest with
    | nil => simp [String.length_toList]
    | cons u more =>
      rw [String.intercalate_cons_cons, String.length_append, String.length_append, ih]
      simp only [List.flatMap_cons, List.length_append, String.length_toList, List.length_cons,
        Nat.add_sub_cancel]
      rw [Nat.succ_mul]
      omega

/-! ## Empty texts -/

theorem intercalate_cons_ne_empty {separator t : String} {more : List String} (h : t ≠ "") :
    separator.intercalate (t :: more) ≠ "" := by
  cases more with
  | nil => simpa using h
  | cons u more => simp [String.intercalate_cons_cons, h]

theorem intercalate_eq_empty_iff {separator : String} {ts : List String} (h : ∀ t ∈ ts, t ≠ "") :
    separator.intercalate ts = "" ↔ ts = [] := by
  cases ts with
  | nil => simp
  | cons t more => simp [intercalate_cons_ne_empty (h t List.mem_cons_self)]

/-! ## Joins of joins -/

/-- Joining what is joined in parts, without the parts that have no texts, is joining it all. -/
theorem intercalate_parts (separator : String) (parts : List (List String)) :
    separator.intercalate ((parts.filter (· ≠ [])).map separator.intercalate) =
      separator.intercalate parts.flatten := by
  induction parts with
  | nil => rfl
  | cons ts rest ih =>
    rw [List.flatten_cons]
    by_cases hts : ts = []
    · subst hts
      simpa using ih
    rw [List.filter_cons_of_pos (by simpa using hts), List.map_cons]
    have kept : (rest.filter (· ≠ [])).map separator.intercalate = [] ↔ rest.flatten = [] := by
      simp
    -- Whether a separator follows depends on what is left of the rest.
    by_cases hrest : rest.flatten = []
    · rw [kept.2 hrest, hrest]
      simp
    · rw [String.intercalate_cons_of_ne_nil (mt kept.1 hrest), ih,
        String.intercalate_append_of_ne_nil hts hrest]

/-- A part joined to an empty text is a part without texts. -/
theorem intercalate_filter_parts {separator : String} {parts : List (List String)}
    (h : ∀ ts ∈ parts, ∀ t ∈ ts, t ≠ "") :
    separator.intercalate ((parts.map separator.intercalate).filter (· ≠ "")) =
      separator.intercalate parts.flatten := by
  have kept : parts.filter ((fun t : String => decide (t ≠ "")) ∘ separator.intercalate) =
      parts.filter (· ≠ []) :=
    List.filter_congr fun ts hts => by simp [intercalate_eq_empty_iff (h ts hts)]
  rw [List.filter_map, kept, intercalate_parts]

/-! ## One text among others -/

theorem exists_intercalate_around (separator : String) (own more : List String) :
    ∃ before after, ∀ t, separator.intercalate (own ++ t :: more) = before ++ t ++ after := by
  have following : ∃ after, ∀ t, separator.intercalate (t :: more) = t ++ after := by
    cases more with
    | nil => exact ⟨"", by simp⟩
    | cons u more =>
      exact ⟨separator ++ separator.intercalate (u :: more), fun t => by
        rw [String.intercalate_cons_cons, String.append_assoc]⟩
  obtain ⟨after, ha⟩ := following
  by_cases ho : own = []
  · exact ⟨"", after, fun t => by simp [ho, ha]⟩
  · exact ⟨separator.intercalate own ++ separator, after, fun t => by
      rw [String.intercalate_append_of_ne_nil ho (List.cons_ne_nil t more), ha]
      simp only [String.append_assoc]⟩

theorem append_cancel_around {before after t u : String} :
    before ++ t ++ after = before ++ u ++ after ↔ t = u := by
  constructor
  · intro h
    have := congrArg String.toList h
    simp only [String.toList_append, List.append_cancel_right_eq,
      List.append_cancel_left_eq] at this
    exact String.toList_inj.1 this
  · rintro rfl
    rfl

theorem intercalate_among_inj {separator t u : String} {own more : List String} :
    separator.intercalate (own ++ t :: more) = separator.intercalate (own ++ u :: more) ↔
      t = u := by
  obtain ⟨before, after, h⟩ := exists_intercalate_around separator own more
  rw [h, h, append_cancel_around]

/-- One text less is one separator less, so the whole gets shorter. -/
theorem intercalate_ne_without {separator shorter e : String} {own more : List String}
    (hne : own ≠ [] ∨ more ≠ []) (hs : 0 < separator.length)
    (hle : shorter.length ≤ separator.length) :
    shorter.intercalate (own ++ more) ≠ separator.intercalate (own ++ e :: more) := by
  have others : 0 < own.length + more.length := by
    rcases hne with h | h
    · exact Nat.add_pos_left (List.length_pos_iff.2 h) _
    · exact Nat.add_pos_right _ (List.length_pos_iff.2 h)
  have fewer : (own.length + more.length - 1) * shorter.length <
      (own.length + more.length) * separator.length :=
    calc (own.length + more.length - 1) * shorter.length
        ≤ (own.length + more.length - 1) * separator.length := Nat.mul_le_mul_left _ hle
      _ < (own.length + more.length) * separator.length := Nat.mul_lt_mul_of_pos_right (by omega) hs
  intro h
  have lengths := congrArg String.length h
  rw [length_intercalate, length_intercalate] at lengths
  simp only [List.flatMap_append, List.flatMap_cons, List.length_append, List.length_cons]
    at lengths
  rw [show own.length + (more.length + 1) - 1 = own.length + more.length by omega] at lengths
  omega

/-- Another text in the place of one, or none, leaves the whole as it was only if it is the same, or
if the one was empty and stood alone. -/
theorem intercalate_replaced_iff {separator shorter e : String} {own more : List String}
    {d : Option String} (hs : 0 < separator.length) (hle : shorter.length ≤ separator.length)
    (hd : d ≠ none → shorter = separator) :
    shorter.intercalate (own ++ (d.toList ++ more)) = separator.intercalate (own ++ e :: more) ↔
      some e = d ∨ d = none ∧ e = "" ∧ own = [] ∧ more = [] := by
  cases d with
  | some u =>
    rw [hd nofun, Option.toList_some, List.singleton_append, intercalate_among_inj]
    simp [eq_comm]
  | none =>
    by_cases alone : own = [] ∧ more = []
    · simp [alone, eq_comm]
    · have others : own ≠ [] ∨ more ≠ [] := by
        by_cases ho : own = []
        · exact .inr fun hm => alone ⟨ho, hm⟩
        · exact .inl ho
      have differ := @intercalate_ne_without separator shorter e own more others hs hle
      simp [alone, differ]

end Stylesheet
