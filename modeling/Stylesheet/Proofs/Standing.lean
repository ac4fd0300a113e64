import Stylesheet.Proofs.LedgerInvariant
/-!
# How a registration stands

A registration is known by its serial number. Its record is in the ledger, rendered or not
(`Holds`), until another takes its place, or until the ledger forgets everything (`Forgotten`).
What registering does to the others is said once (`Takes`), in terms of who is there.
-/

namespace Stylesheet.Ledger

variable {α : Type} {l l' : Ledger α} {r : Record α} {n : Nat} {name : String} {b : Bool}

/-- Only serial numbers that have been issued are in use. -/
structure Issued (l : Ledger α) : Prop where
  records : ∀ q ∈ l.records, q.serial < l.issued
  superseded : ∀ n ∈ l.superseded, n < l.issued

/-- The record with a serial number is in the ledger, under a name, rendered or not. -/
structure Holds (l : Ledger α) (n : Nat) (name : String) (b : Bool) : Prop where
  issued : n < l.issued
  apart : n ∉ l.superseded
  present : ∃ q ∈ l.records, q.serial = n
  agree : ∀ q ∈ l.records, q.serial = n → q.name = name ∧ q.rendered = b

/-- There is nothing left of a serial number. -/
structure Forgotten (l : Ledger α) (n : Nat) : Prop where
  issued : n < l.issued
  apart : n ∉ l.superseded
  absent : ∀ q ∈ l.records, q.serial ≠ n

/-- A new record comes in. Whoever loses the place to it was rendered and had its name. -/
structure Takes (l : Ledger α) (r : Record α) (l' : Ledger α) : Prop where
  serial : r.serial = l.issued
  unrendered : r.rendered = false
  issued : l'.issued = l.issued + 1
  present : r ∈ l'.records
  others : ∀ q ∈ l'.records, q = r ∨ q ∈ l.records
  kept : ∀ q ∈ l.records, q ∈ l'.records ∨ q.serial ∈ l'.superseded
  still : ∀ n ∈ l.superseded, n ∈ l'.superseded
  superseded : ∀ n ∈ l'.superseded, n ∈ l.superseded ∨
    ∃ q ∈ l.records, q.serial = n ∧ q.rendered = true ∧ q.name = r.name

/-! ## A new record -/

theorem takes_append (slot : Option (String × String)) (hs : r.serial = l.issued)
    (hr : r.rendered = false) : l.Takes r (l.append slot r) where
  serial := hs
  unrendered := hr
  issued := rfl
  present := List.mem_append_right _ List.mem_cons_self
  others q hq := by
    rcases List.mem_append.1 hq with hq | hq
    · exact .inr hq
    · exact .inl (List.mem_singleton.1 hq)
  kept q hq := .inl (List.mem_append_left _ hq)
  still _ hn := hn
  superseded _ hn := .inl hn

theorem takes_replace {i : Nat} {previous : Record α} (hp : l.records[i]? = some previous)
    (hpr : previous.rendered = true) (hs : r.serial = l.issued) (hr : r.rendered = false)
    (hn : r.name = previous.name) : l.Takes r (l.replace i previous r) where
  serial := hs
  unrendered := hr
  issued := rfl
  present := List.mem_set (List.getElem?_eq_some_iff.1 hp).1 r
  others q hq := (List.mem_or_eq_of_mem_set hq).symm
  kept q hq := by
    obtain ⟨j, hj⟩ := List.mem_iff_getElem?.1 hq
    -- The record at the position goes; those at other positions stay.
    by_cases hij : i = j
    · subst hij
      obtain rfl : previous = q := Option.some.inj (hp.symm.trans hj)
      exact .inr List.mem_cons_self
    · refine .inl (List.mem_iff_getElem?.2 ⟨j, ?_⟩)
      simpa [Ledger.replace, hij] using hj
  still _ hn := List.mem_cons_of_mem _ hn
  superseded n hm := by
    rcases List.mem_cons.1 hm with rfl | hm
    · exact .inr ⟨previous, List.mem_of_getElem? hp, rfl, hpr, hn.symm⟩
    · exact .inl hm

theorem takes_of_register {base : String} {payload : α} {identity : Option String}
    (h : (l.register base payload identity).result = .ok (r, l')) : l.Takes r l' := by
  rcases l.register_cases base payload identity with ⟨-, he⟩ | ⟨i, previous, hs, hr, he⟩ |
    ⟨i, previous, -, -, he⟩ <;> rw [he] at h <;> cases h
  · exact takes_append _ rfl rfl
  · obtain ⟨-, -, -, hp⟩ := held?_eq_some.1 hs
    exact takes_replace hp hr rfl rfl rfl

namespace Takes

/-- The new record is there, and not rendered. -/
theorem holds (ht : l.Takes r l') (hi : l.Issued) : l'.Holds r.serial r.name false where
  issued := by rw [ht.issued, ht.serial]; omega
  apart hm := by
    rcases ht.superseded _ hm with hm | ⟨q, hq, hs, -⟩
    · exact absurd (hi.superseded _ hm) (by rw [ht.serial]; omega)
    · exact absurd (hi.records q hq) (by rw [hs, ht.serial]; omega)
  present := ⟨r, ht.present, rfl⟩
  agree q hq hs := by
    rcases ht.others q hq with rfl | hq
    · exact ⟨rfl, ht.unrendered⟩
    · exact absurd (hi.records q hq) (by rw [hs, ht.serial]; omega)

theorem keeps_issued (ht : l.Takes r l') (hi : l.Issued) : l'.Issued where
  records q hq := by
    rw [ht.issued]
    rcases ht.others q hq with rfl | hq
    · rw [ht.serial]; omega
    · have := hi.records q hq; omega
  superseded n hn := by
    rw [ht.issued]
    rcases ht.superseded n hn with hn | ⟨q, hq, rfl, -⟩
    · have := hi.superseded n hn; omega
    · have := hi.records q hq; omega

/-- A record stays as it is, or it was rendered and loses its place to one of its name. -/
theorem keeps_holds (ht : l.Takes r l') (hh : l.Holds n name b) :
    l'.Holds n name b ∨ (b = true ∧ r.name = name ∧ n ∈ l'.superseded) := by
  -- A record that is not among those that lost their place is still there.
  by_cases hm : n ∈ l'.superseded
  · rcases ht.superseded n hm with ho | ⟨q, hq, hs, hr, hn⟩
    · exact absurd ho hh.apart
    · obtain ⟨hqn, hqb⟩ := hh.agree q hq hs
      exact .inr ⟨hqb.symm.trans hr, hn.symm.trans hqn, hm⟩
  · refine .inl ⟨by rw [ht.issued]; exact Nat.lt_succ_of_lt hh.issued, hm, ?_, fun q hq hs => ?_⟩
    · obtain ⟨q, hq, hs⟩ := hh.present
      rcases ht.kept q hq with hq | hq
      · exact ⟨q, hq, hs⟩
      · exact absurd (hs ▸ hq) hm
    · rcases ht.others q hq with rfl | hq
      · exact absurd hh.issued (by rw [← hs, ht.serial]; omega)
      · exact hh.agree q hq hs

theorem keeps_forgotten (ht : l.Takes r l') (hf : l.Forgotten n) : l'.Forgotten n where
  issued := by rw [ht.issued]; exact Nat.lt_succ_of_lt hf.issued
  apart hm := by
    rcases ht.superseded n hm with hm | ⟨q, hq, hs, -⟩
    · exact hf.apart hm
    · exact hf.absent q hq hs
  absent q hq hs := by
    rcases ht.others q hq with rfl | hq
    · exact absurd hf.issued (by rw [← hs, ht.serial]; omega)
    · exact hf.absent q hq hs

end Takes

/-! ## Marking and forgetting -/

theorem mem_records_markRendered {q : Record α} :
    q ∈ l.markRendered.records ↔ ∃ p ∈ l.records, q = { p with rendered := true } := by
  simp only [markRendered, List.mem_map, eq_comm]

theorem Issued.markRendered (hi : l.Issued) : l.markRendered.Issued where
  records q hq := by
    obtain ⟨p, hp, rfl⟩ := mem_records_markRendered.1 hq
    exact hi.records p hp
  superseded := hi.superseded

theorem Holds.markRendered (hh : l.Holds n name b) : l.markRendered.Holds n name true where
  issued := hh.issued
  apart := hh.apart
  present := by
    obtain ⟨p, hp, hs⟩ := hh.present
    exact ⟨_, mem_records_markRendered.2 ⟨p, hp, rfl⟩, hs⟩
  agree q hq hs := by
    obtain ⟨p, hp, rfl⟩ := mem_records_markRendered.1 hq
    exact ⟨(hh.agree p hp hs).1, rfl⟩

theorem Forgotten.markRendered (hf : l.Forgotten n) : l.markRendered.Forgotten n where
  issued := hf.issued
  apart := hf.apart
  absent q hq := by
    obtain ⟨p, hp, rfl⟩ := mem_records_markRendered.1 hq
    exact hf.absent p hp

theorem Issued.reset (hi : l.Issued) : l.reset.Issued := ⟨nofun, hi.superseded⟩

theorem Holds.reset (hh : l.Holds n name b) : l.reset.Forgotten n := ⟨hh.issued, hh.apart, nofun⟩

theorem Forgotten.reset (hf : l.Forgotten n) : l.reset.Forgotten n := ⟨hf.issued, hf.apart, nofun⟩

/-! ## Flags -/

theorem Holds.isRendered (hh : l.Holds n name b) : l.isRendered n = b := by
  obtain ⟨q, hq, hs⟩ := hh.present
  rw [Bool.eq_iff_iff]
  simp only [Ledger.isRendered, Bool.or_eq_true, List.any_eq_true, Bool.and_eq_true, beq_iff_eq,
    List.contains_iff_mem, hh.apart, or_false]
  constructor
  · rintro ⟨p, hp, hps, hr⟩
    exact (hh.agree p hp hps).2.symm.trans hr
  · intro hb
    exact ⟨q, hq, hs, (hh.agree q hq hs).2.trans hb⟩

theorem Forgotten.isRendered (hf : l.Forgotten n) : l.isRendered n = false := by
  rw [Bool.eq_false_iff]
  simp only [Ledger.isRendered, ne_eq, Bool.or_eq_true, List.any_eq_true, Bool.and_eq_true,
    beq_iff_eq, List.contains_iff_mem, hf.apart, or_false]
  rintro ⟨q, hq, hs, -⟩
  exact hf.absent q hq hs

theorem isRendered_of_superseded (h : n ∈ l.superseded) : l.isRendered n = true := by
  simp [isRendered, h]

end Stylesheet.Ledger
