import Mathlib.Data.List.Nodup
import Stylesheet.Proofs.LedgerInvariant
/-!
# Who holds a slot

A registration takes its own slot and leaves the others as they are. Marking renders whoever holds
a slot, and a reset leaves every slot empty. `held?_after` puts this together for one operation.
-/

namespace Stylesheet.Ledger

variable {α : Type} {l l' : Ledger α} {r previous : Record α} {i : Nat} {base identity : String}
  {key : String × String} {slot : Option (String × String)}

/-! ## Runs -/

theorem run_append (l : Ledger α) (operations more : List (Operation α)) :
    l.run (operations ++ more) = (l.run operations).run more := List.foldl_append

theorem run_snoc (l : Ledger α) (operations : List (Operation α)) (operation : Operation α) :
    l.run (operations ++ [operation]) = (l.run operations).after operation :=
  l.run_append operations [operation]

theorem after_of_ok {payload : α} {identity : Option String}
    (h : (l.register base payload identity).result = .ok (r, l')) :
    l.after (.register base payload identity) = l' := by
  simp only [after, h]

theorem after_of_error {payload : α} {identity : Option String} {e : Failure}
    (h : (l.register base payload identity).result = .error e) :
    l.after (.register base payload identity) = l := by
  simp only [after, h]

theorem identityAware_register {payload : α} {identity : Option String}
    (h : (l.register base payload identity).result = .ok (r, l')) :
    l'.identityAware = l.identityAware := by
  rcases l.register_cases base payload identity with ⟨-, he⟩ | ⟨i, previous, -, -, he⟩ |
    ⟨i, previous, -, -, he⟩ <;> rw [he] at h <;> cases h <;> rfl

theorem identityAware_after (l : Ledger α) (operation : Operation α) :
    (l.after operation).identityAware = l.identityAware := by
  cases operation with
  | markRendered | reset => rfl
  | register base payload identity =>
    cases h : (l.register base payload identity).result with
    | ok answer => rw [after_of_ok h, identityAware_register h]
    | error e => rw [after_of_error h]

theorem identityAware_run (l : Ledger α) (operations : List (Operation α)) :
    (l.run operations).identityAware = l.identityAware := by
  induction operations generalizing l with
  | nil => rfl
  | cons operation rest ih => exact (ih (l.after operation)).trans (l.identityAware_after operation)

/-! ## Slots -/

theorem slot?_of_aware (ha : l.identityAware = true) (base identity : String) :
    l.slot? base (some identity) = some (identity, base) := by
  simp [slot?, ha]

/-- Two slots do not lead to one position. -/
theorem Inv.key_unique (hi : Inv l) {other : String × String} (hk : (key, i) ∈ l.slots)
    (ho : (other, i) ∈ l.slots) : key = other := by
  obtain ⟨r, hr, hid, hn⟩ := hi.held key i hk
  obtain ⟨q, hq, hqid, hqn⟩ := hi.held other i ho
  obtain rfl : r = q := Option.some.inj (hr.symm.trans hq)
  exact Prod.ext (Option.some.inj (hid.symm.trans hqid)) (nameAt_inj.1 (hn.symm.trans hqn)).1

theorem mem_slots_of_held? (h : l.held? (some key) = some (i, r)) : (key, i) ∈ l.slots := by
  obtain ⟨k, hk, hl, -⟩ := held?_eq_some.1 h
  cases hk
  exact mem_of_lookup hl

/-- A slot is led to its position in one way only. -/
theorem Inv.held?_eq_some_iff (hi : Inv l) :
    l.held? (some key) = some (i, r) ↔ (key, i) ∈ l.slots ∧ l.records[i]? = some r := by
  constructor
  · intro h
    obtain ⟨k, hk, hl, hr⟩ := held?_eq_some.1 h
    cases hk
    exact ⟨mem_of_lookup hl, hr⟩
  · rintro ⟨hm, hr⟩
    obtain ⟨j, hj⟩ := lookup_isSome_of_mem hm
    -- Keys are distinct, so the first entry of the key is this one.
    have hji : (key, j) = (key, i) :=
      List.inj_on_of_nodup_map hi.keys (mem_of_lookup hj) hm rfl
    cases hji
    exact held?_eq_some.2 ⟨key, rfl, hj, hr⟩

/-- Ledgers that agree on who stands where for a key agree on who holds it. -/
theorem Inv.held?_congr (hi : Inv l) (hi' : Inv l')
    (h : ∀ i r, (key, i) ∈ l'.slots ∧ l'.records[i]? = some r ↔
      (key, i) ∈ l.slots ∧ l.records[i]? = some r) :
    l'.held? (some key) = l.held? (some key) := by
  ext ⟨i, r⟩
  rw [hi'.held?_eq_some_iff, hi.held?_eq_some_iff, h]

/-! ## One operation -/

theorem held?_markRendered (l : Ledger α) (slot : Option (String × String)) :
    l.markRendered.held? slot =
      (l.held? slot).map fun p => (p.1, { p.2 with rendered := true }) := by
  cases slot with
  | none => rfl
  | some key =>
    simp only [held?, markRendered, Option.bind_eq_bind, Option.bind_some, List.getElem?_map]
    cases hl : l.slots.lookup key with
    | none => rfl
    | some i => cases hr : l.records[i]? <;> simp [hr]

theorem held?_reset (l : Ledger α) (slot : Option (String × String)) :
    l.reset.held? slot = none := by
  cases slot <;> rfl

theorem held?_append_self (l : Ledger α) (key : String × String) (r : Record α) :
    (l.append (some key) r).held? (some key) = some (l.size, r) :=
  held?_eq_some.2 ⟨key, rfl, by simp [Ledger.append], getElem?_append_last _ _⟩

theorem Inv.held?_append_of_ne (hi : Inv l) (hi' : Inv (l.append slot r)) (hne : slot ≠ some key) :
    (l.append slot r).held? (some key) = l.held? (some key) := by
  have hslots : ∀ i, (key, i) ∈ (l.append slot r).slots ↔ (key, i) ∈ l.slots := by
    intro i
    cases slot with
    | none => rfl
    | some k =>
      have hk : key ≠ k := fun h => hne (congrArg some h.symm)
      simp [Ledger.append, hk]
  refine hi.held?_congr hi' fun i q => ?_
  rw [hslots]
  refine and_congr_right fun hm => ?_
  -- The position of a slot is that of a record, so it is not the new one.
  obtain ⟨p, hp, -⟩ := hi.held key i hm
  rw [hp, show (l.append slot r).records[i]? = some p from getElem?_append_of_some hp r]

theorem held?_replace_self (h : l.held? (some key) = some (i, previous)) :
    (l.replace i previous r).held? (some key) = some (i, r) := by
  obtain ⟨k, hk, hl, hr⟩ := held?_eq_some.1 h
  have hlt : i < l.records.length := (List.getElem?_eq_some_iff.1 hr).1
  exact held?_eq_some.2 ⟨k, hk, hl, by simp [Ledger.replace, hlt]⟩

theorem Inv.held?_replace_of_ne (hi : Inv l) (hi' : Inv (l.replace i previous r))
    (hm : (key, i) ∈ l.slots) {other : String × String} (hne : key ≠ other) :
    (l.replace i previous r).held? (some other) = l.held? (some other) := by
  refine hi.held?_congr hi' fun j q => and_congr_right fun ho => ?_
  have hij : i ≠ j := by
    rintro rfl
    exact hne (hi.key_unique hm ho)
  simp [Ledger.replace, hij]

/-- A registration that succeeds takes its slot, and no other. -/
theorem Inv.held?_register (hi : Inv l) (key : String × String) {payload : α}
    {identity : Option String}
    (h : (l.register base payload identity).result = .ok (r, l')) :
    (l.slot? base identity = some key → ∃ i, l'.held? (some key) = some (i, r)) ∧
    (l.slot? base identity ≠ some key → l'.held? (some key) = l.held? (some key)) := by
  have hi' : Inv l' := hi.register h
  rcases l.register_cases base payload identity with ⟨-, he⟩ | ⟨i, previous, hs, -, he⟩ |
    ⟨i, previous, -, -, he⟩ <;> rw [he] at h <;> cases h
  · refine ⟨fun hk => ?_, fun hne => hi.held?_append_of_ne hi' hne⟩
    rw [hk]
    exact ⟨_, held?_append_self _ _ _⟩
  · constructor
    · intro hk
      rw [hk] at hs
      exact ⟨i, held?_replace_self hs⟩
    · intro hne
      obtain ⟨k, hk, hl, -⟩ := held?_eq_some.1 hs
      refine hi.held?_replace_of_ne hi' (mem_of_lookup hl) fun h => hne ?_
      rw [hk, h]

end Stylesheet.Ledger
