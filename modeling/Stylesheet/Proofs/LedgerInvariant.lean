import Stylesheet.Proofs.Names
/-!
# The invariant of a ledger

Registering does one of three things (`register_cases`). The records and the slots stay in step
through all of them: the name of a record ends in its position, and a slot leads to a record that
has its identity and base. Hence names, and the positions of slots, are pairwise distinct.
-/

namespace Stylesheet.Ledger

variable {α : Type}

/-! ## Runs -/

/-- A call on a ledger. -/
inductive Operation (α : Type) where
  | register (base : String) (payload : α) (identity : Option String)
  | markRendered
  | reset

/-- The ledger after an operation; one that fails leaves it as it is. -/
def after (l : Ledger α) : Operation α → Ledger α
  | .register base payload identity =>
    match (l.register base payload identity).result with
    | .ok (_, l') => l'
    | .error _ => l
  | .markRendered => l.markRendered
  | .reset => l.reset

/-- The ledger after operations, one after the other. -/
def run (l : Ledger α) (operations : List (Operation α)) : Ledger α := operations.foldl after l

/-! ## What registering does -/

theorem held?_eq_some {l : Ledger α} {slot : Option (String × String)} {i : Nat} {r : Record α} :
    l.held? slot = some (i, r) ↔
      ∃ key, slot = some key ∧ l.slots.lookup key = some i ∧ l.records[i]? = some r := by
  simp only [held?, Option.bind_eq_bind, Option.bind_eq_some_iff, Option.pure_def]
  constructor
  · rintro ⟨key, hs, j, hj, r', hr, h⟩
    cases h
    exact ⟨key, hs, hj, hr⟩
  · rintro ⟨key, hs, hj, hr⟩
    exact ⟨key, hs, i, hj, r, hr, rfl⟩

/-- Registering adds a record at the end, puts it in the place of a rendered one, or fails. -/
theorem register_cases (l : Ledger α) (base : String) (payload : α) (identity : Option String) :
    -- No record holds the slot.
    (l.held? (l.slot? base identity) = none ∧
      l.register base payload identity = ⟨[.registered (l.fresh base payload identity).name],
        .ok (l.fresh base payload identity,
          l.append (l.slot? base identity) (l.fresh base payload identity))⟩) ∨
    -- The record that holds it has been rendered.
    (∃ i previous, l.held? (l.slot? base identity) = some (i, previous) ∧
      previous.rendered = true ∧
      l.register base payload identity =
        ⟨[.reregistered previous.name (identity.getD "")],
        .ok ({ l.fresh base payload identity with name := previous.name },
          l.replace i previous { l.fresh base payload identity with name := previous.name })⟩) ∨
    -- It has not.
    (∃ i previous, l.held? (l.slot? base identity) = some (i, previous) ∧
      previous.rendered = false ∧
      l.register base payload identity = .fail (.duplicate (identity.getD "") previous.name)) := by
  cases h : l.held? (l.slot? base identity) with
  | none => exact .inl ⟨rfl, by simp only [register, h]; rfl⟩
  | some held =>
    obtain ⟨i, previous⟩ := held
    cases hr : previous.rendered with
    | true => exact .inr (.inl ⟨i, previous, rfl, hr, by simp only [register, h, hr]; rfl⟩)
    | false => exact .inr (.inr ⟨i, previous, rfl, hr, by simp only [register, h, hr]; rfl⟩)

/-- Where no record holds its slot, a registration adds a record at the end. -/
theorem register_of_not_held {l : Ledger α} {base : String} {identity : Option String}
    (h : l.held? (l.slot? base identity) = none) (payload : α) :
    (l.register base payload identity).result = .ok (l.fresh base payload identity,
      l.append (l.slot? base identity) (l.fresh base payload identity)) := by
  rcases l.register_cases base payload identity with ⟨-, he⟩ | ⟨i, previous, hs, -⟩ |
    ⟨i, previous, hs, -⟩
  · rw [he]
  · cases h.symm.trans hs
  · cases h.symm.trans hs

theorem slot?_eq_some {l : Ledger α} {base : String} {identity : Option String}
    {key : String × String} (h : l.slot? base identity = some key) :
    identity = some key.1 ∧ base = key.2 := by
  unfold slot? at h
  split at h
  · obtain ⟨who, hw, rfl⟩ := Option.map_eq_some_iff.1 h
    exact ⟨hw, rfl⟩
  · cases h

/-- Unless identities count, no record loses its place. -/
theorem superseded_of_register {l l' : Ledger α} {base : String} {payload : α}
    {identity : Option String} {r : Record α} (ha : l.identityAware = false)
    (h : (l.register base payload identity).result = .ok (r, l')) :
    l'.identityAware = false ∧ l'.superseded = l.superseded := by
  have hs : l.held? (l.slot? base identity) = none := by simp [slot?, ha, held?]
  rcases l.register_cases base payload identity with ⟨-, he⟩ | ⟨i, previous, hp, -, -⟩ |
    ⟨i, previous, hp, -, -⟩
  · rw [he] at h
    cases h
    exact ⟨ha, rfl⟩
  · cases hs.symm.trans hp
  · cases hs.symm.trans hp

/-! ## The invariant -/

/-- Records and slots are in step. -/
structure Inv (l : Ledger α) : Prop where
  /-- The name of a record ends in its position. -/
  named : ∀ i r, l.records[i]? = some r → ∃ base, r.name = nameAt base i
  /-- A slot leads to a record of its identity and base. -/
  held : ∀ key i, (key, i) ∈ l.slots → ∃ r, l.records[i]? = some r ∧
    r.identity = some key.1 ∧ r.name = nameAt key.2 i
  /-- A slot leads to one position only. -/
  keys : (l.slots.map Prod.fst).Nodup

theorem inv_empty (aware : Bool) : Inv (empty aware : Ledger α) := by
  constructor <;> simp [empty]

theorem lookup_isSome_of_mem {key : String × String} {i : Nat}
    {slots : List ((String × String) × Nat)} (h : (key, i) ∈ slots) :
    ∃ j, slots.lookup key = some j := by
  cases hl : slots.lookup key with
  | some j => exact ⟨j, rfl⟩
  | none => exact absurd h (by simpa using List.lookup_eq_none_iff.1 hl (key, i))

theorem mem_of_lookup {key : String × String} {i : Nat} {slots : List ((String × String) × Nat)}
    (h : slots.lookup key = some i) : (key, i) ∈ slots := by
  obtain ⟨a, b, rfl, -⟩ := List.lookup_eq_some_iff.1 h
  simp

/-- A slot that no record holds is not there at all. -/
theorem Inv.not_mem_of_held? {l : Ledger α} (hi : Inv l) {key : String × String}
    (h : l.held? (some key) = none) : key ∉ l.slots.map Prod.fst := by
  intro hk
  obtain ⟨⟨k, i⟩, hm, rfl⟩ := List.mem_map.1 hk
  obtain ⟨j, hj⟩ := lookup_isSome_of_mem hm
  obtain ⟨r, hr, -⟩ := hi.held _ j (mem_of_lookup hj)
  rw [held?_eq_some.2 ⟨_, rfl, hj, hr⟩] at h
  cases h

theorem getElem?_append_last (records : List (Record α)) (r : Record α) :
    (records ++ [r])[records.length]? = some r := by simp

theorem getElem?_append_of_some {records : List (Record α)} {i : Nat} {q : Record α}
    (h : records[i]? = some q) (r : Record α) : (records ++ [r])[i]? = some q := by
  rw [List.getElem?_append_left (List.getElem?_eq_some_iff.1 h).1, h]

/-- A position of the longer list is one of the shorter, or the last. -/
theorem getElem?_append_cases {records : List (Record α)} {i : Nat} {q r : Record α}
    (h : (records ++ [r])[i]? = some q) :
    records[i]? = some q ∨ (i = records.length ∧ q = r) := by
  by_cases hlt : i < records.length
  · exact .inl (by rwa [List.getElem?_append_left hlt] at h)
  · have hle := (List.getElem?_eq_some_iff.1 h).1
    simp only [List.length_append, List.length_singleton] at hle
    obtain rfl : i = records.length := by omega
    rw [getElem?_append_last] at h
    exact .inr ⟨rfl, (Option.some.inj h).symm⟩

theorem Inv.append {l : Ledger α} (hi : Inv l) {base : String} {payload : α}
    {identity : Option String} (h : l.held? (l.slot? base identity) = none) :
    Inv (l.append (l.slot? base identity) (l.fresh base payload identity)) := by
  refine ⟨fun i r hr => ?_, fun key i hk => ?_, ?_⟩
  · rcases getElem?_append_cases hr with hr | ⟨rfl, rfl⟩
    · exact hi.named i r hr
    · exact ⟨base, rfl⟩
  · have hold : (key, i) ∈ l.slots → ∃ r, (l.append (l.slot? base identity)
        (l.fresh base payload identity)).records[i]? = some r ∧
        r.identity = some key.1 ∧ r.name = nameAt key.2 i := fun hm => by
      obtain ⟨r, hr, hrest⟩ := hi.held key i hm
      exact ⟨r, getElem?_append_of_some hr _, hrest⟩
    cases hs : l.slot? base identity with
    | none =>
      rw [hs] at hk hold
      exact hold hk
    | some slot =>
      rw [hs] at hk hold
      rcases List.mem_cons.1 hk with hnew | hm
      · -- The new slot leads to the new record.
        obtain ⟨rfl, rfl⟩ : key = slot ∧ i = l.size := by simpa using hnew
        obtain ⟨rfl, rfl⟩ := slot?_eq_some hs
        exact ⟨_, getElem?_append_last _ _, rfl, rfl⟩
      · exact hold hm
  · cases hs : l.slot? base identity with
    | none => exact hi.keys
    | some slot =>
      rw [hs] at h
      exact List.nodup_cons.2 ⟨hi.not_mem_of_held? h, hi.keys⟩

/-- A record may take the place of one with its name and identity. -/
theorem Inv.replace {l : Ledger α} (hi : Inv l) {i : Nat} {previous r : Record α}
    (hp : l.records[i]? = some previous) (hname : r.name = previous.name)
    (hid : r.identity = previous.identity) : Inv (l.replace i previous r) := by
  have hlt : i < l.records.length := (List.getElem?_eq_some_iff.1 hp).1
  refine ⟨fun j q hq => ?_, fun key j hk => ?_, hi.keys⟩
  · -- The name at the position is the old one, and so it ends in the position.
    by_cases hij : i = j
    · subst hij
      obtain rfl : r = q := by simpa [Ledger.replace, hlt] using hq
      obtain ⟨base, hb⟩ := hi.named i previous hp
      exact ⟨base, hname.trans hb⟩
    · exact hi.named j q (by simpa [Ledger.replace, hij] using hq)
  · obtain ⟨q, hq, hqid, hqn⟩ := hi.held key j hk
    by_cases hij : i = j
    · subst hij
      obtain rfl : previous = q := Option.some.inj (hp.symm.trans hq)
      exact ⟨r, by simp [Ledger.replace, hlt], hid.trans hqid, hname.trans hqn⟩
    · exact ⟨q, by simpa [Ledger.replace, hij] using hq, hqid, hqn⟩

/-- The record that holds a slot has its identity. -/
theorem Inv.identity_of_held? {l : Ledger α} (hi : Inv l) {base : String}
    {identity : Option String} {i : Nat} {previous : Record α}
    (h : l.held? (l.slot? base identity) = some (i, previous)) :
    l.records[i]? = some previous ∧ previous.identity = identity := by
  obtain ⟨key, hs, hl, hr⟩ := held?_eq_some.1 h
  obtain ⟨q, hq, hid, -⟩ := hi.held key i (mem_of_lookup hl)
  obtain rfl : previous = q := Option.some.inj (hr.symm.trans hq)
  exact ⟨hr, hid.trans (slot?_eq_some hs).1.symm⟩

theorem Inv.register {l l' : Ledger α} (hi : Inv l) {base : String} {payload : α}
    {identity : Option String} {r : Record α}
    (h : (l.register base payload identity).result = .ok (r, l')) : Inv l' := by
  rcases l.register_cases base payload identity with ⟨hn, he⟩ | ⟨i, previous, hs, -, he⟩ |
    ⟨i, previous, -, -, he⟩ <;> rw [he] at h <;> cases h
  · exact hi.append hn
  · obtain ⟨hr, hid⟩ := hi.identity_of_held? hs
    exact hi.replace hr rfl hid.symm

theorem Inv.markRendered {l : Ledger α} (hi : Inv l) : Inv l.markRendered := by
  refine ⟨fun i r hr => ?_, fun key i hk => ?_, hi.keys⟩
  · obtain ⟨q, hq, rfl⟩ := Option.map_eq_some_iff.1 ((List.getElem?_map ..).symm.trans hr)
    exact hi.named i q hq
  · obtain ⟨r, hr, hrest⟩ := hi.held key i hk
    exact ⟨{ r with rendered := true }, by simp [Ledger.markRendered, hr], hrest⟩

theorem Inv.reset (l : Ledger α) : Inv l.reset := by
  constructor <;> simp [Ledger.reset]

theorem Inv.after {l : Ledger α} (hi : Inv l) (operation : Operation α) :
    Inv (l.after operation) := by
  cases operation with
  | register base payload identity =>
    simp only [Ledger.after]
    split
    · exact hi.register ‹_›
    · exact hi
  | markRendered => exact hi.markRendered
  | reset => exact .reset l

/-- The invariant holds after every run. -/
theorem Inv.run {l : Ledger α} (hi : Inv l) (operations : List (Operation α)) :
    Inv (l.run operations) := by
  induction operations generalizing l with
  | nil => exact hi
  | cons operation rest ih => exact ih (hi.after operation)

/-! ## Names and slots are distinct -/

theorem Inv.names_nodup {l : Ledger α} (hi : Inv l) : (l.records.map Record.name).Nodup := by
  rw [List.Nodup, List.pairwise_map, List.pairwise_iff_getElem]
  intro i j hil hjl hij he
  obtain ⟨a, ha⟩ := hi.named i _ (List.getElem?_eq_getElem hil)
  obtain ⟨b, hb⟩ := hi.named j _ (List.getElem?_eq_getElem hjl)
  rw [ha, hb, nameAt_inj] at he
  omega

/-- Slots that lead to one position have the identity and the base of its record. -/
theorem Inv.positions_nodup {l : Ledger α} (hi : Inv l) : (l.slots.map Prod.snd).Nodup := by
  have hk := hi.keys
  rw [List.Nodup, List.pairwise_map] at hk ⊢
  refine hk.imp_of_mem fun {a b} ha hb hne he => hne ?_
  obtain ⟨r, hr, hid, hn⟩ := hi.held a.1 a.2 ha
  obtain ⟨q, hq, hqid, hqn⟩ := hi.held b.1 b.2 hb
  rw [he] at hr hn
  obtain rfl : r = q := Option.some.inj (hr.symm.trans hq)
  have hbase := (nameAt_inj.1 (hn.symm.trans hqn)).1
  exact Prod.ext (Option.some.inj (hid.symm.trans hqid)) hbase

/-- In every reachable ledger the name of a record ends in its position, names are pairwise
distinct, a slot leads to the one record that has its identity and a name of its base, and no two
slots lead to the same record. -/
theorem run_records_and_slots (aware : Bool) (operations : List (Operation α)) :
    let l := (empty aware).run operations
    (∀ (i : Nat) (r : Record α), l.records[i]? = some r →
      ∃ base, r.name = base ++ "-" ++ toString i) ∧
    (l.records.map Record.name).Nodup ∧
    (∀ identity base i, ((identity, base), i) ∈ l.slots → i < l.size ∧
      ∃ r : Record α, l.records[i]? = some r ∧ r.identity = some identity ∧
        r.name = base ++ "-" ++ toString i) ∧
    (l.slots.map Prod.fst).Nodup ∧ (l.slots.map Prod.snd).Nodup := by
  intro l
  have hi : Inv l := (inv_empty aware).run operations
  refine ⟨hi.named, hi.names_nodup, fun identity base i hs => ?_, hi.keys, hi.positions_nodup⟩
  obtain ⟨r, hr, hid, hn⟩ := hi.held _ i hs
  exact ⟨(List.getElem?_eq_some_iff.1 hr).1, r, hr, hid, hn⟩

end Stylesheet.Ledger
