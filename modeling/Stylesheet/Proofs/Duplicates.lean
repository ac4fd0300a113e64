import Mathlib.Data.List.Induction
import Stylesheet.Proofs.SlotHolders
/-!
# Duplicate registrations

A ledger refuses a registration by looking at one record, the one that holds the slot. That record
is the latest that was registered there, and it is rendered if records were marked since
(`Idle.held?_run`, `exists_latest_of_held?`). So the refusal is a matter of the history alone:
`register_fails_iff_pending`.
-/

namespace Stylesheet.Ledger

variable {α : Type} {l : Ledger α} {r q : Record α} {i : Nat} {base identity : String}
  {operation : Operation α} {operations later : List (Operation α)}

/-! ## Histories -/

/-- The operation registers the base for the identity, successfully, and so makes the record. -/
def Makes (l : Ledger α) (identity base : String) (r : Record α) : Operation α → Prop
  | .register b payload who => b = base ∧ who = some identity ∧
    ∃ l', (l.register b payload who).result = .ok (r, l')
  | .markRendered | .reset => False

/-- None of the operations registers the base for the identity successfully. -/
def Idle (l : Ledger α) (identity base : String) : List (Operation α) → Prop
  | [] => True
  | operation :: rest =>
    (∀ r, ¬ l.Makes identity base r operation) ∧ (l.after operation).Idle identity base rest

/-- The base was registered for the identity since the last reset of a new ledger. The latest
registration made the record, and the later operations came after it. -/
def Latest (operations : List (Operation α)) (identity base : String) (r : Record α)
    (later : List (Operation α)) : Prop :=
  ∃ earlier operation, operations = earlier ++ operation :: later ∧ .reset ∉ later ∧
    ((empty true).run earlier).Makes identity base r operation ∧
    (((empty true).run earlier).after operation).Idle identity base later

theorem idle_snoc : l.Idle identity base (later ++ [operation]) ↔
    l.Idle identity base later ∧ ∀ r, ¬ (l.run later).Makes identity base r operation := by
  induction later generalizing l with
  | nil => simp [Idle, run]
  | cons first rest ih =>
    rw [List.cons_append, Idle, Idle, ih, and_assoc]
    rfl

theorem Latest.snoc (h : Latest operations identity base r later) (hne : operation ≠ .reset)
    (hn : ∀ q, ¬ ((empty true).run operations).Makes identity base q operation) :
    Latest (operations ++ [operation]) identity base r (later ++ [operation]) := by
  obtain ⟨earlier, first, rfl, hreset, hm, hi⟩ := h
  refine ⟨earlier, first, by simp, ?_, hm, idle_snoc.2 ⟨hi, fun q => ?_⟩⟩
  · simp [hreset, hne.symm]
  · rw [← List.singleton_append, ← List.append_assoc, run_append, run_snoc] at hn
    exact hn q

/-- A new record is not rendered. -/
theorem Makes.rendered (h : l.Makes identity base r operation) : r.rendered = false := by
  cases operation with
  | markRendered | reset => exact h.elim
  | register b payload who =>
    obtain ⟨-, -, l', hr⟩ := h
    rcases l.register_cases b payload who with ⟨-, he⟩ | ⟨i, previous, -, -, he⟩ |
      ⟨i, previous, -, -, he⟩ <;> rw [he] at hr <;> cases hr <;> rfl

/-! ## Who holds the slot -/

/-- What one operation does to the holder of a slot. -/
theorem held?_after (hi : Inv l) (ha : l.identityAware = true) (identity base : String)
    (operation : Operation α) :
    -- The operation registers there.
    (∃ r i, l.Makes identity base r operation ∧
      (l.after operation).held? (some (identity, base)) = some (i, r)) ∨
    -- It empties the slot, or renders the holder.
    (operation = .reset ∧ (l.after operation).held? (some (identity, base)) = none) ∨
    (operation = .markRendered ∧ (l.after operation).held? (some (identity, base)) =
      (l.held? (some (identity, base))).map fun p => (p.1, { p.2 with rendered := true })) ∨
    -- It leaves the slot alone.
    (operation ≠ .reset ∧ operation ≠ .markRendered ∧
      (∀ r, ¬ l.Makes identity base r operation) ∧
      (l.after operation).held? (some (identity, base)) = l.held? (some (identity, base))) := by
  cases operation with
  | reset => exact .inr (.inl ⟨rfl, held?_reset _ _⟩)
  | markRendered => exact .inr (.inr (.inl ⟨rfl, held?_markRendered _ _⟩))
  | register b payload who =>
    cases h : (l.register b payload who).result with
    | error e =>
      refine .inr (.inr (.inr ⟨nofun, nofun, ?_, by rw [after_of_error h]⟩))
      rintro r ⟨-, -, l', hr⟩
      rw [h] at hr
      cases hr
    | ok answer =>
      obtain ⟨r, l'⟩ := answer
      rw [after_of_ok h]
      obtain ⟨hself, hother⟩ := hi.held?_register (identity, base) h
      by_cases hs : l.slot? b who = some (identity, base)
      · obtain ⟨i, hheld⟩ := hself hs
        obtain ⟨rfl, rfl⟩ := slot?_eq_some hs
        exact .inl ⟨r, i, ⟨rfl, rfl, l', h⟩, hheld⟩
      · refine .inr (.inr (.inr ⟨nofun, nofun, ?_, hother hs⟩))
        rintro q ⟨rfl, rfl, -⟩
        exact hs (slot?_of_aware ha _ _)

/-- While nothing is registered in a slot and nothing is reset, its holder stays, and is rendered
as soon as records are marked. -/
theorem Idle.held?_run (hq : l.Idle identity base later) (hi : Inv l) (ha : l.identityAware = true)
    (hn : .reset ∉ later) (hh : l.held? (some (identity, base)) = some (i, r)) :
    ∃ q, (l.run later).held? (some (identity, base)) = some (i, q) ∧ q.name = r.name ∧
      (q.rendered = true ↔ r.rendered = true ∨ .markRendered ∈ later) := by
  induction later generalizing l r with
  | nil => exact ⟨r, hh, rfl, by simp⟩
  | cons operation rest ih =>
    obtain ⟨hm, hq⟩ := hq
    obtain ⟨hne, hn⟩ : operation ≠ .reset ∧ .reset ∉ rest := by
      simpa [eq_comm] using hn
    have step := fun {p} => ih (r := p) hq (hi.after operation)
      ((l.identityAware_after operation).trans ha) hn
    rcases held?_after hi ha identity base operation with ⟨p, j, hp, -⟩ | ⟨rfl, -⟩ | ⟨rfl, hk⟩ |
      ⟨-, hmark, -, hk⟩
    · exact absurd hp (hm p)
    · exact absurd rfl hne
    · rw [hh] at hk
      obtain ⟨q, hq, hname, hr⟩ := step hk
      exact ⟨q, hq, hname, by simp [hr]⟩
    · obtain ⟨q, hq, hname, hr⟩ := step (hk.trans hh)
      exact ⟨q, hq, hname, by simp [hr, hmark.symm]⟩

/-- A slot is held by what was registered there. -/
theorem exists_latest_of_held? (operations : List (Operation α))
    (hh : ((empty true).run operations).held? (some (identity, base)) = some (i, q)) :
    ∃ r later, Latest operations identity base r later := by
  induction operations using List.reverseRecOn generalizing i q with
  | nil => cases hh
  | append_singleton operations operation ih =>
    have hi : Inv ((empty true).run operations) := (inv_empty true).run operations
    have ha : ((empty true).run operations : Ledger α).identityAware = true :=
      identityAware_run _ operations
    rw [run_snoc] at hh
    rcases held?_after hi ha identity base operation with ⟨r, j, hm, -⟩ | ⟨-, hk⟩ | ⟨rfl, hk⟩ |
      ⟨hne, -, hm, hk⟩
    · exact ⟨r, [], operations, operation, rfl, List.not_mem_nil, hm, trivial⟩
    · rw [hk] at hh
      cases hh
    · rw [hk] at hh
      obtain ⟨⟨j, p⟩, hp, -⟩ := Option.map_eq_some_iff.1 hh
      obtain ⟨r, later, hl⟩ := ih hp
      exact ⟨r, _, hl.snoc nofun fun _ => id⟩
    · obtain ⟨r, later, hl⟩ := ih (hk.symm.trans hh)
      exact ⟨r, _, hl.snoc hne hm⟩

/-- What the history says of a slot's holder. -/
theorem Latest.held? (h : Latest operations identity base r later) :
    ∃ i q, ((empty true).run operations).held? (some (identity, base)) = some (i, q) ∧
      q.name = r.name ∧ (q.rendered = true ↔ .markRendered ∈ later) := by
  obtain ⟨earlier, operation, rfl, hreset, hm, hidle⟩ := h
  have hi : Inv ((empty true).run earlier) := (inv_empty true).run earlier
  have ha : ((empty true).run earlier : Ledger α).identityAware = true :=
    identityAware_run _ earlier
  -- The record that the operation makes holds the slot right after it.
  obtain ⟨j, hj⟩ : ∃ j, (((empty true).run earlier).after operation).held?
      (some (identity, base)) = some (j, r) := by
    cases operation with
    | markRendered | reset => exact hm.elim
    | register b payload who =>
      obtain ⟨rfl, rfl, l', hr⟩ := hm
      rw [after_of_ok hr]
      exact (hi.held?_register _ hr).1 (slot?_of_aware ha _ _)
  obtain ⟨q, hq, hname, hr⟩ := hidle.held?_run (hi.after operation)
    ((identityAware_after _ operation).trans ha) hreset hj
  refine ⟨j, q, ?_, hname, by rw [hr, hm.rendered]; simp⟩
  rw [← hq, run_append]
  rfl

/-! ## Refusals -/

/-- Unless a slot is asked for, a registration succeeds. -/
theorem register_of_no_slot {payload : α} {who : Option String} (h : l.slot? base who = none) :
    ∃ answer, (l.register base payload who).result = .ok answer := by
  have held : l.held? (l.slot? base who) = none := by
    rw [h]
    rfl
  exact ⟨_, register_of_not_held held payload⟩

/-- A registration for an identity fails if the holder of its slot is not rendered. -/
theorem register_error_iff (ha : l.identityAware = true) {payload : α} {e : Failure} :
    (l.register base payload (some identity)).result = .error e ↔
      ∃ i q, l.held? (some (identity, base)) = some (i, q) ∧ q.rendered = false ∧
        e = .duplicate identity q.name := by
  have hslot := slot?_of_aware ha base identity
  rcases l.register_cases base payload (some identity) with ⟨hs, he⟩ | ⟨j, p, hs, hp, he⟩ |
    ⟨j, p, hs, hp, he⟩ <;> rw [hslot] at hs <;> rw [he, hs]
  · simp
  · simp only [reduceCtorEq, Option.some.injEq, Prod.mk.injEq, false_iff]
    rintro ⟨i, q, ⟨-, rfl⟩, hq, -⟩
    cases hp.symm.trans hq
  · constructor
    · intro h
      cases h
      exact ⟨j, p, rfl, hp, rfl⟩
    · rintro ⟨i, q, hq, -, rfl⟩
      cases hq
      rfl

theorem log_of_register_error {payload : α} {who : Option String} {e : Failure}
    (h : (l.register base payload who).result = .error e) :
    (l.register base payload who).log = [] := by
  rcases l.register_cases base payload who with ⟨-, he⟩ | ⟨i, q, -, -, he⟩ | ⟨i, q, -, -, he⟩ <;>
    rw [he] at h ⊢ <;> cases h
  rfl

/-- In every run of a new identity-aware ledger a registration for an identity fails exactly if the
same base was registered for that identity since the last reset and no record was marked as
rendered after its latest registration. The failure names that registration, and leaves the ledger
as it was and no record in the log. Without an identity, and where identities do not count, no
registration fails. -/
theorem register_fails_iff_pending (operations : List (Operation α)) (base : String) (payload : α) :
    let l := (empty true).run operations
    (∀ identity e, (l.register base payload (some identity)).result = .error e ↔
      ∃ r later, Latest operations identity base r later ∧ .markRendered ∉ later ∧
        e = .duplicate identity r.name) ∧
    (∀ who e, (l.register base payload who).result = .error e →
      l.after (.register base payload who) = l ∧ (l.register base payload who).log = []) ∧
    (∃ answer, (l.register base payload none).result = .ok answer) ∧
    ∀ who, ∃ answer, (((empty false).run operations).register base payload who).result =
      .ok answer := by
  intro l
  have ha : l.identityAware = true := identityAware_run _ operations
  refine ⟨fun identity e => ?_, fun who e h => ⟨after_of_error h, log_of_register_error h⟩,
    register_of_no_slot ?_, fun who => register_of_no_slot ?_⟩
  · rw [register_error_iff ha]
    constructor
    · -- The holder is the latest record, and it is not rendered.
      rintro ⟨i, q, hq, hr, rfl⟩
      obtain ⟨r, later, hl⟩ := exists_latest_of_held? operations hq
      obtain ⟨j, q', hq', hname, hmark⟩ := hl.held?
      obtain ⟨rfl, rfl⟩ : i = j ∧ q = q' := by simpa using hq.symm.trans hq'
      refine ⟨r, later, hl, fun hm => ?_, by rw [hname]⟩
      rw [hmark.2 hm] at hr
      cases hr
    · rintro ⟨r, later, hl, hmark, rfl⟩
      obtain ⟨i, q, hq, hname, hr⟩ := hl.held?
      exact ⟨i, q, hq, by simpa [hmark] using hr, by rw [hname]⟩
  · cases hs : l.slot? base none with
    | none => rfl
    | some key => cases (slot?_eq_some hs).1
  · have hf : ((empty false).run operations : Ledger α).identityAware = false :=
      identityAware_run _ operations
    simp [slot?, hf]

end Stylesheet.Ledger
