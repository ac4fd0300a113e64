import Mathlib.Data.List.TakeWhile
import Stylesheet.Proofs.Duplicates
import Stylesheet.Proofs.Reload
/-!
# Keys that are not repeated

An identity makes a difference only where its slot is held. While no base is registered for the
same identity again, no slot that is asked for is held (`KeysFresh.held?_eq_none`), so every
registration adds a record at the end, as it does in a ledger that does not look at identities.
-/

namespace Stylesheet.Ledger

variable {α : Type} {l m : Ledger α} {base identity : String} {operation : Operation α}
  {operations later : List (Operation α)}

/-! ## Keys -/

/-- The identity and the base that an operation registers, if it gives an identity. -/
def Operation.key? : Operation α → Option (String × String)
  | .register base _ identity => identity.map (·, base)
  | .markRendered | .reset => none

/-- Whether an operation forgets what was registered. -/
def Operation.isReset : Operation α → Bool
  | .reset => true
  | .register _ _ _ | .markRendered => false

/-- The keys registered before the next reset. -/
def keysUntilReset (operations : List (Operation α)) : List (String × String) :=
  (operations.takeWhile fun operation => !operation.isReset).filterMap Operation.key?

/-- No base is registered for an identity again before the next reset. -/
def KeysFresh : List (Operation α) → Prop
  | [] => True
  | operation :: later =>
    (∀ key, operation.key? = some key → key ∉ keysUntilReset later) ∧ KeysFresh later

theorem KeysFresh.of_append_right {earlier : List (Operation α)}
    (h : KeysFresh (earlier ++ later)) : KeysFresh later := by
  induction earlier with
  | nil => exact h
  | cons operation rest ih => exact ih h.2

theorem keysUntilReset_subset (operations more : List (Operation α)) :
    keysUntilReset operations ⊆ keysUntilReset (operations ++ more) := by
  refine List.filterMap_subset _ (List.IsPrefix.subset ?_)
  rw [List.takeWhile_append]
  split
  · next h =>
    rw [(List.takeWhile_prefix _).eq_of_length h]
    exact List.prefix_append ..
  · exact List.prefix_rfl

theorem KeysFresh.of_append_left (h : KeysFresh (operations ++ later)) : KeysFresh operations := by
  induction operations with
  | nil => trivial
  | cons operation rest ih =>
    obtain ⟨hk, hrest⟩ := h
    exact ⟨fun key hkey hm => hk key hkey (keysUntilReset_subset rest later hm), ih hrest⟩

/-- With no reset on the way, the key of the last operation is among the keys. -/
theorem mem_keysUntilReset {key : String × String} (hn : .reset ∉ later)
    (hk : operation.key? = some key) : key ∈ keysUntilReset (later ++ [operation]) := by
  have hall : ∀ o ∈ later ++ [operation], (!o.isReset) = true := by
    intro o ho
    rcases List.mem_append.1 ho with ho | ho
    · cases o with
      | reset => exact absurd ho hn
      | register | markRendered => rfl
    · obtain rfl := List.mem_singleton.1 ho
      cases o with
      | reset => cases hk
      | register | markRendered => rfl
  rw [keysUntilReset, List.takeWhile_eq_self_iff.2 hall]
  exact List.mem_filterMap.2 ⟨operation, by simp, hk⟩

/-- The slot of a fresh key is empty: whoever held it would be of an earlier registration of the
same key, with no reset in between. -/
theorem KeysFresh.held?_eq_none {payload : α} {who : Option String}
    (h : KeysFresh (operations ++ [.register base payload who])) :
    let l := (empty true).run operations
    l.held? (l.slot? base who) = none := by
  intro l
  have ha : l.identityAware = true := identityAware_run _ operations
  cases who with
  | none => simp [slot?, held?]
  | some identity =>
    rw [slot?_of_aware ha]
    cases hh : l.held? (some (identity, base)) with
    | none => rfl
    | some holder =>
      obtain ⟨i, q⟩ := holder
      obtain ⟨r, later, earlier, first, rfl, hreset, hmakes, -⟩ :=
        exists_latest_of_held? operations hh
      rw [List.append_assoc, List.cons_append] at h
      cases first with
      | markRendered | reset => exact hmakes.elim
      | register b p who =>
        obtain ⟨rfl, rfl, -⟩ := hmakes
        exact absurd (mem_keysUntilReset hreset rfl) (h.of_append_right.1 (identity, b) rfl)

/-! ## The same records -/

/-- Ledgers with the same records, whatever slots these have. -/
structure SameRecords (l m : Ledger α) : Prop where
  records : l.records = m.records
  issued : l.issued = m.issued
  superseded : l.superseded = m.superseded

theorem SameRecords.isRendered (h : l.SameRecords m) (serial : Nat) :
    l.isRendered serial = m.isRendered serial := by
  simp only [Ledger.isRendered, h.records, h.superseded]

theorem SameRecords.append (h : l.SameRecords m) (slot slot' : Option (String × String))
    (r : Record α) : (l.append slot r).SameRecords (m.append slot' r) where
  records := congrArg (· ++ [r]) h.records
  issued := congrArg (· + 1) h.issued
  superseded := h.superseded

/-- The record that a registration adds is settled by the records that are there. -/
theorem SameRecords.fresh (h : l.SameRecords m) (payload : α) (who : Option String) :
    l.fresh base payload who = m.fresh base payload who := by
  simp only [Ledger.fresh, size, h.records, h.issued]

/-- Where no slot that is asked for is held, an operation answers the same in both ledgers, without
a failure, and leaves the same records. -/
theorem SameRecords.after (h : l.SameRecords m) (operation : Operation α)
    (hl : ∀ base payload who, operation = .register base payload who →
      l.held? (l.slot? base who) = none)
    (hm : m.identityAware = false) :
    (∃ name, l.answer operation = .ok name ∧ m.answer operation = .ok name) ∧
      (l.after operation).SameRecords (m.after operation) := by
  cases operation with
  | register base payload who =>
    have hln := hl base payload who rfl
    have hmn : m.held? (m.slot? base who) = none := by simp [slot?, hm, held?]
    have hlr := register_of_not_held hln payload
    have hmr := register_of_not_held hmn payload
    refine ⟨⟨_, by rw [answer, hlr]; rfl, ?_⟩, ?_⟩
    · rw [answer, hmr, h.fresh]
      rfl
    · rw [after_of_ok hlr, after_of_ok hmr, h.fresh]
      exact h.append _ _ _
  | markRendered =>
    refine ⟨⟨none, rfl, rfl⟩, ?_, h.issued, h.superseded⟩
    exact congrArg (List.map fun r : Record α => { r with rendered := true }) h.records
  | reset => exact ⟨⟨none, rfl, rfl⟩, rfl, h.issued, h.superseded⟩

/-- The two ledgers stay together through a whole run. -/
theorem KeysFresh.run (h : KeysFresh operations) :
    (∃ names : List (Option String), (empty true).answers operations = names.map .ok ∧
      (empty false).answers operations = names.map .ok) ∧
    ((empty true).run operations).SameRecords ((empty false).run operations) := by
  induction operations using List.reverseRecOn with
  | nil => exact ⟨⟨[], rfl, rfl⟩, rfl, rfl, rfl⟩
  | append_singleton operations operation ih =>
    obtain ⟨⟨names, haware, hplain⟩, hsame⟩ := ih h.of_append_left
    obtain ⟨⟨name, hl, hm⟩, hafter⟩ := hsame.after operation
      (fun base payload who ho => by subst ho; exact h.held?_eq_none)
      (identityAware_run _ operations)
    refine ⟨⟨names ++ [name], ?_, ?_⟩, ?_⟩
    · rw [answers_append, haware, List.map_append]
      exact congrArg (fun a => _ ++ [a]) hl
    · rw [answers_append, hplain, List.map_append]
      exact congrArg (fun a => _ ++ [a]) hm
    · rw [run_snoc, run_snoc]
      exact hafter

/-- As long as no base is registered for one identity twice without a reset in between, a ledger
that looks at identities and one that does not give the same names and never refuse a registration.
After every step they hold the same records in the same order, with the same names and payloads,
rendered or not, and every record ever registered counts as rendered in both or in neither. -/
theorem run_of_fresh_keys (operations : List (Operation α)) (h : KeysFresh operations) :
    (∃ names : List (Option String), (empty true).answers operations = names.map .ok ∧
      (empty false).answers operations = names.map .ok) ∧
    ∀ done, done <+: operations →
      ((empty true).run done).records = ((empty false).run done).records ∧
      ∀ serial, ((empty true).run done).isRendered serial =
        ((empty false).run done).isRendered serial := by
  refine ⟨h.run.1, fun done hd => ?_⟩
  obtain ⟨rest, rfl⟩ := hd
  obtain ⟨-, hsame⟩ := h.of_append_left.run
  exact ⟨hsame.records, hsame.isRendered⟩

/-- One identity with two bases, two registrations without an identity, and the first key again
after a reset. -/
theorem run_of_fresh_keys_reset :
    let operations : List (Operation Nat) := [.register "a" 0 (some "x"),
      .register "b" 1 (some "x"), .register "a" 2 none, .markRendered, .register "a" 3 none, .reset,
      .register "a" 4 (some "x")]
    KeysFresh operations ∧
      (empty true).answers operations = [.ok (some "a-0"), .ok (some "b-1"), .ok (some "a-2"),
        .ok none, .ok (some "a-3"), .ok none, .ok (some "a-0")] ∧
      ((empty true).run (operations.take 5)).contents = [("a-0", 0, true, some "x"),
        ("b-1", 1, true, some "x"), ("a-2", 2, true, none), ("a-3", 3, false, none)] ∧
      ((empty true).run (operations.take 5)).records =
        ((empty false).run (operations.take 5)).records := by
  intro operations
  have hk : KeysFresh operations := by simp [operations, KeysFresh, keysUntilReset,
    Operation.key?, Operation.isReset]
  have h := run_of_fresh_keys operations hk
  exact ⟨hk, rfl, rfl, (h.2 _ (List.take_prefix 5 operations)).1⟩

end Stylesheet.Ledger
