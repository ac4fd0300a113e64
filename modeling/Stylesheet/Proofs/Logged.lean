import Stylesheet.Log
/-!
# Computations that log and succeed

What it takes for a computation to succeed with some records and a result, for the ways of putting
computations together.
-/

namespace Stylesheet.Logged

variable {α β γ : Type}

instance : LawfulMonad Logged := LawfulMonad.mk' Logged
  (fun ⟨log, result⟩ => by cases result <;> simp [Functor.map, Logged.bind])
  (fun a f => by simp [Bind.bind, Pure.pure, Logged.bind])
  (fun ⟨log, result⟩ f g => by
    cases result with
    | error e => rfl
    | ok a =>
      simp only [Bind.bind, Logged.bind]
      split <;> simp)

/-! ## One step -/

theorem pure_eq_ok {a b : α} {log : List LogRecord} :
    (pure a : Logged α) = ⟨log, .ok b⟩ ↔ log = [] ∧ a = b := by
  show (⟨[], .ok a⟩ : Logged α) = _ ↔ _
  simp [eq_comm]

theorem fail_ne_ok {e : Failure} {log : List LogRecord} {b : α} : fail e ≠ ⟨log, .ok b⟩ := by
  simp [fail, ofExcept]

theorem ofExcept_eq_ok {x : Except Failure α} {log : List LogRecord} {b : α} :
    ofExcept x = ⟨log, .ok b⟩ ↔ log = [] ∧ x = .ok b := by
  simp [ofExcept, eq_comm]

/-! ## Two steps -/

/-- Two steps succeed if both do; the records of the first come first. -/
theorem bind_eq_ok {x : Logged α} {f : α → Logged β} {log : List LogRecord} {b : β} :
    x >>= f = ⟨log, .ok b⟩ ↔
      ∃ l a m, x = ⟨l, .ok a⟩ ∧ f a = ⟨m, .ok b⟩ ∧ log = l ++ m := by
  obtain ⟨l, _ | a⟩ := x
  · simp [Bind.bind, Logged.bind]
  · constructor
    · intro h
      simp only [Bind.bind, Logged.bind, Logged.mk.injEq] at h
      exact ⟨l, a, (f a).log, rfl, by rw [← h.2], h.1.symm⟩
    · rintro ⟨l', a', m, hx, hf, rfl⟩
      cases hx
      simp [Bind.bind, Logged.bind, hf]

/-- A first step that cannot log leaves the records to the second. -/
theorem ofExcept_bind_eq_ok {x : Except Failure α} {f : α → Logged β} {log : List LogRecord}
    {b : β} : ofExcept x >>= f = ⟨log, .ok b⟩ ↔ ∃ a, x = .ok a ∧ f a = ⟨log, .ok b⟩ := by
  rw [bind_eq_ok]
  constructor
  · rintro ⟨l, a, m, hx, hf, rfl⟩
    obtain ⟨rfl, ha⟩ := ofExcept_eq_ok.1 hx
    exact ⟨a, ha, hf⟩
  · rintro ⟨a, rfl, hf⟩
    exact ⟨[], a, log, rfl, hf, rfl⟩

theorem map_eq_ok {x : Logged α} {g : α → β} {log : List LogRecord} {b : β} :
    (do return g (← x)) = ⟨log, .ok b⟩ ↔ ∃ a, x = ⟨log, .ok a⟩ ∧ b = g a := by
  rw [bind_eq_ok]
  constructor
  · rintro ⟨l, a, m, hx, hp, rfl⟩
    obtain ⟨rfl, rfl⟩ := pure_eq_ok.1 hp
    exact ⟨a, by simpa using hx, rfl⟩
  · rintro ⟨a, hx, rfl⟩
    exact ⟨log, a, [], hx, rfl, by simp⟩

/-- Two results are put together if both are there. -/
theorem both_eq_ok {x : Logged α} {y : Logged β} {g : α → β → γ} {log : List LogRecord} {c : γ} :
    (do let a ← x; let b ← y; return g a b) = ⟨log, .ok c⟩ ↔
      ∃ l a m b, x = ⟨l, .ok a⟩ ∧ y = ⟨m, .ok b⟩ ∧ log = l ++ m ∧ c = g a b := by
  rw [bind_eq_ok]
  constructor
  · rintro ⟨l, a, m, hx, h, rfl⟩
    obtain ⟨b, hy, rfl⟩ := map_eq_ok.1 h
    exact ⟨l, a, m, b, hx, hy, rfl, rfl⟩
  · rintro ⟨l, a, m, b, hx, hy, rfl, rfl⟩
    exact ⟨l, a, m, hx, map_eq_ok.2 ⟨b, hy, rfl⟩, rfl⟩

/-! ## Results alone -/

theorem result_bind (x : Logged α) (f : α → Logged β) :
    (x >>= f).result = x.result >>= fun a => (f a).result := by
  obtain ⟨log, _ | a⟩ := x <;> rfl

theorem result_map (g : α → β) (x : Logged α) :
    (do return g (← x) : Logged β).result = x.result.map g := by
  obtain ⟨log, _ | a⟩ := x <;> rfl

theorem result_bind_eq_ok {x : Logged α} {f : α → Logged β} {b : β} :
    (x >>= f).result = .ok b ↔ ∃ a, x.result = .ok a ∧ (f a).result = .ok b := by
  rw [result_bind, Failure.bind_eq_ok]

theorem result_bind_of_error {x : Logged α} {f : α → Logged β} {e : Failure}
    (h : x.result = .error e) : (x >>= f).result = .error e := by
  rw [result_bind, h]
  rfl

/-- The same without the records. -/
def silent (x : Logged α) : Logged α := ofExcept x.result

theorem silent_ofExcept (x : Except Failure α) : (ofExcept x).silent = ofExcept x := rfl

theorem silent_pure (a : α) : (pure a : Logged α).silent = pure a := rfl

/-- Records along the way make no difference to the result. -/
theorem silent_bind (x : Logged α) (f : α → Logged β) :
    (x >>= f).silent = x.silent >>= fun a => (f a).silent := by
  obtain ⟨l, _ | a⟩ := x <;> rfl

/-! ## Records alone -/

theorem log_bind_of_ok {x : Logged α} {f : α → Logged β} {a : α} (h : x.result = .ok a) :
    (x >>= f).log = x.log ++ (f a).log := by
  obtain ⟨l, _ | a⟩ := x <;> cases h
  rfl

theorem log_bind_of_error {x : Logged α} {f : α → Logged β} {e : Failure}
    (h : x.result = .error e) : (x >>= f).log = x.log := by
  obtain ⟨l, _ | a⟩ := x <;> cases h
  rfl

/-- A last step that cannot log leaves the records as they are. -/
theorem log_bind_of_silent {x : Logged α} {f : α → Logged β} (hf : ∀ a, (f a).log = []) :
    (x >>= f).log = x.log := by
  cases hx : x.result with
  | error e => exact log_bind_of_error hx
  | ok a => rw [log_bind_of_ok hx, hf, List.append_nil]

/-! ## Each item in order -/

theorem forEach_append (f : α → Logged β) (as rest : List α) :
    forEach f (as ++ rest) = do
      let own ← forEach f as
      let more ← forEach f rest
      return own ++ more := by
  induction as with
  | nil => simp [forEach]
  | cons a as ih => simp [forEach, ih]

theorem forEach_map (f : β → Logged γ) (g : α → β) (as : List α) :
    forEach f (as.map g) = forEach (fun a => f (g a)) as := by
  induction as with
  | nil => rfl
  | cons a as ih => rw [List.map_cons, forEach, forEach, ih]

/-- A change to each result is a change to all results. -/
theorem forEach_bind_pure (f : α → Logged β) (g : β → γ) (as : List α) :
    forEach (fun a => do return g (← f a)) as = do return (← forEach f as).map g := by
  induction as with
  | nil => simp [forEach]
  | cons a as ih => simp only [forEach, bind_assoc, pure_bind, ih, List.map_cons]

theorem forEach_cons_eq_ok {f : α → Logged β} {a : α} {rest : List α} {log : List LogRecord}
    {bs : List β} : forEach f (a :: rest) = ⟨log, .ok bs⟩ ↔ ∃ l b m more, f a = ⟨l, .ok b⟩ ∧
      forEach f rest = ⟨m, .ok more⟩ ∧ log = l ++ m ∧ bs = b :: more := both_eq_ok

theorem forEach_flatten (f : α → Logged β) (parts : List (List α)) :
    forEach f parts.flatten = do return (← forEach (forEach f) parts).flatten := by
  induction parts with
  | nil => simp [forEach]
  | cons part rest ih =>
    rw [List.flatten_cons, forEach_append, ih, forEach]
    simp only [bind_assoc, pure_bind, List.flatten_cons]

theorem silent_forEach (f : α → Logged β) (as : List α) :
    (forEach f as).silent = forEach (fun a => (f a).silent) as := by
  induction as with
  | nil => rfl
  | cons a rest ih => simp only [forEach, silent_bind, silent_pure, ih]

/-- The items that it is done to: all up to the first failure, which is the last of them. -/
def reached (f : α → Logged β) : List α → List α
  | [] => []
  | a :: rest =>
    match (f a).result with
    | .ok _ => a :: reached f rest
    | .error _ => [a]

theorem log_forEach (f : α → Logged β) (as : List α) :
    (forEach f as).log = (reached f as).flatMap fun a => (f a).log := by
  induction as with
  | nil => rfl
  | cons a rest ih =>
    rw [forEach, reached]
    cases ha : (f a).result with
    | error e =>
      rw [log_bind_of_error ha]
      exact (List.append_nil _).symm
    | ok b =>
      have more : (do let bs ← forEach f rest; return b :: bs : Logged (List β)).log =
          (forEach f rest).log := log_bind_of_silent fun _ => rfl
      rw [log_bind_of_ok ha, more, ih, List.flatMap_cons]

theorem mem_of_mem_reached {f : α → Logged β} {as : List α} {a : α} (h : a ∈ reached f as) :
    a ∈ as := by
  induction as with
  | nil => cases h
  | cons b rest ih =>
    rw [reached] at h
    split at h
    · exact List.mem_cons.2 ((List.mem_cons.1 h).imp_right ih)
    · exact List.mem_cons.2 (.inl (List.mem_singleton.1 h))

/-- Nothing is left out when all goes well. -/
theorem reached_of_ok {f : α → Logged β} {as : List α} {bs : List β}
    (h : (forEach f as).result = .ok bs) : reached f as = as := by
  induction as generalizing bs with
  | nil => rfl
  | cons a rest ih =>
    obtain ⟨b, hb, h⟩ := result_bind_eq_ok.1 h
    obtain ⟨more, hm, -⟩ := result_bind_eq_ok.1 h
    rw [reached, hb, ih hm]

/-- What comes out comes from an item. -/
theorem exists_mem_of_forEach {f : α → Logged β} {as : List α} {log : List LogRecord} {bs : List β}
    (h : forEach f as = ⟨log, .ok bs⟩) {b : β} (hb : b ∈ bs) :
    ∃ a ∈ as, ∃ l, f a = ⟨l, .ok b⟩ := by
  induction as generalizing log bs with
  | nil =>
    obtain ⟨-, rfl⟩ := pure_eq_ok.1 h
    cases hb
  | cons a rest ih =>
    obtain ⟨l, c, m, more, hc, hm, rfl, rfl⟩ := forEach_cons_eq_ok.1 h
    rcases List.mem_cons.1 hb with rfl | hb
    · exact ⟨a, List.mem_cons_self, l, hc⟩
    · obtain ⟨x, hx, hxb⟩ := ih hm hb
      exact ⟨x, List.mem_cons_of_mem _ hx, hxb⟩

end Stylesheet.Logged
