import Stylesheet.Proofs.SlotHolders
/-!
# Reloading

Modules that are loaded again register again in the slots they have. When everything had reached
the stylesheet before, each registration takes the place of the one before it in its slot, and
`Reloaded` says position by position what comes of that. It does not speak of the order of the
registrations, so the order does not matter, and it leaves slots and names alone, so the ledger
can be reloaded again.
-/

namespace Stylesheet.Ledger

variable {α : Type} {l l' l'' : Ledger α} {r previous : Record α} {i : Nat}
  {key : String × String} {entries entries' : List ((String × String) × α)}

/-! ## Answers -/

/-- What an operation answers: the name of what it registers. -/
def answer (l : Ledger α) : Operation α → Except Failure (Option String)
  | .register base payload identity =>
    (l.register base payload identity).result.map fun a => some a.1.name
  | .markRendered | .reset => .ok none

/-- The answers of operations, one after the other. -/
def answers (l : Ledger α) : List (Operation α) → List (Except Failure (Option String))
  | [] => []
  | operation :: rest => l.answer operation :: (l.after operation).answers rest

theorem answers_append (l : Ledger α) (operations more : List (Operation α)) :
    l.answers (operations ++ more) = l.answers operations ++ (l.run operations).answers more := by
  induction operations generalizing l with
  | nil => rfl
  | cons operation rest ih => exact congrArg (_ :: ·) (ih (l.after operation))

/-! ## Reloads -/

/-- Registers each payload in its slot. -/
def registrations (entries : List ((String × String) × α)) : List (Operation α) :=
  entries.map fun e => .register e.1.2 e.2 (some e.1.1)

/-- The name in a slot. -/
def nameOf? (l : Ledger α) (key : String × String) : Option String :=
  (l.held? (some key)).map fun p => p.2.name

/-- What the records hold, by position. -/
def contents (l : Ledger α) : List (String × α × Bool × Option String) :=
  l.records.map fun r => (r.name, r.payload, r.rendered, r.identity)

/-- The entries are for different slots, and all of these are there. -/
structure Fills (l : Ledger α) (entries : List ((String × String) × α)) : Prop where
  once : (entries.map Prod.fst).Nodup
  present : ∀ e ∈ entries, e.1 ∈ l.slots.map Prod.fst

/-- A ledger with the payloads of some entries in their slots, under the names that were there. -/
structure Reloaded (l : Ledger α) (entries : List ((String × String) × α)) (l' : Ledger α) :
    Prop where
  slots : l'.slots = l.slots
  size : l'.size = l.size
  others : ∀ i r, l.records[i]? = some r → (∀ e ∈ entries, (e.1, i) ∉ l.slots) →
    l'.records[i]? = some r
  filled : ∀ e ∈ entries, ∀ i r, l.held? (some e.1) = some (i, r) →
    ∃ q, l'.records[i]? = some q ∧ q.name = r.name ∧ q.payload = e.2 ∧ q.rendered = false ∧
      q.identity = r.identity

/-- One registration in a slot whose holder is rendered. -/
theorem register_of_rendered (ha : l.identityAware = true)
    (hh : l.held? (some key) = some (i, previous)) (hr : previous.rendered = true) (payload : α) :
    ∃ q, (l.register key.2 payload (some key.1)).result = .ok (q, l.replace i previous q) ∧
      q.name = previous.name ∧ q.payload = payload ∧ q.rendered = false ∧
      q.identity = some key.1 := by
  have hs : l.held? (l.slot? key.2 (some key.1)) = some (i, previous) := by
    rw [slot?_of_aware ha]
    exact hh
  rcases l.register_cases key.2 payload (some key.1) with ⟨hn, -⟩ | ⟨j, p, hp, -, he⟩ |
    ⟨j, p, hp, hf, -⟩
  · cases hn.symm.trans hs
  · cases hp.symm.trans hs
    rw [he]
    exact ⟨_, rfl, rfl, rfl, rfl, rfl⟩
  · cases hp.symm.trans hs
    cases hr.symm.trans hf

theorem reloaded_nil (l : Ledger α) : l.Reloaded [] l :=
  ⟨rfl, rfl, fun _ _ h _ => h, nofun⟩

/-- The first entry is put in its slot, then the rest are put in theirs. -/
theorem Reloaded.cons {e : (String × String) × α} {q : Record α} (hi : Inv l)
    (hi' : Inv (l.replace i previous q)) (hh : l.held? (some e.1) = some (i, previous))
    (hname : q.name = previous.name) (hpayload : q.payload = e.2) (hflag : q.rendered = false)
    (hid : q.identity = some e.1.1) (hn : ∀ d ∈ entries, e.1 ≠ d.1)
    (h : (l.replace i previous q).Reloaded entries l') : l.Reloaded (e :: entries) l' := by
  obtain ⟨hm, hp⟩ := hi.held?_eq_some_iff.1 hh
  have hlt : i < l.records.length := (List.getElem?_eq_some_iff.1 hp).1
  refine ⟨h.slots, h.size.trans ?_, fun j r hj hout => ?_, fun d hd j r hdh => ?_⟩
  · simp [Ledger.size, Ledger.replace]
  · have hij : i ≠ j := by
      rintro rfl
      exact hout e List.mem_cons_self hm
    refine h.others j r ?_ fun d hd => hout d (List.mem_cons_of_mem _ hd)
    simpa [Ledger.replace, hij] using hj
  · rcases List.mem_cons.1 hd with rfl | hd
    · -- The other entries have other positions, so what was put here stays.
      obtain ⟨rfl, rfl⟩ : j = i ∧ r = previous := by simpa using hdh.symm.trans hh
      refine ⟨q, h.others j q ?_ fun c hc hcm => hn c hc (hi.key_unique hm hcm), hname, hpayload,
        hflag, ?_⟩
      · simp [Ledger.replace, hlt]
      · obtain ⟨p, hp', hpid, -⟩ := hi.held _ _ hm
        obtain rfl : r = p := Option.some.inj (hp.symm.trans hp')
        exact hid.trans hpid.symm
    · refine h.filled d hd j r ?_
      rw [hi.held?_replace_of_ne hi' hm (hn d hd), hdh]

/-- Registering in slots whose holders are rendered fails nowhere and answers the names there. -/
theorem run_registrations (hi : Inv l) (ha : l.identityAware = true)
    (hn : (entries.map Prod.fst).Nodup)
    (hh : ∀ e ∈ entries, ∃ i r, l.held? (some e.1) = some (i, r) ∧ r.rendered = true) :
    l.Reloaded entries (l.run (registrations entries)) ∧
      l.answers (registrations entries) = entries.map fun e => .ok (l.nameOf? e.1) := by
  induction entries generalizing l with
  | nil => exact ⟨reloaded_nil l, rfl⟩
  | cons e rest ih =>
    obtain ⟨i, previous, hheld, hr⟩ := hh e List.mem_cons_self
    obtain ⟨q, hq, hname, hpayload, hflag, hid⟩ := register_of_rendered ha hheld hr e.2
    obtain ⟨hne, hn⟩ := List.nodup_cons.1 hn
    have hne : ∀ d ∈ rest, e.1 ≠ d.1 := fun d hd h => hne (List.mem_map.2 ⟨d, hd, h.symm⟩)
    have hi' := hi.register hq
    -- The slots of the rest are still held by the same records.
    have hother : ∀ d ∈ rest, (l.replace i previous q).held? (some d.1) = l.held? (some d.1) :=
      fun d hd => hi.held?_replace_of_ne hi' (mem_slots_of_held? hheld) (hne d hd)
    have hafter := after_of_ok hq
    obtain ⟨hrun, hanswers⟩ := ih hi' ((identityAware_register hq).trans ha) hn fun d hd => by
      rw [hother d hd]
      exact hh d (List.mem_cons_of_mem _ hd)
    constructor
    · show l.Reloaded _ ((l.after (.register e.1.2 e.2 (some e.1.1))).run (registrations rest))
      rw [hafter]
      exact .cons hi hi' hheld hname hpayload hflag hid hne hrun
    · show l.answer (.register e.1.2 e.2 (some e.1.1)) ::
        (l.after (.register e.1.2 e.2 (some e.1.1))).answers (registrations rest) = _
      rw [hafter, hanswers, List.map_cons]
      congr 1
      · simp only [answer, hq, nameOf?, hheld, Except.map, Option.map_some, hname]
      · refine List.map_congr_left fun d hd => ?_
        simp only [nameOf?, hother d hd]

/-! ## What a reload leaves -/

/-- Each position holds what an entry puts there, or what it held. -/
theorem Reloaded.cases_at (h : l.Reloaded entries l') (hi : Inv l) (hr : l.records[i]? = some r) :
    (∃ e ∈ entries, l.held? (some e.1) = some (i, r) ∧ ∃ q, l'.records[i]? = some q ∧
      q.name = r.name ∧ q.payload = e.2 ∧ q.rendered = false ∧ q.identity = r.identity) ∨
    ((∀ e ∈ entries, (e.1, i) ∉ l.slots) ∧ l'.records[i]? = some r) := by
  by_cases hin : ∃ e ∈ entries, (e.1, i) ∈ l.slots
  · obtain ⟨e, he, hm⟩ := hin
    have hheld := hi.held?_eq_some_iff.2 ⟨hm, hr⟩
    exact .inl ⟨e, he, hheld, h.filled e he i r hheld⟩
  · have hout : ∀ e ∈ entries, (e.1, i) ∉ l.slots := fun e he hm => hin ⟨e, he, hm⟩
    exact .inr ⟨hout, h.others i r hr hout⟩

theorem Reloaded.getElem?_eq_none (h : l.Reloaded entries l') (hr : l.records[i]? = none) :
    l'.records[i]? = none := by
  rw [List.getElem?_eq_none_iff] at hr ⊢
  have := h.size
  simp only [Ledger.size] at this
  omega

theorem Reloaded.names (h : l.Reloaded entries l') (hi : Inv l) :
    l'.records.map Record.name = l.records.map Record.name := by
  ext1 i
  rw [List.getElem?_map, List.getElem?_map]
  cases hr : l.records[i]? with
  | none => rw [h.getElem?_eq_none hr]
  | some r =>
    rcases h.cases_at hi hr with ⟨e, -, -, q, hq, hname, -⟩ | ⟨-, hq⟩
    · rw [hq, Option.map_some, Option.map_some, hname]
    · rw [hq]

/-- What comes of a reload is a matter of which entries there are. -/
theorem Reloaded.contents_eq (h : l.Reloaded entries l') (h' : l.Reloaded entries' l'')
    (hi : Inv l) (hsame : ∀ e, e ∈ entries ↔ e ∈ entries') : l'.contents = l''.contents := by
  ext1 i
  simp only [contents, List.getElem?_map]
  cases hr : l.records[i]? with
  | none => rw [h.getElem?_eq_none hr, h'.getElem?_eq_none hr]
  | some r =>
    rcases h.cases_at hi hr with ⟨e, he, hheld, q, hq, hn, hp, hf, hd⟩ | ⟨hout, hq⟩
    · obtain ⟨q', hq', hn', hp', hf', hd'⟩ := h'.filled e ((hsame e).1 he) i r hheld
      simp only [hq, hq', Option.map_some, hn, hp, hf, hd, hn', hp', hf', hd']
    · have hq' := h'.others i r hr fun e he => hout e ((hsame e).2 he)
      rw [hq, hq']

theorem nameOf?_eq (l : Ledger α) (key : String × String) :
    l.nameOf? key = (l.slots.lookup key).bind fun i => (l.records.map Record.name)[i]? := by
  simp only [nameOf?, held?, Option.bind_eq_bind, Option.bind_some]
  cases l.slots.lookup key with
  | none => rfl
  | some i => cases hr : l.records[i]? <;> simp [hr]

/-- In a rendered ledger the holders of slots are rendered. -/
theorem Fills.held (h : l.Fills entries) (hi : Inv l) (hr : ∀ r ∈ l.records, r.rendered = true) :
    ∀ e ∈ entries, ∃ i r, l.held? (some e.1) = some (i, r) ∧ r.rendered = true := by
  intro e he
  obtain ⟨⟨k, i⟩, hm, hk⟩ := List.mem_map.1 (h.present e he)
  obtain rfl : k = e.1 := hk
  obtain ⟨r, hri, -⟩ := hi.held _ i hm
  exact ⟨i, r, hi.held?_eq_some_iff.2 ⟨hm, hri⟩, hr r (List.mem_of_getElem? hri)⟩

/-- Any number of reloads, each followed by marking, keep all names. -/
theorem run_reloads (hi : Inv l) (ha : l.identityAware = true)
    (hr : ∀ r ∈ l.records, r.rendered = true)
    (rounds : List (List ((String × String) × α))) (hf : ∀ round ∈ rounds, l.Fills round) :
    let reloads := rounds.flatMap fun round => registrations round ++ [.markRendered]
    (l.run reloads).records.map Record.name = l.records.map Record.name ∧
    l.answers reloads =
      rounds.flatMap fun round => round.map (fun e => .ok (l.nameOf? e.1)) ++ [.ok none] := by
  induction rounds generalizing l with
  | nil => exact ⟨rfl, rfl⟩
  | cons round rest ih =>
    have hfirst := hf round List.mem_cons_self
    obtain ⟨h, hanswers⟩ := run_registrations hi ha hfirst.once (hfirst.held hi hr)
    have hi' : Inv (l.run (registrations round)) := hi.run _
    have hnames : (l.run (registrations round)).markRendered.records.map Record.name =
        l.records.map Record.name := by
      rw [← h.names hi]
      simp [Ledger.markRendered, Function.comp_def]
    -- Slots and names are as before, and everything is rendered again.
    obtain ⟨hmore, hrest⟩ := ih (l := (l.run (registrations round)).markRendered)
      hi'.markRendered ((identityAware_run l _).trans ha)
      (fun r hm => by
        obtain ⟨p, -, rfl⟩ := List.mem_map.1 hm
        rfl)
      (fun round hround => by
        obtain ⟨honce, hpresent⟩ := hf round (List.mem_cons_of_mem _ hround)
        exact ⟨honce, fun e he => by rw [← h.slots] at hpresent; exact hpresent e he⟩)
    have hslots : (l.run (registrations round)).markRendered.slots = l.slots := h.slots
    have hsame : ∀ key, (l.run (registrations round)).markRendered.nameOf? key = l.nameOf? key :=
      fun key => by rw [nameOf?_eq, nameOf?_eq, hnames, hslots]
    simp only [List.flatMap_cons, run_append, answers_append, hanswers] at hmore hrest ⊢
    refine ⟨hmore.trans hnames, ?_⟩
    simp only [hsame] at hrest
    exact congrArg (_ ++ ·) hrest

/-- Registering again in slots of a rendered ledger, each at most once, fails nowhere. Each
registration answers the name that its slot has, no name and no position changes, the payloads are
put in their slots and all other records stay as they are. The order of the registrations does
not matter. After marking, the ledger can be reloaded in the same way any number of times. -/
theorem reload_stable (operations : List (Operation α))
    (entries : List ((String × String) × α)) :
    let l := (empty true).run operations
    (∀ r ∈ l.records, r.rendered = true) → l.Fills entries →
    let l' := l.run (registrations entries)
    l.answers (registrations entries) = entries.map (fun e => .ok (l.nameOf? e.1)) ∧
    l'.records.map Record.name = l.records.map Record.name ∧
    (∀ i r, l.records[i]? = some r → (∀ e ∈ entries, (e.1, i) ∉ l.slots) →
      l'.records[i]? = some r) ∧
    (∀ e ∈ entries, ∃ i q, l'.held? (some e.1) = some (i, q) ∧ q.payload = e.2 ∧
      q.rendered = false) ∧
    (∀ entries', entries'.Perm entries →
      (l.run (registrations entries')).contents = l'.contents) ∧
    ∀ rounds : List (List ((String × String) × α)), (∀ round ∈ rounds, l.Fills round) →
      let reloads := .markRendered ::
        rounds.flatMap fun round => registrations round ++ [.markRendered]
      (l'.run reloads).records.map Record.name = l.records.map Record.name ∧
      l'.answers reloads = .ok none ::
        rounds.flatMap fun round => round.map (fun e => .ok (l.nameOf? e.1)) ++ [.ok none] := by
  intro l hr hf l'
  have hi : Inv l := (inv_empty true).run operations
  have ha : l.identityAware = true := identityAware_run _ operations
  have hheld := hf.held hi hr
  obtain ⟨h, hanswers⟩ := run_registrations hi ha hf.once hheld
  have hi' : Inv l' := hi.run _
  refine ⟨hanswers, h.names hi, h.others, fun e he => ?_, fun entries' hp => ?_,
    fun rounds hrounds => ?_⟩
  · obtain ⟨i, r, hir, -⟩ := hheld e he
    obtain ⟨q, hq, -, hpayload, hflag, -⟩ := h.filled e he i r hir
    have hm : (e.1, i) ∈ l'.slots := h.slots ▸ mem_slots_of_held? hir
    exact ⟨i, q, hi'.held?_eq_some_iff.2 ⟨hm, hq⟩, hpayload, hflag⟩
  · obtain ⟨h', -⟩ := run_registrations hi ha ((hp.map _).nodup_iff.2 hf.once)
      fun e he => hheld e (hp.mem_iff.1 he)
    exact h'.contents_eq h hi fun e => hp.mem_iff
  · -- A reload of the first ledger and then the rounds are rounds of the first ledger.
    have hall := run_reloads hi ha hr (entries :: rounds) (by simpa using ⟨hf, hrounds⟩)
    simp only [List.flatMap_cons, List.append_assoc, run_append, answers_append, hanswers,
      List.append_cancel_left_eq] at hall
    exact hall

/-- Two slots, with a record of no slot between them, reloaded from the last to the first. -/
theorem reload_stable_backwards :
    let operations : List (Operation Nat) := [.register "a" 0 (some "x"), .register "b" 1 none,
      .register "b" 2 (some "y"), .markRendered]
    let l := (empty true).run operations
    let entries := [(("y", "b"), 7), (("x", "a"), 8)]
    (∀ r ∈ l.records, r.rendered = true) ∧ l.Fills entries ∧
      l.answers (registrations entries) = [.ok (some "b-2"), .ok (some "a-0")] ∧
      (l.run (registrations entries)).contents = [("a-0", 8, false, some "x"),
        ("b-1", 1, true, none), ("b-2", 7, false, some "y")] ∧
      (l.run (registrations entries.reverse)).contents =
        (l.run (registrations entries)).contents := by
  intro operations l entries
  have hr : ∀ r ∈ l.records, r.rendered = true := by decide
  have hf : l.Fills entries := ⟨by decide, by decide⟩
  have h := reload_stable operations entries hr hf
  exact ⟨hr, hf, h.1, rfl, h.2.2.2.2.1 _ entries.reverse_perm⟩

end Stylesheet.Ledger
