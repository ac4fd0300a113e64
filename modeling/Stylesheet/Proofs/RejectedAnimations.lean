import Stylesheet.Proofs.DefinedAnimations
import Stylesheet.Proofs.Duplicates
import Stylesheet.Proofs.FailedCalls
/-!
# Animations whose fields are rejected

A named animation registers its keyframes before its fields are read. So a registration that is
refused leaves everything as it was, but fields that are rejected leave the keyframes behind, just
as fields that are accepted would (`rejected_animation_stays`): they are in every later stylesheet,
and the same registration made again is a duplicate, or gets the next number.
-/

namespace Stylesheet

/-! ## Registering the same again -/

namespace Ledger

variable {α : Type} {l l' : Ledger α} {r : Record α} {base : String} {identity : Option String}
  {payload : α}

theorem payload_of_register (h : (l.register base payload identity).result = .ok (r, l')) :
    r.payload = payload := by
  rcases l.register_cases base payload identity with ⟨-, he⟩ | ⟨i, previous, -, -, he⟩ |
    ⟨i, previous, -, -, he⟩ <;> rw [he] at h <;> cases h <;> rfl

theorem duplicate_of_register_error {e : Failure}
    (h : (l.register base payload identity).result = .error e) :
    ∃ who name, e = .duplicate who name := by
  rcases l.register_cases base payload identity with ⟨-, he⟩ | ⟨i, previous, -, -, he⟩ |
    ⟨i, previous, -, -, he⟩ <;> rw [he] at h <;> cases h
  exact ⟨_, _, rfl⟩

/-- In a slot that was just taken nothing more is registered. -/
theorem register_again_of_slot {who : String} (hi : Inv l) (ha : l.identityAware = true)
    (h : (l.register base payload (some who)).result = .ok (r, l')) (other : α) :
    (l'.register base other (some who)).result = .error (.duplicate who r.name) := by
  obtain ⟨i, hh⟩ := (hi.held?_register (who, base) h).1 (slot?_of_aware ha base who)
  exact (register_error_iff ((identityAware_register h).trans ha)).2
    ⟨i, r, hh, (takes_of_register h).unrendered, rfl⟩

/-- Without a slot a record is added at the end. -/
theorem register_of_slot?_eq_none (hs : l.slot? base identity = none) (payload : α) :
    (l.register base payload identity).result =
      .ok (l.fresh base payload identity, l.append none (l.fresh base payload identity)) := by
  have held : l.held? (l.slot? base identity) = none := by
    rw [hs]
    rfl
  rw [register_of_not_held held, hs]

/-- Without a slot records get one number after the other. -/
theorem register_again_of_no_slot (hs : l.slot? base identity = none)
    (h : (l.register base payload identity).result = .ok (r, l')) (other : α) :
    r.name = nameAt base l.size ∧ ∃ q l'', (l'.register base other identity).result = .ok (q, l'') ∧
      q.name = nameAt base (l.size + 1) := by
  rw [register_of_slot?_eq_none hs] at h
  cases h
  have size : (l.append none (l.fresh base payload identity)).size = l.size + 1 :=
    List.length_append
  have hs' : (l.append none (l.fresh base payload identity)).slot? base identity = none := hs
  exact ⟨rfl, _, _, register_of_slot?_eq_none hs' other, congrArg (nameAt base) size⟩

end Ledger

/-- Fields are only ever rejected. -/
theorem AnimationDefinition.rejected_of_error {name : Option String} {keyframes : Value}
    {arguments : List (String × Value)} {e : Failure}
    (h : ofArguments name keyframes arguments = .error e) : ∃ issues, e = .rejected issues := by
  unfold ofArguments ofEntries at h
  simp only at h
  split at h
  · cases h
  · cases h
    exact ⟨_, rfl⟩

namespace Session

/-! ## One call -/

section

variable {s : Session} {name : String} {keyframes : Value} {arguments : List (String × Value)}
  {explicit : Option String} {site : List Frame}

/-- If the keyframes are registered the session goes on with them, and the fields alone say what is
answered. -/
theorem namedAnimation_of_registered {record : Record Value} {ledger : Ledger Value}
    (ha : AnimationDefinition.argumentsExist arguments = true)
    (hl : (s.context.registries.keyframes.register name keyframes
      (s.identity explicit site).1).result = .ok (record, ledger)) :
    (s.perform (.namedAnimation name keyframes arguments explicit site)).1.result =
        (AnimationDefinition.ofArguments (some record.name) (.handle record.name keyframes
          (.issued ⟨.keyframes, record.serial, record.identity⟩)) arguments).map .animation ∧
      (s.perform (.namedAnimation name keyframes arguments explicit site)).2 =
        { (s.identity explicit site).2 with
          context := s.context.withRegistries
            { s.context.registries with keyframes := ledger } } := by
  obtain ⟨-, -, hc⟩ := s.identity_context explicit site
  have registered : (s.context.registerKeyframes name keyframes
      (s.identity explicit site).1).result =
      .ok (⟨record.name, keyframes, .keyframes, record.serial, record.identity⟩,
        s.context.withRegistries { s.context.registries with keyframes := ledger }) :=
    Logged.result_bind_eq_ok.2 ⟨_, hl, rfl⟩
  have named : (s.context.namedAnimation name keyframes arguments
      (s.identity explicit site).1).result = .ok (_, _) :=
    Logged.result_bind_eq_ok.2 ⟨_, registered, rfl⟩
  simp only [perform, if_pos ha, hc, named]
  exact ⟨rfl, trivial⟩

/-- If they are not, nothing but an identity is gone. -/
theorem namedAnimation_of_refused {e : Failure}
    (ha : AnimationDefinition.argumentsExist arguments = true)
    (hl : (s.context.registries.keyframes.register name keyframes
      (s.identity explicit site).1).result = .error e) :
    (s.perform (.namedAnimation name keyframes arguments explicit site)).1.result = .error e ∧
      (s.perform (.namedAnimation name keyframes arguments explicit site)).2.context =
        s.context := by
  obtain ⟨-, -, hc⟩ := s.identity_context explicit site
  have named : (s.context.namedAnimation name keyframes arguments
      (s.identity explicit site).1).result = .error e :=
    Logged.result_bind_of_error (Logged.result_bind_of_error hl)
  simp only [perform, if_pos ha, hc, named]
  exact ⟨trivial, trivial⟩

/-- A call that fails leaves the context as it was, unless fields are rejected. By then the
keyframes are registered. -/
theorem namedAnimation_error {e : Failure}
    (h : (s.perform (.namedAnimation name keyframes arguments explicit site)).1.result = .error e) :
    ((e = .badArguments ∨ ∃ who n, e = .duplicate who n) ∧
      (s.perform (.namedAnimation name keyframes arguments explicit site)).2.context = s.context) ∨
    ∃ issues record ledger, e = .rejected issues ∧
      (s.context.registries.keyframes.register name keyframes
        (s.identity explicit site).1).result = .ok (record, ledger) ∧
      (s.perform (.namedAnimation name keyframes arguments explicit site)).2 =
        { (s.identity explicit site).2 with
          context := s.context.withRegistries
            { s.context.registries with keyframes := ledger } } := by
  by_cases ha : AnimationDefinition.argumentsExist arguments = true
  · cases hl : (s.context.registries.keyframes.register name keyframes
        (s.identity explicit site).1).result with
    | ok registered =>
      obtain ⟨hr, ht⟩ := namedAnimation_of_registered ha hl
      obtain ⟨issues, rfl⟩ :=
        AnimationDefinition.rejected_of_error (Failure.map_eq_error.1 (hr.symm.trans h))
      exact .inr ⟨issues, _, _, rfl, rfl, ht⟩
    | error e' =>
      obtain ⟨who, n, rfl⟩ := Ledger.duplicate_of_register_error hl
      obtain ⟨hr, ht⟩ := namedAnimation_of_refused ha hl
      cases hr.symm.trans h
      exact .inl ⟨.inr ⟨who, n, rfl⟩, ht⟩
  · simp only [perform, if_neg ha] at h ⊢
    cases h
    exact .inl ⟨.inl rfl, trivial⟩

/-! ## The call again -/

variable {t : Session} {record : Record Value} {set : Value} {others : List (String × Value)}
  {again : Option String} {place : List Frame}

/-- Once its keyframes are registered for an identity, an animation is a duplicate there. -/
theorem namedAnimation_again_of_identity {who : String} (hi : s.context.registries.keyframes.Inv)
    (aware : s.context.registries.keyframes.identityAware = true)
    (hl : (s.context.registries.keyframes.register name keyframes (some who)).result =
      .ok (record, t.context.registries.keyframes))
    (ha : AnimationDefinition.argumentsExist others = true)
    (hid : (t.identity again place).1 = some who) :
    (t.perform (.namedAnimation name set others again place)).1.result =
      .error (.duplicate who record.name) := by
  refine (namedAnimation_of_refused ha ?_).1
  rw [hid]
  exact Ledger.register_again_of_slot hi aware hl set

/-- Without an identity an animation of the same name gets the next number. -/
theorem namedAnimation_again_of_no_identity
    (hl : (s.context.registries.keyframes.register name keyframes none).result =
      .ok (record, t.context.registries.keyframes))
    (ha : AnimationDefinition.argumentsExist others = true)
    (hid : (t.identity again place).1 = none) :
    record.name = Ledger.nameAt name s.context.registries.keyframes.size ∧
      ((∃ d, (t.perform (.namedAnimation name set others again place)).1.result =
          .ok (.animation d) ∧
        d.fields.name =
          some (Ledger.nameAt name (s.context.registries.keyframes.size + 1))) ∨
      ∃ issues, (t.perform (.namedAnimation name set others again place)).1.result =
        .error (.rejected issues)) := by
  have slot : s.context.registries.keyframes.slot? name none = none := by
    unfold Ledger.slot?
    split <;> rfl
  obtain ⟨hn, q, l, hq, hqn⟩ := Ledger.register_again_of_no_slot slot hl set
  rw [← hid] at hq
  obtain ⟨hr, -⟩ := namedAnimation_of_registered ha hq
  refine ⟨hn, ?_⟩
  rw [hr]
  cases hd : AnimationDefinition.ofArguments (some q.name) _ others with
  | ok d => exact .inl ⟨d, rfl, by rw [(AnimationDefinition.of_ofArguments hd).1, hqn]⟩
  | error e =>
    obtain ⟨issues, rfl⟩ := AnimationDefinition.rejected_of_error hd
    exact .inr ⟨issues, rfl⟩

end

/-! ## Reachable contexts -/

/-- The keyframes of a context count identities if its settings say so. -/
theorem keyframes_aware_run (settings : Settings) (sink : Option Sink) (resolver : Resolver)
    (outlets : Outlets) (calls : List Call) :
    let c := ((start settings sink resolver outlets).run calls).context
    c.registries.keyframes.identityAware = c.settings.identityAware := by
  refine run_keeps (p := fun c => c.registries.keyframes.identityAware = c.settings.identityAware)
    (fun he hc => ?_) rfl calls
  cases he with
  | keyframes hl => exact (Ledger.identityAware_register hl).trans hc
  | _ => exact hc

/-- An identity is asked for only where identities count. -/
theorem aware_of_identity {s : Session} {explicit : Option String} {site : List Frame}
    {who : String} (h : (s.identity explicit site).1 = some who) :
    s.context.settings.identityAware = true := by
  obtain ⟨asked, hi, -⟩ := s.identity_context explicit site
  rw [hi, Context.identity] at h
  split at h
  · assumption
  · cases h

/-- An animation fails because an argument does not exist, as a duplicate, or because its fields
are rejected. Unless its fields are rejected it leaves the context as it was. If they are, the call
leaves behind what it leaves with any other fields: a new record of the keyframes, which is in every
stylesheet until a reset. The animation made again for the same identity is then a duplicate
whatever its fields, and without an identity it gets the next number. -/
theorem rejected_animation_stays (settings : Settings) (sink : Option Sink) (resolver : Resolver)
    (outlets : Outlets) (calls : List Call) (name : String) (keyframes : Value)
    (arguments : List (String × Value)) (explicit : Option String) (site : List Frame) :
    let s := (start settings sink resolver outlets).run calls
    let answer := (s.perform (.namedAnimation name keyframes arguments explicit site)).1.result
    let t := (s.perform (.namedAnimation name keyframes arguments explicit site)).2
    let l := s.context.registries.keyframes
    (∀ e, answer = .error e →
      e = .badArguments ∨ (∃ who n, e = .duplicate who n) ∨ ∃ issues, e = .rejected issues) ∧
    (∀ e, answer = .error e → (∀ issues, e ≠ .rejected issues) → t.context = s.context) ∧
    ∀ issues, answer = .error (.rejected issues) →
      (∀ others, AnimationDefinition.argumentsExist others = true →
        (s.perform (.namedAnimation name keyframes others explicit site)).2 = t) ∧
      ∃ record ∈ t.context.registries.keyframes.records,
        record ∉ l.records ∧ record.payload = keyframes ∧ record.rendered = false ∧
        (∀ later log css, .reset ∉ later → (t.run later).context.getCss = ⟨log, .ok css⟩ →
          ∃ before set block after, IsKeyframes record.name set block ∧
            css = "\n".intercalate (before ++ block :: after)) ∧
        ∀ set others again place, AnimationDefinition.argumentsExist others = true →
          (t.identity again place).1 = (s.identity explicit site).1 →
          let retried := (t.perform (.namedAnimation name set others again place)).1.result
          (∀ who, (s.identity explicit site).1 = some who →
            retried = .error (.duplicate who record.name)) ∧
          ((s.identity explicit site).1 = none → record.name = Ledger.nameAt name l.size ∧
            ((∃ d, retried = .ok (.animation d) ∧
              d.fields.name = some (Ledger.nameAt name (l.size + 1))) ∨
            ∃ issues, retried = .error (.rejected issues))) := by
  intro s answer t l
  have hi : l.Inv := inv_keyframes_run settings sink resolver outlets calls
  have issued : l.Issued := issued_run settings sink resolver outlets calls .keyframes
  have aware : l.identityAware = s.context.settings.identityAware :=
    keyframes_aware_run settings sink resolver outlets calls
  refine ⟨fun e he => ?_, fun e he hne => ?_, fun issues he => ?_⟩
  · rcases namedAnimation_error he with ⟨kinds, -⟩ | ⟨issues, record, ledger, hr, -, -⟩
    · exact kinds.imp_right .inl
    · exact .inr (.inr ⟨issues, hr⟩)
  · rcases namedAnimation_error he with ⟨-, ht⟩ | ⟨issues, record, ledger, hr, -, -⟩
    · exact ht
    · exact absurd hr (hne issues)
  · rcases namedAnimation_error he with ⟨hr | ⟨who, n, hr⟩, -⟩ | ⟨_, record, ledger, -, hl, ht⟩
    · cases hr
    · cases hr
    have hk : t.context.registries.keyframes = ledger :=
      congrArg (·.context.registries.keyframes) ht
    have taken := Ledger.takes_of_register hl
    refine ⟨fun others ha => ?_, record, hk ▸ taken.present, fun hm => ?_,
      Ledger.payload_of_register hl, taken.unrendered, fun later log css hreset hcss => ?_,
      fun set others again place ha hid => ⟨fun who hw => ?_, fun hw => ?_⟩⟩
    · exact (namedAnimation_of_registered ha hl).2.trans ht.symm
    · -- The serial number of the new record is the next one, and so none of those in use.
      have used := issued.records record hm
      rw [taken.serial] at used
      exact Nat.lt_irrefl _ used
    · refine exists_block_of_mem_names hcss (mem_names_of_run hreset ?_)
      rw [hk]
      exact (Ledger.mem_names_of_register hl).1
    · rw [hw] at hl hid
      exact namedAnimation_again_of_identity hi (aware.trans (aware_of_identity hw)) (hk ▸ hl)
        ha hid
    · rw [hw] at hl hid
      exact namedAnimation_again_of_no_identity (hk ▸ hl) ha hid

/-- A list is no duration. -/
theorem rejected_animation_stays_fade :
    let s := start { identityAware := true } none .absent {}
    let fade (duration : Value) : Call :=
      .namedAnimation "fade" (.mapping []) [("duration", duration)] (some "x") []
    let t := (s.perform (fade (.list []))).2
    ∃ issues, (s.perform (fade (.list []))).1.result = .error (.rejected issues) ∧
      (s.perform (fade (.scalar (.int 200)))).2 = t ∧
      ∃ record ∈ t.context.registries.keyframes.records, record.rendered = false ∧
        (∃ log css, t.context.getCss = ⟨log, .ok css⟩ ∧
          ∃ before set block after, IsKeyframes record.name set block ∧
            css = "\n".intercalate (before ++ block :: after)) ∧
        (t.perform (fade (.scalar (.int 200)))).1.result = .error (.duplicate "x" record.name) := by
  intro s fade t
  obtain ⟨issues, rejected⟩ :
      ∃ issues, (s.perform (fade (.list []))).1.result = .error (.rejected issues) := ⟨_, rfl⟩
  obtain ⟨-, -, stays⟩ := rejected_animation_stays { identityAware := true } none .absent {} []
    "fade" (.mapping []) [("duration", .list [])] (some "x") []
  obtain ⟨same, record, hm, -, -, hr, sheets, again⟩ := stays issues rejected
  exact ⟨issues, rejected, same _ rfl, record, hm, hr,
    ⟨_, _, rfl, sheets [] _ _ List.not_mem_nil rfl⟩,
    (again (.mapping []) [("duration", .scalar (.int 200))] (some "x") [] rfl rfl).1 "x" rfl⟩

/-- A named animation that fails is not as if it had not been asked for: the one that corrects it
gets another name, or is a duplicate. -/
theorem rejected_animation_leaves_trace :
    let fade (identity : Option String) (duration : Value) : Call :=
      .namedAnimation "fade" (.mapping []) [("duration", duration)] identity []
    let corrected := .scalar (.int 200)
    let s := start {} none .absent {}
    let t := start { identityAware := true } none .absent {}
    (s.perform (fade none (.list []))).1.failed = true ∧
      s.context.registries.keyframes.names = [] ∧
      (s.perform (fade none (.list []))).2.context.registries.keyframes.names = ["fade-0"] ∧
      (s.perform (fade none corrected)).2.context.registries.keyframes.names = ["fade-0"] ∧
      ((s.perform (fade none (.list []))).2.perform
        (fade none corrected)).2.context.registries.keyframes.names = ["fade-0", "fade-1"] ∧
      (t.perform (fade (some "x") (.list []))).1.failed = true ∧
      (t.perform (fade (some "x") corrected)).1.failed = false ∧
      ((t.perform (fade (some "x") (.list []))).2.perform
        (fade (some "x") corrected)).1.failed = true := by
  decide

end Session
end Stylesheet
