import Stylesheet.Proofs.Flushing
import Stylesheet.Proofs.Rendered
/-!
# What answers depend on

The answers of a session depend on its context, on what its resolver says next and on what its
outlets show (`Agree.perform`). Flags change only when everything is flushed or forgotten: a
registration leaves every flag as it is, also that of a record whose place it takes.
-/

namespace Stylesheet

/-- Whether a call leaves the identity of what it registers to the resolver. -/
def Call.asks : Call → Bool
  | .style _ _ explicit _ | .namedAnimation _ _ _ explicit _ | .variable _ _ explicit _ =>
    explicit.isNone
  | _ => false

/-! ## Flags -/

/-- A new record is not rendered, and one that loses its place keeps its flag. -/
theorem Ledger.Takes.isRendered {α : Type} {l l' : Ledger α} {r : Record α} (ht : l.Takes r l')
    (n : Nat) : l'.isRendered n = l.isRendered n := by
  rw [Bool.eq_iff_iff]
  simp only [Ledger.isRendered, Bool.or_eq_true, List.any_eq_true, Bool.and_eq_true, beq_iff_eq,
    List.contains_iff_mem]
  constructor
  · rintro (⟨q, hq, hs, hr⟩ | hm)
    · rcases ht.others q hq with rfl | hq
      · rw [ht.unrendered] at hr
        cases hr
      · exact .inl ⟨q, hq, hs, hr⟩
    · rcases ht.superseded n hm with hm | ⟨q, hq, hs, hr, -⟩
      · exact .inr hm
      · exact .inl ⟨q, hq, hs, hr⟩
  · rintro (⟨q, hq, rfl, hr⟩ | hm)
    · rcases ht.kept q hq with hq | hq
      · exact .inl ⟨q, hq, rfl, hr⟩
      · exact .inr hq
    · exact .inr (ht.still n hm)

namespace Session

variable {s t : Session} {c c' : Context} {call : Call} {reply : Except Failure Reply}

theorem Turn.isRendered {kind : Registry} {l l' : Ledger Value} (ht : Turn kind l call reply l')
    (hne : call ≠ .reset) (hf : ¬ Flushes call reply) (n : Nat) :
    l'.isRendered n = l.isRendered n := by
  cases ht with
  | reset => exact absurd rfl hne
  | flush => exact absurd ⟨_, _, rfl, rfl⟩ hf
  | pass => rfl
  | take _ _ ht => exact ht.isRendered n

/-- Flags stay as they are unless everything is flushed or forgotten. -/
theorem rendered_of_effect (he : Effect c call reply c') (hne : call ≠ .reset)
    (hf : ¬ Flushes call reply) : c'.registries.rendered = c.registries.rendered := by
  funext flag
  cases flag with
  | fixed b mark => rfl
  | issued ticket =>
    show c'.registries.ticketRendered ticket = c.registries.ticketRendered ticket
    rw [Registries.ticketRendered_eq, Registries.ticketRendered_eq]
    exact (turn_of_effect he ticket.registry).isRendered hne hf _

/-! ## Answers -/

/-- Calls made one after the other, each with its answer. -/
def answers (s : Session) : List Call → List (Call × Logged Reply)
  | [] => []
  | call :: rest => (call, (s.perform call).1) :: (s.perform call).2.answers rest

theorem answers_append (s : Session) (calls more : List Call) :
    s.answers (calls ++ more) = s.answers calls ++ (s.run calls).answers more := by
  induction calls generalizing s with
  | nil => rfl
  | cons call rest ih => exact congrArg (_ :: ·) (ih (s.perform call).2)

/-! ## Sessions that agree -/

/-- Sessions that differ at most in which places in memory are ready. -/
structure Agree (s t : Session) : Prop where
  context : s.context = t.context
  resolver : s.resolver = t.resolver
  outlets : s.outlets.Same t.outlets

theorem Agree.refl (s : Session) : Agree s s := ⟨rfl, rfl, .refl _⟩

theorem Agree.identity (h : Agree s t) (explicit : Option String) (site : List Frame) :
    (s.identity explicit site).1 = (t.identity explicit site).1 ∧
      Agree (s.identity explicit site).2 (t.identity explicit site).2 := by
  unfold Session.identity
  rw [h.context, h.resolver]
  split
  · exact ⟨rfl, rfl, rfl, h.outlets⟩
  · exact ⟨rfl, h⟩

theorem Agree.settled (h : Agree s t) {α : Type} (reply : α → Reply)
    (x : Logged (α × Context)) :
    (s.settled reply x).1 = (t.settled reply x).1 ∧
      Agree (s.settled reply x).2 (t.settled reply x).2 := by
  unfold Session.settled
  split
  · exact ⟨rfl, rfl, h.resolver, h.outlets⟩
  · exact ⟨rfl, h⟩

/-- Sessions that agree give the same answer, and still agree after it. -/
theorem Agree.perform (h : Agree s t) (call : Call) :
    (s.perform call).1 = (t.perform call).1 ∧
      Agree (s.perform call).2 (t.perform call).2 := by
  match call with
  | .style name styles explicit site =>
    obtain ⟨hi, hs⟩ := h.identity explicit site
    simp only [Session.perform, hi, hs.context]
    exact hs.settled _ _
  | .namedAnimation name keyframes arguments explicit site =>
    obtain ⟨hi, hs⟩ := h.identity explicit site
    simp only [Session.perform, hi, hs.context]
    split
    · split
      · exact ⟨rfl, rfl, hs.resolver, hs.outlets⟩
      · exact ⟨rfl, hs⟩
    · exact ⟨rfl, h⟩
  | .variable property name explicit site =>
    obtain ⟨hi, hs⟩ := h.identity explicit site
    simp only [Session.perform, hi, hs.context]
    exact hs.settled _ _
  | .fontFace definition =>
    simp only [Session.perform, h.context]
    exact h.settled _ _
  | .cssRules rules => exact ⟨rfl, congrArg (·.addRules rules) h.context, h.resolver, h.outlets⟩
  | .getCss => exact ⟨by simp only [Session.perform, h.context], h⟩
  | .updateStylesheet sink =>
    have hp : (s.prepared sink).Same (t.prepared sink) :=
      (s.same_prepared sink).trans (h.outlets.trans (t.same_prepared sink).symm)
    obtain ⟨hu, ho⟩ := Context.updateStylesheet_of_same hp t.context sink
    rw [perform_updateStylesheet, perform_updateStylesheet, h.context, hu]
    have written : Agree
        ⟨t.context, s.resolver, (t.context.updateStylesheet sink (s.prepared sink)).2⟩
        ⟨t.context, t.resolver, (t.context.updateStylesheet sink (t.prepared sink)).2⟩ :=
      ⟨rfl, h.resolver, ho⟩
    exact written.settled _ _
  | .reset => exact ⟨rfl, congrArg Context.reset h.context, h.resolver, h.outlets⟩
  | .requireStylesheet enable =>
    exact ⟨rfl, congrArg (fun c => { c with requireStylesheet := enable }) h.context,
      h.resolver, h.outlets⟩
  | .setResolver resolver => exact ⟨rfl, h.context, rfl, h.outlets⟩
  | .classes collection => exact ⟨by simp only [Session.perform, h.context], h⟩

end Session
end Stylesheet
