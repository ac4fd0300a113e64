import Stylesheet.Proofs.Respelling
/-!
# Compiling a respelled rule set

A rule set whose properties are respelled compiles to the same rules and leaves the same records, or
fails in the same way (`compileRules_respellRules`): what is emitted under a property depends on its
hyphenated name only, and nothing else is respelled.
-/

namespace Stylesheet

/-! ## The same outcome and records -/

/-- Both leave the same records and come to the same outcome. -/
structure Logged.SameOutcome {α : Type} (x y : Logged α) : Prop where
  log : x.log = y.log
  result : Stylesheet.SameOutcome x.result y.result

namespace Logged.SameOutcome

variable {α β : Type}

theorem refl (x : Logged α) : SameOutcome x x := ⟨rfl, .refl x.result⟩

theorem ofExcept {x y : Except Failure α} (h : Stylesheet.SameOutcome x y) :
    SameOutcome (Logged.ofExcept x) (Logged.ofExcept y) := ⟨rfl, h⟩

theorem bind {x y : Logged α} {f g : α → Logged β} (h : SameOutcome x y)
    (hf : ∀ a, SameOutcome (f a) (g a)) : SameOutcome (x >>= f) (y >>= g) := by
  obtain ⟨l, x⟩ := x
  obtain ⟨m, y⟩ := y
  obtain ⟨rfl, h⟩ := h
  cases h with
  | ok a => exact ⟨congrArg (l ++ ·) (hf a).log, (hf a).result⟩
  | error h => exact ⟨rfl, .error h⟩

end Logged.SameOutcome

/-- Computations compared by their records and outcomes. -/
def Logged.sameOutcome : Logged.Likeness where
  alike := Logged.SameOutcome
  refl := Logged.SameOutcome.refl
  bind := Logged.SameOutcome.bind

/-! ## Declarations and keyframes -/

theorem declarationTexts_respell (declarations : List Declaration) :
    SameOutcome (declarationTexts (declarations.map respellDeclaration))
      (declarationTexts declarations) := by
  induction declarations with
  | nil => exact .ok []
  | cons d rest ih =>
    rw [List.map_cons, respellDeclaration, declarationTexts, declarationTexts]
    exact (declarationText?_kebab d.1 d.2).bind fun text => ih.bind fun more => .refl _

theorem declarationBlock_respell (declarations : List Declaration) :
    SameOutcome (declarationBlock (declarations.map respellDeclaration))
      (declarationBlock declarations) :=
  (declarationTexts_respell declarations).bind fun _ => .refl _

theorem ownRule_respell (selector : String) (declarations : List Declaration) :
    SameOutcome (ownRule selector (declarations.map respellDeclaration))
      (ownRule selector declarations) :=
  (declarationBlock_respell declarations).bind fun _ => .refl _

/-- A respelled keyframe keeps and leaves out the same keys. -/
theorem keyframeDeclarations_respell (name offset : String) (entries : List (Value × Value)) :
    keyframeDeclarations name offset (entries.map fun e => (respellKey e.1, e.2)) =
      do return (← keyframeDeclarations name offset entries).map respellDeclaration := by
  induction entries with
  | nil => rfl
  | cons e rest ih =>
    obtain ⟨k, v⟩ := e
    rw [List.map_cons, keyframeDeclarations, keyframeDeclarations, ih]
    cases v.isAbsent with
    | true => rfl
    | false =>
      cases hk : k.text? with
      | none =>
        have keep : respellKey k = k := by
          unfold respellKey
          split
          · cases hk
          · rfl
        rw [keep, hk]
        rfl
      | some key =>
        obtain rfl := text?_eq_some.1 hk
        cases hi : isIgnoredKey key with
        | true =>
          simp [respellKey, Value.text?, hi]
        | false =>
          simp [respellKey, Value.text?, hi, isIgnoredKey_kebab hi, respellDeclaration]

theorem isAbsent_respellBody (v : Value) : (respellBody v).isAbsent = v.isAbsent := by
  cases v <;> rfl

theorem keyframeLine_respell (name indent : String) (offset body : Value) :
    Logged.SameOutcome (keyframeLine name indent offset (respellBody body))
      (keyframeLine name indent offset body) := by
  refine Logged.SameOutcome.bind (.refl _) fun text => ?_
  cases body with
  | mapping entries =>
    simp only [respellBody, keyframeDeclarations_respell, bind_assoc, pure_bind]
    exact Logged.SameOutcome.bind (.refl _) fun declarations =>
      (Logged.SameOutcome.ofExcept (declarationBlock_respell declarations)).bind fun _ => .refl _
  | _ => exact .refl _

theorem keyframeLines_respell (name indent : String) (entries : List (Value × Value)) :
    Logged.SameOutcome (keyframeLines name indent (entries.map fun e => (e.1, respellBody e.2)))
      (keyframeLines name indent entries) := by
  induction entries with
  | nil => exact .refl _
  | cons e rest ih =>
    rw [List.map_cons, keyframeLines, keyframeLines, isAbsent_respellBody]
    split
    · exact ih
    · exact (keyframeLine_respell name indent e.1 e.2).bind fun line => ih.bind fun more => .refl _

/-- A keyframe set gives the same block respelled. -/
theorem keyframesBlock_respell (name : String) (keyframes : Value) (indent : Nat) :
    Logged.SameOutcome (keyframesBlock name (respellKeyframes keyframes) indent)
      (keyframesBlock name keyframes indent) := by
  cases keyframes with
  | mapping entries => exact (keyframeLines_respell name _ entries).bind fun lines => .refl _
  | _ => exact .refl _

theorem inlineKeyframes_respell (keyframes : List (String × Value)) :
    Logged.SameOutcome (inlineKeyframes (keyframes.map fun k => (k.1, respellKeyframes k.2)))
      (inlineKeyframes keyframes) := by
  induction keyframes with
  | nil => exact .refl _
  | cons k rest ih =>
    exact (keyframesBlock_respell k.1 k.2 keyframeIndent).bind fun block =>
      ih.bind fun more => .refl _

/-! ## Compiling -/

/-- Nodes and rule entries compile to the same when they are respelled. -/
theorem compile_respell :
    (∀ selector node, Logged.SameOutcome (compileNode selector (respellNode node))
      (compileNode selector node)) ∧
    (∀ parent entries, Logged.SameOutcome (compileEntries parent (entries.map respellEntry))
      (compileEntries parent entries)) :=
  respelling_lawful.compile_alike Logged.sameOutcome
    (fun selector declarations => .ofExcept (ownRule_respell selector declarations))
    inlineKeyframes_respell

/-- How properties are spelled does not matter: a rule set and its respelled form compile to the
same rules, or both fail in the same way, and leave the same records. -/
theorem compileRules_respellRules (rules : Value) :
    Logged.SameOutcome (compileRules (respellRules rules)) (compileRules rules) := by
  have respelled : compileRules (respellRules rules) =
      Logged.ofExcept (ruleEntries rules) >>= fun entries =>
        compileEntries "" (entries.map respellEntry) := by
    show Logged.ofExcept (ruleEntries (respellRules rules)) >>= compileEntries "" = _
    rw [ruleEntries_respellRules]
    cases ruleEntries rules <;> rfl
  rw [respelled]
  exact Logged.SameOutcome.bind (.refl _) fun entries => compile_respell.2 "" entries

end Stylesheet
