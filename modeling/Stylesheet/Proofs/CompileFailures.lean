import Stylesheet.Proofs.InlineBlocks
import Stylesheet.Proofs.Nesting
/-!
# When compiling fails

A well-typed rule set compiles, or it fails because lists are nested too deep or a number is too
long, and for no other reason (`css_failsIf`). It fails exactly if there is such a list or number
among what is written: in a declaration of a node or of a keyframe beside one, in the fallback of a
variable that is the offset of a keyframe, or, numbers only, in a definition of an animation or in
any other offset.
-/

namespace Stylesheet

/-! ## What is written -/

/-- The keyframes of a set that have a body. -/
def keyframesWithBody : Value → List (Value × Value)
  | .mapping entries => entries.filter fun e => !e.2.isAbsent
  | _ => []

/-- The definitions of animations that a field declares. -/
def fieldDefinitions (f : Field) : List AnimationDefinition :=
  if f.1 = animationKey then (animationItems f.2).filterMap Value.definition? else []

namespace Visit

/-- The values declared on a visit: those of the node itself, its animations apart, or those in the
keyframes of its inline animations. -/
def declaredValues (v : Visit) : List Value :=
  match v.phase with
  | .entering => ((ownFields v.fields).filter fun f => f.1 ≠ animationKey).map Prod.snd
  | .leaving => (nodeAnimations v.fields).flatMap fun a =>
      (keyframesWithBody a.keyframes).flatMap fun e => bodyValues e.2

/-- The definitions of animations declared on a visit. -/
def definitions (v : Visit) : List AnimationDefinition :=
  match v.phase with
  | .entering => (ownFields v.fields).flatMap fieldDefinitions
  | .leaving => []

/-- The offsets of the keyframes written on a visit. -/
def offsets (v : Visit) : List Value :=
  match v.phase with
  | .entering => []
  | .leaving => (nodeAnimations v.fields).flatMap fun a =>
      (keyframesWithBody a.keyframes).map Prod.fst

theorem declaredValues_entering {path : List String} {key : String} {v : Value}
    (hk : holdsRules key = false) (ha : key ≠ animationKey) :
    (⟨path, .entering, [(key, v)]⟩ : Visit).declaredValues = [v] := by
  simp [declaredValues, ownFields, hk, ha]

end Visit

/-- A variable is formatted where it is an offset; nothing else is. -/
def Value.isOverNestedOffset : Value → Bool
  | .variable _ _ fallback => fallback.isOverNested
  | _ => false

/-- Whether a value by itself is written with a number that is too long. -/
def Value.displaysTooLong : Value → Bool
  | .scalar s => s.isTooLong
  | .variable _ _ fallback => fallback.formatsTooLong
  | .handle _ _ _ => false
  | v => v.isTooLong

/-- Whether anything that is written on a visit is nested too deep. -/
def Visit.isOverNested (v : Visit) : Bool :=
  v.declaredValues.any Value.isOverNested || v.offsets.any Value.isOverNestedOffset

/-- Whether a number that is written on a visit is too long. -/
def Visit.isTooLong (v : Visit) : Bool :=
  v.declaredValues.any Value.formatsTooLong || v.definitions.any (·.fields.isTooLong) ||
    v.offsets.any Value.displaysTooLong

/-! ## Outcomes with records -/

/-- Two steps that log fail if either does. -/
theorem FailsIf.bind_result {α β : Type} {nested long nested' long' : Bool} {x : Logged α}
    {f : α → Logged β} (hx : FailsIf nested long x.result)
    (hf : ∀ a, FailsIf nested' long' (f a).result) :
    FailsIf (nested || nested') (long || long') (x >>= f).result := by
  rw [Logged.result_bind]
  exact hx.bind hf

theorem FailsIf.map_result {α β : Type} {nested long : Bool} {x : Logged α} {g : α → β}
    (hx : FailsIf nested long x.result) :
    FailsIf nested long (do return g (← x) : Logged β).result := by
  rw [← Bool.or_false nested, ← Bool.or_false long]
  exact hx.bind_result fun a => .ok (g a)

theorem FailsIf.mapM {α β : Type} {f : α → Except Failure β} {nested long : α → Bool}
    {as : List α} (h : ∀ a ∈ as, FailsIf (nested a) (long a) (f a)) :
    FailsIf (as.any nested) (as.any long) (as.mapM f) := by
  induction as with
  | nil => exact .ok []
  | cons a rest ih =>
    obtain ⟨ha, hrest⟩ := List.forall_mem_cons.1 h
    rw [List.mapM_cons, List.any_cons, List.any_cons]
    exact ha.both (ih hrest)

/-! ## Declarations -/

section Declarations

variable {declarations : List Declaration} (h : ∀ d ∈ declarations, d.2.FailsExactly)

include h

theorem declarationTexts_failsIf :
    FailsIf (declarations.any fun d => d.2.isOverNested)
      (declarations.any fun d => d.2.formatsTooLong) (declarationTexts declarations) := by
  induction declarations with
  | nil => exact .ok []
  | cons d rest ih =>
    obtain ⟨hd, hrest⟩ := List.forall_mem_cons.1 h
    rw [declarationTexts, List.any_cons, List.any_cons]
    exact FailsIf.both ((hd.value d.1).map) (ih hrest)

theorem declarationBlock_failsIf :
    FailsIf (declarations.any fun d => d.2.isOverNested)
      (declarations.any fun d => d.2.formatsTooLong) (declarationBlock declarations) :=
  (declarationTexts_failsIf h).map

theorem ownRule_failsIf (selector : String) :
    FailsIf (declarations.any fun d => d.2.isOverNested)
      (declarations.any fun d => d.2.formatsTooLong) (ownRule selector declarations) :=
  (declarationBlock_failsIf h).map

end Declarations

/-! ## Keyframes -/

variable {p : String → Prop}

theorem offsetText_failsIf {offset : Value} (h : OffsetOf p offset) :
    FailsIf offset.isOverNestedOffset offset.displaysTooLong (offsetText offset) := by
  cases offset with
  | scalar s =>
    have written : FailsIf false s.isTooLong (offsetFormatter.write s) := .unlessTooLong _ _
    exact written.map
  | «variable» name declared fallback =>
    cases h with
    | «variable» hn h =>
      show FailsIf fallback.isOverNested fallback.formatsTooLong
        (if fallback.isAbsent then _ else _)
      split
      · rename_i ha
        rw [Value.isAbsent_iff.1 ha]
        exact .ok _
      · exact (h.fails.value declared).map
  | handle name payload flag => exact .ok name
  | _ => exact .unlessTooLong _ _

/-- Whether a keyframe is nested too deep, in its offset or in what it declares. -/
def isOverNestedKeyframe (e : Value × Value) : Bool :=
  e.1.isOverNestedOffset || (bodyValues e.2).any Value.isOverNested

/-- Whether a keyframe has a number that is too long there. -/
def isTooLongKeyframe (e : Value × Value) : Bool :=
  e.1.displaysTooLong || (bodyValues e.2).any Value.formatsTooLong

theorem keyframeLine_failsIf {name indent : String} {offset body : Value}
    (ho : OffsetOf p offset) (hb : BodyOf p body) :
    FailsIf (isOverNestedKeyframe (offset, body)) (isTooLongKeyframe (offset, body))
      (keyframeLine name indent offset body).result := by
  obtain ⟨entries, rfl, he⟩ := hb
  refine FailsIf.bind_result (x := Logged.ofExcept (offsetText offset)) (offsetText_failsIf ho)
    fun text => ?_
  obtain ⟨log, declarations, hd, hplain, hvalues⟩ := keyframeDeclarations_of he name text
  rw [← hvalues, List.any_map, List.any_map]
  have block := declarationBlock_failsIf fun d hm => (hplain d hm).2.fails
  simp only [hd]
  exact FailsIf.map_result (x := Logged.ofExcept (declarationBlock declarations)) block

theorem keyframeLines_failsIf {name indent : String} {entries : List (Value × Value)}
    (h : ∀ e ∈ entries, e.2.isAbsent = false → OffsetOf p e.1 ∧ BodyOf p e.2) :
    FailsIf ((keyframesWithBody (.mapping entries)).any isOverNestedKeyframe)
      ((keyframesWithBody (.mapping entries)).any isTooLongKeyframe)
      (keyframeLines name indent entries).result := by
  induction entries with
  | nil => exact .ok []
  | cons e rest ih =>
    obtain ⟨offset, body⟩ := e
    obtain ⟨he, hrest⟩ := List.forall_mem_cons.1 h
    have lines := ih hrest
    rw [keyframeLines]
    rw [keyframesWithBody] at lines ⊢
    cases hb : body.isAbsent with
    | true => simpa [hb] using lines
    | false =>
      obtain ⟨ho, hbody⟩ := he hb
      rw [List.filter_cons_of_pos (by simp [hb]), List.any_cons, List.any_cons]
      exact (keyframeLine_failsIf ho hbody).bind_result fun _ => lines.map_result

theorem keyframesBlock_failsIf {name : String} {set : Value} {indent : Nat}
    (h : KeyframesOf p set) : FailsIf ((keyframesWithBody set).any isOverNestedKeyframe)
      ((keyframesWithBody set).any isTooLongKeyframe) (keyframesBlock name set indent).result := by
  obtain ⟨entries, rfl, he⟩ := h
  exact (keyframeLines_failsIf he).map_result

theorem inlineKeyframes_failsIf {animations : List InlineAnimation} {selector : String}
    (h : ∀ a ∈ animations, KeyframesOf p a.keyframes) :
    FailsIf (animations.any fun a => (keyframesWithBody a.keyframes).any isOverNestedKeyframe)
      (animations.any fun a => (keyframesWithBody a.keyframes).any isTooLongKeyframe)
      (inlineKeyframes (animations.map (·.placed selector))).result := by
  induction animations with
  | nil => exact .ok []
  | cons a rest ih =>
    obtain ⟨ha, hrest⟩ := List.forall_mem_cons.1 h
    rw [List.any_cons, List.any_cons]
    exact (keyframesBlock_failsIf ha).bind_result fun _ => (ih hrest).map_result

/-! ## Animations -/

variable {other : Value → Prop}

/-- The values that may stand beside definitions have a text. -/
def AreWritten (other : Value → Prop) : Prop := ∀ v, other v → ∃ t, v.display = .ok t

theorem ofItem_failsIf (ho : AreWritten other) {item : Value} (h : AnimationItemOf p other item)
    (selector : String) (position : Nat) :
    FailsIf false (item.definition?.any (·.fields.isTooLong))
      (ResolvedAnimation.ofItem selector position item) := by
  have ofDefinition {d : AnimationDefinition} (hd : item.definition? = some d) :
      FailsIf false (item.definition?.any (·.fields.isTooLong))
        (ResolvedAnimation.ofItem selector position item) := by
    rw [ofItem_of_definition hd, hd]
    exact .unlessTooLong _ _
  cases h with
  | @definition fields keyframes h =>
    exact ofDefinition (d := ⟨fields, keyframes⟩) rfl
  | @mapping entries d hr h =>
    refine ofDefinition (d := d) ?_
    rw [Value.definition?, hr]
    rfl
  | atom ha h =>
    obtain ⟨t, ht⟩ := ho _ h
    have none : item.definition? = none := by
      cases item <;> first | rfl | cases ha
    rw [ofItem_of_isAtom ha, none, ht]
    exact FailsIf.ok (⟨t, []⟩ : ResolvedAnimation)

theorem ofItems_failsIf (ho : AreWritten other) {items : List Value}
    (h : ∀ item ∈ items, AnimationItemOf p other item) (selector : String) (position : Nat) :
    FailsIf false ((items.filterMap Value.definition?).any (·.fields.isTooLong))
      (ResolvedAnimation.ofItems selector position items) := by
  induction items generalizing position with
  | nil => exact .ok []
  | cons item rest ih =>
    obtain ⟨hitem, hrest⟩ := List.forall_mem_cons.1 h
    have flags : ((item :: rest).filterMap Value.definition?).any (·.fields.isTooLong) =
        (item.definition?.any (·.fields.isTooLong) ||
          (rest.filterMap Value.definition?).any (·.fields.isTooLong)) := by
      rw [List.filterMap_cons]
      cases item.definition? <;> rfl
    rw [flags]
    exact (ofItem_failsIf ho hitem selector position).both (ih hrest (position + 1))

theorem resolveAnimation_failsIf (ho : AreWritten other) {v : Value}
    (h : ∀ item ∈ animationItems v, AnimationItemOf p other item) (selector : String) :
    FailsIf false (((animationItems v).filterMap Value.definition?).any (·.fields.isTooLong))
      (resolveAnimation selector v) := by
  rw [resolveAnimation_eq]
  exact (ofItems_failsIf ho h selector 0).map

/-! ## Nodes -/

/-- A field declares its value, or the text of its animation, which cannot be written with a number
that is too long. -/
theorem declared_failsIf (ho : AreWritten other) {f : Field} (h : FieldOf p other f)
    (selector : String) :
    FailsIf false ((fieldDefinitions f).any (·.fields.isTooLong)) (declared selector f) := by
  unfold declared fieldDefinitions
  by_cases hk : f.1 = animationKey
  · rw [if_pos hk, if_pos hk]
    exact (resolveAnimation_failsIf ho (h.animation hk) selector).map
  · rw [if_neg hk, if_neg hk]
    exact .ok f

/-- What is declared is formatted as plain values are. -/
theorem failsExactly_of_declared {f : Field} (h : FieldOf p other f) {selector : String}
    {d : Declaration} (hd : declared selector f = .ok d) : d.2.FailsExactly := by
  obtain ⟨-, t, rfl⟩ | ⟨hk, rfl⟩ := declared_cases hd
  · exact (Value.Plain.scalar (p := fun _ => True) (s := .text t) trivial).fails
  · exact (h.value hk).2.fails

/-- What holds of no text holds of a declaration of a node if it holds of a value that the node
declares. -/
theorem any_declared {q : Value → Bool} (hq : ∀ t, q (.text t) = false) {fields : List Field}
    {selector : String} {ds : List Declaration} (hd : fields.mapM (declared selector) = .ok ds) :
    (ds.any fun d => q d.2) =
      ((fields.filter fun f => f.1 ≠ animationKey).map Prod.snd).any q := by
  induction fields generalizing ds with
  | nil =>
    cases hd
    rfl
  | cons f rest ih =>
    rw [List.mapM_cons, Failure.both_eq_ok] at hd
    obtain ⟨d, more, hd, hm, rfl⟩ := hd
    rw [List.any_cons, ih hm, List.filter_cons]
    obtain ⟨hk, t, rfl⟩ | ⟨hk, rfl⟩ := declared_cases hd
    · simp [hk, hq]
    · simp [hk]

/-- Splitting a node fails as declaring its fields does. -/
theorem splitEntries_failsIf {selector : String} {entries : List (Value × Value)}
    {fields : List Field} {nested : List RuleEntry} (hf : nodeFields entries = .ok fields)
    (hn : nestedRules fields = .ok nested) {deep long : Field → Bool}
    (h : ∀ f ∈ ownFields fields, FailsIf (deep f) (long f) (declared selector f)) :
    FailsIf ((ownFields fields).any deep) ((ownFields fields).any long)
      (splitEntries selector entries) := by
  induction entries generalizing fields nested with
  | nil =>
    cases hf
    exact .ok _
  | cons e rest ih =>
    obtain ⟨key, value⟩ := e
    rw [splitEntries]
    rcases nodeFields_cons_eq_ok hf with ⟨hv, hr⟩ | ⟨k, more, hv, rfl, hr, rfl⟩
    · rw [splitEntry_of_absent hv]
      exact (FailsIf.ok (α := NodeParts) _).both (ih hr hn h)
    · obtain ⟨own, others, ho, hm, rfl⟩ := nestedRules_cons_eq_ok.1 hn
      rw [ownFields_cons, List.forall_mem_append] at h
      rw [ownFields_cons, List.any_append, List.any_append, splitEntry_eq hv, ho]
      exact ((FailsIf.mapM h.1).map).both (ih hr hm h.2)

/-- A node whose fields are well-formed can be split, unless a definition of an animation is too
long. -/
theorem splitNode_failsIf (ho : AreWritten other) {entries : List (Value × Value)}
    {fields : List Field} {nested : List RuleEntry} (hf : nodeFields entries = .ok fields)
    (hn : nestedRules fields = .ok nested) (h : ∀ f ∈ ownFields fields, FieldOf p other f)
    (selector : String) :
    FailsIf false ((⟨[], .entering, fields⟩ : Visit).definitions.any (·.fields.isTooLong))
      (splitNode selector (.mapping entries)) := by
  have split := splitEntries_failsIf hf hn fun f hm => declared_failsIf ho (h f hm) selector
  rw [List.any_eq_false.2 (by simp)] at split
  rw [Visit.definitions, List.any_flatMap]
  exact split

/-- What a node that can be split is split into. -/
theorem splitNode_of {selector : String} {entries : List (Value × Value)} {fields : List Field}
    {nested : List RuleEntry} {parts : NodeParts} (hf : nodeFields entries = .ok fields)
    (hn : nestedRules fields = .ok nested) (h : ∀ f ∈ ownFields fields, FieldOf p other f)
    (hs : splitNode selector (.mapping entries) = .ok parts) :
    parts.nested = nested ∧ parts.keyframes = (nodeAnimations fields).map (·.placed selector) ∧
      (∀ d ∈ parts.declarations, d.2.FailsExactly) ∧
      (parts.declarations.any fun d => d.2.isOverNested) =
        (⟨[], .entering, fields⟩ : Visit).declaredValues.any Value.isOverNested ∧
      (parts.declarations.any fun d => d.2.formatsTooLong) =
        (⟨[], .entering, fields⟩ : Visit).declaredValues.any Value.formatsTooLong := by
  obtain ⟨fields', hf', declared, nested', keyframes⟩ := splitEntries_eq_ok.1 hs
  cases hf.symm.trans hf'
  cases hn.symm.trans nested'
  refine ⟨rfl, keyframes, fun d hd => ?_, any_declared (fun _ => rfl) declared,
    any_declared (fun _ => rfl) declared⟩
  obtain ⟨f, hf, hfd⟩ := exists_mem_of_mapM declared hd
  exact failsExactly_of_declared (h f hf) hfd

theorem isOverNested_leaving (fields : List Field) :
    (⟨[], .leaving, fields⟩ : Visit).isOverNested = (nodeAnimations fields).any fun a =>
      (keyframesWithBody a.keyframes).any isOverNestedKeyframe := by
  have keyframe : isOverNestedKeyframe = fun e =>
      (bodyValues e.2).any Value.isOverNested || e.1.isOverNestedOffset :=
    funext fun e => Bool.or_comm ..
  simp only [Visit.isOverNested, Visit.declaredValues, Visit.offsets, List.any_flatMap,
    List.any_map, keyframe, any_or]
  rfl

theorem isTooLong_leaving (fields : List Field) :
    (⟨[], .leaving, fields⟩ : Visit).isTooLong = (nodeAnimations fields).any fun a =>
      (keyframesWithBody a.keyframes).any isTooLongKeyframe := by
  have keyframe : isTooLongKeyframe = fun e =>
      (bodyValues e.2).any Value.formatsTooLong || e.1.displaysTooLong :=
    funext fun e => Bool.or_comm ..
  simp only [Visit.isTooLong, Visit.declaredValues, Visit.definitions, Visit.offsets,
    List.any_flatMap, List.any_map, List.any_nil, Bool.or_false, keyframe, any_or]
  rfl

/-- Nodes and rules that can be visited compile, unless a visit writes what is nested too deep or
too long. -/
theorem compile_failsIf (ho : AreWritten other) :
    (∀ selector node, ∀ vs, visitNode node = .ok vs →
      (∀ v ∈ vs, ∀ f ∈ ownFields v.fields, FieldOf p other f) →
      FailsIf (vs.any Visit.isOverNested) (vs.any Visit.isTooLong)
        (compileNode selector node).result) ∧
    (∀ parent entries, ∀ vs, visitEntries entries = .ok vs →
      (∀ v ∈ vs, ∀ f ∈ ownFields v.fields, FieldOf p other f) →
      FailsIf (vs.any Visit.isOverNested) (vs.any Visit.isTooLong)
        (compileEntries parent entries).result) := by
  refine compileNode.mutual_induct _ _ ?_ ?_ ?_ ?_ ?_
  -- A node that cannot be split: a definition that it declares is too long.
  · intro selector node e he vs hv h
    obtain ⟨entries, fields, nested, inner, rfl, hf, hn, hi, rfl⟩ := visitNode_eq_ok.1 hv
    have split := splitNode_failsIf ho hf hn (h _ List.mem_cons_self) selector
    rw [he] at split
    rw [compileNode_of_split_error he, List.cons_append, List.any_cons, List.any_cons]
    generalize hl : List.any _ _ = long at split
    cases split with
    | digits =>
      rw [Visit.isTooLong, hl, Bool.or_true, Bool.true_or, Bool.true_or]
      exact .digits
  -- A node and its nested rules.
  · intro selector node parts hs ih vs hv h
    obtain ⟨entries, fields, nested, inner, rfl, hf, hn, hi, rfl⟩ := visitNode_eq_ok.1 hv
    have split := splitNode_failsIf ho hf hn (h _ List.mem_cons_self) selector
    obtain ⟨hnested, hk, he, hover, hlong⟩ := splitNode_of hf hn (h _ List.mem_cons_self) hs
    rw [hs] at split
    rw [List.cons_append, List.forall_mem_cons, List.forall_mem_append,
      List.forall_mem_singleton] at h
    obtain ⟨hown, hinner, -⟩ := h
    have deep : (⟨[], .entering, fields⟩ : Visit).isOverNested =
        parts.declarations.any fun d => d.2.isOverNested := by
      rw [hover]
      exact Bool.or_false _
    have long : (⟨[], .entering, fields⟩ : Visit).isTooLong =
        parts.declarations.any fun d => d.2.formatsTooLong := by
      generalize hd : List.any _ _ = definitions at split
      cases split
      rw [hlong, Visit.isTooLong, hd, Bool.or_false]
      exact Bool.or_false _
    have own : FailsIf _ _ (Logged.ofExcept (ownRule selector parts.declarations)).result :=
      ownRule_failsIf he selector
    have blocks := @inlineKeyframes_failsIf p (nodeAnimations fields) selector fun a ha =>
      (of_mem_nodeAnimations hown ha).keyframes
    rw [← hk] at blocks
    rw [compileNode_of_split hs]
    simp only [List.cons_append, List.any_cons, List.any_append, List.any_nil, Bool.or_false, deep,
      long, isOverNested_leaving, isTooLong_leaving]
    exact own.bind_result fun _ => (ih inner (hnested ▸ hi) hinner).bind_result fun _ =>
      blocks.map_result
  -- No entries.
  · intro parent vs hv h
    rw [visitEntries] at hv
    cases hv
    rw [compileEntries_nil]
    exact .ok []
  -- A selector that is not text.
  · intro parent selector node rest hs vs hv h
    obtain ⟨s, own, more, rfl, -⟩ := visitEntries_cons_eq_ok.1 hv
    cases hs
  -- An entry and those after it.
  · intro parent selector node rest s hs ihn ihr vs hv h
    obtain rfl := text?_eq_some.1 hs
    obtain ⟨t, own, more, ht, ho, hm, rfl⟩ := visitEntries_cons_eq_ok.1 hv
    cases ht
    rw [List.forall_mem_append, List.forall_mem_map] at h
    rw [compileEntries, List.any_append, List.any_append, List.any_map, List.any_map]
    exact (ihn own ho h.1).bind_result fun _ => (ihr more hm h.2).map_result

/-! ## Rule sets -/

/-- A rule set whose selectors and keys are text, whose nodes and keyframes are mappings, whose
animations are texts and definitions, and whose other values are plain. -/
def WellTyped (rules : Value) : Prop :=
  RulesOf (fun _ => True)
    (FieldOf (fun _ => True) fun v => v.isAbsent = true ∨ ∃ s, v = .text s) rules

/-- A rule set with one node that has one field is well-typed if the field is. -/
theorem wellTyped_field {selector key : String} {v : Value} (hk : holdsRules key = false)
    (h : FieldOf (fun _ => True) (fun v => v.isAbsent = true ∨ ∃ s, v = .text s) (key, v)) :
    WellTyped (.mapping [(.text selector, .mapping [(.text key, v)])]) :=
  .mapping (List.forall_mem_singleton.2 ⟨selector, rfl, trivial⟩)
    (List.forall_mem_singleton.2 (.mapping (List.forall_mem_singleton.2 fun _ => .own hk h)))

theorem visits_field {selector key : String} {v : Value} (hk : holdsRules key = false)
    (ha : v.isAbsent = false) :
    visits (.mapping [(.text selector, .mapping [(.text key, v)])]) =
      .ok [⟨[selector], .entering, [(key, v)]⟩, ⟨[selector], .leaving, [(key, v)]⟩] :=
  visitEntries_single (visitNode_of_no_rules (by rw [nodeFields, ha]; rfl) (nestedRules_own hk v))

/-- A well-typed rule set compiles unless something that is written is nested too deep or too
long. -/
theorem css_failsIf {rules : Value} (h : WellTyped rules) : ∃ vs, visits rules = .ok vs ∧
    FailsIf (vs.any Visit.isOverNested) (vs.any Visit.isTooLong) (css rules).result := by
  obtain ⟨vs, hv, hvs⟩ := visits_of_rulesOf h
  obtain ⟨entries, he, hentries⟩ := Failure.bind_eq_ok.1 hv
  have written : AreWritten fun v => v.isAbsent = true ∨ ∃ s, v = .text s := by
    rintro v (ha | ⟨s, rfl⟩)
    · rw [Value.isAbsent_iff.1 ha]
      exact ⟨_, rfl⟩
    · exact ⟨s, rfl⟩
  have compiled := (compile_failsIf written).2 "" entries vs hentries fun v hm => (hvs v hm).fields
  have unfolded : compileRules rules = compileEntries "" entries := by
    show Logged.ofExcept (ruleEntries rules) >>= compileEntries "" = _
    rw [he]
    rfl
  rw [← unfolded] at compiled
  exact ⟨vs, hv, compiled.map_result⟩

namespace Visit

/-- A visit writes a list that is nested too deep. -/
def WritesOverNested (v : Visit) : Prop :=
  (∃ w ∈ v.declaredValues, w.isOverNested = true) ∨ ∃ w ∈ v.offsets, w.isOverNestedOffset = true

/-- A visit writes a number that is too long. -/
def WritesTooLong (v : Visit) : Prop :=
  (∃ w ∈ v.declaredValues, w.formatsTooLong = true) ∨
    (∃ d ∈ v.definitions, d.fields.isTooLong = true) ∨ ∃ w ∈ v.offsets, w.displaysTooLong = true

theorem isOverNested_iff {v : Visit} : v.isOverNested = true ↔ v.WritesOverNested := by
  simp only [isOverNested, WritesOverNested, List.any_eq_true, Bool.or_eq_true]

theorem isTooLong_iff {v : Visit} : v.isTooLong = true ↔ v.WritesTooLong := by
  simp only [isTooLong, WritesTooLong, List.any_eq_true, Bool.or_eq_true, or_assoc]

end Visit

/-- A well-typed rule set compiles, or its lists are nested too deep, or a number in it is too long.
It fails exactly if a declaration that is written is over-nested, or the fallback of a variable that
is an offset, or if a number is too long that is written: in a declaration, in the definition of an
animation or in an offset. Whichever of the two it fails with is there. -/
theorem css_fails_iff {rules : Value} (h : WellTyped rules) : ∃ vs, visits rules = .ok vs ∧
    ((∃ text, (css rules).result = .ok text) ∨
      (∃ property, (css rules).result = .error (.nesting property 3)) ∧
        (∃ v ∈ vs, v.WritesOverNested) ∨
      (css rules).result = .error .tooManyDigits ∧ ∃ v ∈ vs, v.WritesTooLong) ∧
    ((∃ e, (css rules).result = .error e) ↔
      (∃ v ∈ vs, v.WritesOverNested) ∨ ∃ v ∈ vs, v.WritesTooLong) := by
  obtain ⟨vs, hv, fails⟩ := css_failsIf h
  refine ⟨vs, hv, ?_⟩
  simp only [← Visit.isOverNested_iff, ← Visit.isTooLong_iff, ← List.any_eq_true]
  generalize vs.any Visit.isOverNested = tooDeep at fails
  generalize vs.any Visit.isTooLong = tooLong at fails
  generalize (css rules).result = result at fails
  cases fails with
  | ok text => simp
  | nested property => simp
  | digits => simp

/-- A third level of lists in the rule of a pseudo key is refused. -/
theorem css_fails_iff_hover :
    let deep : Value := .list [.text "a", .list [.text "b", .list [.text "c"]]]
    let rules : Value :=
      .mapping [(.text ".a", .mapping [(.text ":hover", .mapping [(.text "gridTemplate", deep)])])]
    WellTyped rules ∧ ∃ property, (css rules).result = .error (.nesting property 3) := by
  intro deep rules
  have text (s : String) : (Value.text s).Plain fun _ => True := .scalar trivial
  have plain : deep.Plain fun _ => True :=
    .list (List.forall_mem_cons.2 ⟨text "a", List.forall_mem_singleton.2
      (.list (List.forall_mem_cons.2 ⟨text "b", List.forall_mem_singleton.2
        (.list (List.forall_mem_singleton.2 (text "c")))⟩))⟩)
  have typed : WellTyped rules :=
    .mapping (List.forall_mem_singleton.2 ⟨".a", rfl, trivial⟩)
      (List.forall_mem_singleton.2 (.mapping (List.forall_mem_singleton.2 fun _ =>
        .pseudo rfl trivial (.mapping (List.forall_mem_singleton.2 fun _ =>
          .own rfl ⟨fun h => absurd h (by decide), fun _ => ⟨trivial, plain⟩⟩)))))
  refine ⟨typed, ?_⟩
  have hv : visits rules = .ok _ := visitEntries_single <| visitNode_eq_ok.2
    ⟨_, _, _, _, rfl, rfl, nestedRules_pseudo rfl _,
      visitEntries_single (visitNode_of_no_rules rfl (nestedRules_own rfl _)), rfl⟩
  obtain ⟨vs, hvs, outcome, fails⟩ := css_fails_iff typed
  cases hv.symm.trans hvs
  -- The inner node declares the list, so compiling fails, and the only failure is this one.
  have own : ("gridTemplate", deep) ∈ ownFields [("gridTemplate", deep)] :=
    List.mem_filter.2 ⟨List.mem_cons_self, by decide⟩
  obtain ⟨e, he⟩ := fails.2 (.inl ⟨_, List.mem_cons_of_mem _ List.mem_cons_self,
    .inl ⟨deep, List.mem_map.2 ⟨_, List.mem_filter.2 ⟨own, by decide⟩, rfl⟩, by decide⟩⟩)
  rcases outcome with ⟨text, ht⟩ | ⟨nested, -⟩ | ⟨-, v, hm, long⟩
  · cases he.symm.trans ht
  · exact nested
  · exfalso
    rw [← Visit.isTooLong_iff] at long
    revert v
    decide

/-- Two ways to fail with no declaration over-nested: a variable may be the offset of a keyframe,
and then its fallback is formatted; and a number may be too long. -/
theorem css_fails_otherwise :
    let fallback : Value := .tuple [.tuple [.tuple [.text "x"]]]
    let set : Value := .mapping [(.variable "--v" "width" fallback,
      .mapping [(.text "opacity", .scalar (.int 0))])]
    let atOffset : Value :=
      .mapping [(.text ".a", .mapping [(.text "animation", .animation {} set)])]
    let number : Value := .scalar (.int (10 ^ Numeral.digitLimit))
    let tooLong : Value := .mapping [(.text ".a", .mapping [(.text "width", number)])]
    (WellTyped atOffset ∧ (∃ vs, visits atOffset = .ok vs ∧
        ∀ v ∈ vs, ∀ w ∈ v.declaredValues, w.isOverNested = false) ∧
      ∃ property, (css atOffset).result = .error (.nesting property 3)) ∧
    WellTyped tooLong ∧ (∃ vs, visits tooLong = .ok vs ∧
        ∀ v ∈ vs, ∀ w ∈ v.declaredValues, w.isOverNested = false) ∧
      (css tooLong).result = .error .tooManyDigits := by
  intro fallback set atOffset number tooLong
  have plain : fallback.Plain fun _ => True :=
    .tuple (List.forall_mem_singleton.2 (.tuple (List.forall_mem_singleton.2
      (.tuple (List.forall_mem_singleton.2 (.scalar trivial))))))
  have keyframes : KeyframesOf (fun _ => True) set :=
    ⟨_, rfl, List.forall_mem_singleton.2 fun _ => ⟨.variable trivial plain, _, rfl,
      List.forall_mem_singleton.2 fun _ => ⟨_, rfl, fun _ => ⟨trivial, .scalar trivial⟩⟩⟩⟩
  have offsetTyped : WellTyped atOffset := wellTyped_field rfl
    ⟨fun _ => List.forall_mem_singleton.2
        (.definition ⟨fun f _ => f.2.all_true, fun _ => keyframes⟩),
      fun h => absurd rfl h⟩
  have numberTyped : WellTyped tooLong := wellTyped_field rfl
    ⟨fun h => absurd h (by decide), fun _ => ⟨trivial, .scalar trivial⟩⟩
  refine ⟨⟨offsetTyped, ⟨_, visits_field rfl rfl, by decide⟩, ?_⟩,
    numberTyped, ⟨_, visits_field rfl rfl, by decide⟩, ?_⟩
  · obtain ⟨vs, hvs, fails⟩ := css_failsIf offsetTyped
    cases (visits_field rfl rfl).symm.trans hvs
    generalize (css atOffset).result = result at fails ⊢
    generalize hd : List.any _ Visit.isOverNested = deep at fails
    generalize hl : List.any _ Visit.isTooLong = long at fails
    cases fails with
    | ok => exact absurd hd (by decide)
    | nested property => exact ⟨property, rfl⟩
    | digits => exact absurd hl (by decide)
  · obtain ⟨vs, hvs, fails⟩ := css_failsIf numberTyped
    cases (visits_field rfl rfl).symm.trans hvs
    have declared : number ∈ (⟨[".a"], .entering, [("width", number)]⟩ : Visit).declaredValues := by
      rw [Visit.declaredValues_entering (by decide) (by decide)]
      exact List.mem_singleton_self number
    have long : (⟨[".a"], .entering, [("width", number)]⟩ : Visit).isTooLong = true :=
      Visit.isTooLong_iff.2 (.inl ⟨number, declared, Scalar.isTooLong_power⟩)
    generalize (css tooLong).result = result at fails ⊢
    generalize hd : List.any _ Visit.isOverNested = deep at fails
    rw [List.any_cons, long, Bool.true_or] at fails
    cases fails with
    | nested property => exact absurd hd (by decide)
    | digits => rfl

end Stylesheet
