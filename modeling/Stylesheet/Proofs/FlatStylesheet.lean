import Stylesheet.Proofs.StylesheetText
/-!
# The stylesheet as one rule set

Compiling goes entry by entry, so rule sets compiled one after the other are one rule set with all
their entries (`forEach_compileRules_eq_ok`). A stylesheet is therefore one flat list of texts: the
font faces, the rules of a single rule set, and the registered keyframes (`getCss_eq_ok_flat`).
-/

namespace Stylesheet

theorem Logged.forEach_ofExcept {α β : Type} (f : α → Except Failure β) (as : List α) :
    forEach (fun a => ofExcept (f a)) as = ofExcept (as.mapM f) := by
  induction as with
  | nil => rfl
  | cons a rest ih =>
    rw [forEach, ih, List.mapM_cons]
    cases f a with
    | error e => rfl
    | ok b => cases rest.mapM f <;> rfl

/-! ## Entries one after the other -/

theorem compileEntries_append (parent : String) (own more : List RuleEntry) :
    compileEntries parent (own ++ more) = do
      let rules ← compileEntries parent own
      let others ← compileEntries parent more
      return rules ++ others := by
  induction own with
  | nil => simp [compileEntries]
  | cons e rest ih =>
    obtain ⟨selector, node⟩ := e
    rw [List.cons_append, compileEntries, compileEntries]
    cases selector.text? with
    | none => rfl
    | some selector => simp only [ih, bind_assoc, pure_bind, List.append_assoc]

theorem pairEntries_append (a b : List Value) :
    pairEntries (a ++ b) = do
      let own ← pairEntries a
      let more ← pairEntries b
      return own ++ more := by
  induction a with
  | nil => cases h : pairEntries b <;> simp only [List.nil_append, h] <;> rfl
  | cons item rest ih =>
    rw [List.cons_append, pairEntries, pairEntries, ih]
    simp only [bind_assoc, pure_bind, List.append_assoc]

/-- The entries of rule sets, one rule set after the other. -/
def entriesOfAll (ruleSets : List Value) : Except Failure (List RuleEntry) := do
  return (← ruleSets.mapM ruleEntries).flatten

theorem entriesOfAll_cons_eq_ok {rules : Value} {rest : List Value} {entries : List RuleEntry} :
    entriesOfAll (rules :: rest) = .ok entries ↔ ∃ own more, ruleEntries rules = .ok own ∧
      entriesOfAll rest = .ok more ∧ entries = own ++ more := by
  simp only [entriesOfAll, Failure.bind_eq_ok, List.mapM_cons]
  constructor
  · rintro ⟨_, ⟨own, ho, parts, hp, h⟩, he⟩
    cases h
    cases he
    exact ⟨own, _, ho, ⟨parts, hp, rfl⟩, rfl⟩
  · rintro ⟨own, _, ho, ⟨parts, hp, he⟩, rfl⟩
    cases he
    exact ⟨_, ⟨own, ho, parts, hp, rfl⟩, rfl⟩

theorem entriesOfAll_append_eq_ok {a b : List Value} {entries : List RuleEntry} :
    entriesOfAll (a ++ b) = .ok entries ↔ ∃ own more, entriesOfAll a = .ok own ∧
      entriesOfAll b = .ok more ∧ entries = own ++ more := by
  induction a generalizing entries with
  | nil =>
    constructor
    · intro h
      exact ⟨[], entries, rfl, h, rfl⟩
    · rintro ⟨own, more, ho, hm, rfl⟩
      cases ho
      exact hm
  | cons rules rest ih =>
    simp only [List.cons_append, entriesOfAll_cons_eq_ok, ih]
    constructor
    · rintro ⟨own, _, ho, ⟨others, more, hr, hm, rfl⟩, rfl⟩
      exact ⟨_, more, ⟨own, others, ho, hr, rfl⟩, hm, (List.append_assoc ..).symm⟩
    · rintro ⟨_, more, ⟨own, others, ho, hr, rfl⟩, hm, rfl⟩
      exact ⟨own, _, ho, ⟨others, more, hr, hm, rfl⟩, List.append_assoc ..⟩

/-- Mappings of one entry each have just these entries. -/
theorem entriesOfAll_single {α : Type} (entry : α → RuleEntry) (as : List α) :
    entriesOfAll (as.map fun a => .mapping [entry a]) = .ok (as.map entry) := by
  induction as with
  | nil => rfl
  | cons a rest ih =>
    exact entriesOfAll_cons_eq_ok.2 ⟨[entry a], rest.map entry, rfl, ih, rfl⟩

/-- Rule sets compile one after the other to what all their entries compile to. -/
theorem forEach_compileRules_eq_ok {ruleSets : List Value} {log : List LogRecord}
    {out : List String} :
    (∃ parts, Logged.forEach compileRules ruleSets = ⟨log, .ok parts⟩ ∧ out = parts.flatten) ↔
      ∃ entries, entriesOfAll ruleSets = .ok entries ∧
        compileEntries "" entries = ⟨log, .ok out⟩ := by
  induction ruleSets generalizing log out with
  | nil =>
    constructor
    · rintro ⟨parts, h, rfl⟩
      obtain ⟨rfl, rfl⟩ := Logged.pure_eq_ok.1 h
      exact ⟨[], rfl, by rw [compileEntries_nil]; rfl⟩
    · rintro ⟨entries, he, h⟩
      obtain rfl : [] = entries := Except.ok.inj he
      rw [compileEntries_nil] at h
      obtain ⟨rfl, rfl⟩ := Logged.pure_eq_ok.1 h
      exact ⟨[], rfl, rfl⟩
  | cons rules rest ih =>
    constructor
    · rintro ⟨_, h, rfl⟩
      obtain ⟨l, own, m, parts, ho, hp, rfl, rfl⟩ := Logged.forEach_cons_eq_ok.1 h
      obtain ⟨entries, he, hc⟩ := Logged.ofExcept_bind_eq_ok.1 ho
      obtain ⟨others, hr, hm⟩ := ih.1 ⟨parts, hp, rfl⟩
      refine ⟨_, entriesOfAll_cons_eq_ok.2 ⟨entries, others, he, hr, rfl⟩, ?_⟩
      rw [compileEntries_append]
      exact Logged.both_eq_ok.2 ⟨l, own, m, parts.flatten, hc, hm, rfl, rfl⟩
    · rintro ⟨_, hall, h⟩
      obtain ⟨entries, others, he, hr, rfl⟩ := entriesOfAll_cons_eq_ok.1 hall
      rw [compileEntries_append] at h
      obtain ⟨l, own, m, more, ho, hm, rfl, rfl⟩ := Logged.both_eq_ok.1 h
      obtain ⟨parts, hp, rfl⟩ := ih.2 ⟨others, hr, hm⟩
      exact ⟨_, Logged.forEach_cons_eq_ok.2
        ⟨l, own, m, parts, Logged.ofExcept_bind_eq_ok.2 ⟨entries, he, ho⟩, hp, rfl, rfl⟩, rfl⟩

/-! ## One rule set -/

/-- A rule set in the form of pairs, one for each entry. -/
def pairList (pairs : List (String × Value)) : Value :=
  .list (pairs.map fun p => .tuple [.text p.1, p.2])

/-- The entries that pairs stand for. -/
def pairRuleEntries (pairs : List (String × Value)) : List RuleEntry :=
  pairs.map fun p => (.text p.1, p.2)

theorem ruleEntries_pairList (pairs : List (String × Value)) :
    ruleEntries (pairList pairs) = .ok (pairRuleEntries pairs) := by
  show pairEntries (pairs.map _) = _
  induction pairs with
  | nil => rfl
  | cons p rest ih =>
    rw [List.map_cons, pairEntries, ih]
    rfl

theorem compileRules_pairList (pairs : List (String × Value)) :
    compileRules (pairList pairs) = compileEntries "" (pairRuleEntries pairs) := by
  rw [compileRules, ruleEntries_pairList]
  rfl

/-- The entries of what compiles have text for selectors. -/
theorem exists_pairs_of_compileEntries {parent : String} {entries : List RuleEntry}
    {log : List LogRecord} {out : List String}
    (h : compileEntries parent entries = ⟨log, .ok out⟩) :
    ∃ pairs, entries = pairRuleEntries pairs := by
  induction entries generalizing log out with
  | nil => exact ⟨[], rfl⟩
  | cons e rest ih =>
    obtain ⟨selector, node⟩ := e
    obtain ⟨s, l, rules, m, more, rfl, -, hr, -, -⟩ := compileEntries_cons_eq_ok.1 h
    obtain ⟨pairs, rfl⟩ := ih hr
    exact ⟨(s, node) :: pairs, rfl⟩

theorem ne_empty_of_mem_compileRules {rules : Value} {log : List LogRecord} {out : List String}
    (h : compileRules rules = ⟨log, .ok out⟩) {t : String} (ht : t ∈ out) : t ≠ "" := by
  obtain ⟨vs, -, hout⟩ := compileRules_eq_ok.1 h
  obtain ⟨p, -, l, hp⟩ := Logged.exists_mem_of_forEach hout ht
  exact Piece.text_ne_empty hp

/-! ## The stylesheet -/

namespace Registries

/-- The raw rule sets and the styles, each a rule set. -/
def ruleSets (r : Registries) : List Value :=
  r.rules.map (Value.settle r.rendered) ++
    r.styles.records.map fun s =>
      .mapping [(.text ("." ++ s.name), s.payload.settle r.rendered)]

/-- The entries of all raw rule sets, then those of all styles. -/
def ruleEntries (r : Registries) : Except Failure (List RuleEntry) := do
  let raw ← entriesOfAll (r.rules.map (Value.settle r.rendered))
  return raw ++ r.styles.records.map fun s =>
    (.text ("." ++ s.name), s.payload.settle r.rendered)

theorem entriesOfAll_ruleSets_eq_ok {r : Registries} {entries : List RuleEntry} :
    entriesOfAll r.ruleSets = .ok entries ↔ r.ruleEntries = .ok entries := by
  rw [ruleSets, entriesOfAll_append_eq_ok, ruleEntries, Failure.bind_eq_ok]
  have styles := entriesOfAll_single (fun s : Record Value =>
    (Value.text ("." ++ s.name), s.payload.settle r.rendered)) r.styles.records
  constructor
  · rintro ⟨raw, more, hr, hm, rfl⟩
    cases hm.symm.trans styles
    exact ⟨raw, hr, rfl⟩
  · rintro ⟨raw, hr, h⟩
    cases h
    exact ⟨raw, _, hr, styles, rfl⟩

/-- The blocks of the font faces, in order. -/
def fontFaceTexts (r : Registries) : Except Failure (List String) :=
  r.fontFaces.mapM fun f => fontFaceBlock (f.definition.settle r.rendered)

/-- The blocks of the registered keyframes, in order. -/
def keyframesTexts (r : Registries) : Logged (List String) :=
  Logged.forEach (fun k => keyframesBlock k.name (k.payload.settle r.rendered) keyframeIndent)
    r.keyframes.records

theorem ne_empty_of_mem_fontFaceTexts {r : Registries} {faces : List String}
    (h : r.fontFaceTexts = .ok faces) {t : String} (ht : t ∈ faces) : t ≠ "" := by
  obtain ⟨f, -, hf⟩ := exists_mem_of_mapM h ht
  exact Block.text_ne_empty (b := .fontFace (f.definition.settle r.rendered))
    (Logged.ofExcept_eq_ok.2 ⟨rfl, hf⟩)

theorem ne_empty_of_mem_keyframesTexts {r : Registries} {log : List LogRecord}
    {blocks : List String} (h : r.keyframesTexts = ⟨log, .ok blocks⟩) {t : String}
    (ht : t ∈ blocks) : t ≠ "" := by
  obtain ⟨k, -, l, hk⟩ := Logged.exists_mem_of_forEach h ht
  exact keyframesBlock_ne_empty hk

end Registries

/-- The chunks of a stylesheet: the font faces, then the rule sets, then the keyframes. -/
theorem chunks_eq (r : Registries) : Context.chunks r = do
    let faces ← Logged.ofExcept r.fontFaceTexts
    let rules ← Logged.forEach compileRules r.ruleSets
    let blocks ← r.keyframesTexts
    return faces ++ rules.map "\n".intercalate ++ blocks := by
  have css_eq : css = fun rules => do return "\n".intercalate (← compileRules rules) := rfl
  simp only [Context.chunks, css_eq, Logged.forEach_bind_pure, Logged.forEach_ofExcept,
    Registries.ruleSets, Registries.keyframesTexts, Logged.forEach_append, Logged.forEach_map,
    Registries.fontFaceTexts, bind_assoc, pure_bind, List.map_append, List.append_assoc]

/-- Single texts joined with the texts of rule sets, the empty ones left out. -/
theorem intercalate_chunks {faces blocks : List String} {rules : List (List String)}
    (hf : ∀ t ∈ faces, t ≠ "") (hr : ∀ t ∈ rules.flatten, t ≠ "") (hb : ∀ t ∈ blocks, t ≠ "") :
    "\n".intercalate ((faces ++ rules.map "\n".intercalate ++ blocks).filter (· ≠ "")) =
      "\n".intercalate (faces ++ rules.flatten ++ blocks) := by
  have single : ∀ ts : List String, (ts.map fun t => [t]).map "\n".intercalate = ts := fun ts => by
    simp [Function.comp_def]
  have flat : ∀ ts : List String, (ts.map fun t => [t]).flatten = ts := fun ts => by
    induction ts with
    | nil => rfl
    | cons t rest ih => rw [List.map_cons, List.flatten_cons, ih, List.singleton_append]
  have joined := @intercalate_filter_parts "\n"
    (faces.map (fun t => [t]) ++ rules ++ blocks.map fun t => [t]) fun ts hts t ht => by
      simp only [List.mem_append, List.mem_map] at hts
      rcases hts with (⟨u, hu, rfl⟩ | hts) | ⟨u, hu, rfl⟩
      · exact List.mem_singleton.1 ht ▸ hf u hu
      · exact hr t (List.mem_flatten.2 ⟨ts, hts, ht⟩)
      · exact List.mem_singleton.1 ht ▸ hb u hu
  simpa only [List.map_append, single, List.flatten_append, flat] using joined

/-- The parts of a stylesheet: the font faces, the rules of all entries, the keyframes. -/
structure FlatParts (r : Registries) (log : List LogRecord) (faces rules blocks : List String) :
    Prop where
  faces : r.fontFaceTexts = .ok faces
  compiled : ∃ pairs l m, r.ruleEntries = .ok (pairRuleEntries pairs) ∧
    compileRules (pairList pairs) = ⟨l, .ok rules⟩ ∧ r.keyframesTexts = ⟨m, .ok blocks⟩ ∧
    log = l ++ m

theorem FlatParts.ne_empty {r : Registries} {log : List LogRecord}
    {faces rules blocks : List String}
    (h : FlatParts r log faces rules blocks) : ∀ t ∈ faces ++ rules ++ blocks, t ≠ "" := by
  obtain ⟨hf, pairs, l, m, -, hc, hb, -⟩ := h
  intro t ht
  rcases List.mem_append.1 ht with ht | ht
  · rcases List.mem_append.1 ht with ht | ht
    · exact Registries.ne_empty_of_mem_fontFaceTexts hf ht
    · exact ne_empty_of_mem_compileRules hc ht
  · exact Registries.ne_empty_of_mem_keyframesTexts hb ht

/-- A stylesheet is a flat list of texts, a line break between any two: the font faces, the rules of
one rule set with all entries, and the keyframes. -/
theorem getCss_eq_ok_flat {c : Context} {log : List LogRecord} {css : String} :
    c.getCss = ⟨log, .ok css⟩ ↔ ∃ faces rules blocks,
      FlatParts c.registries log faces rules blocks ∧
      css = "\n".intercalate (faces ++ rules ++ blocks) := by
  rw [Context.getCss, Logged.map_eq_ok, chunks_eq]
  have joined : ∀ {faces blocks : List String} {parts : List (List String)},
      FlatParts c.registries log faces parts.flatten blocks →
      "\n".intercalate ((faces ++ parts.map "\n".intercalate ++ blocks).filter (· ≠ "")) =
        "\n".intercalate (faces ++ parts.flatten ++ blocks) := fun {faces blocks parts} h =>
    intercalate_chunks
      (fun t ht => h.ne_empty t (List.mem_append_left _ (List.mem_append_left _ ht)))
      (fun t ht => h.ne_empty t (List.mem_append_left _ (List.mem_append_right _ ht)))
      (fun t ht => h.ne_empty t (List.mem_append_right _ ht))
  constructor
  · rintro ⟨ts, h, rfl⟩
    obtain ⟨faces, hf, h⟩ := Logged.ofExcept_bind_eq_ok.1 h
    obtain ⟨l, parts, m, blocks, hp, hb, rfl, rfl⟩ := Logged.both_eq_ok.1 h
    obtain ⟨entries, he, hc⟩ := forEach_compileRules_eq_ok.1 ⟨parts, hp, rfl⟩
    obtain ⟨pairs, rfl⟩ := exists_pairs_of_compileEntries hc
    have flat : FlatParts c.registries (l ++ m) faces parts.flatten blocks :=
      ⟨hf, pairs, l, m, Registries.entriesOfAll_ruleSets_eq_ok.1 he,
        by rw [compileRules_pairList, hc], hb, rfl⟩
    exact ⟨faces, parts.flatten, blocks, flat, joined flat⟩
  · rintro ⟨faces, rules, blocks, flat, rfl⟩
    obtain ⟨hf, pairs, l, m, he, hc, hb, rfl⟩ := flat
    rw [compileRules_pairList] at hc
    obtain ⟨parts, hp, rfl⟩ := forEach_compileRules_eq_ok.2
      ⟨_, Registries.entriesOfAll_ruleSets_eq_ok.2 he, hc⟩
    exact ⟨_, Logged.ofExcept_bind_eq_ok.2
      ⟨faces, hf, Logged.both_eq_ok.2 ⟨l, parts, m, blocks, hp, hb, rfl, rfl⟩⟩,
      (joined ⟨hf, pairs, l, m, he, by rw [compileRules_pairList, hc], hb, rfl⟩).symm⟩

end Stylesheet
