import Stylesheet.Proofs.Pieces
/-!
# Visits to the nodes of a rule set

A rule set is walked in pre-order. A node emits the rule of its own declarations when it is entered
and the keyframes of its inline animations when it is left. Compiling gives exactly the texts that
the visits emit (`compileRules_eq_ok`).
-/

namespace Stylesheet

/-! ## Visits -/

/-- A node is entered before its nested rules and left after them. -/
inductive Phase where
  | entering
  | leaving

/-- A visit to a node, with the path to it. -/
structure Visit where
  path : List String
  phase : Phase
  fields : List Field

/-- The visit as it is made from one rule further out. -/
def Visit.under (selector : String) (v : Visit) : Visit := { v with path := selector :: v.path }

/-- What a node emits in a rule: its own declarations when it is entered, if there are any, and its
inline animations when it is left. -/
def Visit.blocks (selector : String) (v : Visit) : List Block :=
  match v.phase with
  | .entering => if ownFields v.fields = [] then [] else [.rule selector (ownFields v.fields)]
  | .leaving => (nodeAnimations v.fields).map fun a => .keyframes (.inline selector a) a.keyframes

theorem Visit.mem_blocks {selector : String} {v : Visit} {b : Block} (h : b ∈ v.blocks selector) :
    b = .rule selector (ownFields v.fields) ∨
      ∃ a ∈ nodeAnimations v.fields, b = .keyframes (.inline selector a) a.keyframes := by
  unfold Visit.blocks at h
  split at h
  · split at h
    · cases h
    · exact .inl (List.mem_singleton.1 h)
  · obtain ⟨a, ha, rfl⟩ := List.mem_map.1 h
    exact .inr ⟨a, ha, rfl⟩

/-- What a visit emits inside a rule with the selector `parent`. -/
def Visit.pieces (parent : String) (v : Visit) : List Piece :=
  (v.blocks (Selector.composed parent v.path)).map fun b => ⟨Selector.groupings v.path, b⟩

theorem pieces_under (parent selector : String) (v : Visit) :
    (v.under selector).pieces parent =
      (v.pieces (Selector.inside parent selector)).map (Piece.inside selector) := by
  simp only [Visit.pieces, Visit.under, Selector.composed_cons,
    Selector.groupings_cons selector v.path, List.map_map]
  rfl

mutual

/-- The visits to a node and to all nodes in it. -/
def visitNode (node : Value) : Except Failure (List Visit) :=
  match node with
  | .mapping entries =>
    match _hf : nodeFields entries with
    | .error e => .error e
    | .ok fields =>
      match _hn : nestedRules fields with
      | .error e => .error e
      | .ok nested => do
        let inner ← visitEntries nested
        return ⟨[], .entering, fields⟩ :: inner ++ [⟨[], .leaving, fields⟩]
  | _ => .error .notMapping
termination_by (node.height, 0, 0)
decreasing_by
  have := nodesHeight_nestedRules_le _hf _hn
  exact Prod.Lex.left _ _ (Nat.lt_succ_of_le this)

/-- The visits to the nodes of rule entries. -/
def visitEntries : List RuleEntry → Except Failure (List Visit)
  | [] => .ok []
  | (selector, node) :: rest =>
    match selector.text? with
    | none => .error .keyNotText
    | some selector => do
      let visits ← visitNode node
      let more ← visitEntries rest
      return visits.map (Visit.under selector) ++ more
termination_by entries => (nodesHeight entries, 1, entries.length)
decreasing_by
  all_goals simp only [nodesHeight, List.length_cons, Prod.lex_def]
  all_goals simp
  all_goals omega

end

/-- The visits to the nodes of a rule set. -/
def visits (rules : Value) : Except Failure (List Visit) := do
  let entries ← ruleEntries rules
  visitEntries entries

/-! ## Walking and compiling, step by step -/

theorem visitNode_eq_ok {node : Value} {vs : List Visit} :
    visitNode node = .ok vs ↔ ∃ entries fields nested inner, node = .mapping entries ∧
      nodeFields entries = .ok fields ∧ nestedRules fields = .ok nested ∧
      visitEntries nested = .ok inner ∧
      vs = ⟨[], .entering, fields⟩ :: inner ++ [⟨[], .leaving, fields⟩] := by
  constructor
  · intro h
    unfold visitNode at h
    split at h
    · rename_i entries
      split at h
      · cases h
      rename_i fields hf
      split at h
      · cases h
      rename_i nested hn
      obtain ⟨inner, hi, h⟩ := Failure.bind_eq_ok.1 h
      cases h
      exact ⟨entries, fields, nested, inner, rfl, hf, hn, hi, rfl⟩
    · cases h
  · rintro ⟨entries, fields, nested, inner, rfl, hf, hn, hi, rfl⟩
    unfold visitNode
    split
    · rename_i e he
      cases hf.symm.trans he
    rename_i fields' hf'
    obtain rfl : fields = fields' := Except.ok.inj (hf.symm.trans hf')
    split
    · rename_i e he
      cases hn.symm.trans he
    rename_i nested' hn'
    obtain rfl : nested = nested' := Except.ok.inj (hn.symm.trans hn')
    exact Failure.bind_eq_ok.2 ⟨inner, hi, rfl⟩

/-- A node without nested rules is entered and left. -/
theorem visitNode_of_no_rules {entries : List (Value × Value)} {fields : List Field}
    (hf : nodeFields entries = .ok fields) (hn : nestedRules fields = .ok []) :
    visitNode (.mapping entries) = .ok [⟨[], .entering, fields⟩, ⟨[], .leaving, fields⟩] :=
  visitNode_eq_ok.2 ⟨entries, fields, [], [], rfl, hf, hn, by rw [visitEntries], rfl⟩

theorem visitEntries_cons_eq_ok {selector node : Value} {rest : List RuleEntry} {vs : List Visit} :
    visitEntries ((selector, node) :: rest) = .ok vs ↔ ∃ s own more, selector = .text s ∧
      visitNode node = .ok own ∧ visitEntries rest = .ok more ∧
      vs = own.map (Visit.under s) ++ more := by
  rw [visitEntries]
  cases hs : selector.text? with
  | none =>
    simp only [reduceCtorEq, false_iff]
    rintro ⟨s, own, more, rfl, -⟩
    cases hs
  | some s =>
    obtain rfl := text?_eq_some.1 hs
    rw [Failure.both_eq_ok]
    constructor
    · rintro ⟨own, more, ho, hm, rfl⟩
      exact ⟨s, own, more, rfl, ho, hm, rfl⟩
    · rintro ⟨t, own, more, ht, ho, hm, rfl⟩
      cases ht
      exact ⟨own, more, ho, hm, rfl⟩

theorem visitEntries_single {selector : String} {node : Value} {vs : List Visit}
    (h : visitNode node = .ok vs) :
    visitEntries [(.text selector, node)] = .ok (vs.map (Visit.under selector)) :=
  visitEntries_cons_eq_ok.2
    ⟨selector, vs, [], rfl, h, by rw [visitEntries], (List.append_nil _).symm⟩

/-- A node that can be split compiles part by part. -/
theorem compileNode_of_split {selector : String} {node : Value} {parts : NodeParts}
    (h : splitNode selector node = .ok parts) :
    compileNode selector node = do
      let own ← Logged.ofExcept (ownRule selector parts.declarations)
      let nested ← compileEntries selector parts.nested
      let blocks ← inlineKeyframes parts.keyframes
      return own ++ nested ++ blocks := by
  rw [compileNode]
  split
  · rename_i e he
    cases h.symm.trans he
  · rename_i parts' hs
    cases h.symm.trans hs
    rfl

theorem compileNode_of_split_error {selector : String} {node : Value} {e : Failure}
    (h : splitNode selector node = .error e) : compileNode selector node = .fail e := by
  rw [compileNode]
  split
  · rename_i e' he
    cases h.symm.trans he
    rfl
  · rename_i parts hs
    cases h.symm.trans hs

/-- A node compiles to its own rule, then its nested rules, then its keyframes. -/
theorem compileNode_eq_ok {selector : String} {node : Value} {log : List LogRecord}
    {out : List String} :
    compileNode selector node = ⟨log, .ok out⟩ ↔ ∃ parts own l nested m blocks,
      splitNode selector node = .ok parts ∧ ownRule selector parts.declarations = .ok own ∧
      compileEntries selector parts.nested = ⟨l, .ok nested⟩ ∧
      inlineKeyframes parts.keyframes = ⟨m, .ok blocks⟩ ∧
      log = l ++ m ∧ out = own ++ nested ++ blocks := by
  constructor
  · intro h
    unfold compileNode at h
    split at h
    · exact absurd h Logged.fail_ne_ok
    rename_i parts hs
    obtain ⟨own, ho, h⟩ := Logged.ofExcept_bind_eq_ok.1 h
    obtain ⟨l, nested, m, blocks, hn, hb, rfl, rfl⟩ := Logged.both_eq_ok.1 h
    exact ⟨parts, own, l, nested, m, blocks, hs, ho, hn, hb, rfl, rfl⟩
  · rintro ⟨parts, own, l, nested, m, blocks, hs, ho, hn, hb, rfl, rfl⟩
    unfold compileNode
    split
    · rename_i e he
      cases hs.symm.trans he
    rename_i parts' hs'
    obtain rfl : parts = parts' := Except.ok.inj (hs.symm.trans hs')
    exact Logged.ofExcept_bind_eq_ok.2
      ⟨own, ho, Logged.both_eq_ok.2 ⟨l, nested, m, blocks, hn, hb, rfl, rfl⟩⟩

theorem compileEntries_nil (parent : String) : compileEntries parent [] = pure [] := by
  rw [compileEntries]

theorem compileEntries_cons_eq_ok {parent : String} {selector node : Value}
    {rest : List RuleEntry} {log : List LogRecord} {out : List String} :
    compileEntries parent ((selector, node) :: rest) = ⟨log, .ok out⟩ ↔ ∃ s l rules m more,
      selector = .text s ∧ compileNode (Selector.inside parent s) node = ⟨l, .ok rules⟩ ∧
      compileEntries parent rest = ⟨m, .ok more⟩ ∧
      log = l ++ m ∧ out = rules.map (Selector.wrap s) ++ more := by
  rw [compileEntries]
  cases hs : selector.text? with
  | none =>
    constructor
    · intro h
      exact absurd h Logged.fail_ne_ok
    · rintro ⟨s, l, rules, m, more, rfl, -⟩
      cases hs
  | some s =>
    obtain rfl := text?_eq_some.1 hs
    simp only [Logged.both_eq_ok]
    constructor
    · rintro ⟨l, rules, m, more, hn, hr, rfl, rfl⟩
      exact ⟨s, l, rules, m, more, rfl, hn, hr, rfl, rfl⟩
    · rintro ⟨t, l, rules, m, more, ht, hn, hr, rfl, rfl⟩
      cases ht
      exact ⟨l, rules, m, more, hn, hr, rfl, rfl⟩

/-! ## What a node emits -/

theorem isAbsent_of_declared {selector : String} {f : Field} {d : Declaration}
    (h : declared selector f = .ok d) (hf : f.2.isAbsent = false) : d.2.isAbsent = false := by
  obtain ⟨-, t, rfl⟩ | ⟨-, rfl⟩ := declared_cases h
  · rfl
  · exact hf

theorem exists_mem_of_mapM {α β : Type} {f : α → Except Failure β} {as : List α} {bs : List β}
    (h : as.mapM f = .ok bs) {b : β} (hb : b ∈ bs) : ∃ a ∈ as, f a = .ok b := by
  induction as generalizing bs with
  | nil =>
    cases h
    cases hb
  | cons a rest ih =>
    rw [List.mapM_cons, Failure.both_eq_ok] at h
    obtain ⟨c, more, hc, hm, rfl⟩ := h
    rcases List.mem_cons.1 hb with rfl | hb
    · exact ⟨a, List.mem_cons_self, hc⟩
    · obtain ⟨x, hx, hxb⟩ := ih hm hb
      exact ⟨x, List.mem_cons_of_mem _ hx, hxb⟩

theorem text_root (b : Block) : (⟨[], b⟩ : Piece).text = b.text := by
  simp only [Piece.text, Selector.wrapAll, List.foldr_nil, bind_pure]

/-- Entering a node emits the rule of its own declarations: exactly one, or none if nothing is
declared. -/
theorem text_entering {selector : String} {entries : List (Value × Value)} {fields : List Field}
    (hf : nodeFields entries = .ok fields) {log : List LogRecord} {out : List String} :
    Logged.forEach Piece.text ((⟨[], .entering, fields⟩ : Visit).pieces selector) =
      ⟨log, .ok out⟩ ↔
    log = [] ∧ ∃ declarations, (ownFields fields).mapM (declared selector) = .ok declarations ∧
      ownRule selector declarations = .ok out := by
  simp only [Visit.pieces, Visit.blocks, Selector.groupings, Selector.composed, List.filter_nil,
    List.foldl_nil]
  -- Own fields declare something, so their rule has a body; without any there is no rule.
  cases ho : ownFields fields with
  | nil =>
    simp only [if_true, List.map_nil, Logged.forEach, Logged.pure_eq_ok]
    constructor
    · rintro ⟨rfl, rfl⟩
      exact ⟨rfl, [], rfl, rfl⟩
    · rintro ⟨rfl, declarations, hd, hr⟩
      cases hd
      cases hr
      exact ⟨rfl, rfl⟩
  | cons f rest =>
    have present : ∀ {ds}, (f :: rest).mapM (declared selector) = .ok ds →
        ∀ d ∈ ds, d.2.isAbsent = false := fun {ds} hd d hm => by
      obtain ⟨g, hg, hgd⟩ := exists_mem_of_mapM hd hm
      rw [← ho] at hg
      exact isAbsent_of_declared hgd (isAbsent_of_mem_nodeFields hf (List.mem_filter.1 hg).1)
    have some : ∀ {ds}, (f :: rest).mapM (declared selector) = .ok ds → ds ≠ [] := by
      rintro ds hd rfl
      rw [List.mapM_cons, Failure.both_eq_ok] at hd
      obtain ⟨_, _, _, _, h⟩ := hd
      cases h
    simp only [reduceCtorEq, if_false, List.map_cons, List.map_nil, Logged.forEach, pure_bind,
      text_root, Logged.map_eq_ok, Block.text, Logged.ofExcept_eq_ok]
    constructor
    · rintro ⟨t, ⟨rfl, ht⟩, rfl⟩
      obtain ⟨ds, hd, ht⟩ := Failure.bind_eq_ok.1 ht
      obtain ⟨body, hb, ht⟩ := Failure.bind_eq_ok.1 ht
      cases ht
      have hne : body ≠ "" := by
        rintro rfl
        exact some hd ((declarationBlock_eq_empty_iff (present hd)).1 hb)
      exact ⟨rfl, ds, hd, Failure.bind_eq_ok.2 ⟨body, hb, by simp [hne]; rfl⟩⟩
    · rintro ⟨rfl, ds, hd, hr⟩
      obtain ⟨body, hb, hr⟩ := Failure.bind_eq_ok.1 hr
      have hne : body ≠ "" := by
        rintro rfl
        exact some hd ((declarationBlock_eq_empty_iff (present hd)).1 hb)
      rw [if_neg hne] at hr
      cases hr
      exact ⟨_, ⟨rfl, Failure.bind_eq_ok.2 ⟨ds, hd, Failure.bind_eq_ok.2 ⟨body, hb, rfl⟩⟩⟩, rfl⟩

/-- Leaving a node emits the keyframes of its inline animations. -/
theorem text_leaving (selector : String) (fields : List Field) :
    Logged.forEach Piece.text ((⟨[], .leaving, fields⟩ : Visit).pieces selector) =
      inlineKeyframes ((nodeAnimations fields).map (·.placed selector)) := by
  simp only [Visit.pieces, Visit.blocks, Selector.groupings, Selector.composed, List.filter_nil,
    List.foldl_nil, List.map_map, inlineKeyframes, Logged.forEach_map, Function.comp_def, text_root]
  rfl

/-- The visits from one rule further out emit what they did, wrapped once more. -/
theorem text_under (parent selector : String) (vs : List Visit) :
    Logged.forEach Piece.text ((vs.map (Visit.under selector)).flatMap (Visit.pieces parent)) =
      do return (← Logged.forEach Piece.text
        (vs.flatMap (Visit.pieces (Selector.inside parent selector)))).map
          (Selector.wrap selector) := by
  rw [List.flatMap_map]
  simp only [pieces_under]
  rw [← List.map_flatMap, Logged.forEach_map]
  simp only [text_inside]
  exact Logged.forEach_bind_pure ..

/-! ## Compiling is walking -/

/-- Visits emit these texts, in a rule with this selector. -/
def Emits (selector : String) (vs : Except Failure (List Visit)) (log : List LogRecord)
    (out : List String) : Prop :=
  ∃ l, vs = .ok l ∧ Logged.forEach Piece.text (l.flatMap (Visit.pieces selector)) = ⟨log, .ok out⟩

theorem emits_visitNode {selector : String} {node : Value} {log : List LogRecord}
    {out : List String} :
    Emits selector (visitNode node) log out ↔ ∃ parts own l nested m blocks,
      splitNode selector node = .ok parts ∧ ownRule selector parts.declarations = .ok own ∧
      Emits selector (visitEntries parts.nested) l nested ∧
      inlineKeyframes parts.keyframes = ⟨m, .ok blocks⟩ ∧
      log = l ++ m ∧ out = own ++ nested ++ blocks := by
  simp only [Emits, visitNode_eq_ok]
  constructor
  · rintro ⟨_, ⟨entries, fields, nested, inner, rfl, hf, hn, hi, rfl⟩, h⟩
    simp only [List.cons_append, List.flatMap_cons, List.flatMap_append, List.flatMap_nil,
      List.append_nil, Logged.forEach_append, Logged.both_eq_ok, text_entering hf,
      text_leaving] at h
    obtain ⟨_, own, _, _, ⟨rfl, ds, hd, ho⟩, ⟨l, texts, m, blocks, ht, hb, rfl, rfl⟩, rfl, rfl⟩ := h
    exact ⟨⟨ds, nested, _⟩, own, l, texts, m, blocks,
      splitEntries_eq_ok.2 ⟨fields, hf, hd, hn, rfl⟩, ho, ⟨inner, hi, ht⟩, hb, rfl, by simp⟩
  · rintro ⟨parts, own, l, texts, m, blocks, hs, ho, ⟨inner, hi, ht⟩, hb, rfl, rfl⟩
    unfold splitNode at hs
    split at hs
    · rename_i entries
      obtain ⟨fields, hf, hp⟩ := splitEntries_eq_ok.1 hs
      refine ⟨_, ⟨entries, fields, parts.nested, inner, rfl, hf, hp.nested, hi, rfl⟩, ?_⟩
      simp only [List.cons_append, List.flatMap_cons, List.flatMap_append, List.flatMap_nil,
        List.append_nil, Logged.forEach_append, Logged.both_eq_ok, text_entering hf, text_leaving]
      rw [hp.keyframes] at hb
      exact ⟨[], own, l ++ m, texts ++ blocks, ⟨rfl, _, hp.declarations, ho⟩,
        ⟨l, texts, m, blocks, ht, hb, rfl, rfl⟩, rfl, by simp⟩
    · cases hs

theorem emits_visitEntries_cons {parent : String} {selector node : Value} {rest : List RuleEntry}
    {log : List LogRecord} {out : List String} :
    Emits parent (visitEntries ((selector, node) :: rest)) log out ↔ ∃ s l rules m more,
      selector = .text s ∧ Emits (Selector.inside parent s) (visitNode node) l rules ∧
      Emits parent (visitEntries rest) m more ∧
      log = l ++ m ∧ out = rules.map (Selector.wrap s) ++ more := by
  simp only [Emits, visitEntries_cons_eq_ok]
  constructor
  · rintro ⟨_, ⟨s, own, others, rfl, ho, hm, rfl⟩, h⟩
    simp only [List.flatMap_append, Logged.forEach_append, Logged.both_eq_ok, text_under,
      Logged.map_eq_ok] at h
    obtain ⟨l, _, m, more, ⟨rules, hr, rfl⟩, ht, rfl, rfl⟩ := h
    exact ⟨s, l, rules, m, more, rfl, ⟨own, ho, hr⟩, ⟨others, hm, ht⟩, rfl, rfl⟩
  · rintro ⟨s, l, rules, m, more, rfl, ⟨own, ho, hr⟩, ⟨others, hm, ht⟩, rfl, rfl⟩
    refine ⟨_, ⟨s, own, others, rfl, ho, hm, rfl⟩, ?_⟩
    simp only [List.flatMap_append, Logged.forEach_append, Logged.both_eq_ok, text_under,
      Logged.map_eq_ok]
    exact ⟨l, _, m, more, ⟨rules, hr, rfl⟩, ht, rfl, rfl⟩

/-- Nodes and rule entries compile to what the visits to them emit. -/
theorem compile_iff_emits :
    (∀ selector node, ∀ log out, compileNode selector node = ⟨log, .ok out⟩ ↔
      Emits selector (visitNode node) log out) ∧
    (∀ parent entries, ∀ log out, compileEntries parent entries = ⟨log, .ok out⟩ ↔
      Emits parent (visitEntries entries) log out) := by
  refine compileNode.mutual_induct
    (fun selector node => ∀ log out, compileNode selector node = ⟨log, .ok out⟩ ↔
      Emits selector (visitNode node) log out)
    (fun parent entries => ∀ log out, compileEntries parent entries = ⟨log, .ok out⟩ ↔
      Emits parent (visitEntries entries) log out) ?_ ?_ ?_ ?_ ?_
  -- A node that cannot be split.
  · intro selector node e he log out
    rw [compileNode_eq_ok, emits_visitNode]
    simp [he]
  -- A node and its nested rules.
  · intro selector node parts hs ih log out
    rw [compileNode_eq_ok, emits_visitNode]
    constructor
    · rintro ⟨parts', own, l, nested, m, blocks, hs', ho, hn, hrest⟩
      cases hs.symm.trans hs'
      exact ⟨parts, own, l, nested, m, blocks, hs, ho, (ih _ _).1 hn, hrest⟩
    · rintro ⟨parts', own, l, nested, m, blocks, hs', ho, hn, hrest⟩
      cases hs.symm.trans hs'
      exact ⟨parts, own, l, nested, m, blocks, hs, ho, (ih _ _).2 hn, hrest⟩
  -- No entries.
  · intro parent log out
    rw [compileEntries, Logged.pure_eq_ok]
    constructor
    · rintro ⟨rfl, rfl⟩
      exact ⟨[], by rw [visitEntries], rfl⟩
    · rintro ⟨l, hl, h⟩
      rw [visitEntries] at hl
      cases hl
      exact Logged.pure_eq_ok.1 h
  -- A selector that is not text.
  · intro parent selector node rest hs log out
    rw [compileEntries_cons_eq_ok, emits_visitEntries_cons]
    constructor <;> rintro ⟨s, -, -, -, -, rfl, -⟩ <;> cases hs
  -- An entry and those after it.
  · intro parent selector node rest s hs ihn ihr log out
    obtain rfl := text?_eq_some.1 hs
    rw [compileEntries_cons_eq_ok, emits_visitEntries_cons]
    constructor
    · rintro ⟨t, l, rules, m, more, ht, hn, hr, rfl, rfl⟩
      cases ht
      exact ⟨s, l, rules, m, more, rfl, (ihn _ _).1 hn, (ihr _ _).1 hr, rfl, rfl⟩
    · rintro ⟨t, l, rules, m, more, ht, hn, hr, rfl, rfl⟩
      cases ht
      exact ⟨s, l, rules, m, more, rfl, (ihn _ _).2 hn, (ihr _ _).2 hr, rfl, rfl⟩

/-- A rule set compiles to what the visits to its nodes emit. -/
theorem compileRules_eq_ok {rules : Value} {log : List LogRecord} {out : List String} :
    compileRules rules = ⟨log, .ok out⟩ ↔ Emits "" (visits rules) log out := by
  have unfold :
      compileRules rules = Logged.ofExcept (ruleEntries rules) >>= compileEntries "" := rfl
  rw [unfold, Logged.ofExcept_bind_eq_ok]
  constructor
  · rintro ⟨entries, he, h⟩
    obtain ⟨vs, hv, ht⟩ := (compile_iff_emits.2 _ _ _ _).1 h
    exact ⟨vs, Failure.bind_eq_ok.2 ⟨entries, he, hv⟩, ht⟩
  · rintro ⟨vs, hv, ht⟩
    obtain ⟨entries, he, hv⟩ := Failure.bind_eq_ok.1 hv
    exact ⟨entries, he, (compile_iff_emits.2 _ _ _ _).2 ⟨vs, hv, ht⟩⟩

end Stylesheet
