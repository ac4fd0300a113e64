import Stylesheet.Proofs.BraceFree
import Stylesheet.Proofs.StylesheetText
/-!
# Every rule is a single block

Only the rules, grouping rules and keyframes themselves are written with braces. So if no text that
a rule set is made of holds one, every rule that it compiles to is a single block, and so are font
faces and registered keyframes: a reader that counts braces finds exactly the rules in a stylesheet
(`singleBlocks`).
-/

namespace Stylesheet

/-! ## Selectors -/

namespace Selector

theorem braceFree_compose {parent child : String} (hp : BraceFree parent) (hc : BraceFree child) :
    BraceFree (compose parent child) := by
  unfold compose
  split
  · refine BraceFree.ofList fun c hmem => ?_
    obtain ⟨d, hd, hmem⟩ := List.mem_flatMap.1 hmem
    split at hmem
    · exact hp c hmem
    · obtain rfl := List.mem_singleton.1 hmem
      exact hc c hd
  split
  · exact hc
  · exact BraceFree.append (hp.append (by decide)) hc

theorem braceFree_composed {parent : String} (hp : BraceFree parent) {path : List String}
    (h : ∀ s ∈ path, BraceFree s) : BraceFree (composed parent path) := by
  induction path generalizing parent with
  | nil => exact hp
  | cons s rest ih =>
    obtain ⟨hs, hrest⟩ := List.forall_mem_cons.1 h
    rw [composed_cons]
    refine ih ?_ hrest
    unfold inside
    split
    · exact hp
    · exact braceFree_compose hp hs

end Selector

/-! ## Animations -/

namespace InlineName

theorem noBrace_sanitize {cs : List Char} (h : NoBrace cs) (inRun : Bool) :
    NoBrace (sanitize inRun cs) := by
  induction cs generalizing inRun with
  | nil => exact NoBrace.nil
  | cons c rest ih =>
    obtain ⟨hc, hrest⟩ := List.forall_mem_cons.1 h
    rw [sanitize]
    split
    · exact (ih hrest false).cons hc
    split
    · exact ih hrest true
    · exact (ih hrest true).cons (by decide)

theorem noBrace_dropMark {cs : List Char} (h : NoBrace cs) : NoBrace (dropMark cs) := by
  unfold dropMark
  split
  · exact fun c hc => h c (List.mem_cons_of_mem _ hc)
  · exact h

theorem braceFree_base {name : Option String} {selector : String}
    (hn : ∀ n ∈ name, BraceFree n) (hs : BraceFree selector) : BraceFree (base name selector) := by
  unfold base
  split
  · exact hs.append (by decide)
  · exact hs.append (by decide)
  · exact hn _ rfl

end InlineName

theorem braceFree_inlineName {name : Option String} {selector : String}
    (hn : ∀ n ∈ name, BraceFree n) (hs : BraceFree selector) (position : Nat) :
    BraceFree (inlineName name selector position) := by
  have stem := InlineName.noBrace_sanitize (InlineName.braceFree_base hn hs) false
  exact ((BraceFree.ofList (InlineName.noBrace_dropMark stem)).append (by decide)).append
    (braceFree_int position)

theorem AnimationFields.braceFree_shorthand {f : AnimationFields}
    (h : ∀ p ∈ f.properties, p.2.All BraceFree) : BraceFree f.shorthand := by
  refine .intercalate (by decide) fun t ht => ?_
  obtain ⟨p, hp, ht⟩ := List.mem_filterMap.1 (List.mem_filter.1 ht).1
  exact braceFree_formatScalar p.1 (h p hp) t ht

theorem braceFree_display {v : Value} (ha : v.isAtom = true) (h : v.Plain BraceFree) :
    Yields BraceFree v.display := by
  cases h with
  | scalar hs => exact .unlessTooLong _ (Scalar.braceFree_display hs)
  | «variable» hn h =>
    rw [Value.display]
    split
    · exact .ok (braceFree_varText hn (by simp [BraceFreeOption]))
    · exact (h.writesFree.value _).map fun _ ht => braceFree_varText hn ht
  | handle hn => exact .ok hn
  | list | tuple | mapping => cases ha

theorem ofDefinition_braceFree {d : AnimationDefinition} (h : d.Of BraceFree) {selector : String}
    (hs : BraceFree selector) (position : Nat) :
    BraceFree (ResolvedAnimation.ofDefinition selector position d).value := by
  unfold ResolvedAnimation.ofDefinition
  split
  · refine AnimationFields.braceFree_shorthand ?_
    exact List.forall_mem_cons.2
      ⟨braceFree_inlineName h.name hs position, (List.forall_mem_cons.1 h.fields).2⟩
  · exact AnimationFields.braceFree_shorthand h.fields

/-- Values that may stand beside definitions in animation values. -/
abbrev PlainBraceFree (v : Value) : Prop := v.Plain BraceFree

theorem ofItem_braceFree {item : Value} (h : AnimationItemOf BraceFree PlainBraceFree item)
    {selector : String} (hs : BraceFree selector) (position : Nat) :
    Yields (fun a => BraceFree a.value) (ResolvedAnimation.ofItem selector position item) := by
  cases h with
  | definition h => exact .unlessTooLong _ (ofDefinition_braceFree h hs position)
  | mapping hr h =>
    rw [ResolvedAnimation.ofItem, hr]
    exact .unlessTooLong _ (ofDefinition_braceFree h hs position)
  | atom ha h =>
    rw [ofItem_of_isAtom ha]
    exact (braceFree_display ha h).map fun _ ht => ht

theorem ofItems_braceFree {items : List Value}
    (h : ∀ item ∈ items, AnimationItemOf BraceFree PlainBraceFree item) {selector : String}
    (hs : BraceFree selector) (position : Nat) :
    Yields (fun as => ∀ a ∈ as, BraceFree a.value)
      (ResolvedAnimation.ofItems selector position items) := by
  induction items generalizing position with
  | nil => exact .ok (by simp)
  | cons item rest ih =>
    obtain ⟨hitem, hrest⟩ := List.forall_mem_cons.1 h
    exact (ofItem_braceFree hitem hs position).both (ih hrest (position + 1))
      fun _ _ ha hm => List.forall_mem_cons.2 ⟨ha, hm⟩

theorem resolveAnimation_braceFree {v : Value}
    (h : ∀ item ∈ animationItems v, AnimationItemOf BraceFree PlainBraceFree item)
    {selector : String} (hs : BraceFree selector) :
    Yields (fun a => BraceFree a.value) (resolveAnimation selector v) := by
  cases v with
  | list items | tuple items =>
    refine (ofItems_braceFree h hs 0).map fun as ha => .intercalate (by decide) fun t ht => ?_
    obtain ⟨a, hm, rfl⟩ := List.mem_map.1 ht
    exact ha a hm
  | _ => exact ofItem_braceFree (h _ (List.mem_singleton_self _)) hs 0

/-! ## Declarations -/

/-- A declaration that is written without braces. -/
def Declaration.IsBraceFree (d : Declaration) : Prop := BraceFree d.1 ∧ d.2.WritesFree

theorem declarationText?_braceFree {property : String} {v : Value} (hp : BraceFree property)
    (hv : v.WritesFree) : Yields BraceFreeOption (declarationText? property v) := by
  refine (hv.value property).map fun text ht => ?_
  cases text with
  | none => simp [BraceFreeOption]
  | some t =>
    have name := Casing.braceFree_kebab hp
    exact braceFreeOption_some
      (((name.append (by decide)).append (ht t rfl)).append (by decide))

theorem declarationBlock_braceFree {declarations : List Declaration}
    (h : ∀ d ∈ declarations, d.IsBraceFree) : Yields BraceFree (declarationBlock declarations) := by
  have texts : Yields BraceFreeAll (declarationTexts declarations) := by
    induction declarations with
    | nil => exact .ok (by simp [BraceFreeAll])
    | cons d rest ih =>
      obtain ⟨hd, hrest⟩ := List.forall_mem_cons.1 h
      exact (declarationText?_braceFree hd.1 hd.2).both (ih hrest)
        fun _ _ => BraceFreeAll.optionAppend
  exact texts.map fun _ ht => .intercalate (by decide) ht

/-- The entries of a font face. -/
def FontFaceOf (p : String → Prop) (definition : Value) : Prop :=
  ∃ entries, definition = .mapping entries ∧ ∀ e ∈ entries, TextOf p e.1 ∧ e.2.Plain p

theorem entryBlock_braceFree {entries : List (Value × Value)}
    (h : ∀ e ∈ entries, TextOf BraceFree e.1 ∧ e.2.Plain BraceFree) :
    Yields BraceFree (entryBlock entries) := by
  have texts : Yields BraceFreeAll (entryTexts entries) := by
    induction entries with
    | nil => exact .ok (by simp [BraceFreeAll])
    | cons e rest ih =>
      obtain ⟨⟨⟨key, hk, hkey⟩, hv⟩, hrest⟩ := List.forall_mem_cons.1 h
      obtain ⟨k, v⟩ := e
      obtain rfl : k = .text key := hk
      exact (declarationText?_braceFree hkey hv.writesFree).both (ih hrest)
        fun _ _ => BraceFreeAll.optionAppend
  exact texts.map fun _ ht => .intercalate (by decide) ht

/-! ## Blocks -/

theorem isBlock_block {head body : String} (hh : BraceFree head) (hb : Balanced body.toList) :
    IsBlock (Selector.block head body).toList := by
  have space : NoBrace [' '] := by decide
  refine ⟨head.toList ++ [' '], ' ' :: body.toList ++ [' '], NoBrace.append hh space,
    (space.balanced.append hb).append space.balanced, ?_⟩
  simp [Selector.block]

theorem isBlock_wrapAll {groupings : List String} (hg : ∀ g ∈ groupings, BraceFree g)
    {rule : String} (h : IsBlock rule.toList) :
    IsBlock (Selector.wrapAll groupings rule).toList := by
  induction groupings with
  | nil => exact h
  | cons g rest ih =>
    obtain ⟨hg, hrest⟩ := List.forall_mem_cons.1 hg
    exact isBlock_block hg (ih hrest).balanced

theorem isBlock_fontFaceBlock {definition : Value} (h : FontFaceOf BraceFree definition)
    {t : String} (ht : fontFaceBlock definition = .ok t) : IsBlock t.toList := by
  obtain ⟨entries, rfl, he⟩ := h
  obtain ⟨body, hb, ht⟩ := Failure.bind_eq_ok.1 ht
  cases ht
  exact isBlock_block (by decide) (NoBrace.balanced (entryBlock_braceFree he body hb))

theorem braceFree_offsetText {offset : Value} (h : OffsetOf BraceFree offset) :
    Yields BraceFree (offsetText offset) := by
  cases offset with
  | scalar s =>
    have written : Yields BraceFreeOption (offsetFormatter.write s) :=
      .unlessTooLong _ (Formatter.braceFree_apply (f := offsetFormatter) (by decide) h)
    refine written.map fun text ht => ?_
    cases text with
    | none => decide
    | some t => exact ht t rfl
  | «variable» name declared fallback => exact braceFree_display rfl h
  | handle name payload flag => exact .ok h
  | _ => exact h

theorem isBlock_keyframeLine {name indent : String} {offset body : Value}
    (hi : BraceFree indent) (ho : OffsetOf BraceFree offset) (hb : BodyOf BraceFree body)
    {log : List LogRecord} {t : String}
    (h : keyframeLine name indent offset body = ⟨log, .ok t⟩) : IsBlock t.toList := by
  obtain ⟨entries, rfl, he⟩ := hb
  obtain ⟨text, ht, h⟩ := Logged.ofExcept_bind_eq_ok.1 h
  obtain ⟨l, declarations, hd, hplain, -⟩ := keyframeDeclarations_of he name text
  obtain ⟨_, declarations', _, hd', h, rfl⟩ := Logged.bind_eq_ok.1 h
  cases hd.symm.trans hd'
  obtain ⟨block, hblock, h⟩ := Logged.ofExcept_bind_eq_ok.1 h
  obtain ⟨rfl, rfl⟩ := Logged.pure_eq_ok.1 h
  have free := declarationBlock_braceFree
    (fun d hm => ⟨(hplain d hm).1, (hplain d hm).2.writesFree⟩) block hblock
  rw [String.toList_append]
  exact (isBlock_block (braceFree_offsetText ho text ht) (NoBrace.balanced free)).append_left hi

theorem isBlock_of_mem_keyframeLines {name indent : String} {entries : List (Value × Value)}
    (hi : BraceFree indent)
    (h : ∀ e ∈ entries, e.2.isAbsent = false → OffsetOf BraceFree e.1 ∧ BodyOf BraceFree e.2)
    {log : List LogRecord} {lines : List String}
    (hl : keyframeLines name indent entries = ⟨log, .ok lines⟩) :
    ∀ t ∈ lines, IsBlock t.toList := by
  induction entries generalizing log lines with
  | nil =>
    obtain ⟨-, rfl⟩ := Logged.pure_eq_ok.1 hl
    simp
  | cons e rest ih =>
    obtain ⟨offset, body⟩ := e
    obtain ⟨he, hrest⟩ := List.forall_mem_cons.1 h
    rw [keyframeLines] at hl
    cases hb : body.isAbsent with
    | true =>
      rw [hb] at hl
      exact ih hrest hl
    | false =>
      rw [hb] at hl
      obtain ⟨_, line, _, more, hline, hmore, rfl, rfl⟩ := Logged.both_eq_ok.1 hl
      obtain ⟨ho, hbody⟩ := he hb
      exact List.forall_mem_cons.2 ⟨isBlock_keyframeLine hi ho hbody hline, ih hrest hmore⟩

theorem isBlock_keyframesBlock {name : String} {set : Value} {indent : Nat}
    (hn : BraceFree name) (hs : KeyframesOf BraceFree set.unwrap) {log : List LogRecord}
    {t : String} (h : keyframesBlock name set indent = ⟨log, .ok t⟩) : IsBlock t.toList := by
  obtain ⟨entries, hset, he⟩ := hs
  rw [keyframesBlock, hset] at h
  obtain ⟨lines, hl, rfl⟩ := Logged.map_eq_ok.1 h
  have indented : BraceFree (String.ofList (List.replicate indent ' ')) :=
    .ofList (NoBrace.replicate (by decide) indent)
  have blocks := isBlock_of_mem_keyframeLines indented he hl
  -- The body is the lines, each behind a line break, and a line break before the closing brace.
  have inner : Balanced (lines.flatMap fun u => "\n".toList ++ u.toList) :=
    Balanced.flatMap fun u hu => ((blocks u hu).append_left (by decide)).balanced
  have lineBreak : NoBrace ['\n'] := by decide
  have head : NoBrace ("@keyframes " ++ name ++ " ").toList :=
    BraceFree.append (BraceFree.append (by decide) hn) (by decide)
  refine ⟨_, _, head, inner.append lineBreak.balanced, ?_⟩
  rw [toList_intercalate_cons, List.flatMap_append]
  simp

/-! ## Pieces -/

/-- What a style node of brace-free text declares. -/
abbrev BraceFreeField (f : Field) : Prop := FieldOf BraceFree PlainBraceFree f

theorem declared_braceFree {f : Field} (h : BraceFreeField f) {selector : String}
    (hs : BraceFree selector) : Yields Declaration.IsBraceFree (declared selector f) := by
  unfold declared
  split
  · rename_i hk
    refine (resolveAnimation_braceFree (h.animation hk) hs).map fun a ha => ⟨?_, ?_⟩
    · rw [hk]
      decide
    · have plain : (Value.text a.value).Plain BraceFree := .scalar ha
      exact plain.writesFree
  · rename_i hk
    exact .ok ⟨(h.value hk).1, (h.value hk).2.writesFree⟩

theorem mapM_declared_braceFree {fields : List Field} (h : ∀ f ∈ fields, BraceFreeField f)
    {selector : String} (hs : BraceFree selector) :
    Yields (fun ds => ∀ d ∈ ds, Declaration.IsBraceFree d)
      (fields.mapM (declared selector)) := by
  intro ds hds d hd
  obtain ⟨f, hf, hfd⟩ := exists_mem_of_mapM hds hd
  exact declared_braceFree (h f hf) hs d hfd

/-- What a visit to well-formed nodes writes are blocks. -/
theorem isBlock_of_mem_blocks {v : Visit} (hv : v.Of BraceFree BraceFreeField) {selector : String}
    (hs : BraceFree selector) {b : Block} (hb : b ∈ v.blocks selector) {log : List LogRecord}
    {t : String} (h : b.text = ⟨log, .ok t⟩) : IsBlock t.toList := by
  obtain rfl | ⟨a, ha, rfl⟩ := Visit.mem_blocks hb
  · obtain ⟨ds, body, hds, hbody, rfl⟩ := Block.text_rule_eq_ok h
    have free := mapM_declared_braceFree hv.fields hs ds hds
    exact isBlock_block hs (NoBrace.balanced (declarationBlock_braceFree free body hbody))
  · have inline := of_mem_nodeAnimations hv.fields ha
    refine isBlock_keyframesBlock (braceFree_inlineName inline.ownName hs a.position) ?_ h
    obtain ⟨entries, hset, he⟩ := inline.keyframes
    rw [hset]
    exact ⟨entries, rfl, he⟩

theorem isBlock_of_mem_pieces {v : Visit} (hv : v.Of BraceFree BraceFreeField) {p : Piece}
    (hp : p ∈ v.pieces "") {log : List LogRecord} {t : String} (h : p.text = ⟨log, .ok t⟩) :
    IsBlock t.toList := by
  obtain ⟨b, hb, rfl⟩ := List.mem_map.1 hp
  obtain ⟨inner, hi, rfl⟩ := Logged.map_eq_ok.1 h
  have root : BraceFree "" := by decide
  have selector := Selector.braceFree_composed root hv.path
  exact isBlock_wrapAll (fun g hg => hv.path g (List.mem_filter.1 hg).1)
    (isBlock_of_mem_blocks hv selector hb hi)

/-! ## Rule sets and stylesheets -/

/-- A rule set without braces in its texts. -/
def BraceFreeRules (rules : Value) : Prop := RulesOf BraceFree BraceFreeField rules

theorem isBlock_of_mem_visits {rules : Value} (h : BraceFreeRules rules) {vs : List Visit}
    (hv : visits rules = .ok vs) {p : Piece} (hp : p ∈ vs.flatMap (Visit.pieces ""))
    {log : List LogRecord} {t : String} (ht : p.text = ⟨log, .ok t⟩) : IsBlock t.toList := by
  obtain ⟨vs', hv', hvs⟩ := visits_of_rulesOf h
  cases hv.symm.trans hv'
  obtain ⟨v, hm, hp⟩ := List.mem_flatMap.1 hp
  exact isBlock_of_mem_pieces (hvs v hm) hp ht

theorem isBlock_of_mem_compileRules {rules : Value} (h : BraceFreeRules rules)
    {log : List LogRecord} {out : List String} (hout : compileRules rules = ⟨log, .ok out⟩) :
    ∀ t ∈ out, IsBlock t.toList := by
  intro t ht
  obtain ⟨vs, hv, hout⟩ := compileRules_eq_ok.1 hout
  obtain ⟨p, hp, l, hpt⟩ := Logged.exists_mem_of_forEach hout ht
  exact isBlock_of_mem_visits h hv hp hpt

/-- A source of a stylesheet without braces in its texts. -/
def Source.IsBraceFree : Source → Prop
  | .fontFace definition => FontFaceOf BraceFree definition
  | .ruleSet rules => BraceFreeRules rules
  | .keyframes name _ set => BraceFree name ∧ KeyframesOf BraceFree set.unwrap

theorem Source.isBlock_of_mem_pieces {s : Source} (hs : s.IsBraceFree) {ps : List Piece}
    (h : s.pieces = .ok ps) {p : Piece} (hp : p ∈ ps) {log : List LogRecord} {t : String}
    (ht : p.text = ⟨log, .ok t⟩) : IsBlock t.toList := by
  cases s with
  | fontFace definition =>
    cases h
    obtain rfl := List.mem_singleton.1 hp
    rw [text_root] at ht
    exact isBlock_fontFaceBlock hs (Logged.ofExcept_eq_ok.1 ht).2
  | ruleSet rules =>
    obtain ⟨vs, hv, h⟩ := Failure.bind_eq_ok.1 h
    cases h
    exact isBlock_of_mem_visits hs hv hp ht
  | keyframes name position set =>
    cases h
    obtain rfl := List.mem_singleton.1 hp
    rw [text_root] at ht
    exact isBlock_keyframesBlock hs.1 hs.2 ht

/-- Rules, font faces and keyframes without braces in their texts are single blocks, and a reader
that counts braces finds exactly those that a stylesheet is made of. -/
theorem singleBlocks :
    (∀ rules log out, BraceFreeRules rules → compileRules rules = ⟨log, .ok out⟩ →
      ∀ t ∈ out, SingleBlock t) ∧
    (∀ definition t, FontFaceOf BraceFree definition → fontFaceBlock definition = .ok t →
      SingleBlock t) ∧
    (∀ name set indent log t, BraceFree name → KeyframesOf BraceFree set.unwrap →
      keyframesBlock name set indent = ⟨log, .ok t⟩ → SingleBlock t) ∧
    (∀ c : Context, ∀ log css, (∀ s ∈ c.registries.sources, s.IsBraceFree) →
      c.getCss = ⟨log, .ok css⟩ → ∃ ps texts, c.registries.pieces = .ok ps ∧
        Logged.forEach Piece.text ps = ⟨log, .ok texts⟩ ∧ (∀ t ∈ texts, SingleBlock t) ∧
        topLevelBlocks css = (lineBroken texts, "")) := by
  refine ⟨fun rules log out h hout t ht => ?_, fun definition t h ht => ?_,
    fun name set indent log t hn hs ht => ?_, fun c log css h hcss => ?_⟩
  · exact (isBlock_of_mem_compileRules h hout t ht).singleBlock
  · exact (isBlock_fontFaceBlock h ht).singleBlock
  · exact (isBlock_keyframesBlock hn hs ht).singleBlock
  · obtain ⟨ps, texts, hp, ht, rfl⟩ := getCss_eq_ok.1 hcss
    have blocks : ∀ t ∈ texts, IsBlock t.toList := fun t hm => by
      obtain ⟨p, hps, l, hpt⟩ := Logged.exists_mem_of_forEach ht hm
      obtain ⟨parts, hparts, hflat⟩ := Failure.bind_eq_ok.1 hp
      cases hflat
      obtain ⟨part, hpart, hps⟩ := List.mem_flatten.1 hps
      obtain ⟨s, hs, hsp⟩ := exists_mem_of_mapM hparts hpart
      exact (s.isBlock_of_mem_pieces (h s hs)) hsp hps hpt
    exact ⟨ps, texts, hp, ht, fun t hm => (blocks t hm).singleBlock,
      topLevelBlocks_intercalate blocks⟩

/-- Some of everything: a rule with an inline animation, a font face, and keyframes. -/
theorem singleBlocks_animated :
    let set : Value := .mapping [(.text "from", .mapping [(.text "width", .scalar (.int 1))])]
    let rules : Value := .mapping [(.text ".a", .mapping [(.text "animation", .animation {} set)])]
    let face : Value := .mapping [(.text "fontFamily", .text "Body")]
    let c : Context := { registries := { rules := [rules] } }
    (BraceFreeRules rules ∧ ∃ log out, compileRules rules = ⟨log, .ok out⟩ ∧
      ∀ t ∈ out, SingleBlock t) ∧
    (FontFaceOf BraceFree face ∧ ∃ t, fontFaceBlock face = .ok t ∧ SingleBlock t) ∧
    (KeyframesOf BraceFree set.unwrap ∧ ∃ log t, keyframesBlock "spin" set keyframeIndent =
      ⟨log, .ok t⟩ ∧ SingleBlock t) ∧
    ((∀ s ∈ c.registries.sources, s.IsBraceFree) ∧ ∃ log css, c.getCss = ⟨log, .ok css⟩ ∧
      ∃ rule keyframes, topLevelBlocks css = ([rule, "\n" ++ keyframes], "")) := by
  intro set rules face c
  have text {t : String} (h : BraceFree t) : (Value.text t).Plain BraceFree :=
    .scalar (s := .text t) h
  have fromOffset : OffsetOf BraceFree (.text "from") := show BraceFree "from" by decide
  have keyframes : KeyframesOf BraceFree set :=
    ⟨_, rfl, List.forall_mem_singleton.2 fun _ => ⟨fromOffset, _, rfl,
      List.forall_mem_singleton.2 fun _ => ⟨_, rfl, fun _ => ⟨by decide, .scalar trivial⟩⟩⟩⟩
  have fields : ∀ f ∈ ({} : AnimationFields).properties, f.2.All BraceFree := by
    simp [AnimationFields.properties, Scalar.ofText, Scalar.ofAmount, Scalar.All]
  have free : BraceFreeRules rules :=
    .mapping (List.forall_mem_singleton.2 ⟨".a", rfl, by decide⟩)
      (List.forall_mem_singleton.2 (.mapping (List.forall_mem_singleton.2 fun _ =>
        .own rfl ⟨fun _ => List.forall_mem_singleton.2 (.definition ⟨fields, fun _ => keyframes⟩),
          fun h => absurd rfl h⟩)))
  have hface : FontFaceOf BraceFree face :=
    ⟨_, rfl, List.forall_mem_singleton.2 ⟨⟨_, rfl, by decide⟩, text (by decide)⟩⟩
  let field : Field := ("animation", .animation {} set)
  let visited : List Visit := [⟨[".a"], .entering, [field]⟩, ⟨[".a"], .leaving, [field]⟩]
  have hv : visits rules = .ok visited :=
    visitEntries_single (visitNode_of_no_rules rfl (nestedRules_animation _))
  have own : ownFields [field] = [field] := ownFields_animation _
  have hpieces : visited.flatMap (Visit.pieces "") = [⟨[], .rule ".a" [field]⟩,
      ⟨[], .keyframes (.inline ".a" ⟨none, 0, set⟩) set⟩] := by
    simp only [visited, List.flatMap_cons, List.flatMap_nil, Visit.pieces, Visit.blocks, own]
    rfl
  -- Both pieces come out of the one rule set, so the sheet has two blocks.
  obtain ⟨hrules, hfaces, hsets, hsheets⟩ := singleBlocks
  have compiled : compileRules rules = ⟨_, .ok _⟩ :=
    compileRules_eq_ok.2 ⟨visited, hv, by rw [hpieces]; rfl⟩
  have sources : c.registries.sources = [.ruleSet rules] := rfl
  have hp := Registries.pieces_of_ruleSet sources hv
  rw [hpieces] at hp
  have sheet : c.getCss = ⟨_, .ok _⟩ := getCss_eq_ok.2 ⟨_, _, hp, rfl, rfl⟩
  refine ⟨⟨free, _, _, compiled, hrules _ _ _ free compiled⟩,
    ⟨hface, _, rfl, hfaces _ _ hface rfl⟩,
    ⟨keyframes, _, _, rfl, hsets "spin" set keyframeIndent _ _ (by decide) keyframes rfl⟩,
    ?_, _, _, sheet, ?_⟩
  · rw [sources]
    exact List.forall_mem_singleton.2 free
  · obtain ⟨ps, texts, hps, ht, -, hread⟩ := hsheets c _ _
      (by rw [sources]; exact List.forall_mem_singleton.2 free) sheet
    cases hp.symm.trans hps
    obtain ⟨_, rule, _, rest, -, hrest, -, rfl⟩ := Logged.forEach_cons_eq_ok.1 ht
    obtain ⟨_, block, _, nothing, -, hnothing, -, rfl⟩ := Logged.forEach_cons_eq_ok.1 hrest
    obtain ⟨-, rfl⟩ := Logged.pure_eq_ok.1 hnothing
    exact ⟨rule, block, hread⟩

end Stylesheet
