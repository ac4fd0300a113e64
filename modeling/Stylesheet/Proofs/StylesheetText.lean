import Stylesheet.Context
import Stylesheet.Proofs.Visits
/-!
# The text of a stylesheet

Each registration is compiled to a chunk of text, and the chunks that are not empty are joined. This
comes to the texts of all pieces, a line break between any two (`getCss_eq_ok`): where one chunk
ends and the next begins cannot be seen.
-/

namespace Stylesheet

/-! ## Sources -/

/-- What a chunk is compiled from. A position tells registered keyframes apart. -/
inductive Source where
  | fontFace (definition : Value)
  | ruleSet (rules : Value)
  | keyframes (name : String) (position : Nat) (set : Value)

/-- The text of a source. -/
def Source.chunk : Source → Logged String
  | .fontFace definition => .ofExcept (fontFaceBlock definition)
  | .ruleSet rules => css rules
  | .keyframes name _ set => keyframesBlock name set keyframeIndent

/-- The pieces of a source. -/
def Source.pieces : Source → Except Failure (List Piece)
  | .fontFace definition => .ok [⟨[], .fontFace definition⟩]
  | .ruleSet rules => do return (← visits rules).flatMap (Visit.pieces "")
  | .keyframes name position set => .ok [⟨[], .keyframes (.registered name position) set⟩]

namespace Registries

/-- Everything registered, as it stands, in the order of the stylesheet. -/
def sources (r : Registries) : List Source :=
  let settle := Value.settle r.rendered
  r.fontFaces.map (fun f => .fontFace (settle f.definition)) ++
    r.rules.map (fun rules => .ruleSet (settle rules)) ++
    r.styles.records.map (fun s =>
      .ruleSet (.mapping [(.text ("." ++ s.name), settle s.payload)])) ++
    r.keyframes.records.zipIdx.map fun k => .keyframes k.1.name k.2 (settle k.1.payload)

/-- The pieces of the stylesheet, in order. -/
def pieces (r : Registries) : Except Failure (List Piece) := do
  return (← r.sources.mapM Source.pieces).flatten

end Registries

theorem Registries.pieces_of_ruleSet {r : Registries} {rules : Value} {vs : List Visit}
    (hs : r.sources = [.ruleSet rules]) (hv : visits rules = .ok vs) :
    r.pieces = .ok (vs.flatMap (Visit.pieces "")) := by
  rw [← List.append_nil (vs.flatMap _), pieces, hs, List.mapM_cons, List.mapM_nil, Source.pieces,
    hv]
  rfl

/-! ## Chunks -/

theorem chunks_eq_forEach (r : Registries) :
    Context.chunks r = Logged.forEach Source.chunk r.sources := by
  have positions : ∀ f : Record Value → Logged String, Logged.forEach f r.keyframes.records =
      Logged.forEach (fun k => f k.1) r.keyframes.records.zipIdx := fun f => by
    rw [← Logged.forEach_map f Prod.fst, List.zipIdx_map_fst]
  simp only [Context.chunks, Registries.sources, Logged.forEach_append, Logged.forEach_map,
    Source.chunk, bind_assoc, pure_bind, positions]

theorem Source.chunk_eq_ok {s : Source} {log : List LogRecord} {t : String} :
    s.chunk = ⟨log, .ok t⟩ ↔ ∃ ps texts, s.pieces = .ok ps ∧
      Logged.forEach Piece.text ps = ⟨log, .ok texts⟩ ∧ t = "\n".intercalate texts := by
  have single : ∀ b : Block, b.text = ⟨log, .ok t⟩ ↔ ∃ ps texts,
      (Except.ok [⟨[], b⟩] : Except Failure (List Piece)) = .ok ps ∧
      Logged.forEach Piece.text ps = ⟨log, .ok texts⟩ ∧ t = "\n".intercalate texts := fun b => by
    constructor
    · intro h
      exact ⟨_, [t], rfl, Logged.map_eq_ok.2 ⟨t, by rwa [text_root], rfl⟩, by simp⟩
    · rintro ⟨_, texts, ⟨⟩, h, rfl⟩
      obtain ⟨u, hu, rfl⟩ := Logged.map_eq_ok.1 h
      rw [text_root] at hu
      simpa using hu
  cases s with
  | fontFace definition => exact single (.fontFace definition)
  | keyframes name position set => exact single (.keyframes (.registered name position) set)
  | ruleSet rules =>
    rw [chunk, css, Logged.map_eq_ok]
    constructor
    · rintro ⟨texts, h, rfl⟩
      obtain ⟨vs, hv, ht⟩ := compileRules_eq_ok.1 h
      exact ⟨_, texts, Failure.bind_eq_ok.2 ⟨vs, hv, rfl⟩, ht, rfl⟩
    · rintro ⟨ps, texts, hp, ht, rfl⟩
      obtain ⟨vs, hv, hp⟩ := Failure.bind_eq_ok.1 hp
      cases hp
      exact ⟨texts, compileRules_eq_ok.2 ⟨vs, hv, ht⟩, rfl⟩

/-- Chunks are the texts of the pieces of their sources, joined. -/
theorem forEach_chunk_eq_ok {sources : List Source} {log : List LogRecord} {ts : List String} :
    Logged.forEach Source.chunk sources = ⟨log, .ok ts⟩ ↔ ∃ parts texts,
      sources.mapM Source.pieces = .ok parts ∧
      Logged.forEach (Logged.forEach Piece.text) parts = ⟨log, .ok texts⟩ ∧
      ts = texts.map "\n".intercalate := by
  induction sources generalizing log ts with
  | nil =>
    constructor
    · intro h
      obtain ⟨rfl, rfl⟩ := Logged.pure_eq_ok.1 h
      exact ⟨[], [], rfl, rfl, rfl⟩
    · rintro ⟨parts, texts, hp, ht, rfl⟩
      cases hp
      obtain ⟨rfl, rfl⟩ := Logged.pure_eq_ok.1 ht
      rfl
  | cons s rest ih =>
    rw [Logged.forEach_cons_eq_ok]
    simp only [List.mapM_cons, Failure.both_eq_ok, Source.chunk_eq_ok, ih]
    constructor
    · rintro ⟨l, t, m, more, ⟨ps, own, hp, ho, rfl⟩, ⟨parts, texts, hps, ht, rfl⟩, rfl, rfl⟩
      exact ⟨_, _, ⟨ps, parts, hp, hps, rfl⟩,
        Logged.forEach_cons_eq_ok.2 ⟨l, own, m, texts, ho, ht, rfl, rfl⟩, rfl⟩
    · rintro ⟨_, _, ⟨ps, parts, hp, hps, rfl⟩, h, rfl⟩
      obtain ⟨l, own, m, texts, ho, ht, rfl, rfl⟩ := Logged.forEach_cons_eq_ok.1 h
      exact ⟨l, _, m, _, ⟨ps, own, hp, ho, rfl⟩, ⟨parts, texts, hps, ht, rfl⟩, rfl, rfl⟩

/-! ## The text -/

/-- The text of a stylesheet is the texts of its pieces, a line break between any two. -/
theorem getCss_eq_ok {c : Context} {log : List LogRecord} {text : String} :
    c.getCss = ⟨log, .ok text⟩ ↔ ∃ ps texts, c.registries.pieces = .ok ps ∧
      Logged.forEach Piece.text ps = ⟨log, .ok texts⟩ ∧ text = "\n".intercalate texts := by
  rw [Context.getCss, Logged.map_eq_ok, chunks_eq_forEach]
  have joined : ∀ {parts : List (List Piece)} {log texts},
      Logged.forEach (Logged.forEach Piece.text) parts = ⟨log, .ok texts⟩ →
      "\n".intercalate ((texts.map "\n".intercalate).filter (· ≠ "")) =
        "\n".intercalate texts.flatten := fun {parts log texts} ht => by
    refine intercalate_filter_parts fun ts hts t htt => ?_
    obtain ⟨ps, -, l, hp⟩ := Logged.exists_mem_of_forEach ht hts
    obtain ⟨p, -, m, hpt⟩ := Logged.exists_mem_of_forEach hp htt
    exact Piece.text_ne_empty hpt
  constructor
  · rintro ⟨ts, h, rfl⟩
    obtain ⟨parts, texts, hp, ht, rfl⟩ := forEach_chunk_eq_ok.1 h
    refine ⟨parts.flatten, texts.flatten, Failure.bind_eq_ok.2 ⟨parts, hp, rfl⟩, ?_, joined ht⟩
    rw [Logged.forEach_flatten]
    exact Logged.map_eq_ok.2 ⟨texts, ht, rfl⟩
  · rintro ⟨ps, texts, hp, ht, rfl⟩
    obtain ⟨parts, hparts, hp⟩ := Failure.bind_eq_ok.1 hp
    cases hp
    rw [Logged.forEach_flatten] at ht
    obtain ⟨parted, hparted, rfl⟩ := Logged.map_eq_ok.1 ht
    exact ⟨_, forEach_chunk_eq_ok.2 ⟨parts, parted, hparts, hparted, rfl⟩, (joined hparted).symm⟩

end Stylesheet
