import Stylesheet.Proofs.LedgerInvariant
import Stylesheet.Proofs.Runs
import Stylesheet.Proofs.StylesheetText
/-!
# Names of keyframes

The name of a block of keyframes is a stem, a hyphen and a number. Registered keyframes are numbered
by their position in the ledger, so no two of them share a name. Inline animations are numbered by
their position in the animation value, and a selector is made into a stem by replacing what a name
cannot hold: animations whose stems and numbers agree share a name, whatever their keyframes.
-/

namespace Stylesheet

/-! ## Stems -/

/-- The stem of an inline animation: what it is named after, made into a name. -/
def InlineName.stem (name : Option String) (selector : String) : String :=
  String.ofList (dropMark (sanitize false (base name selector).toList))

theorem inlineName_eq_nameAt (name : Option String) (selector : String) (position : Nat) :
    inlineName name selector position = Ledger.nameAt (InlineName.stem name selector) position :=
  rfl

namespace Ledger

/-- What stands before the last hyphen of a name. -/
def baseOf (name : String) : String :=
  String.ofList ((name.toList.reverse.dropWhile (· != '-')).drop 1).reverse

theorem baseOf_nameAt (base : String) (i : Nat) : baseOf (nameAt base i) = base := by
  have digits : ∀ c ∈ (Nat.toDigits 10 i).reverse, (c != '-') = true := fun c hc => by
    rw [bne_iff_ne]
    rintro rfl
    exact hyphen_not_mem_digits i (List.mem_reverse.1 hc)
  rw [baseOf, toList_nameAt, List.reverse_append, List.reverse_cons, List.append_assoc,
    List.dropWhile_append_of_pos digits]
  simp

end Ledger

namespace KeyframesName

/-- The stem of a name. -/
def stem : KeyframesName → String
  | .inline selector a => InlineName.stem a.ownName selector
  | .registered name _ => Ledger.baseOf name

/-- The number of a name. -/
def number : KeyframesName → Nat
  | .inline _ a => a.position
  | .registered _ position => position

end KeyframesName

/-! ## Registered keyframes -/

/-- The name and the position of registered keyframes. -/
def Piece.registered? (p : Piece) : Option (String × Nat) :=
  match p.block with
  | .keyframes (.registered name position) _ => some (name, position)
  | _ => none

/-- The name and the position of a source that is registered keyframes. -/
def Source.registered : Source → List (String × Nat)
  | .keyframes name position _ => [(name, position)]
  | _ => []

theorem registered?_of_mem_visit {parent : String} {v : Visit} {p : Piece}
    (h : p ∈ v.pieces parent) : p.registered? = none := by
  obtain ⟨b, hb, rfl⟩ := List.mem_map.1 h
  obtain rfl | ⟨a, -, rfl⟩ := Visit.mem_blocks hb <;> rfl

theorem Source.registered_pieces {s : Source} {ps : List Piece} (h : s.pieces = .ok ps) :
    ps.filterMap Piece.registered? = s.registered := by
  cases s with
  | fontFace definition =>
    cases h
    rfl
  | keyframes name position set =>
    cases h
    rfl
  | ruleSet rules =>
    obtain ⟨vs, -, h⟩ := Failure.bind_eq_ok.1 h
    cases h
    refine List.filterMap_eq_nil_iff.2 fun p hp => ?_
    obtain ⟨v, -, hp⟩ := List.mem_flatMap.1 hp
    exact registered?_of_mem_visit hp

theorem registered_flatten {sources : List Source} {parts : List (List Piece)}
    (h : sources.mapM Source.pieces = .ok parts) :
    parts.flatten.filterMap Piece.registered? = sources.flatMap Source.registered := by
  induction sources generalizing parts with
  | nil =>
    cases h
    rfl
  | cons s rest ih =>
    rw [List.mapM_cons, Failure.both_eq_ok] at h
    obtain ⟨ps, more, hp, hm, rfl⟩ := h
    rw [List.flatten_cons, List.filterMap_append, List.flatMap_cons, ih hm,
      Source.registered_pieces hp]

/-- The registered keyframes of a stylesheet are the records of the ledger. -/
theorem Registries.registered_pieces {r : Registries} {ps : List Piece} (h : r.pieces = .ok ps) :
    ps.filterMap Piece.registered? = r.keyframes.records.zipIdx.map fun k => (k.1.name, k.2) := by
  obtain ⟨parts, hp, h⟩ := Failure.bind_eq_ok.1 h
  cases h
  rw [registered_flatten hp]
  -- Only the last of the four kinds of sources is registered keyframes.
  have others : ∀ {α : Type} (as : List α), as.flatMap (fun _ => ([] : List (String × Nat))) = [] :=
    fun as => by simp
  simp only [sources, List.flatMap_append, List.flatMap_map, Source.registered, others,
    List.nil_append]
  rw [List.map_eq_flatMap]

/-- The keyframes of every reachable context keep the invariant of a ledger. -/
theorem Session.inv_keyframes_run (settings : Settings) (sink : Option Sink) (resolver : Resolver)
    (outlets : Outlets) (calls : List Call) :
    ((start settings sink resolver outlets).run calls).context.registries.keyframes.Inv := by
  refine run_keeps (p := fun c => c.registries.keyframes.Inv) (fun he hi => ?_)
    (Ledger.inv_empty _) calls
  cases he with
  | keyframes hl => exact hi.register hl
  | flush => exact hi.markRendered
  | reset => exact .reset _
  | _ => exact hi

/-! ## Names of all keyframes -/

/-- The name of keyframes is their stem and their number. -/
theorem text_eq_nameAt {r : Registries} (hi : r.keyframes.Inv) {ps : List Piece}
    (h : r.pieces = .ok ps) {p : Piece} (hp : p ∈ ps) {name : KeyframesName} {set : Value}
    (hb : p.block = .keyframes name set) : name.text = Ledger.nameAt name.stem name.number := by
  cases name with
  | inline selector a => exact inlineName_eq_nameAt a.ownName selector a.position
  | registered name position =>
    have hm : (name, position) ∈ ps.filterMap Piece.registered? :=
      List.mem_filterMap.2 ⟨p, hp, by rw [Piece.registered?, hb]⟩
    rw [Registries.registered_pieces h] at hm
    obtain ⟨⟨q, i⟩, hq, he⟩ := List.mem_map.1 hm
    obtain ⟨rfl, rfl⟩ := Prod.mk.inj he
    obtain ⟨base, hn⟩ := hi.named i q (List.mem_zipIdx_iff_getElem?.1 hq)
    simp only [KeyframesName.text, KeyframesName.stem, KeyframesName.number, hn,
      Ledger.baseOf_nameAt]

/-- In every stylesheet two blocks of keyframes have the same name exactly if their stems and their
numbers are the same, and no two registered ones do. -/
theorem keyframes_names (settings : Settings) (sink : Option Sink) (resolver : Resolver)
    (outlets : Outlets) (calls : List Call) (log : List LogRecord) (css : String) :
    let c := ((Session.start settings sink resolver outlets).run calls).context
    c.getCss = ⟨log, .ok css⟩ → ∃ ps texts, c.registries.pieces = .ok ps ∧
      Logged.forEach Piece.text ps = ⟨log, .ok texts⟩ ∧ css = "\n".intercalate texts ∧
      (∀ p ∈ ps, ∀ q ∈ ps, ∀ m k set other, p.block = .keyframes m set →
        q.block = .keyframes k other →
        (m.text = k.text ↔ m.stem = k.stem ∧ m.number = k.number)) ∧
      ((ps.filterMap Piece.registered?).map Prod.fst).Nodup := by
  intro c h
  have hi : c.registries.keyframes.Inv :=
    Session.inv_keyframes_run settings sink resolver outlets calls
  obtain ⟨ps, texts, hp, ht, hcss⟩ := getCss_eq_ok.1 h
  refine ⟨ps, texts, hp, ht, hcss, fun p hpm q hqm m k set other hm hk => ?_, ?_⟩
  · rw [text_eq_nameAt hi hp hpm hm, text_eq_nameAt hi hp hqm hk, Ledger.nameAt_inj]
  · rw [Registries.registered_pieces hp, List.map_map]
    have names : c.registries.keyframes.records.zipIdx.map
        (Prod.fst ∘ fun k => (k.1.name, k.2)) =
          c.registries.keyframes.records.map Record.name := by
      rw [← List.zipIdx_map_fst 0 c.registries.keyframes.records, List.map_map]
      simp [Function.comp_def]
    rw [names]
    exact hi.names_nodup

/-- Keyframes registered twice under one name get two. -/
theorem keyframes_names_twice :
    let spin := Call.namedAnimation "spin" (.mapping []) [] none []
    let c := ((Session.start {} none .absent {}).run [spin, spin]).context
    ∃ log css ps, c.getCss = ⟨log, .ok css⟩ ∧ c.registries.pieces = .ok ps ∧
      ((ps.filterMap Piece.registered?).map Prod.fst).Nodup := by
  intro spin c
  have h : c.getCss = ⟨_, .ok _⟩ := rfl
  obtain ⟨ps, _, hp, -, -, -, hn⟩ := keyframes_names {} none .absent {} [spin, spin] _ _ h
  exact ⟨_, _, ps, h, hp, hn⟩

/-- Two inline animations may share a name though their keyframes differ: their selectors make the
same stem. -/
theorem keyframes_share_name :
    let set (opacity : Int) : Value :=
      .mapping [(.text "from", .mapping [(.text "opacity", .scalar (.int opacity))])]
    let node (opacity : Int) : Value := .mapping [(.text "animation", .animation {} (set opacity))]
    let rules : Value := .mapping [(.text ".a b", node 0), (.text ".a > b", node 1)]
    let c := ((Session.start {} none .absent {}).run [.cssRules rules]).context
    ∃ log css ps, c.getCss = ⟨log, .ok css⟩ ∧ c.registries.pieces = .ok ps ∧
      ∃ p ∈ ps, ∃ q ∈ ps, ∃ m k, p.block = .keyframes m (set 0) ∧
        q.block = .keyframes k (set 1) ∧ m.text = k.text ∧ set 0 ≠ set 1 := by
  intro set node rules c
  let field (opacity : Int) : Field := ("animation", .animation {} (set opacity))
  let pieces (selector : String) (opacity : Int) : List Piece :=
    [⟨[], .rule selector [field opacity]⟩,
      ⟨[], .keyframes (.inline selector ⟨none, 0, set opacity⟩) (set opacity)⟩]
  have hn (opacity : Int) : visitNode (node opacity) =
      .ok [⟨[], .entering, [field opacity]⟩, ⟨[], .leaving, [field opacity]⟩] :=
    visitNode_of_no_rules rfl (nestedRules_animation _)
  -- The nodes hold no rules, so each is entered and left at once.
  have hv : visits rules = .ok _ :=
    Failure.bind_eq_ok.2 ⟨[(.text ".a b", node 0), (.text ".a > b", node 1)], rfl,
      visitEntries_cons_eq_ok.2 ⟨".a b", _, _, rfl, hn 0,
        visitEntries_cons_eq_ok.2 ⟨".a > b", _, [], rfl, hn 1, by rw [visitEntries], rfl⟩, rfl⟩⟩
  have own (opacity : Int) : ownFields [field opacity] = [field opacity] := ownFields_animation _
  have hp : c.registries.pieces = .ok (pieces ".a b" 0 ++ pieces ".a > b" 1) := by
    have hs : c.registries.sources = [.ruleSet rules] := rfl
    rw [Registries.pieces_of_ruleSet hs hv]
    simp only [List.map_cons, List.map_nil, List.cons_append, List.nil_append, List.append_nil,
      List.flatMap_cons, List.flatMap_nil, Visit.under, Visit.pieces, Visit.blocks, own]
    rfl
  refine ⟨_, _, _, getCss_eq_ok.2 ⟨_, _, hp, rfl, rfl⟩, hp, _, .tail _ (.head _), _,
    .tail _ (.tail _ (.tail _ (.head _))), _, _, rfl, rfl, by decide +kernel, by simp [set]⟩

end Stylesheet
