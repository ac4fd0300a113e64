import Stylesheet.Proofs.Declarations
import Stylesheet.Proofs.Logged
import Stylesheet.Proofs.NodeFields
/-!
# Pieces of a stylesheet

A stylesheet is made of pieces: blocks, each inside the grouping rules on the path to the node that
emits it. Of the selectors on a path, those that start a grouping rule are wrapped around what the
node emits, outermost first, and the others are composed to its selector, outermost first.
-/

namespace Stylesheet

/-! ## Paths of selectors -/

namespace Selector

/-- The grouping rules on a path, outermost first. -/
def groupings (path : List String) : List String := path.filter isGrouping

/-- The other selectors on a path, composed one after the other with that of the rule around. -/
def composed (parent : String) (path : List String) : String :=
  (path.filter fun s => !isGrouping s).foldl compose parent

/-- A rule inside grouping rules, the first of them outermost. -/
def wrapAll (groupings : List String) (rule : String) : String := groupings.foldr block rule

theorem composed_cons (parent s : String) (path : List String) :
    composed parent (s :: path) = composed (inside parent s) path := by
  by_cases h : isGrouping s = true <;> simp [composed, inside, h]

theorem groupings_cons (s : String) (path : List String) :
    groupings (s :: path) = groupings [s] ++ groupings path :=
  List.filter_append [s] path

theorem wrapAll_groupings_append (s : String) (inner : List String) (rule : String) :
    wrapAll (groupings [s] ++ inner) rule = wrap s (wrapAll inner rule) := by
  by_cases h : isGrouping s = true <;> simp [wrapAll, groupings, wrap, h]

end Selector

/-! ## Pieces of a stylesheet -/

/-- Where the name of a block of keyframes comes from. -/
inductive KeyframesName where
  | inline (selector : String) (a : InlineAnimation)
  | registered (name : String) (position : Nat)

/-- The name of a block of keyframes. -/
def KeyframesName.text : KeyframesName → String
  | .inline selector a => a.name selector
  | .registered name _ => name

/-- A font face, the rule of a node's own fields, or keyframes. -/
inductive Block where
  | fontFace (definition : Value)
  | rule (selector : String) (fields : List Field)
  | keyframes (name : KeyframesName) (set : Value)

/-- The text of a block. -/
def Block.text : Block → Logged String
  | .fontFace definition => .ofExcept (fontFaceBlock definition)
  | .rule selector fields => .ofExcept do
    let declarations ← fields.mapM (declared selector)
    let body ← declarationBlock declarations
    return Selector.block selector body
  | .keyframes name set => keyframesBlock name.text set keyframeIndent

/-- A block inside grouping rules, the first of them outermost. -/
structure Piece where
  groupings : List String
  block : Block

/-- The text of a piece. -/
def Piece.text (p : Piece) : Logged String := do
  return Selector.wrapAll p.groupings (← p.block.text)

theorem Block.text_rule_eq_ok {selector t : String} {fields : List Field} {log : List LogRecord}
    (h : (Block.rule selector fields).text = ⟨log, .ok t⟩) : ∃ declarations body,
      fields.mapM (declared selector) = .ok declarations ∧
      declarationBlock declarations = .ok body ∧ t = Selector.block selector body := by
  obtain ⟨-, h⟩ := Logged.ofExcept_eq_ok.1 h
  obtain ⟨declarations, hd, h⟩ := Failure.bind_eq_ok.1 h
  obtain ⟨body, hb, h⟩ := Failure.bind_eq_ok.1 h
  cases h
  exact ⟨declarations, body, hd, hb, rfl⟩

/-- A piece inside one more rule. -/
def Piece.inside (selector : String) (p : Piece) : Piece :=
  { p with groupings := Selector.groupings [selector] ++ p.groupings }

theorem text_inside (selector : String) (p : Piece) :
    (p.inside selector).text = do return Selector.wrap selector (← p.text) := by
  simp only [Piece.text, Piece.inside, bind_assoc, pure_bind, Selector.wrapAll_groupings_append]

/-! ## No piece is empty -/

theorem Selector.block_ne_empty (head body : String) : Selector.block head body ≠ "" := by
  simp [Selector.block]

theorem keyframesBlock_ne_empty {name : String} {set : Value} {indent : Nat}
    {log : List LogRecord} {t : String} (h : keyframesBlock name set indent = ⟨log, .ok t⟩) :
    t ≠ "" := by
  unfold keyframesBlock at h
  split at h
  · obtain ⟨lines, -, rfl⟩ := Logged.map_eq_ok.1 h
    exact intercalate_cons_ne_empty (by simp)
  · exact absurd h Logged.fail_ne_ok

theorem Block.text_ne_empty {b : Block} {log : List LogRecord} {t : String}
    (h : b.text = ⟨log, .ok t⟩) : t ≠ "" := by
  cases b with
  | fontFace definition =>
    obtain ⟨-, h⟩ := Logged.ofExcept_eq_ok.1 h
    unfold fontFaceBlock at h
    split at h
    · obtain ⟨body, -, h⟩ := Failure.bind_eq_ok.1 h
      cases h
      exact Selector.block_ne_empty _ _
    · cases h
  | rule selector fields =>
    obtain ⟨declarations, body, -, -, rfl⟩ := Block.text_rule_eq_ok h
    exact Selector.block_ne_empty _ _
  | keyframes name set => exact keyframesBlock_ne_empty h

theorem Piece.text_ne_empty {p : Piece} {log : List LogRecord} {t : String}
    (h : p.text = ⟨log, .ok t⟩) : t ≠ "" := by
  obtain ⟨groupings, b⟩ := p
  obtain ⟨u, hu, rfl⟩ := Logged.map_eq_ok.1 h
  cases groupings with
  | nil => exact Block.text_ne_empty hu
  | cons g rest => exact Selector.block_ne_empty _ _

end Stylesheet
