import Stylesheet.Proofs.JoinedTexts
import Stylesheet.Selector
/-!
# Blocks of braces

A text is a single block if its braces open, stay open and close at its very end. A reader that
counts braces cuts a text of such blocks, each on a line of its own, back into the blocks
(`topLevelBlocks_intercalate`).
-/

namespace Stylesheet

/-! ## Counting braces -/

/-- What a character adds to the depth of braces. -/
def braceStep (c : Char) : Int := if c = '\x7b' then 1 else if c = '\x7d' then -1 else 0

/-- How many more braces a text opens than it closes. -/
def braceDepth : List Char → Int
  | [] => 0
  | c :: rest => braceStep c + braceDepth rest

@[simp] theorem braceDepth_nil : braceDepth [] = 0 := rfl

@[simp] theorem braceDepth_cons (c : Char) (cs : List Char) :
    braceDepth (c :: cs) = braceStep c + braceDepth cs := rfl

@[simp] theorem braceDepth_append (a b : List Char) :
    braceDepth (a ++ b) = braceDepth a + braceDepth b := by
  induction a with
  | nil => simp
  | cons c rest ih => simp [ih, Int.add_assoc]

/-- Characters without a brace among them. -/
def NoBrace (cs : List Char) : Prop := ∀ c ∈ cs, c ≠ '\x7b' ∧ c ≠ '\x7d'

instance (cs : List Char) : Decidable (NoBrace cs) :=
  List.decidableBAll (fun c => c ≠ '\x7b' ∧ c ≠ '\x7d') cs

theorem NoBrace.append {a b : List Char} (ha : NoBrace a) (hb : NoBrace b) : NoBrace (a ++ b) :=
  List.forall_mem_append.2 ⟨ha, hb⟩

theorem NoBrace.braceStep {c : Char} {cs : List Char} (h : NoBrace cs) (hc : c ∈ cs) :
    braceStep c = 0 := by
  simp [Stylesheet.braceStep, h c hc]

theorem NoBrace.braceDepth {cs : List Char} (h : NoBrace cs) : braceDepth cs = 0 := by
  induction cs with
  | nil => rfl
  | cons c rest ih =>
    rw [braceDepth_cons, h.braceStep List.mem_cons_self, ih fun d hd => h d (.tail _ hd)]
    rfl

theorem NoBrace.of_isPrefix {a b : List Char} (h : NoBrace b) (hp : a <+: b) : NoBrace a :=
  fun c hc => h c (hp.subset hc)

/-! ## Balanced text -/

/-- Text that closes what it opens and nothing else. -/
structure Balanced (cs : List Char) : Prop where
  nonneg : ∀ p, p <+: cs → 0 ≤ braceDepth p
  closed : braceDepth cs = 0

theorem NoBrace.balanced {cs : List Char} (h : NoBrace cs) : Balanced cs where
  nonneg _ hp := Int.le_of_eq (h.of_isPrefix hp).braceDepth.symm
  closed := h.braceDepth

/-- A prefix of two texts is a prefix of the first, or all of it and a prefix of the second. -/
theorem isPrefix_append_cases {a b p : List Char} (h : p <+: a ++ b) :
    p <+: a ∨ ∃ r, r <+: b ∧ p = a ++ r := by
  rcases List.prefix_or_prefix_of_prefix h (List.prefix_append a b) with h' | ⟨r, rfl⟩
  · exact .inl h'
  · exact .inr ⟨r, (List.prefix_append_right_inj a).1 h, rfl⟩

theorem Balanced.append {a b : List Char} (ha : Balanced a) (hb : Balanced b) :
    Balanced (a ++ b) where
  nonneg p hp := by
    rcases isPrefix_append_cases hp with hp | ⟨r, hr, rfl⟩
    · exact ha.nonneg p hp
    · rw [braceDepth_append, ha.closed]
      have := hb.nonneg r hr
      omega
  closed := by rw [braceDepth_append, ha.closed, hb.closed]; rfl

theorem Balanced.flatMap {α : Type} {f : α → List Char} {as : List α}
    (h : ∀ a ∈ as, Balanced (f a)) : Balanced (as.flatMap f) := by
  induction as with
  | nil => exact NoBrace.balanced fun c hc => by cases hc
  | cons a rest ih =>
    obtain ⟨ha, hrest⟩ := List.forall_mem_cons.1 h
    rw [List.flatMap_cons]
    exact ha.append (ih hrest)

/-! ## Blocks -/

/-- The depth is never negative, it becomes positive, and from then on it is zero at the very end
only. -/
structure SingleBlock (t : String) : Prop where
  nonneg : ∀ p, p <+: t.toList → 0 ≤ braceDepth p
  opens : ∃ p, p <+: t.toList ∧ 0 < braceDepth p
  closes : ∀ p q, p <+: q → q <+: t.toList → 0 < braceDepth p → (braceDepth q = 0 ↔ q = t.toList)

/-- A head without braces, and balanced text in braces. -/
def IsBlock (cs : List Char) : Prop :=
  ∃ head inner, NoBrace head ∧ Balanced inner ∧ cs = head ++ '\x7b' :: (inner ++ ['\x7d'])

/-- Up to the end of its head a block is at depth zero, inside its braces above it. -/
theorem depth_isPrefix_block {head inner p : List Char} (hh : NoBrace head) (hi : Balanced inner)
    (hp : p <+: head ++ '\x7b' :: (inner ++ ['\x7d'])) :
    p <+: head ∨ 0 < braceDepth p ∨ p = head ++ '\x7b' :: (inner ++ ['\x7d']) := by
  rcases isPrefix_append_cases hp with hp | ⟨r, hr, rfl⟩
  · exact .inl hp
  rcases List.prefix_cons_iff.1 hr with rfl | ⟨s, rfl, hs⟩
  · exact .inl (by simp)
  rcases isPrefix_append_cases hs with hs | ⟨q, hq, rfl⟩
  · refine .inr (.inl ?_)
    rw [braceDepth_append, braceDepth_cons, hh.braceDepth]
    have := hi.nonneg s hs
    have : braceStep '\x7b' = 1 := by decide
    omega
  · rcases List.prefix_cons_iff.1 hq with rfl | ⟨e, rfl, he⟩
    · refine .inr (.inl ?_)
      rw [List.append_nil, braceDepth_append, braceDepth_cons, hh.braceDepth, hi.closed]
      decide
    · rw [List.prefix_nil.1 he]
      exact .inr (.inr rfl)

theorem IsBlock.balanced {cs : List Char} (h : IsBlock cs) : Balanced cs := by
  obtain ⟨head, inner, hh, hi, rfl⟩ := h
  have closed : braceDepth (head ++ '\x7b' :: (inner ++ ['\x7d'])) = 0 := by
    rw [braceDepth_append, braceDepth_cons, braceDepth_append, hh.braceDepth, hi.closed]
    decide
  refine ⟨fun p hp => ?_, closed⟩
  rcases depth_isPrefix_block hh hi hp with hp | hp | rfl
  · exact Int.le_of_eq (hh.of_isPrefix hp).braceDepth.symm
  · omega
  · exact Int.le_of_eq closed.symm

theorem IsBlock.singleBlock {t : String} (h : IsBlock t.toList) : SingleBlock t := by
  have balanced := h.balanced
  obtain ⟨head, inner, hh, hi, ht⟩ := h
  rw [ht] at balanced
  refine ⟨?_, ?_, ?_⟩ <;> rw [ht]
  · exact balanced.nonneg
  · refine ⟨head ++ ['\x7b'], ?_, ?_⟩
    · rw [List.prefix_append_right_inj, List.cons_prefix_cons]
      exact ⟨rfl, List.nil_prefix⟩
    · rw [braceDepth_append, hh.braceDepth]
      decide
  · intro p q hpq hq hp
    -- A longer text in the head would have its start at depth zero, too.
    rcases depth_isPrefix_block hh hi hq with hq' | hq' | rfl
    · rw [(hh.of_isPrefix (hpq.trans hq')).braceDepth] at hp
      exact absurd hp (Int.lt_irrefl 0)
    · refine ⟨fun h => absurd h (by omega), ?_⟩
      rintro rfl
      rw [balanced.closed] at hq'
      exact absurd hq' (Int.lt_irrefl 0)
    · exact ⟨fun _ => rfl, fun _ => balanced.closed⟩

/-- Text without braces in front of a block belongs to its head. -/
theorem IsBlock.append_left {a cs : List Char} (h : IsBlock cs) (ha : NoBrace a) :
    IsBlock (a ++ cs) := by
  obtain ⟨head, inner, hh, hi, rfl⟩ := h
  exact ⟨a ++ head, inner, ha.append hh, hi, by rw [List.append_assoc]⟩

/-! ## Reading blocks -/

/-- Reads blocks by counting braces, inside so many of them and with so much of a block read
already. Whenever the last open brace is closed, a block is complete; what is read then without
completing one is left over. -/
def readBlocks (level : Nat) (read : List Char) : List Char → List String × String
  | [] => ([], String.ofList read)
  | c :: rest =>
    if c = '\x7b' then readBlocks (level + 1) (read ++ [c]) rest
    else if c = '\x7d' then
      if level ≤ 1 then
        let more := readBlocks 0 [] rest
        (String.ofList (read ++ [c]) :: more.1, more.2)
      else readBlocks (level - 1) (read ++ [c]) rest
    else readBlocks level (read ++ [c]) rest

/-- The blocks at the top level of a text, and what is left over behind them. -/
def topLevelBlocks (css : String) : List String × String := readBlocks 0 [] css.toList

theorem readBlocks_noBrace {a : List Char} (h : NoBrace a) (level : Nat) (read rest : List Char) :
    readBlocks level read (a ++ rest) = readBlocks level (read ++ a) rest := by
  induction a generalizing read with
  | nil => rw [List.nil_append, List.append_nil]
  | cons c a ih =>
    obtain ⟨⟨hopen, hclose⟩, ha⟩ := List.forall_mem_cons.1 h
    rw [List.cons_append, readBlocks, if_neg hopen, if_neg hclose, ih ha, List.append_assoc]
    rfl

/-- Inside a brace, text that does not close it is read on at the depth where it ends. -/
theorem readBlocks_inside {a : List Char} {level : Nat}
    (h : ∀ p, p <+: a → 0 ≤ level + braceDepth p) (read rest : List Char) :
    readBlocks (level + 1) read (a ++ rest) =
      readBlocks ((level + braceDepth a).toNat + 1) (read ++ a) rest := by
  induction a generalizing level read with
  | nil => simp
  | cons c a ih =>
    -- Whatever level the first character leads to, the rest does not close it.
    have step : ∀ next : Nat, (next : Int) = level + braceStep c →
        readBlocks (next + 1) (read ++ [c]) (a ++ rest) =
          readBlocks ((level + braceDepth (c :: a)).toNat + 1) (read ++ c :: a) rest :=
      fun next hn => by
        have inside : ∀ p, p <+: a → 0 ≤ (next : Int) + braceDepth p := fun p hp => by
          have := h (c :: p) (List.cons_prefix_cons.2 ⟨rfl, hp⟩)
          rw [braceDepth_cons] at this
          omega
        rw [ih inside, braceDepth_cons, List.append_assoc, hn, Int.add_assoc]
        rfl
    rw [List.cons_append, readBlocks]
    by_cases hopen : c = '\x7b'
    · rw [if_pos hopen]
      exact step (level + 1) (by simp [braceStep, hopen])
    by_cases hclose : c = '\x7d'
    · have close : braceStep c = -1 := by
        rw [hclose]
        decide
      have := h [c] (List.cons_prefix_cons.2 ⟨rfl, List.nil_prefix⟩)
      rw [braceDepth_cons, braceDepth_nil, close] at this
      obtain ⟨next, rfl⟩ : ∃ next, level = next + 1 := ⟨level - 1, by omega⟩
      rw [if_neg hopen, if_pos hclose, if_neg (by omega)]
      exact step next (by rw [close]; omega)
    · rw [if_neg hopen, if_neg hclose]
      exact step level (by simp [braceStep, hopen, hclose])

/-- A block is read as one block, and reading goes on behind it. -/
theorem readBlocks_block {cs : List Char} (h : IsBlock cs) (rest : List Char) :
    readBlocks 0 [] (cs ++ rest) =
      (String.ofList cs :: (readBlocks 0 [] rest).1, (readBlocks 0 [] rest).2) := by
  obtain ⟨head, inner, hh, hi, rfl⟩ := h
  have inside : ∀ p, p <+: inner → 0 ≤ ((0 : Nat) : Int) + braceDepth p := fun p hp => by
    have := hi.nonneg p hp
    omega
  rw [List.append_assoc, readBlocks_noBrace hh, List.cons_append, readBlocks, if_pos rfl,
    List.append_assoc inner, readBlocks_inside inside, hi.closed, List.singleton_append, readBlocks,
    if_neg (by decide), if_pos rfl, if_pos (by decide)]
  simp

/-! ## Blocks on lines of their own -/

/-- Texts, each but the first with the line break in front of it. -/
def lineBroken : List String → List String
  | [] => []
  | t :: rest => t :: rest.map ("\n" ++ ·)

/-- Text made of blocks is read as these blocks, and nothing is left over. -/
theorem topLevelBlocks_intercalate {ts : List String} (h : ∀ t ∈ ts, IsBlock t.toList) :
    topLevelBlocks ("\n".intercalate ts) = (lineBroken ts, "") := by
  have following : ∀ rest : List String, (∀ t ∈ rest, IsBlock t.toList) →
      readBlocks 0 [] (rest.flatMap fun u => "\n".toList ++ u.toList) =
        (rest.map ("\n" ++ ·), "") :=
    fun rest hrest => by
      induction rest with
      | nil => rfl
      | cons u rest ih =>
        obtain ⟨hu, hrest⟩ := List.forall_mem_cons.1 hrest
        have line : IsBlock ("\n".toList ++ u.toList) := hu.append_left (by decide)
        rw [List.flatMap_cons, readBlocks_block line, ih hrest, List.map_cons]
        simp
  cases ts with
  | nil => rfl
  | cons t rest =>
    obtain ⟨ht, hrest⟩ := List.forall_mem_cons.1 h
    rw [topLevelBlocks, toList_intercalate_cons, readBlocks_block ht, following rest hrest,
      String.ofList_toList]
    rfl

/-- Only the outermost braces count. -/
example : topLevelBlocks "a \x7b b \x7d\n@media c \x7b d \x7b e \x7d \x7d" =
    (["a \x7b b \x7d", "\n@media c \x7b d \x7b e \x7d \x7d"], "") := by decide

end Stylesheet
