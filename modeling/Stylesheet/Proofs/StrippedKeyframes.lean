import Mathlib.Data.List.Basic
import Stylesheet.Keyframes
import Stylesheet.Proofs.Formatting
import Stylesheet.Proofs.Logged
/-!
# What keyframes leave out

A keyframe has declarations only: nested rules, states and animations are left out, whatever they
hold, and so is what is missing. Stripped of all that a keyframe set comes to the same text or the
same error, and the warnings of the set itself are one for each entry that was there and is left
out (`keyframesBlock_stripKeyframes`). An error ends the work: a keyframe after it gives no warning.
-/

namespace Stylesheet

/-! ## Entries that have a value -/

/-- The entries of a mapping that have a value. -/
def presentEntries (entries : List (Value × Value)) : List (Value × Value) :=
  entries.filter fun e => !e.2.isAbsent

theorem presentEntries_cons_of_absent {e : Value × Value} (ha : e.2.isAbsent = true)
    (rest : List (Value × Value)) : presentEntries (e :: rest) = presentEntries rest := by
  simp [presentEntries, ha]

theorem presentEntries_cons_of_present {e : Value × Value} (ha : e.2.isAbsent = false)
    (rest : List (Value × Value)) : presentEntries (e :: rest) = e :: presentEntries rest := by
  simp [presentEntries, ha]

/-- Values that are changed but not taken away are all there still. -/
theorem presentEntries_map {f : Value → Value} (hf : ∀ v, (f v).isAbsent = v.isAbsent)
    (entries : List (Value × Value)) :
    presentEntries ((presentEntries entries).map fun e => (e.1, f e.2)) =
      (presentEntries entries).map fun e => (e.1, f e.2) :=
  List.filter_eq_self.2 fun changed hc => by
    obtain ⟨e, he, rfl⟩ := List.mem_map.1 hc
    rw [hf]
    exact (List.mem_filter.1 he).2

/-! ## Stripping -/

/-- Whether the key of an entry has no place in a keyframe. -/
def isIgnoredEntry (e : Value × Value) : Bool := e.1.text?.any isIgnoredKey

/-- Whether an entry of a keyframe stays: it is there and its key has a place. -/
def staysInFrame (e : Value × Value) : Bool := !e.2.isAbsent && !isIgnoredEntry e

/-- A keyframe with the entries that stay. -/
def stripBody : Value → Value
  | .mapping entries => .mapping (entries.filter staysInFrame)
  | v => v

/-- The keyframes that have a body, each with what stays of it. -/
def stripFrames (frames : List (Value × Value)) : List (Value × Value) :=
  (presentEntries frames).map fun f => (f.1, stripBody f.2)

/-- A plain keyframe set, stripped. -/
def stripPlain : Value → Value
  | .mapping frames => .mapping (stripFrames frames)
  | v => v

/-- A keyframe set, plain or behind a handle, stripped. -/
def stripKeyframes : Value → Value
  | .handle name payload flag => .handle name (stripPlain payload) flag
  | v => stripPlain v

theorem unwrap_stripKeyframes (keyframes : Value) :
    (stripKeyframes keyframes).unwrap = stripPlain keyframes.unwrap := by
  cases keyframes <;> rfl

/-! ## Warnings -/

/-- The warnings for a keyframe with this offset: one for each entry that is left out although it
is there. -/
def ignoredEntries (name offset : String) (entries : List (Value × Value)) : List LogRecord :=
  (presentEntries (entries.filter fun e => !staysInFrame e)).map fun e =>
    .ignoredKey (e.1.text?.getD "") name offset

/-- The entries of a keyframe. -/
def bodyEntries : Value → List (Value × Value)
  | .mapping entries => entries
  | _ => []

/-- The warnings for a keyframe. Without the text of its offset there are none. -/
def frameWarnings (name : String) (frame : Value × Value) : List LogRecord :=
  match offsetText frame.1 with
  | .ok offset => ignoredEntries name offset (bodyEntries frame.2)
  | .error _ => []

/-- Whether the keys in keyframes are text. -/
def haveTextKeys (frames : List (Value × Value)) : Bool :=
  frames.all fun f => (bodyEntries f.2).all fun e => e.1.text?.isSome

/-! ## One keyframe -/

section Entries

variable {name offset key : String} {k value : Value} {rest : List (Value × Value)}

theorem keyframeDeclarations_of_absent (ha : value.isAbsent = true) :
    keyframeDeclarations name offset ((k, value) :: rest) =
      keyframeDeclarations name offset rest := by
  rw [keyframeDeclarations, if_pos ha]

theorem keyframeDeclarations_of_not_text (ha : value.isAbsent = false) (hk : k.text? = none) :
    keyframeDeclarations name offset ((k, value) :: rest) = .fail .keyNotText := by
  simp only [keyframeDeclarations, ha, hk, Bool.false_eq_true, if_false]

theorem keyframeDeclarations_of_ignored (ha : value.isAbsent = false)
    (hi : isIgnoredKey key = true) :
    keyframeDeclarations name offset ((.text key, value) :: rest) =
      Logged.record (.ignoredKey key name offset) >>= fun _ =>
        keyframeDeclarations name offset rest := by
  simp only [keyframeDeclarations, ha, Value.text?, hi, Bool.false_eq_true, if_false, if_true]

theorem keyframeDeclarations_of_kept (ha : value.isAbsent = false)
    (hi : isIgnoredKey key = false) :
    keyframeDeclarations name offset ((.text key, value) :: rest) =
      do return (key, value) :: (← keyframeDeclarations name offset rest) := by
  simp only [keyframeDeclarations, ha, Value.text?, hi, Bool.false_eq_true, if_false]

theorem ignoredEntries_of_absent (ha : value.isAbsent = true) :
    ignoredEntries name offset ((k, value) :: rest) = ignoredEntries name offset rest := by
  simp [ignoredEntries, presentEntries, staysInFrame, ha]

theorem ignoredEntries_of_ignored (ha : value.isAbsent = false) (hi : isIgnoredKey key = true) :
    ignoredEntries name offset ((.text key, value) :: rest) =
      .ignoredKey key name offset :: ignoredEntries name offset rest := by
  simp [ignoredEntries, presentEntries, staysInFrame, isIgnoredEntry, Value.text?, ha, hi]

theorem ignoredEntries_of_kept (ha : value.isAbsent = false) (hi : isIgnoredKey key = false) :
    ignoredEntries name offset ((.text key, value) :: rest) =
      ignoredEntries name offset rest := by
  simp [ignoredEntries, presentEntries, staysInFrame, isIgnoredEntry, Value.text?, ha, hi]

end Entries

/-- The entries that stay come to the same declarations, or fail in the same way, and leave no
records. -/
theorem keyframeDeclarations_strip (name offset : String) (entries : List (Value × Value)) :
    keyframeDeclarations name offset (entries.filter staysInFrame) =
      (keyframeDeclarations name offset entries).silent := by
  induction entries with
  | nil => rfl
  | cons e rest ih =>
    obtain ⟨k, value⟩ := e
    rw [List.filter_cons]
    cases ha : value.isAbsent with
    | true =>
      have leaves : staysInFrame (k, value) = false := by simp [staysInFrame, ha]
      rw [leaves, keyframeDeclarations_of_absent ha]
      exact ih
    | false =>
      cases hk : k.text? with
      | none =>
        have stays : staysInFrame (k, value) = true := by
          simp [staysInFrame, isIgnoredEntry, ha, hk]
        rw [stays, if_pos rfl, keyframeDeclarations_of_not_text ha hk,
          keyframeDeclarations_of_not_text ha hk]
        rfl
      | some key =>
        obtain rfl := text?_eq_some.1 hk
        have stays : staysInFrame (.text key, value) = !isIgnoredKey key := by
          simp [staysInFrame, isIgnoredEntry, ha, hk]
        rw [stays]
        cases hi : isIgnoredKey key with
        | true =>
          rw [keyframeDeclarations_of_ignored ha hi, Logged.silent_bind]
          exact ih
        | false =>
          rw [keyframeDeclarations_of_kept ha hi, Bool.not_false, if_pos rfl,
            keyframeDeclarations_of_kept ha hi, Logged.silent_bind, ih]
          rfl

/-- With text for keys nothing fails, so that every entry left out has its warning. -/
theorem log_keyframeDeclarations {name offset : String} {entries : List (Value × Value)}
    (ht : entries.all (·.1.text?.isSome) = true) :
    (keyframeDeclarations name offset entries).log = ignoredEntries name offset entries := by
  induction entries with
  | nil => rfl
  | cons e rest ih =>
    obtain ⟨hk, hrest⟩ := Bool.and_eq_true_iff.1 ht
    obtain ⟨k, value⟩ := e
    obtain ⟨key, hk⟩ := Option.isSome_iff_exists.1 hk
    obtain rfl := text?_eq_some.1 hk
    cases ha : value.isAbsent with
    | true => rw [keyframeDeclarations_of_absent ha, ignoredEntries_of_absent ha, ih hrest]
    | false =>
      cases hi : isIgnoredKey key with
      | true =>
        rw [keyframeDeclarations_of_ignored ha hi, ignoredEntries_of_ignored ha hi, ← ih hrest]
        rfl
      | false =>
        rw [keyframeDeclarations_of_kept ha hi, ignoredEntries_of_kept ha hi, ← ih hrest]
        exact Logged.log_bind_of_silent fun more => rfl

/-! ## Keyframe sets -/

/-- A keyframe without what it leaves out is the same line, or fails in the same way, and gives no
warnings. -/
theorem keyframeLine_strip (name indent : String) (offset body : Value) :
    keyframeLine name indent offset (stripBody body) =
      (keyframeLine name indent offset body).silent := by
  unfold keyframeLine
  rw [Logged.silent_bind, Logged.silent_ofExcept]
  congr
  funext text
  cases body with
  | mapping entries =>
    simp only [stripBody, keyframeDeclarations_strip, Logged.silent_bind]
    rfl
  | _ => rfl

/-- The warnings of one keyframe. -/
theorem log_keyframeLine {name : String} {frame : Value × Value}
    (ht : (bodyEntries frame.2).all (·.1.text?.isSome) = true) (indent : String) :
    (keyframeLine name indent frame.1 frame.2).log = frameWarnings name frame := by
  obtain ⟨offset, body⟩ := frame
  unfold keyframeLine frameWarnings
  cases offsetText offset with
  | error e => rfl
  | ok text =>
    cases body with
    | mapping entries =>
      have quiet (declarations : List Declaration) :
          (Logged.ofExcept (declarationBlock declarations) >>= fun block =>
            pure (indent ++ Selector.block text block)).log = [] := by
        cases declarationBlock declarations <;> rfl
      exact (Logged.log_bind_of_silent quiet).trans (log_keyframeDeclarations ht)
    | _ => rfl

theorem keyframeLines_eq_forEach (name indent : String) (frames : List (Value × Value)) :
    keyframeLines name indent frames =
      Logged.forEach (fun f => keyframeLine name indent f.1 f.2) (presentEntries frames) := by
  induction frames with
  | nil => rfl
  | cons f rest ih =>
    rw [keyframeLines, ih]
    cases ha : f.2.isAbsent with
    | true => rw [presentEntries_cons_of_absent ha, if_pos rfl]
    | false =>
      rw [presentEntries_cons_of_present ha, if_neg Bool.false_ne_true]
      rfl

theorem isAbsent_stripBody (v : Value) : (stripBody v).isAbsent = v.isAbsent := by
  cases v <;> rfl

theorem keyframeLines_stripFrames (name indent : String) (frames : List (Value × Value)) :
    keyframeLines name indent (stripFrames frames) =
      (keyframeLines name indent frames).silent := by
  rw [keyframeLines_eq_forEach, keyframeLines_eq_forEach, stripFrames,
    presentEntries_map isAbsent_stripBody, Logged.forEach_map, Logged.silent_forEach]
  simp only [keyframeLine_strip]

theorem keyframesBlock_strip (name : String) (keyframes : Value) (indent : Nat) :
    keyframesBlock name (stripKeyframes keyframes) indent =
      (keyframesBlock name keyframes indent).silent := by
  unfold keyframesBlock
  rw [unwrap_stripKeyframes]
  cases keyframes.unwrap with
  | mapping frames =>
    simp only [stripPlain, keyframeLines_stripFrames, Logged.silent_bind]
    rfl
  | _ => rfl

/-- The keyframes that are looked at: those that have a body, up to the first that fails. -/
def reachedFrames (name : String) (indent : Nat) (frames : List (Value × Value)) :
    List (Value × Value) :=
  Logged.reached (fun f => keyframeLine name (String.ofList (List.replicate indent ' ')) f.1 f.2)
    (presentEntries frames)

theorem log_keyframesBlock {name : String} {keyframes : Value} {frames : List (Value × Value)}
    (hk : keyframes.unwrap = .mapping frames) (ht : haveTextKeys frames = true) (indent : Nat) :
    (keyframesBlock name keyframes indent).log =
      (reachedFrames name indent frames).flatMap (frameWarnings name) := by
  have lines : (keyframesBlock name keyframes indent).log =
      (keyframeLines name (String.ofList (List.replicate indent ' ')) frames).log := by
    rw [keyframesBlock, hk]
    exact Logged.log_bind_of_silent fun lines => rfl
  rw [lines, keyframeLines_eq_forEach, Logged.log_forEach]
  refine List.flatMap_congr fun f hf => ?_
  have member := (List.mem_filter.1 (Logged.mem_of_mem_reached hf)).1
  exact log_keyframeLine (List.all_eq_true.1 ht f member) _

/-- When there is a text, every keyframe with a body was looked at. -/
theorem reachedFrames_of_ok {name text : String} {keyframes : Value} {indent : Nat}
    {frames : List (Value × Value)} (hk : keyframes.unwrap = .mapping frames)
    (h : (keyframesBlock name keyframes indent).result = .ok text) :
    reachedFrames name indent frames = presentEntries frames := by
  rw [keyframesBlock, hk] at h
  obtain ⟨lines, hl, -⟩ := Logged.result_bind_eq_ok.1 h
  rw [keyframeLines_eq_forEach] at hl
  exact Logged.reached_of_ok hl

/-- A keyframe without a body gives no warnings. -/
theorem flatMap_frameWarnings_presentEntries (name : String) (frames : List (Value × Value)) :
    (presentEntries frames).flatMap (frameWarnings name) =
      frames.flatMap (frameWarnings name) := by
  induction frames with
  | nil => rfl
  | cons f rest ih =>
    rw [List.flatMap_cons, ← ih]
    cases ha : f.2.isAbsent with
    | false => rw [presentEntries_cons_of_present ha, List.flatMap_cons]
    | true =>
      have none : frameWarnings name f = [] := by
        rw [frameWarnings, Value.isAbsent_iff.1 ha]
        split <;> rfl
      rw [presentEntries_cons_of_absent ha, none, List.nil_append]

/-- Keyframes are what stays of them: stripped of the entries that are missing or have no place, and
of the keyframes without a body, a set comes to the same text or the same error and gives no
warnings. The set itself gives one for each entry that is there and is left out, in order, up to the
keyframe that fails if there is one. -/
theorem keyframesBlock_stripKeyframes (name : String) {keyframes : Value}
    {frames : List (Value × Value)} (hk : keyframes.unwrap = .mapping frames)
    (ht : haveTextKeys frames = true) (indent : Nat) :
    let whole := keyframesBlock name keyframes indent
    let stripped := keyframesBlock name (stripKeyframes keyframes) indent
    stripped.result = whole.result ∧ stripped.log = [] ∧
      whole.log = (reachedFrames name indent frames).flatMap (frameWarnings name) ∧
      ∀ text, whole.result = .ok text → whole.log = frames.flatMap (frameWarnings name) := by
  intro whole stripped
  have same : stripped = whole.silent := keyframesBlock_strip name keyframes indent
  have log : whole.log = (reachedFrames name indent frames).flatMap (frameWarnings name) :=
    log_keyframesBlock hk ht indent
  refine ⟨by rw [same]; rfl, by rw [same]; rfl, log, fun text h => ?_⟩
  rw [log, reachedFrames_of_ok hk h, flatMap_frameWarnings_presentEntries]

/-- What is left out may hold anything: nested rules that are no rule set, an animation nested too
deep. -/
theorem keyframesBlock_stripKeyframes_malformed :
    let frames : List (Value × Value) :=
      [(.text "from", .mapping [(.text "$", .text "abc"), (.text "opacity", .absent),
        (.text "color", .text "red")]), (.text "50%", .absent),
      (.text "to", .mapping [(.text ":hover", .absent),
        (.text "animation", .list [.list [.list [.list []]]])])]
    let whole := keyframesBlock "k" (.mapping frames) 2
    let stripped := keyframesBlock "k" (stripKeyframes (.mapping frames)) 2
    haveTextKeys frames = true ∧ stripped.result = whole.result ∧ stripped.log = [] ∧
      whole.log = [.ignoredKey "$" "k" "from", .ignoredKey "animation" "k" "to"] := by
  intro frames whole stripped
  obtain ⟨result, log, -, warnings⟩ := keyframesBlock_stripKeyframes "k"
    (show (Value.mapping frames).unwrap = .mapping frames from rfl) rfl 2
  exact ⟨rfl, result, log, warnings _ rfl⟩

/-- An error ends the work: the keyframe after it would have had a warning. -/
theorem keyframesBlock_log_of_error :
    let frames : List (Value × Value) :=
      [(.text "from", .mapping [(.text "width", .list [.list [.list [.scalar (.int 1)]]])]),
        (.text "to", .mapping [(.text "$", .mapping [])])]
    haveTextKeys frames = true ∧
      keyframesBlock "k" (.mapping frames) 2 = ⟨[], .error (.nesting "width" 3)⟩ ∧
      frames.flatMap (frameWarnings "k") = [.ignoredKey "$" "k" "to"] :=
  ⟨rfl, rfl, rfl⟩

end Stylesheet
