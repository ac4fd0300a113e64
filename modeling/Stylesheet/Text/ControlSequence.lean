/-!
# Control sequences

A control sequence tells a terminal what to do: an escape, a bracket, parameters and a letter.
`withoutControl` leaves out every such sequence; a text without an escape stays as it is
(`dropControl_eq_self`).
-/

namespace Stylesheet.Text

/-- The character that a control sequence starts with. -/
def escapeChar : Char := '\x1b'

/-- A character of the parameters. -/
def isParameter (c : Char) : Bool := c.isDigit || c == ';' || c == '?'

/-- What follows the bracket of a control sequence after its parameters and its letter. -/
def afterParameters? (cs : List Char) : Option (List Char) :=
  match cs.dropWhile isParameter with
  | c :: rest => if c.isAlpha then some rest else none
  | [] => none

/-- What follows the control sequence that the characters start with, if they do. -/
def afterControl? : List Char → Option (List Char)
  | c :: '[' :: rest => if c = escapeChar then afterParameters? rest else none
  | _ => none

theorem length_afterParameters?_le {cs rest : List Char} (h : afterParameters? cs = some rest) :
    rest.length ≤ cs.length := by
  have hd := (List.dropWhile_sublist isParameter (l := cs)).length_le
  unfold afterParameters? at h
  split at h
  · next c more heq =>
    rw [heq, List.length_cons] at hd
    split at h <;> cases h
    omega
  · cases h

theorem length_afterControl?_lt {cs rest : List Char} (h : afterControl? cs = some rest) :
    rest.length < cs.length := by
  unfold afterControl? at h
  split at h
  · split at h
    · have := length_afterParameters?_le h
      simp only [List.length_cons]
      omega
    · cases h
  · cases h

/-- Leaves out the control sequences. -/
def dropControl : List Char → List Char
  | [] => []
  | c :: rest =>
    match _h : afterControl? (c :: rest) with
    | some after => dropControl after
    | none => c :: dropControl rest
termination_by cs => cs.length
decreasing_by
  · exact length_afterControl?_lt _h
  · simp

/-- Text without the control sequences in it. -/
def withoutControl (s : String) : String := String.ofList (dropControl s.toList)

theorem afterControl?_eq_none {cs : List Char} (h : escapeChar ∉ cs) : afterControl? cs = none := by
  unfold afterControl?
  split
  · next c rest =>
    rw [if_neg]
    intro hc
    exact h (by simp [hc])
  · rfl

/-- Nothing is left out where there is no escape. -/
theorem dropControl_eq_self {cs : List Char} (h : escapeChar ∉ cs) : dropControl cs = cs := by
  induction cs with
  | nil => rw [dropControl]
  | cons c rest ih =>
    have hn := afterControl?_eq_none h
    rw [dropControl]
    split
    · next hs =>
      rw [hn] at hs
      cases hs
    · rw [ih fun hm => h (List.mem_cons_of_mem c hm)]

end Stylesheet.Text
