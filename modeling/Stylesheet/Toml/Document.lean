import Stylesheet.Failure
import Stylesheet.Toml.Lexeme
/-!
# Reading TOML documents

Values, tables and the statements of a document. `parse` reads a whole document; it fails at the
first place that is malformed or holds a whole number with too many digits.
-/

namespace Stylesheet.Toml

/-- What has to be there: a document without it is malformed. -/
def required {α : Type} : Option α → Except Failure α
  | some a => .ok a
  | none => .error .malformedSettings

/-! ## Values -/

/-- A number in base ten, unless it is a whole one that is too long. -/
def readable (r : WithRest Value) : Except Failure (WithRest Value) :=
  match r.1 with
  | .int n => Failure.unlessTooLong (Numeral.isTooLong n.natAbs) r
  | _ => .ok r

/-- A number in any notation, or a time of day. -/
def numberOrTime (cs : List Char) : Except Failure (WithRest Value) :=
  match (localTime? cs).or (basedNumber? cs), decimalNumber? cs with
  | some r, _ => .ok r
  | none, some r => readable r
  | none, none => required (wordNumber? cs)

mutual

/-- A value. The fuel bounds how deep values are nested and how many items they have. -/
def value : Nat → List Char → Except Failure (WithRest Value)
  | 0, _ => .error .malformedSettings
  | fuel + 1, cs =>
    match cs with
    | [] => .error .malformedSettings
    | '[' :: rest => do
      items fuel [] (← required (skipLines (rest.length + 1) rest))
    | '\x7b' :: rest =>
      match skipSpace rest with
      | '\x7d' :: more => .ok (.table [], more)
      | more => pairs fuel [] [] more
    | 't' :: 'r' :: 'u' :: 'e' :: rest => .ok (.bool true, rest)
    | 'f' :: 'a' :: 'l' :: 's' :: 'e' :: rest => .ok (.bool false, rest)
    | c :: _ =>
      if c = '\x22' ∨ c = '\x27' then do
        let (s, rest) ← required (string? cs)
        return (.text s, rest)
      else match moment? cs with
        | some r => required r
        | none => numberOrTime cs

/-- The items of an array from one of them on, `done` being those before in reverse. -/
def items : Nat → List Value → List Char → Except Failure (WithRest Value)
  | 0, _, _ => .error .malformedSettings
  | fuel + 1, done, cs =>
    match cs with
    | ']' :: rest => .ok (.array done.reverse, rest)
    | _ => do
      let (v, rest) ← value fuel cs
      match ← required (skipLines (rest.length + 1) rest) with
      | ']' :: more => return (.array (v :: done).reverse, more)
      | ',' :: more => items fuel (v :: done) (← required (skipLines (more.length + 1) more))
      | _ => .error .malformedSettings

/-- The entries of a table on one line from one of them on. -/
def pairs : Nat → Flags → Entries → List Char → Except Failure (WithRest Value)
  | 0, _, _, _ => .error .malformedSettings
  | fuel + 1, flags, t, cs => do
    let (k, rest) ← required (key (cs.length + 1) cs)
    let rest ← required (expect '=' rest)
    let (v, rest) ← value fuel (skipSpace rest)
    if flags.holds .frozen k then .error .malformedSettings
    else
      let t ← required (modify false (define (k.getLastD "") v) k.dropLast t)
      match skipSpace rest with
      | '\x7d' :: more => return (.table t, more)
      | ',' :: more =>
        let flags := match v with
          | .table _ | .array _ => (k, .frozen) :: flags
          | _ => flags
        pairs fuel flags t (skipSpace more)
      | _ => .error .malformedSettings

end

/-! ## Statements -/

/-- How far a document has been read. `pending` are the tables that dotted keys of the current
section have made; no other section may declare them. -/
structure Progress where
  entries : Entries := []
  flags : Flags := []
  pending : List (List String) := []
  header : List String := []

/-- The dotted keys between a section and the last part of a key in it. -/
def between (header k : List String) : List (List String) :=
  ((List.range k.length).drop 1).map fun n => header ++ k.take n

/-- A key and its value. -/
def assignment (p : Progress) (cs : List Char) : Except Failure (Progress × List Char) := do
  let (k, rest) ← required (key (cs.length + 1) cs)
  let rest ← required (expect '=' rest)
  let (v, rest) ← value (cs.length + 1) (skipSpace rest)
  let within := between p.header k
  if within.any (p.flags.holds .declared) then .error .malformedSettings
  else if p.flags.holds .frozen (p.header ++ k.dropLast) then .error .malformedSettings
  else
    let entries ← required
      (modify true (define (k.getLastD "") v) (p.header ++ k.dropLast) p.entries)
    let flags := match v with
      | .table _ | .array _ => (p.header ++ k, .frozen) :: p.flags
      | _ => p.flags
    return ({ p with entries, flags, pending := p.pending ++ within }, rest)

/-- The flags once a section has ended. -/
def settle (p : Progress) : Flags := p.pending.map (·, .declared) ++ p.flags

/-- The start of a table. -/
def tableHeader (p : Progress) (cs : List Char) : Option (Progress × List Char) := do
  let (k, rest) ← key (cs.length + 1) (skipSpace cs)
  let flags := settle p
  if flags.holds .declared k || flags.holds .frozen k then none
  else
    let entries ← modify true some k p.entries
    let rest ← expect ']' rest
    return ({ entries, flags := (k, .declared) :: flags, header := k }, rest)

/-- The start of a further table of an array. -/
def arrayHeader (p : Progress) (cs : List Char) : Option (Progress × List Char) := do
  let (k, rest) ← key (cs.length + 1) (skipSpace cs)
  let flags := settle p
  if flags.holds .frozen k then none
  else
    let flags := (k, Flag.declared) :: flags.clear k
    let entries ← modify true (appendTable (k.getLastD "")) k.dropLast p.entries
    let rest ← expect ']' (← expect ']' rest)
    return ({ entries, flags, header := k }, rest)

/-- The statements of a document, one on each line. -/
def statements : Nat → Progress → List Char → Except Failure Entries
  | 0, _, _ => .error .malformedSettings
  | fuel + 1, p, cs =>
    match skipSpace cs with
    | [] => .ok p.entries
    | '\n' :: rest => statements fuel p rest
    | c :: rest => do
      let (p, rest) ←
        if c = '[' then
          match rest with
          | '[' :: more => required (arrayHeader p more)
          | _ => required (tableHeader p rest)
        else if c = '#' then pure (p, c :: rest)
        else assignment p (c :: rest)
      match ← required (skipComment (skipSpace rest)) with
      | [] => return p.entries
      | '\n' :: more => statements fuel p more
      | _ => .error .malformedSettings

/-- Line breaks of two characters become one. -/
def joinBreaks : List Char → List Char
  | '\r' :: '\n' :: rest => '\n' :: joinBreaks rest
  | c :: rest => c :: joinBreaks rest
  | [] => []

/-- Reads a document. -/
def parse (s : String) : Except Failure Entries :=
  let cs := joinBreaks s.toList
  statements (cs.length + 1) {} cs

end Stylesheet.Toml
