import Stylesheet.Number.Binary64
/-!
# TOML documents

A document is a table of values. While it is read, flags say which tables have been declared and
which values may no longer grow.
-/

namespace Stylesheet.Toml

/-- A value of a TOML document; a date or a time of day is kept as it was written. -/
inductive Value where
  | text (s : String)
  | int (n : Int)
  | float (x : Binary64)
  | bool (b : Bool)
  | moment (s : String)
  | array (items : List Value)
  | table (entries : List (String × Value))
  deriving Repr, Inhabited

/-- The entries of a table. -/
abbrev Entries := List (String × Value)

/-- Sets a key, in its place if it is there already. -/
def set (key : String) (v : Value) : Entries → Entries
  | [] => [(key, v)]
  | e :: rest => if e.1 = key then (key, v) :: rest else e :: set key v rest

/-- Changes the table that a dotted key leads to, making the tables on the way. An array of
tables stands for its last table if `arrays` says so. -/
def modify (arrays : Bool) (change : Entries → Option Entries) :
    List String → Entries → Option Entries
  | [], t => change t
  | key :: rest, t =>
    match (t.lookup key).getD (.table []) with
    | .table inner => do
      return set key (.table (← modify arrays change rest inner)) t
    | .array items =>
      if arrays then
        match items.reverse with
        | .table inner :: before => do
          let changed ← modify arrays change rest inner
          return set key (.array (before.reverse ++ [.table changed])) t
        | _ => none
      else none
    | _ => none

/-- Gives a key a value, unless it has one. -/
def define (key : String) (v : Value) (t : Entries) : Option Entries :=
  match t.lookup key with
  | some _ => none
  | none => some (set key v t)

/-- Adds an empty table to the array of tables under a key. -/
def appendTable (key : String) (t : Entries) : Option Entries :=
  match t.lookup key with
  | none => some (set key (.array [.table []]) t)
  | some (.array items) => some (set key (.array (items ++ [.table []])) t)
  | some _ => none

/-! ## Flags -/

/-- What is known about a dotted key. -/
inductive Flag where
  /-- The value is complete, with everything inside it. -/
  | frozen
  /-- The table has been declared by name. -/
  | declared
  deriving DecidableEq, Repr

/-- The flags set so far. -/
abbrev Flags := List (List String × Flag)

/-- Whether a flag holds for a key; being frozen holds for everything inside as well. -/
def Flags.holds (flags : Flags) (flag : Flag) (key : List String) : Bool :=
  key ≠ [] && flags.any fun f =>
    f.2 == flag && (f.1 == key || (flag == .frozen && f.1.isPrefixOf key))

/-- Forgets all flags of a key and of everything inside it. -/
def Flags.clear (flags : Flags) (key : List String) : Flags :=
  flags.filter fun f => !key.isPrefixOf f.1

end Stylesheet.Toml
