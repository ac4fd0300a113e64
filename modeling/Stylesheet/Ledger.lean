import Stylesheet.Log
/-!
# Ledgers

A ledger hands out names made of a base and the number of records before it, and knows which of
its records have reached the stylesheet. An identity-aware ledger keeps a slot for each pair of
call site and base: registering there again takes the place and the name of the earlier record,
but not before that one has reached the stylesheet.
-/

namespace Stylesheet

/-- What was registered, under which name. The serial number is never used twice in a ledger. -/
structure Record (α : Type) where
  name : String
  payload : α
  rendered : Bool := false
  identity : Option String := none
  serial : Nat := 0
  deriving Repr, Inhabited

/-- An ordered registry of records. `superseded` holds the serial numbers of records that lost
their place to a later one; they had reached the stylesheet and keep that standing. -/
structure Ledger (α : Type) where
  identityAware : Bool := false
  records : List (Record α) := []
  slots : List ((String × String) × Nat) := []
  issued : Nat := 0
  superseded : List Nat := []
  deriving Repr, Inhabited

namespace Ledger

variable {α : Type}

/-- A ledger without records. -/
def empty (identityAware : Bool) : Ledger α := { identityAware }

/-- The number of records. -/
def size (l : Ledger α) : Nat := l.records.length

/-- The name of the record at a position. -/
def nameAt (base : String) (position : Nat) : String := base ++ "-" ++ toString position

/-- The slot of a registration: none without an identity, or if identities do not count. -/
def slot? (l : Ledger α) (base : String) (identity : Option String) : Option (String × String) :=
  if l.identityAware then identity.map (·, base) else none

/-- The record that a registration adds at the end. -/
def fresh (l : Ledger α) (base : String) (payload : α) (identity : Option String) : Record α :=
  { name := nameAt base l.size, payload, identity, serial := l.issued }

/-- Adds a record at the end, in its slot if it has one. -/
def append (l : Ledger α) (slot : Option (String × String)) (r : Record α) : Ledger α :=
  { l with
    records := l.records ++ [r]
    slots := match slot with
      | none => l.slots
      | some key => (key, l.size) :: l.slots
    issued := l.issued + 1 }

/-- Puts a record in the place of another. -/
def replace (l : Ledger α) (position : Nat) (previous r : Record α) : Ledger α :=
  { l with
    records := l.records.set position r
    issued := l.issued + 1
    superseded := previous.serial :: l.superseded }

/-- The record that holds a slot, with its position. -/
def held? (l : Ledger α) (slot : Option (String × String)) : Option (Nat × Record α) := do
  let position ← l.slots.lookup (← slot)
  let r ← l.records[position]?
  return (position, r)

/-- Registers a payload under a name made from the base. The call site that registered the same
base before must have seen it reach the stylesheet. -/
def register (l : Ledger α) (base : String) (payload : α) (identity : Option String) :
    Logged (Record α × Ledger α) :=
  let slot := l.slot? base identity
  match l.held? slot with
  | none => do
    let r := l.fresh base payload identity
    Logged.record (.registered r.name)
    return (r, l.append slot r)
  | some (position, previous) =>
    if previous.rendered then do
      let r := { l.fresh base payload identity with name := previous.name }
      Logged.record (.reregistered r.name (identity.getD ""))
      return (r, l.replace position previous r)
    else .fail (.duplicate (identity.getD "") previous.name)

/-- Every record has reached the stylesheet. -/
def markRendered (l : Ledger α) : Ledger α :=
  { l with records := l.records.map fun r => { r with rendered := true } }

/-- Forgets all records and slots. -/
def reset (l : Ledger α) : Ledger α := { l with records := [], slots := [] }

/-- Whether the record with a serial number counts as having reached the stylesheet. -/
def isRendered (l : Ledger α) (serial : Nat) : Bool :=
  l.records.any (fun r => r.serial == serial && r.rendered) || l.superseded.contains serial

end Ledger
end Stylesheet
