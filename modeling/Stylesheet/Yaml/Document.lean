import Stylesheet.Yaml.Node
import Stylesheet.Yaml.Plain
/-!
# Reading YAML documents

The value that a document denotes. Tags may give the type of a scalar; a mapping may take over the
entries of other mappings. A value that holds itself is followed only so far. Of several faults the
one that lies nearest to the top counts.
-/

namespace Stylesheet.Yaml

/-! ## Scalars -/

/-- The key whose value is a mapping, or a list of mappings, to be taken over. -/
def mergeKey : String := "<<"

/-- The key that stands for itself and for nothing else. -/
def selfKey : String := "="

/-- A number by its tag; a whole number counts as a decimal one too. -/
def numberTagged (decimal : Bool) (text : String) : Except Failure Value :=
  match whole? text.toList, decimal? text.toList, decimal with
  | some n, _, false => n.map fun n => .scalar (.int n)
  | _, some x, true => .ok (.scalar (.float x))
  | some _, none, true => .ok (.scalar (.float (decimalOf text.toList)))
  | _, _, _ => .error .noDigits

/-- A scalar of the type that a tag names. -/
def taggedScalar (tag text : String) : Except Failure Value :=
  if tag = coreTag ++ "str" then .ok (.text text)
  else if tag = coreTag ++ "null" then .ok .absent
  else if tag = coreTag ++ "int" then numberTagged false text
  else if tag = coreTag ++ "float" then numberTagged true text
  else if tag = coreTag ++ "bool" then
    match truthWords.lookup (String.ofList (text.toList.map Char.toLower)) with
    | some b => .ok (.scalar (.bool b))
    | none => .error (.unknownName text)
  else malformed

/-- A scalar. -/
def scalarValue (tag : Option String) (plain : Bool) (text : String) : Except Failure Value :=
  match tag, plain with
  | some tag, _ => taggedScalar tag text
  | none, false => .ok (.text text)
  | none, true =>
    if text = mergeKey ∨ text = selfKey then malformed else (plainMeaning text).map .scalar

/-! ## Collections -/

/-- Whether a collection may have a tag. -/
def fits (type : String) (tag : Option String) : Bool := tag.all (· == coreTag ++ type)

/-- The entries of a value that is to be taken over; of two mappings in a list the first wins. -/
def mergedEntries : Value → Except Failure (List (Value × Value))
  | .mapping entries => .ok entries
  | .list items => do
    return (← items.reverse.mapM fun
      | .mapping entries => .ok entries
      | _ => malformed).flatten
  | _ => malformed

/-- Whether a key asks for another mapping to be taken over. -/
def isMergeKey : Node → Bool
  | .scalar none true text => text == mergeKey
  | _ => false

/-- Whether a key is the one that stands for itself. -/
def isSelfKey : Node → Bool
  | .scalar none true text => text == selfKey
  | _ => false

/-- Whether a value is not a number. -/
def isNotNumber : Value → Bool
  | .scalar (.float .nan) => true
  | _ => false

/-- Whether two keys of a document are the same. What is not a number is the same key everywhere. -/
def sameKey (a b : Value) : Bool := a.same b || (isNotNumber a && isNotNumber b)

/-- The entries of a mapping: those taken over, and its own. -/
structure Gathered where
  merged : List (Value × Value) := []
  own : List (Value × Value) := []

/-- A mapping with its own entries and those taken over. -/
def Gathered.toValue (g : Gathered) : Value :=
  .mapping ((g.merged ++ g.own).foldl (fun es e => Value.insertBy sameKey e.1 e.2 es) [])

/-- The value of a key, which cannot be a collection. -/
def keyValue (k : Node) : Except Failure Value :=
  match k with
  | .scalar tag plain text =>
    if isSelfKey k then .ok (.text selfKey) else scalarValue tag plain text
  | _ => malformed

/-! ## Faults -/

/-- A failure, and how far from the top of a document it lies. -/
structure Fault where
  depth : Nat
  failure : Failure

namespace Fault

/-- A result with the place of its failure. -/
def locate {α : Type} (depth : Nat) (x : Except Failure α) : Except Fault α :=
  x.mapError (Fault.mk depth)

/-- Two results, or the fault that counts: the one nearer to the top, at one depth the first. -/
def both {α β : Type} (x : Except Fault α) (y : Except Fault β) : Except Fault (α × β) :=
  match x, y with
  | .ok a, .ok b => .ok (a, b)
  | .error d, .error e => .error (if e.depth < d.depth then e else d)
  | .error d, .ok _ => .error d
  | .ok _, .error e => .error e

end Fault

/-! ## Loops -/

/-- How loops are followed: so many times, and then a value stands for the rest. -/
structure Unrolling where
  depth : Nat
  rest : Node → Value

/-- A collection with nothing in it, of the kind of a node. -/
def emptyLike : Node → Value
  | .sequence _ _ => .list []
  | _ => .mapping []

/-- Lists within lists, with a text inside. -/
def nestedLists : Value := .list [.list [.list [.text "a"]]]

/-- Two ways to follow loops. One ends in collections that hold nothing, the other, further down,
in lists that hardly any style may have, so that only what comes of a loop itself comes of both. -/
def Unrolling.both : Unrolling × Unrolling :=
  ({ depth := 3, rest := emptyLike },
   { depth := 4, rest := fun _ => .list [nestedLists, nestedLists] })

/-! ## Nodes -/

/-- The values that names of loops stand for. -/
abbrev Scope := List (String × Value)

mutual

/-- The value of a node at a depth. -/
def Node.value (u : Unrolling) : Node → Nat → Scope → Except Fault Value
  | .scalar tag plain text, depth, _ => Fault.locate depth (scalarValue tag plain text)
  | .sequence tag items, depth, scope =>
    if fits "seq" tag then (valuesOf u items (depth + 1) scope).map .list
    else Fault.locate depth malformed
  | .mapping tag entries, depth, scope =>
    if fits "map" tag then (gather u entries (depth + 1) scope).map Gathered.toValue
    else Fault.locate depth malformed
  | .loop name body, depth, scope =>
    (List.range u.depth).foldlM (fun v _ => body.value u depth ((name, v) :: scope)) (u.rest body)
  | .again name, depth, scope =>
    match scope.lookup name with
    | some v => .ok v
    | none => Fault.locate depth (.error .endless)

/-- The values of nodes. -/
def valuesOf (u : Unrolling) : List Node → Nat → Scope → Except Fault (List Value)
  | [], _, _ => .ok []
  | n :: rest, depth, scope =>
    (Fault.both (n.value u depth scope) (valuesOf u rest depth scope)).map fun p => p.1 :: p.2

/-- The entries of a mapping. -/
def gather (u : Unrolling) : List (Node × Node) → Nat → Scope → Except Fault Gathered
  | [], _, _ => .ok {}
  | (k, v) :: rest, depth, scope =>
    let value := v.value u depth scope
    let others := gather u rest depth scope
    if isMergeKey k then
      let taken := value.bind fun v => Fault.locate depth (mergedEntries v)
      (Fault.both taken others).map fun p => { p.2 with merged := p.1 ++ p.2.merged }
    else
      let entry := Fault.both (Fault.locate depth (keyValue k)) value
      (Fault.both entry others).map fun p => { p.2 with own := p.1 :: p.2.own }

end

/-! ## Documents -/

/-- The value of a whole document. -/
def Node.toValue (n : Node) (u : Unrolling) : Except Failure Value :=
  (n.value u 0 []).mapError Fault.failure

/-- The value that a text denotes. If something in it holds itself, there is a second value, which
follows it in another way. -/
def read (s : String) : Except Failure (Value × Option Value) := do
  let n ← Node.ofTokens (← tokens s)
  let v ← n.toValue Unrolling.both.1
  if n.hasLoop then return (v, some (← n.toValue Unrolling.both.2)) else return (v, none)

end Stylesheet.Yaml
