import Stylesheet.Number.Binary64
/-!
# Values

A style is written as nested data: scalars, lists, mappings, and three kinds of handle that stand
for something declared elsewhere. `Value` is that data. A mapping keeps its entries in the order
in which their keys were first given.
-/

namespace Stylesheet

/-! ## Scalars -/

/-- A value without parts. -/
inductive Scalar where
  | absent
  | bool (b : Bool)
  | int (n : Int)
  | float (x : Binary64)
  | text (s : String)
  deriving DecidableEq, Repr, Inhabited

namespace Scalar

/-- The whole number that a scalar counts as; truth values count as one and zero. -/
def toInt? : Scalar → Option Int
  | .bool b => some (if b then 1 else 0)
  | .int n => some n
  | .float x => x.toInt?
  | _ => none

/-- Equality across the kinds of number: `1`, `1.0` and true are equal. -/
def same (a b : Scalar) : Bool :=
  match a.toInt?, b.toInt? with
  | some m, some n => m == n
  | none, none =>
    match a, b with
    | .absent, .absent => true
    | .text s, .text t => s == t
    | .float x, .float y => x.equals y
    | _, _ => false
  | _, _ => false

/-- Absent, false, zero and empty text are not. -/
def truthy : Scalar → Bool
  | .absent => false
  | .bool b => b
  | .int n => n != 0
  | .float x => !x.isZero
  | .text s => s != ""

/-- Whole and decimal numbers; a truth value is not one. -/
def isNumber : Scalar → Bool
  | .int _ | .float _ => true
  | _ => false

end Scalar

/-! ## Handles and animations -/

/-- The registries that hand out handles. -/
inductive Registry where
  | fontFaces
  | styles
  | keyframes
  deriving DecidableEq, Repr, Inhabited

/-- Which registration a handle stands for. -/
structure Ticket where
  registry : Registry
  serial : Nat
  identity : Option String := none
  deriving DecidableEq, Repr, Inhabited

/-- Whether what a handle stands for has reached the stylesheet: known outright, or known to the
registry that issued the handle. A mark tells the handles of the first kind apart. -/
inductive Flag where
  | fixed (rendered : Bool) (mark : Option Nat)
  | issued (ticket : Ticket)
  deriving DecidableEq, Repr, Inhabited

/-- A length of time or a count: a number, or text that already has its unit. -/
inductive Amount where
  | int (n : Int)
  | float (x : Binary64)
  | text (s : String)
  deriving DecidableEq, Repr, Inhabited

/-- The eight sub-properties of an animation. -/
structure AnimationFields where
  name : Option String := none
  duration : Option Amount := none
  timingFunction : Option String := none
  delay : Option Amount := none
  iterationCount : Option Amount := none
  direction : Option String := none
  fillMode : Option String := none
  playState : Option String := none
  deriving DecidableEq, Repr, Inhabited

namespace Scalar

/-- Text that may be absent. -/
def ofText : Option String → Scalar
  | none => .absent
  | some s => .text s

/-- An amount that may be absent. -/
def ofAmount : Option Amount → Scalar
  | none => .absent
  | some (.int n) => .int n
  | some (.float x) => .float x
  | some (.text s) => .text s

end Scalar

namespace AnimationFields

/-- The fields as scalars, in order. -/
def scalars (f : AnimationFields) : List Scalar :=
  [.ofText f.name, .ofAmount f.duration, .ofText f.timingFunction, .ofAmount f.delay,
   .ofAmount f.iterationCount, .ofText f.direction, .ofText f.fillMode, .ofText f.playState]

/-- Whether all fields are equal, amounts across the kinds of number. -/
def same (f g : AnimationFields) : Bool := (f.scalars.zip g.scalars).all fun p => p.1.same p.2

end AnimationFields

/-! ## Values -/

/-- The data that styles are written in. A `variable` is a custom property with the property whose
units it has by default and a fallback; a `handle` names a registered payload. -/
inductive Value where
  | scalar (s : Scalar)
  | list (items : List Value)
  | tuple (items : List Value)
  | mapping (entries : List (Value × Value))
  | variable (name property : String) (fallback : Value)
  | handle (name : String) (payload : Value) (flag : Flag)
  | animation (fields : AnimationFields) (keyframes : Value)
  deriving Repr, Inhabited

namespace Value

/-- No value. -/
@[match_pattern] abbrev absent : Value := .scalar .absent

/-- Text as a value. -/
@[match_pattern] abbrev text (s : String) : Value := .scalar (.text s)

/-- The text that a value is, if it is text. -/
def text? : Value → Option String
  | .text s => some s
  | _ => none

/-- Whether a value is there at all. -/
def isAbsent : Value → Bool
  | .absent => true
  | _ => false

/-- False for the scalars that are not truthy and for empty collections. -/
def truthy : Value → Bool
  | .scalar s => s.truthy
  | .list items | .tuple items => !items.isEmpty
  | .mapping entries => !entries.isEmpty
  | _ => true

/-- The payload of a handle, any other value as it is. -/
def unwrap : Value → Value
  | .handle _ payload _ => payload
  | v => v

/-- The fields of an animation with their names, in order. -/
def animationEntries (f : AnimationFields) (keyframes : Value) : List (String × Value) :=
  [("name", .scalar (.ofText f.name)),
   ("keyframes", keyframes),
   ("duration", .scalar (.ofAmount f.duration)),
   ("timing_function", .scalar (.ofText f.timingFunction)),
   ("delay", .scalar (.ofAmount f.delay)),
   ("iteration_count", .scalar (.ofAmount f.iterationCount)),
   ("direction", .scalar (.ofText f.direction)),
   ("fill_mode", .scalar (.ofText f.fillMode)),
   ("play_state", .scalar (.ofText f.playState))]

/-! ### Height -/

mutual

/-- How deeply values are nested in a value, the keys of mappings included. -/
def height : Value → Nat
  | .scalar _ => 0
  | .list items => heightOfItems items + 1
  | .tuple items => heightOfItems items + 1
  | .mapping entries => heightOfEntries entries + 1
  | .variable _ _ fallback => fallback.height + 1
  | .handle _ payload _ => payload.height + 1
  | .animation _ keyframes => keyframes.height + 1

/-- The greatest height among the items. -/
def heightOfItems : List Value → Nat
  | [] => 0
  | v :: rest => max v.height (heightOfItems rest)

/-- The greatest height among the keys and values. -/
def heightOfEntries : List (Value × Value) → Nat
  | [] => 0
  | (k, v) :: rest => max (max k.height v.height) (heightOfEntries rest)

end

/-! ### Keys of mappings -/

mutual

/-- Whether two keys are the same. A handle is the same as itself only: as one from the same
registration, or with the same mark. -/
def same : Value → Value → Bool
  | .scalar a, .scalar b => a.same b
  | .tuple a, .tuple b => sameItems a b
  | .variable n p f, .variable m q g => n == m && p == q && f.same g
  | .handle _ _ (.issued a), .handle _ _ (.issued b) => a == b
  | .handle _ _ (.fixed _ (some m)), .handle _ _ (.fixed _ (some n)) => m == n
  | .animation f k, .animation g l => f.same g && k.same l
  | _, _ => false

/-- Whether two lists hold the same keys. -/
def sameItems : List Value → List Value → Bool
  | [], [] => true
  | a :: as, b :: bs => a.same b && sameItems as bs
  | _, _ => false

end

mutual

/-- Whether a value can be a key: lists and mappings cannot, nor what holds them. -/
def isKey : Value → Bool
  | .list _ | .mapping _ => false
  | .tuple items => areKeys items
  | .variable _ _ fallback => fallback.isKey
  | .animation _ keyframes => keyframes.isKey
  | .scalar _ | .handle _ _ _ => true

/-- Whether every item can be a key. -/
def areKeys : List Value → Bool
  | [] => true
  | v :: rest => v.isKey && areKeys rest

end

/-- Sets a key: in its place if it is there already, else at the end. Keys are told apart by
`same`. -/
def insertBy (same : Value → Value → Bool) (k v : Value) :
    List (Value × Value) → List (Value × Value)
  | [] => [(k, v)]
  | e :: rest => if same e.1 k then (e.1, v) :: rest else e :: insertBy same k v rest

/-- Sets a key. -/
def insert (k v : Value) (entries : List (Value × Value)) : List (Value × Value) :=
  insertBy same k v entries

/-- Sets every key of the second mapping in the first. -/
def merge (entries more : List (Value × Value)) : List (Value × Value) :=
  more.foldl (fun acc e => insert e.1 e.2 acc) entries

/-- The value under a text key. -/
def get? (entries : List (Value × Value)) (key : String) : Option Value :=
  match entries with
  | [] => none
  | (k, v) :: rest => if k.text? = some key then some v else get? rest key

end Value
end Stylesheet
