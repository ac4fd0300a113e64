import Stylesheet.Failure
/-!
# Log records

`Logged` is a computation that may fail and that leaves records on the way; records left before a
failure are kept.
-/

namespace Stylesheet

/-! ## Records -/

/-- How much a record matters. -/
inductive Level where
  | debug
  | info
  | warning
  deriving DecidableEq, Repr, Inhabited

/-- The name of a level. -/
def Level.text : Level → String
  | .debug => "DEBUG"
  | .info => "INFO"
  | .warning => "WARNING"

/-- What is worth recording. -/
inductive LogRecord where
  | ignoredKey (key keyframes offset : String)
  | registered (name : String)
  | reregistered (name identity : String)
  | flushed (styles keyframes ruleSets : Nat)
  | wroteFile (bytes : Nat) (path : String)
  deriving DecidableEq, Repr, Inhabited

namespace LogRecord

/-- The level of a record. -/
def level : LogRecord → Level
  | .ignoredKey _ _ _ => .warning
  | .wroteFile _ _ => .info
  | .registered _ | .reregistered _ _ | .flushed _ _ _ => .debug

/-- The part of the program that a record comes from. -/
def source : LogRecord → String
  | .ignoredKey _ _ _ => "stylemap.compiler"
  | .registered _ | .reregistered _ _ => "stylemap.ledger"
  | .flushed _ _ _ => "stylemap.context"
  | .wroteFile _ _ => "stylemap.sinks"

/-- The wording of a record. -/
def message : LogRecord → String
  | .ignoredKey key keyframes offset =>
    "Ignoring " ++ Text.quoted key ++ " inside keyframes " ++ keyframes ++ " at " ++ offset ++
      ": only declarations are supported"
  | .registered name => "Registered " ++ name
  | .reregistered name identity => "Re-registered " ++ name ++ " from " ++ identity
  | .flushed styles keyframes ruleSets =>
    "Flushed stylesheet: " ++ toString styles ++ " styles, " ++ toString keyframes ++
      " keyframes, " ++ toString ruleSets ++ " rule sets"
  | .wroteFile bytes path => "Wrote " ++ toString bytes ++ " bytes of CSS to " ++ path

/-- A record on a line of its own. -/
def line (r : LogRecord) : String := r.level.text ++ " " ++ r.source ++ ": " ++ r.message

end LogRecord

/-! ## Computations that log -/

/-- The records left behind and the result. -/
structure Logged (α : Type) where
  log : List LogRecord
  result : Except Failure α

namespace Logged

/-- A result without records. -/
def ofExcept {α : Type} (result : Except Failure α) : Logged α := ⟨[], result⟩

/-- Leaves one record. -/
def record (r : LogRecord) : Logged Unit := ⟨[r], .ok ()⟩

/-- Goes on after a success; after a failure there is nothing more. -/
def bind {α β : Type} (x : Logged α) (f : α → Logged β) : Logged β :=
  match x.result with
  | .ok a =>
    let y := f a
    ⟨x.log ++ y.log, y.result⟩
  | .error e => ⟨x.log, .error e⟩

instance : Monad Logged where
  pure a := ⟨[], .ok a⟩
  bind := bind

instance : MonadLift (Except Failure) Logged where
  monadLift := ofExcept

/-- Fails for a reason. -/
def fail {α : Type} (e : Failure) : Logged α := ofExcept (.error e)

/-- Whether two computations leave the same records and come to the same. -/
def agrees {α : Type} [BEq α] (x y : Logged α) : Bool :=
  x.log == y.log && match x.result, y.result with
    | .ok a, .ok b => a == b
    | .error d, .error e => d == e
    | _, _ => false

/-- The records that two computations both leave, up to the first that differs. -/
def sharedLog {α : Type} (x y : Logged α) : List LogRecord :=
  ((x.log.zip y.log).takeWhile fun r => r.1 == r.2).map (·.1)

/-- Does the same to each item in order. -/
def forEach {α β : Type} (f : α → Logged β) : List α → Logged (List β)
  | [] => pure []
  | a :: rest => do
    let b ← f a
    let bs ← forEach f rest
    return b :: bs

end Logged
end Stylesheet
