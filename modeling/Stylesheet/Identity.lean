/-!
# Identities of call sites

A call site is known by the module and function it lies in and its offset there. `callSite` finds
the innermost one outside a package; a `Resolver` says where identities come from.
-/

namespace Stylesheet

/-- A call in progress. -/
structure Frame where
  module : String
  function : String
  offset : String
  deriving DecidableEq, Repr, Inhabited

namespace Frame

/-- The identity of a call site. -/
def identity (f : Frame) : String := f.module ++ ":" ++ f.function ++ "@" ++ f.offset

/-- Whether a call lies in a package: in its module, or in one below it. -/
def within (package : String) (f : Frame) : Bool :=
  f.module == package || (package ++ ".").toList.isPrefixOf f.module.toList

end Frame

/-- The identity of the innermost call outside a package; the frames go from the outermost to the
innermost. -/
def callSite (package : String) (frames : List Frame) : Option String :=
  (frames.reverse.find? fun f => !f.within package).map Frame.identity

/-- The package whose own calls are passed over. -/
def ownPackage : String := "stylemap"

/-- The call that asks for the identity, itself in the package. -/
def askingFrame (offset : String) : Frame :=
  { module := "stylemap.ledger", function := "caller_identity", offset }

/-- Where the identity of a registration comes from when none is given. -/
inductive Resolver where
  | absent
  | fixed (identity : Option String)
  | sequence (identities : List (Option String))
  | caller
  deriving DecidableEq, Repr, Inhabited

namespace Resolver

/-- The identity for a registration made from these frames, and what is left of the resolver. -/
def next (r : Resolver) (frames : List Frame) : Option String × Resolver :=
  match r with
  | .absent => (none, .absent)
  | .fixed identity => (identity, .fixed identity)
  | .sequence [] => (none, .sequence [])
  | .sequence (identity :: rest) => (identity, .sequence rest)
  | .caller => (callSite ownPackage frames, .caller)

end Resolver
end Stylesheet
