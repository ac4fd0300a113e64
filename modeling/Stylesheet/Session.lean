import Stylesheet.Context
import Stylesheet.Identity
/-!
# Sessions

A session is a context at work: calls are made on it one after the other, it asks a resolver for
the identities of call sites, and it writes to outlets.
-/

namespace Stylesheet

/-- A context, where its identities come from and what it writes to. -/
structure Session where
  context : Context := {}
  resolver : Resolver := .absent
  outlets : Outlets := {}
  deriving Repr, Inhabited

/-- A call on a context. Where a registration gives no identity, the calls in progress say where
it is made. -/
inductive Call where
  | style (name : String) (styles : Value) (identity : Option String) (site : List Frame)
  | namedAnimation (name : String) (keyframes : Value) (arguments : List (String × Value))
      (identity : Option String) (site : List Frame)
  | variable (property : String) (name : Option String) (identity : Option String)
      (site : List Frame)
  | fontFace (definition : Value)
  | cssRules (rules : Value)
  | getCss
  | updateStylesheet (sink : Option Sink)
  | reset
  | requireStylesheet (enable : Bool)
  | setResolver (resolver : Resolver)
  | classes (collection : Value)
  deriving Repr, Inhabited

/-- What a call answers. -/
inductive Reply where
  | done
  | text (s : String)
  | handle (h : Handle)
  | animation (d : AnimationDefinition)
  | variable (v : Variable)
  deriving Repr, Inhabited

namespace Session

/-- A session on a new context. Identity-aware contexts ask the call site unless told otherwise. -/
def start (settings : Settings) (sink : Option Sink) (resolver : Resolver) (outlets : Outlets) :
    Session :=
  { context := .new settings sink,
    resolver := if resolver = .absent ∧ settings.identityAware then .caller else resolver,
    outlets := match sink with
      | none => outlets
      | some s => outlets.prepare s }

/-- The identity of a registration, and the session after asking for it if need be. -/
def identity (s : Session) (explicit : Option String) (site : List Frame) :
    Option String × Session :=
  if s.context.asksForIdentity explicit then
    let r := s.resolver.next site
    (s.context.identity explicit r.1, { s with resolver := r.2 })
  else (s.context.identity explicit none, s)

/-- The result of a call that changes the context only when it succeeds. -/
def settled {α : Type} (s : Session) (reply : α → Reply) (x : Logged (α × Context)) :
    Logged Reply × Session :=
  match x.result with
  | .ok (a, c) => (⟨x.log, .ok (reply a)⟩, { s with context := c })
  | .error e => (⟨x.log, .error e⟩, s)

/-- Makes a call. -/
def perform (s : Session) : Call → Logged Reply × Session
  | .style name styles explicit site =>
    let (identity, s) := s.identity explicit site
    s.settled .handle (s.context.registerStyle name styles identity)
  | .namedAnimation name keyframes arguments explicit site =>
    if AnimationDefinition.argumentsExist arguments then
      let (identity, s) := s.identity explicit site
      let x := s.context.namedAnimation name keyframes arguments identity
      match x.result with
      | .ok (definition, c) => (⟨x.log, definition.map .animation⟩, { s with context := c })
      | .error e => (⟨x.log, .error e⟩, s)
    else (.fail .badArguments, s)
  | .variable property name explicit site =>
    let (identity, s) := s.identity explicit site
    s.settled .variable (s.context.registerVariable property name identity)
  | .fontFace definition => s.settled .handle (.ofExcept (s.context.registerFontFace definition))
  | .cssRules rules => (pure .done, { s with context := s.context.addRules rules })
  | .getCss => (do return .text (← s.context.getCss), s)
  | .updateStylesheet sink =>
    let outlets := match sink with
      | none => s.outlets
      | some sink => s.outlets.prepare sink
    let (x, outlets) := s.context.updateStylesheet sink outlets
    { s with outlets }.settled .text x
  | .reset => (pure .done, { s with context := s.context.reset })
  | .requireStylesheet enable =>
    (pure .done, { s with context := { s.context with requireStylesheet := enable } })
  | .setResolver resolver => (pure .done, { s with resolver })
  | .classes collection =>
    (.ofExcept (do return .text (← s.context.classes collection)), s)

end Session
end Stylesheet
