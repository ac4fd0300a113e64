import Stylesheet.Text.Quoted
/-!
# Failures

Everything that can go wrong, by cause, and the wording of those failures that have one. A failure
may say where in a style tree it arose.
-/

namespace Stylesheet

/-! ## Places -/

/-- A place in a style tree. -/
structure Place where
  selector : Option String := none
  property : Option String := none
  deriving DecidableEq, Repr, Inhabited

namespace Place

/-- Text that is there and not empty. -/
def given (s : Option String) : Option String := s.filter (· ≠ "")

/-- The place in words. -/
def describe (p : Place) : String :=
  match given p.selector, given p.property with
  | some s, some q => "in " ++ s ++ " \x7b " ++ q ++ " \x7d"
  | some s, none => "in " ++ s
  | none, some q => "in property " ++ q
  | none, none => "in <inline styles>"

/-- A message under the place it is about. -/
def head (p : Option Place) (message : String) : String :=
  match p with
  | some p => p.describe ++ "\n" ++ message
  | none => message

end Place

/-! ## Rejected fields -/

/-- A step to the field that was rejected. -/
inductive Step where
  | field (name : String)
  | index (n : Int)
  deriving DecidableEq, Repr, Inhabited

/-- Why a field was rejected. -/
inductive Rejection where
  | notText
  | notWhole
  | notNumber
  | unknownField
  | keyNotText
  | unreadableSwitch
  | notSwitch
  deriving DecidableEq, Repr, Inhabited

/-- A rejected field: the way to it and the reason. -/
structure Issue where
  path : List Step
  reason : Rejection
  deriving DecidableEq, Repr, Inhabited

/-! ## Failures -/

/-- What is wrong with a file that is to be read or written. -/
inductive FileFault where
  | missing
  | isDirectory
  | notDirectory
  | alreadyThere
  deriving DecidableEq, Repr, Inhabited

/-- A cause of failure. -/
inductive Failure where
  /-- A value of the property holds lists nested this deep. -/
  | nesting (property : String) (depth : Nat)
  /-- A variable is set to a value that refers to it. -/
  | selfReference (name : String)
  /-- A class is asked for before its style has reached the stylesheet. -/
  | unrendered (name : String)
  /-- A call site registers again before its first registration has reached the stylesheet. -/
  | duplicate (identity name : String)
  /-- A value of this kind has no class names. -/
  | noClassNames (kind : String)
  /-- A font face does not say which family it belongs to. -/
  | missingFontFamily
  /-- Fields of an animation or of settings were rejected. -/
  | rejected (issues : List Issue)
  /-- A style node, a keyframe set or a font face is no mapping. -/
  | notMapping
  /-- A key of a mapping is not text where text is needed. -/
  | keyNotText
  /-- The name of a CSS function is not text. -/
  | functionNotText
  /-- A value cannot be gone through item by item. -/
  | notIterable
  /-- An entry does not have exactly two parts. -/
  | notPair
  /-- A position lies outside a list. -/
  | outOfRange
  /-- A collection is asked for an entry that only a mapping could have. -/
  | noEntries
  /-- A key of a mapping is a list or a mapping. -/
  | unhashable
  /-- A call gives an argument that does not exist, or leaves out one that is needed. -/
  | badArguments
  /-- A name stands for nothing. -/
  | unknownName (name : String)
  /-- A file cannot be read or written. -/
  | file (fault : FileFault)
  /-- A settings file is not well-formed. -/
  | malformedSettings
  /-- A rules file is not well-formed. -/
  | malformedRules
  /-- A code stands for no character. -/
  | notCharacter (code : Nat)
  /-- A value is part of itself. -/
  | endless
  /-- A module is named by nothing. -/
  | emptyModuleName
  /-- A module is named relative to no package. -/
  | relativeModuleName
  /-- A number is written with no digits. -/
  | noDigits
  /-- A whole number has more digits than can be read or written. -/
  | tooManyDigits
  deriving DecidableEq, Repr, Inhabited

namespace Failure

/-- The wording for a style that has not reached the stylesheet. -/
def unrenderedText (name : String) : String :=
  "'" ++ name ++ "' style is being used, but hasn't been added to the stylesheet."

/-- The wording for a second registration from one call site. -/
def duplicateText (identity name : String) : String :=
  "'" ++ name ++ "' was registered twice from " ++ Text.quoted identity ++
    " before being added to the stylesheet."

/-- The wording for lists nested too deep, under the property they belong to. -/
def nestingText (property : String) (depth : Int) : String :=
  Place.head (some { property := some property })
    ("Multi-value properties support at most 2 levels of lists, found " ++ toString depth ++ ".")

/-- The wording for a variable that is set to a value referring to it. -/
def selfReferenceText (name : String) : String :=
  Place.head (some { property := some name })
    ("Variable " ++ name ++ " cannot be set to a value referencing itself.")

/-- The wording of a failure, for those that have one. -/
def message? : Failure → Option String
  | .nesting property depth => some (nestingText property depth)
  | .selfReference name => some (selfReferenceText name)
  | .unrendered name => some (unrenderedText name)
  | .duplicate identity name => some (duplicateText identity name)
  | .noClassNames kind => some ("Cannot resolve class names from " ++ kind)
  | .missingFontFamily => some "Font face definitions need a fontFamily"
  | _ => none

/-- Whether a failure is about styles and their use, and is reported to the user as such. -/
def isStyleFailure : Failure → Bool
  | .nesting _ _ | .selfReference _ | .unrendered _ | .duplicate _ _ => true
  | _ => false

/-- What is made of numbers, unless one of them is too long. -/
def unlessTooLong {α : Type} (tooLong : Bool) (a : α) : Except Failure α :=
  if tooLong then .error .tooManyDigits else .ok a

@[simp] theorem unlessTooLong_false {α : Type} (a : α) : unlessTooLong false a = .ok a := rfl

@[simp] theorem unlessTooLong_true {α : Type} (a : α) :
    unlessTooLong true a = .error .tooManyDigits := rfl

@[simp] theorem map_unlessTooLong {α β : Type} (f : α → β) (tooLong : Bool) (a : α) :
    f <$> unlessTooLong tooLong a = unlessTooLong tooLong (f a) := by
  cases tooLong <;> rfl

theorem unlessTooLong_eq_ok {α : Type} {tooLong : Bool} {a b : α} :
    unlessTooLong tooLong a = .ok b ↔ tooLong = false ∧ a = b := by
  cases tooLong <;> simp

/-- Two steps succeed if the first does and the second does with what the first gives. -/
theorem bind_eq_ok {α β : Type} {x : Except Failure α} {f : α → Except Failure β} {b : β} :
    x >>= f = .ok b ↔ ∃ a, x = .ok a ∧ f a = .ok b := by
  cases x <;> simp [bind, Except.bind]

theorem map_eq_error {α β : Type} {f : α → β} {x : Except Failure α} {e : Failure} :
    x.map f = .error e ↔ x = .error e := by
  cases x <;> simp [Except.map]

end Failure
end Stylesheet
