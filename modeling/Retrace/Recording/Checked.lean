import Retrace.Datum.Show
import Retrace.Recording.Modifier

/-!
# Checking data against a schema

A check accepts a value or rejects it with all violations it contains, each with
its place. Checks that stand side by side are all made, and their violations are
collected in order. Modifier keys that cannot even be looked through end the
whole check at once.
-/

namespace Retrace.Recording

inductive Problem where
  | missing
  | notText
  | notUtf8
  | notList
  | notModel (name : String)
  | notFields
  | notLiteral (choices : List String)
  | notInteger
  | notIntegerText
  | fractional
  | notFinite
  | integerTooLong
  | below (bound : Nat)
  | notNumber
  | notNumberText
  | notBoolean
  | notBooleanText
  | noTag
  | unknownTag (tag : String) (expected : List String)
  | unknownModifiers (names : List String)
  | frozen
  deriving DecidableEq, Repr

/-- A problem and the names and indices that lead to it. -/
structure Violation where
  location : List String
  problem : Problem
  deriving DecidableEq, Repr

inductive Checked (α : Type) where
  | accepted (value : α)
  | rejected (violations : List Violation)
  | broken (fault : Modifier.Fault)
  deriving Repr

namespace Checked

variable {α β : Type}

def map (f : α → β) : Checked α → Checked β
  | accepted a => accepted (f a)
  | rejected vs => rejected vs
  | broken fault => broken fault

/-- Two checks side by side; the second is made unless the first one breaks. -/
def apply (f : Checked (α → β)) (x : Unit → Checked α) : Checked β :=
  match f with
  | broken fault => broken fault
  | accepted f => (x ()).map f
  | rejected vs =>
    match x () with
    | accepted _ => rejected vs
    | rejected ws => rejected (vs ++ ws)
    | broken fault => broken fault

instance : Applicative Checked where
  pure := accepted
  map := map
  seq := apply

/-- Puts a name or an index in front of every place. -/
def within (part : String) : Checked α → Checked α
  | rejected vs => rejected (vs.map fun v => { v with location := part :: v.location })
  | x => x

def reject (problem : Problem) : Checked α := rejected [⟨[], problem⟩]

/-- A further condition on an accepted value. -/
def andThen (x : Checked α) (f : α → Checked β) : Checked β :=
  match x with
  | accepted a => f a
  | rejected vs => rejected vs
  | broken fault => broken fault

end Checked

/-- Choices between apostrophes: commas between them, and a word before the last. -/
def listChoices : List String → String
  | [] => ""
  | [a] => s!"'{a}'"
  | [a, b] => s!"'{a}' or '{b}'"
  | a :: rest => s!"'{a}', " ++ listChoices rest

def Problem.message : Problem → String
  | missing => "Field required"
  | notText => "Input should be a valid string"
  | notUtf8 => "Input should be a valid string, unable to parse raw data as a unicode string"
  | notList => "Input should be a valid list"
  | notModel name => s!"Input should be a valid dictionary or instance of {name}"
  | notFields => "Input should be a valid dictionary or object to extract fields from"
  | notLiteral choices => "Input should be " ++ listChoices choices
  | notInteger => "Input should be a valid integer"
  | notIntegerText => "Input should be a valid integer, unable to parse string as an integer"
  | fractional => "Input should be a valid integer, got a number with a fractional part"
  | notFinite => "Input should be a finite number"
  | integerTooLong => "Unable to parse input string as an integer, exceeded maximum size"
  | below bound => s!"Input should be greater than or equal to {bound}"
  | notNumber => "Input should be a valid number"
  | notNumberText => "Input should be a valid number, unable to parse string as a number"
  | notBoolean => "Input should be a valid boolean"
  | notBooleanText => "Input should be a valid boolean, unable to interpret input"
  | noTag => "Unable to extract tag using discriminator 'name'"
  | unknownTag tag expected =>
    s!"Input tag '{tag}' found using 'name' does not match any of the expected tags: "
      ++ ", ".intercalate (expected.map fun t => s!"'{t}'")
  | unknownModifiers names => "Value error, " ++ (Modifier.Fault.unknown names).message
  | frozen => "Instance is frozen"

def Violation.message (v : Violation) : String :=
  ".".intercalate v.location ++ ": " ++ v.problem.message

def violationsMessage (violations : List Violation) : String :=
  "; ".intercalate (violations.map Violation.message)

end Retrace.Recording
