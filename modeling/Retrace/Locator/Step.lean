import Retrace.Literal.Value
import Retrace.Locator.Chain
import Retrace.Locator.Role

/-!
# Locator expressions

Each part of a selector becomes one step of a chain of calls: a choice by
position, a search by role, text or attribute, a filter, or a search by the
part itself where no other engine can read it.
-/

namespace Retrace.Locator

/-- What a search by text looks at. -/
inductive Finder where
  | text
  | label
  | placeholder
  | altText
  | title
  | testId
  deriving DecidableEq, Repr

inductive Step where
  | first
  | last
  | nth (index : List Char)
  | role (name : List Char) (attributes : List Attribute)
  | find (finder : Finder) (matcher : Matcher)
  | filter (negated : Bool) (matcher : Matcher)
  | locator (selector : List Char)
  deriving DecidableEq, Repr

def Finder.method : Finder → String
  | text => "get_by_text"
  | label => "get_by_label"
  | placeholder => "get_by_placeholder"
  | altText => "get_by_alt_text"
  | title => "get_by_title"
  | testId => "get_by_test_id"

/-- The attributes that have a search of their own. -/
def Finder.ofAttribute? (name : List Char) : Option Finder :=
  if name = "data-testid".toList then some .testId
  else if name = "placeholder".toList then some .placeholder
  else if name = "alt".toList then some .altText
  else if name = "title".toList then some .title
  else none

/-- What stands before and after the first equals sign. -/
def splitEngine (part : List Char) : List Char × List Char :=
  (part.takeWhile (· != '='), (part.dropWhile (· != '=')).drop 1)

/-- A closing bracket at the end of the value. -/
def closes (rest : List Char) : Bool := rest.head? = some ']' && atEnd (rest.drop 1)

/-- The value of a quoted attribute, flag included. -/
def quotedAttribute? (s : List Char) : Option (List Char) :=
  match s with
  | '\x22' :: rest =>
    match takeQuoted rest with
    | some (body, after) =>
      let (_, behind) := takeFlag after
      if closes behind then
        some ('\x22' :: body ++ '\x22' :: after.take (after.length - behind.length))
      else none
    | none => none
  | _ => none

/-- The value of an attribute that is a pattern on one line. -/
def patternAttribute? (s : List Char) : Option (List Char) :=
  let s := dropFinalBreak s
  match s.getLast? with
  | some ']' =>
    match patternParts? s.dropLast with
    | some (body, _) =>
      if body.contains '\n' || s.dropLast.getLast? = some '\n' then none else some s.dropLast
    | none => none
  | _ => none

/-- The name and raw value of a body that is one attribute in brackets. -/
def attributeBody? : List Char → Option (List Char × List Char)
  | '[' :: s =>
    match takeName s with
    | some (name, s) =>
      ((quotedAttribute? s).orElse fun _ => patternAttribute? s).map fun value => (name, value)
    | none => none
  | _ => none

def readRole [Text.View] (body : List Char) : Except ValueFault Step := do
  let found ← (attributes body).mapM readAttribute
  return .role (body.takeWhile (· != '[')) found

def readFind [Text.View] (finder : Finder) (raw : List Char) : Except ValueFault Step :=
  .find finder <$> (readMatcher raw).mapError .json

def nthMark : List Char := "nth=".toList

def readNth (index : List Char) : Step :=
  if index = ['0'] then .first
  else if index = ['-', '1'] then .last
  else .nth index

/-- The step for a part whose engine and body are known. -/
def readEngine [Text.View] (part body : List Char) (engine : String) : Except ValueFault Step :=
  match engine with
  | "internal:role" => readRole body
  | "internal:text" => readFind .text body
  | "internal:label" => readFind .label body
  | "internal:has-text" => .filter false <$> (readMatcher body).mapError .json
  | "internal:has-not-text" => .filter true <$> (readMatcher body).mapError .json
  | "internal:testid" | "internal:attr" =>
    match attributeBody? body with
    | some (name, value) =>
      match Finder.ofAttribute? name with
      | some finder => readFind finder value
      | none => .ok (.locator part)
    | none => .ok (.locator part)
  | _ => .ok (.locator part)

def readPart [Text.View] (part : List Char) : Except ValueFault Step :=
  if nthMark.isPrefixOf part then .ok (readNth (part.drop nthMark.length))
  else
    let (engine, body) := splitEngine part
    readEngine part body (String.ofList engine)

def call (method : String) (arguments : List (List Char)) : List Char :=
  method.toList ++ '(' :: Literal.commaSeparated arguments ++ [')']

def Step.write : Step → List Char
  | .first => "first".toList
  | .last => "last".toList
  | .nth index => call "nth" [index]
  | .role name attributes =>
    call "get_by_role" (Literal.quote name :: attributes.flatMap Attribute.write)
  | .find finder matcher =>
    call finder.method
      (matcher.write :: if matcher.isExact && finder != .testId then [exactArgument] else [])
  | .filter negated matcher =>
    call "filter" [(if negated then "has_not_text=" else "has_text=").toList ++ matcher.write]
  | .locator selector => call "locator" [Literal.quote selector]

theorem Step.write_find (finder : Finder) (matcher : Matcher) :
    (find finder matcher).write
      = call finder.method
        (matcher.write :: if matcher.isExact && finder != .testId then [exactArgument] else []) :=
  rfl

theorem Step.write_filter (negated : Bool) (matcher : Matcher) :
    (filter negated matcher).write
      = call "filter"
        [(if negated then "has_not_text=" else "has_text=").toList ++ matcher.write] := rfl

theorem Step.write_role (name : List Char) (attributes : List Attribute) :
    (role name attributes).write
      = call "get_by_role" (Literal.quote name :: attributes.flatMap Attribute.write) := rfl

def readSteps [Text.View] (selector : List Char) : Except ValueFault (List Step) :=
  (parts selector).mapM readPart

/-- The locator expression of a selector. -/
def ofSelector [Text.View] (selector : List Char) : Except ValueFault (List Char) := do
  let steps ← readSteps selector
  return ['.'].intercalate (steps.map Step.write)

/-- The one language that locator expressions are written in. -/
def language : String := "python"

inductive Fault where
  | unknownLanguage (language : String)
  | value (fault : ValueFault)
  deriving DecidableEq, Repr

def Fault.message : Fault → String
  | .unknownLanguage language => "未対応の言語です: " ++ language
  | .value fault => fault.message

def ofSelectorIn [Text.View] (target : String) (selector : List Char) : Except Fault (List Char) :=
  if target = language then (ofSelector selector).mapError .value
  else .error (.unknownLanguage target)

theorem ofSelectorIn_language [Text.View] (selector : List Char) :
    ofSelectorIn language selector = (ofSelector selector).mapError .value := by
  simp [ofSelectorIn]

end Retrace.Locator
