import Retrace.Files.Tree
import Retrace.Json.Reader
import Retrace.Text.Utf8
import Retrace.Yaml.Load

/-!
# Documents in files

A document is read from a file as a text and from the text as data, in one of
two formats. Line ends are made uniform in between. Most causes of a failure lie
in the document itself; the others come from values that the formats allow but
that cannot be represented.
-/

namespace Retrace.Files.Document

inductive Cause where
  | unreadable (fault : Files.Fault)
  | encoding (fault : Text.Utf8.Fault)
  | json (fault : Json.Fault)
  | yaml (source : List Char) (fault : Yaml.Fault)
  deriving Repr

def Cause.message : Cause → String
  | unreadable fault => fault.message
  | encoding fault => fault.message
  | json fault => fault.message
  | yaml source fault => fault.message source

/-- Whether the document is at fault and has to be named. -/
def Cause.isOfDocument : Cause → Bool
  | unreadable fault => fault.cause != .nullCharacter
  | encoding _ => false
  | json (.found ..) => true
  | json (.tooManyDigits _) => false
  | yaml _ fault => fault.isComplaint

/-- A cause under a heading that names the document, if it is at fault. -/
def Cause.report (heading : String) (path : Path) (c : Cause) : String :=
  if c.isOfDocument then heading ++ ": " ++ path.toString ++ " — " ++ c.message else c.message

def readText (t : Tree) (p : Path) : Except Cause (List Char) := do
  let bytes ← (t.read p).mapError .unreadable
  let text ← (Text.Utf8.decode bytes).mapError .encoding
  return Text.normaliseBreaks text

def ofJson (text : List Char) : Except Cause Datum := (Json.read text).mapError .json

def ofYaml (text : List Char) : Except Cause Datum := (Yaml.load text).mapError (.yaml text)

end Retrace.Files.Document
