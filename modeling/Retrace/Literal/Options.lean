import Retrace.Datum.Order
import Retrace.Literal.Value
import Retrace.Naming

/-!
# Keyword arguments

Options that hold nothing are left out. The others are sorted by their names
and only then renamed, so the order is that of the names as given.
-/

namespace Retrace.Literal

structure Options.Layout where
  hasArguments : Bool := false
  asDictionary : Bool := false
  separator : List Char := [',', ' ']

abbrev Options := List (String × Datum)

namespace Options

/-- The options that hold something, sorted by name. -/
def canonical (options : Options) : Options :=
  (options.filter fun o => !o.2.isNone).mergeSort fun a b => a.1 ≤ b.1

def item [Text.View] (layout : Layout) (option : String × Datum) : Except Fault (List Char) := do
  let name := Naming.snakeCase option.1.toList
  let value ← ofDatum option.2
  return if layout.asDictionary then '\x22' :: name ++ "\x22: ".toList ++ value
    else name ++ '=' :: value

def write [Text.View] (layout : Layout) (options : Options) : Except Fault (List Char) :=
  match options.canonical with
  | [] => .ok []
  | sorted => do
    let items ← sorted.mapM (item layout)
    return (if layout.hasArguments then [',', ' '] else []) ++ layout.separator.intercalate items

/-- What is wrong with the keys of a dictionary given as options. -/
inductive KeyFault where
  | unordered (pair : Datum.Unordered)
  | notText (kind : String)
  deriving DecidableEq, Repr

def KeyFault.message : KeyFault → String
  | .unordered pair => s!"'<' not supported between instances of '{pair.left}' and '{pair.right}'"
  | .notText "bytes" => "cannot use a string pattern on a bytes-like object"
  | .notText kind => s!"expected string or bytes-like object, got '{kind}'"

/-- The entries that hold something, if all of their keys are texts. -/
def ofEntries (entries : List (Datum × Datum)) : Except KeyFault Options :=
  let entries := entries.filter fun e => !e.2.isNone
  match entries.mapM fun e => e.1.text?.map (·, e.2) with
  | some options => .ok options
  | none =>
    match Datum.sort (entries.map (·.1)) with
    | .error pair => .error (.unordered pair)
    | .ok keys => .error (.notText ((keys.head?.map Datum.kindName).getD ""))

end Options

end Retrace.Literal
