import Retrace.Literal.Loose
import Retrace.Literal.Options
import Retrace.Locator.Step
import Retrace.Recording.Record

/-!
# Why no script can be written

An action without a rule and a value without a literal carry their place in the
recording once it is known. A frame that cannot be addressed, a block mark
without its partner and an operation that is no call are broken promises of the
caller; the other faults come from values, selectors and unchecked actions.
-/

namespace Retrace.Script

inductive Fault where
  | unsupportedAction (kind : Datum) (index : Option Nat)
  | unsupportedValue (value : Datum) (index : Option Nat)
  | integerTooLong
  | locator (fault : Locator.ValueFault)
  | notACall
  | unaddressable (frame : Recording.Frame)
  | unmatchedBlock
  | tooFewItems (expected found : Nat)
  | tooManyItems (expected : Nat)
  | notUnpackable (kind : String)
  | noAttribute (kind field : String)
  | noLength (kind : String)
  | notIterable (kind : String)
  | notSubscriptable (kind : String)
  | noKey (key : Datum)
  | notText (position : Nat) (kind : String)
  | notJson (kind : String)
  | notAName (kind : String)
  | notSpreadable (kind : String)
  | notBytes
  | unordered (left right : String)
  deriving Repr

def Fault.ofLiteral : Literal.Fault → Fault
  | .unsupported value => .unsupportedValue value none
  | .tooLong => .integerTooLong

def Fault.ofJson : Json.WriteFault → Fault
  | .unwritable kind => .notJson kind
  | .notAName kind => .notAName kind
  | .tooLong => .integerTooLong

/-- Adds the place in the recording to the faults that carry one. -/
def Fault.placed (index : Nat) : Fault → Fault
  | .unsupportedAction kind _ => .unsupportedAction kind (some index)
  | .unsupportedValue value _ => .unsupportedValue value (some index)
  | fault => fault

/-- How a message names a place in the recording. -/
def placeText : Option Nat → String
  | some index => s!"（{index} 番目のアクション）"
  | none => ""

def frameText (f : Recording.Frame) : String :=
  "FrameDescription(" ++ ", ".intercalate (f.fields.map fun p => p.1 ++ "=" ++ p.2.shown) ++ ")"

def Fault.message : Fault → String
  | .unsupportedAction kind index => "未対応のアクション種別です: " ++ kind.shown ++ placeText index
  | .unsupportedValue value index =>
    "リテラルに変換できない値です: " ++ value.kindName ++ " " ++ value.shown ++ placeText index
  | .integerTooLong =>
    s!"Exceeds the limit ({Numeral.digitLimit} digits) for integer string conversion; "
      ++ "use sys.set_int_max_str_digits() to increase the limit"
  | .locator fault => fault.message
  | .notACall => "openPage はメソッド呼び出しに変換しません"
  | .unaddressable frame => "フレーム情報からアドレス指定方式を決定できません: " ++ frameText frame
  | .unmatchedBlock => "対応するブロック開始のない '\x7d' があります"
  | .tooFewItems expected found =>
    s!"not enough values to unpack (expected {expected}, got {found})"
  | .tooManyItems expected => s!"too many values to unpack (expected {expected})"
  | .notUnpackable kind => s!"cannot unpack non-iterable {kind} object"
  | .noAttribute kind field => s!"'{kind}' object has no attribute '{field}'"
  | .noLength kind => s!"object of type '{kind}' has no len()"
  | .notIterable kind => s!"'{kind}' object is not iterable"
  | .notSubscriptable kind => s!"'{kind}' object is not subscriptable"
  | .noKey key => key.shown
  | .notText position kind => s!"sequence item {position}: expected str instance, {kind} found"
  | .notJson kind => s!"Object of type {kind} is not JSON serializable"
  | .notAName kind => s!"keys must be str, int, float, bool or None, not {kind}"
  | .notSpreadable kind => s!"Value after * must be an iterable, not {kind}"
  | .notBytes => "startswith first arg must be bytes or a tuple of bytes, not str"
  | .unordered left right => s!"'>' not supported between instances of '{left}' and '{right}'"

end Retrace.Script
