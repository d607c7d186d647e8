import Retrace.Json.Writer

/-!
# Any datum between quotation marks

A text is quoted as ever. Of any other datum the JSON text is taken, whose first
and last characters give way to the marks; the marks within are escaped, whether
they were before or not.
-/

namespace Retrace.Literal

/-- Takes away the backslash before each quotation mark. -/
def bareMarks : List Char → List Char
  | '\\' :: '\x22' :: rest => '\x22' :: bareMarks rest
  | c :: rest => c :: bareMarks rest
  | [] => []

def quoteLoosely [Text.View] : Datum → Except Json.WriteFault (List Char)
  | .text s => .ok (quote s.toList)
  | .brokenText points => .ok (quote (points.map Text.viewed))
  | d => do
    let s ← Json.write d
    return '\x22' :: escapeMarks (bareMarks (s.drop 1).dropLast) ++ ['\x22']

end Retrace.Literal
