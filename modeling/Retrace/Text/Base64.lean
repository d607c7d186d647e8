/-!
# Base 64

Four characters of the alphabet stand for three bytes. Characters outside of it
are passed over. The last group may be cut short and is then filled up by marks,
after which nothing is read; marks that fill up no group are passed over as well.
-/

namespace Retrace.Text.Base64

def valueOf? (c : Char) : Option Nat :=
  if 'A' ≤ c && c ≤ 'Z' then some (c.toNat - 'A'.toNat)
  else if 'a' ≤ c && c ≤ 'z' then some (c.toNat - 'a'.toNat + 26)
  else if '0' ≤ c && c ≤ '9' then some (c.toNat - '0'.toNat + 52)
  else if c = '+' then some 62
  else if c = '/' then some 63
  else none

/-- The bytes of a group of four values, or of as many as there are. -/
def groupBytes (values : List Nat) : List UInt8 :=
  let n := (values ++ List.replicate (4 - values.length) 0).foldl (fun n v => n * 64 + v) 0
  ([n / 65536, n / 256, n].take (values.length - 1)).map UInt8.ofNat

/-- Goes on inside a group, of which some values have been read and after which some
marks have been met. -/
def decodeFrom : List Nat → Nat → List Char → Option (List UInt8)
  | group, _, [] => if group = [] then some [] else none
  | group, marks, c :: rest =>
    if c = '=' then
      if group.length < 2 then decodeFrom group marks rest
      else if 4 ≤ group.length + marks + 1 then some (groupBytes group)
      else decodeFrom group (marks + 1) rest
    else
      match valueOf? c with
      | none => decodeFrom group marks rest
      | some v =>
        if group.length = 3 then (groupBytes (group ++ [v]) ++ ·) <$> decodeFrom [] 0 rest
        else decodeFrom (group ++ [v]) 0 rest

def decode? (s : List Char) : Option (List UInt8) := decodeFrom [] 0 s

end Retrace.Text.Base64
