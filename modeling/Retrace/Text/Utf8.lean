/-!
# UTF-8

Decoding stops at the first sequence that is not well formed and says where it
starts, how many bytes belong to it and what is wrong with it. Overlong forms,
surrogates and code points past the last one are refused at their second byte.
-/

namespace Retrace.Text.Utf8

inductive Reason where
  | startByte
  | continuationByte
  | endOfData
  deriving DecidableEq, Repr

structure Fault where
  position : Nat
  width : Nat
  byte : UInt8
  reason : Reason
  deriving DecidableEq, Repr

def isContinuation (b : UInt8) : Bool := 0x80 ≤ b && b ≤ 0xbf

/-- The bytes that may follow the first byte of a longer sequence. -/
def isSecond (first b : UInt8) : Bool :=
  if first = 0xe0 then 0xa0 ≤ b && b ≤ 0xbf
  else if first = 0xed then 0x80 ≤ b && b ≤ 0x9f
  else if first = 0xf0 then 0x90 ≤ b && b ≤ 0xbf
  else if first = 0xf4 then 0x80 ≤ b && b ≤ 0x8f
  else isContinuation b

/-- The character whose code point has these bits, six to a continuation byte. -/
def assemble (lead : Nat) (continuations : List UInt8) : Char :=
  Char.ofNat (continuations.foldl (fun n b => n * 64 + b.toNat % 64) lead)

def decodeFrom (position : Nat) : List UInt8 → Except Fault (List Char)
  | [] => .ok []
  | a :: rest =>
    if a < 0x80 then
      (Char.ofNat a.toNat :: ·) <$> decodeFrom (position + 1) rest
    else if a < 0xc2 || 0xf4 < a then
      .error ⟨position, 1, a, .startByte⟩
    else
      match rest with
      | [] => .error ⟨position, 1, a, .endOfData⟩
      | b :: rest =>
        if !isSecond a b then
          .error ⟨position, 1, a, .continuationByte⟩
        else if a < 0xe0 then
          (assemble (a.toNat % 32) [b] :: ·) <$> decodeFrom (position + 2) rest
        else
          match rest with
          | [] => .error ⟨position, 2, a, .endOfData⟩
          | c :: rest =>
            if !isContinuation c then
              .error ⟨position, 2, a, .continuationByte⟩
            else if a < 0xf0 then
              (assemble (a.toNat % 16) [b, c] :: ·) <$> decodeFrom (position + 3) rest
            else
              match rest with
              | [] => .error ⟨position, 3, a, .endOfData⟩
              | d :: rest =>
                if !isContinuation d then
                  .error ⟨position, 3, a, .continuationByte⟩
                else
                  (assemble (a.toNat % 8) [b, c, d] :: ·) <$> decodeFrom (position + 4) rest

def decode (bytes : List UInt8) : Except Fault (List Char) := decodeFrom 0 bytes

def encode (s : List Char) : List UInt8 := (String.ofList s).toUTF8.toList

def Reason.message : Reason → String
  | startByte => "invalid start byte"
  | continuationByte => "invalid continuation byte"
  | endOfData => "unexpected end of data"

/-- The bytes that do not belong to a character, by their place or their range. -/
def Fault.place (f : Fault) : String :=
  if f.width = 1 then
    s!"byte 0x{String.ofList (Nat.toDigits 16 f.byte.toNat)} in position {f.position}"
  else s!"bytes in position {f.position}-{f.position + f.width - 1}"

def Fault.message (f : Fault) : String :=
  s!"'utf-8' codec can't decode {f.place}: {f.reason.message}"

theorem decodeFrom_ascii {position : Nat} {a : UInt8} (rest : List UInt8) (h : a < 0x80) :
    decodeFrom position (a :: rest)
      = (Char.ofNat a.toNat :: ·) <$> decodeFrom (position + 1) rest := by
  rw [decodeFrom.eq_def]
  simp [h]

end Retrace.Text.Utf8
