import Mathlib.Tactic.Common
import Retrace.Text.Utf8

/-!
# UTF-8 is read back

The bytes of a text are read as this text, and bytes that are read are those of what is read.
So bytes are refused exactly if there is no text that they are the bytes of.

Each character has one to four bytes. The first one gives their number and the highest bits
of the code point, and each of the others six bits more.
-/

namespace Retrace.Text.Utf8

theorem toList_loop_eq (bytes : ByteArray) (i : Nat) (before : List UInt8) :
    ByteArray.toList.loop bytes i before = before.reverse ++ bytes.data.toList.drop i := by
  fun_induction ByteArray.toList.loop bytes i before with
  | case1 i before hi ih =>
    have hlength : i < bytes.data.toList.length := by simpa using hi
    have hget : bytes.get! i = bytes.data.toList[i] := by
      simpa [ByteArray.get!] using getElem!_pos bytes.data i hlength
    rw [ih, List.drop_eq_getElem_cons hlength, hget]
    simp
  | case2 i before hi =>
    have hlength : bytes.data.toList.length ≤ i := by simpa using hi
    rw [List.drop_eq_nil_of_le hlength, List.append_nil]

theorem encode_eq_flatMap (s : List Char) : encode s = s.flatMap String.utf8EncodeChar := by
  rw [encode, ByteArray.toList, toList_loop_eq, String.toUTF8_eq_toByteArray,
    String.toByteArray_ofList, List.utf8Encode, List.toList_data_toByteArray]
  rfl

/-! ## Characters -/

section

variable {a b c d : UInt8}

theorem isContinuation_iff : isContinuation b = true ↔ 0x80 ≤ b.toNat ∧ b.toNat < 0xc0 := by
  simp only [isContinuation, UInt8.le_iff_toNat_le, Bool.and_eq_true, decide_eq_true_eq,
    UInt8.reduceToNat]
  omega

theorem isSecond_iff :
    isSecond a b = true ↔ 0x80 ≤ b.toNat ∧ b.toNat < 0xc0
      ∧ (a.toNat = 0xe0 → 0xa0 ≤ b.toNat) ∧ (a.toNat = 0xed → b.toNat < 0xa0)
      ∧ (a.toNat = 0xf0 → 0x90 ≤ b.toNat) ∧ (a.toNat = 0xf4 → b.toNat < 0x90) := by
  rw [isSecond]
  simp only [← UInt8.toNat_inj, UInt8.reduceToNat]
  split_ifs
  all_goals
    simp only [isContinuation_iff, UInt8.le_iff_toNat_le, Bool.and_eq_true, decide_eq_true_eq,
      UInt8.reduceToNat]
    omega

end

/-- The bytes of one character, and the character. -/
inductive IsCharacter : List UInt8 → Char → Prop
  | one {a : UInt8} (ha : a.toNat < 0x80) : IsCharacter [a] (Char.ofNat a.toNat)
  | two {a b : UInt8} (ha : 0xc2 ≤ a.toNat ∧ a.toNat < 0xe0) (hb : isSecond a b = true) :
    IsCharacter [a, b] (assemble (a.toNat % 32) [b])
  | three {a b c : UInt8} (ha : 0xe0 ≤ a.toNat ∧ a.toNat < 0xf0) (hb : isSecond a b = true)
    (hc : isContinuation c = true) : IsCharacter [a, b, c] (assemble (a.toNat % 16) [b, c])
  | four {a b c d : UInt8} (ha : 0xf0 ≤ a.toNat ∧ a.toNat < 0xf5) (hb : isSecond a b = true)
    (hc : isContinuation c = true) (hd : isContinuation d = true) :
    IsCharacter [a, b, c, d] (assemble (a.toNat % 8) [b, c, d])

variable {bytes rest : List UInt8} {char : Char} {s : List Char}

/-- Bytes are the ones of a character if they are its bits, six to each but the first. -/
theorem utf8EncodeChar_ofNat {n : Nat} (h : n.isValidChar) :
    String.utf8EncodeChar (Char.ofNat n) =
      if n < 0x80 then [UInt8.ofNat n]
      else if n < 0x800 then [UInt8.ofNat (n / 64 % 0x20 + 0xc0), UInt8.ofNat (n % 64 + 0x80)]
      else if n < 0x10000 then
        [UInt8.ofNat (n / 4096 % 0x10 + 0xe0), UInt8.ofNat (n / 64 % 64 + 0x80),
          UInt8.ofNat (n % 64 + 0x80)]
      else
        [UInt8.ofNat (n / 262144 % 8 + 0xf0), UInt8.ofNat (n / 4096 % 64 + 0x80),
          UInt8.ofNat (n / 64 % 64 + 0x80), UInt8.ofNat (n % 64 + 0x80)] := by
  have hn : (Char.ofNat n).val.toNat = n := by
    rw [Char.ofNat, dif_pos h]
    rfl
  simp only [String.utf8EncodeChar, hn, ← Nat.lt_succ_iff]

theorem ofNat_eq {n : Nat} {a : UInt8} (h : n = a.toNat) : UInt8.ofNat n = a := by
  rw [h, UInt8.ofNat_toNat]

theorem IsCharacter.utf8EncodeChar_eq (h : IsCharacter bytes char) :
    String.utf8EncodeChar char = bytes := by
  cases h with
  | one ha => rw [utf8EncodeChar_ofNat (.inl (by omega)), if_pos ha, UInt8.ofNat_toNat]
  | two ha hb =>
    rw [isSecond_iff] at hb
    simp only [assemble, List.foldl_cons, List.foldl_nil]
    rw [utf8EncodeChar_ofNat (.inl (by omega)), if_neg (by omega), if_pos (by omega)]
    simp only [List.cons.injEq, and_true]
    exact ⟨ofNat_eq (by omega), ofNat_eq (by omega)⟩
  | three ha hb hc =>
    rw [isSecond_iff] at hb
    rw [isContinuation_iff] at hc
    simp only [assemble, List.foldl_cons, List.foldl_nil]
    rw [utf8EncodeChar_ofNat (by unfold Nat.isValidChar; omega), if_neg (by omega),
      if_neg (by omega), if_pos (by omega)]
    simp only [List.cons.injEq, and_true]
    exact ⟨ofNat_eq (by omega), ofNat_eq (by omega), ofNat_eq (by omega)⟩
  | four ha hb hc hd =>
    rw [isSecond_iff] at hb
    rw [isContinuation_iff] at hc hd
    simp only [assemble, List.foldl_cons, List.foldl_nil]
    rw [utf8EncodeChar_ofNat (by unfold Nat.isValidChar; omega), if_neg (by omega),
      if_neg (by omega), if_neg (by omega)]
    simp only [List.cons.injEq, and_true]
    exact ⟨ofNat_eq (by omega), ofNat_eq (by omega), ofNat_eq (by omega), ofNat_eq (by omega)⟩

theorem isCharacter_utf8EncodeChar (char : Char) :
    IsCharacter (String.utf8EncodeChar char) char := by
  obtain ⟨n, hn, rfl⟩ : ∃ n : Nat, n.isValidChar ∧ Char.ofNat n = char :=
    ⟨char.toNat, char.valid, Char.ofNat_toNat char⟩
  have hbyte {m : Nat} (hm : m < 256) : (UInt8.ofNat m).toNat = m := UInt8.toNat_ofNat_of_lt' hm
  rw [utf8EncodeChar_ofNat hn]
  unfold Nat.isValidChar at hn
  split_ifs with hone htwo hthree
  · have ha := hbyte (m := n) (by omega)
    have hchar := IsCharacter.one (a := UInt8.ofNat n) (by omega)
    rwa [ha] at hchar
  · have ha := hbyte (m := n / 64 % 0x20 + 0xc0) (by omega)
    have hb := hbyte (m := n % 64 + 0x80) (by omega)
    have hchar := IsCharacter.two (a := UInt8.ofNat (n / 64 % 0x20 + 0xc0))
      (b := UInt8.ofNat (n % 64 + 0x80)) (by omega) (isSecond_iff.mpr (by omega))
    have hcode : (n / 64 % 0x20 + 0xc0) % 32 * 64 + (n % 64 + 0x80) % 64 = n := by omega
    rwa [assemble, List.foldl_cons, List.foldl_nil, ha, hb, hcode] at hchar
  · have ha := hbyte (m := n / 4096 % 0x10 + 0xe0) (by omega)
    have hb := hbyte (m := n / 64 % 64 + 0x80) (by omega)
    have hc := hbyte (m := n % 64 + 0x80) (by omega)
    have hchar := IsCharacter.three (a := UInt8.ofNat (n / 4096 % 0x10 + 0xe0))
      (b := UInt8.ofNat (n / 64 % 64 + 0x80)) (c := UInt8.ofNat (n % 64 + 0x80)) (by omega)
      (isSecond_iff.mpr (by omega)) (isContinuation_iff.mpr (by omega))
    have hcode : ((n / 4096 % 0x10 + 0xe0) % 16 * 64 + (n / 64 % 64 + 0x80) % 64) * 64
        + (n % 64 + 0x80) % 64 = n := by omega
    rwa [assemble, List.foldl_cons, List.foldl_cons, List.foldl_nil, ha, hb, hc, hcode] at hchar
  · have ha := hbyte (m := n / 262144 % 8 + 0xf0) (by omega)
    have hb := hbyte (m := n / 4096 % 64 + 0x80) (by omega)
    have hc := hbyte (m := n / 64 % 64 + 0x80) (by omega)
    have hd := hbyte (m := n % 64 + 0x80) (by omega)
    have hchar := IsCharacter.four (a := UInt8.ofNat (n / 262144 % 8 + 0xf0))
      (b := UInt8.ofNat (n / 4096 % 64 + 0x80)) (c := UInt8.ofNat (n / 64 % 64 + 0x80))
      (d := UInt8.ofNat (n % 64 + 0x80)) (by omega) (isSecond_iff.mpr (by omega))
      (isContinuation_iff.mpr (by omega)) (isContinuation_iff.mpr (by omega))
    have hcode : (((n / 262144 % 8 + 0xf0) % 8 * 64 + (n / 4096 % 64 + 0x80) % 64) * 64
        + (n / 64 % 64 + 0x80) % 64) * 64 + (n % 64 + 0x80) % 64 = n := by omega
    rwa [assemble, List.foldl_cons, List.foldl_cons, List.foldl_cons, List.foldl_nil, ha, hb, hc,
      hd, hcode] at hchar

/-! ## Texts -/

theorem lead_iff {a : UInt8} :
    ¬ (decide (a < 0xc2) || decide (0xf4 < a)) = true ↔ 0xc2 ≤ a.toNat ∧ a.toNat < 0xf5 := by
  simp only [UInt8.lt_iff_toNat_lt, UInt8.reduceToNat, Bool.or_eq_true, decide_eq_true_eq]
  omega

theorem IsCharacter.decodeFrom_append (h : IsCharacter bytes char) (rest : List UInt8)
    (position : Nat) :
    decodeFrom position (bytes ++ rest)
      = (char :: ·) <$> decodeFrom (position + bytes.length) rest := by
  have hnot {x y : UInt8} (hxy : y.toNat ≤ x.toNat) : ¬ x < y := by
    rw [UInt8.lt_iff_toNat_lt]
    omega
  cases h with
  | one ha => exact decodeFrom_ascii rest (UInt8.lt_iff_toNat_lt.mpr ha)
  | two ha hb =>
    rw [List.cons_append, decodeFrom.eq_def]
    simp only [List.cons_append, List.nil_append]
    rw [if_neg (hnot (by simp; omega)), if_neg (lead_iff.mpr (by omega)), if_neg (by simp [hb]),
      if_pos (UInt8.lt_iff_toNat_lt.mpr ha.2)]
    rfl
  | three ha hb hc =>
    rw [List.cons_append, decodeFrom.eq_def]
    simp only [List.cons_append, List.nil_append]
    rw [if_neg (hnot (by simp; omega)), if_neg (lead_iff.mpr (by omega)), if_neg (by simp [hb]),
      if_neg (hnot (by simpa using ha.1)), if_neg (by simp [hc]),
      if_pos (UInt8.lt_iff_toNat_lt.mpr ha.2)]
    rfl
  | four ha hb hc hd =>
    rw [List.cons_append, decodeFrom.eq_def]
    simp only [List.cons_append, List.nil_append]
    rw [if_neg (hnot (by simp; omega)), if_neg (lead_iff.mpr (by omega)), if_neg (by simp [hb]),
      if_neg (hnot (by simp; omega)), if_neg (by simp [hc]), if_neg (hnot (by simpa using ha.1)),
      if_neg (by simp [hd])]
    rfl

theorem decodeFrom_flatMap (position : Nat) (s : List Char) :
    decodeFrom position (s.flatMap String.utf8EncodeChar) = .ok s := by
  induction s generalizing position with
  | nil => rfl
  | cons char s ih =>
    rw [List.flatMap_cons, (isCharacter_utf8EncodeChar char).decodeFrom_append, ih]
    rfl

theorem IsCharacter.flatMap_eq_append {read : Except Fault (List Char)}
    (h : IsCharacter bytes char)
    (ih : ∀ {s}, read = .ok s → s.flatMap String.utf8EncodeChar = rest)
    (hread : (char :: ·) <$> read = .ok s) :
    s.flatMap String.utf8EncodeChar = bytes ++ rest := by
  cases read with
  | error fault => cases hread
  | ok more =>
    cases hread
    rw [List.flatMap_cons, h.utf8EncodeChar_eq, ih rfl]

theorem flatMap_of_decodeFrom {position : Nat} (h : decodeFrom position bytes = .ok s) :
    s.flatMap String.utf8EncodeChar = bytes := by
  fun_induction decodeFrom position bytes generalizing s with
  | case1 =>
    cases h
    rfl
  | case2 position a rest ha ih =>
    exact (IsCharacter.one (UInt8.lt_iff_toNat_lt.mp ha)).flatMap_eq_append ih h
  | case6 position a _ hlead b rest hb ha ih =>
    have hwidth := lead_iff.mp hlead
    rw [UInt8.lt_iff_toNat_lt] at ha
    exact (IsCharacter.two ⟨hwidth.1, ha⟩ (by simpa using hb)).flatMap_eq_append ih h
  | case9 position a _ _ b hb hlead c rest hc ha ih =>
    rw [UInt8.lt_iff_toNat_lt] at ha hlead
    exact (IsCharacter.three ⟨Nat.not_lt.mp hlead, ha⟩ (by simpa using hb)
      (by simpa using hc)).flatMap_eq_append ih h
  | case12 position a _ hwidth b hb _ c hc hlead d rest hd ih =>
    rw [UInt8.lt_iff_toNat_lt] at hlead
    exact (IsCharacter.four ⟨Nat.not_lt.mp hlead, (lead_iff.mp hwidth).2⟩ (by simpa using hb)
      (by simpa using hc) (by simpa using hd)).flatMap_eq_append ih h
  | _ => cases h

/-- Bytes are read as a text exactly if they are its bytes. -/
theorem decode_eq_ok_iff : decode bytes = .ok s ↔ encode s = bytes := by
  rw [encode_eq_flatMap]
  constructor
  · exact flatMap_of_decodeFrom
  · rintro rfl
    exact decodeFrom_flatMap 0 s

end Retrace.Text.Utf8
