import Mathlib.Data.List.TakeWhile
import Retrace.Datum.Basic

/-!
# Texts with halves of surrogate pairs

A text without halves looks the same in every view. From the lower and the upper
view together any text can be told, and so can the halves that come first in it.
-/

namespace Retrace.Text

/-! ## Texts without halves -/

theorem toNat_ofNat {n : Nat} (h : n.isValidChar) : (Char.ofNat n).toNat = n := by
  rw [Char.ofNat, dif_pos h]
  rfl

theorem isHalf_iff (n : Nat) : isHalf n = true ↔ 0xd800 ≤ n ∧ n < 0xe000 := by
  simp only [isHalf, isHighSurrogate, isLowSurrogate, Bool.or_eq_true, Bool.and_eq_true,
    decide_eq_true_eq]
  omega

theorem isHalf_toNat (c : Char) : isHalf c.toNat = false := by
  have hvalid : c.toNat < 0xd800 ∨ 0xdfff < c.toNat ∧ c.toNat < 0x110000 := c.valid
  rw [← Bool.not_eq_true, isHalf_iff]
  omega

@[simp] theorem viewed_toNat [View] (c : Char) : viewed c.toNat = c := by
  rw [viewed, isHalf_toNat, if_neg Bool.false_ne_true, Char.ofNat_toNat]

@[simp] theorem map_viewed_pointsOf [View] (s : List Char) : (pointsOf s).map viewed = s := by
  rw [pointsOf, List.map_map]
  exact List.map_id'' viewed_toNat s

theorem any_isHalf_pointsOf (s : List Char) : (pointsOf s).any isHalf = false := by
  simp [pointsOf, isHalf_toNat]

theorem map_ofNat_pointsOf (s : List Char) : (pointsOf s).map Char.ofNat = s := by
  rw [pointsOf, List.map_map]
  exact List.map_id'' Char.ofNat_toNat s

theorem ofPoints_pointsOf (s : List Char) :
    Datum.ofPoints (pointsOf s) = .text (String.ofList s) := by
  rw [Datum.ofPoints, any_isHalf_pointsOf, if_neg Bool.false_ne_true, map_ofNat_pointsOf]

/-! ## Views -/

/-- A code point belongs to a character, or it is half a surrogate pair. -/
def IsPoint (n : Nat) : Prop := n.isValidChar ∨ isHalf n = true

theorem viewed_of_isHalf [View] {n : Nat} (h : isHalf n = true) : viewed n = View.ofHalf n :=
  if_pos h

theorem viewed_of_not_isHalf [View] {n : Nat} (h : ¬ isHalf n = true) : viewed n = Char.ofNat n :=
  if_neg h

theorem codePoint_viewed {n : Nat} (h : IsPoint n) :
    View.codePoint (@viewed .lower n) (@viewed .upper n) = n := by
  by_cases hhalf : isHalf n = true
  · have hrange := (isHalf_iff n).mp hhalf
    have hlower : (@viewed .lower n).toNat = 0xf0000 + n := by
      rw [@viewed_of_isHalf .lower n hhalf]
      exact toNat_ofNat (.inr ⟨by omega, by omega⟩)
    have hupper : (@viewed .upper n).toNat = 0x100000 + n := by
      rw [@viewed_of_isHalf .upper n hhalf]
      exact toNat_ofNat (.inr ⟨by omega, by omega⟩)
    have hne : @viewed .lower n ≠ @viewed .upper n := by
      intro heq
      rw [heq] at hlower
      omega
    rw [View.codePoint, if_neg hne, hlower, Nat.add_sub_cancel_left]
  · have hvalid := h.resolve_right hhalf
    rw [@viewed_of_not_isHalf .lower n hhalf, @viewed_of_not_isHalf .upper n hhalf,
      View.codePoint, if_pos rfl, toNat_ofNat hvalid]

/-- A text can be told from its lower and its upper view. -/
theorem seen_viewed {points : List Nat} (h : ∀ n ∈ points, IsPoint n) :
    seen (points.map (@viewed .lower)) (points.map (@viewed .upper)) = points := by
  rw [seen, List.zipWith_map, List.zipWith_self,
    List.map_congr_left fun n hn => codePoint_viewed (h n hn), List.map_id']

/-! ## The first halves -/

/-- The place and the halves are those of the first run of halves in a text. -/
theorem firstIn_append {before halves after : List Nat} (hbefore : ∀ n ∈ before, isHalf n = false)
    (hhalves : ∀ n ∈ halves, isHalf n = true) (hne : halves ≠ [])
    (hafter : ∀ n ∈ after.head?, isHalf n = false) :
    Unencodable.firstIn (before ++ halves ++ after) = ⟨before.length, halves⟩ := by
  obtain ⟨half, halves, rfl⟩ := List.exists_cons_of_ne_nil hne
  have hhalf : isHalf half = true := hhalves half List.mem_cons_self
  have hclear : ∀ n ∈ before, (!isHalf n) = true := by simpa using hbefore
  have htake : (after.takeWhile isHalf) = [] := by
    cases after with
    | nil => rfl
    | cons n after => exact List.takeWhile_cons_of_neg (by simp [hafter n rfl])
  have hrun : (half :: halves ++ after).takeWhile isHalf = half :: halves := by
    rw [List.takeWhile_append_of_pos hhalves, htake, List.append_nil]
  rw [Unencodable.firstIn, List.append_assoc, List.takeWhile_append_of_pos hclear,
    List.dropWhile_append_of_pos hclear, List.cons_append,
    List.takeWhile_cons_of_neg (by simp [hhalf]), List.dropWhile_cons_of_neg (by simp [hhalf]),
    List.append_nil, ← List.cons_append, hrun]

/-! ## Characters -/

theorem characters_pointsOf (s : List Char) : characters (pointsOf s) = .ok s := by
  rw [characters, any_isHalf_pointsOf, if_neg Bool.false_ne_true, map_ofNat_pointsOf]

/-- A text has characters just if its code points are those of the characters. -/
theorem characters_eq_ok_iff {points : List Nat} {s : List Char} (h : ∀ n ∈ points, IsPoint n) :
    characters points = .ok s ↔ points = pointsOf s := by
  constructor
  · intro hs
    rw [characters] at hs
    split at hs
    · cases hs
    · next hany =>
      cases hs
      have hsame : ∀ n ∈ points, (Char.ofNat n).toNat = n := by
        intro n hn
        apply toNat_ofNat
        exact (h n hn).resolve_right fun hhalf => hany (List.any_eq_true.mpr ⟨n, hn, hhalf⟩)
      rw [pointsOf, List.map_map]
      exact ((List.map_congr_left hsame).trans (List.map_id' points)).symm
  · rintro rfl
    exact characters_pointsOf s

theorem isPoint_codePoint (a b : Char) : IsPoint (View.codePoint a b) := by
  have hle : View.codePoint a b ≤ a.toNat := by
    rw [View.codePoint]
    split
    · exact Nat.le_refl _
    · exact Nat.sub_le _ _
  have hvalid : a.toNat < 0xd800 ∨ 0xdfff < a.toNat ∧ a.toNat < 0x110000 := a.valid
  rw [IsPoint, isHalf_iff, Nat.isValidChar]
  omega

theorem isPoint_of_mem_seen {lower upper : List Char} {n : Nat} (h : n ∈ seen lower upper) :
    IsPoint n := by
  rw [seen, ← List.map_uncurry_zip_eq_zipWith] at h
  obtain ⟨p, -, rfl⟩ := List.mem_map.mp h
  exact isPoint_codePoint p.1 p.2

end Retrace.Text
