import Mathlib.Data.Int.Bitwise
import Mathlib.Data.List.Sublists
import Retrace.Proofs.Recording.Outcome

/-!
# Masks and names of modifier keys

A mask says of each key by a bit whether it is held, and the bits beyond the four
keys say nothing. Names say it by occurring, wherever and however often, and one name
that is none of a key's refuses them all. Both forms are read as the same sixteen lists,
and each of these is read from its own names.
-/

namespace Retrace.Modifier

/-- Each key at most once, in the order in which keys are written. -/
structure AreOrdered (modifiers : List Modifier) : Prop where
  nodup : modifiers.Nodup
  names : (modifiers.map name).Sublist ["Alt", "Control", "Meta", "Shift"]

/-- A whole number or a truth value, which is a whole number too. -/
def IsMask (d : Datum) (mask : Int) : Prop :=
  d.view = .int mask ∨ ∃ b : Bool, d.view = .bool b ∧ mask = b.toNat

/-- A list or a tuple of texts. -/
def HoldsNames (d : Datum) (names : List String) : Prop :=
  d.view = .list (names.map .text) ∨ d.view = .tuple (names.map .text)

/-- The place of a key's bit. -/
def place : Modifier → Nat
  | altKey => 0
  | controlKey => 1
  | metaKey => 2
  | shiftKey => 3

def unknownNames (names : List String) : List String :=
  names.filter fun s => s ∉ all.map name

def ofNames (names : List String) : List Modifier :=
  all.filter fun key => key.name ∈ names

section

variable {d d' : Datum} {mask : Int} {key : Modifier} {keys : List Modifier}
  {names names' : List String}

/-! ## Keys in their order -/

theorem nodup_all : all.Nodup := by decide

theorem mem_all (m : Modifier) : m ∈ all := by
  cases m <;> decide

theorem areOrdered_iff {modifiers : List Modifier} :
    AreOrdered modifiers ↔ modifiers.Sublist all := by
  constructor
  · rintro ⟨-, hnames⟩
    have hall : (modifiers.map name).Sublist (all.map name) := hnames
    obtain ⟨l, hl, heq⟩ := List.sublist_map_iff.mp hall
    rwa [List.map_injective_iff.mpr (fun _ _ => name_injective) heq]
  · intro h
    exact ⟨h.nodup nodup_all, h.map name⟩

theorem areOrdered_filter (p : Modifier → Bool) : AreOrdered (all.filter p) :=
  areOrdered_iff.mpr List.filter_sublist

theorem areOrdered_of_ofItems {items : List Datum} {modifiers : List Modifier}
    (h : ofItems items = .ok modifiers) : AreOrdered modifiers := by
  unfold ofItems at h
  dsimp only at h
  split at h
  · cases h
  · split at h
    · cases h
      exact areOrdered_filter _
    · cases h

/-- Keys are brought into their order, whatever they are read from. -/
theorem areOrdered_of_ofDatum {d : Datum} {modifiers : List Modifier}
    (h : ofDatum d = .ok modifiers) : AreOrdered modifiers := by
  unfold ofDatum at h
  split at h
  all_goals first
    | exact areOrdered_of_ofItems h
    | cases h
  · exact areOrdered_filter _
  · exact areOrdered_filter _

/-! ## Masks -/

theorem ofDatum_of_isMask (h : IsMask d mask) : ofDatum d = .ok (ofMask mask) := by
  obtain h | ⟨b, h, rfl⟩ := h
  · rw [ofDatum, h]
  · rw [ofDatum, h]

theorem bit_eq_two_pow (key : Modifier) : key.bit = 2 ^ key.place := by
  cases key <;> rfl

theorem testBit_iff (mask : Int) (n : Nat) :
    mask.testBit n = true ↔ mask / (2 ^ n : Nat) % 2 = 1 := by
  cases mask with
  | ofNat m =>
    rw [Int.testBit, Nat.testBit_eq_decide_div_mod_eq, decide_eq_true_iff, Int.ofNat_eq_natCast,
      ← Int.natCast_ediv]
    omega
  | negSucc m =>
    have hpos : (0 : Int) < (2 ^ n : Nat) := Int.natCast_pos.mpr (Nat.two_pow_pos n)
    have hquotient : Int.negSucc m / (2 ^ n : Nat) = -((m / 2 ^ n : Nat) + 1) :=
      Int.negSucc_ediv m hpos
    rw [Int.testBit, Nat.testBit_eq_decide_div_mod_eq, hquotient, Bool.not_eq_true',
      decide_eq_false_iff_not]
    omega

theorem mem_ofMask_iff_testBit : key ∈ ofMask mask ↔ mask.testBit key.place = true := by
  rw [mem_ofMask, inMask, decide_eq_true_iff, bit_eq_two_pow, testBit_iff]

/-- The bits beyond those of the keys are not read. -/
theorem ofMask_emod (mask : Int) : ofMask (mask % 16) = ofMask mask := by
  apply List.filter_congr
  intro key _
  rw [inMask, inMask, decide_eq_decide]
  cases key <;> simp only [bit] <;> omega

/-! ## Names -/

theorem ofDatum_of_holdsNames (h : HoldsNames d names) :
    ofDatum d = ofItems (names.map .text) := by
  obtain h | h := h
  · rw [ofDatum, h]
  · rw [ofDatum, h]

theorem isKnown_text (s : String) : isKnown (.text s) = decide (s ∈ all.map name) := by
  rw [Bool.eq_iff_iff, isKnown, ofName?, List.find?_isSome, decide_eq_true_iff, List.mem_map]
  simp only [beq_iff_eq]

theorem ofItems_text (names : List String) :
    ofItems (names.map .text)
      = if unknownNames names = [] then .ok (ofNames names)
        else .error (.unknown (unknownNames names)) := by
  have hunknown : (names.map Datum.text).filter (fun item => !isKnown item)
      = (unknownNames names).map .text := by
    rw [List.filter_map, unknownNames]
    congr 1
    apply List.filter_congr
    intro s _
    rw [Function.comp_apply, isKnown_text, decide_not]
  have hnone : firstNonText 0 ((unknownNames names).map .text) = none := by
    rw [firstNonText_eq_none_iff]
    simp
  have hheld : (fun key : Modifier => (names.map Datum.text).any
      fun item => item.text? == some key.name) = fun key => decide (key.name ∈ names) := by
    funext key
    rw [Bool.eq_iff_iff]
    simp
  have htexts : ((unknownNames names).map Datum.text).map Datum.lossy = unknownNames names := by
    rw [List.map_map]
    exact List.map_id'' (fun _ => rfl) _
  rw [ofItems, hunknown, hnone, hheld, htexts]
  simp only [List.isEmpty_map, List.isEmpty_iff]
  rfl

theorem mem_ofNames : key ∈ ofNames names ↔ key.name ∈ names := by
  rw [ofNames, List.mem_filter, decide_eq_true_iff]
  exact and_iff_right (mem_all key)

theorem unknownNames_eq_nil_iff : unknownNames names = [] ↔ ∀ s ∈ names, s ∈ all.map name := by
  simp only [unknownNames, List.filter_eq_nil_iff, decide_eq_true_iff, not_not]

/-- Names are read just if all of them are names of keys. -/
theorem ofDatum_eq_ok_iff (h : HoldsNames d names) :
    ofDatum d = .ok keys ↔ (∀ s ∈ names, s ∈ all.map name) ∧ keys = ofNames names := by
  rw [ofDatum_of_holdsNames h, ofItems_text, ← unknownNames_eq_nil_iff]
  split
  · next hknown => simp [hknown, eq_comm]
  · next hunknown => simp [hunknown]

theorem ofNames_congr (h : ∀ s, s ∈ names ↔ s ∈ names') : ofNames names = ofNames names' := by
  apply List.filter_congr
  intro key _
  rw [decide_eq_decide]
  exact h key.name

theorem ofDatum_congr (h : HoldsNames d names) (h' : HoldsNames d' names')
    (hsame : ∀ s, s ∈ names ↔ s ∈ names') : ofDatum d = .ok keys ↔ ofDatum d' = .ok keys := by
  rw [ofDatum_eq_ok_iff h, ofDatum_eq_ok_iff h', ofNames_congr hsame]
  simp only [hsame]

theorem mem_map_name_ofNames (h : ∀ s ∈ names, s ∈ all.map name) (s : String) :
    s ∈ (ofNames names).map name ↔ s ∈ names := by
  constructor
  · intro hs
    obtain ⟨key, hkey, rfl⟩ := List.mem_map.mp hs
    exact mem_ofNames.mp hkey
  · intro hs
    obtain ⟨key, -, rfl⟩ := List.mem_map.mp (h s hs)
    exact List.mem_map_of_mem (mem_ofNames.mpr hs)

/-! ## Both forms -/

theorem holdsNames_texts (names : List String) : HoldsNames (Recording.textsDatum names) names :=
  .inl rfl

theorem ofNames_names (h : AreOrdered keys) : ofNames (keys.map name) = keys := by
  apply (nodup_all.perm_iff_eq_of_sublist List.filter_sublist (areOrdered_iff.mp h)).mp
  rw [List.perm_ext_iff_of_nodup (nodup_all.filter _) h.nodup]
  intro key
  rw [← ofNames, mem_ofNames, List.mem_map_of_injective fun _ _ => name_injective]

/-- Keys in their order are read from their names. -/
theorem ofDatum_modifiersDatum (h : AreOrdered keys) :
    ofDatum (Recording.modifiersDatum keys) = .ok keys := by
  rw [Recording.modifiersDatum, ofDatum_eq_ok_iff (holdsNames_texts _), ofNames_names h]
  refine ⟨?_, rfl⟩
  intro s hs
  obtain ⟨key, -, rfl⟩ := List.mem_map.mp hs
  exact List.mem_map_of_mem (mem_all key)

/-- Whatever keys are read from, their names are read as the same keys. -/
theorem ofDatum_of_ofDatum (h : ofDatum d = .ok keys) (hnames : HoldsNames d' (keys.map name)) :
    ofDatum d' = .ok keys := by
  have hthis := ofDatum_modifiersDatum (areOrdered_of_ofDatum h)
  exact (ofDatum_congr (holdsNames_texts _) hnames fun _ => Iff.rfl).mp hthis

theorem mem_sublists_iff_areOrdered : keys ∈ all.sublists ↔ AreOrdered keys := by
  rw [List.mem_sublists, areOrdered_iff]

theorem mem_sublists_iff_mask :
    keys ∈ all.sublists ↔ ∃ mask : Nat, mask < 16 ∧ ofDatum (.int mask) = .ok keys := by
  constructor
  · have hall : ∀ keys ∈ all.sublists, ∃ mask < 16, ofMask (mask : Nat) = keys := by decide
    intro h
    obtain ⟨mask, hlt, rfl⟩ := hall keys h
    exact ⟨mask, hlt, ofDatum_of_isMask (.inl rfl)⟩
  · rintro ⟨mask, -, h⟩
    exact mem_sublists_iff_areOrdered.mpr (areOrdered_of_ofDatum h)

theorem mem_sublists_iff_names :
    keys ∈ all.sublists ↔ ∃ names, ofDatum (Recording.textsDatum names) = .ok keys := by
  rw [mem_sublists_iff_areOrdered]
  constructor
  · intro h
    exact ⟨keys.map name, ofDatum_modifiersDatum h⟩
  · rintro ⟨names, h⟩
    exact areOrdered_of_ofDatum h

end

/-- A mask is read by its last four bits, each of which is that of a key. Names are read as the
keys that they name, unless some are unknown, and it makes no difference how often and in which
order they occur. Keys are read from their own names, and both forms give the same lists. -/
theorem ofDatum_forms :
    (∀ d mask, IsMask d mask → ofDatum d = ofDatum (.int (mask % 16))
      ∧ ∃ keys, ofDatum d = .ok keys ∧ AreOrdered keys
        ∧ ∀ key, key ∈ keys ↔ mask.testBit key.place = true)
    ∧ (∀ d names, HoldsNames d names →
      (unknownNames names ≠ [] → ofDatum d = .error (.unknown (unknownNames names))
        ∧ (Fault.unknown (unknownNames names)).message
          = "未知の修飾キーです: " ++ ", ".intercalate (unknownNames names))
      ∧ (unknownNames names = [] → ∃ keys, ofDatum d = .ok keys ∧ AreOrdered keys
        ∧ ∀ s, s ∈ keys.map name ↔ s ∈ names))
    ∧ (∀ d d' names names', HoldsNames d names → HoldsNames d' names' →
      (∀ s, s ∈ names ↔ s ∈ names') → ∀ keys, ofDatum d = .ok keys ↔ ofDatum d' = .ok keys)
    ∧ (∀ d d' keys, ofDatum d = .ok keys → HoldsNames d' (keys.map name) →
      ofDatum d' = .ok keys)
    ∧ all.sublists.Nodup ∧ all.sublists.length = 16
    ∧ ∀ keys,
      (keys ∈ all.sublists ↔ ∃ mask : Nat, mask < 16 ∧ ofDatum (.int mask) = .ok keys)
      ∧ (keys ∈ all.sublists ↔ ∃ names, ofDatum (Recording.textsDatum names) = .ok keys) := by
  refine ⟨?_, ?_, ?_, ?_, List.nodup_sublists.mpr nodup_all, List.length_sublists all, ?_⟩
  · intro d mask h
    rw [ofDatum_of_isMask h, ofDatum_of_isMask (.inl rfl), ofMask_emod]
    exact ⟨rfl, ofMask mask, rfl, areOrdered_filter _, fun _ => mem_ofMask_iff_testBit⟩
  · intro d names h
    constructor
    · intro hunknown
      rw [ofDatum_of_holdsNames h, ofItems_text, if_neg hunknown]
      exact ⟨rfl, rfl⟩
    · intro hnil
      have hknown := unknownNames_eq_nil_iff.mp hnil
      exact ⟨ofNames names, (ofDatum_eq_ok_iff h).mpr ⟨hknown, rfl⟩, areOrdered_filter _,
        mem_map_name_ofNames hknown⟩
  · intro d d' names names' h h' hsame keys
    exact ofDatum_congr h h' hsame
  · intro d d' keys h hnames
    exact ofDatum_of_ofDatum h hnames
  · intro keys
    exact ⟨mem_sublists_iff_mask, mem_sublists_iff_names⟩

theorem ofDatum_forms_minusFive :
    IsMask (.int (-5)) (-5) ∧ ofDatum (.int (-5)) = .ok [altKey, controlKey, shiftKey]
      ∧ HoldsNames (.tuple [.text "Shift", .text "Hyper", .text "Super", .text "Hyper"])
        ["Shift", "Hyper", "Super", "Hyper"]
      ∧ ofDatum (.tuple [.text "Shift", .text "Hyper", .text "Super", .text "Hyper"])
        = .error (.unknown ["Hyper", "Super", "Hyper"])
      ∧ HoldsNames (.list [.text "Shift", .text "Alt", .text "Shift", .text "Control"])
        ["Shift", "Alt", "Shift", "Control"]
      ∧ ofDatum (.list [.text "Shift", .text "Alt", .text "Shift", .text "Control"])
        = .ok [altKey, controlKey, shiftKey] := by
  obtain ⟨hmask, hnames, hsame, hagain, -, -, -⟩ := ofDatum_forms
  have hfive : ofDatum (.int (-5)) = .ok [altKey, controlKey, shiftKey] :=
    (hmask (.int (-5)) (-5) (.inl rfl)).1.trans (by decide)
  have hown := hagain _ (.list [.text "Alt", .text "Control", .text "Shift"]) _ hfive (.inl rfl)
  refine ⟨.inl rfl, hfive, .inr rfl, ?_, .inl rfl, ?_⟩
  · exact ((hnames _ ["Shift", "Hyper", "Super", "Hyper"] (.inr rfl)).1 (by decide)).1
  · apply (hsame _ _ ["Alt", "Control", "Shift"] ["Shift", "Alt", "Shift", "Control"] (.inl rfl)
      (.inl rfl) ?_ _).mp hown
    intro s
    simp only [List.mem_cons, List.not_mem_nil, or_false]
    grind

end Retrace.Modifier
