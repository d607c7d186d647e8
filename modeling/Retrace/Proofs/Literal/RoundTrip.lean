import Mathlib.Data.List.Forall2
import Retrace.Literal.Value
import Retrace.Proofs.Literal.Leaf
import Retrace.Proofs.Text.Join

/-!
# Value literals read back

Data that are built from nothing, truth values, numbers, texts, lists, tuples
and dictionaries under names have a literal. It holds no control character and
is read as one value, which equals the datum: only a double without a fraction
comes back as a whole number, everything else as what it was.
-/

namespace Retrace.Literal

open Numeral Double

/-- Entries under names. -/
def named (entries : List (String × Datum)) : List (Datum × Datum) :=
  entries.map fun e => (.text e.1, e.2)

/-- Data that are written as a literal, at any depth. -/
inductive HasLiteral : Datum → Prop
  | none : HasLiteral .none
  | bool (b : Bool) : HasLiteral (.bool b)
  | int (n : Int) (h : n.natAbs < 10 ^ digitLimit) : HasLiteral (.int n)
  | double (x : Double) (h : x.isFinite = true) : HasLiteral (.double x)
  | text (s : String) : HasLiteral (.text s)
  | list (items : List Datum) (h : ∀ d ∈ items, HasLiteral d) : HasLiteral (.list items)
  | tuple (items : List Datum) (h : ∀ d ∈ items, HasLiteral d) : HasLiteral (.tuple items)
  | dict (entries : List (String × Datum)) (hnames : (entries.map Prod.fst).Nodup)
    (h : ∀ e ∈ entries, HasLiteral e.2) : HasLiteral (.dict (named entries))

mutual

/-- What a literal is read as: whole numbers in the place of doubles without a fraction. -/
def restored : Datum → Datum
  | .double x =>
    match x.toInt? with
    | some n => .int n
    | none => .double x
  | .list items => .list (restoredAll items)
  | .tuple items => .tuple (restoredAll items)
  | .dict entries => .dict (restoredEntries entries)
  | d => d

def restoredAll : List Datum → List Datum
  | [] => []
  | d :: rest => restored d :: restoredAll rest

def restoredEntries : List (Datum × Datum) → List (Datum × Datum)
  | [] => []
  | (key, d) :: rest => (key, restored d) :: restoredEntries rest

end

theorem restoredAll_eq_map (items : List Datum) : restoredAll items = items.map restored := by
  induction items with
  | nil => rfl
  | cons d rest ih => rw [restoredAll, ih, List.map_cons]

theorem restoredEntries_named (entries : List (String × Datum)) :
    restoredEntries (named entries) = named (entries.map fun e => (e.1, restored e.2)) := by
  induction entries with
  | nil => rfl
  | cons e rest ih =>
    rw [named, List.map_cons, restoredEntries, ← named, ih]
    rfl

/-! ## Equality -/

mutual

/-- Equality of values: numbers by their value, dictionaries whatever their order. -/
def equals : Datum → Datum → Bool
  | .list xs, .list ys => allEqual xs ys
  | .tuple xs, .tuple ys => allEqual xs ys
  | .dict es, .dict fs => es.length == fs.length && entriesEqual es fs
  | x, y => x.same y

def allEqual : List Datum → List Datum → Bool
  | [], [] => true
  | x :: xs, y :: ys => equals x y && allEqual xs ys
  | _, _ => false

/-- Each entry has its key in the other dictionary, with an equal value. -/
def entriesEqual : List (Datum × Datum) → List (Datum × Datum) → Bool
  | [], _ => true
  | (key, x) :: es, fs =>
    (match fs.find? fun f => f.1.same key with
      | some f => equals x f.2
      | none => false) && entriesEqual es fs

end

theorem allEqual_map {items : List Datum} (h : ∀ d ∈ items, equals (restored d) d = true) :
    allEqual (items.map restored) items = true := by
  induction items with
  | nil => rfl
  | cons d items ih =>
    have hrest : ∀ x ∈ items, equals (restored x) x = true := by
      intro x hx
      exact h x (by simp [hx])
    rw [List.map_cons, allEqual, h d (by simp), ih hrest]
    rfl

theorem find?_named {entries : List (String × Datum)} (hnames : (entries.map Prod.fst).Nodup)
    {e : String × Datum} (he : e ∈ entries) :
    (named entries).find? (fun f => f.1.same (.text e.1)) = some (.text e.1, e.2) := by
  induction entries with
  | nil => cases he
  | cons first entries ih =>
    rw [List.map_cons, List.nodup_cons] at hnames
    rw [named, List.map_cons, List.find?_cons, ← named]
    obtain rfl | he := List.mem_cons.mp he
    · simp [Datum.same]
    · have hne : first.1 ≠ e.1 := by
        intro h
        apply hnames.1
        rw [h]
        exact List.mem_map_of_mem he
      simp only [Datum.same, beq_eq_false_iff_ne.mpr hne]
      exact ih hnames.2 he

theorem entriesEqual_named {entries : List (String × Datum)}
    (hnames : (entries.map Prod.fst).Nodup)
    (h : ∀ e ∈ entries, equals (restored e.2) e.2 = true) {part : List (String × Datum)}
    (hpart : ∀ e ∈ part, e ∈ entries) :
    entriesEqual (named (part.map fun e => (e.1, restored e.2))) (named entries) = true := by
  induction part with
  | nil => rfl
  | cons e part ih =>
    have he := hpart e (by simp)
    rw [List.map_cons, named, List.map_cons, entriesEqual, find?_named hnames he, ← named,
      ih fun x hx => hpart x (by simp [hx])]
    simpa using h e he

theorem sameValue_self {x : Double} (h : x.isFinite = true) : x.sameValue x = true := by
  unfold Double.isFinite at h
  unfold Double.sameValue
  split at h
  · next m _ hview =>
    rw [hview]
    cases m <;> simp
  · cases h

/-- What a literal is read as equals the datum. -/
theorem equals_restored {d : Datum} (h : HasLiteral d) : equals (restored d) d = true := by
  induction h with
  | none => rfl
  | bool b => cases b <;> rfl
  | int n => simp [restored, equals, Datum.same, Datum.wholeValue?]
  | double x hx =>
    rw [restored]
    split
    · next n hn => simp [equals, Datum.same, Datum.wholeValue?, hn]
    · simp only [equals, Datum.same]
      exact sameValue_self hx
  | text s => simp [restored, equals, Datum.same]
  | list items _ ih =>
    rw [restored, equals, restoredAll_eq_map]
    exact allEqual_map ih
  | tuple items _ ih =>
    rw [restored, equals, restoredAll_eq_map]
    exact allEqual_map ih
  | dict entries hnames _ ih =>
    rw [restored, equals, restoredEntries_named, entriesEqual_named hnames ih fun _ h => h]
    simp [named]

/-! ## Values on the stack -/

/-- The text is read as one value, whatever is open around it. -/
def Reads (s : List Char) (d : Datum) : Prop :=
  ∀ outer rest, Stops rest → readFrom ⟨outer, none⟩ (s ++ rest) = readFrom ⟨outer, some d⟩ rest

theorem Reads.read? {s : List Char} {d : Datum} (h : Reads s d) : read? s = some d := by
  have h := h [] [] (by simp [Stops])
  rw [List.append_nil, readFrom_nil] at h
  rw [Literal.read?, h]

theorem Reads.of_leaf {s : List Char} {d : Datum} (h : readLeaf s = some d)
    (hs : ∀ c ∈ s, isLeafChar c = true) : Reads s d := by
  intro outer rest hrest
  exact readFrom_leaf h hs _ hrest

theorem Reads.of_number {s : List Char} {d : Datum} (h : readNumber s = some d)
    (hs : ∀ c ∈ s, isNumeralChar c = true) : Reads s d := by
  apply Reads.of_leaf
  · rw [readLeaf_eq_readNumber hs, h]
  · intro c hc
    exact isLeafChar_of_isNumeralChar (hs c hc)

theorem Reads.quote (s : List Char) : Reads (quote s) (.text (String.ofList s)) := by
  intro outer rest _
  exact readFrom_text _ s rest

theorem stops_mark {c : Char} {lexeme : Lexeme} (h : mark? c = some lexeme) (rest : List Char) :
    Stops (c :: rest) := by
  intro x hx
  cases hx
  simp [isLeafChar, h]

/-- Items and commas fill a collection up to its last item, which is still to be taken up. -/
theorem readFrom_items (inner : List Datum → Collection)
    (hinner : ∀ items d, (inner items).add? d = some (inner (items ++ [d])))
    {texts : List (List Char)} {ds : List Datum} {d : Datum}
    (h : List.Forall₂ Reads texts (ds ++ [d])) (items : List Datum) (outer : List Collection)
    {rest : List Char} (hrest : Stops rest) :
    readFrom ⟨inner items :: outer, none⟩ (commaSeparated texts ++ rest)
      = readFrom ⟨inner (items ++ ds) :: outer, some d⟩ rest := by
  induction ds generalizing texts items with
  | nil =>
    obtain _ | ⟨ht, htexts⟩ := h
    cases htexts
    simpa [commaSeparated] using ht _ _ hrest
  | cons first ds ih =>
    obtain _ | @⟨t, _, texts, _, ht, htexts⟩ := h
    have hne : texts ≠ [] := by
      rintro rfl
      cases ds <;> cases htexts
    rw [commaSeparated, List.intercalate_cons_of_ne_nil hne]
    simp only [List.append_assoc, List.cons_append, List.nil_append]
    rw [ht _ _ (stops_mark rfl _), readFrom_mark rfl]
    simp only [Reading.step, hinner, Option.map_some, Option.bind_some, readFrom_blank]
    have h := ih htexts (items ++ [first])
    rw [commaSeparated] at h
    rw [h, List.append_assoc]
    rfl

theorem Reads.list {texts : List (List Char)} {ds : List Datum} (h : List.Forall₂ Reads texts ds) :
    Reads ('[' :: commaSeparated texts ++ [']']) (.list ds) := by
  intro outer rest _
  rw [List.append_assoc, List.cons_append, readFrom_mark rfl]
  obtain rfl | ⟨init, last, rfl⟩ := ds.eq_nil_or_concat'
  · cases h
    simp only [commaSeparated, Reading.step, Collection.ofBracket, Option.bind_some,
      List.intercalate_nil, List.nil_append, List.cons_append]
    rw [readFrom_mark rfl]
    rfl
  · simp only [Reading.step, Collection.ofBracket, Option.bind_some, List.cons_append,
      List.nil_append]
    rw [readFrom_items .list (fun _ _ => rfl) h [] outer (stops_mark rfl _),
      readFrom_mark rfl]
    rfl

/-- A tuple of one item has a comma behind it; without one the parentheses only group. -/
theorem Reads.tuple {texts : List (List Char)} {ds : List Datum}
    (h : List.Forall₂ Reads texts ds) :
    Reads ('(' :: commaSeparated texts ++ (if texts.length = 1 then [',', ')'] else [')']))
      (.tuple ds) := by
  intro outer rest _
  rw [List.append_assoc, List.cons_append, readFrom_mark rfl]
  obtain rfl | ⟨init, last, rfl⟩ := ds.eq_nil_or_concat'
  · cases h
    simp only [commaSeparated, Reading.step, Collection.ofBracket, Option.bind_some,
      List.intercalate_nil, List.length_nil, List.nil_append]
    rw [if_neg (by decide), List.cons_append, readFrom_mark rfl]
    rfl
  · have hlength : texts.length = init.length + 1 := by simpa using h.length_eq
    simp only [Reading.step, Collection.ofBracket, Option.bind_some]
    cases init with
    | nil =>
      rw [if_pos (by simpa using hlength)]
      simp only [List.cons_append, List.nil_append]
      rw [readFrom_items .tuple (fun _ _ => rfl) h [] outer (stops_mark rfl _),
        readFrom_mark rfl]
      simp only [Reading.step, Collection.add?, Option.map_some, Option.bind_some]
      rw [readFrom_mark rfl]
      rfl
    | cons first init =>
      rw [if_neg (by simp at hlength; omega)]
      simp only [List.cons_append, List.nil_append]
      rw [readFrom_items .tuple (fun _ _ => rfl) h [] outer (stops_mark rfl _),
        readFrom_mark rfl]
      rfl

/-! ## Entries -/

/-- The text of an entry: its name between quotation marks, a colon and its value. -/
def EntryReads (s : List Char) (e : String × Datum) : Prop :=
  ∃ t, s = Literal.quote e.1.toList ++ ':' :: t ∧ Reads t e.2

theorem EntryReads.readFrom {s : List Char} {e : String × Datum} (h : EntryReads s e)
    (entries : List (Datum × Datum)) (outer : List Collection) {rest : List Char}
    (hrest : Stops rest) :
    readFrom ⟨.dict entries none :: outer, none⟩ (s ++ rest)
      = Literal.readFrom ⟨.dict entries (some (.text e.1)) :: outer, some e.2⟩ rest := by
  obtain ⟨t, rfl, ht⟩ := h
  rw [List.append_assoc, readFrom_text]
  simp only [Reading.step, Option.bind_some, List.cons_append, String.ofList_toList]
  rw [readFrom_mark rfl]
  exact ht _ _ hrest

theorem put_of_fresh {name : String} (d : Datum) {entries : List (String × Datum)}
    (h : name ∉ entries.map Prod.fst) :
    Datum.put (.text name) d (named entries) = named (entries ++ [(name, d)]) := by
  induction entries with
  | nil => rfl
  | cons e entries ih =>
    simp only [List.map_cons, List.mem_cons, not_or] at h
    have hsame : (Datum.text e.1).same (.text name) = false := by
      simpa [Datum.same] using Ne.symm h.1
    simp only [named, List.map_cons, List.cons_append, Datum.put, hsame] at ih ⊢
    rw [ih h.2]
    rfl

theorem fresh_of_nodup {done rest : List (String × Datum)} {e : String × Datum}
    (h : ((done ++ e :: rest).map Prod.fst).Nodup) : e.1 ∉ done.map Prod.fst := by
  rw [List.map_append, List.nodup_append] at h
  intro hmem
  exact h.2.2 _ hmem _ (by simp) rfl

/-- Entries and commas fill a dictionary up to its last entry, which is still to be taken up. -/
theorem readFrom_entries {texts : List (List Char)} {entries : List (String × Datum)}
    {e : String × Datum} (h : List.Forall₂ EntryReads texts (entries ++ [e]))
    (done : List (String × Datum)) (hnames : ((done ++ entries).map Prod.fst).Nodup)
    (outer : List Collection) {rest : List Char} (hrest : Stops rest) :
    readFrom ⟨.dict (named done) none :: outer, none⟩ ([','].intercalate texts ++ rest)
      = readFrom ⟨.dict (named (done ++ entries)) (some (.text e.1)) :: outer, some e.2⟩ rest := by
  induction entries generalizing texts done with
  | nil =>
    obtain _ | ⟨ht, htexts⟩ := h
    cases htexts
    simpa using ht.readFrom _ _ hrest
  | cons first entries ih =>
    obtain _ | @⟨t, _, texts, _, ht, htexts⟩ := h
    have hne : texts ≠ [] := by
      rintro rfl
      cases entries <;> cases htexts
    have hfresh : first.1 ∉ done.map Prod.fst := fresh_of_nodup hnames
    rw [List.intercalate_cons_of_ne_nil hne]
    simp only [List.append_assoc, List.cons_append, List.nil_append]
    rw [ht.readFrom _ _ (stops_mark rfl _), readFrom_mark rfl]
    simp only [Reading.step, Collection.add?, Option.map_some, Option.bind_some]
    rw [put_of_fresh first.2 hfresh, ih htexts (done ++ [first]) (by simpa using hnames),
      List.append_assoc]
    rfl

theorem Reads.dict {texts : List (List Char)} {entries : List (String × Datum)}
    (h : List.Forall₂ EntryReads texts entries) (hnames : (entries.map Prod.fst).Nodup) :
    Reads ('\x7b' :: [','].intercalate texts ++ ['\x7d']) (.dict (named entries)) := by
  intro outer rest _
  rw [List.append_assoc, List.cons_append, readFrom_mark rfl]
  obtain rfl | ⟨init, last, rfl⟩ := entries.eq_nil_or_concat'
  · cases h
    simp only [Reading.step, Collection.ofBracket, Option.bind_some, List.intercalate_nil,
      List.nil_append, List.cons_append]
    rw [readFrom_mark rfl]
    rfl
  · have hfresh : last.1 ∉ init.map Prod.fst := fresh_of_nodup hnames
    rw [List.map_append, List.nodup_append] at hnames
    simp only [Reading.step, Collection.ofBracket, Option.bind_some, List.cons_append,
      List.nil_append]
    have hread := readFrom_entries h [] (by simpa using hnames.1) outer
      (stops_mark (c := '\x7d') rfl rest)
    rw [show named [] = [] from rfl, List.nil_append] at hread
    rw [hread, readFrom_mark rfl]
    simp only [Reading.step, Collection.close?, Option.map_some, Option.bind_some]
    rw [put_of_fresh last.2 hfresh]

/-! ## Writing and reading -/

theorem not_control_intercalate {separator : List Char} {texts : List (List Char)}
    (hseparator : ∀ c ∈ separator, 0x20 ≤ c.toNat) (h : ∀ t ∈ texts, ∀ c ∈ t, 0x20 ≤ c.toNat) :
    ∀ c ∈ separator.intercalate texts, 0x20 ≤ c.toNat := by
  intro c hc
  obtain hc | ⟨t, ht, hc⟩ := Text.mem_intercalate hc
  · exact hseparator c hc
  · exact h t ht c hc

/-- A literal is written for the datum, without control characters, and read as it. -/
def ReadsBack [Text.View] (d : Datum) : Prop :=
  ∃ s, ofDatum d = .ok s ∧ (∀ c ∈ s, 0x20 ≤ c.toNat) ∧ Reads s (restored d)

theorem ofData_readsBack [Text.View] {items : List Datum} (h : ∀ d ∈ items, ReadsBack d) :
    ∃ texts, ofData items = .ok texts ∧ (∀ t ∈ texts, ∀ c ∈ t, 0x20 ≤ c.toNat) ∧
      List.Forall₂ Reads texts (items.map restored) := by
  induction items with
  | nil => exact ⟨[], rfl, by simp, .nil⟩
  | cons d items ih =>
    obtain ⟨s, hs, hcontrol, hread⟩ := h d (by simp)
    obtain ⟨texts, htexts, hcontrols, hreads⟩ := ih fun x hx => h x (by simp [hx])
    refine ⟨s :: texts, by rw [ofData, hs, htexts]; rfl, ?_, .cons hread hreads⟩
    intro t ht
    obtain rfl | ht := List.mem_cons.mp ht
    · exact hcontrol
    · exact hcontrols t ht

theorem ofEntries_readsBack [Text.View] {entries : List (String × Datum)}
    (h : ∀ e ∈ entries, ReadsBack e.2) :
    ∃ texts, ofEntries (named entries) = .ok texts ∧ (∀ t ∈ texts, ∀ c ∈ t, 0x20 ≤ c.toNat) ∧
      List.Forall₂ EntryReads texts (entries.map fun e => (e.1, restored e.2)) := by
  induction entries with
  | nil => exact ⟨[], rfl, by simp, .nil⟩
  | cons e entries ih =>
    obtain ⟨s, hs, hcontrol, hread⟩ := h e (by simp)
    obtain ⟨texts, htexts, hcontrols, hreads⟩ := ih fun x hx => h x (by simp [hx])
    refine ⟨(Literal.quote e.1.toList ++ ':' :: s) :: texts, ?_, ?_, .cons ⟨s, rfl, hread⟩ hreads⟩
    · rw [named, List.map_cons, ofEntries, ← named, hs, htexts]
      rfl
    · intro t ht c hc
      obtain rfl | ht := List.mem_cons.mp ht
      · obtain hc | rfl | hc := by simpa using hc
        · exact quoteWith_not_control hc
        · decide
        · exact hcontrol c hc
      · exact hcontrols t ht c hc

theorem readsBack_of_number [Text.View] {d : Datum} {s : List Char} (hs : ofDatum d = .ok s)
    (hread : readNumber s = some (restored d)) (h : ∀ c ∈ s, isNumeralChar c = true) :
    ReadsBack d := by
  refine ⟨s, hs, ?_, .of_number hread h⟩
  intro c hc
  exact isNumeralChar_not_control (h c hc)

theorem readsBack_of_word [Text.View] {d : Datum} {s : List Char} (hs : ofDatum d = .ok s)
    (hread : readLeaf s = some (restored d))
    (hcontrol : s.all (fun c => 0x20 ≤ c.toNat) = true) (hleaf : s.all isLeafChar = true) :
    ReadsBack d :=
  ⟨s, hs, not_control_of_all hcontrol, .of_leaf hread (List.all_eq_true.mp hleaf)⟩

theorem writeInteger?_of_lt {n : Int} (h : n.natAbs < 10 ^ digitLimit) :
    writeInteger? n = some (toString n) := by
  have hpower (k : Nat) : tenTo k = 10 ^ k := rfl
  rw [← hpower] at h
  unfold writeInteger?
  -- the bound is a large number that must not be computed
  generalize tenTo digitLimit = bound at h ⊢
  exact if_neg (Nat.not_le_of_lt h)

theorem ofInt_of_lt {n : Int} (h : n.natAbs < 10 ^ digitLimit) :
    ofInt n = .ok (toString n).toList := by
  have hwrite := writeInteger?_of_lt h
  unfold ofInt
  generalize writeInteger? n = written at hwrite ⊢
  rw [hwrite]

theorem ofInt_of_le {n : Int} (h : 10 ^ digitLimit ≤ n.natAbs) : ofInt n = .error .tooLong := by
  have hwrite : writeInteger? n = none := by
    have hpower (k : Nat) : tenTo k = 10 ^ k := rfl
    rw [← hpower] at h
    unfold writeInteger?
    generalize tenTo digitLimit = bound at h ⊢
    exact if_pos h
  unfold ofInt
  generalize writeInteger? n = written at hwrite ⊢
  rw [hwrite]

/-- Items between a bracket and what closes it hold no control character if they hold none. -/
theorem not_control_enclosed {opening : Char} {separator closing : List Char}
    {texts : List (List Char)} (hopening : 0x20 ≤ opening.toNat)
    (hseparator : separator.all (fun c => 0x20 ≤ c.toNat) = true)
    (hclosing : closing.all (fun c => 0x20 ≤ c.toNat) = true)
    (h : ∀ t ∈ texts, ∀ c ∈ t, 0x20 ≤ c.toNat) :
    ∀ c ∈ opening :: separator.intercalate texts ++ closing, 0x20 ≤ c.toNat := by
  intro c hc
  obtain rfl | hc | hc := by simpa only [List.cons_append, List.mem_cons, List.mem_append] using hc
  · exact hopening
  · exact not_control_intercalate (not_control_of_all hseparator) h c hc
  · exact not_control_of_all hclosing c hc

theorem ofDatum_readsBack [Text.View] {d : Datum} (h : HasLiteral d) : ReadsBack d := by
  induction h with
  | none => exact readsBack_of_word rfl rfl (by decide) (by decide)
  | bool b =>
    cases b
    · exact readsBack_of_word rfl rfl (by decide) (by decide)
    · exact readsBack_of_word rfl rfl (by decide) (by decide)
  | int n hn =>
    exact readsBack_of_number (by rw [ofDatum, ofInt_of_lt hn]) (readNumber_toString hn)
      (isNumeralChar_toString n)
  | double x hx =>
    cases hwhole : x.toInt? with
    | some n =>
      have hwrite : ofDatum (.double x) = .ok (toString n).toList := by
        rw [ofDatum, ofDouble, hwhole]
      apply readsBack_of_number hwrite ?_ (isNumeralChar_toString n)
      rw [restored, hwhole]
      exact readNumber_toString (natAbs_lt_of_toInt? hwhole)
    | none =>
      obtain ⟨hread, hchars⟩ := readNumber_text hx
      have hwrite : ofDatum (.double x) = .ok (x.text .standard) := by
        rw [ofDatum, ofDouble, hwhole]
        exact if_pos hx
      apply readsBack_of_number hwrite ?_ hchars
      rw [restored, hwhole]
      exact hread
  | text s =>
    refine ⟨_, rfl, ?_, ?_⟩
    · intro c hc
      exact quoteWith_not_control hc
    · simpa [restored] using Reads.quote s.toList
  | list items _ ih =>
    obtain ⟨texts, htexts, hcontrol, hreads⟩ := ofData_readsBack ih
    refine ⟨_, by rw [ofDatum, htexts]; rfl, ?_, ?_⟩
    · exact not_control_enclosed (by decide) (by decide) (by decide) hcontrol
    · rw [restored, restoredAll_eq_map]
      exact .list hreads
  | tuple items _ ih =>
    obtain ⟨texts, htexts, hcontrol, hreads⟩ := ofData_readsBack ih
    refine ⟨_, by rw [ofDatum, htexts]; rfl, ?_, ?_⟩
    · exact not_control_enclosed (by decide) (by decide) (by split <;> decide) hcontrol
    · rw [restored, restoredAll_eq_map]
      exact .tuple hreads
  | dict entries hnames _ ih =>
    obtain ⟨texts, htexts, hcontrol, hreads⟩ := ofEntries_readsBack ih
    refine ⟨_, by rw [ofDatum, htexts]; rfl, ?_, ?_⟩
    · exact not_control_enclosed (by decide) (by decide) (by decide) hcontrol
    · rw [restored, restoredEntries_named]
      exact .dict hreads (by rw [List.map_map]; exact hnames)

/-- A datum with a literal is written without control characters. The text is read as one value,
which is the datum with whole numbers in the place of doubles without a fraction, and equals it. -/
theorem read?_ofDatum [Text.View] {d : Datum} (h : HasLiteral d) :
    ∃ s, ofDatum d = .ok s ∧ (∀ c ∈ s, 0x20 ≤ c.toNat) ∧ read? s = some (restored d) ∧
      equals (restored d) d = true := by
  obtain ⟨s, hs, hcontrol, hread⟩ := ofDatum_readsBack h
  exact ⟨s, hs, hcontrol, hread.read?, equals_restored h⟩

/-- A half in a tuple of its own, under a name with a quotation mark, beside a whole double. -/
theorem read?_ofDatum_half :
    HasLiteral (.dict (named [("\"", .tuple [.double ⟨0x3fe0000000000000⟩]),
      ("n", .double ⟨0x4008000000000000⟩)])) ∧
    ∃ s, ofDatum (.dict (named [("\"", .tuple [.double ⟨0x3fe0000000000000⟩]),
        ("n", .double ⟨0x4008000000000000⟩)])) = .ok s ∧
      (∀ c ∈ s, 0x20 ≤ c.toNat) ∧
      read? s = some (.dict (named [("\"", .tuple [.double ⟨0x3fe0000000000000⟩]),
        ("n", .int 3)])) := by
  have h : HasLiteral (.dict (named [("\"", .tuple [.double ⟨0x3fe0000000000000⟩]),
      ("n", .double ⟨0x4008000000000000⟩)])) := by
    refine .dict _ (by decide) (List.forall_mem_cons.mpr ⟨?_, List.forall_mem_cons.mpr ⟨?_, ?_⟩⟩)
    · exact .tuple _ (List.forall_mem_cons.mpr ⟨.double _ (by decide), by simp⟩)
    · exact .double _ (by decide)
    · simp
  have hhalf : (Double.mk 0x3fe0000000000000).toInt? = none := by decide
  have hthree : (Double.mk 0x4008000000000000).toInt? = some 3 := by decide
  obtain ⟨s, hs, hcontrol, hread, -⟩ := read?_ofDatum h
  refine ⟨h, s, hs, hcontrol, ?_⟩
  rw [hread]
  simp [named, restored, restoredEntries, restoredAll, hhalf, hthree]

end Retrace.Literal
