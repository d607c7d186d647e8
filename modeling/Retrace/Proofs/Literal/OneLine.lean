import Retrace.Proofs.Literal.Leaf
import Retrace.Proofs.Literal.Options
import Retrace.Proofs.Result
import Retrace.Proofs.Text.OneLine

/-!
# Literals on one line

Whatever a datum holds, its literal is on one line: texts are escaped, numbers
are written with digits, and the marks between items are no line breaks.
-/

namespace Retrace.Literal

open Text

theorem isOneLine_quote (text : List Char) : isOneLine (quote text) = true :=
  isOneLine_of_not_control fun _ hc => quoteWith_not_control hc

theorem isOneLine_of_number {s : List Char} (h : ∀ c ∈ s, Double.isNumeralChar c = true) :
    isOneLine s = true :=
  isOneLine_of_not_control fun c hc => isNumeralChar_not_control (h c hc)

theorem isOneLine_ofInt {n : Int} {s : List Char} (h : ofInt n = .ok s) : isOneLine s = true := by
  rw [ofInt_eq_ok h]
  exact isOneLine_of_number (isNumeralChar_toString n)

theorem isOneLine_ofDouble {x : Double} {s : List Char} (h : ofDouble x = .ok s) :
    isOneLine s = true :=
  isOneLine_of_number (ofDouble_eq_ok h).1

theorem isOneLine_commaSeparated {items : List (List Char)}
    (h : ∀ s ∈ items, isOneLine s = true) : isOneLine (commaSeparated items) = true :=
  isOneLine_intercalate (by decide) h

mutual

theorem isOneLine_ofDatum [Text.View] {d : Datum} {s : List Char} (h : ofDatum d = .ok s) :
    isOneLine s = true := by
  cases d with
  | none =>
    cases h
    decide
  | bool b =>
    cases h
    cases b <;> decide
  | int n =>
    rw [ofDatum] at h
    exact isOneLine_ofInt h
  | double x =>
    rw [ofDatum] at h
    exact isOneLine_ofDouble h
  | text t | brokenText t =>
    cases h
    exact isOneLine_quote _
  | list items =>
    rw [ofDatum] at h
    obtain ⟨texts, htexts, h⟩ := Result.bind_eq_ok.mp h
    cases h
    simp [isOneLine_commaSeparated (isOneLine_ofData htexts), isBreak]
  | tuple items =>
    rw [ofDatum] at h
    obtain ⟨texts, htexts, h⟩ := Result.bind_eq_ok.mp h
    cases h
    have hitems := isOneLine_commaSeparated (isOneLine_ofData htexts)
    split <;> simp [hitems, isBreak]
  | dict entries | orderedDict entries =>
    rw [ofDatum] at h
    obtain ⟨texts, htexts, h⟩ := Result.bind_eq_ok.mp h
    cases h
    have hitems : isOneLine ([','].intercalate texts) = true :=
      isOneLine_intercalate (by decide) (isOneLine_ofEntries htexts)
    simp [hitems, isBreak]
  | _ => cases h

theorem isOneLine_ofData [Text.View] {items : List Datum} {texts : List (List Char)}
    (h : ofData items = .ok texts) : ∀ s ∈ texts, isOneLine s = true := by
  cases items with
  | nil =>
    cases h
    exact List.forall_mem_nil _
  | cons d items =>
    rw [ofData] at h
    obtain ⟨s, hs, h⟩ := Result.bind_eq_ok.mp h
    obtain ⟨rest, hrest, h⟩ := Result.bind_eq_ok.mp h
    cases h
    exact List.forall_mem_cons.mpr ⟨isOneLine_ofDatum hs, isOneLine_ofData hrest⟩

theorem isOneLine_ofEntries [Text.View] {entries : List (Datum × Datum)} {texts : List (List Char)}
    (h : ofEntries entries = .ok texts) : ∀ s ∈ texts, isOneLine s = true := by
  match entries with
  | [] =>
    cases h
    exact List.forall_mem_nil _
  | (key, d) :: entries =>
    rw [ofEntries] at h
    obtain ⟨name, -, h⟩ := Result.bind_eq_ok.mp h
    obtain ⟨s, hs, h⟩ := Result.bind_eq_ok.mp h
    obtain ⟨rest, hrest, h⟩ := Result.bind_eq_ok.mp h
    cases h
    refine List.forall_mem_cons.mpr ⟨?_, isOneLine_ofEntries hrest⟩
    simp [isOneLine_quote, isOneLine_ofDatum hs, isBreak]

end

/-- Options are on one line if their names are. -/
theorem isOneLine_writeOptions [Text.View] {options : Options} {s : List Char}
    (hnames : ∀ o ∈ options, isOneLine (Naming.snakeCase o.1.toList) = true)
    (h : options.write {} = .ok s) : isOneLine s = true := by
  have hitem : ∀ o ∈ options.canonical, ∀ item, Options.item {} o = .ok item →
      isOneLine item = true := by
    intro o ho item hitem
    have hoption : o ∈ options :=
      (List.mem_filter.mp (List.mem_mergeSort.mp ho)).1
    obtain ⟨value, hvalue, hitem⟩ := Result.bind_eq_ok.mp hitem
    cases hitem
    simp [hnames o hoption, isOneLine_ofDatum hvalue, isBreak]
  rw [Options.write_eq_map] at h
  obtain ⟨items, hitems, rfl⟩ := Result.map_eq_ok.mp h
  apply isOneLine_commaSeparated
  intro item hmem
  obtain ⟨o, ho, hwritten⟩ := Result.exists_of_mapM_eq_ok hitems hmem
  exact hitem o ho item hwritten

end Retrace.Literal
