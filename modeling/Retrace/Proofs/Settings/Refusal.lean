import Retrace.Proofs.Files.Tree
import Retrace.Proofs.Settings.Soundness
import Retrace.Proofs.Text.Utf8

/-!
# Files that are refused

A file that cannot be loaded should be refused: its fault names it, and the settings stay as
they are. A file that cannot be read, a text whose form is wrong and content that is no mapping
are refused. Bytes that are no text, values that mean nothing and a path that cannot be one are
not: their faults are passed on as they are.
-/

namespace Retrace.Settings

open Files Result Text

variable {t : Tree} {path : Path} {l : Loader} {fault : Fault}

/-- A refusal names the file. -/
def Fault.isRefusal : Fault → Bool
  | .document _ cause => cause.isOfDocument
  | .notAMapping _ => true
  | .unknownField _ => false

/-- The file is loaded, or it is refused and changes nothing. -/
def IsAnswered (t : Tree) (path : Path) (l : Loader) : Prop :=
  (∃ after, (loadFile t path).run l = (.ok (), after))
    ∨ ∃ fault, (loadFile t path).run l = (.error fault, l) ∧ fault.isRefusal = true

/-- Faults of what a text means: a scalar that does not fit its type, a key that cannot be one
or comes again in an ordered mapping, a version that there is not. -/
inductive IsOfMeaning : Yaml.Fault → Prop
  | scalar (fault : Yaml.ScalarFault) : IsOfMeaning (.scalar fault)
  | unhashable (kind : String) : IsOfMeaning (.unhashable kind)
  | repeatedKey : IsOfMeaning .repeatedKey
  | unknownVersion (minor : Nat) : IsOfMeaning (.unknownVersion minor)

/-- The faults that are passed on, and what makes them. -/
inductive Escapes (t : Tree) (path : Path) : Fault → Prop
  | path (h : path.hasNull = true) :
    Escapes t path (.document path (.unreadable ⟨.nullCharacter, path⟩))
  | bytes {bytes : List UInt8} {fault : Utf8.Fault} (hread : t.read path = .ok bytes)
    (htext : ∀ text, Utf8.encode text ≠ bytes) (hdecode : Utf8.decode bytes = .error fault) :
    Escapes t path (.document path (.encoding fault))
  | meaning {text : List Char} {fault : Yaml.Fault}
    (hread : t.read path = .ok (Utf8.encode text))
    (hload : Yaml.load (normaliseBreaks text) = .error fault) (hfault : IsOfMeaning fault) :
    Escapes t path (.document path (.yaml (normaliseBreaks text) fault))

/-! ## Reading a document -/

theorem readDocument_of_unreadable {fault : Files.Fault} (hread : t.read path = .error fault) :
    readDocument t path = .error (.unreadable fault) := by
  simp only [readDocument, Document.readText, hread]
  rfl

theorem readDocument_of_undecodable {bytes : List UInt8} {fault : Utf8.Fault}
    (hread : t.read path = .ok bytes) (hdecode : Utf8.decode bytes = .error fault) :
    readDocument t path = .error (.encoding fault) := by
  simp only [readDocument, Document.readText, hread, Except.mapError, bind, Except.bind, hdecode]

theorem readDocument_of_encode {text : List Char}
    (hread : t.read path = .ok (Utf8.encode text)) :
    readDocument t path = (Yaml.load (normaliseBreaks text)).mapError
      (.yaml (normaliseBreaks text)) := by
  have hdecode : Utf8.decode (Utf8.encode text) = .ok text := Utf8.decode_eq_ok_iff.mpr rfl
  simp only [readDocument, Document.readText, hread, Except.mapError, bind, Except.bind, hdecode]
  rfl

theorem isOfMeaning_iff {fault : Yaml.Fault} : IsOfMeaning fault ↔ fault.isComplaint = false := by
  constructor
  · intro h
    cases h <;> rfl
  · intro h
    cases fault with
    | unprintable => cases h
    | complaint => cases h
    | scalar fault => exact .scalar fault
    | unhashable kind => exact .unhashable kind
    | repeatedKey => exact .repeatedKey
    | unknownVersion minor => exact .unknownVersion minor

/-- The path, the bytes and the text are looked at in turn, and each of them can be at fault. -/
theorem escapes_of_readDocument {cause : Document.Cause}
    (h : readDocument t path = .error cause) (hcause : cause.isOfDocument = false) :
    Escapes t path (.document path cause) := by
  cases hread : t.read path with
  | error unread =>
    rw [readDocument_of_unreadable hread] at h
    cases h
    have hunread : unread.cause = .nullCharacter := by
      simpa [Document.Cause.isOfDocument] using hcause
    cases hnull : path.hasNull with
    | true =>
      rw [t.read_of_hasNull hnull] at hread
      cases hread
      exact .path hnull
    | false => exact absurd hunread (t.failsOnly_read hnull unread hread)
  | ok bytes =>
    cases hdecode : Utf8.decode bytes with
    | error undecoded =>
      rw [readDocument_of_undecodable hread hdecode] at h
      cases h
      refine .bytes hread ?_ hdecode
      rintro text rfl
      rw [Utf8.decode_eq_ok_iff.mpr rfl] at hdecode
      cases hdecode
    | ok text =>
      obtain rfl := Utf8.decode_eq_ok_iff.mp hdecode
      rw [readDocument_of_encode hread] at h
      cases hload : Yaml.load (normaliseBreaks text) with
      | ok content =>
        rw [hload] at h
        cases h
      | error unloaded =>
        rw [hload] at h
        cases h
        exact .meaning hread hload (isOfMeaning_iff.mpr hcause)

/-- A fault that is passed on comes from the document and is no refusal. -/
theorem Escapes.exists_cause (h : Escapes t path fault) :
    ∃ cause, fault = .document path cause ∧ readDocument t path = .error cause
      ∧ cause.isOfDocument = false := by
  cases h with
  | path hnull => exact ⟨_, rfl, readDocument_of_unreadable (t.read_of_hasNull hnull), rfl⟩
  | bytes hread _ hdecode => exact ⟨_, rfl, readDocument_of_undecodable hread hdecode, rfl⟩
  | meaning hread hload hfault =>
    refine ⟨_, rfl, ?_, isOfMeaning_iff.mp hfault⟩
    rw [readDocument_of_encode hread, hload]
    rfl

/-! ## Loading a file -/

theorem run_loadFile_of_readDocument {cause : Document.Cause}
    (h : readDocument t path = .error cause) :
    (loadFile t path).run l = (.error (.document path cause), l) := by
  rw [run_loadFile, applyFile, h]
  rfl

/-- What has been read is loaded, or it is refused because it is no mapping. -/
theorem isAnswered_of_readDocument {content : Datum} (h : readDocument t path = .ok content) :
    IsAnswered t path l := by
  rw [IsAnswered, run_loadFile, applyFile_of_readDocument h, applyContent]
  split_ifs
  · exact .inl ⟨_, rfl⟩
  · cases content.entries? with
    | some entries => exact .inl ⟨_, rfl⟩
    | none => exact .inr ⟨_, rfl, rfl⟩

theorem IsAnswered.isRefusal (h : IsAnswered t path l)
    (hrun : (loadFile t path).run l = (.error fault, l)) : fault.isRefusal = true := by
  obtain ⟨after, hafter⟩ | ⟨refusal, hrefusal, hnamed⟩ := h
  · rw [hafter] at hrun
    cases hrun
  · rw [hrefusal] at hrun
    cases hrun
    exact hnamed

theorem escapes_iff (l : Loader) :
    Escapes t path fault
      ↔ (loadFile t path).run l = (.error fault, l) ∧ fault.isRefusal = false := by
  constructor
  · intro h
    obtain ⟨cause, rfl, hread, hcause⟩ := h.exists_cause
    exact ⟨run_loadFile_of_readDocument hread, hcause⟩
  · rintro ⟨hrun, hfault⟩
    cases hread : readDocument t path with
    | error cause =>
      rw [run_loadFile_of_readDocument hread] at hrun
      cases hrun
      exact escapes_of_readDocument hread hfault
    | ok content =>
      rw [(isAnswered_of_readDocument hread).isRefusal hrun] at hfault
      cases hfault

theorem isAnswered_iff (l : Loader) : IsAnswered t path l ↔ ∀ fault, ¬ Escapes t path fault := by
  constructor
  · intro hanswered fault hescapes
    obtain ⟨hrun, hfault⟩ := (escapes_iff l).mp hescapes
    rw [hanswered.isRefusal hrun] at hfault
    cases hfault
  · intro hnone
    cases hread : readDocument t path with
    | ok content => exact isAnswered_of_readDocument hread
    | error cause =>
      refine .inr ⟨_, run_loadFile_of_readDocument hread, ?_⟩
      by_contra hcause
      exact hnone _ (escapes_of_readDocument hread ((Bool.not_eq_true _).mp hcause))

/-- A file is loaded or refused unless its path cannot be one, its bytes are no text or its text
has a value that means nothing. Each of these faults is passed on as it is. Where there is no file
to read, that is refused. -/
theorem run_loadFile_escapes (t : Tree) (path : Path) (l : Loader) :
    (IsAnswered t path l ↔ ∀ fault, ¬ Escapes t path fault)
      ∧ (∀ fault, Escapes t path fault
        ↔ (loadFile t path).run l = (.error fault, l) ∧ fault.isRefusal = false)
      ∧ (path.hasNull = true ∨ (∃ bytes, t.read path = .ok bytes)
        ∨ ∃ fault, (loadFile t path).run l = (.error fault, l) ∧ fault.isRefusal = true) := by
  refine ⟨isAnswered_iff l, fun fault => escapes_iff l, ?_⟩
  cases hnull : path.hasNull with
  | true => exact .inl rfl
  | false =>
    cases hread : t.read path with
    | ok bytes => exact .inr (.inl ⟨bytes, rfl⟩)
    | error unread =>
      refine .inr (.inr ⟨_, run_loadFile_of_readDocument (readDocument_of_unreadable hread), ?_⟩)
      simpa [Fault.isRefusal, Document.Cause.isOfDocument]
        using t.failsOnly_read hnull unread hread

/-- A file with a single byte that begins no character, and one with a day that there is not. -/
theorem run_loadFile_unanswered :
    ¬ IsAnswered ⟨[(defaultFile, .file [0xff])]⟩ defaultFile {}
      ∧ ¬ IsAnswered ⟨[(defaultFile, .file "language: 2024-13-45".toUTF8.data.toList)]⟩
        defaultFile {} := by
  have hunanswered {t : Tree}
      (h : (fault? (readDocument t defaultFile)).map Document.Cause.isOfDocument = some false) :
      ¬ IsAnswered t defaultFile {} := by
    obtain ⟨cause, hread, hcause⟩ := Option.map_eq_some_iff.mp h
    rw [isAnswered_iff]
    intro hnone
    exact hnone _ (escapes_of_readDocument (fault?_eq_some_iff.mp hread) hcause)
  exact ⟨hunanswered (by decide +kernel), hunanswered (by decide +kernel)⟩

end Retrace.Settings
