import Retrace.Proofs.Literal.RoundTrip
import Retrace.Proofs.Script.Assembly
import Retrace.Proofs.Script.Integrity

/-!
# Recordings without a script

Once the header of a script is written, two things can stand in the way of the
rest: a frame that cannot be addressed, and a position that is not finite. The
first entry with one of them decides on the fault, and its frame is looked at
before its position.
-/

namespace Retrace.Script

open Literal Recording

/-! ## Faults of entries -/

/-- A frame that is neither the main one nor to be found by selectors, by name or by address. -/
structure IsUnaddressable (f : Frame) (navigation : Bool) : Prop where
  inner : f.isMainFrame = false
  chain : f.selectorsChain = [] ∨ navigation = true
  name : f.name = none ∨ f.name = some ""
  url : f.url = none ∨ f.url = some ""

/-- An entry with a call, but without anything to call a method on. -/
def HasNoTarget (e : Entry) : Prop :=
  (∀ url, e.action.operation ≠ .openPage url) ∧
    IsUnaddressable e.frame (isNavigation e.action.operation)

/-- The first coordinate that is not finite. -/
def nonFinite? (p : Point) : Option Double := [p.x, p.y].find? fun x => !x.isFinite

/-- A click at a position with a coordinate that is not finite, the first of them being `x`. -/
def HasNonFinite (e : Entry) (x : Double) : Prop :=
  ∃ c p, e.action.operation = .click c ∧ c.position = some p ∧ nonFinite? p = some x

def IsFaulty (e : Entry) : Prop := HasNoTarget e ∨ ∃ x, HasNonFinite e x

/-- The fault of an entry at a place in a recording. -/
inductive FaultAt (place : Nat) (e : Entry) : Fault → Prop
  | frame (h : HasNoTarget e) : FaultAt place e (.unaddressable e.frame)
  | position (htarget : ¬ HasNoTarget e) {x : Double} (h : HasNonFinite e x) :
    FaultAt place e (.unsupportedValue (.double x) (some place))

theorem isFaulty_iff (place : Nat) (e : Entry) : IsFaulty e ↔ ∃ fault, FaultAt place e fault := by
  constructor
  · intro h
    by_cases htarget : HasNoTarget e
    · exact ⟨_, .frame htarget⟩
    · obtain ⟨x, hx⟩ := h.resolve_left htarget
      exact ⟨_, .position htarget hx⟩
  · rintro ⟨_, h | ⟨-, h⟩⟩
    · exact .inl h
    · exact .inr ⟨_, h⟩

/-! ## Frames -/

theorem usable?_eq_none_iff (s : Option String) : usable? s = none ↔ s = none ∨ s = some "" := by
  cases s with
  | none => simp [usable?]
  | some s => simp [usable?]

theorem target?_eq_none_iff (f : Frame) (navigation : Bool) :
    target? f navigation = none ↔ IsUnaddressable f navigation := by
  unfold target?
  split_ifs with hmain hchain
  · simp only [false_iff]
    intro h
    rw [h.inner] at hmain
    cases hmain
  · simp only [false_iff]
    intro h
    obtain hnil | hnavigation := h.chain
    · simp [hnil] at hchain
    · simp [hnavigation] at hchain
  · have hgiven : (f.selectorsChain = [] ∨ navigation = true) := by
      simpa [or_iff_not_imp_left] using hchain
    constructor
    · intro h
      have hnone : usable? f.name = none ∧ usable? f.url = none := by
        cases hname : usable? f.name <;> cases hurl : usable? f.url <;> simp_all
      exact ⟨by simpa using hmain, hgiven, (usable?_eq_none_iff _).mp hnone.1,
        (usable?_eq_none_iff _).mp hnone.2⟩
    · intro h
      rw [(usable?_eq_none_iff _).mpr h.name, (usable?_eq_none_iff _).mpr h.url]

theorem subject_of_isUnaddressable {f : Frame} {navigation : Bool}
    (h : IsUnaddressable f navigation) : subject f navigation = .error (.unaddressable f) := by
  rw [subject_eq, (target?_eq_none_iff f navigation).mpr h]

theorem exists_subject {f : Frame} {navigation : Bool} (h : ¬ IsUnaddressable f navigation) :
    ∃ s, subject f navigation = .ok s := by
  rw [← target?_eq_none_iff, ← Ne, Option.ne_none_iff_exists'] at h
  obtain ⟨target, htarget⟩ := h
  rw [subject_eq, htarget]
  exact ⟨_, rfl⟩

/-! ## Positions -/

theorem ofEntries_text_cons (name : String) (d : Datum) (es : List (Datum × Datum)) :
    ofEntries ((.text name, d) :: es) = do
      let item ← ofDatum d
      let items ← ofEntries es
      return (quote name.toList ++ ':' :: item) :: items := by
  rw [ofEntries]
  rfl

/-- The coordinates of a position are written from the first to the last. -/
theorem ofDatum_point (p : Point) :
    ofDatum p.toDatum = do
      let x ← ofDouble p.x
      let y ← ofDouble p.y
      let items := [quote "x".toList ++ ':' :: x, quote "y".toList ++ ':' :: y]
      return '\x7b' :: [','].intercalate items ++ ['\x7d'] := by
  have hentries : ofEntries [(.text "x", .double p.x), (.text "y", .double p.y)] = do
      let x ← ofDouble p.x
      let y ← ofDouble p.y
      return [quote "x".toList ++ ':' :: x, quote "y".toList ++ ':' :: y] := by
    rw [ofEntries_text_cons, ofEntries_text_cons, ofDatum, ofDatum]
    cases ofDouble p.x with
    | error fault => rfl
    | ok x => cases ofDouble p.y <;> rfl
  change (do
    let items ← ofEntries [(.text "x", .double p.x), (.text "y", .double p.y)]
    return '\x7b' :: [','].intercalate items ++ ['\x7d']) = _
  rw [hentries]
  cases ofDouble p.x with
  | error fault => rfl
  | ok x => cases ofDouble p.y <;> rfl

theorem exists_ofDatum_point {p : Point} (h : nonFinite? p = none) :
    ∃ s, ofDatum p.toDatum = .ok s := by
  obtain ⟨hx, hy⟩ : p.x.isFinite = true ∧ p.y.isFinite = true := by
    simpa [nonFinite?] using h
  obtain ⟨x, hx⟩ := ofDouble_of_isFinite hx
  obtain ⟨y, hy⟩ := ofDouble_of_isFinite hy
  rw [ofDatum_point, hx, hy]
  exact ⟨_, rfl⟩

theorem ofDatum_point_of_nonFinite {p : Point} {x : Double} (h : nonFinite? p = some x) :
    ofDatum p.toDatum = .error (.unsupported (.double x)) := by
  rw [ofDatum_point]
  cases hx : p.x.isFinite with
  | false =>
    obtain rfl : p.x = x := by simpa [nonFinite?, hx] using h
    rw [ofDouble_of_not_isFinite hx]
    rfl
  | true =>
    obtain ⟨s, hs⟩ := ofDouble_of_isFinite hx
    cases hy : p.y.isFinite with
    | false =>
      obtain rfl : p.y = x := by simpa [nonFinite?, hx, hy] using h
      rw [hs, ofDouble_of_not_isFinite hy]
      rfl
    | true => simp [nonFinite?, hx, hy] at h

/-! ## Calls -/

theorem exists_item {name : String} {d : Datum} (h : ∃ s, ofDatum d = .ok s) :
    ∃ s, Options.item {} (name, d) = .ok s := by
  obtain ⟨s, hs⟩ := h
  rw [Options.item, hs]
  exact ⟨_, rfl⟩

theorem item_of_error {name : String} {d : Datum} {fault : Literal.Fault}
    (h : ofDatum d = .error fault) : Options.item {} (name, d) = .error fault := by
  rw [Options.item, h]
  rfl

theorem exists_item_buttonOptions (c : Click) :
    ∀ o ∈ buttonOptions c, ∃ s, Options.item {} o = .ok s := by
  intro o ho
  unfold buttonOptions at ho
  split at ho
  · cases ho
  · rw [List.mem_singleton.mp ho]
    exact exists_item ⟨_, ofDatum_text _⟩

/-- Numbers of limited length, keys and buttons have literals. -/
theorem exists_item_of_mem {c : Click} (hcount : c.clickCount < 10 ^ Numeral.digitLimit) :
    ∀ o ∈ buttonOptions c ++ countOptions c ++ modifierOptions c,
      ∃ s, Options.item {} o = .ok s := by
  intro o ho
  simp only [List.mem_append] at ho
  obtain (ho | ho) | ho := ho
  · exact exists_item_buttonOptions c o ho
  · unfold countOptions at ho
    split at ho
    · rw [List.mem_singleton.mp ho]
      apply exists_item
      rw [ofDatum]
      exact ⟨_, ofInt_of_lt (by simpa using hcount)⟩
    · cases ho
  · unfold modifierOptions at ho
    split at ho
    · cases ho
    · rw [List.mem_singleton.mp ho]
      exact exists_item ⟨_, ofDatum_texts _⟩

theorem writeOptions_of_nonFinite {c : Click} {p : Point} {x : Double}
    (hcount : c.clickCount < 10 ^ Numeral.digitLimit) (hposition : c.position = some p)
    (hx : nonFinite? p = some x) :
    writeOptions (clickOptions c) = .error (.unsupportedValue (.double x) none) := by
  obtain ⟨items, hitems⟩ := Result.exists_mapM_eq_ok (exists_item_of_mem hcount)
  have hlast : (positionOptions c).mapM (Options.item {}) = .error (.unsupported (.double x)) := by
    rw [positionOptions, hposition]
    change (do
      let item ← Options.item {} ("position", p.toDatum)
      let items ← List.mapM (Options.item {}) []
      return item :: items) = _
    rw [item_of_error (ofDatum_point_of_nonFinite hx)]
    rfl
  rw [writeOptions, Options.write_eq_map, canonical_clickOptions, Result.mapM_append_of_ok hitems,
    hlast]
  rfl

theorem exists_writeOptions {c : Click} (hcount : c.clickCount < 10 ^ Numeral.digitLimit)
    (hposition : ∀ p ∈ c.position, nonFinite? p = none) :
    ∃ s, writeOptions (clickOptions c) = .ok s := by
  have hlast : ∀ o ∈ positionOptions c, ∃ s, Options.item {} o = .ok s := by
    intro o ho
    unfold positionOptions at ho
    split at ho
    · next p hp =>
      rw [List.mem_singleton.mp ho]
      exact exists_item (exists_ofDatum_point (hposition p hp))
    · cases ho
  have hall : ∀ o ∈ (clickOptions c).canonical, ∃ s, Options.item {} o = .ok s := by
    rw [canonical_clickOptions]
    intro o ho
    obtain ho | ho := List.mem_append.mp ho
    · exact exists_item_of_mem hcount o ho
    · exact hlast o ho
  obtain ⟨items, hitems⟩ := Result.exists_mapM_eq_ok hall
  rw [writeOptions, Options.write_eq_map, hitems]
  exact ⟨_, rfl⟩

theorem exists_callOf {o : Operation} (hopen : ∀ url, o ≠ .openPage url)
    (hclick : ∀ c, o = .click c → c.clickCount < 10 ^ Numeral.digitLimit
      ∧ ∀ p ∈ c.position, nonFinite? p = none) : ∃ call, callOf o = .ok call := by
  have hmany (selector method : String) (texts : List String) :
      ∃ call, (do return onElement selector method (← literal (oneOrMany texts))) = .ok call := by
    obtain ⟨s, -, hs, -⟩ := ofDatum_oneOrMany (rfl : texts.length = texts.length)
    rw [literal, hs]
    exact ⟨_, rfl⟩
  cases o with
  | openPage url => exact absurd rfl (hopen url)
  | closePage => exact ⟨_, rfl⟩
  | click c =>
    obtain ⟨hcount, hposition⟩ := hclick c rfl
    obtain ⟨s, hs⟩ := exists_writeOptions hcount hposition
    rw [callOf, hs]
    exact ⟨_, rfl⟩
  | check selector => exact ⟨_, rfl⟩
  | uncheck selector => exact ⟨_, rfl⟩
  | fill selector text => exact ⟨_, rfl⟩
  | setInputFiles selector files => exact hmany selector "set_input_files" files
  | press selector key modifiers => exact ⟨_, rfl⟩
  | navigate url => exact ⟨_, rfl⟩
  | select selector options => exact hmany selector "select_option" options

/-! ## Entries -/

/-- Counts of clicks that are short enough to be written. -/
def HasShortCount (e : Entry) : Prop :=
  ∀ c, e.action.operation = .click c → c.clickCount < 10 ^ Numeral.digitLimit

section

variable {style : Style} {adapter : Adapter} {e : Entry}

theorem fragment_of_nodes_error {fault : Fault} (h : nodes style adapter e = .error fault) :
    fragment style adapter e = .error fault := by
  rw [fragment, h]
  rfl

theorem fragment_of_hasNoTarget (h : HasNoTarget e) :
    fragment style adapter e = .error (.unaddressable e.frame) := by
  apply fragment_of_nodes_error
  rw [nodes_of_call h.1, subject_of_isUnaddressable h.2]
  rfl

theorem exists_subject_of_not_hasNoTarget (hopen : ∀ url, e.action.operation ≠ .openPage url)
    (h : ¬ HasNoTarget e) :
    ∃ s, subject e.frame (isNavigation e.action.operation) = .ok s :=
  exists_subject fun hframe => h ⟨hopen, hframe⟩

theorem fragment_of_hasNonFinite {x : Double} (hcount : HasShortCount e) (htarget : ¬ HasNoTarget e)
    (h : HasNonFinite e x) :
    fragment .selector adapter e = .error (.unsupportedValue (.double x) none) := by
  obtain ⟨c, p, hclick, hposition, hx⟩ := h
  have hopen : ∀ url, e.action.operation ≠ .openPage url := by
    rw [hclick]
    intro url hurl
    cases hurl
  obtain ⟨s, hs⟩ := exists_subject_of_not_hasNoTarget hopen htarget
  have hcall : writeOperation .selector adapter e.action.operation
      = .error (.unsupportedValue (.double x) none) := by
    rw [hclick, writeOperation, callOf,
      writeOptions_of_nonFinite (hcount c hclick) hposition hx]
    rfl
  apply fragment_of_nodes_error
  rw [nodes_of_call hopen, hs, hcall]
  rfl

theorem exists_fragment (hcount : HasShortCount e) (h : ¬ IsFaulty e) :
    ∃ s, fragment .selector adapter e = .ok s := by
  obtain ⟨htarget, hfinite⟩ := not_or.mp h
  by_cases hopen : ∃ url, e.action.operation = .openPage url
  · obtain ⟨url, hurl⟩ := hopen
    rw [fragment, nodes_openPage hurl]
    exact ⟨_, rfl⟩
  · have hnot : ∀ url, e.action.operation ≠ .openPage url := not_exists.mp hopen
    obtain ⟨s, hs⟩ := exists_subject_of_not_hasNoTarget hnot htarget
    have hclick : ∀ c, e.action.operation = .click c → c.clickCount < 10 ^ Numeral.digitLimit
        ∧ ∀ p ∈ c.position, nonFinite? p = none := by
      intro c hc
      refine ⟨hcount c hc, ?_⟩
      intro p hp
      by_contra hne
      obtain ⟨x, hx⟩ := Option.ne_none_iff_exists'.mp hne
      exact hfinite ⟨x, c, p, hc, hp, hx⟩
    obtain ⟨call, hcall⟩ := exists_callOf hnot hclick
    have hwrite : writeOperation .selector adapter e.action.operation = .ok call.text := by
      rw [writeOperation, hcall]
      exact call.write_selector adapter
    rw [fragment, nodes_of_call hnot, hs, hwrite]
    exact ⟨_, rfl⟩

end

theorem exists_fragment_iff {adapter : Adapter} {e : Entry} (hcount : HasShortCount e) :
    (∃ s, fragment .selector adapter e = .ok s) ↔ ¬ IsFaulty e := by
  constructor
  · rintro ⟨s, hs⟩ hfaulty
    by_cases htarget : HasNoTarget e
    · rw [fragment_of_hasNoTarget htarget] at hs
      cases hs
    · obtain ⟨x, hx⟩ := hfaulty.resolve_left htarget
      rw [fragment_of_hasNonFinite hcount htarget hx] at hs
      cases hs
  · exact exists_fragment hcount

/-- The fault of a fragment, with its place, is that of the entry. -/
theorem fragment_eq_error_iff {adapter : Adapter} {e : Entry} (hcount : HasShortCount e)
    (place : Nat) (fault : Fault) :
    (fragment .selector adapter e).mapError (.placed place) = .error fault
      ↔ FaultAt place e fault := by
  constructor
  · intro h
    by_cases htarget : HasNoTarget e
    · rw [fragment_of_hasNoTarget htarget] at h
      cases h
      exact .frame htarget
    · by_cases hposition : ∃ x, HasNonFinite e x
      · obtain ⟨x, hx⟩ := hposition
        rw [fragment_of_hasNonFinite hcount htarget hx] at h
        cases h
        exact .position htarget hx
      · have hwritten : ∃ s, fragment .selector adapter e = .ok s :=
          exists_fragment hcount (not_or.mpr ⟨htarget, hposition⟩)
        obtain ⟨s, hs⟩ := hwritten
        rw [hs] at h
        cases h
  · rintro (htarget | ⟨htarget, hx⟩)
    · rw [fragment_of_hasNoTarget htarget]
      rfl
    · rw [fragment_of_hasNonFinite hcount htarget hx]
      rfl

/-! ## Recordings -/

/-- A run over a list fails where the first item has a fault. -/
theorem fragmentsFrom_eq_error_iff {α : Type} {write : α → Except Fault (List Char)} {index : Nat}
    {l : List α} {fault : Fault} :
    fragmentsFrom write index l = .error fault ↔
      ∃ before a after, l = before ++ a :: after ∧ (∀ b ∈ before, ∃ s, write b = .ok s)
        ∧ (write a).mapError (.placed (index + before.length)) = .error fault :=
  (isTraversal_fragmentsFrom write).eq_error_iff

/-- Of the items with a property there is a first one. -/
theorem exists_first {α : Type} {p : α → Prop} {l : List α} {a : α} (ha : a ∈ l) (h : p a) :
    ∃ before b after, l = before ++ b :: after ∧ (∀ c ∈ before, ¬ p c) ∧ p b := by
  classical
  have hsome : (l.find? fun b => p b).isSome = true :=
    List.find?_isSome.mpr ⟨a, ha, by simpa using h⟩
  obtain ⟨b, hb⟩ := Option.isSome_iff_exists.mp hsome
  obtain ⟨hpb, before, after, hl, hbefore⟩ := List.find?_eq_some_iff_append.mp hb
  exact ⟨before, b, after, hl, by simpa using hbefore, by simpa using hpb⟩

/-- Behind a header, a script fails where its fragments do. -/
theorem script_eq_error_iff_fragmentsFrom [Text.View] {g : Generator} {recording : List Entry}
    {options : Options} {saveStorage : Option String} {head : List Char} {fault : Fault}
    (hhead : header g.language options = .ok head) :
    g.script recording options saveStorage = .error fault
      ↔ fragmentsFrom g.fragment 0 recording = .error fault := by
  rw [Generator.script, assemble, hhead]
  exact Result.map_eq_error

/-- A script fails at the first entry whose frame has no address or whose position is not
finite, with the fault of this entry, and for no other reason. -/
theorem script_eq_error_iff [Text.View] {language : Language} {adapter : Adapter}
    {recording : List Entry} {options : Options} {saveStorage : Option String} {head : List Char}
    (hhead : header language options = .ok head) (hcounts : ∀ e ∈ recording, HasShortCount e) :
    (∀ fault, (Generator.mk language .selector adapter).script recording options saveStorage
        = .error fault ↔
      ∃ before e after, recording = before ++ e :: after ∧ (∀ a ∈ before, ¬ IsFaulty a)
        ∧ FaultAt before.length e fault)
      ∧ ((∃ fault, (Generator.mk language .selector adapter).script recording options saveStorage
            = .error fault) ↔ ∃ e ∈ recording, IsFaulty e)
      ∧ ∀ kind index, (Generator.mk language .selector adapter).script recording options saveStorage
          ≠ .error (.unsupportedAction kind index) := by
  have hfirst (fault : Fault) :
      (Generator.mk language .selector adapter).script recording options saveStorage = .error fault
        ↔ ∃ before e after, recording = before ++ e :: after ∧ (∀ a ∈ before, ¬ IsFaulty a)
          ∧ FaultAt before.length e fault := by
    rw [script_eq_error_iff_fragmentsFrom hhead, fragmentsFrom_eq_error_iff]
    apply exists_congr
    intro before
    apply exists_congr
    intro e
    apply exists_congr
    intro after
    apply and_congr_right
    rintro rfl
    have hbefore : (∀ a ∈ before, ∃ s, fragment .selector adapter a = .ok s)
        ↔ ∀ a ∈ before, ¬ IsFaulty a := by
      apply forall₂_congr
      intro a ha
      exact exists_fragment_iff (hcounts a (by simp [ha]))
    rw [Nat.zero_add]
    exact and_congr hbefore (fragment_eq_error_iff (hcounts e (by simp)) before.length fault)
  refine ⟨hfirst, ?_, ?_⟩
  · constructor
    · rintro ⟨fault, h⟩
      obtain ⟨before, e, after, rfl, -, hfault⟩ := (hfirst fault).mp h
      exact ⟨e, by simp, (isFaulty_iff _ e).mpr ⟨fault, hfault⟩⟩
    · rintro ⟨e, he, hfaulty⟩
      obtain ⟨before, e, after, rfl, hbefore, he⟩ := exists_first he hfaulty
      obtain ⟨fault, hfault⟩ := (isFaulty_iff before.length e).mp he
      exact ⟨fault, (hfirst fault).mpr ⟨before, e, after, rfl, hbefore, hfault⟩⟩
  · intro kind index h
    obtain ⟨before, e, after, -, -, hfault⟩ := (hfirst _).mp h
    cases hfault

/-- A click at a position that is no number, in a page that can be addressed. -/
def astray : Entry :=
  ⟨⟨"page", true, [], none, none⟩,
    ⟨.click ⟨"#a", .left, [], 1, some ⟨⟨0x3ff0000000000000⟩, .nan⟩⟩, []⟩⟩

/-- A click behind an entry that is written: it carries its place. -/
theorem script_eq_error_iff_astray :
    (∃ head, header .python {} = .ok head)
      ∧ (∀ e ∈ [filling "#a" "#b" "x", astray], HasShortCount e)
      ∧ (Generator.mk .python .selector .ok).script [filling "#a" "#b" "x", astray] {} none
        = .error (.unsupportedValue (.double .nan) (some 1)) := by
  have hcounts : ∀ e ∈ [filling "#a" "#b" "x", astray], HasShortCount e := by
    intro e he c hc
    obtain rfl | he := List.mem_cons.mp he
    · cases hc
    · rw [List.mem_singleton.mp he] at hc
      cases hc
      exact Nat.one_lt_pow (by decide) (by decide)
  have hok : (header .python {}).toOption.isSome = true := by decide +kernel
  have hwritten : ¬ IsFaulty (filling "#a" "#b" "x") := by
    rintro (⟨-, h⟩ | ⟨x, c, p, h, -⟩)
    · obtain hnil | hnavigation := h.chain
      · cases hnil
      · cases hnavigation
    · cases h
  have hastray : FaultAt 1 astray (.unsupportedValue (.double .nan) (some 1)) := by
    apply FaultAt.position
    · rintro ⟨-, h⟩
      cases h.inner
    · exact ⟨_, _, rfl, rfl, by decide⟩
  cases hhead : header .python {} with
  | error fault =>
    rw [hhead] at hok
    cases hok
  | ok head =>
    obtain ⟨hfirst, -, -⟩ := @script_eq_error_iff _ .python .ok _ _ none _ hhead hcounts
    refine ⟨⟨head, rfl⟩, hcounts, (hfirst _).mpr ?_⟩
    exact ⟨[filling "#a" "#b" "x"], astray, [], rfl, by simpa using hwritten, hastray⟩

end Retrace.Script
