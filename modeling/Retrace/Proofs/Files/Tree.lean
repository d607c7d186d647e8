import Retrace.Files.Tree
import Retrace.Proofs.Result

/-!
# What changes of a tree keep

Entries are added where there were none, and only a file that is written gets other content.
So a path that leads somewhere goes on leading there, and what stands anywhere else stays as it
is. Directories are made once: to make them again changes nothing, also if they could not be
made.
-/

namespace Retrace.Files

/-- Where a path leads if it leads anywhere. -/
def Path.location (p : Path) : Location := p.names.foldl Path.enter { p with names := [] }

namespace Tree

open Result

variable {t t' t'' : Tree} {p : Path} {l here : Location} {names : List String} {name : String}
  {content : List UInt8} {written : Option Location}

/-! ## Steps along a path -/

theorem walk_cons_eq_ok :
    t.walk here (name :: names) = .ok l ↔ t.find? here = some .directory
      ∧ name.utf8ByteSize ≤ nameLimit ∧ t.walk (here.enter name) names = .ok l := by
  rw [walk]
  split
  · next h => simp [h]
  · next h => simp [h]
  · next h =>
    split_ifs with hlong
    · simp [Nat.not_le.mpr hlong]
    · simp [h, Nat.not_lt.mp hlong]

theorem walk_append_eq_ok {more : List String} :
    t.walk here (names ++ more) = .ok l
      ↔ ∃ m, t.walk here names = .ok m ∧ t.walk m more = .ok l := by
  induction names generalizing here with
  | nil => simp [walk]
  | cons name names ih =>
    rw [List.cons_append, walk_cons_eq_ok, ih]
    simp only [walk_cons_eq_ok]
    constructor
    · rintro ⟨hhere, hname, m, hm, hl⟩
      exact ⟨m, ⟨hhere, hname, hm⟩, hl⟩
    · rintro ⟨m, ⟨hhere, hname, hm⟩, hl⟩
      exact ⟨hhere, hname, m, hm, hl⟩

theorem eq_foldl_of_walk (h : t.walk here names = .ok l) : l = names.foldl Path.enter here := by
  induction names generalizing here with
  | nil =>
    cases h
    rfl
  | cons name names ih => exact ih (walk_cons_eq_ok.mp h).2.2

theorem locate_eq_ok :
    t.locate p = .ok l
      ↔ p.refusal? = none ∧ t.walk { p with names := [] } p.names = .ok l := by
  rw [locate]
  split
  · next h => simp [h]
  · next h => rw [mapError_eq_ok]; simp [h]

theorem eq_location_of_locate (h : t.locate p = .ok l) : l = p.location :=
  eq_foldl_of_walk (locate_eq_ok.mp h).2

/-! ## What succeeds -/

theorem read_eq_ok :
    t.read p = .ok content
      ↔ ∃ l, t.locate p = .ok l ∧ t.find? l = some (.file content) := by
  rw [read, bind_eq_ok]
  apply exists_congr
  intro l
  apply and_congr_right
  intro _
  split
  · next h => simp [h, pure, Except.pure]
  · next h => simp [h, throw, throwThe, MonadExceptOf.throw]
  · next h => simp [h, throw, throwThe, MonadExceptOf.throw]

theorem write_eq_ok :
    t.write p content = .ok t'
      ↔ ∃ l, t.locate p = .ok l ∧ t.find? l ≠ some .directory
        ∧ t.put l (.file content) = t' := by
  rw [write, bind_eq_ok]
  apply exists_congr
  intro l
  apply and_congr_right
  intro _
  split_ifs with h
  · simp [h]
  · simp [h, pure, Except.pure]

theorem makeDirectory_eq_ok :
    t.makeDirectory p = .ok t'
      ↔ ∃ l, t.locate p = .ok l ∧ t.find? l = none ∧ t.put l .directory = t' := by
  rw [makeDirectory, bind_eq_ok]
  apply exists_congr
  intro l
  apply and_congr_right
  intro _
  split_ifs with h
  · simp [Option.isSome_iff_ne_none.mp h]
  · simp [Option.not_isSome_iff_eq_none.mp h, pure, Except.pure]

theorem has_iff : t.has p = true ↔ ∃ l, t.locate p = .ok l ∧ t.find? l ≠ none := by
  rw [has]
  split
  · next l h => simp [h, Option.isSome_iff_ne_none]
  · next h => simp [h]

theorem isDirectory_iff :
    t.isDirectory p = true ↔ ∃ l, t.locate p = .ok l ∧ t.find? l = some .directory := by
  rw [isDirectory]
  split
  · next l h => simp [h]
  · next h => simp [h]

theorem has_of_read (h : t.read p = .ok content) : t.has p = true := by
  obtain ⟨l, hl, hfile⟩ := read_eq_ok.mp h
  exact has_iff.mpr ⟨l, hl, by simp [hfile]⟩

/-! ## Null characters -/

theorem failsOnly_walk (t : Tree) (here : Location) (names : List String) :
    FailsOnly (· ≠ .nullCharacter) (t.walk here names) := by
  induction names generalizing here with
  | nil => exact .ok _
  | cons name names ih =>
    rw [walk]
    split
    · exact .error nofun
    · exact .error nofun
    · split_ifs
      · exact .error nofun
      · exact ih _

theorem read_of_hasNull (t : Tree) (h : p.hasNull = true) :
    t.read p = .error ⟨.nullCharacter, p⟩ := by
  have hrefusal : p.refusal? = some .nullCharacter := if_pos h
  rw [read, locate, hrefusal]
  rfl

theorem refusal?_ne_nullCharacter (h : p.hasNull = false) :
    p.refusal? ≠ some .nullCharacter := by
  rw [Path.refusal?, h, if_neg Bool.false_ne_true]
  split_ifs <;> nofun

theorem failsOnly_read (t : Tree) (h : p.hasNull = false) :
    FailsOnly (fun fault => fault.cause ≠ .nullCharacter) (t.read p) := by
  refine .bind ?_ ?_
  · rw [locate]
    split
    · next cause hrefusal =>
      apply FailsOnly.error
      rintro rfl
      exact refusal?_ne_nullCharacter h hrefusal
    · exact .mapError (failsOnly_walk t _ _)
  · intro l _
    split
    · exact .ok _
    · exact .error nofun
    · exact .error nofun

/-! ## What is kept -/

/-- What is in a tree is there afterwards, and nothing about it has changed unless it is the
file at the location `written`, which is a file still. -/
structure Keeps (written : Option Location) (t t' : Tree) : Prop where
  entry : ∀ l e, t.find? l = some e → written ≠ some l → t'.find? l = some e
  file : ∀ l content, t.find? l = some (.file content) →
    ∃ content', t'.find? l = some (.file content')
  directory : ∀ l, t.find? l = some .directory → t'.find? l = some .directory

namespace Keeps

theorem refl (written : Option Location) (t : Tree) : Keeps written t t where
  entry _ _ h _ := h
  file _ content h := ⟨content, h⟩
  directory _ h := h

theorem trans (h : Keeps written t t') (h' : Keeps written t' t'') : Keeps written t t'' where
  entry l e he hl := h'.entry l e (h.entry l e he hl) hl
  file l content hl := by
    obtain ⟨content', hl'⟩ := h.file l content hl
    exact h'.file l content' hl'
  directory l hl := h'.directory l (h.directory l hl)

/-- What is kept as a whole is kept apart from any file. -/
theorem weaken (h : Keeps none t t') (written : Option Location) : Keeps written t t' where
  entry l e he _ := h.entry l e he nofun
  file := h.file
  directory := h.directory

theorem find?_ne_none (h : Keeps written t t') (hl : t.find? l ≠ none) : t'.find? l ≠ none := by
  obtain ⟨e, he⟩ := Option.ne_none_iff_exists'.mp hl
  cases e with
  | file content =>
    obtain ⟨content', hl'⟩ := h.file l content he
    simp [hl']
  | directory => simp [h.directory l he]

theorem walk (h : Keeps written t t') (hl : t.walk here names = .ok l) :
    t'.walk here names = .ok l := by
  induction names generalizing here with
  | nil => exact hl
  | cons name names ih =>
    obtain ⟨hhere, hname, hrest⟩ := walk_cons_eq_ok.mp hl
    exact walk_cons_eq_ok.mpr ⟨h.directory here hhere, hname, ih hrest⟩

theorem locate (h : Keeps written t t') (hl : t.locate p = .ok l) : t'.locate p = .ok l := by
  obtain ⟨hp, hwalk⟩ := locate_eq_ok.mp hl
  exact locate_eq_ok.mpr ⟨hp, h.walk hwalk⟩

theorem has (h : Keeps written t t') (hp : t.has p = true) : t'.has p = true := by
  obtain ⟨l, hl, hentry⟩ := has_iff.mp hp
  exact has_iff.mpr ⟨l, h.locate hl, h.find?_ne_none hentry⟩

/-- A file that is read somewhere else is read with the same content. -/
theorem read (h : Keeps written t t') (hp : t.read p = .ok content)
    (hother : written ≠ some p.location) : t'.read p = .ok content := by
  obtain ⟨l, hl, hfile⟩ := read_eq_ok.mp hp
  rw [← eq_location_of_locate hl] at hother
  exact read_eq_ok.mpr ⟨l, h.locate hl, h.entry l _ hfile hother⟩

end Keeps

/-! ## A single entry -/

theorem lookup_map_of_ne {entries : List (Location × Entry)} {m : Location} (h : m ≠ l)
    (e : Entry) :
    (entries.map fun x => if x.1 = l then (l, e) else x).lookup m = entries.lookup m := by
  induction entries with
  | nil => rfl
  | cons x entries ih =>
    obtain ⟨k, d⟩ := x
    by_cases hk : k = l
    · subst hk
      simp [List.lookup_cons, beq_eq_false_iff_ne.mpr h, ih]
    · simp [hk, List.lookup_cons, ih]

theorem find?_put_of_ne {m : Location} (h : m ≠ l) (e : Entry) :
    (t.put l e).find? m = t.find? m := by
  unfold put find?
  split
  · rfl
  · split
    · exact lookup_map_of_ne h e
    · simp [List.lookup_append, List.lookup_cons, beq_eq_false_iff_ne.mpr h]

theorem isGiven_eq_false (h : t.find? l ≠ some .directory) : l.isGiven = false := by
  rw [find?] at h
  split at h
  · exact absurd rfl h
  · next hgiven => simpa using hgiven

theorem keeps_put_new (h : t.find? l = none) (e : Entry) : Keeps none t (t.put l e) := by
  have hother {m : Location} {d : Entry} (hm : t.find? m = some d) :
      (t.put l e).find? m = some d := by
    have hne : m ≠ l := by
      rintro rfl
      rw [h] at hm
      cases hm
    rw [find?_put_of_ne hne, hm]
  exact ⟨fun m d hm _ => hother hm, fun m content hm => ⟨content, hother hm⟩,
    fun m hm => hother hm⟩

theorem keeps_put_file (h : t.find? l ≠ some .directory) (content : List UInt8) :
    Keeps (some l) t (t.put l (.file content)) where
  entry m e hm hne := by
    have hml : m ≠ l := by
      rintro rfl
      exact hne rfl
    rw [find?_put_of_ne hml, hm]
  file m old hm := by
    by_cases hml : m = l
    · subst hml
      exact ⟨content, find?_put t (isGiven_eq_false h) _⟩
    · exact ⟨old, by rw [find?_put_of_ne hml, hm]⟩
  directory m hm := by
    have hml : m ≠ l := by
      rintro rfl
      exact h hm
    rw [find?_put_of_ne hml, hm]

theorem keeps_write (h : t.write p content = .ok t') : Keeps (some p.location) t t' := by
  obtain ⟨l, hl, hfile, rfl⟩ := write_eq_ok.mp h
  rw [← eq_location_of_locate hl]
  exact keeps_put_file hfile content

theorem read_of_write (h : t.write p content = .ok t') : t'.read p = .ok content := by
  have hkeeps := keeps_write h
  obtain ⟨l, hl, hfile, rfl⟩ := write_eq_ok.mp h
  exact read_eq_ok.mpr ⟨l, hkeeps.locate hl, find?_put t (isGiven_eq_false hfile) _⟩

/-- A file that is written where there was nothing leaves everything else. -/
theorem keeps_write_new (hnew : t.has p = false) (h : t.write p content = .ok t') :
    Keeps none t t' := by
  obtain ⟨l, hl, -, rfl⟩ := write_eq_ok.mp h
  apply keeps_put_new
  by_contra hentry
  have hhas : t.has p = true := has_iff.mpr ⟨l, hl, hentry⟩
  rw [hnew] at hhas
  cases hhas

theorem keeps_makeDirectory (h : t.makeDirectory p = .ok t') : Keeps none t t' := by
  obtain ⟨l, -, hnone, rfl⟩ := makeDirectory_eq_ok.mp h
  exact keeps_put_new hnone _

theorem isDirectory_of_makeDirectory (h : t.makeDirectory p = .ok t') :
    t'.isDirectory p = true := by
  have hkeeps := keeps_makeDirectory h
  obtain ⟨l, hl, hnone, rfl⟩ := makeDirectory_eq_ok.mp h
  have hother : t.find? l ≠ some .directory := by
    rw [hnone]
    nofun
  exact isDirectory_iff.mpr ⟨l, hkeeps.locate hl, find?_put t (isGiven_eq_false hother) _⟩

/-! ## Directories on the way -/

theorem utf8ByteSize_intercalate_le (separator : String) (parts : List String) (part : String) :
    (separator.intercalate parts).utf8ByteSize
      ≤ (separator.intercalate (parts ++ [part])).utf8ByteSize := by
  by_cases hparts : parts = []
  · subst hparts
    exact Nat.zero_le _
  · rw [String.intercalate_append_of_ne_nil hparts (by simp)]
    simp only [String.utf8ByteSize_append]
    omega

theorem utf8ByteSize_toString_le (p : Path) (name : String) :
    p.toString.utf8ByteSize ≤ max 1 (p.child name).toString.utf8ByteSize := by
  have hnames := utf8ByteSize_intercalate_le "/" p.names name
  have hchild : p.names ++ [name] ≠ [] := by simp
  rw [Path.toString, Path.toString, Path.child]
  dsimp only
  rw [if_neg hchild]
  split_ifs with habsolute hnil
  · simp only [String.utf8ByteSize_append]
    omega
  · exact Nat.le_max_left 1 _
  · omega

theorem refusal?_of_child (h : (p.child name).refusal? = none) : p.refusal? = none := by
  have hsize := utf8ByteSize_toString_le p name
  have hlimit : 1 ≤ pathLimit := by decide
  unfold Path.refusal? at *
  split_ifs at h with hnull hlong
  have hnull' : ¬ p.hasNull = true := by
    intro hp
    apply hnull
    simp [Path.hasNull, Path.child] at hp ⊢
    exact .inl hp
  rw [if_neg hnull', if_neg (by omega)]

/-- What is reached lies in a directory. -/
theorem isDirectory_of_locate_child (h : t.locate (p.child name) = .ok l) :
    t.isDirectory p = true := by
  obtain ⟨hrefusal, hwalk⟩ := locate_eq_ok.mp h
  obtain ⟨m, hm, hstep⟩ := walk_append_eq_ok.mp hwalk
  exact isDirectory_iff.mpr
    ⟨m, locate_eq_ok.mpr ⟨refusal?_of_child hrefusal, hm⟩, (walk_cons_eq_ok.mp hstep).1⟩

theorem isDirectory_start (t : Tree) (p : Path) : t.isDirectory { p with names := [] } = true := by
  refine isDirectory_iff.mpr ⟨{ p with names := [] }, locate_eq_ok.mpr ⟨?_, rfl⟩, rfl⟩
  cases h : p.isAbsolute <;> decide

/-! ## Making directories -/

end Tree

namespace Change

theorem next_of_none {c : Change} {f : Tree → Change} (h : c.fault = none) :
    c.next f = f c.tree := by
  simp [next, h]

theorem next_of_some {c : Change} {f : Tree → Change} {fault : Fault} (h : c.fault = some fault) :
    c.next f = c := by
  simp [next, h]

theorem keeps_next {written : Option Location} {t : Tree} {c : Change} {f : Tree → Change}
    (h : Tree.Keeps written t c.tree) (hf : ∀ t, Tree.Keeps written t (f t).tree) :
    Tree.Keeps written t (c.next f).tree := by
  rw [next]
  split
  · exact h
  · exact h.trans (hf c.tree)

end Change

namespace Tree

variable {t t' : Tree} {p start : Path} {name : String} {names : List String}

theorem keeps_ensureDirectory (t : Tree) (p : Path) :
    Keeps none t (t.ensureDirectory p).tree := by
  rw [ensureDirectory]
  split
  · exact .refl none t
  · cases h : t.makeDirectory p with
    | ok t' => exact keeps_makeDirectory h
    | error fault => exact .refl none t

theorem keeps_makeFrom (t : Tree) (start : Path) (names : List String) :
    Keeps none t (t.makeFrom start names).tree := by
  induction names with
  | nil => exact .refl none t
  | cons name above ih =>
    rw [makeFrom]
    split
    · exact Change.keeps_next ih fun t => keeps_ensureDirectory t _
    · exact keeps_ensureDirectory t _

theorem keeps_makeDirectories (t : Tree) (p : Path) : Keeps none t (t.makeDirectories p).tree :=
  keeps_makeFrom t p _

theorem ensureDirectory_of_isDirectory (h : t.isDirectory p = true) :
    t.ensureDirectory p = ⟨t, none⟩ := by
  rw [ensureDirectory, if_pos h]

/-- A step that fails changes nothing. -/
theorem tree_ensureDirectory_of_fault (h : (t.ensureDirectory p).fault ≠ none) :
    (t.ensureDirectory p).tree = t := by
  rw [ensureDirectory] at *
  split_ifs with hp
  · rfl
  · cases hmake : t.makeDirectory p with
    | ok t' => simp [hp, hmake, Change.single] at h
    | error fault => rfl

theorem fault_ensureDirectory_eq_none_iff :
    (t.ensureDirectory p).fault = none ↔ (t.ensureDirectory p).tree.isDirectory p = true := by
  rw [ensureDirectory]
  split_ifs with hp
  · exact ⟨fun _ => hp, fun _ => rfl⟩
  · cases hmake : t.makeDirectory p with
    | ok t' => exact ⟨fun _ => isDirectory_of_makeDirectory hmake, fun _ => rfl⟩
    | error fault => exact ⟨nofun, fun h => absurd h hp⟩

/-- What can be made lies in a directory. -/
theorem isDirectory_of_ensureDirectory_child (h : (t.ensureDirectory (p.child name)).fault = none) :
    t.isDirectory p = true := by
  rw [ensureDirectory] at h
  split_ifs at h with hchild
  · obtain ⟨l, hl, -⟩ := isDirectory_iff.mp hchild
    exact isDirectory_of_locate_child hl
  · cases hmake : t.makeDirectory (p.child name) with
    | ok t' =>
      obtain ⟨l, hl, -⟩ := makeDirectory_eq_ok.mp hmake
      exact isDirectory_of_locate_child hl
    | error fault =>
      rw [hmake] at h
      cases h

/-- The directory that is made from names, of which the last one comes first. -/
def upTo (start : Path) (names : List String) : Path := { start with names := names.reverse }

theorem upTo_cons (start : Path) (name : String) (above : List String) :
    upTo start (name :: above) = (upTo start above).child name := by
  simp [upTo, Path.child]

theorem makeFrom_cons (t : Tree) (start : Path) (name : String) (above : List String) :
    t.makeFrom start (name :: above) =
      if (t.ensureDirectory (upTo start (name :: above))).fault
          = some ⟨.notFound, upTo start (name :: above)⟩ then
        (t.makeFrom start above).next (ensureDirectory · (upTo start (name :: above)))
      else t.ensureDirectory (upTo start (name :: above)) := rfl

theorem makeFrom_of_isDirectory (h : t.isDirectory (upTo start names) = true) :
    t.makeFrom start names = ⟨t, none⟩ := by
  cases names with
  | nil => rfl
  | cons name above =>
    rw [makeFrom_cons, ensureDirectory_of_isDirectory h]
    rfl

/-- Directories are made without a fault just if the last one of them is there afterwards. -/
theorem fault_makeFrom_eq_none_iff :
    (t.makeFrom start names).fault = none
      ↔ (t.makeFrom start names).tree.isDirectory (upTo start names) = true := by
  induction names with
  | nil => exact ⟨fun _ => isDirectory_start t start, fun _ => rfl⟩
  | cons name above ih =>
    rw [makeFrom_cons]
    split_ifs with hmissing
    · cases hfault : (t.makeFrom start above).fault with
      | none =>
        rw [Change.next_of_none hfault]
        exact fault_ensureDirectory_eq_none_iff
      | some fault =>
        rw [Change.next_of_some hfault, hfault]
        constructor
        · nofun
        · -- the directory could not be there without the one above it
          intro hp
          rw [upTo_cons] at hp
          obtain ⟨l, hl, -⟩ := isDirectory_iff.mp hp
          rw [ih.mpr (isDirectory_of_locate_child hl)] at hfault
          cases hfault
    · exact fault_ensureDirectory_eq_none_iff

/-- Directories that could not be made cannot be made afterwards, and nothing changes any more. -/
theorem tree_makeFrom_of_fault (h : (t.makeFrom start names).fault ≠ none) :
    ((t.makeFrom start names).tree.makeFrom start names).tree = (t.makeFrom start names).tree := by
  induction names with
  | nil => exact absurd rfl h
  | cons name above ih =>
    rw [makeFrom_cons t] at h ⊢
    split_ifs at h ⊢ with hmissing
    · cases hfault : (t.makeFrom start above).fault with
      | none =>
        -- the directories above are there, and the last one is refused again
        have hdirectory := fault_makeFrom_eq_none_iff.mp hfault
        rw [Change.next_of_none hfault] at h ⊢
        rw [tree_ensureDirectory_of_fault h, makeFrom_cons, makeFrom_of_isDirectory hdirectory]
        split
        · exact tree_ensureDirectory_of_fault h
        · exact tree_ensureDirectory_of_fault h
      | some fault =>
        -- one above cannot be made, so the last one cannot be made either
        have hne : (t.makeFrom start above).fault ≠ none := by simp [hfault]
        have hdirectory := mt fault_makeFrom_eq_none_iff.mpr hne
        have hlast : ((t.makeFrom start above).tree.ensureDirectory
            (upTo start (name :: above))).fault ≠ none := by
          rw [upTo_cons]
          exact mt isDirectory_of_ensureDirectory_child hdirectory
        rw [Change.next_of_some hfault, makeFrom_cons]
        split
        · have hagain : ((t.makeFrom start above).tree.makeFrom start above).fault ≠ none := by
            rwa [Ne, fault_makeFrom_eq_none_iff, ih hne]
          obtain ⟨other, hother⟩ := Option.ne_none_iff_exists'.mp hagain
          rw [Change.next_of_some hother, ih hne]
        · exact tree_ensureDirectory_of_fault hlast
    · rw [tree_ensureDirectory_of_fault h, makeFrom_cons, if_neg hmissing,
        tree_ensureDirectory_of_fault h]

theorem upTo_reverse (p : Path) : upTo p p.names.reverse = p := by
  simp [upTo]

theorem makeDirectories_of_isDirectory (h : t.isDirectory p = true) :
    t.makeDirectories p = ⟨t, none⟩ := by
  apply makeFrom_of_isDirectory
  rwa [upTo_reverse]

theorem fault_makeDirectories_eq_none_iff :
    (t.makeDirectories p).fault = none ↔ (t.makeDirectories p).tree.isDirectory p = true := by
  rw [makeDirectories, fault_makeFrom_eq_none_iff, upTo_reverse]

/-- Directories are made once: what the first time leaves behind does not change the second
time, which ends like the first. -/
theorem tree_makeDirectories_makeDirectories (t : Tree) (p : Path) :
    ((t.makeDirectories p).tree.makeDirectories p).tree = (t.makeDirectories p).tree
      ∧ (((t.makeDirectories p).tree.makeDirectories p).fault = none
        ↔ (t.makeDirectories p).fault = none) := by
  have htree : ((t.makeDirectories p).tree.makeDirectories p).tree
      = (t.makeDirectories p).tree := by
    by_cases h : (t.makeDirectories p).fault = none
    · rw [makeDirectories_of_isDirectory (fault_makeDirectories_eq_none_iff.mp h)]
    · exact tree_makeFrom_of_fault h
  refine ⟨htree, ?_⟩
  rw [fault_makeDirectories_eq_none_iff, htree, fault_makeDirectories_eq_none_iff]

end Tree

end Retrace.Files
