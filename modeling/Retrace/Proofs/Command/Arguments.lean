import Mathlib.Tactic.SplitIfs
import Retrace.Command.Arguments

/-!
# Command lines without an option

An option can be left out of a command line, in every way in which it can be written there:
what the other words ask for stays the same.
-/

namespace Retrace.Command

variable {switches : List Switch} {name : String} {word : List Char} {words rest : List String}
  {step : Step} {w : Words}

/-! ## Single words -/

theorem readLetters_of_hasValue (h : ∀ s ∈ switches, s.short ≠ none → s.hasValue = true)
    (hword : word ≠ []) (hstep : readLetters switches word = some step) :
    (∃ e, step = ⟨[e], none⟩) ∨ ∃ option, step = ⟨[], some option⟩ := by
  cases word with
  | nil => exact absurd rfl hword
  | cons c letters =>
    rw [readLetters] at hstep
    split at hstep
    · cases hstep
    · next s hs =>
      have hshort : s.short = some c := by simpa using List.find?_some hs
      rw [if_pos (h s (List.mem_of_find?_eq_some hs) (by simp [hshort]))] at hstep
      split_ifs at hstep
      · cases hstep
        exact .inr ⟨_, rfl⟩
      · cases hstep
        exact .inl ⟨_, rfl⟩

/-- A word settles one option, or waits for the value of one, if single letters have values. -/
theorem readOption_of_hasValue (h : ∀ s ∈ switches, s.short ≠ none → s.hasValue = true)
    (hword : isOption word = true) (hstep : readOption switches word = some step) :
    (∃ e, step = ⟨[e], none⟩) ∨ ∃ option, step = ⟨[], some option⟩ := by
  unfold readOption at hstep
  dsimp only at hstep
  split at hstep
  · split_ifs at hstep
    · cases hstep
      exact .inl ⟨_, rfl⟩
    · cases hstep
      exact .inr ⟨_, rfl⟩
    · cases hstep
      exact .inl ⟨_, rfl⟩
  · split at hstep
    · cases hstep
    · apply readLetters_of_hasValue h _ hstep
      intro hnil
      simp only [isOption, Bool.and_eq_true, decide_eq_true_eq] at hword
      cases word with
      | nil => simp at hword
      | cons c letters => simp_all

theorem readLetters_of_not_hasValue (h : ∀ s ∈ switches, s.hasValue = false)
    (hstep : readLetters switches word = some step) : step.waiting = none := by
  induction word generalizing step with
  | nil =>
    cases hstep
    rfl
  | cons c letters ih =>
    rw [readLetters] at hstep
    split at hstep
    · cases hstep
    · next s hs =>
      rw [h s (List.mem_of_find?_eq_some hs)] at hstep
      obtain ⟨inner, hinner, hcons⟩ := Option.map_eq_some_iff.mp hstep
      rw [← hcons]
      change inner.waiting = none
      exact ih hinner

/-- No word waits for a value if no option has one. -/
theorem readOption_of_not_hasValue (h : ∀ s ∈ switches, s.hasValue = false)
    (hstep : readOption switches word = some step) : step.waiting = none := by
  unfold readOption at hstep
  dsimp only at hstep
  split at hstep
  · next s hs =>
    rw [h s (List.mem_of_find?_eq_some hs), if_neg Bool.false_ne_true] at hstep
    split_ifs at hstep
    cases hstep
    rfl
  · split at hstep
    · cases hstep
    · exact readLetters_of_not_hasValue h hstep

/-! ## Several words -/

section

variable {isMixed : Bool} {first option value : String} {settled : List (String × String)}

theorem readWords_settled (hend : first ≠ "--") (hfirst : isOption first.toList = true)
    (hstep : readOption switches first.toList = some ⟨settled, none⟩) :
    readWords switches isMixed (first :: rest)
      = (readWords switches isMixed rest).map (Words.withOptions settled) := by
  rw [readWords.eq_def]
  simp only [hend, if_false, hfirst, if_true, hstep]

theorem readWords_waiting (hend : first ≠ "--") (hfirst : isOption first.toList = true)
    (hstep : readOption switches first.toList = some ⟨settled, some option⟩) :
    readWords switches isMixed (first :: value :: rest)
      = (readWords switches isMixed rest).map
          (Words.withOptions (settled ++ [(option, value)])) := by
  rw [readWords.eq_def]
  simp only [hend, if_false, hfirst, if_true, hstep]

theorem readWords_unknown (hend : first ≠ "--") (hfirst : isOption first.toList = true)
    (hstep : readOption switches first.toList = none) :
    readWords switches isMixed (first :: rest) = none := by
  rw [readWords.eq_def]
  simp only [hend, if_false, hfirst, if_true, hstep]

theorem readWords_argument (hend : first ≠ "--") (hfirst : ¬ isOption first.toList = true) :
    readWords switches true (first :: rest)
      = (readWords switches true rest).map fun w =>
          { w with arguments := first :: w.arguments } := by
  rw [readWords.eq_def]
  simp only [hend, if_false, hfirst, if_true, Bool.false_eq_true]

theorem readWords_command (hend : first ≠ "--") (hfirst : ¬ isOption first.toList = true) :
    readWords switches false (first :: rest) = some ⟨[], first :: rest⟩ := by
  rw [readWords.eq_def]
  simp only [hend, if_false, hfirst, Bool.false_eq_true]

end

/-! ## Leaving an option out -/

/-- The words after the name of the command without an option and its values. -/
def leaveOut (name : String) : List String → List String
  | [] => []
  | word :: rest =>
    if word = "--" then word :: rest
    else if isOption word.toList then
      match readOption generateSwitches word.toList, rest with
      | some ⟨settled, none⟩, rest =>
        if settled.any (·.1 == name) then leaveOut name rest else word :: leaveOut name rest
      | some ⟨_, some option⟩, value :: rest =>
        if option = name then leaveOut name rest else word :: value :: leaveOut name rest
      | _, _ => word :: rest
    else word :: leaveOut name rest

/-- What is read without an option. -/
def Words.without (name : String) (w : Words) : Words :=
  { w with options := w.options.filter (·.1 != name) }

theorem lookup_filter_ne {β : Type} {a b : String} (h : a ≠ b) (l : List (String × β)) :
    (l.filter (·.1 != b)).lookup a = l.lookup a := by
  induction l with
  | nil => rfl
  | cons x l ih =>
    obtain ⟨k, v⟩ := x
    by_cases hk : k = b
    · subst hk
      simp [List.lookup_cons, beq_eq_false_iff_ne.mpr h, ih]
    · simp [hk, List.lookup_cons, ih]

theorem Words.get?_without_self (name : String) (w : Words) :
    (w.without name).get? name = none := by
  rw [get?, without, ← List.filter_reverse, List.lookup_eq_none_iff]
  intro p hp
  have hne : p.1 ≠ name := by simpa using (List.mem_filter.mp hp).2
  simpa using hne.symm

theorem Words.get?_without {option : String} (h : option ≠ name) (w : Words) :
    (w.without name).get? option = w.get? option := by
  rw [get?, without, ← List.filter_reverse, lookup_filter_ne h, get?]

theorem hasValue_generateSwitches :
    ∀ s ∈ generateSwitches, s.short ≠ none → s.hasValue = true := by decide

theorem hasValue_commonSwitches : ∀ s ∈ commonSwitches, s.hasValue = false := by decide

theorem readWords_leaveOut (name : String) (h : readWords generateSwitches true words = some w) :
    readWords generateSwitches true (leaveOut name words) = some (w.without name) := by
  -- a word settles one option at most, so it goes or stays as a whole
  fun_induction leaveOut name words generalizing w with
  | case1 =>
    cases h
    rfl
  | case2 rest =>
    cases h
    rfl
  | case3 word hend hword settled rest hstep hname ih =>
    rw [readWords_settled hend hword hstep] at h
    obtain ⟨w, hw, rfl⟩ := Option.map_eq_some_iff.mp h
    rw [ih hw]
    obtain ⟨e, he⟩ | ⟨option, he⟩ := readOption_of_hasValue hasValue_generateSwitches hword hstep
    · cases he
      have hname : e.1 = name := by simpa using hname
      simp [Words.without, Words.withOptions, hname]
    · cases he
  | case4 word hend hword settled rest hstep hname ih =>
    rw [readWords_settled hend hword hstep] at h ⊢
    obtain ⟨w, hw, rfl⟩ := Option.map_eq_some_iff.mp h
    rw [ih hw]
    have hkept : settled.filter (·.1 != name) = settled := by
      rw [List.filter_eq_self]
      intro e he
      rw [bne_iff_ne]
      rintro rfl
      exact hname (List.any_eq_true.mpr ⟨e, he, by simp⟩)
    simp [Words.without, Words.withOptions, hkept]
  | case5 word hend hword settled value rest hstep ih =>
    rw [readWords_waiting hend hword hstep] at h
    obtain ⟨w, hw, rfl⟩ := Option.map_eq_some_iff.mp h
    rw [ih hw]
    obtain ⟨e, he⟩ | ⟨option, he⟩ := readOption_of_hasValue hasValue_generateSwitches hword hstep
    · cases he
    · cases he
      simp [Words.without, Words.withOptions]
  | case6 word hend hword settled option value rest hstep hname ih =>
    rw [readWords_waiting hend hword hstep] at h ⊢
    obtain ⟨w, hw, rfl⟩ := Option.map_eq_some_iff.mp h
    rw [ih hw]
    obtain ⟨e, he⟩ | ⟨option', he⟩ := readOption_of_hasValue hasValue_generateSwitches hword hstep
    · cases he
    · cases he
      simp [Words.without, Words.withOptions, hname]
  | case7 word rest hend hword hsettled hwaiting =>
    rw [readWords.eq_def] at h
    simp only [hend, if_false, hword, if_true] at h
    cases h
  | case8 word rest hend hword ih =>
    rw [readWords_argument hend hword] at h ⊢
    obtain ⟨w, hw, rfl⟩ := Option.map_eq_some_iff.mp h
    rw [ih hw]
    rfl

/-! ## The output -/

/-- A command line without its output. -/
def withoutOutput : List String → List String
  | [] => []
  | word :: rest =>
    if word = "--" then word :: rest.take 1 ++ leaveOut "--output" (rest.drop 1)
    else if isOption word.toList then word :: withoutOutput rest
    else word :: leaveOut "--output" rest

theorem readWords_withoutOutput {command : String}
    (h : readWords commonSwitches false words = some w) (hw : w.arguments = command :: rest) :
    readWords commonSwitches false (withoutOutput words)
      = some { w with arguments := command :: leaveOut "--output" rest } := by
  induction words generalizing w with
  | nil =>
    cases h
    cases hw
  | cons word words ih =>
    by_cases hend : word = "--"
    · subst hend
      cases h
      simp only at hw
      subst hw
      rfl
    · by_cases hword : isOption word.toList = true
      · rw [withoutOutput, if_neg hend, if_pos hword]
        cases hstep : readOption commonSwitches word.toList with
        | none =>
          rw [readWords_unknown hend hword hstep] at h
          cases h
        | some step =>
          obtain ⟨settled, waiting⟩ := step
          cases readOption_of_not_hasValue hasValue_commonSwitches hstep
          rw [readWords_settled hend hword hstep] at h ⊢
          obtain ⟨w, hrest, rfl⟩ := Option.map_eq_some_iff.mp h
          rw [ih hrest hw]
          rfl
      · rw [withoutOutput, if_neg hend, if_neg hword]
        rw [readWords_command hend hword] at h ⊢
        cases h
        cases hw
        rfl

theorem ofWords_without_output {o : Generate} (h : Generate.ofWords w = some o) :
    Generate.ofWords (w.without "--output") = some { o with output := none } := by
  unfold Generate.ofWords at *
  have hget {option : String} (hoption : option ≠ "--output") :
      (w.without "--output").get? option = w.get? option := Words.get?_without hoption w
  have harguments : (w.without "--output").arguments = w.arguments := rfl
  rw [harguments]
  split at h
  · cases h
    simp [Words.has, Words.get?_without_self, hget]
  · cases h

/-- Without its output, a command line asks for the same script, to be printed. -/
theorem ofWords?_withoutOutput {isVerbose : Bool} {o : Generate}
    (h : Request.ofWords? words = some ⟨isVerbose, .generate o⟩) :
    Request.ofWords? (withoutOutput words)
      = some ⟨isVerbose, .generate { o with output := none }⟩ := by
  obtain ⟨w, hw, h⟩ := Option.bind_eq_some_iff.mp h
  split at h
  · cases h
  · next command rest harguments =>
    obtain ⟨task, htask, h⟩ := Option.bind_eq_some_iff.mp h
    cases h
    rw [Request.ofWords?, readWords_withoutOutput hw harguments]
    unfold Task.ofWords at htask
    split at htask
    · obtain ⟨given, hgiven, htask⟩ := Option.bind_eq_some_iff.mp htask
      obtain ⟨o', ho', htask⟩ := Option.map_eq_some_iff.mp htask
      cases htask
      have htask : Task.ofWords "generate" (leaveOut "--output" rest)
          = some (.generate { o with output := none }) := by
        rw [Task.ofWords, readWords_leaveOut "--output" hgiven]
        change Task.generate <$> Generate.ofWords (given.without "--output") = _
        rw [ofWords_without_output ho']
        rfl
      dsimp only [bind, Option.bind]
      rw [htask]
      rfl
    · obtain ⟨given, -, htask⟩ := Option.bind_eq_some_iff.mp htask
      split_ifs at htask
      cases htask
    · obtain ⟨given, -, htask⟩ := Option.bind_eq_some_iff.mp htask
      split at htask
      · cases htask
      · cases htask
      · cases htask
    · cases htask

end Retrace.Command
