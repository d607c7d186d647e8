import Retrace.Command.Run
import Retrace.Proofs.Result
import Retrace.Proofs.Text.Sequence
import Retrace.Proofs.Text.Surrogate

/-!
# What is printed

Text without halves of surrogate pairs can be printed. It is printed as it is on
a terminal, and elsewhere without its control sequences. A fault is told as an
error wherever the error output goes.
-/

namespace Retrace.Command

variable {s : Setting} {o : Generate} {points : List Nat}

/-! ## Texts -/

theorem echo_sublist (isTerminal : Bool) (points : List Nat) :
    (echo isTerminal points).Sublist points := by
  cases isTerminal with
  | false => exact Text.withoutSequences_sublist points
  | true => exact .refl points

theorem echo_eq_self_iff (isTerminal : Bool) (points : List Nat) :
    echo isTerminal points = points ↔ isTerminal = true ∨ ¬ Text.HasSequence points := by
  cases isTerminal with
  | false => simpa [echo] using Text.withoutSequences_eq_self_iff
  | true => simp [echo]

theorem characters_echo (isTerminal : Bool) (script : List Char) :
    Text.characters (echo isTerminal (Text.pointsOf script)) = .ok (echoed isTerminal script) := by
  have hnone : ¬ (echo isTerminal (Text.pointsOf script)).any Text.isHalf = true := by
    intro hany
    obtain ⟨n, hn, hhalf⟩ := List.any_eq_true.mp hany
    have hscript : (Text.pointsOf script).any Text.isHalf = true :=
      List.any_eq_true.mpr ⟨n, (echo_sublist isTerminal _).mem hn, hhalf⟩
    rw [Text.any_isHalf_pointsOf] at hscript
    cases hscript
  rw [Text.characters, if_neg hnone, echoed]

/-- A text is printed as it is on a terminal, or if there is no control sequence in it. -/
theorem echoed_eq_self_iff (isTerminal : Bool) (script : List Char) :
    echoed isTerminal script = script
      ↔ isTerminal = true ∨ ¬ Text.HasSequence (Text.pointsOf script) := by
  rw [← echo_eq_self_iff, echoed]
  constructor
  · intro h
    apply (echo_sublist isTerminal _).eq_of_length
    rw [← List.length_map (f := Char.ofNat), h, Text.pointsOf, List.length_map]
  · intro h
    rw [h, Text.map_ofNat_pointsOf]

/-! ## Errors -/

/-- Nothing is left out of what says that there is an error. -/
theorem errorLine_report (s : Setting) (message : String) :
    s.errorLine (report message) = report (s.errorLine message) := by
  have hescape : '\x1b'.toNat ∉ Text.pointsOf "エラー: ".toList := by decide
  have hecho : echo s.errorsAreTerminal (Text.pointsOf (report message).toList)
      = Text.pointsOf "エラー: ".toList
        ++ echo s.errorsAreTerminal (Text.pointsOf message.toList) := by
    rw [report, String.toList_append, Text.pointsOf, List.map_append]
    cases s.errorsAreTerminal with
    | false => exact Text.withoutSequences_append _ hescape
    | true => rfl
  rw [Setting.errorLine, echoed, hecho, List.map_append, Text.map_ofNat_pointsOf,
    String.ofList_append, String.ofList_toList, report, Setting.errorLine, echoed]

/-! ## Scripts -/

theorem isPoint_of_scriptPoints (h : scriptPoints s o = .ok points) :
    ∀ n ∈ points, Text.IsPoint n := by
  rw [scriptPoints] at h
  obtain ⟨lower, -, h⟩ := Result.bind_eq_ok.mp h
  obtain ⟨upper, -, h⟩ := Result.bind_eq_ok.mp h
  cases h
  exact fun n => Text.isPoint_of_mem_seen

/-- A script that can be encoded can be printed. -/
theorem points_of_characters {script : List Char} (h : scriptPoints s o = .ok points)
    (hscript : Text.characters points = .ok script) : points = Text.pointsOf script :=
  (Text.characters_eq_ok_iff (isPoint_of_scriptPoints h)).mp hscript

end Retrace.Command
