import Courier.Proofs.LineSplitting
import Mathlib.Data.List.Basic

/-! Lines that end in a newline, and lines that end in a carriage return and a newline. A reader hands
on the same, but the carriage return counts towards the limit; so it tells them apart at a line that is
exactly as long as the limit, and only there. -/

namespace Courier.Proofs.LineTerminators
open LineReader LineSplitting

/-- A line that holds nothing of a terminator: no newline, and no carriage return at its end. -/
structure Plain (line : Bytes) : Prop where
  unbroken : 0x0A ∉ line
  bare : line.getLast? ≠ some 0x0D

instance (line : Bytes) : Decidable (Plain line) :=
  decidable_of_iff (0x0A ∉ line ∧ line.getLast? ≠ some 0x0D)
    ⟨fun plain => ⟨plain.1, plain.2⟩, fun plain => ⟨plain.unbroken, plain.bare⟩⟩

/-- The stream of lines that each end in a newline with the given bytes before it. -/
def terminated (before : Bytes) (lines : List Bytes) : Bytes :=
  lines.flatMap fun line => line ++ (before ++ [0x0A])

section
variable {limit : Nat} {lines : List Bytes}

private theorem withoutReturn_plain {line : Bytes} (plain : Plain line) : withoutReturn line = line :=
  if_neg plain.bare

private theorem withoutReturn_return (line : Bytes) : withoutReturn (line ++ [0x0D]) = line := by
  simp [withoutReturn]

/-- Lines are split where they end, if a reader takes what stands before the newline for no part of them. -/
theorem split_terminated {before : Bytes} (unbroken : 0x0A ∉ before)
    (handed : ∀ line ∈ lines, withoutReturn (line ++ before) = line) (plain : ∀ line ∈ lines, Plain line) :
    split limit (terminated before lines) =
      lines.filterMap fun line => outcome limit (line ++ before) line := by
  induction lines with
  | nil => rfl
  | cons line more ih =>
    have spelled : terminated before (line :: more) = line ++ before ++ 0x0A :: terminated before more := by
      simp [terminated]
    have whole : 0x0A ∉ line ++ before := by simp [(plain line List.mem_cons_self).unbroken, unbroken]
    rw [spelled, split_line whole, handed line List.mem_cons_self,
      ih (fun line member => handed line (List.mem_cons_of_mem _ member))
        (fun line member => plain line (List.mem_cons_of_mem _ member)), List.filterMap_cons]
    cases outcome limit (line ++ before) line <;> rfl

private theorem split_newlines (plain : ∀ line ∈ lines, Plain line) :
    split limit (terminated [] lines) = lines.filterMap fun line => outcome limit line line := by
  have handed : ∀ line ∈ lines, withoutReturn (line ++ []) = line := by
    intro line member
    rw [List.append_nil]
    exact withoutReturn_plain (plain line member)
  have same : split limit (terminated [] lines) = _ := split_terminated List.not_mem_nil handed plain
  simpa using same

private theorem split_returns (plain : ∀ line ∈ lines, Plain line) :
    split limit (terminated [0x0D] lines) =
      lines.filterMap fun line => outcome limit (line ++ [0x0D]) line :=
  split_terminated (by decide) (fun line _ => withoutReturn_return line) plain

private theorem count_tooLong (counted : Bytes → Bytes) :
    (lines.filterMap fun line => outcome limit (counted line) line).count .tooLong =
      lines.countP fun line => limit < (counted line).length := by
  induction lines with
  | nil => rfl
  | cons line more ih =>
    rw [List.filterMap_cons, List.countP_cons, ← ih, outcome]
    by_cases long : limit < (counted line).length
    · simp [long]
    · by_cases blank : line.all isAsciiBlank
      · simp [long, blank]
      · simp [long, blank]

private theorem countP_longer :
    (lines.countP fun line => limit < (line ++ [0x0D]).length) =
      (lines.countP fun line => limit < line.length) + lines.countP fun line => line.length = limit := by
  simp only [List.length_append, List.length_singleton]
  induction lines with
  | nil => rfl
  | cons line more ih =>
    simp only [List.countP_cons, ih, decide_eq_true_eq]
    rcases Nat.lt_trichotomy line.length limit with short | same | long
    · rw [if_neg (by omega), if_neg (by omega), if_neg (by omega)]
      omega
    · rw [if_pos (by omega), if_neg (by omega), if_pos same]
      omega
    · rw [if_pos (by omega), if_pos long, if_neg (by omega)]
      omega

private theorem outcomes_eq_iff :
    (lines.filterMap fun line => outcome limit line line) =
        (lines.filterMap fun line => outcome limit (line ++ [0x0D]) line) ↔
      ∀ line ∈ lines, line.length ≠ limit := by
  constructor
  · intro same
    have counts := congrArg (List.count Line.tooLong) same
    rw [count_tooLong (fun line => line), count_tooLong (fun line => line ++ [0x0D]), countP_longer] at counts
    have none : (lines.countP fun line => line.length = limit) = 0 := by omega
    simpa using List.countP_eq_zero.mp none
  · intro other
    refine List.filterMap_congr ?_
    intro line member
    have other := other line member
    have longer : limit < (line ++ [0x0D]).length ↔ limit < line.length := by
      rw [List.length_append, List.length_singleton]
      omega
    simp only [outcome, longer]

end

/-- Both terminators give the same results, unless a line is exactly as long as the limit. Such a line is
too long with a carriage return, and without one it is handed on. -/
theorem terminators_alike_iff (limit : Nat) {lines : List Bytes} (plain : ∀ line ∈ lines, Plain line) :
    ((∀ count, results { limit } (terminated [] lines) count =
        results { limit } (terminated [0x0D] lines) count) ↔
      ∀ line ∈ lines, line.length ≠ limit) ∧
    ∀ line ∈ lines, line.length = limit →
      Reports limit (terminated [0x0D] [line]) [.tooLong] ∧
      (line.all isAsciiBlank = false → Reports limit (terminated [] [line]) [.data line]) := by
  constructor
  · rw [results_eq_iff, split_newlines plain, split_returns plain]
    exact outcomes_eq_iff
  · intro line member same
    have alone : ∀ other ∈ [line], Plain other := by
      intro other found
      rw [List.mem_singleton.mp found]
      exact plain line member
    constructor
    · have reports := reports_split limit (terminated [0x0D] [line])
      rw [split_returns alone] at reports
      have long : limit < (line ++ [0x0D]).length := by simp [same]
      simpa [outcome_tooLong long] using reports
    · intro solid
      have reports := reports_split limit (terminated [] [line])
      rw [split_newlines alone] at reports
      have fits : outcome limit line line = some (.data line) := by
        rw [outcome, if_neg (by omega), if_neg (by simp [solid])]
      simpa [fits] using reports

def around : List Bytes := [[0x61, 0x62, 0x63], [0x61, 0x62, 0x63, 0x64, 0x65], [], [0x61, 0x0D, 0x62]]

theorem terminators_alike_iff_around :
    (∀ line ∈ around, Plain line) ∧
      ∀ count, results { limit := 4 } (terminated [] around) count =
        results { limit := 4 } (terminated [0x0D] around) count := by
  have plain : ∀ line ∈ around, Plain line := by decide
  exact ⟨plain, (terminators_alike_iff 4 plain).1.mpr (by decide)⟩

/-- A line of four bytes fits into a limit of four with a newline, and does not with a carriage return
before it. -/
theorem exact_line_too_long :
    ¬ ∀ (limit : Nat) (lines : List Bytes), (∀ line ∈ lines, Plain line) → ∀ count,
      results { limit } (terminated [] lines) count = results { limit } (terminated [0x0D] lines) count := by
  intro alike
  have same := alike 4 [[0x61, 0x62, 0x63, 0x64]] (by decide)
  rw [results_eq_iff] at same
  revert same
  decide

end Courier.Proofs.LineTerminators
