import Courier.Text.Blank
import Mathlib.Data.List.DropRight
import Mathlib.Data.List.TakeWhile

/-! Cutting off the blanks at the ends of a text gives back what had blanks put around it, and it does not
reach beyond a character that is none. -/

namespace Courier.Proofs.TextTrimming
open Text

theorem digit_bounds {c : Char} (digit : c.isDigit = true) : 48 ≤ c.toNat ∧ c.toNat ≤ 57 := by
  simp only [Char.isDigit, Bool.and_eq_true, decide_eq_true_eq, ge_iff_le, UInt32.le_iff_toNat_le] at digit
  exact digit

theorem isBlank_digit {c : Char} (digit : c.isDigit = true) : isBlank c = false := by
  have bounds := digit_bounds digit
  simp only [isBlank, Bool.or_eq_false_iff, Bool.and_eq_false_iff, decide_eq_false_iff_not]
  omega

def Padded (core text : List Char) : Prop :=
  ∃ before after, (∀ c ∈ before, isBlank c = true) ∧ (∀ c ∈ after, isBlank c = true) ∧
    text = before ++ (core ++ after)

theorem padded_self (text : List Char) : Padded text text := ⟨[], [], nofun, nofun, by simp⟩

theorem padded_trimChars (text : List Char) : Padded (trimChars text) text := by
  refine ⟨text.takeWhile isBlank, (text.dropWhile isBlank).rtakeWhile isBlank, ?_, ?_, ?_⟩
  · intro c member
    exact List.mem_takeWhile_imp member
  · intro c member
    exact List.mem_rtakeWhile_imp member
  · have ended : text.dropWhile isBlank = trimChars text ++ (text.dropWhile isBlank).rtakeWhile isBlank :=
      List.rdropWhile_append_rtakeWhile.symm
    rw [← ended, List.takeWhile_append_dropWhile]

section
variable {c : Char} (solid : isBlank c = false)
include solid

private theorem dropWhile_around (left right : List Char) :
    (left ++ c :: right).dropWhile isBlank = left.dropWhile isBlank ++ c :: right := by
  rw [List.dropWhile_append]
  split
  next blank => rw [List.isEmpty_iff.mp blank, List.dropWhile_cons_of_neg (by simp [solid]), List.nil_append]
  next => rfl

theorem rdropWhile_around (left right : List Char) :
    (left ++ c :: right).rdropWhile isBlank = left ++ c :: right.rdropWhile isBlank := by
  have mirrored := dropWhile_around solid right.reverse left.reverse
  simp only [List.rdropWhile, List.reverse_append, List.reverse_cons, List.append_assoc, List.singleton_append,
    mirrored, List.reverse_reverse]

theorem trimChars_around (left right : List Char) :
    trimChars (left ++ c :: right) = left.dropWhile isBlank ++ c :: right.rdropWhile isBlank := by
  show ((left ++ c :: right).dropWhile isBlank).rdropWhile isBlank = _
  rw [dropWhile_around solid, rdropWhile_around solid]

end

theorem trimChars_dropWhile (text : List Char) : trimChars (text.dropWhile isBlank) = trimChars text := by
  rw [trimChars, List.dropWhile_idempotent, trimChars]

theorem trimChars_rdropWhile (text : List Char) : trimChars (text.rdropWhile isBlank) = trimChars text := by
  rcases first : text.dropWhile isBlank with _ | ⟨c, rest⟩
  · have blank := List.dropWhile_eq_nil_iff.mp first
    rw [List.rdropWhile_eq_nil_iff.mpr blank, trimChars, trimChars, first]
    rfl
  · have solid : isBlank c = false := by
      simpa [first] using List.head_dropWhile_not isBlank (l := text) (by simp [first])
    rw [← List.takeWhile_append_dropWhile (p := isBlank) (l := text), first, rdropWhile_around solid,
      trimChars_around solid, trimChars_around solid, List.rdropWhile_idempotent]

theorem trimChars_trimChars (text : List Char) : trimChars (trimChars text) = trimChars text :=
  (trimChars_rdropWhile (text.dropWhile isBlank)).trans (trimChars_dropWhile text)

theorem trimChars_eq_nil {text : List Char} : trimChars text = [] ↔ ∀ c ∈ text, isBlank c = true := by
  rw [trimChars, List.reverse_eq_nil_iff, List.dropWhile_eq_nil_iff]
  constructor
  · intro blank c member
    rw [← List.takeWhile_append_dropWhile (p := isBlank) (l := text)] at member
    rcases List.mem_append.mp member with early | late
    · exact List.mem_takeWhile_imp early
    · exact blank c (List.mem_reverse.mpr late)
  · intro blank c member
    exact blank c ((List.dropWhile_suffix _).subset (List.mem_reverse.mp member))

/-- Blanks that were put around a text without any are cut off again. -/
theorem trimChars_padded {core text : List Char} (solid : ∀ c ∈ core, isBlank c = false)
    (padded : Padded core text) : trimChars text = core := by
  obtain ⟨before, after, front, back, rfl⟩ := padded
  cases core with
  | nil =>
    have blank : ∀ c ∈ before ++ after, isBlank c = true := List.forall_mem_append.mpr ⟨front, back⟩
    rw [List.nil_append, trimChars, List.dropWhile_eq_nil_iff.mpr blank]
    rfl
  | cons c rest =>
    have own : isBlank c = false := solid c List.mem_cons_self
    have ended : after.rdropWhile isBlank = [] := List.rdropWhile_eq_nil_iff.mpr back
    have whole : (rest ++ after).rdropWhile isBlank = rest := by
      rcases List.eq_nil_or_concat rest with rfl | ⟨front, last, rfl⟩
      · exact ended
      · have lasts : isBlank last = false := solid last (by simp)
        rw [List.concat_eq_append, List.append_assoc, List.singleton_append, rdropWhile_around lasts, ended]
    rw [List.cons_append, trimChars_around own, whole, List.dropWhile_eq_nil_iff.mpr front, List.nil_append]

end Courier.Proofs.TextTrimming
