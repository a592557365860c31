import Courier.Proofs.JsonGrammar

/-! How deep a text nests. Its brackets are counted as they come, but not those in strings. In a text of the
grammar every bracket is closed again, so what follows it does not notice it. -/

namespace Courier.Proofs.JsonNesting
open Json JsonGrammar

inductive Place where
  | outside
  | string
  | escape

/-- The most brackets that are open at once, when `depth` are open already. -/
def deepest : Place → Nat → Bytes → Nat
  | _, depth, [] => depth
  | .outside, depth, b :: rest =>
    if b = 0x22 then deepest .string depth rest
    else if b = 0x5B ∨ b = 0x7B then deepest .outside (depth + 1) rest
    else if b = 0x5D ∨ b = 0x7D then max depth (deepest .outside (depth - 1) rest)
    else deepest .outside depth rest
  | .string, depth, b :: rest =>
    if b = 0x22 then deepest .outside depth rest
    else if b = 0x5C then deepest .escape depth rest
    else deepest .string depth rest
  | .escape, depth, _ :: rest => deepest .string depth rest

/-- How many brackets are open inside each other in a text. -/
def nesting (text : Bytes) : Nat := deepest .outside 0 text

private theorem le_deepest (place : Place) (depth : Nat) (text : Bytes) : depth ≤ deepest place depth text := by
  fun_induction deepest place depth text <;> omega

/-- A part of a text that nests this deep and leaves as many brackets open as it has found. -/
def Nests (levels : Nat) (text : Bytes) : Prop :=
  ∀ depth rest, deepest .outside depth (text ++ rest) = max (depth + levels) (deepest .outside depth rest)

variable {first second text : Bytes} {one other levels : Nat}

theorem Nests.nesting (nests : Nests levels text) : nesting text = levels := by
  have whole := nests 0 []
  rw [List.append_nil] at whole
  rw [JsonNesting.nesting, whole, deepest]
  omega

theorem Nests.append (nests : Nests one first) (more : Nests other second) :
    Nests (max one other) (first ++ second) := by
  intro depth rest
  rw [List.append_assoc, nests, more]
  omega

def Flat (text : Bytes) : Prop := ∀ b ∈ text, b ∉ ascii "\"[]\x7b\x7d"

instance (text : Bytes) : Decidable (Flat text) := List.decidableBAll _ text

private theorem nests_flat (flat : Flat text) : Nests 0 text := by
  intro depth rest
  rw [Nat.add_zero, Nat.max_eq_right (le_deepest .outside depth rest)]
  induction text with
  | nil => rfl
  | cons b text ih =>
    obtain ⟨here, later⟩ := List.forall_mem_cons.mp flat
    have spelled : ascii "\"[]\x7b\x7d" = [0x22, 0x5B, 0x5D, 0x7B, 0x7D] := by decide
    rw [spelled] at here
    simp only [List.mem_cons, List.not_mem_nil, or_false, not_or] at here
    rw [List.cons_append, deepest, ih later]
    simp [here]

theorem nests_bracketed {opening closing : UInt8} (opens : opening = 0x5B ∨ opening = 0x7B)
    (closes : closing = 0x5D ∨ closing = 0x7D) (nests : Nests levels text) :
    Nests (levels + 1) (opening :: (text ++ [closing])) := by
  intro depth rest
  have opened (more : Bytes) : deepest .outside depth (opening :: more) = deepest .outside (depth + 1) more := by
    rcases opens with rfl | rfl <;> simp [deepest]
  have closed : deepest .outside (depth + 1) (closing :: rest) =
      max (depth + 1) (deepest .outside depth rest) := by
    rcases closes with rfl | rfl <;> simp [deepest]
  rw [List.cons_append, opened, List.append_assoc, nests, List.singleton_append, closed]
  omega

private theorem deepest_string {b : UInt8} (quote : b ≠ 0x22) (backslash : b ≠ 0x5C) (depth : Nat) (rest : Bytes) :
    deepest .string depth (b :: rest) = deepest .string depth rest := by
  rw [deepest, if_neg quote, if_neg backslash]

private theorem deepest_escape (b : UInt8) (depth : Nat) (rest : Bytes) :
    deepest .string depth (0x5C :: b :: rest) = deepest .string depth rest := by
  rw [deepest, if_neg (by decide), if_pos rfl, deepest]

private theorem deepest_body (depth : Nat) (rest : Bytes) (body : Body text) :
    deepest .string depth (text ++ 0x22 :: rest) = deepest .outside depth rest := by
  induction body with
  | nil => simp [deepest]
  | plain _ outside _ ih =>
    have spelled : ascii "\"\\" = [0x22, 0x5C] := by decide
    rw [spelled] at outside
    simp only [List.mem_cons, List.not_mem_nil, or_false, not_or] at outside
    rw [List.cons_append, deepest_string outside.1 outside.2, ih]
  | escape _ _ ih => exact (deepest_escape _ depth _).trans ih
  | @unit e f g h more digits _ ih =>
    have hex : ∀ b ∈ ascii "0123456789abcdefABCDEF", b ≠ 0x22 ∧ b ≠ 0x5C := each (by decide)
    have digit {b : UInt8} (member : b ∈ [e, f, g, h]) (rest : Bytes) :
        deepest .string depth (b :: rest) = deepest .string depth rest :=
      deepest_string (hex b (digits b member)).1 (hex b (digits b member)).2 depth rest
    refine (deepest_escape 0x75 depth (e :: f :: g :: h :: (more ++ 0x22 :: rest))).trans ?_
    rw [digit (by simp), digit (by simp), digit (by simp), digit (by simp), ih]

theorem nests_quoted (body : Body text) : Nests 0 (quoted text) := by
  intro depth rest
  have below := le_deepest .outside depth rest
  rw [quoted_append, deepest, if_pos rfl, deepest_body depth rest body]
  omega

theorem nests_blank (blank : Blank text) : Nests 0 text := by
  have outside : ∀ b ∈ ascii " \t\n\x0d", b ∉ ascii "\"[]\x7b\x7d" := each (by decide)
  exact nests_flat fun b member => outside b (blank b member)

theorem nests_comma : Nests 0 (ascii ",") := nests_flat (by decide)

theorem nests_colon : Nests 0 (ascii ":") := nests_flat (by decide)

private theorem nests_digits (digits : Digits text) : Nests 0 text := by
  have outside : ∀ b ∈ ascii "0123456789", b ∉ ascii "\"[]\x7b\x7d" := each (by decide)
  exact nests_flat fun b member => outside b (digits b member)

private theorem nests_whole (whole : Whole text) : Nests 0 text := by
  cases whole with
  | zero => exact nests_digits (by decide)
  | positive first digits =>
    have digit : ∀ b ∈ ascii "123456789", b ∈ ascii "0123456789" := each (by decide)
    exact nests_digits (List.forall_mem_cons.mpr ⟨digit _ first, digits⟩)

private theorem nests_fraction (fraction : Fraction text) : Nests 0 text := by
  cases fraction with
  | none => exact nests_blank blank_nil
  | some _ digits =>
    have point : Nests 0 (ascii ".") := nests_flat (by decide)
    exact point.append (nests_digits digits)

private theorem nests_exponent (exponent : Exponent text) : Nests 0 text := by
  cases exponent with
  | none => exact nests_blank blank_nil
  | @some mark _ _ known signed _ digits =>
    have letter : ∀ b ∈ ascii "eE", Flat [b] := each (by decide)
    have sign : ∀ sign ∈ [[], ascii "+", ascii "-"], Flat sign := by decide
    have marked : Nests 0 [mark] := nests_flat (letter mark known)
    exact marked.append ((nests_flat (sign _ signed)).append (nests_digits digits))

private theorem nests_numeral (numeral : Numeral text) : Nests 0 text := by
  have sign : ∀ sign ∈ [[], ascii "-"], Flat sign := by decide
  cases numeral with
  | of signed whole fraction exponent =>
    exact (nests_flat (sign _ signed)).append
      ((nests_whole whole).append ((nests_fraction fraction).append (nests_exponent exponent)))

/-- Whatever is derived closes the brackets that it opens. -/
theorem derives_nests {symbol : Symbol} (derived : Derives symbol text) : ∃ levels, Nests levels text := by
  induction derived with
  | word known =>
    have flat : ∀ word ∈ [ascii "null", ascii "true", ascii "false"], Flat word := by decide
    exact ⟨0, nests_flat (flat _ known)⟩
  | number numeral => exact ⟨0, nests_numeral numeral⟩
  | string body => exact ⟨0, nests_quoted body⟩
  | emptyList blank => exact ⟨1, nests_bracketed (.inl rfl) (.inl rfl) (nests_blank blank)⟩
  | list _ ih =>
    obtain ⟨levels, nests⟩ := ih
    exact ⟨levels + 1, nests_bracketed (.inl rfl) (.inl rfl) nests⟩
  | emptyObject blank => exact ⟨1, nests_bracketed (.inr rfl) (.inr rfl) (nests_blank blank)⟩
  | object _ ih =>
    obtain ⟨levels, nests⟩ := ih
    exact ⟨levels + 1, nests_bracketed (.inr rfl) (.inr rfl) nests⟩
  | element before _ after ih =>
    obtain ⟨levels, nests⟩ := ih
    exact ⟨_, (nests_blank before).append (nests.append (nests_blank after))⟩
  | lastElement _ ih => exact ih
  | elements _ _ first rest =>
    obtain ⟨one, nests⟩ := first
    obtain ⟨other, more⟩ := rest
    exact ⟨_, nests.append (nests_comma.append more)⟩
  | member before body after _ ih =>
    obtain ⟨levels, nests⟩ := ih
    exact ⟨_, (nests_blank before).append
      ((nests_quoted body).append ((nests_blank after).append (nests_colon.append nests)))⟩
  | lastMember _ ih => exact ih
  | members _ _ first rest =>
    obtain ⟨one, nests⟩ := first
    obtain ⟨other, more⟩ := rest
    exact ⟨_, nests.append (nests_comma.append more)⟩

end Courier.Proofs.JsonNesting
