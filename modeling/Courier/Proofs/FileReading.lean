import Courier.Proofs.StreamReceiving
import Courier.Transport.File

/-! Reading a file that grows. A reader goes through the file in blocks, and others may append to it between
any two of them. As long as all that is in the file ends with a newline, the reader is never left in the
middle of a line at the end, so what is appended adds its lines to those that the reader has before it. -/

namespace Courier.Proofs.FileReading
open LineReader LineSplitting StreamReceiving

def EndsLine (stream : Bytes) : Prop := stream = [] ∨ stream.getLast? = some 0x0A

section
variable {limit : Nat} {first last stream : Bytes}

private theorem EndsLine.of_append (ends : EndsLine (first ++ last)) : EndsLine last := by
  rcases List.eq_nil_or_concat last with rfl | ⟨front, b, rfl⟩
  · exact .inl rfl
  · rw [List.concat_eq_append] at ends ⊢
    rcases ends with none | newline
    · simp at none
    · rw [← List.append_assoc, List.getLast?_concat] at newline
      rw [EndsLine, List.getLast?_concat]
      exact .inr newline

private theorem EndsLine.of_line (ends : EndsLine (first ++ 0x0A :: last)) : EndsLine last := by
  rw [← List.singleton_append, ← List.append_assoc] at ends
  exact ends.of_append

theorem EndsLine.append (ends : EndsLine first) (lasts : EndsLine last) : EndsLine (first ++ last) := by
  rcases lasts with rfl | newline
  · rwa [List.append_nil]
  · exact .inr (by rw [List.getLast?_append, newline]; rfl)

private theorem EndsLine.prepend (ends : EndsLine last) (some : last ≠ []) (first : Bytes) :
    EndsLine (first ++ last) := by
  rcases ends with none | newline
  · exact absurd none some
  · exact .inr (by rw [List.getLast?_append, newline]; rfl)

private theorem newline_mem (ends : EndsLine stream) (some : stream ≠ []) : 0x0A ∈ stream := by
  rcases ends with none | newline
  · exact absurd none some
  · exact List.mem_of_getLast? newline

theorem split_endsLine (ends : EndsLine first) (last : Bytes) :
    split limit (first ++ last) = split limit first ++ split limit last := by
  rcases ends with rfl | newline
  · rfl
  · obtain ⟨front, rfl⟩ := List.getLast?_eq_some_iff.mp newline
    rw [List.append_assoc, List.singleton_append, split_append]

private theorem afterLine_mem (newline : 0x0A ∈ first) (last : Bytes) :
    afterLine (first ++ last) = afterLine first ++ last := by
  obtain ⟨line, rest, rfl, unbroken⟩ := List.eq_append_cons_of_mem newline
  rw [List.append_assoc, List.cons_append, afterLine_line unbroken, afterLine_line unbroken]

private theorem endsLine_afterLine (ends : EndsLine stream) : EndsLine (afterLine stream) := by
  by_cases newline : 0x0A ∈ stream
  · obtain ⟨line, rest, rfl, unbroken⟩ := List.eq_append_cons_of_mem newline
    rw [afterLine_line unbroken]
    exact ends.of_line
  · rw [afterLine_unbroken newline]
    exact .inl rfl

end

/-- What is still to come ends with a line. If nothing is, no part of a line is held. -/
structure Whole (r : LineReader) (stream : Bytes) : Prop where
  ends : EndsLine stream
  idle : stream = [] → r.pending = [] ∧ r.discarding = false

section
variable {r : LineReader} {stream : Bytes}

private theorem whole_some (ends : EndsLine stream) (some : stream ≠ []) (r : LineReader) : Whole r stream :=
  ⟨ends, fun none => absurd none some⟩

private theorem whole_restart (ends : EndsLine stream) (r : LineReader) : Whole r.restart stream :=
  ⟨ends, fun _ => ⟨rfl, rfl⟩⟩

private theorem remaining_append (whole : Whole r stream) (record : Bytes) :
    remaining r (stream ++ record) = remaining r stream ++ split r.limit record := by
  by_cases none : stream = []
  · obtain ⟨held, passing⟩ := whole.idle none
    have nothing : split r.limit [] = [] := rfl
    simp [remaining, none, held, passing, nothing]
  · rw [remaining, remaining]
    split
    next => rw [afterLine_mem (newline_mem whole.ends none), split_endsLine (endsLine_afterLine whole.ends)]
    next => rw [← List.append_assoc, split_endsLine (whole.ends.prepend none _)]

private theorem some_full {budget size : Nat} {pending rest : Bytes} (positive : 0 < budget)
    (gathered : gather budget pending size stream = .full rest) (ends : EndsLine stream) :
    EndsLine rest ∧ rest ≠ [] := by
  obtain ⟨taken, rfl, unbroken, all⟩ := gather_full gathered
  refine ⟨ends.of_append, ?_⟩
  rintro rfl
  rw [List.append_nil] at ends
  apply unbroken
  apply newline_mem ends
  rw [← List.length_pos_iff, all]
  exact positive

private theorem budget_pos (sound : Sound r) : 0 < r.room - r.size := by
  rw [sound.room]
  exact Nat.sub_pos_of_lt (Nat.lt_succ_of_le sound.fits)

/-- Feeding a reader never ends in the middle of a line, as the end of the line is there too. -/
theorem feed_whole (r : LineReader) (stream : Bytes) (sound : Sound r) (whole : Whole r stream) :
    Whole (r.feed stream).2.1 (r.feed stream).2.2 := by
  fun_induction LineReader.feed r stream with
  | case1 r stream pending rest gathered line skipped ih =>
    obtain ⟨taken, rfl, _⟩ := gather_line gathered
    exact ih (restart_sound sound.steady) (whole_restart whole.ends.of_line r)
  | case2 r stream pending rest gathered line reported =>
    obtain ⟨taken, rfl, _⟩ := gather_line gathered
    exact whole_restart whole.ends.of_line r
  | case3 r stream rest gathered wraps line after finished => cases sound.steady.symm.trans wraps
  | case4 r stream rest gathered roomy discarding ih =>
    obtain ⟨ends, some⟩ := some_full (budget_pos sound) gathered whole.ends
    exact ih ⟨sound.steady, rfl, Nat.zero_le _, List.not_mem_nil⟩ (whole_some ends some _)
  | case5 r stream rest gathered roomy first =>
    obtain ⟨ends, some⟩ := some_full (budget_pos sound) gathered whole.ends
    exact whole_some ends some _
  | case6 r stream pending size gathered =>
    obtain ⟨unbroken, _, rfl, _⟩ := gather_short gathered
    have none : stream = [] := by
      apply Decidable.byContradiction
      intro some
      exact unbroken (newline_mem whole.ends some)
    obtain ⟨held, passing⟩ := whole.idle none
    refine ⟨.inl rfl, fun _ => ⟨?_, passing⟩⟩
    rw [none, held]
    rfl

private theorem feed_limit (r : LineReader) (stream : Bytes) : (r.feed stream).2.1.limit = r.limit := by
  fun_induction LineReader.feed r stream with
  | case1 r stream pending rest gathered line skipped ih => exact ih
  | case2 r stream pending rest gathered line reported => rfl
  | case3 r stream rest gathered wraps line after finished =>
    have same : r.finish.2.limit = r.limit := by
      rw [LineReader.finish]
      split <;> rfl
    rwa [finished] at same
  | case4 r stream rest gathered roomy discarding ih => exact ih
  | case5 r stream rest gathered roomy first => rfl
  | case6 r stream pending size gathered => rfl

/-- A reader that is fed a part of what is to come has the lines after it still before it. -/
theorem feed_part (sound : Sound r) (input later : Bytes) (whole : Whole r (input ++ later)) :
    match r.feed input with
    | (some line, after, rest) =>
      Sound after ∧ after.limit = r.limit ∧ Whole after (rest ++ later) ∧
        remaining r (input ++ later) = line :: remaining after (rest ++ later)
    | (none, after, _) =>
      Sound after ∧ after.limit = r.limit ∧ Whole after later ∧
        remaining r (input ++ later) = remaining after later := by
  have parts := feed_append r input later
  have alone := feed_splits r input sound
  have limit := feed_limit r input
  have all := feed_splits r (input ++ later) sound
  have wholes := feed_whole r (input ++ later) sound whole
  rcases fed : r.feed input with ⟨_ | line, after, rest⟩ <;> rw [fed] at parts alone limit
  · obtain ⟨rfl, goesOn⟩ := parts
    -- If nothing is to come, the input was all there was, and it ended with a line.
    have later_whole : Whole after later := by
      refine ⟨whole.ends.of_append, ?_⟩
      rintro rfl
      have whole : Whole r input := by rwa [List.append_nil] at whole
      have idle := (feed_whole r input sound whole).idle
      rw [fed] at idle
      exact idle rfl
    have same : remaining r (input ++ later) = remaining after later := by
      have rest := feed_splits after later alone.1
      rw [goesOn] at all
      rcases further : after.feed later with ⟨_ | line, _, _⟩ <;> rw [further] at all rest
      · exact all.2.2.trans rest.2.2.symm
      · exact all.2.trans rest.2.symm
    exact ⟨alone.1, limit, later_whole, same⟩
  · rw [parts] at all wholes
    exact ⟨alone.1, limit, wholes, all.2⟩

end

/-! ### The reader of a file -/

section
variable {r after : FileReader} {content record : Bytes}

/-- What a reader has before it in a file. -/
def unread (r : FileReader) (content : Bytes) : Bytes := r.buffer ++ content.drop r.offset

/-- One look of a reader into a file: it uses up what it has read, and if there is no line in that it reads
another block. -/
def look (r : FileReader) (content : Bytes) : Option Line × FileReader :=
  match r.lines.feed r.buffer with
  | (some line, lines, buffer) => (some line, { r with lines, buffer })
  | (none, lines, _) =>
    match content.drop r.offset with
    | [] => (some lines.finish.1, { r with lines := lines.finish.2, buffer := [] })
    | b :: more =>
      let block := (b :: more).take FileReader.blockSize
      (none, { lines, buffer := block, offset := r.offset + block.length })

private theorem drop_min (bytes : Bytes) (size : Nat) :
    bytes.drop (min size bytes.length) = bytes.drop size := by
  rcases Nat.le_total size bytes.length with within | beyond
  · rw [Nat.min_eq_left within]
  · rw [Nat.min_eq_right beyond, List.drop_length, List.drop_of_length_le beyond]

private theorem drop_block (rest : Bytes) (size offset : Nat) (content : Bytes) (same : content.drop offset = rest) :
    content.drop (offset + (rest.take size).length) = rest.drop size := by
  rw [← List.drop_drop, same, List.length_take]
  exact drop_min rest size

/-- Reading a line is looking until there is one. -/
theorem next_look (r : FileReader) (content : Bytes) :
    match look r content with
    | (some line, after) => r.next content = (line, after)
    | (none, after) => r.next content = after.next content := by
  rw [look, FileReader.next]
  rcases r.lines.feed r.buffer with ⟨_ | line, lines, buffer⟩
  · cases rest : content.drop r.offset with
    | nil =>
      simp only
      rw [FileReader.nextFrom]
    | cons b more =>
      simp only
      rw [FileReader.nextFrom, FileReader.next, drop_block _ _ _ _ rest]
  · rfl

/-- Where a reader is in a file, given the lines that it has reported. -/
structure Cursor (content : Bytes) (told : List Line) (r : FileReader) : Prop where
  sound : Sound r.lines
  limit : r.lines.limit = maxLineBytes
  inside : r.offset ≤ content.length
  whole : Whole r.lines (unread r content)
  told : told ++ remaining r.lines (unread r content) = split maxLineBytes content

variable {told : List Line}

theorem cursor_start (ends : EndsLine content) : Cursor content [] {} :=
  ⟨⟨rfl, rfl, Nat.zero_le _, List.not_mem_nil⟩, rfl, Nat.zero_le _, ⟨ends, fun _ => ⟨rfl, rfl⟩⟩, rfl⟩

/-- What others append comes after all that a reader has before it. -/
theorem Cursor.append (cursor : Cursor content told r) (ends : EndsLine content) (lasts : EndsLine record)
    (some : record ≠ []) : Cursor (content ++ record) told r := by
  have further : unread r (content ++ record) = unread r content ++ record := by
    rw [unread, List.drop_append_of_le_length cursor.inside, ← List.append_assoc]
    rfl
  refine ⟨cursor.sound, cursor.limit, ?_, ?_, ?_⟩
  · exact Nat.le_trans cursor.inside (List.length_append ▸ Nat.le_add_right _ _)
  · rw [further]
    exact whole_some (cursor.whole.ends.append lasts) (List.append_ne_nil_of_right_ne_nil _ some) _
  · rw [further, remaining_append cursor.whole, cursor.limit, ← List.append_assoc, cursor.told,
      split_endsLine ends]

def reported : Option Line → List Line
  | none => []
  | some .finished => []
  | some line => [line]

theorem reported_line {line : Line} (other : line ≠ .finished) : reported (some line) = [line] := by
  cases line with
  | data bytes => rfl
  | tooLong => rfl
  | finished => exact absurd rfl other

private theorem finish_idle {lines : LineReader} (held : lines.pending = []) (passing : lines.discarding = false) :
    lines.finish = (.finished, lines.restart) := by
  rw [LineReader.finish, held, passing]
  rfl

/-- A look reports the line after those reported before, or the end if they were all. -/
theorem Cursor.look {answer : Option Line} (cursor : Cursor content told r)
    (looked : look r content = (answer, after)) :
    Cursor content (told ++ reported answer) after ∧
      ∀ line, answer = some line → line = (split maxLineBytes content)[told.length]?.getD .finished := by
  have part := feed_part cursor.sound r.buffer (content.drop r.offset) cursor.whole
  have before := cursor.told
  rw [unread] at before
  rw [FileReading.look] at looked
  rcases fed : r.lines.feed r.buffer with ⟨_ | line, lines, buffer⟩ <;> rw [fed] at looked part
  · obtain ⟨sound, limit, whole, same⟩ := part
    rw [same] at before
    cases rest : content.drop r.offset with
    | nil =>
      -- At the end of the file no part of a line is held, so the end is all there is to report.
      rw [rest] at looked whole before
      obtain ⟨held, passing⟩ := whole.idle rfl
      simp only [finish_idle held passing] at looked
      cases looked
      have nothing : remaining lines [] = [] := by
        rw [remaining, passing, held]
        rfl
      rw [nothing, List.append_nil] at before
      refine ⟨⟨restart_sound sound.steady, limit.trans cursor.limit, cursor.inside, ?_, ?_⟩, ?_⟩
      · rw [unread, rest]
        exact whole_restart (.inl rfl) lines
      · rw [unread, rest, remaining_restart, reported, List.append_nil, ← before]
        exact List.append_nil _
      · rintro line same
        cases same
        rw [← before, List.getElem?_eq_none (Nat.le_refl _)]
        rfl
    | cons b more =>
      rw [rest] at looked
      cases looked
      have ahead : (b :: more).take FileReader.blockSize ++
          content.drop (r.offset + ((b :: more).take FileReader.blockSize).length) =
            content.drop r.offset := by
        rw [drop_block _ _ _ _ rest, List.take_append_drop, rest]
      refine ⟨⟨sound, limit.trans cursor.limit, ?_, ?_, ?_⟩, ?_⟩
      · have left : content.length - r.offset = (b :: more).length := by rw [← rest, List.length_drop]
        have taken := List.length_take_le' FileReader.blockSize (b :: more)
        have inside := cursor.inside
        show r.offset + ((b :: more).take FileReader.blockSize).length ≤ content.length
        omega
      · rw [unread, ahead]
        exact whole
      · rw [unread, ahead, reported, List.append_nil]
        exact before
      · intro line none
        cases none
  · obtain ⟨sound, limit, whole, same⟩ := part
    cases looked
    rw [same] at before
    have other : line ≠ .finished := by
      rintro rfl
      apply finished_not_mem_split maxLineBytes content
      rw [← before]
      exact List.mem_append_right _ List.mem_cons_self
    refine ⟨⟨sound, limit.trans cursor.limit, cursor.inside, whole, ?_⟩, ?_⟩
    · rw [reported_line other, List.append_assoc]
      exact before
    · rintro found same
      cases same
      rw [← before, List.getElem?_append_right (Nat.le_refl _), Nat.sub_self]
      rfl

theorem look_advances (looked : look r content = (none, after)) : r.offset < after.offset := by
  rw [look] at looked
  rcases fed : r.lines.feed r.buffer with ⟨_ | line, lines, buffer⟩ <;> rw [fed] at looked
  · cases rest : content.drop r.offset with
    | nil =>
      rw [rest] at looked
      cases looked
    | cons b more =>
      rw [rest] at looked
      cases looked
      exact Nat.lt_add_of_pos_right (Nat.succ_pos _)
  · cases looked

/-- A reader that nothing interrupts reports the same line that it would report in several looks. -/
theorem Cursor.next {r : FileReader} (cursor : Cursor content told r) :
    (r.next content).1 = (split maxLineBytes content)[told.length]?.getD .finished := by
  have steps := next_look r content
  rcases looked : FileReading.look r content with ⟨_ | line, after⟩ <;> rw [looked] at steps
  · obtain ⟨later, _⟩ := cursor.look looked
    have advances := look_advances looked
    have inside := later.inside
    rw [reported, List.append_nil] at later
    rw [steps]
    exact later.next
  · rw [steps]
    exact (cursor.look looked).2 line rfl
termination_by content.length - r.offset

end

end Courier.Proofs.FileReading
