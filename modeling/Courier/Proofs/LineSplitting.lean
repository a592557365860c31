import Courier.LineReader

/-! Reading lines is splitting the stream. A reader that is asked again and again gives one result for
every line that is too long or not blank, in order, and then nothing but the end. Where a line that
is too long is passed over, its parts are never taken for lines. One limit is no good: the largest machine
word, to which nothing can be added, leaves no room for any line. -/

namespace Courier.Proofs.LineSplitting
open LineReader

/-- What a line comes to, given the line as it counts and as it is handed on. -/
def outcome (limit : Nat) (counted handed : Bytes) : Option Line :=
  if limit < counted.length then some .tooLong
  else if handed.all isAsciiBlank then none
  else some (.data handed)

def withoutReturn (line : Bytes) : Bytes :=
  if line.getLast? = some 0x0D then line.dropLast else line

/-- The lines of a stream. The last one has no end, and keeps a carriage return. -/
def split (limit : Nat) (stream : Bytes) : List Line :=
  let lines := stream.splitOn 0x0A
  let last := lines.getLastD []
  lines.dropLast.filterMap (fun line => outcome limit line (withoutReturn line)) ++
    (outcome limit last last).toList

section
variable {limit : Nat} {line : Bytes}

private theorem split_unbroken (unbroken : 0x0A ∉ line) :
    split limit line = (outcome limit line line).toList := by
  simp [split, List.splitOn_eq_singleton unbroken]

theorem split_line (unbroken : 0x0A ∉ line) (rest : Bytes) :
    split limit (line ++ 0x0A :: rest) =
      (outcome limit line (withoutReturn line)).toList ++ split limit rest := by
  obtain ⟨first, others, lines⟩ := List.exists_cons_of_ne_nil (List.splitOn_ne_nil 0x0A rest)
  simp only [split, List.splitOn_append_cons_self_of_not_mem unbroken, lines,
    List.dropLast_cons_cons, List.filterMap_cons, List.getLastD_cons]
  cases outcome limit line (withoutReturn line) <;> rfl

theorem split_append (first rest : Bytes) :
    split limit (first ++ 0x0A :: rest) = split limit (first ++ [0x0A]) ++ split limit rest := by
  by_cases ends : 0x0A ∈ first
  · obtain ⟨line, more, same, unbroken⟩ := List.eq_append_cons_of_mem ends
    rw [same, List.append_assoc, List.append_assoc, List.cons_append, List.cons_append, split_line unbroken,
      split_line unbroken, split_append more rest, List.append_assoc]
  · have nothing : split limit [] = [] := rfl
    rw [split_line ends, split_line ends, nothing, List.append_nil]
termination_by first.length
decreasing_by
  rw [same, List.length_append, List.length_cons]
  omega

theorem outcome_solid {handed : Bytes} {b : UInt8} (member : b ∈ handed) (solid : isAsciiBlank b = false)
    (counted : Bytes) :
    outcome limit counted handed = some (if limit < counted.length then .tooLong else .data handed) := by
  have other : ¬ handed.all isAsciiBlank = true := by
    intro all
    rw [List.all_eq_true.mp all b member] at solid
    cases solid
  rw [outcome, if_neg other]
  split <;> rfl

theorem mem_withoutReturn {b : UInt8} (member : b ∈ line) (solid : isAsciiBlank b = false) :
    b ∈ withoutReturn line := by
  unfold withoutReturn
  split
  next last =>
    obtain ⟨front, rfl⟩ := List.getLast?_eq_some_iff.mp last
    rw [List.dropLast_concat]
    rcases List.mem_append.mp member with front | own
    · exact front
    · rw [List.mem_singleton.mp own] at solid
      cases solid
  next => exact member

theorem split_ne_nil {stream : Bytes} {b : UInt8} (member : b ∈ stream) (solid : isAsciiBlank b = false) :
    split limit stream ≠ [] := by
  by_cases ends : 0x0A ∈ stream
  · obtain ⟨line, rest, same, unbroken⟩ := List.eq_append_cons_of_mem ends
    rw [same, split_line unbroken]
    rw [same, List.mem_append, List.mem_cons] at member
    rcases member with here | rfl | later
    · rw [outcome_solid (mem_withoutReturn here solid) solid]
      exact List.cons_ne_nil _ _
    · cases solid
    · intro none
      exact split_ne_nil later solid (List.append_eq_nil_iff.mp none).2
  · rw [split_unbroken ends, outcome_solid member solid]
    exact List.cons_ne_nil _ _
termination_by stream.length
decreasing_by
  rw [same, List.length_append, List.length_cons]
  omega

def afterLine (stream : Bytes) : Bytes := (stream.dropWhile (· ≠ 0x0A)).drop 1

private theorem afterLine_append (unbroken : 0x0A ∉ line) (rest : Bytes) :
    afterLine (line ++ rest) = afterLine rest := by
  have passed : ∀ b ∈ line, decide (b ≠ 0x0A) = true := by
    intro b member
    exact decide_eq_true (fun same => unbroken (same ▸ member))
  rw [afterLine, afterLine, List.dropWhile_append_of_pos passed]

theorem afterLine_line (unbroken : 0x0A ∉ line) (rest : Bytes) :
    afterLine (line ++ 0x0A :: rest) = rest := by
  rw [afterLine_append unbroken]
  rfl

theorem afterLine_unbroken (unbroken : 0x0A ∉ line) : afterLine line = [] := by
  have passed := afterLine_append unbroken []
  rwa [List.append_nil] at passed

theorem outcome_tooLong (long : limit < line.length) (handed : Bytes) :
    outcome limit line handed = some .tooLong := if_pos long

private theorem split_tooLong (unbroken : 0x0A ∉ line) (long : limit < line.length) (rest : Bytes) :
    split limit (line ++ rest) = .tooLong :: split limit (afterLine rest) := by
  by_cases ends : 0x0A ∈ rest
  · obtain ⟨more, next, rfl, unended⟩ := List.eq_append_cons_of_mem ends
    have longer : limit < (line ++ more).length := by
      rw [List.length_append]
      omega
    rw [← List.append_assoc, split_line (by simp [unbroken, unended]), outcome_tooLong longer,
      afterLine_line unended]
    rfl
  · have longer : limit < (line ++ rest).length := by
      rw [List.length_append]
      omega
    rw [split_unbroken (by simp [unbroken, ends]), outcome_tooLong longer, afterLine_unbroken ends]
    rfl

theorem lineOf_eq (pending : Bytes) : lineOf pending = withoutReturn pending.reverse := by
  cases pending with
  | nil => rfl
  | cons b rest =>
    by_cases isReturn : b = 0x0D
    · subst b
      simp [lineOf, withoutReturn]
    · simp [lineOf, withoutReturn, isReturn]

end

/-- The part of a line that is held is within the limit, and there is room for one byte more. -/
structure Sound (r : LineReader) : Prop where
  steady : r.wraps = false
  size : r.size = r.pending.length
  fits : r.size ≤ r.limit
  unbroken : 0x0A ∉ r.pending

def remaining (r : LineReader) (stream : Bytes) : List Line :=
  if r.discarding then split r.limit (afterLine stream)
  else split r.limit (r.pending.reverse ++ stream)

theorem restart_sound {r : LineReader} (steady : r.wraps = false) : Sound r.restart :=
  ⟨steady, rfl, Nat.zero_le _, List.not_mem_nil⟩

theorem Sound.room {r : LineReader} (sound : Sound r) : r.room = r.limit + 1 := by
  rw [LineReader.room, sound.steady]
  rfl

theorem remaining_restart (r : LineReader) (stream : Bytes) :
    remaining r.restart stream = split r.limit stream := rfl

section
variable {r : LineReader} {stream : Bytes}

private theorem remaining_line (sound : Sound r) {line rest : Bytes}
    (gathered : gather (r.room - r.size) r.pending r.size stream = .line line rest) :
    remaining r stream =
      (if r.discarding || (lineOf line).all isAsciiBlank then [] else [.data (lineOf line)]) ++
        remaining r.restart rest := by
  rw [sound.room] at gathered
  obtain ⟨_, size, fits, held⟩ := sound
  obtain ⟨taken, rfl, unbroken, within, rfl⟩ := gather_line gathered
  rw [remaining_restart, remaining]
  cases r.discarding with
  | true => simp [afterLine_line unbroken]
  | false =>
    have whole : 0x0A ∉ r.pending.reverse ++ taken := by simp [held, unbroken]
    have fitting : ¬ r.limit < (r.pending.reverse ++ taken).length := by
      rw [List.length_append, List.length_reverse]
      omega
    have handed : lineOf (taken.reverse ++ r.pending) = withoutReturn (r.pending.reverse ++ taken) := by
      simp [lineOf_eq]
    simp only [Bool.false_eq_true, if_false, Bool.false_or]
    rw [← List.append_assoc, split_line whole, outcome, if_neg fitting, ← handed]
    split <;> rfl

private theorem remaining_full (sound : Sound r) {rest : Bytes}
    (gathered : gather (r.room - r.size) r.pending r.size stream = .full rest) :
    remaining r stream =
      (if r.discarding then [] else [.tooLong]) ++ split r.limit (afterLine rest) := by
  rw [sound.room] at gathered
  obtain ⟨_, size, fits, held⟩ := sound
  obtain ⟨taken, rfl, unbroken, all⟩ := gather_full gathered
  rw [remaining]
  cases r.discarding with
  | true => simp [afterLine_append unbroken]
  | false =>
    have whole : 0x0A ∉ r.pending.reverse ++ taken := by simp [held, unbroken]
    have long : r.limit < (r.pending.reverse ++ taken).length := by
      rw [List.length_append, List.length_reverse]
      omega
    simp only [Bool.false_eq_true, if_false]
    rw [← List.append_assoc, split_tooLong whole long]
    rfl

private theorem remaining_short (sound : Sound r) {pending : Bytes} {size : Nat}
    (gathered : gather (r.room - r.size) r.pending r.size stream = .short pending size) :
    Sound { r with pending, size } ∧ remaining r stream = remaining { r with pending, size } [] := by
  rw [sound.room] at gathered
  obtain ⟨steady, counted, fits, held⟩ := sound
  obtain ⟨unbroken, within, rfl, rfl⟩ := gather_short gathered
  refine ⟨⟨steady, ?_, ?_, ?_⟩, ?_⟩
  · simp only [List.length_append, List.length_reverse]
    omega
  · show r.size + stream.length ≤ r.limit
    omega
  · simp [held, unbroken]
  · simp only [remaining, afterLine_unbroken unbroken]
    cases r.discarding with
    | true => rfl
    | false => simp

/-- A reader that gives a result has dealt with exactly the part of the stream that the result is for.
The induction follows the rounds of the loop, of which all but the last report nothing. -/
theorem feed_splits (r : LineReader) (stream : Bytes) (sound : Sound r) :
    match r.feed stream with
    | (some line, after, rest) => Sound after ∧ remaining r stream = line :: remaining after rest
    | (none, after, rest) => Sound after ∧ rest = [] ∧ remaining r stream = remaining after [] := by
  fun_induction LineReader.feed r stream with
  | case1 r stream pending rest gathered line skipped ih =>
    have passed := remaining_line sound gathered
    rw [if_pos skipped, List.nil_append] at passed
    rw [passed]
    exact ih (restart_sound sound.steady)
  | case2 r stream pending rest gathered line reported =>
    have passed := remaining_line sound gathered
    rw [if_neg reported] at passed
    exact ⟨restart_sound sound.steady, passed⟩
  | case3 r stream rest gathered wraps line after finished =>
    cases sound.steady.symm.trans wraps
  | case4 r stream rest gathered roomy discarding ih =>
    have passed := remaining_full sound gathered
    rw [if_pos discarding, List.nil_append] at passed
    have same : split r.limit (afterLine rest) = remaining { r with pending := [], size := 0 } rest := by
      rw [remaining, if_pos discarding]
    rw [passed, same]
    exact ih ⟨sound.steady, rfl, Nat.zero_le _, List.not_mem_nil⟩
  | case5 r stream rest gathered roomy first =>
    have passed := remaining_full sound gathered
    rw [if_neg first] at passed
    exact ⟨⟨sound.steady, rfl, Nat.zero_le _, List.not_mem_nil⟩, passed⟩
  | case6 r stream pending size gathered =>
    obtain ⟨after, same⟩ := remaining_short sound gathered
    exact ⟨after, rfl, same⟩

private theorem finish_splits (sound : Sound r) :
    Sound r.finish.2 ∧ remaining r.finish.2 [] = [] ∧
      (remaining r [] = [r.finish.1] ∨ r.finish.1 = .finished ∧ remaining r [] = []) := by
  have after : r.finish.2 = r.restart := by
    rw [LineReader.finish]
    split <;> rfl
  refine ⟨after ▸ restart_sound sound.steady, by rw [after]; rfl, ?_⟩
  rw [remaining, LineReader.finish]
  cases r.discarding with
  | true => exact .inr ⟨rfl, rfl⟩
  | false =>
    have fitting : ¬ r.limit < r.pending.reverse.length := by
      rw [List.length_reverse, ← sound.size]
      exact Nat.not_lt_of_le sound.fits
    have whole : 0x0A ∉ r.pending.reverse := by simpa using sound.unbroken
    simp only [Bool.false_eq_true, if_false, Bool.false_or, List.append_nil]
    rw [split_unbroken whole, outcome, if_neg fitting]
    split
    · exact .inr ⟨rfl, rfl⟩
    · exact .inl rfl

theorem next_splits (sound : Sound r) (stream : Bytes) :
    ∃ line after rest, r.next stream true = (some line, after, rest) ∧ Sound after ∧
      (remaining r stream = line :: remaining after rest ∨
        line = .finished ∧ remaining r stream = [] ∧ remaining after rest = []) := by
  have fed := feed_splits r stream sound
  rw [LineReader.next]
  rcases found : r.feed stream with ⟨_ | line, held, rest⟩ <;> rw [found] at fed
  · obtain ⟨sound, rfl, same⟩ := fed
    obtain ⟨after, none, ended⟩ := finish_splits sound
    rw [same]
    refine ⟨held.finish.1, held.finish.2, [], rfl, after, ?_⟩
    rw [none]
    rcases ended with last | ⟨finished, nothing⟩
    · exact .inl last
    · exact .inr ⟨finished, nothing, rfl⟩
  · exact ⟨line, held, rest, rfl, fed.1, .inl fed.2⟩

end

def results (r : LineReader) (stream : Bytes) : Nat → List (Option Line)
  | 0 => []
  | count + 1 =>
    let (line, after, rest) := r.next stream true
    line :: results after rest count

private theorem results_remaining (count : Nat) (r : LineReader) (stream : Bytes) (sound : Sound r) :
    results r stream count =
      ((remaining r stream).map some ++ List.replicate count (some Line.finished)).take count := by
  induction count generalizing r stream with
  | zero => rfl
  | succ count ih =>
    obtain ⟨line, after, rest, called, sound, reported | ⟨rfl, nothing, still⟩⟩ := next_splits sound stream
    all_goals
      simp only [results, called]
      rw [ih after rest sound]
    · have enough : count ≤ ((remaining after rest).map some ++
          List.replicate count (some Line.finished)).length := by simp
      rw [reported, List.map_cons, List.cons_append, List.take_succ_cons, List.replicate_succ',
        ← List.append_assoc, List.take_append_of_le_length enough]
    · rw [nothing, still]
      simp [List.replicate_succ]

/-- A reader reports these lines of a stream, and then the end for ever. -/
def Reports (limit : Nat) (stream : Bytes) (lines : List Line) : Prop :=
  ∀ count, results { limit } stream count =
    (lines.map some ++ List.replicate count (some Line.finished)).take count

theorem reports_split (limit : Nat) (stream : Bytes) : Reports limit stream (split limit stream) :=
  fun count => results_remaining count { limit } stream ⟨rfl, rfl, Nat.zero_le _, List.not_mem_nil⟩

theorem finished_not_mem_split (limit : Nat) (stream : Bytes) : Line.finished ∉ split limit stream := by
  have other (counted handed : Bytes) : outcome limit counted handed ≠ some .finished := by
    unfold outcome
    split
    · simp
    · split <;> simp
  simp only [split, List.mem_append, List.mem_filterMap, Option.mem_toList, not_or, not_exists, not_and]
  exact ⟨fun line _ => other line (withoutReturn line), other _ _⟩

/-- The end is no line, so enough results tell the lines. -/
private theorem lines_of_results {lines : List Line} (unended : Line.finished ∉ lines) {count : Nat}
    (enough : lines.length ≤ count) :
    ((lines.map some ++ List.replicate count (some Line.finished)).take count).filter
      (· ≠ some Line.finished) = lines.map some := by
  have all : ∀ result ∈ lines.map some, decide (result ≠ some Line.finished) = true := by
    intro result member
    obtain ⟨line, inside, rfl⟩ := List.mem_map.mp member
    have other : line ≠ .finished := fun same => unended (same ▸ inside)
    simpa using other
  rw [List.take_append, List.take_of_length_le (by simpa using enough), List.take_replicate,
    List.filter_append, List.filter_eq_self.mpr all, List.filter_replicate_of_neg (by simp),
    List.append_nil]

private theorem Reports.unique {limit : Nat} {stream : Bytes} {lines : List Line}
    (reports : Reports limit stream lines) (unended : Line.finished ∉ lines) :
    lines = split limit stream := by
  have count : lines.length ≤ lines.length + (split limit stream).length ∧
      (split limit stream).length ≤ lines.length + (split limit stream).length := by omega
  rw [← List.map_inj_right (fun _ _ => Option.some.inj),
    ← lines_of_results unended count.1, ← lines_of_results (finished_not_mem_split limit stream) count.2,
    ← reports, ← reports_split]

/-- Where a stream has a line, no report of it starts with the end. -/
theorem reports_cons_iff {limit : Nat} {stream : Bytes} {line : Line} {lines : List Line}
    (some : split limit stream ≠ []) (unended : Line.finished ∉ lines) :
    Reports limit stream (line :: lines) ↔ split limit stream = line :: lines := by
  constructor
  · intro reports
    obtain ⟨first, others, same⟩ := List.exists_cons_of_ne_nil some
    have calls := (reports 1).symm.trans (reports_split limit stream 1)
    rw [same] at calls
    cases calls
    refine (reports.unique ?_).symm
    have none := finished_not_mem_split limit stream
    rw [same] at none
    intro member
    rcases List.mem_cons.mp member with first | later
    · exact none (first ▸ List.mem_cons_self)
    · exact unended later
  · intro same
    rw [← same]
    exact reports_split limit stream

theorem results_eq_iff {limit : Nat} {first second : Bytes} :
    (∀ count, results { limit } first count = results { limit } second count) ↔
      split limit first = split limit second := by
  constructor
  · intro same
    have reports : Reports limit second (split limit first) := fun count =>
      (same count).symm.trans (reports_split limit first count)
    exact reports.unique (finished_not_mem_split limit first)
  · intro same count
    rw [reports_split limit first count, reports_split limit second count, same]

private theorem withLimit_eq {limit : UInt64} (below : limit.toNat + 1 < UInt64.size) :
    withLimit limit = { limit := limit.toNat } := by
  have steady : ¬ limit + 1 = 0 := by
    intro wraps
    have sum : (limit.toNat + 1) % UInt64.size = 0 := congrArg UInt64.toNat wraps
    rw [Nat.mod_eq_of_lt below] at sum
    cases sum
  simp [withLimit, steady]

example : withLimit 1048576 = {} := rfl

/-- However often a reader is called, it gives the lines of the stream and then the end for ever, if one more than
its limit is a machine word. -/
theorem results_eq_split {limit : UInt64} (below : limit.toNat + 1 < UInt64.size) (stream : Bytes) (count : Nat) :
    results (withLimit limit) stream count =
      ((split limit.toNat stream).map some ++ List.replicate count (some Line.finished)).take count := by
  rw [withLimit_eq below]
  exact reports_split limit.toNat stream count

/-- With a limit of four: a line that fits, one that is too long, a blank one, and a tail. -/
theorem results_eq_split_four :
    (4 : UInt64).toNat + 1 < UInt64.size ∧
      results (withLimit 4) [97, 98, 99, 13, 10, 97, 98, 99, 100, 13, 10, 32, 9, 10, 97, 13] 5 =
        [some (.data [97, 98, 99]), some .tooLong, some (.data [97, 13]), some .finished, some .finished] := by
  have below : (4 : UInt64).toNat + 1 < UInt64.size := by decide
  refine ⟨below, ?_⟩
  rw [results_eq_split below]
  decide

/-- At the largest limit any stream passes for one that has ended. -/
theorem results_largest (stream : Bytes) (count : Nat) :
    results (withLimit 18446744073709551615) stream count = List.replicate count (some .finished) := by
  have next : (withLimit 18446744073709551615).next stream true =
      (some .finished, withLimit 18446744073709551615, stream) := by
    have fed : (withLimit 18446744073709551615).feed stream =
        (some .finished, withLimit 18446744073709551615, stream) := by
      rw [LineReader.feed]
      rfl
    rw [LineReader.next, fed]
  induction count with
  | zero => rfl
  | succ count ih =>
    simp only [results, next]
    rw [ih, List.replicate_succ]

/-- The largest limit loses the line that a stream consists of. -/
theorem largest_limit_loses :
    ¬ ∀ (limit : UInt64) (stream : Bytes) (count : Nat),
      results (withLimit limit) stream count =
        ((split limit.toNat stream).map some ++ List.replicate count (some Line.finished)).take count := by
  intro all
  have same := all 18446744073709551615 [0x61] 1
  rw [results_largest] at same
  revert same
  decide

end Courier.Proofs.LineSplitting
