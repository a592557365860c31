import Courier.Text.Utf8

/-! Splitting a stream of bytes into lines that are bounded in length. A reader keeps the part of a line
that has arrived, so it can be fed in pieces of any size and can be abandoned between them. -/

namespace Courier

inductive Line where
  /-- A line that is not blank, without its terminator. -/
  | data (bytes : Bytes)
  /-- A line longer than the limit; it is reported once. -/
  | tooLong
  | finished
deriving Repr, DecidableEq

def isAsciiBlank (b : UInt8) : Bool := b = 0x20 || b = 0x09 || b = 0x0A || b = 0x0C || b = 0x0D

def maxLineBytes : Nat := 1048576

/-- The part of a line that has arrived, the last byte first, and its size. While a line that is too
long is passed over, `discarding` is set. -/
structure LineReader where
  limit : Nat := maxLineBytes
  /-- The limit is the largest machine word, to which nothing can be added. -/
  wraps : Bool := false
  pending : Bytes := []
  size : Nat := 0
  discarding : Bool := false
deriving Repr, Inhabited

namespace LineReader

def withLimit (limit : UInt64) : LineReader := { limit := limit.toNat, wraps := limit + 1 = 0 }

def restart (r : LineReader) : LineReader := { limit := r.limit, wraps := r.wraps }

/-- How many bytes of a line are held at most. It is one more than the limit, so that a line as long as the
limit is taken with its end, and one that is longer is noticed. -/
def room (r : LineReader) : Nat := if r.wraps then 0 else r.limit + 1

/-- The bytes of a reversed line without the carriage return before its end. -/
def lineOf (pending : Bytes) : Bytes :=
  match pending with
  | 0x0D :: rest => rest.reverse
  | _ => pending.reverse

/-- What taking a limited number of bytes comes to. -/
inductive Gathered where
  /-- The end of the line was among them. -/
  | line (pending rest : Bytes)
  /-- They are all taken, and the line goes on. -/
  | full (rest : Bytes)
  /-- There were fewer, none of which ends the line. -/
  | short (pending : Bytes) (size : Nat)

/-- Takes at most `budget` bytes up to the first end of a line, and adds them to a reversed line. -/
def gather : (budget : Nat) → (pending : Bytes) → (size : Nat) → Bytes → Gathered
  | 0, _, _, rest => .full rest
  | _ + 1, pending, size, [] => .short pending size
  | budget + 1, pending, size, b :: rest =>
    if b = 0x0A then .line pending rest else gather budget (b :: pending) (size + 1) rest

/-- The three ways in which taking bytes ends. -/
theorem gather_cases (budget : Nat) (pending : Bytes) (size : Nat) (input : Bytes) :
    (∃ taken rest, input = taken ++ 0x0A :: rest ∧ 0x0A ∉ taken ∧ taken.length < budget ∧
      gather budget pending size input = .line (taken.reverse ++ pending) rest) ∨
    (∃ taken rest, input = taken ++ rest ∧ 0x0A ∉ taken ∧ taken.length = budget ∧
      gather budget pending size input = .full rest) ∨
    0x0A ∉ input ∧ input.length < budget ∧
      gather budget pending size input = .short (input.reverse ++ pending) (size + input.length) := by
  fun_induction gather budget pending size input with
  | case1 pending size rest => exact .inr (.inl ⟨[], rest, rfl, by simp, rfl, rfl⟩)
  | case2 budget pending size => exact .inr (.inr ⟨by simp, by simp, rfl⟩)
  | case3 budget pending size rest =>
    exact .inl ⟨[], rest, rfl, by simp, by simp, rfl⟩
  | case4 budget pending size b rest goesOn ih =>
    have goesOn : 0x0A ≠ b := Ne.symm goesOn
    rcases ih with ⟨taken, after, rfl, unbroken, within, same⟩ | ⟨taken, after, rfl, unbroken, within, same⟩ |
      ⟨unbroken, within, same⟩
    · exact .inl ⟨b :: taken, after, rfl, by simp [goesOn, unbroken], by simp [within], by simp [same]⟩
    · exact .inr (.inl ⟨b :: taken, after, rfl, by simp [goesOn, unbroken], by simp [within], by simp [same]⟩)
    · refine .inr (.inr ⟨by simp [goesOn, unbroken], by simp [within], ?_⟩)
      rw [same]
      simp only [List.reverse_cons, List.append_assoc, List.singleton_append, List.length_cons]
      congr 1
      omega

section
variable {budget size total : Nat} {pending held input rest : Bytes}

theorem gather_line (gathered : gather budget pending size input = .line held rest) :
    ∃ taken, input = taken ++ 0x0A :: rest ∧ 0x0A ∉ taken ∧ taken.length < budget ∧
      held = taken.reverse ++ pending := by
  rcases gather_cases budget pending size input with
    ⟨taken, after, same, unbroken, within, found⟩ | ⟨_, _, _, _, _, found⟩ | ⟨_, _, found⟩
  all_goals
    rw [gathered] at found
    cases found
  exact ⟨taken, same, unbroken, within, rfl⟩

theorem gather_full (gathered : gather budget pending size input = .full rest) :
    ∃ taken, input = taken ++ rest ∧ 0x0A ∉ taken ∧ taken.length = budget := by
  rcases gather_cases budget pending size input with
    ⟨_, _, _, _, _, found⟩ | ⟨taken, after, same, unbroken, all, found⟩ | ⟨_, _, found⟩
  all_goals
    rw [gathered] at found
    cases found
  exact ⟨taken, same, unbroken, all⟩

theorem gather_short (gathered : gather budget pending size input = .short held total) :
    0x0A ∉ input ∧ input.length < budget ∧ held = input.reverse ++ pending ∧
      total = size + input.length := by
  rcases gather_cases budget pending size input with
    ⟨_, _, _, _, _, found⟩ | ⟨_, _, _, _, _, found⟩ | ⟨unbroken, within, found⟩
  all_goals
    rw [gathered] at found
    cases found
  exact ⟨unbroken, within, rfl, rfl⟩

theorem length_of_line (gathered : gather budget pending size input = .line held rest) :
    rest.length < input.length := by
  obtain ⟨taken, rfl, _, _, _⟩ := gather_line gathered
  simp only [List.length_append, List.length_cons]
  omega

theorem length_of_full (gathered : gather budget pending size input = .full rest) :
    rest.length + budget = input.length := by
  obtain ⟨taken, rfl, _, all⟩ := gather_full gathered
  rw [List.length_append, all]
  omega

end

/-- What the end of the stream makes of the part of a line that has arrived. -/
def finish (r : LineReader) : Line × LineReader :=
  let line := r.pending.reverse
  if r.discarding || line.all isAsciiBlank then (.finished, r.restart) else (.data line, r.restart)

/-- Takes bytes up to the end of the first line that is reported, or all of them. Gives what is to
be reported and the bytes that are left. Where there is no room for a byte, nothing is taken, which counts as
the end of the stream. -/
def feed (r : LineReader) (input : Bytes) : Option Line × LineReader × Bytes :=
  match _gathered : gather (r.room - r.size) r.pending r.size input with
  | .line pending rest =>
    let line := lineOf pending
    if r.discarding || line.all isAsciiBlank then r.restart.feed rest
    else (some (.data line), r.restart, rest)
  | .full rest =>
    if r.wraps then
      let (line, r) := r.finish
      (some line, r, rest)
    else if r.discarding then { r with pending := [], size := 0 }.feed rest
    else (some .tooLong, { r with pending := [], size := 0, discarding := true }, rest)
  | .short pending size => (none, { r with pending, size }, [])
termination_by (input.length, r.size)
decreasing_by
  · exact .left _ _ (length_of_line _gathered)
  · next roomy _ =>
    have length := length_of_full _gathered
    rw [room, if_neg roomy] at length
    rcases Nat.lt_or_ge r.limit r.size with large | fits
    · have same : rest.length = input.length := by omega
      rw [same]
      exact .right _ (Nat.zero_lt_of_lt large)
    · exact .left _ _ (by omega)

/-- The next line of a stream of which `input` has arrived, if it is there. `ended` says that nothing more
will arrive. -/
def next (r : LineReader) (input : Bytes) (ended : Bool) : Option Line × LineReader × Bytes :=
  match r.feed input with
  | (some line, r, rest) => (some line, r, rest)
  | (none, r, rest) =>
    if ended then
      let (line, r) := r.finish
      (some line, r, rest)
    else (none, r, rest)

end LineReader
end Courier
