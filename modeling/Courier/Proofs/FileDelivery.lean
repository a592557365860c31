import Courier.Proofs.FileReading
import Courier.Proofs.MessageLines

/-! A transport on a file that others append to. It sends by appending a record, and its receives deliver the
results of the lines that its reader passes. -/

namespace Courier.Proofs.FileDelivery
open LineSplitting StreamReceiving FileReading MessageRoundTrip MessageLines

/-! ### Records -/

/-- A message whose record is one line that can be read back. -/
structure Sendable where
  message : Message
  wire : Bytes
  marshaled : message.marshal = .ok wire
  writable : Writable message
  version : message.version ≠ ""
  id : message.id ≠ ""
  source : message.source ≠ ""
  kind : message.kind ≠ ""
  unbroken : 0x0A ∉ wire
  short : wire.length ≤ maxLineBytes

def lineResult : Line → Received
  | .data bytes => Message.ofLine bytes
  | .tooLong => .error (.lineTooLong FileTransport.name maxLineBytes)
  | .finished => .error .noMoreMessages

namespace Sendable
variable (m : Sendable)

def record : Bytes := m.wire ++ [0x0A]

theorem endsLine_record : EndsLine m.record := .inr List.getLast?_concat

private theorem record_ne_nil : m.record ≠ [] := List.append_ne_nil_of_right_ne_nil _ (List.cons_ne_nil _ _)

private theorem toRecord_eq : m.message.toRecord FileTransport.name = .ok m.record := by
  rw [Message.toRecord, m.marshaled]
  rfl

theorem results_record : (split maxLineBytes m.record).map lineResult = [.ok m.message] := by
  have same : m.wire = Message.codec.write m.message :=
    Except.ok.inj (m.marshaled.symm.trans (marshal_eq m.writable))
  have small : (Message.codec.write m.message).length ≤ Message.maxSize :=
    Nat.le_trans (same ▸ m.short) (by decide)
  have valid : m.message.validate = .ok () := by
    apply validate_iff.mpr
    simp only [String.isEmpty_iff]
    exact ⟨m.version, m.id, m.source, m.kind, Nat.le_trans (length_payload_le m.writable) small⟩
  rw [record, split_unbroken_record ⟨_, same⟩ m.unbroken, if_neg (Nat.not_lt.mpr m.short)]
  rw [List.map_singleton, lineResult, Message.ofLine, same, unmarshal_write m.writable valid small]
  rfl

end Sendable

/-! ### One transport -/

def sendIn (t : FileTransport) (files : Config.Files) (m : Message) :
    Except TransportError (FileTransport × Config.Files) := do
  let record ← t.prepare none m
  let (t, files, _) ← t.append files record
  return (t, files)

/-- One look of a receive that has entered. Others may append to the file before the next one. -/
def lookIn (t : FileTransport) (files : Config.Files) : Option Received × FileTransport :=
  match t.ensureOpen with
  | .error why => (some (.error why), t)
  | .ok () =>
    match files t.path with
    | .missing => (some (.error (FileTransport.absent files t.path)), t)
    | .directory => (some (.error FileTransport.isADirectory), t)
    | .barred _ why => (some (.error (FileTransport.failure why.message)), t)
    | .content bytes =>
      let (line, reader) := look (t.reader.getD {}) bytes
      (line.map lineResult, { t with reader := some reader })

def contentOf : Config.FileState → Bytes
  | .content bytes => bytes
  | _ => []

section
variable {t after : FileTransport} {files later : Config.Files}

theorem ensureOpen_eq (opened : t.closed = false) : t.ensureOpen = .ok () := by
  rw [FileTransport.ensureOpen, opened]
  rfl

theorem read_content (opened : t.closed = false) {bytes : Bytes} (file : files t.path = .content bytes) :
    t.read files = (lineResult ((t.reader.getD {}).next bytes).1,
      { t with reader := some ((t.reader.getD {}).next bytes).2 }) := by
  simp only [FileTransport.read, ensureOpen_eq opened, file]
  rcases (t.reader.getD {}).next bytes with ⟨line, reader⟩
  cases line <;> rfl

private theorem lookIn_content (opened : t.closed = false) {bytes : Bytes}
    (file : files t.path = .content bytes) :
    lookIn t files = ((look (t.reader.getD {}) bytes).1.map lineResult,
      { t with reader := some (look (t.reader.getD {}) bytes).2 }) := by
  simp only [lookIn, ensureOpen_eq opened, file]

theorem read_missing (opened : t.closed = false) (file : files t.path = .missing) :
    t.read files = (.error (FileTransport.absent files t.path), t) := by
  simp only [FileTransport.read, ensureOpen_eq opened, file]

theorem lookIn_missing (opened : t.closed = false) (file : files t.path = .missing) :
    lookIn t files = (some (.error (FileTransport.absent files t.path)), t) := by
  simp only [lookIn, ensureOpen_eq opened, file]

/-- Receiving is looking until there is a result. -/
theorem read_lookIn (t : FileTransport) (files : Config.Files) :
    match lookIn t files with
    | (some result, after) => t.read files = (result, after)
    | (none, after) => t.read files = after.read files := by
  cases closed : t.closed with
  | true => simp only [lookIn, FileTransport.read, FileTransport.ensureOpen, closed, if_true]
  | false =>
    cases file : files t.path with
    | missing => simp only [lookIn, FileTransport.read, ensureOpen_eq closed, file]
    | directory | barred => simp only [lookIn, FileTransport.read, ensureOpen_eq closed, file]
    | content bytes =>
      have steps := next_look (t.reader.getD {}) bytes
      rw [lookIn_content closed file, read_content closed file]
      rcases looked : look (t.reader.getD {}) bytes with ⟨_ | line, reader⟩ <;> simp only [looked] at steps
      · have still : files { t with reader := some reader }.path = .content bytes := file
        rw [steps]
        exact (read_content (t := { t with reader := some reader }) closed still).symm
      · rw [steps]
        rfl

theorem sendIn_ok {m : Sendable} (sent : sendIn t files m.message = .ok (after, later)) :
    after = { t with writing := true } ∧
      later = files.write t.path (contentOf (files t.path) ++ m.record) := by
  obtain ⟨record, prepared, sent⟩ := JsonOrigins.ok_of_bind sent
  obtain ⟨_, _, prepared⟩ := JsonOrigins.ok_of_bind prepared
  rw [m.toRecord_eq] at prepared
  cases prepared
  obtain ⟨⟨_, _, _⟩, appended, sent⟩ := JsonOrigins.ok_of_bind sent
  cases sent
  obtain ⟨_, _, appended⟩ := JsonOrigins.ok_of_bind appended
  cases file : files t.path with
  | directory | barred =>
    rw [file] at appended
    cases appended
  | content bytes =>
    rw [file] at appended
    cases appended
    exact ⟨rfl, rfl⟩
  | missing =>
    rw [file] at appended
    simp only at appended
    split at appended
    next =>
      cases appended
      exact ⟨rfl, rfl⟩
    next => cases appended

theorem sendIn_content (opened : t.closed = false) {bytes : Bytes} (file : files t.path = .content bytes)
    (m : Sendable) :
    sendIn t files m.message = .ok ({ t with writing := true }, files.write t.path (bytes ++ m.record)) := by
  have prepared : t.prepare none m.message = .ok m.record := by
    rw [FileTransport.prepare, FileTransport.enter, ensureOpen_eq opened]
    exact m.toRecord_eq
  rw [sendIn, prepared]
  simp only [FileTransport.append, ensureOpen_eq opened, file]
  rfl

end

/-! ### What a transport has delivered -/

def isOfLine : Received → Bool
  | .error .noMoreMessages => false
  | .error (.io _ _) => false
  | _ => true

def delivered (results : List Received) : List Received := results.filter isOfLine

theorem isOfLine_lineResult {line : Line} (other : line ≠ .finished) : isOfLine (lineResult line) = true := by
  cases line with
  | data bytes =>
    rw [lineResult, Message.ofLine]
    cases Message.unmarshal bytes <;> rfl
  | tooLong => rfl
  | finished => exact absurd rfl other

private theorem delivered_line (results : List Received) (line : Line) :
    delivered (results ++ [lineResult line]) = delivered results ++ (reported (some line)).map lineResult := by
  rw [delivered, List.filter_append]
  by_cases other : line = .finished
  · rw [other]
    rfl
  · rw [List.filter_cons_of_pos (isOfLine_lineResult other), reported_line other]
    rfl

theorem delivered_absent (results : List Received) (files : Config.Files) (path : String) :
    delivered (results ++ [.error (FileTransport.absent files path)]) = delivered results := by
  rw [delivered, List.filter_append]
  exact List.append_nil _

/-- A transport that has delivered the results of the lines before its reader. -/
structure Following (path : String) (content : Bytes) (t : FileTransport) (results : List Received) :
    Prop where
  path : t.path = path
  opened : t.closed = false
  reads : ∃ told, delivered results = told.map lineResult ∧ Cursor content told (t.reader.getD {})

section
variable {path : String} {content : Bytes} {t after : FileTransport} {results : List Received}
  {files : Config.Files}

theorem following_start (ends : EndsLine content) : Following path content { path } [] :=
  ⟨rfl, rfl, [], rfl, cursor_start ends⟩

theorem Following.append (following : Following path content t results) (ends : EndsLine content)
    (m : Sendable) (writing : Bool) : Following path (content ++ m.record) { t with writing } results := by
  obtain ⟨told, same, cursor⟩ := following.reads
  exact ⟨following.path, following.opened, told, same, cursor.append ends m.endsLine_record m.record_ne_nil⟩

theorem Following.begins (following : Following path content t results) :
    delivered results <+: (split maxLineBytes content).map lineResult := by
  obtain ⟨told, same, cursor⟩ := following.reads
  rw [same, ← cursor.told, List.map_append]
  exact List.prefix_append _ _

/-- What a receive is to return, given the results of all lines. -/
def nextResult (lines results : List Received) : Received :=
  lines[(delivered results).length]?.getD (.error .noMoreMessages)

private theorem nextResult_eq {told : List Line} (same : delivered results = told.map lineResult) :
    nextResult ((split maxLineBytes content).map lineResult) results =
      lineResult ((split maxLineBytes content)[told.length]?.getD .finished) := by
  rw [nextResult, same, List.length_map, List.getElem?_map]
  cases (split maxLineBytes content)[told.length]? <;> rfl

theorem Following.read (following : Following path content t results) (file : files path = .content content) :
    (t.read files).1 = nextResult ((split maxLineBytes content).map lineResult) results := by
  obtain ⟨told, same, cursor⟩ := following.reads
  rw [← following.path] at file
  rw [read_content following.opened file, nextResult_eq same, cursor.next]

theorem Following.look (following : Following path content t results) (file : files path = .content content)
    {answer : Option Received} (looked : lookIn t files = (answer, after)) :
    Following path content after (results ++ answer.toList) ∧
      ∀ result, answer = some result →
        result = nextResult ((split maxLineBytes content).map lineResult) results := by
  obtain ⟨told, same, cursor⟩ := following.reads
  rw [← following.path] at file
  rw [lookIn_content following.opened file] at looked
  rcases found : FileReading.look (t.reader.getD {}) content with ⟨_ | line, reader⟩ <;>
    rw [found] at looked <;> cases looked
  · obtain ⟨later, _⟩ := cursor.look found
    rw [reported, List.append_nil] at later
    refine ⟨⟨following.path, following.opened, told, ?_, later⟩, ?_⟩
    · rw [Option.map_none, Option.toList_none, List.append_nil]
      exact same
    · intro result none
      cases none
  · obtain ⟨later, which⟩ := cursor.look found
    refine ⟨⟨following.path, following.opened, _, ?_, later⟩, ?_⟩
    · rw [Option.map_some, Option.toList_some, delivered_line, same, List.map_append]
    · rintro result returned
      cases returned
      rw [nextResult_eq same, ← which line rfl]

end

end Courier.Proofs.FileDelivery
