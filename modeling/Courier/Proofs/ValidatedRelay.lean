import Courier.Proofs.LineValidation
import Courier.Proofs.StreamWaiting

/-! Relaying a text that a check has found no fault with. The relay reads it from a stream, and hands every message
to a destination that takes it, whatever becomes of time and of the rest of the world meanwhile. -/

namespace Courier.Proofs.ValidatedRelay
open LineReader LineSplitting LineValidation Simulation
open StreamReceiving (whole)
open Utf8Decoding (toString?_ofString)

/-! ### A task that has the world to itself -/

/-- A task goes on as long as it can, and otherwise time passes until it is woken. -/
def goOn (s : World × Status) (_ : Unit) : Option (World × Status) :=
  match s.2 with
  | .ready stack next => some (s.1.run stack next 1)
  | status =>
    if s.1.isReady status then some (s.1.step 0 status)
    else (s.1.wakeTime status).map fun time => ({ s.1 with clock := s.1.clock.advanceTo time }, status)

abbrev Comes (first last : World × Status) : Prop := Leads goOn first last

section
variable {w : World} {stack : Stack} {next : Next} {first last other : World × Status}

private theorem comes_run (w : World) (stack : Stack) (next : Next) : Comes (w, .ready stack next) (w.run stack next 1) :=
  ⟨[()], rfl⟩

theorem Comes.unique (came : Comes first last) (cameTo : Comes first other) (ended : goOn last () = none)
    (over' : goOn other () = none) : last = other := by
  obtain ⟨events, ran⟩ := came
  obtain ⟨more, ranOn⟩ := cameTo
  induction events generalizing first more with
  | nil =>
    cases ran
    cases more with
    | nil => exact Option.some.inj ranOn
    | cons event more =>
      rw [List.foldlM_cons, ended] at ranOn
      cases ranOn
  | cons event events ih =>
    cases more with
    | nil =>
      cases ranOn
      rw [List.foldlM_cons, over'] at ran
      cases ran
    | cons event more =>
      rw [List.foldlM_cons] at ran ranOn
      obtain ⟨next, moved, ran⟩ := Option.bind_eq_some_iff.mp ran
      obtain ⟨next', moved', ranOn⟩ := Option.bind_eq_some_iff.mp ranOn
      cases moved.symm.trans moved'
      exact ih ran more ranOn

end

/-! ### The source -/

/-- All that is left of a stream is there, these are its lines, and nobody is at it. -/
structure Left (t : StreamTransport) (lines : List Line) : Prop where
  ended : t.inputEnded = true
  free : t.lock.holder = none
  alone : t.lock.waiting = []
  sound : Sound t.lines
  lines : remaining t.lines t.input = lines

private theorem left_whole (text : Bytes) : Left (whole text) (split maxLineBytes text) where
  ended := rfl
  free := rfl
  alone := rfl
  sound := ⟨rfl, rfl, Nat.zero_le _, List.not_mem_nil⟩
  lines := rfl

section
variable {w : World} {ctx : Context} {source : Place} {t : StreamTransport}

private theorem receive_left {lines : List Line} (found : w.device source = .stream t) (live : w.ended? ctx = none)
    (left : Left t lines) (stack : Stack) (frame : Frame) :
    ∃ line after,
      Comes (w, .ready stack (.call ctx frame source .receive))
        (w.setDevice source (.stream after),
          .ready ((ctx, frame) :: stack) (.reply ((StreamTransport.ofLine line).map some))) ∧
      (lines = [] ∧ line = .finished ∨ ∃ rest, lines = line :: rest ∧ Left after rest) := by
  obtain ⟨line, after, rest, called, sound, splits⟩ := next_splits left.sound t.input
  obtain ⟨held, single⟩ := StreamReceiving.acquire_alone left.free left.alone
  obtain ⟨freed, last⟩ := StreamReceiving.release_alone held single
  have has : t.lock.acquire.2.isHeldBy t.lock.acquire.1 = true := decide_eq_true held
  refine ⟨line, { t with lines := after, input := rest, lock := t.lock.acquire.2.release t.lock.acquire.1 }, ?_, ?_⟩
  · have ran : w.run stack (.call ctx frame source .receive) 1 =
        (w.setDevice source (.stream
          { t with lines := after, input := rest, lock := t.lock.acquire.2.release t.lock.acquire.1 }),
          .ready ((ctx, frame) :: stack) (.reply ((StreamTransport.ofLine line).map some))) := by
      simp only [World.run, World.operate, found, World.streamOperation, StreamTransport.enter, live,
        World.pollStream, StreamTransport.hasReader, has, StreamReceiving.poll_live, left.ended, called]
      rfl
    rw [← ran]
    exact comes_run w stack _
  · rw [left.lines] at splits
    rcases splits with same | ⟨rfl, nothing, -⟩
    · exact .inr ⟨_, same, left.ended, freed, last, sound, rfl⟩
    · exact .inl ⟨nothing, rfl⟩

end

/-! ### The destination -/

/-- Under a context that does not end, every send to the destination succeeds, whatever was sent before, and leaves
the source alone. `taken` are the messages that the destination has taken. -/
structure Accepting (ctx : Context) (source destination : Place) where
  ready : World → Prop
  taken : World → List Message
  live : ∀ w, ready w → w.ended? ctx = none
  apart : ∀ w t, ready w →
    ready (w.setDevice source (.stream t)) ∧ taken (w.setDevice source (.stream t)) = taken w
  sends : ∀ w m stack frame, ready w → ∃ after reply,
    Comes (w, .ready stack (.call ctx frame destination (.send m)))
      (after, .ready ((ctx, frame) :: stack) (.reply (.ok reply))) ∧
    ready after ∧ after.device source = w.device source ∧ taken after = taken w ++ [m]

/-! ### Relays -/

def asking (ctx : Context) (source destination : Place) (count : Nat) : Status :=
  .ready [] (.call ctx (.relay source destination (.receiving count)) source .receive)

private theorem comes_relay (w : World) (ctx : Context) (source destination : Place) :
    Comes (w, .starting ctx (.relay source destination)) (w, asking ctx source destination 0) := ⟨[()], rfl⟩

section
variable {ctx : Context} {source destination : Place} (accepting : Accepting ctx source destination)
variable {w : World} {t : StreamTransport} {lines : List Line} (count : Nat)

theorem finishes {reply : Reply} {result : Except Relay.Fault Nat} (live : w.ended? ctx = none)
    (finished : Relay.afterReceive count none reply = .finish result) :
    Comes (w, .ready [(ctx, .relay source destination (.receiving count))] (.reply reply))
      (w, .finished (.relayed result) w.clock.now) := by
  have ran : w.run [(ctx, .relay source destination (.receiving count))] (.reply reply) 1 =
      (w, .ready [] (.done (.relayed result))) := by
    simp only [World.run, Next.reply, World.resume, live, finished, World.afterRelayStep]
  have ended := comes_run w [] (.done (.relayed result))
  rw [← ran] at ended
  exact (comes_run w _ _).trans ended

private theorem relays_line {line : Line} {rest : List Line} {m : Message} (ready : accepting.ready w)
    (found : w.device source = .stream t) (left : Left t (line :: rest))
    (read : StreamTransport.ofLine line = .ok m) :
    ∃ after t', Comes (w, asking ctx source destination count) (after, asking ctx source destination (count + 1)) ∧
      accepting.ready after ∧ after.device source = .stream t' ∧ Left t' rest ∧
      accepting.taken after = accepting.taken w ++ [m] := by
  obtain ⟨line, t', received, ⟨nothing, -⟩ | ⟨_, same, left⟩⟩ :=
    receive_left found (accepting.live w ready) left [] (.relay source destination (.receiving count))
  · cases nothing
  · cases same
    obtain ⟨ready', kept⟩ := accepting.apart w t' ready
    obtain ⟨after, reply, sent, readyAfter, device, taken⟩ :=
      accepting.sends _ m [] (.relay source destination (.sending count)) ready'
    rw [read] at received
    refine ⟨after, t', ?_, readyAfter, ?_, left, ?_⟩
    · refine received.trans ((comes_run _ _ _).trans ?_)
      exact sent.trans (comes_run _ _ _)
    · rw [device]
      exact StreamWaiting.device_setDevice (StreamWaiting.inside_of_stream found) _
    · rw [taken, kept]

/-- Where every line that is left is a message, all of them are relayed. -/
theorem relays {messages : List Message} (ready : accepting.ready w) (found : w.device source = .stream t)
    (left : Left t lines) (read : List.Forall₂ (fun line m => StreamTransport.ofLine line = .ok m) lines messages) :
    ∃ after time,
      Comes (w, asking ctx source destination count)
        (after, .finished (.relayed (.ok (count + messages.length))) time) ∧
      accepting.taken after = accepting.taken w ++ messages := by
  induction read generalizing w t count with
  | nil =>
    obtain ⟨line, t', received, ⟨-, rfl⟩ | ⟨_, some, -⟩⟩ :=
      receive_left found (accepting.live w ready) left [] (.relay source destination (.receiving count))
    · obtain ⟨ready', kept⟩ := accepting.apart w t' ready
      exact ⟨_, _, received.trans (finishes count (accepting.live _ ready') rfl), by rw [kept, List.append_nil]⟩
    · cases some
  | @cons line m rest messages own _ ih =>
    obtain ⟨middle, t', relayed, ready, found, left, taken⟩ := relays_line accepting count ready found left own
    obtain ⟨after, time, relayedOn, takenOn⟩ := ih (count + 1) ready found left
    refine ⟨after, time, relayed.trans ?_, ?_⟩
    · rw [List.length_cons, Nat.add_comm messages.length, ← Nat.add_assoc]
      exact relayedOn
    · rw [takenOn, taken, List.append_assoc, List.singleton_append]

/-- The first line that is no message stops the relay. -/
theorem stops (ready : accepting.ready w) (found : w.device source = .stream t) (left : Left t lines)
    (unended : Line.finished ∉ lines) {bad : Line} (member : bad ∈ lines)
    (refused : ∀ m, StreamTransport.ofLine bad ≠ .ok m) :
    ∃ after time why, Comes (w, asking ctx source destination count)
      (after, .finished (.relayed (.error (.receive why))) time) := by
  induction lines generalizing w t count with
  | nil => cases member
  | cons line rest ih =>
    cases read : StreamTransport.ofLine line with
    | ok m =>
      obtain ⟨middle, t', relayed, ready, found, left, -⟩ :=
        relays_line accepting count ready found left read
      have later : bad ∈ rest := by
        rcases List.mem_cons.mp member with rfl | later
        · exact (refused m read).elim
        · exact later
      have unendedOn : Line.finished ∉ rest := fun inside => unended (.tail _ inside)
      obtain ⟨after, time, why, stopped⟩ := ih (count + 1) ready found left unendedOn later
      exact ⟨after, time, why, relayed.trans stopped⟩
    | error why =>
      obtain ⟨line, t', received, ⟨nothing, -⟩ | ⟨_, same, -⟩⟩ :=
        receive_left found (accepting.live w ready) left [] (.relay source destination (.receiving count))
      · cases nothing
      · cases same
        have live := accepting.live _ (accepting.apart w t' ready).1
        have fault : Relay.afterReceive count none (.error why) = .finish (.error (.receive why)) := by
          cases line with
          | data bytes =>
            simp only [StreamTransport.ofLine, Message.ofLine] at read
            cases found : Message.unmarshal bytes <;> rw [found] at read <;> cases read
            rfl
          | tooLong =>
            cases read
            rfl
          | finished => exact (unended List.mem_cons_self).elim
        rw [read] at received
        exact ⟨_, _, why, received.trans (finishes count live fault)⟩

/-- A check without faults predicts what a relay does exactly if a reader takes the lines as the check does: then
the relay ends with the number of messages that the check has counted, and has delivered these messages in order. -/
theorem relays_valid_iff {text : Bytes} {n : Nat} (ready : accepting.ready w)
    (found : w.device source = .stream (whole text)) (checked : Validation.check text = ({ valid := n }, true)) :
    (messages text).length = n ∧
    ((∃ after time, Comes (w, .starting ctx (.relay source destination)) (after, .finished (.relayed (.ok n)) time) ∧
      accepting.taken after = accepting.taken w ++ messages text) ↔ Plain text) := by
  obtain ⟨passes, counted⟩ := check_clean checked
  have starts := comes_relay w ctx source destination
  refine ⟨counted, ?_, ?_⟩
  · rintro ⟨after, time, came, -⟩
    by_contra other
    obtain ⟨bad, member, refused⟩ :
        ∃ line ∈ split maxLineBytes text, ∀ m, StreamTransport.ofLine line ≠ .ok m := by
      by_contra none
      refine other (plain_of_messages fun line member => ?_)
      by_contra refused
      exact none ⟨line, member, fun m read => refused ⟨m, read⟩⟩
    obtain ⟨last, then_, why, stopped⟩ :=
      stops accepting 0 ready found (left_whole text) (finished_not_mem_split _ _) member refused
    cases came.unique (starts.trans stopped) rfl rfl
  · intro plain
    obtain ⟨after, time, relayed, taken⟩ :=
      relays accepting 0 ready found (left_whole text) (split_messages plain passes)
    rw [Nat.zero_add, counted] at relayed
    exact ⟨after, time, starts.trans relayed, taken⟩

end

def unplanned (ctx : Context) {source destination : Place} (apart : source ≠ destination) :
    Accepting ctx source destination where
  ready w := w.ended? ctx = none ∧ ∃ s, w.device destination = .script s ∧ s.sends = []
  taken w := match w.device destination with
    | .script s => s.accepted
    | _ => []
  live _ ready := ready.1
  apart := by
    intro w t ⟨live, s, found, plans⟩
    have same : (w.setDevice source (.stream t)).device destination = w.device destination := by
      simp [World.device, World.setDevice, apart]
    rw [same]
    exact ⟨⟨live, s, found, plans⟩, rfl⟩
  sends := by
    intro w m stack frame ⟨live, s, found, plans⟩
    have inside : destination < w.devices.size := StreamWaiting.inside_of_device (found ▸ nofun)
    let script : Script :=
      { s with sends := [], calls := s.calls ++ [(Operation.send m, w.clock.now)], accepted := s.accepted ++ [m] }
    let after := { w with sendSpans := ctx.span :: w.sendSpans }.setDevice destination (.script script)
    have ran : w.run stack (.call ctx frame destination (.send m)) 1 =
        (after, .ready ((ctx, frame) :: stack) (.reply (.ok none))) := by
      simp only [World.run, World.operate, found, World.scriptOperation, Script.call, plans, World.play,
        Script.settle]
      rfl
    have now : after.device destination = .script script := by simp [after, World.device, World.setDevice, inside]
    have source : after.device source = w.device source := by
      simp [after, World.device, World.setDevice, Ne.symm apart]
    refine ⟨after, none, ran ▸ comes_run w stack _, ⟨live, script, now, rfl⟩, source, ?_⟩
    rw [now, found]

def note : String := "[\"1\",\"m\",\"s\",\"t\",1]"

def noted (second : Bytes) : Bytes := Utf8.ofString note ++ 0x0A :: second ++ [0x0A]

private theorem check_noted {second handed : Bytes} (blank : isBlankLine handed = true)
    (parts : Validation.linesOf (noted second) = [Utf8.ofString note, handed]) :
    Validation.check (noted second) = ({ valid := 1 }, true) := by
  have solid : (Text.trim note).isEmpty = false := by decide
  obtain ⟨m, read⟩ : ∃ m, Message.unmarshal (Utf8.ofString note) = .ok m :=
    ⟨⟨"1", "m", "s", "t", 1, [], 0⟩, by decide +kernel⟩
  cases text : Utf8.toString? handed with
  | none =>
    rw [isBlankLine, text] at blank
    cases blank
  | some white =>
    rw [isBlankLine, text, Option.any_some] at blank
    simp [Validation.check, parts, Validation.checkLines, toString?_ofString, Validation.add, solid, read, text, blank]

def stage (text : Bytes) : World := { devices := #[.stream (whole text), .script {}] }

private theorem stage_ready (text : Bytes) :
    (unplanned (.background 0) Nat.zero_ne_one).ready (stage text) := ⟨rfl, {}, rfl, rfl⟩

private theorem stage_device (text : Bytes) : (stage text).device 0 = .stream (whole text) := rfl

/-- ASCII blanks are blank to both. -/
theorem relays_valid_iff_blanks :
    Validation.check (noted [0x20, 0x09, 0x0D]) = ({ valid := 1 }, true) ∧ Plain (noted [0x20, 0x09, 0x0D]) ∧
    ∃ after time, Comes (stage (noted [0x20, 0x09, 0x0D]), .starting (.background 0) (.relay 0 1))
      (after, .finished (.relayed (.ok 1)) time) := by
  have checked : Validation.check (noted [0x20, 0x09, 0x0D]) = ({ valid := 1 }, true) :=
    check_noted (@isBlankLine_of_ascii [0x20, 0x09] rfl) (by decide +kernel)
  have plain : Plain (noted [0x20, 0x09, 0x0D]) := ⟨by decide +kernel, by decide +kernel⟩
  obtain ⟨after, time, came, -⟩ :=
    (relays_valid_iff _ (stage_ready _) (stage_device _) checked).2.mpr plain
  exact ⟨checked, plain, after, time, came⟩

/-- A no-break space is blank to the check only, and stops the relay. -/
theorem space_stops_relay :
    Validation.check (noted [0xC2, 0xA0]) = ({ valid := 1 }, true) ∧
    (∀ line ∈ Validation.linesOf (noted [0xC2, 0xA0]), line.length ≤ maxLineBytes) ∧
    ∃ after time why, Comes (stage (noted [0xC2, 0xA0]), .starting (.background 0) (.relay 0 1))
      (after, .finished (.relayed (.error (.receive why))) time) := by
  have spelled : Utf8.ofString "\u00a0" = [0xC2, 0xA0] := by decide
  have blank : isBlankLine [0xC2, 0xA0] = true := by
    rw [← spelled]
    exact (isBlankLine_ofString _).mpr (List.all_eq_true.mp (by decide))
  have member : Line.data [0xC2, 0xA0] ∈ split maxLineBytes (noted [0xC2, 0xA0]) := by decide +kernel
  have refused (m : Message) : StreamTransport.ofLine (.data [0xC2, 0xA0]) ≠ .ok m := by
    intro read
    rw [StreamTransport.ofLine, Message.ofLine] at read
    cases found : Message.unmarshal [0xC2, 0xA0] with
    | ok m => exact unmarshal_blank blank m found
    | error why =>
      rw [found] at read
      cases read
  obtain ⟨after, time, why, stopped⟩ :=
    stops _ 0 (stage_ready _) (stage_device _) (left_whole _) (finished_not_mem_split _ _) member refused
  have starts : Comes (stage (noted [0xC2, 0xA0]), .starting (.background 0) (.relay 0 1)) _ := comes_relay _ _ _ _
  exact ⟨check_noted blank (by decide +kernel), by decide +kernel, after, time, why, starts.trans stopped⟩

end Courier.Proofs.ValidatedRelay
