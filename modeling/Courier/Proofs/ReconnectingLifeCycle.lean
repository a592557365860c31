import Courier.Proofs.ReconnectingOwnership
import Courier.Proofs.ReconnectingReports
import Mathlib.Computability.Language

/-! The life of a reconnecting transport whose operations follow one another. What it makes known is a word:
it dials until it is connected, any number of times, and in between it gets disconnected; closing is the end.
The word tells at every moment where the transport stands. -/

namespace Courier.Proofs.ReconnectingLifeCycle
open Reconnecting ReconnectingTasks ReconnectingOwnership ReconnectingReports
open scoped Computability

def Dials : Language ConnectionState := {[.connecting]} * {[.connecting]}∗

/-- From the first dial to the end of the connection that the last of them brought. -/
def Round : Language ConnectionState := Dials * {[.connected]} * {[.disconnected]}

def LifeCycle : Language ConnectionState :=
  Round∗ * ({[.connecting]}∗ + Dials * {[.connected]}) * (1 + {[.closed]})

/-- The words after which there is no connection. -/
def Down : Language ConnectionState := Round∗ * {[.connecting]}∗

/-- The words after which the last dial is in progress, or has failed. -/
def Dialing : Language ConnectionState := Round∗ * Dials

def Up : Language ConnectionState := Dialing * {[.connected]}

def Over : Language ConnectionState := (Down + Up) * {[.closed]}

section
variable {word : List ConnectionState}

private theorem lifeCycle_eq : LifeCycle = (Down + Up) * (1 + {[.closed]}) := by
  rw [LifeCycle, Down, Up, Dialing, mul_add Round∗, mul_assoc Round∗]

private theorem down_of_dialing (dialing : word ∈ Dialing) : word ∈ Down := by
  have below : Dialing ≤ Down := mul_le_mul_right mul_kstar_le_kstar _
  exact below dialing

private theorem lifeCycle_of_down (down : word ∈ Down) : word ∈ LifeCycle := by
  rw [lifeCycle_eq, mul_add, mul_one]
  exact .inl (.inl down)

private theorem lifeCycle_of_up (up : word ∈ Up) : word ∈ LifeCycle := by
  rw [lifeCycle_eq, mul_add, mul_one]
  exact .inl (.inr up)

private theorem lifeCycle_of_over (there : word ∈ Over) : word ∈ LifeCycle := by
  rw [lifeCycle_eq, mul_add]
  exact .inr there

private theorem dialing_of_down (down : word ∈ Down) : word ++ [.connecting] ∈ Dialing := by
  rw [Dialing, Dials, ← Language.mul_self_kstar_comm, ← mul_assoc]
  exact Language.append_mem_mul down rfl

private theorem up_of_dialing (dialing : word ∈ Dialing) : word ++ [.connected] ∈ Up :=
  Language.append_mem_mul dialing rfl

private theorem down_of_up (up : word ∈ Up) : word ++ [.disconnected] ∈ Down := by
  have whole : Up * {[.disconnected]} ≤ Down := by
    calc Up * {[.disconnected]}
      _ = Round∗ * Round := by rw [Up, Dialing, Round, mul_assoc, mul_assoc, mul_assoc]
      _ ≤ Round∗ * 1 := by rw [mul_one]; exact kstar_mul_le_kstar
      _ ≤ Down := mul_le_mul_right one_le_kstar _
  exact whole (Language.append_mem_mul up rfl)

private theorem over_of_down (down : word ∈ Down) : word ++ [.closed] ∈ Over :=
  Language.append_mem_mul (.inl down) rfl

private theorem over_of_up (up : word ∈ Up) : word ++ [.closed] ∈ Over :=
  Language.append_mem_mul (.inr up) rfl

/-! ### The last state -/

private theorem getLast_of_mem_mul {front : Language ConnectionState} {last : ConnectionState}
    (member : word ∈ front * {[last]}) : word.getLast? = some last := by
  obtain ⟨before, _, _, rfl, rfl⟩ := Language.mem_mul.mp member
  simp

private theorem kstar_cases {part : Language ConnectionState} (member : word ∈ part∗) :
    word = [] ∨ word ∈ part∗ * part := by
  rwa [← Language.one_add_kstar_mul_self_eq_kstar] at member

private theorem down_last (down : word ∈ Down) : word.getLast? ≠ some .connected := by
  obtain ⟨rounds, rounded, dials, dialed, rfl⟩ := Language.mem_mul.mp down
  rcases kstar_cases dialed with rfl | dialed
  · rw [List.append_nil]
    rcases kstar_cases rounded with rfl | rounded
    · nofun
    · rw [Round, ← mul_assoc] at rounded
      rw [getLast_of_mem_mul rounded]
      nofun
  · have last := getLast_of_mem_mul dialed
    rw [List.getLast?_append, last]
    nofun

end

/-! ### Where the transport stands -/

inductive Rests (word : List ConnectionState) : Slot → Prop where
  | down : word ∈ Down → Rests word {}
  | up (c : Connection) : word ∈ Up → Rests word { connection := some c }
  | closed : word ∈ Over → Rests word { closed := true }

/-- Where the slot and the only operation in progress are after a word. -/
inductive Stands (word : List ConnectionState) : Slot → Phase → Prop where
  | dialing (s : Search) (wait : Duration) : word ∈ Dialing → Stands word {} (.dialing s wait)
  | resting (s : Search) (wait : Duration) (last : TransportError) :
      word ∈ Dialing → Stands word {} (.resting s wait last)
  | uses (goal : Goal) (c : Connection) (replaced : Bool) :
      word ∈ Up → Stands word { connection := some c } (.using goal c replaced)
  | dropping (goal : Goal) (why : TransportError) : word ∈ Up → Stands word {} (.dropping goal why)
  | closing : word ∈ Over → Stands word { closed := true } .closing

def Fits (word : List ConnectionState) (slot : Slot) : Next → Prop
  | .finish _ => Rests word slot
  | .ask _ phase => Stands word slot phase

section
variable {config : Reconnect} {slot : Slot} {ended : Option ContextError} {r : Step} {phase : Phase}
  {word : List ConnectionState}

private theorem Rests.lifeCycle (rests : Rests word slot) : word ∈ LifeCycle := by
  cases rests with
  | down there => exact lifeCycle_of_down there
  | up _ there => exact lifeCycle_of_up there
  | closed there => exact lifeCycle_of_over there

private theorem Stands.lifeCycle (stands : Stands word slot phase) : word ∈ LifeCycle := by
  cases stands with
  | dialing _ _ there | resting _ _ _ there => exact lifeCycle_of_down (down_of_dialing there)
  | uses _ _ _ there | dropping _ _ there => exact lifeCycle_of_up there
  | closing there => exact lifeCycle_of_over there

private theorem Fits.lifeCycle {next : Next} (fits : Fits word slot next) : word ∈ LifeCycle := by
  cases next with
  | finish reply => exact Rests.lifeCycle fits
  | ask request phase => exact Stands.lifeCycle fits

private theorem Rests.connected_iff (rests : Rests word slot) :
    slot.connection.isSome = true ↔ word.getLast? = some .connected := by
  cases rests with
  | down there => exact ⟨nofun, fun last => absurd last (down_last there)⟩
  | up c there => exact ⟨fun _ => getLast_of_mem_mul there, fun _ => rfl⟩
  | closed there =>
    rw [getLast_of_mem_mul there]
    exact ⟨nofun, nofun⟩

private theorem sought_fits (sought : Sought slot none r) (rests : Rests word slot) :
    Fits (word ++ states r.reports) r.slot r.next := by
  cases sought with
  | decided reply =>
    rw [states_nil, List.append_nil]
    exact rests
  | @uses c goal replaced there =>
    obtain held : slot.connection = some c := there.resolve_right nofun
    cases rests with
    | up other up =>
      cases held
      exact .uses goal c replaced (by simpa [use] using up)
    | down _ | closed _ => cases held
  | dials s wait live empty =>
    cases rests with
    | down down => exact .dialing s wait (dialing_of_down down)
    | up _ _ => cases empty
    | closed _ => cases live

private theorem close_fits (rests : Rests word slot) :
    Fits (word ++ states (close slot).reports) (close slot).slot (close slot).next := by
  cases rests with
  | down there => exact Rests.closed (over_of_down there)
  | up c there => exact Stands.closing (over_of_up there)
  | closed there =>
    refine Rests.closed ?_
    simpa [close] using there

private theorem perform_fits (op : Operation) (rests : Rests word slot) :
    Fits (word ++ states (perform config slot ended op).reports) (perform config slot ended op).slot
      (perform config slot ended op).next := by
  cases op with
  | send m => exact sought_fits (start_sought (.send m)) rests
  | receive => exact sought_fits (start_sought .receive) rests
  | close => exact close_fits rests

private theorem resumed_fits (resumed : Resumed slot phase r) (stands : Stands word slot phase) :
    Fits (word ++ states r.reports) r.slot r.next := by
  cases resumed with
  | failed s wait why =>
    cases stands with
    | dialing _ _ there => exact .resting s wait why (by simpa using there)
  | late _ _ _ closed => cases stands; cases closed
  | lost _ _ _ held => cases stands; cases held
  | won _ _ c _ _ sought =>
    cases stands with
    | dialing _ _ there => simpa using sought_fits sought (.up c (up_of_dialing there))
  | rested _ _ _ sought =>
    cases stands with
    | resting _ _ _ there => exact sought_fits sought (.down (down_of_dialing there))
  | refused _ _ => cases stands
  | joined _ _ _ => cases stands
  | done goal c _ reply =>
    cases stands with
    | uses _ _ _ there => exact Rests.up c (by simpa using there)
  | removed goal _ why _ =>
    cases stands with
    | uses _ _ _ there => exact .dropping goal why (by simpa using there)
  | stale _ c _ sought =>
    cases stands with
    | uses _ _ _ there => exact sought_fits sought (.up c there)
  | dropped _ _ silent sought =>
    cases stands with
    | dropping _ _ there => simpa [silent] using sought_fits sought (.down (down_of_up there))
  | closed reply =>
    cases stands with
    | closing there => exact Rests.closed (by simpa using there)

end

/-! ### One operation after another -/

instance (s : System) : Decidable (Idle s) := inferInstanceAs (Decidable (∀ next ∈ s.tasks, requests next = []))

/-- The state after an event, where an operation begins only when every other has come to its end. -/
def inTurn (config : Reconnect) (s : System) : Event → Option System
  | .start op ended => if Idle s then s.step config (.start op ended) else none
  | .answer task ended dialed reply => s.step config (.answer task ended dialed reply)

/-- At most one operation is in progress, and where it is fits the word. -/
inductive Follows (word : List ConnectionState) (s : System) : Prop where
  | unused (none : s.tasks = []) (rests : Rests word s.slot)
  | task (n : Nat) (next : Next) (found : s.tasks[n]? = some next) (fits : Fits word s.slot next)
      (alone : ∀ m other, m ≠ n → s.tasks[m]? = some other → requests other = [])

section
variable {config : Reconnect} {s after : System} {event : Event} {passages : List (Passage System Event)}
  {word : List ConnectionState}

private theorem Follows.lifeCycle (follows : Follows word s) : word ∈ LifeCycle := by
  cases follows with
  | unused _ rests => exact rests.lifeCycle
  | task _ _ _ fits _ => exact fits.lifeCycle

private theorem Follows.rests (follows : Follows word s) (idle : Idle s) : Rests word s.slot := by
  cases follows with
  | unused _ rests => exact rests
  | task n next found fits _ =>
    cases next with
    | finish reply => exact fits
    | ask request phase => exact nomatch idle _ (List.mem_of_getElem? found)

private theorem Follows.waiting (follows : Follows word s) {n : Nat} {request : Request} {phase : Phase}
    (waits : s.tasks[n]? = some (.ask request phase)) :
    Stands word s.slot phase ∧ ∀ m other, m ≠ n → s.tasks[m]? = some other → requests other = [] := by
  cases follows with
  | unused none _ =>
    rw [none] at waits
    cases waits
  | task k next found fits alone =>
    by_cases same : n = k
    · subst same
      cases found.symm.trans waits
      exact ⟨fits, alone⟩
    · exact nomatch alone n _ same waits

private theorem inTurn_step (moved : inTurn config s event = some after) : s.step config event = some after := by
  cases event with
  | start op ended => exact (Option.ite_none_right_eq_some.mp moved).2
  | answer task ended dialed reply => exact moved

private theorem inTurn_follows (follows : Follows word s) (moved : inTurn config s event = some after) :
    Follows (word ++ told config s event) after := by
  cases event with
  | start op ended =>
    obtain ⟨idle, stepped⟩ := Option.ite_none_right_eq_some.mp moved
    cases stepped
    refine .task s.tasks.length _ List.getElem?_concat_length (perform_fits op (follows.rests idle)) ?_
    intro m other differs there
    rcases found_append there with before | ⟨same, _⟩
    · exact idle other (List.mem_of_getElem? before)
    · exact absurd same differs
  | answer task ended dialed reply =>
    obtain ⟨request, phase, waits, _, rfl⟩ := answer_cases moved
    obtain ⟨stands, alone⟩ := follows.waiting waits
    rw [told_answer _ _ _ waits]
    refine .task task _ (found_self waits _) (resumed_fits resume_resumed stands) ?_
    intro m other differs there
    rcases found_set waits there with ⟨same, _⟩ | ⟨_, before⟩
    · exact absurd same differs
    · exact alone m other differs before

theorem run_follows (ran : History (inTurn config) {} passages s) :
    Follows (observed config passages) s := by
  induction ran with
  | start =>
    have none : [] ∈ Down :=
      Language.append_mem_mul (Language.nil_mem_kstar _) (Language.nil_mem_kstar _)
    exact .unused rfl (.down none)
  | go _ moved ih =>
    rw [observed_append]
    simpa [observed] using inTurn_follows ih moved

/-- When operations follow one another, what a transport makes known is a word of its life cycle, at any
moment and whatever becomes of dials, connections and contexts. It tells of every dial, and of no other.
Between two operations it is connected exactly if this is the last that it has told. -/
theorem follows_life_cycle (ran : History (inTurn config) {} passages s) :
    observed config passages ∈ LifeCycle ∧
    (observed config passages).count .connecting = s.asked.count .dial ∧
    (Idle s → (s.slot.connection.isSome = true ↔
      (observed config passages).getLast? = some .connected)) := by
  have follows := run_follows ran
  have dials := observed_dials (ran.mono fun _ _ _ allowed => (step_iff.mp (inTurn_step allowed)).2)
  exact ⟨follows.lifeCycle, dials, fun idle => (follows.rests idle).connected_iff⟩

end

/-- Connection 7 has broken under a receive. Of two more dials the second has brought 8, which has given a
message. -/
def replaced : System where
  slot := { connection := some 8 }
  begun := [.receive]
  tasks := [.finish (.ok none)]
  dialed := [7, 8]
  asked :=
    [.dial, .operate 7 .receive, closing 7, .dial, .rest (.ofMillis 100), .dial, .operate 8 .receive]
  answered :=
    [.dial, .operate 7 .receive, closing 7, .dial, .rest (.ofMillis 100), .dial, .operate 8 .receive]

theorem follows_life_cycle_replaced :
    ∃ passages, History (inTurn {}) {} passages replaced ∧ observed {} passages ∈ LifeCycle ∧
      (observed {} passages).count .connecting = 3 ∧
      (observed {} passages).getLast? = some .connected := by
  have reached : Leads (inTurn {}) {} replaced :=
    ⟨[.start .receive none, .answer 0 none (.ok 7) (.ok none),
      .answer 0 none (.ok 0) (.error (.closed "peer")), .answer 0 none (.ok 0) (.ok none),
      .answer 0 none (.error (.closed "peer")) (.ok none), .answer 0 none (.ok 0) (.ok none),
      .answer 0 none (.ok 8) (.ok none), .answer 0 none (.ok 0) (.ok none)], rfl⟩
  obtain ⟨passages, ran⟩ := reached.history
  obtain ⟨word, dials, connected⟩ := follows_life_cycle ran
  exact ⟨passages, ran, word, dials, (connected (by decide)).mp rfl⟩

end Courier.Proofs.ReconnectingLifeCycle
