import Courier.Simulation.Task

/-! Running tasks in a world. One of them is in the foreground: the scheduler lets it go on whenever it
can. The others run, in the order in which they became ready, while it waits; and when nobody can
run, time jumps to the next instant at which somebody can. -/

namespace Courier.Simulation

inductive Aim where
  | own (task : Status)
  | task (name : String)

structure Session where
  world : World := {}
  /-- Tasks in the background, those that have waited longest first. -/
  tasks : List (String × Status) := []
  ready : List String := []
deriving Inhabited

namespace Session

/-- So many steps a task may take at one instant, and so many turns there may be in a row. -/
def fuel : Nat := 10000000

def patience : Instant := 3600000 * millisecond

def task? (s : Session) (name : String) : Option Status := s.tasks.lookup name

/-- Lines up the tasks that can go on by now. -/
def lineUp (s : Session) : Session :=
  let new := (s.tasks.filter fun (name, st) => s.world.isReady st && !s.ready.contains name).map (·.1)
  { s with ready := s.ready ++ new }

def turn (s : Session) : Option Session :=
  match s.ready with
  | [] => none
  | name :: ready =>
    let s := { s with ready }
    match s.task? name with
    | none => some s
    | some st =>
      let (world, st) := s.world.step fuel st
      let others := s.tasks.filter fun (other, _) => other ≠ name
      some ({ s with world, tasks := others ++ [(name, st)] }.lineUp)

/-- Lets everything in the background run that can. -/
def settle (s : Session) : Nat → Session
  | 0 => s
  | fuel + 1 =>
    match s.lineUp.turn with
    | none => s
    | some s => settle s fuel

/-- What the foreground has got, if it has got it. -/
def reached? (s : Session) : Aim → Option (Answer × Instant)
  | .own (.finished a t) => some (a, t)
  | .own _ => none
  | .task name =>
    match s.task? name with
    | some (.finished a t) => some (a, t)
    | _ => none

/-- The next instant at which somebody can go on. -/
def nextTime (s : Session) (aim : Aim) : Option Instant :=
  let own :=
    match aim with
    | .own st => s.world.wakeTime st
    | .task _ => none
  s.tasks.foldl (fun t (_, st) => Clock.earlier t (s.world.wakeTime st)) own

def advanceTo (s : Session) (t : Instant) : Session :=
  { s with world := { s.world with clock := s.world.clock.advanceTo t } }

/-- Runs until the foreground has what it waits for, or its patience ends at `limit`. -/
def await (s : Session) (aim : Aim) (limit : Instant) : Nat → Session × Option (Answer × Instant)
  | 0 => (s, none)
  | fuel + 1 =>
    match s.reached? aim with
    | some found => (s, some found)
    | none =>
      let own :=
        match aim with
        | .own st => if s.world.isReady st then some st else none
        | .task _ => none
      match own with
      | some st =>
        let (world, st) := s.world.step Session.fuel st
        await { s with world }.lineUp (.own st) limit fuel
      | none =>
        match s.lineUp.turn with
        | some s => await s aim limit fuel
        | none =>
          match (s.nextTime aim).filter (· ≤ limit) with
          | some t => await (s.advanceTo t) aim limit fuel
          | none =>
            let s := s.advanceTo limit
            match aim with
            | .own st => ({ s with world := s.world.abandon st }, none)
            | .task _ => (s, none)

/-- Does a job in the foreground; gives nothing if it never ends. -/
def perform (s : Session) (ctx : Context) (job : Job) : Session × Option (Answer × Instant) :=
  let (world, st) := s.world.step fuel (Status.starting ctx job)
  { s with world }.lineUp.await (.own st) (s.world.clock.now + patience) fuel

/-- Starts a job in the background, and lets it run as far as it can. -/
def spawn (s : Session) (name : String) (ctx : Context) (job : Job) : Session :=
  let s := s.lineUp
  let others := s.tasks.filter fun (other, _) => other ≠ name
  { s with tasks := others ++ [(name, Status.starting ctx job)] }.settle fuel

def join (s : Session) (name : String) : Session × Option (Answer × Instant) :=
  s.await (.task name) (s.world.clock.now + patience) fuel

/-- Whether a task has ended, after letting everything run that can. -/
def hasFinished (s : Session) (name : String) : Session × Bool :=
  let s := s.settle fuel
  (s, (s.reached? (.task name)).isSome)

def abort (s : Session) (name : String) : Session :=
  let s :=
    match s.task? name with
    | some st => { s with world := s.world.abandon st }
    | none => s
  { s with tasks := s.tasks.filter fun (other, _) => other ≠ name
           ready := s.ready.filter (· ≠ name) }.settle fuel

def advance (s : Session) (d : Duration) : Session :=
  (s.perform (.background 0) (.sleep d)).1

end Session
end Courier.Simulation
