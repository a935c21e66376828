import FlightBooking.Library.Machine
import Mathlib.Data.List.Nodup
import Mathlib.Data.List.Perm.Basic

/-!
The in-process job scheduler, one task of the event loop at a time.

A handle has one slot for its timer and one for the run in progress. The slots are what
the code looks at; the timers that are set and the runs that have not ended are kept
beside them, since a slot that is overwritten forgets a timer or a run that goes on.
-/

namespace FlightBooking

/-- A job's body is code outside the scheduler. -/
structure Job where
  name : String
  intervalMs : Nat
  deriving DecidableEq, Repr

abbrev TimerId := Nat
abbrev RunId := Nat

structure Handle where
  job : Job
  timer : Option TimerId := none
  running : Option RunId := none
  stopped : Bool := false
  deriving DecidableEq, Repr

/-- A handler's promise settles first; what `runOnce` and `finally` attached to it runs
later. -/
inductive RunPhase where
  | handling
  | settled
  deriving DecidableEq, Repr

/-- A run of the handle with this index. -/
structure JobRun where
  id : RunId
  handle : Nat
  phase : RunPhase
  deriving DecidableEq, Repr

/-- A call of `stop`: the runs it waits for, and whether there was a `start` since. -/
structure StopCall where
  awaited : List RunId
  resolved : Bool := false
  restarted : Bool := false
  deriving DecidableEq, Repr

structure Scheduler where
  handles : List Handle := []
  started : Bool := false
  /-- Set and neither fired nor cleared, each with its handle's index. -/
  timers : List (TimerId × Nat) := []
  runs : List JobRun := []
  /-- A timer's callback whose handler has not yet returned its promise. -/
  entered : Option (RunId × Nat) := none
  stops : List StopCall := []
  fresh : Nat := 0
  deriving DecidableEq, Repr

namespace Scheduler

def modifyHandle (i : Nat) (f : Handle → Handle) (s : Scheduler) : Scheduler :=
  { s with handles := s.handles.modify i f }

def isStopped (i : Nat) (s : Scheduler) : Bool :=
  (s.handles[i]?).any fun h => h.stopped

def scheduleNext (i : Nat) (s : Scheduler) : Scheduler :=
  if s.isStopped i then s
  else
    { s.modifyHandle i (fun h => { h with timer := some s.fresh }) with
      timers := (s.fresh, i) :: s.timers
      fresh := s.fresh + 1 }

def register (job : Job) (s : Scheduler) : Scheduler :=
  { s with handles := s.handles ++ [{ job }] }

def startHandle (i : Nat) (s : Scheduler) : Scheduler :=
  scheduleNext i (s.modifyHandle i fun h => { h with stopped := false })

def start (s : Scheduler) : Scheduler :=
  if s.started then s
  else
    (List.range s.handles.length).foldl (fun s i => startHandle i s)
      { s with
        started := true
        stops := s.stops.map fun c => { c with restarted := true } }

def stop (s : Scheduler) : Scheduler :=
  { s with
    started := false
    handles := s.handles.map fun h => { h with stopped := true, timer := none }
    timers := s.timers.filter fun x => s.handles.all fun h => h.timer ≠ some x.1
    stops := s.stops ++ [{ awaited := s.handles.filterMap (·.running) }] }

/-- A timer's callback, up to where the handler's call returns. -/
def fire (x : TimerId × Nat) (s : Scheduler) : Scheduler :=
  let s' := { s.modifyHandle x.2 (fun h => { h with timer := none }) with
    timers := s.timers.erase x }
  if s.isStopped x.2 then s'
  else
    { s' with
      runs := ⟨s.fresh, x.2, .handling⟩ :: s.runs
      entered := some (s.fresh, x.2)
      fresh := s.fresh + 1 }

/-- The rest of the callback: the slot for the run in progress is set. -/
def returned (x : RunId × Nat) (s : Scheduler) : Scheduler :=
  { s.modifyHandle x.2 (fun h => { h with running := some x.1 }) with entered := none }

/-- The handler completes or fails; `runOnce` logs either. -/
def settle (r : JobRun) (s : Scheduler) : Scheduler :=
  { s with runs := { r with phase := .settled } :: s.runs.erase r }

def endRun (r : JobRun) (s : Scheduler) : Scheduler :=
  { s.modifyHandle r.handle (fun h => { h with running := none }) with runs := s.runs.erase r }

/-- The `finally` callback. -/
def finish (r : JobRun) (s : Scheduler) : Scheduler :=
  (s.endRun r).scheduleNext r.handle

def resolve (k : Nat) (s : Scheduler) : Scheduler :=
  { s with stops := s.stops.modify k fun c => { c with resolved := true } }

/-- All the runs the call waits for have ended. -/
def canResolve (k : Nat) (s : Scheduler) : Bool :=
  (s.stops[k]?).any fun c => s.runs.all fun r => r.id ∉ c.awaited

end Scheduler

/-- Calls, timers, and what handlers and promises do. A handler's own calls of the
scheduler before its first await come between `fire` and `returned`. -/
inductive SchedulerEvent where
  | register (job : Job)
  | start
  | stop
  | fire (timer : TimerId) (handle : Nat)
  | returned
  | settle (run : JobRun)
  | finish (run : JobRun)
  | resolve (call : Nat)
  deriving DecidableEq, Repr

namespace Scheduler

/-- A task starts only when no callback is still on the stack. -/
def step (s : Scheduler) : SchedulerEvent → Option Scheduler
  | .register job => some (s.register job)
  | .start => some s.start
  | .stop => some s.stop
  | .fire t i => if s.entered = none ∧ (t, i) ∈ s.timers then some (s.fire (t, i)) else none
  | .returned => s.entered.map fun x => s.returned x
  | .settle r => if r ∈ s.runs ∧ r.phase = .handling then some (s.settle r) else none
  | .finish r =>
      if s.entered = none ∧ r ∈ s.runs ∧ r.phase = .settled then some (s.finish r) else none
  | .resolve k => if s.entered = none ∧ s.canResolve k then some (s.resolve k) else none

end Scheduler

end FlightBooking
