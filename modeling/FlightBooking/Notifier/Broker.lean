import FlightBooking.Library.Machine
import FlightBooking.Library.WorkQueue
import FlightBooking.Notifier.Consumers
import Mathlib.Logic.Function.Basic

/-!
The broker's queues and the notifier processes that consume them.

A process connects, subscribes to one queue after the other, and from then on runs a callback
for each message; its ack or nack is on its way until the broker has it. A connection may drop
at any moment: the broker then queues what was held again. The queues are durable and nobody
deletes one.
-/

namespace FlightBooking.Notifier

abbrev Message := Nat × List UInt8

/-- A queue with its exchange `${source}.dlx` and the queue `${source}.dlq` behind it. -/
structure BrokerQueue where
  declared : Bool := false
  dlx : Bool := false
  dlq : Bool := false
  bound : Bool := false
  /-- What was sent to the queue, in order. -/
  taken : List (List UInt8) := []
  messages : WorkQueue Nat (List UInt8) := {}
  acked : List Message := []
  deadLettered : List Message := []
  /-- Refused while nothing was bound to the exchange. -/
  dropped : List Message := []
  /-- Sent to the queue while there was none. -/
  unroutable : List (List UInt8) := []
  deriving DecidableEq, Repr

namespace BrokerQueue

def assertExchange (b : BrokerQueue) : BrokerQueue := { b with dlx := true }

def assertQueue (b : BrokerQueue) : BrokerQueue := { b with declared := true }

/-- A message for the default exchange, which routes it by the queue's name. -/
def publish (content : List UInt8) (b : BrokerQueue) : BrokerQueue :=
  if b.declared then { b with taken := b.taken ++ [content], messages := b.messages.push content }
  else { b with unroutable := b.unroutable ++ [content] }

/-- The broker has the consumer's answer. -/
def answered (i : Nat) (m : Message) (verdict : Verdict) (b : BrokerQueue) : BrokerQueue :=
  let messages := b.messages.settle i
  match verdict with
  | .ack => { b with messages, acked := b.acked ++ [m] }
  | .nack =>
      if b.bound then { b with messages, deadLettered := b.deadLettered ++ [m] }
      else { b with messages, dropped := b.dropped ++ [m] }

def release (i : Nat) (b : BrokerQueue) : BrokerQueue :=
  { b with messages := b.messages.release i }

end BrokerQueue

/-! ### A process -/

/-- The call of `subscribe` that is awaited. -/
inductive SubscribeCall where
  | assertExchange
  | assertDeadLetterQueue
  | bindQueue
  | assertQueue
  | consume
  deriving DecidableEq, Repr

inductive Phase where
  /-- `createRabbitMqConsumer` is awaited. -/
  | connecting (attempt : Nat)
  | sleeping (attempt : Nat)
  | subscribing (q : Source) (rest : List Source) (call : SubscribeCall)
  | ready
  | exited
  deriving DecidableEq, Repr

structure Process where
  phase : Phase := .connecting 1
  connected : Bool := false
  consumers : List Source := []
  /-- The callback has run; its ack or nack is on its way. -/
  answers : List (Source × Verdict) := []
  deriving DecidableEq, Repr

def MAX_ATTEMPTS : Nat := 10

namespace Process

/-- The connection is gone, and with it the channel. -/
def disconnected (p : Process) : Process :=
  { p with connected := false, consumers := [], answers := [] }

/-- `main` has ended in an error, or the process was stopped. -/
def exit (p : Process) : Process := { p.disconnected with phase := .exited }

/-- `connectConsumerWithRetry`. -/
def connects (ok : Bool) (p : Process) : Option Process :=
  match p.phase with
  | .connecting attempt =>
      if ok then some { p with
        phase := .subscribing .flightCreated (Source.all.drop 1) .assertExchange
        connected := true }
      else if attempt < MAX_ATTEMPTS then some { p with phase := .sleeping attempt }
      else some p.exit
  | _ => none

def wakes (p : Process) : Option Process :=
  match p.phase with
  | .sleeping attempt => some { p with phase := .connecting (attempt + 1) }
  | _ => none

/-- The phase after `consume`. -/
def next : List Source → Phase
  | [] => .ready
  | q :: rest => .subscribing q rest .assertExchange

/-- An awaited call of `subscribe` has succeeded. -/
def subscribes (p : Process) (q : Source) (rest : List Source) (b : BrokerQueue) :
    SubscribeCall → Option (Process × BrokerQueue)
  | .assertExchange =>
      some ({ p with phase := .subscribing q rest .assertDeadLetterQueue }, b.assertExchange)
  | .assertDeadLetterQueue =>
      some ({ p with phase := .subscribing q rest .bindQueue }, { b with dlq := true })
  | .bindQueue =>
      if b.dlx && b.dlq then
        some ({ p with phase := .subscribing q rest .assertQueue }, { b with bound := true })
      else none
  | .assertQueue =>
      some ({ p with phase := .subscribing q rest .consume }, b.assertQueue)
  | .consume =>
      if b.declared then some ({ p with phase := next rest, consumers := p.consumers ++ [q] }, b)
      else none

end Process

structure State where
  queues : Source → BrokerQueue := fun _ => {}
  processes : List Process := []
  log : List LogLine := []

inductive Event where
  /-- Of the api's publisher, as are the next two. -/
  | assertExchange (q : Source)
  | assertQueue (q : Source)
  | publish (q : Source) (content : List UInt8)
  | connects (i : Nat) (ok : Bool)
  | wakes (i : Nat)
  | subscribes (i : Nat) (ok : Bool)
  | deliver (i : Nat) (q : Source)
  | message (i : Nat) (q : Source)
  | answered (i : Nat) (q : Source)
  | disconnect (i : Nat)
  | stop (i : Nat)
  | start (i : Nat)
  deriving DecidableEq, Repr

namespace State

def setQueue (q : Source) (b : BrokerQueue) (s : State) : State :=
  { s with queues := Function.update s.queues q b }

def setProcess (i : Nat) (p : Process) (s : State) : State :=
  { s with processes := s.processes.set i p }

/-- The broker finds the process's channel closed. -/
def leave (i : Nat) (p : Process) (s : State) : State :=
  { s with queues := fun q => (s.queues q).release i, processes := s.processes.set i p }

def step (s : State) : Event → Option State
  | .assertExchange q => some (s.setQueue q (s.queues q).assertExchange)
  | .assertQueue q => some (s.setQueue q (s.queues q).assertQueue)
  | .publish q content => some (s.setQueue q ((s.queues q).publish content))
  | .connects i ok => (s.processes[i]?).bind fun p => (p.connects ok).map fun p' => s.setProcess i p'
  | .wakes i => (s.processes[i]?).bind fun p => p.wakes.map fun p' => s.setProcess i p'
  | .subscribes i ok => (s.processes[i]?).bind fun p =>
      match p.phase with
      | .subscribing q rest call =>
          if ok then
            (p.subscribes q rest (s.queues q) call).map fun after =>
              (s.setQueue q after.2).setProcess i after.1
          else some (s.leave i p.exit)
      | _ => none
  | .deliver i q => (s.processes[i]?).bind fun p =>
      if q ∈ p.consumers then
        ((s.queues q).messages.take i).map fun messages =>
          s.setQueue q { s.queues q with messages }
      else none
  | .message i q => (s.processes[i]?).bind fun p =>
      ((s.queues q).messages.holding? i).bind fun m =>
        if q ∈ p.answers.map (·.1) then none
        else
          let (verdict, line) := onMessage q m.2
          some { s.setProcess i { p with answers := p.answers ++ [(q, verdict)] } with
            log := s.log ++ [line] }
  | .answered i q => (s.processes[i]?).bind fun p =>
      ((s.queues q).messages.holding? i).bind fun m =>
        (p.answers.find? fun a => a.1 = q).map fun answer =>
          (s.setQueue q ((s.queues q).answered i m answer.2)).setProcess i
            { p with answers := p.answers.filter fun a => a.1 ≠ q }
  | .disconnect i => (s.processes[i]?).bind fun p =>
      if p.connected then
        some (s.leave i (if p.phase = .ready then p.disconnected else p.exit))
      else none
  | .stop i => (s.processes[i]?).map fun p => s.leave i p.exit
  | .start i => (s.processes[i]?).bind fun p =>
      if p.phase = .exited then some (s.setProcess i {}) else none

/-- `n` processes, and nothing declared yet. -/
def initial (n : Nat) : State := { processes := List.replicate n {} }

end State

end FlightBooking.Notifier
