import FlightBooking.Bookings.Statements
import FlightBooking.Messaging.Publisher
import FlightBooking.Outbox.Repository

/-!
From the outbox to the broker.

Any number of processes relay one outbox, each through its publisher. A row is marked
published once `publish` has resolved, and `publish` resolves once the message is
buffered: a connection, a channel or a process that goes down with messages in its
buffer loses them.
-/

namespace FlightBooking

open Relational ReadCommitted

/-- A statement on its own, in the transaction that Postgres opens for it. -/
def Db.autocommit {α : Type} (db : Db) (statement : Statement postgres α) : Except Failure (α × Db) :=
  (execute (S := postgres) [] db (query statement) {}).map fun done => (done.1, done.2.apply db)

inductive TickPhase where
  /-- `findUnpublished` is awaited. -/
  | finding
  /-- The `publish` of the first entry left is awaited. -/
  | publishing (call : Nat)
  /-- The `markPublished` of the first entry left is awaited. -/
  | marking
  | ended
  deriving DecidableEq, Repr

/-- A run of the relay job's handler, with the entries it has still to go through. -/
structure RelayTick where
  phase : TickPhase := .finding
  pending : List OutboxEntry := []
  deriving DecidableEq, Repr

structure RelayProcess where
  publisher : RabbitMqPublisher EventPayload
  ticks : List RelayTick := []
  deriving DecidableEq, Repr

namespace RelayProcess

/-- The head of the loop: the next entry is handed to the publisher. -/
def goOn (k : Nat) (pending : List OutboxEntry) (p : RelayProcess) : RelayProcess :=
  match pending with
  | [] => { p with ticks := p.ticks.set k ⟨.ended, []⟩ }
  | entry :: _ =>
      { publisher := p.publisher.publish entry.eventType.queue entry.payload
        ticks := p.ticks.set k ⟨.publishing p.publisher.publishes.length, pending⟩ }

def endTick (k : Nat) (p : RelayProcess) : RelayProcess :=
  { p with ticks := p.ticks.set k ⟨.ended, []⟩ }

end RelayProcess

structure Delivery where
  db : Db := {}
  processes : List RelayProcess := []
  /-- Sent to the database by a process that is gone. -/
  orphans : List OutboxEntry := []

/-- How an UPDATE ends for the one who sent it. -/
inductive Executed where
  | done
  | unacknowledged
  | failed
  deriving DecidableEq, Repr

inductive DeliveryEvent where
  /-- A use case's transaction writes a row. -/
  | enqueue (entry : OutboxEntry)
  | tick (process : Nat)
  | found (process tick : Nat) (batchSize : Nat) (storage : Uuid → Nat)
  | findFails (process tick : Nat)
  | settled (process tick : Nat)
  | marked (process tick : Nat) (now : Instant) (ends : Executed)
  | orphan (entry : OutboxEntry) (now : Instant)
  /-- Anything else that happens to the publisher. -/
  | publisher (process : Nat) (event : PublisherEvent EventPayload)
  /-- The process goes down and is started again. -/
  | crash (process : Nat)

namespace Delivery

/-- What the broker has received it keeps. -/
def restart (p : RelayProcess) : RelayProcess where
  publisher := { RabbitMqPublisher.created with received := p.publisher.received }

/-- The UPDATEs under way. -/
def marking (p : RelayProcess) : List OutboxEntry :=
  (p.ticks.filter fun t => t.phase = .marking).filterMap fun t => t.pending.head?

def setProcess (i : Nat) (p : RelayProcess) (s : Delivery) : Delivery :=
  { s with processes := s.processes.set i p }

def markPublished (entry : OutboxEntry) (now : Instant) (s : Delivery) : Delivery :=
  match s.db.autocommit (FlightBooking.markPublished entry.id now) with
  | .ok (_, db) => { s with db }
  | .error _ => s

/-- The call of `publish` that the tick awaits has settled. -/
def publishSettles (k : Nat) (t : RelayTick) (p : RelayProcess) : Option RelayProcess :=
  match t.phase with
  | .publishing call =>
      match (p.publisher.publishes[call]?).map (·.phase) with
      | some PublishPhase.resolved => some { p with ticks := p.ticks.set k { t with phase := .marking } }
      | some PublishPhase.rejected => some (p.endTick k)
      | _ => none
  | _ => none

/-- The UPDATE has ended; an error ends the tick. -/
def markSettles (i k : Nat) (t : RelayTick) (now : Instant) (ends : Executed) (p : RelayProcess)
    (s : Delivery) : Option Delivery :=
  match t.phase, t.pending with
  | .marking, entry :: rest =>
      match ends with
      | .done => some ((s.markPublished entry now).setProcess i (p.goOn k rest))
      | .unacknowledged => some ((s.markPublished entry now).setProcess i (p.endTick k))
      | .failed => some (s.setProcess i (p.endTick k))
  | _, _ => none

def step (s : Delivery) : DeliveryEvent → Option Delivery
  | .enqueue entry =>
      match s.db.autocommit (FlightBooking.enqueue entry) with
      | .ok (_, db) => some { s with db }
      | .error _ => none
  | .tick i => (s.processes[i]?).bind fun p =>
      if p.publisher.started then some (s.setProcess i { p with ticks := p.ticks ++ [{}] }) else none
  | .found i k batchSize storage => (s.processes[i]?).bind fun p => (p.ticks[k]?).bind fun t =>
      if t.phase = .finding then
        match s.db.autocommit (findUnpublished batchSize storage) with
        | .ok (pending, _) => some (s.setProcess i (p.goOn k pending))
        | .error _ => none
      else none
  | .findFails i k => (s.processes[i]?).bind fun p => (p.ticks[k]?).bind fun t =>
      if t.phase = .finding then some (s.setProcess i (p.endTick k)) else none
  | .settled i k => (s.processes[i]?).bind fun p => (p.ticks[k]?).bind fun t =>
      (publishSettles k t p).map fun p' => s.setProcess i p'
  | .marked i k now ends => (s.processes[i]?).bind fun p => (p.ticks[k]?).bind fun t =>
      s.markSettles i k t now ends p
  | .orphan entry now =>
      if entry ∈ s.orphans then
        some { s.markPublished entry now with orphans := s.orphans.erase entry }
      else none
  | .publisher _ (.publish ..) => none
  | .publisher i e => (s.processes[i]?).bind fun p => (p.publisher.step e).map fun publisher =>
      s.setProcess i { p with publisher }
  | .crash i => (s.processes[i]?).map fun p =>
      { s.setProcess i (restart p) with orphans := s.orphans ++ marking p }

/-- `n` processes, and nothing stored yet. -/
def start (n : Nat) : Delivery where
  processes := List.replicate n { publisher := RabbitMqPublisher.created }

/-! ### Where an event is -/

/-- The message is the entry's. -/
def Carries (f : Frame EventPayload) (entry : OutboxEntry) : Prop :=
  f.destination = entry.eventType.queue ∧ f.message = entry.payload

instance (f : Frame EventPayload) (entry : OutboxEntry) : Decidable (Carries f entry) :=
  inferInstanceAs (Decidable (_ ∧ _))

/-- The broker has received the entry's message. -/
def Received (s : Delivery) (entry : OutboxEntry) : Prop :=
  ∃ p ∈ s.processes, ∃ f ∈ p.publisher.received, Carries f entry

/-- A channel buffers the entry's message. -/
def Buffered (s : Delivery) (entry : OutboxEntry) : Prop :=
  ∃ p ∈ s.processes, ∃ f ∈ p.publisher.buffered, Carries f entry

instance (s : Delivery) (entry : OutboxEntry) : Decidable (s.Received entry) :=
  inferInstanceAs (Decidable (∃ p ∈ _, ∃ f ∈ _, _))

instance (s : Delivery) (entry : OutboxEntry) : Decidable (s.Buffered entry) :=
  inferInstanceAs (Decidable (∃ p ∈ _, ∃ f ∈ _, _))

/-! ### Which runs lose nothing -/

/-- Nothing goes down with messages in its buffer. -/
def lossless (s : Delivery) : DeliveryEvent → Bool
  | .publisher i (.connectionClose c) => (s.processes[i]?).all fun p =>
      p.publisher.buffered.all fun f => f.session.connection ≠ c
  | .publisher i (.channelClose c) => (s.processes[i]?).all fun p =>
      p.publisher.buffered.all fun f => f.session.channel ≠ c
  | .crash i => (s.processes[i]?).all fun p => p.publisher.buffered.isEmpty
  | _ => true

/-- No row is marked while its message is buffered. -/
def caughtUp (s : Delivery) : DeliveryEvent → Bool
  | .marked i k _ ends => ends = .failed ||
      ((s.processes[i]?).bind fun p => p.ticks[k]?).all fun t =>
        t.pending.head?.all fun entry => !decide (s.Buffered entry)
  | .orphan entry _ => !decide (s.Buffered entry)
  | _ => true

end Delivery

end FlightBooking
