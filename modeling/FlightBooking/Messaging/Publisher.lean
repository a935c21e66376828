import FlightBooking.Library.Machine

/-!
The RabbitMQ publisher, one continuation of the event loop at a time.

An async function is cut at its awaits: what runs between two of them is one event, and
what an await waits for settles in an event of its own, so that a connection or a
channel may close between any two. A listener sees what its closure's variables hold
when it is called: `session` of the `open` that attached it, and `current`.
-/

namespace FlightBooking

abbrev ConnectionId := Nat
abbrev ChannelId := Nat

/-- Each `open` makes its own, so the ids tell sessions apart as identity does. -/
structure PublisherSession where
  connection : ConnectionId
  channel : ChannelId
  deriving DecidableEq, Repr

/-- Where a call of `open` stands, up to the end of what is chained to it. -/
inductive OpenPhase where
  /-- `connect` is awaited. -/
  | connecting
  | connected (connection : ConnectionId)
  /-- `createChannel` is awaited. -/
  | channelling (connection : ConnectionId)
  | channelled (connection : ConnectionId) (channel : ChannelId)
  | rejected (connection : ConnectionId)
  /-- `connection.close` is awaited, and the error thrown again after it. -/
  | discarding (connection : ConnectionId)
  /-- `open` has returned. -/
  | opened (session : PublisherSession)
  /-- `open` has failed, or `then` has run: `finally` is next. -/
  | landed (session : Option PublisherSession)
  deriving DecidableEq, Repr

/-- A call of `open`: by `createRabbitMqPublisher` itself, or by `getSession`. -/
structure OpenAttempt where
  id : Nat
  startup : Bool
  phase : OpenPhase
  deriving DecidableEq, Repr

inductive PublishPhase where
  /-- `opening` is awaited. -/
  | joined (attempt : Nat)
  | got (session : PublisherSession)
  | assertingExchange (session : PublisherSession)
  | assertingQueue (session : PublisherSession)
  | resolved
  | rejected
  deriving DecidableEq, Repr

/-- A call of `publish`. -/
structure PublishCall (μ : Type) where
  destination : String
  message : μ
  phase : PublishPhase
  deriving DecidableEq, Repr

/-- Where a call of `close` stands. -/
inductive ClosePhase where
  /-- `opening` is awaited. -/
  | waiting (attempt : Nat)
  | proceeding
  | closingChannel (session : PublisherSession)
  | closingConnection (session : PublisherSession)
  | resolved
  | rejected
  deriving DecidableEq, Repr

/-- A message written to a channel. -/
structure Frame (μ : Type) where
  session : PublisherSession
  destination : String
  message : μ
  deriving DecidableEq, Repr

structure RabbitMqPublisher (μ : Type) where
  current : Option PublisherSession := none
  /-- The call of `open` whose promise the variable holds. -/
  opening : Option Nat := none
  isClosing : Bool := false
  /-- `createRabbitMqPublisher` has resolved. -/
  started : Bool := false
  attempts : List OpenAttempt := []
  /-- The connections listened to, each with the variable `session` of its `open`. -/
  connectionListeners : List (ConnectionId × Option PublisherSession) := []
  channelListeners : List PublisherSession := []
  publishes : List (PublishCall μ) := []
  closes : List ClosePhase := []
  /-- How many were made: the ids so far are below. -/
  opens : Nat := 0
  connections : Nat := 0
  channels : Nat := 0
  closedConnections : List ConnectionId := []
  closedChannels : List ChannelId := []
  /-- Written to a channel, and not yet received by the broker. -/
  buffered : List (Frame μ) := []
  received : List (Frame μ) := []
  deriving DecidableEq, Repr

/-- What awaits `opening` hears of its outcome. -/
def PublishPhase.settled (id : Nat) (session : Option PublisherSession) : PublishPhase → PublishPhase
  | .joined id' =>
      if id' = id then
        match session with
        | some session => .got session
        | none => .rejected
      else .joined id'
  | phase => phase

def ClosePhase.settled (id : Nat) : ClosePhase → ClosePhase
  | .waiting id' => if id' = id then .proceeding else .waiting id'
  | phase => phase

namespace RabbitMqPublisher

variable {μ : Type}

/-- Neither the connection nor the channel has closed. -/
def Alive (p : RabbitMqPublisher μ) (session : PublisherSession) : Prop :=
  session.connection ∉ p.closedConnections ∧ session.channel ∉ p.closedChannels

instance (p : RabbitMqPublisher μ) (session : PublisherSession) : Decidable (p.Alive session) :=
  inferInstanceAs (Decidable (_ ∧ _))

/-! ### `invalidate` and `open` -/

def invalidate (session : PublisherSession) (p : RabbitMqPublisher μ) : RabbitMqPublisher μ :=
  if p.current ≠ some session then p else { p with current := none }

/-- `open`, up to its first await. -/
def callOpen (startup : Bool) (p : RabbitMqPublisher μ) : RabbitMqPublisher μ :=
  { p with
    attempts := p.attempts ++ [⟨p.opens, startup, .connecting⟩]
    opens := p.opens + 1 }

def setPhase (id : Nat) (phase : OpenPhase) (p : RabbitMqPublisher μ) : RabbitMqPublisher μ :=
  { p with attempts := p.attempts.map fun a => if a.id = id then { a with phase } else a }

def endAttempt (id : Nat) (p : RabbitMqPublisher μ) : RabbitMqPublisher μ :=
  { p with attempts := p.attempts.filter fun a => a.id ≠ id }

def connectSettles (id : Nat) (ok : Bool) (p : RabbitMqPublisher μ) : RabbitMqPublisher μ :=
  if ok then
    { p.setPhase id (.connected p.connections) with connections := p.connections + 1 }
  else p.setPhase id (.landed none)

def createChannelSettles (id : Nat) (connection : ConnectionId) (ok : Bool)
    (p : RabbitMqPublisher μ) : RabbitMqPublisher μ :=
  if ok then
    { p.setPhase id (.channelled connection p.channels) with channels := p.channels + 1 }
  else p.setPhase id (.rejected connection)

/-- After `connect`: the listeners are attached, `createChannel` is called. -/
def listen (id : Nat) (connection : ConnectionId) (p : RabbitMqPublisher μ) : RabbitMqPublisher μ :=
  { p.setPhase id (.channelling connection) with
    connectionListeners := (connection, none) :: p.connectionListeners }

/-- After `createChannel`: the variable is set, the channel's listeners are attached. -/
def returnSession (id : Nat) (session : PublisherSession) (p : RabbitMqPublisher μ) :
    RabbitMqPublisher μ :=
  { p.setPhase id (.opened session) with
    connectionListeners := p.connectionListeners.map fun l =>
      if l.1 = session.connection then (l.1, some session) else l
    channelListeners := session :: p.channelListeners }

/-- The `then` of `getSession`. -/
def assign (id : Nat) (session : PublisherSession) (p : RabbitMqPublisher μ) : RabbitMqPublisher μ :=
  { p.setPhase id (.landed (some session)) with current := some session }

/-- The `finally` of `getSession`. -/
def clearOpening (id : Nat) (session : Option PublisherSession) (p : RabbitMqPublisher μ) :
    RabbitMqPublisher μ :=
  { p.endAttempt id with
    opening := none
    publishes := p.publishes.map fun c => { c with phase := c.phase.settled id session }
    closes := p.closes.map (ClosePhase.settled id) }

/-- `createRabbitMqPublisher` after its `open`. -/
def start (id : Nat) (session : PublisherSession) (p : RabbitMqPublisher μ) : RabbitMqPublisher μ :=
  { p.endAttempt id with
    current := some session
    started := true }

/-- The continuation that is due in the call runs. -/
def proceed (a : OpenAttempt) (p : RabbitMqPublisher μ) : Option (RabbitMqPublisher μ) :=
  match a.phase with
  | .connected connection => some (p.listen a.id connection)
  | .channelled connection channel => some (p.returnSession a.id ⟨connection, channel⟩)
  | .rejected connection => some (p.setPhase a.id (.discarding connection))
  | .opened session =>
      if a.startup then some (p.start a.id session) else some (p.assign a.id session)
  | .landed session =>
      if a.startup then some (p.endAttempt a.id) else some (p.clearOpening a.id session)
  | .connecting | .channelling _ | .discarding _ => none

/-! ### The listeners -/

def connectionClosed (connection : ConnectionId) (p : RabbitMqPublisher μ) : RabbitMqPublisher μ :=
  ((p.connectionListeners.filter fun l => l.1 = connection).filterMap (·.2)).foldl
    (fun p session => p.invalidate session)
    { p with
      closedConnections := connection :: p.closedConnections
      buffered := p.buffered.filter fun f => f.session.connection ≠ connection }

def channelClosed (channel : ChannelId) (p : RabbitMqPublisher μ) : RabbitMqPublisher μ :=
  (p.channelListeners.filter fun s => s.channel = channel).foldl
    (fun p session => p.invalidate session)
    { p with
      closedChannels := channel :: p.closedChannels
      buffered := p.buffered.filter fun f => f.session.channel ≠ channel }

/-! ### `publish` and `close` -/

/-- `getSession`, up to what `publish` awaits of it. -/
def getSession (p : RabbitMqPublisher μ) : PublishPhase × RabbitMqPublisher μ :=
  match p.current with
  | some session => (.got session, p)
  | none =>
      if p.isClosing then (.rejected, p)
      else
        match p.opening with
        | some id => (.joined id, p)
        | none => (.joined p.opens, { p.callOpen false with opening := some p.opens })

def publish (destination : String) (message : μ) (p : RabbitMqPublisher μ) : RabbitMqPublisher μ :=
  let (phase, p') := p.getSession
  { p' with publishes := p'.publishes ++ [⟨destination, message, phase⟩] }

def setPublish (k : Nat) (phase : PublishPhase) (p : RabbitMqPublisher μ) : RabbitMqPublisher μ :=
  { p with publishes := p.publishes.modify k fun c => { c with phase } }

/-- A channel that has closed throws; another buffers. -/
def sendToQueue (k : Nat) (session : PublisherSession) (call : PublishCall μ)
    (p : RabbitMqPublisher μ) : RabbitMqPublisher μ :=
  if p.Alive session then
    { p.setPublish k .resolved with
      buffered := p.buffered ++ [⟨session, call.destination, call.message⟩] }
  else p.setPublish k .rejected

/-- What a `publish` waits for settles, and it goes on. -/
def publishGoesOn (k : Nat) (call : PublishCall μ) (ok : Bool) (p : RabbitMqPublisher μ) :
    Option (RabbitMqPublisher μ) :=
  match call.phase with
  | .got session => if ok then some (p.setPublish k (.assertingExchange session)) else none
  | .assertingExchange session =>
      some (p.setPublish k (if ok then .assertingQueue session else .rejected))
  | .assertingQueue session =>
      if ok then some (p.sendToQueue k session call) else some (p.setPublish k .rejected)
  | .joined _ | .resolved | .rejected => none

def close (p : RabbitMqPublisher μ) : RabbitMqPublisher μ :=
  { p with
    isClosing := true
    closes := p.closes ++ [match p.opening with
      | some id => .waiting id
      | none => .proceeding] }

def setClose (k : Nat) (phase : ClosePhase) (p : RabbitMqPublisher μ) : RabbitMqPublisher μ :=
  { p with closes := p.closes.set k phase }

/-- What a `close` waits for settles, and it goes on. -/
def closeGoesOn (k : Nat) (phase : ClosePhase) (ok : Bool) (p : RabbitMqPublisher μ) :
    Option (RabbitMqPublisher μ) :=
  match phase with
  | .proceeding =>
      if ok then
        let next := match p.current with
          | some session => .closingChannel session
          | none => .resolved
        some { p.setClose k next with current := none }
      else none
  | .closingChannel session =>
      some (p.setClose k (if ok then .closingConnection session else .rejected))
  | .closingConnection _ => some (p.setClose k (if ok then .resolved else .rejected))
  | .waiting _ | .resolved | .rejected => none

/-- The broker receives the first message that the channel buffers. -/
def receive (frame : Frame μ) [DecidableEq μ] (p : RabbitMqPublisher μ) : RabbitMqPublisher μ :=
  { p with
    buffered := p.buffered.erase frame
    received := p.received ++ [frame] }

end RabbitMqPublisher

/-- Calls, and what the broker, the connections and the promises do. An `error` event
is only logged. -/
inductive PublisherEvent (μ : Type) where
  | connectSettles (attempt : Nat) (ok : Bool)
  | createChannelSettles (attempt : Nat) (ok : Bool)
  | discardSettles (attempt : Nat)
  | proceed (attempt : Nat)
  | connectionClose (connection : ConnectionId)
  | connectionError (connection : ConnectionId)
  | channelClose (channel : ChannelId)
  | channelError (channel : ChannelId)
  | publish (destination : String) (message : μ)
  | publishGoesOn (call : Nat) (ok : Bool)
  | close
  | closeGoesOn (call : Nat) (ok : Bool)
  | receive (session : PublisherSession)
  deriving DecidableEq, Repr

namespace RabbitMqPublisher

variable {μ : Type}

def attempt? (id : Nat) (p : RabbitMqPublisher μ) : Option OpenAttempt :=
  p.attempts.find? fun a => a.id = id

def step [DecidableEq μ] (p : RabbitMqPublisher μ) : PublisherEvent μ → Option (RabbitMqPublisher μ)
  | .connectSettles id ok => (p.attempt? id).bind fun a =>
      if a.phase = .connecting then some (p.connectSettles id ok) else none
  | .createChannelSettles id ok => (p.attempt? id).bind fun a =>
      match a.phase with
      | .channelling connection => some (p.createChannelSettles id connection ok)
      | _ => none
  | .discardSettles id => (p.attempt? id).bind fun a =>
      match a.phase with
      | .discarding _ => some (p.setPhase id (.landed none))
      | _ => none
  | .proceed id => (p.attempt? id).bind p.proceed
  | .connectionClose c => if c < p.connections then some (p.connectionClosed c) else none
  | .connectionError c => if c < p.connections then some p else none
  | .channelClose c => if c < p.channels then some (p.channelClosed c) else none
  | .channelError c => if c < p.channels then some p else none
  | .publish destination message =>
      if p.started then some (p.publish destination message) else none
  | .publishGoesOn k ok => (p.publishes[k]?).bind fun call => p.publishGoesOn k call ok
  | .close => if p.started then some p.close else none
  | .closeGoesOn k ok => (p.closes[k]?).bind fun phase => p.closeGoesOn k phase ok
  | .receive session => (p.buffered.find? fun f => f.session = session).map p.receive

/-- `createRabbitMqPublisher` has been called. -/
def created : RabbitMqPublisher μ := callOpen true {}

end RabbitMqPublisher

end FlightBooking
