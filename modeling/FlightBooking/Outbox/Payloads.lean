import FlightBooking.Contracts.Parsers
import FlightBooking.Domain.Lifecycle
import FlightBooking.Flights.SearchCursor

/-!
A payload on its way from the use case to the consumer: the contract's event it is, the
`jsonb` column that keeps it, the message made of it, and the parser at the other end.

How an id is written is an argument; what is relied on is that it is not empty.
-/

namespace FlightBooking

open Contracts

/-! ### The events a use case may enqueue -/

inductive ContractEvent where
  | flightCreated (e : FlightCreatedEvent)
  | bookingHeld (e : BookingHeldEvent)
  | bookingConfirmed (e : BookingConfirmedEvent)
  | bookingCancelled (e : BookingCancelledEvent)
  | bookingExpired (e : BookingExpiredEvent)
  deriving DecidableEq, Repr

namespace ContractEvent

def toJson : ContractEvent → Json.Value
  | .flightCreated e => e.toJson
  | .bookingHeld e => e.toJson
  | .bookingConfirmed e => e.toJson
  | .bookingCancelled e => e.toJson
  | .bookingExpired e => e.toJson

def queue : ContractEvent → EventType
  | .flightCreated _ => .flightCreated
  | .bookingHeld _ => .bookingHeld
  | .bookingConfirmed _ => .bookingConfirmed
  | .bookingCancelled _ => .bookingCancelled
  | .bookingExpired _ => .bookingExpired

/-- The parser of the queue's consumer. -/
def parse (queue : EventType) (payload : Json.Value) : Except String ContractEvent :=
  match queue with
  | .flightCreated => do return .flightCreated (← parseFlightCreatedEvent payload)
  | .bookingHeld => do return .bookingHeld (← parseBookingHeldEvent payload)
  | .bookingConfirmed => do return .bookingConfirmed (← parseBookingConfirmedEvent payload)
  | .bookingCancelled => do return .bookingCancelled (← parseBookingCancelledEvent payload)
  | .bookingExpired => do return .bookingExpired (← parseBookingExpiredEvent payload)

/-- What the parser accepts, and for a flight also that the column keeps the order of
its fares. -/
def Valid : ContractEvent → Prop
  | .flightCreated e => e.Valid ∧
      ∀ fares ∈ e.flight.fares, (faresJson fares).jsonb = faresJson fares
  | .bookingHeld e => e.Valid
  | .bookingConfirmed e => e.Valid
  | .bookingCancelled e => e.Valid
  | .bookingExpired e => e.Valid

end ContractEvent

/-! ### What the use cases write -/

section Payload

variable (text : Uuid → List Char)

def Money.contract (m : Money) : EventMoney := ⟨m.amount, "VND".toList⟩

def storedStatusText : StoredFlightStatus → String
  | .scheduled => "SCHEDULED"
  | .open => "OPEN"
  | .cancelled => "CANCELLED"

def FlightCreatedFlight.contract (f : FlightCreatedFlight) : CreatedFlight where
  id := text f.id
  flightNumber := f.flightNumber.toList
  origin := f.origin.toList
  destination := f.destination.toList
  departureAt := toISOString f.departureAt
  arrivalAt := toISOString f.arrivalAt
  priceInCents := f.priceInCents
  currency := "VND".toList
  fares := some (f.fares.map fun fare => (fare.1.name.toList, fare.2.contract))
  availableSeats := f.availableSeats
  originAirportId := some (text f.originAirportId)
  destinationAirportId := some (text f.destinationAirportId)
  aircraftId := some (text f.aircraftId)
  status := some (storedStatusText f.status).toList

def seatText (seat : SeatPosition) : Text := (formatSeatPosition seat).toList

def EventPassenger.held (p : EventPassenger) : BookingHeldPassenger :=
  ⟨p.name.toList, seatText p.seat, some p.fareClass.name.toList, some p.price.contract⟩

def EventPassenger.confirmed (p : EventPassenger) : BookingConfirmedPassenger :=
  ⟨p.name.toList, seatText p.seat, p.fareClass.name.toList, p.price.contract⟩

/-- The payload as its use case writes it. -/
def EventPayload.contract (p : EventPayload) : ContractEvent :=
  let header : EventHeader := ⟨text p.eventId, text p.correlationId, toISOString p.occurredAt⟩
  match p.body with
  | .flightCreated flight => .flightCreated { toEventHeader := header, flight := flight.contract text }
  | .bookingHeld id reference flightId createdAt holdExpiresAt passengers total => .bookingHeld
      { toEventHeader := header
        booking := ⟨text id, reference.toList, text flightId, toISOString createdAt,
          toISOString holdExpiresAt, passengers.map (·.held), some total.contract⟩ }
  | .bookingConfirmed id reference flightId passengers total paymentId amount => .bookingConfirmed
      { toEventHeader := header
        booking := ⟨text id, reference.toList, text flightId, passengers.map (·.confirmed),
          total.contract⟩
        payment := ⟨text paymentId, amount.contract⟩ }
  | .bookingCancelled id reference flightId seats refund => .bookingCancelled
      { toEventHeader := header
        booking := ⟨text id, reference.toList, text flightId, seats.map seatText⟩
        refund := refund.map fun r => ⟨text r.1, r.2.contract⟩ }
  | .bookingExpired id reference flightId holdExpiresAt seats => .bookingExpired
      { toEventHeader := header
        booking := ⟨text id, reference.toList, text flightId, toISOString holdExpiresAt,
          seats.map seatText⟩ }

end Payload

/-- What the consumer reads of a payload: the insert's parameter goes into the column,
the relay reads the column, the publisher writes the message. -/
def delivered (payload : Json.Value) : Option Json.Value := do
  let stored ← Json.parse payload.render
  let read ← Json.parse stored.jsonb.render
  Json.parse (Utf8.decode (Utf8.encode read.render))

/-! ### The way there -/

theorem delivered_exact {payload : Json.Value} (exact : payload.Exact) :
    delivered payload = some payload.jsonb := by
  simp only [delivered, Json.parse_render exact, Json.parse_render exact.jsonb, Utf8.decode_encode,
    Option.bind_eq_bind, Option.bind_some]

namespace ContractEvent

theorem exact (e : ContractEvent) : e.toJson.Exact := by
  cases e with
  | flightCreated e => exact e.exact
  | bookingHeld e => exact e.exact
  | bookingConfirmed e => exact e.exact
  | bookingCancelled e => exact e.exact
  | bookingExpired e => exact e.exact

/-- A valid event arrives whole. -/
theorem Valid.arrives {e : ContractEvent} (valid : e.Valid) :
    (delivered e.toJson).map (parse e.queue) = some (.ok e) := by
  rw [delivered_exact e.exact, Option.map_some]
  cases e with
  | flightCreated e =>
      rw [queue, parse, toJson, parseFlightCreatedEvent_jsonb valid.2,
        parseFlightCreatedEvent_toJson valid.1]
      rfl
  | bookingHeld e =>
      rw [queue, parse, toJson, parseBookingHeldEvent_jsonb, parseBookingHeldEvent_toJson valid]
      rfl
  | bookingConfirmed e =>
      rw [queue, parse, toJson, parseBookingConfirmedEvent_jsonb,
        parseBookingConfirmedEvent_toJson valid]
      rfl
  | bookingCancelled e =>
      rw [queue, parse, toJson, parseBookingCancelledEvent_jsonb,
        parseBookingCancelledEvent_toJson valid]
      rfl
  | bookingExpired e =>
      rw [queue, parse, toJson, parseBookingExpiredEvent_jsonb,
        parseBookingExpiredEvent_toJson valid]
      rfl

/-- What a parser gave, it gives again. -/
theorem reparse {queue : EventType} {payload : Json.Value} {e : ContractEvent}
    (h : parse queue payload = .ok e) : parse queue e.toJson = .ok e := by
  cases queue with
  | flightCreated =>
      obtain ⟨e, read, h⟩ := Checks.bind_eq_ok.mp h
      cases h
      exact Checks.bind_eq_ok.mpr ⟨e, parseFlightCreatedEvent_toJson (parseFlightCreatedEvent_ok read), rfl⟩
  | bookingHeld =>
      obtain ⟨e, read, h⟩ := Checks.bind_eq_ok.mp h
      cases h
      exact Checks.bind_eq_ok.mpr ⟨e, parseBookingHeldEvent_toJson (parseBookingHeldEvent_ok read), rfl⟩
  | bookingConfirmed =>
      obtain ⟨e, read, h⟩ := Checks.bind_eq_ok.mp h
      cases h
      exact Checks.bind_eq_ok.mpr
        ⟨e, parseBookingConfirmedEvent_toJson (parseBookingConfirmedEvent_ok read), rfl⟩
  | bookingCancelled =>
      obtain ⟨e, read, h⟩ := Checks.bind_eq_ok.mp h
      cases h
      exact Checks.bind_eq_ok.mpr
        ⟨e, parseBookingCancelledEvent_toJson (parseBookingCancelledEvent_ok read), rfl⟩
  | bookingExpired =>
      obtain ⟨e, read, h⟩ := Checks.bind_eq_ok.mp h
      cases h
      exact Checks.bind_eq_ok.mpr ⟨e, parseBookingExpiredEvent_toJson (parseBookingExpiredEvent_ok read), rfl⟩

end ContractEvent

/-! ### When a payload is valid -/

/-- What its parser asks of a payload, beyond what the use case writes into every one. -/
def EventBody.Presentable : EventBody → Prop
  | .flightCreated flight => flight.flightNumber ≠ "" ∧ flight.origin ≠ "" ∧
      flight.destination ≠ "" ∧ (∀ fare ∈ flight.fares, fare.2.amount ≠ 0) ∧
      ∃ fares : FlightFares, flight.fares = fares.entries
  | .bookingHeld _ reference _ _ _ passengers _ => reference ≠ "" ∧ passengers ≠ [] ∧
      ∀ p ∈ passengers, p.name ≠ ""
  | .bookingConfirmed _ reference _ passengers _ _ _ => reference ≠ "" ∧ passengers ≠ [] ∧
      ∀ p ∈ passengers, p.name ≠ ""
  | .bookingCancelled _ reference _ seats _ => reference ≠ "" ∧ seats ≠ []
  | .bookingExpired _ reference _ _ seats => reference ≠ "" ∧ seats ≠ []

/-- The queue a payload is enqueued for. -/
def EventBody.queue : EventBody → EventType
  | .flightCreated _ => .flightCreated
  | .bookingHeld .. => .bookingHeld
  | .bookingConfirmed .. => .bookingConfirmed
  | .bookingCancelled .. => .bookingCancelled
  | .bookingExpired .. => .bookingExpired

theorem EventPayload.contract_queue (text : Uuid → List Char) (p : EventPayload) :
    (p.contract text).queue = p.body.queue := by
  obtain ⟨_, _, _, body⟩ := p
  cases body <;> rfl

theorem Money.contract_valid (m : Money) : m.contract.Valid 0 := by
  refine ⟨Int.natCast_nonneg _, ⟨?_, ?_⟩, List.cons_ne_nil _ _⟩
  · have least : -MAX_SAFE_INTEGER ≤ 0 := by decide
    exact Int.le_trans least (Int.natCast_nonneg _)
  · have most : (maxSafeInteger : Int) = MAX_SAFE_INTEGER := by decide
    rw [← most]
    exact Int.ofNat_le.mpr m.safe

theorem toList_ne {s : String} (some : s ≠ "") : s.toList ≠ [] := by
  intro empty
  exact some (String.toList_eq_nil_iff.mp empty)

theorem toISOString_ne (instant : Instant) : toISOString instant ≠ [] := by
  simp [toISOString, isoDate]

theorem seatText_ne (seat : SeatPosition) : seatText seat ≠ [] := by
  have letter : (toString seat.letter).toList = [seat.letter] := String.toList_singleton _
  rw [seatText, formatSeatPosition, String.toList_append, letter]
  exact List.append_ne_nil_of_right_ne_nil _ (List.cons_ne_nil _ _)

theorem fareClass_ne (fareClass : FareClass) : fareClass.name.toList ≠ [] := by
  cases fareClass <;> decide

/-- A price is stored as it is written. -/
theorem jsonb_price (m : EventMoney) : m.toJson.jsonb = m.toJson := by
  have distinct : ["amount".toList, "currency".toList].Nodup := by decide
  have sorted : ["amount".toList, "currency".toList].Pairwise Json.StoredBefore := by decide
  refine Json.jsonb_object distinct sorted ?_
  simp [member, Json.Value.jsonb]

/-- A flight's fares are stored and listed as they are written. -/
theorem fares_contract {fares : FlightFares} (positive : ∀ fare ∈ fares.entries, fare.2.amount ≠ 0)
    {written : List (Text × EventMoney)}
    (is : written = fares.entries.map fun fare => (fare.1.name.toList, fare.2.contract)) :
    FaresValid written ∧ (faresJson written).jsonb = faresJson written := by
  have names : (written.map (·.1)).Sublist ["ECONOMY".toList, "BUSINESS".toList] := by
    obtain ⟨economy, business⟩ := fares
    rw [is]
    cases economy <;> cases business <;>
      simp [FlightFares.entries, FARE_CLASSES, FlightFares.get, FareClass.name]
  have distinct : ["ECONOMY".toList, "BUSINESS".toList].Nodup := by decide
  have listed : ["ECONOMY".toList, "BUSINESS".toList].Pairwise
      fun a b => Json.listingRank a ≤ Json.listingRank b := by decide
  have stored : ["ECONOMY".toList, "BUSINESS".toList].Pairwise Json.StoredBefore := by decide
  have ordinary : "__proto__".toList ∉ ["ECONOMY".toList, "BUSINESS".toList] := by decide
  refine ⟨⟨?_, ?_, ?_⟩, ?_⟩
  · intro fare mem
    rw [is] at mem
    obtain ⟨f, priced, rfl⟩ := List.mem_map.mp mem
    have valid := f.2.contract_valid
    refine ⟨?_, valid.safe, valid.currency⟩
    exact Int.ofNat_le.mpr (Nat.pos_of_ne_zero (positive f priced))
  · intro fare mem same
    exact ordinary (same ▸ names.subset (List.mem_map_of_mem mem))
  · rw [← names_faresJson] at names
    exact Json.entries_eq (distinct.sublist names) (listed.sublist names)
  · rw [← names_faresJson] at names
    refine Json.jsonb_object (distinct.sublist names) (stored.sublist names) ?_
    intro m mem
    obtain ⟨fare, -, rfl⟩ := List.mem_map.mp mem
    exact jsonb_price fare.2

theorem EventPayload.contract_valid {text : Uuid → List Char} (named : ∀ id, text id ≠ [])
    {p : EventPayload} (presentable : p.body.Presentable) : (p.contract text).Valid := by
  obtain ⟨eventId, correlationId, occurredAt, body⟩ := p
  have header : EventHeader.Valid ⟨text eventId, text correlationId, toISOString occurredAt⟩ :=
    ⟨named _, named _, toISOString_ne _⟩
  cases body with
  | flightCreated flight =>
      obtain ⟨number, origin, destination, positive, fares, is⟩ := presentable
      obtain ⟨valid, stored⟩ := fares_contract (is ▸ positive)
        (congrArg (List.map fun fare => (fare.1.name.toList, fare.2.contract)) is)
      have status : storedStatusText flight.status ≠ "" := by
        cases flight.status <;> decide
      refine ⟨⟨header, ⟨named _, toList_ne number, toList_ne origin, toList_ne destination,
        toISOString_ne _, toISOString_ne _, List.cons_ne_nil _ _, ?_, ?_, ?_, ?_, ?_⟩⟩, ?_⟩
      · exact fun same => named _ (Option.some.inj same)
      · exact fun same => named _ (Option.some.inj same)
      · exact fun same => named _ (Option.some.inj same)
      · exact fun same => toList_ne status (Option.some.inj same)
      · intro fares mem
        cases mem
        exact valid
      · intro fares mem
        cases mem
        exact stored
  | bookingHeld id reference flightId createdAt holdExpiresAt passengers total =>
      obtain ⟨reference, some, names⟩ := presentable
      refine ⟨header, named _, toList_ne reference, named _, toISOString_ne _, toISOString_ne _,
        List.map_eq_nil_iff.not.mpr some, ?_, ?_⟩
      · intro p mem
        obtain ⟨p, own, rfl⟩ := List.mem_map.mp mem
        refine ⟨toList_ne (names p own), seatText_ne _, ?_, ?_⟩
        · exact fun same => fareClass_ne _ (Option.some.inj same)
        · intro price mem
          cases mem
          exact p.price.contract_valid
      · intro total mem
        cases mem
        exact Money.contract_valid _
  | bookingConfirmed id reference flightId passengers total paymentId amount =>
      obtain ⟨reference, some, names⟩ := presentable
      refine ⟨header, ⟨named _, toList_ne reference, named _, List.map_eq_nil_iff.not.mpr some, ?_,
        total.contract_valid⟩, named _, amount.contract_valid⟩
      intro p mem
      obtain ⟨p, own, rfl⟩ := List.mem_map.mp mem
      exact ⟨toList_ne (names p own), seatText_ne _, fareClass_ne _, p.price.contract_valid⟩
  | bookingCancelled id reference flightId seats refund =>
      obtain ⟨reference, some⟩ := presentable
      refine ⟨header, ⟨named _, toList_ne reference, named _, List.map_eq_nil_iff.not.mpr some, ?_⟩,
        ?_⟩
      · intro seat mem
        obtain ⟨seat, -, rfl⟩ := List.mem_map.mp mem
        exact seatText_ne seat
      · intro r mem
        obtain ⟨refund, -, rfl⟩ := Option.map_eq_some_iff.mp mem
        exact ⟨named _, refund.2.contract_valid⟩
  | bookingExpired id reference flightId holdExpiresAt seats =>
      obtain ⟨reference, some⟩ := presentable
      refine ⟨header, named _, toList_ne reference, named _, toISOString_ne _,
        List.map_eq_nil_iff.not.mpr some, ?_⟩
      intro seat mem
      obtain ⟨seat, -, rfl⟩ := List.mem_map.mp mem
      exact seatText_ne seat

end FlightBooking
