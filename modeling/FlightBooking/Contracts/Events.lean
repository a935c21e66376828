import FlightBooking.Library.Jsonb

/-!
The events of the contracts package: their types, the JSON their producers write, and
the parsers their consumers run on what arrives.
-/

namespace FlightBooking.Contracts

open Json

abbrev Text := List Char

/-! ### The events -/

structure EventMoney where
  amount : Int
  currency : Text
  deriving DecidableEq, Repr

/-- What every event has besides its `type`. -/
structure EventHeader where
  eventId : Text
  correlationId : Text
  occurredAt : Text
  deriving DecidableEq, Repr

structure CreatedFlight where
  id : Text
  flightNumber : Text
  origin : Text
  destination : Text
  departureAt : Text
  arrivalAt : Text
  priceInCents : Int
  currency : Text
  fares : Option (List (Text × EventMoney))
  availableSeats : Int
  originAirportId : Option Text
  destinationAirportId : Option Text
  aircraftId : Option Text
  status : Option Text
  deriving DecidableEq, Repr

structure FlightCreatedEvent extends EventHeader where
  flight : CreatedFlight
  deriving DecidableEq, Repr

structure BookingHeldPassenger where
  name : Text
  seat : Text
  fareClass : Option Text
  price : Option EventMoney
  deriving DecidableEq, Repr

structure HeldBooking where
  id : Text
  reference : Text
  flightId : Text
  createdAt : Text
  holdExpiresAt : Text
  passengers : List BookingHeldPassenger
  total : Option EventMoney
  deriving DecidableEq, Repr

structure BookingHeldEvent extends EventHeader where
  booking : HeldBooking
  deriving DecidableEq, Repr

structure BookingConfirmedPassenger where
  name : Text
  seat : Text
  fareClass : Text
  price : EventMoney
  deriving DecidableEq, Repr

structure ConfirmedBooking where
  id : Text
  reference : Text
  flightId : Text
  passengers : List BookingConfirmedPassenger
  total : EventMoney
  deriving DecidableEq, Repr

structure ConfirmingPayment where
  id : Text
  amount : EventMoney
  deriving DecidableEq, Repr

structure BookingConfirmedEvent extends EventHeader where
  booking : ConfirmedBooking
  payment : ConfirmingPayment
  deriving DecidableEq, Repr

structure CancelledBooking where
  id : Text
  reference : Text
  flightId : Text
  seats : List Text
  deriving DecidableEq, Repr

structure EventRefund where
  paymentId : Text
  amount : EventMoney
  deriving DecidableEq, Repr

/-- `refund` is null when the booking had not been paid. -/
structure BookingCancelledEvent extends EventHeader where
  booking : CancelledBooking
  refund : Option EventRefund
  deriving DecidableEq, Repr

structure ExpiredBooking where
  id : Text
  reference : Text
  flightId : Text
  holdExpiresAt : Text
  seats : List Text
  deriving DecidableEq, Repr

structure BookingExpiredEvent extends EventHeader where
  booking : ExpiredBooking
  deriving DecidableEq, Repr

/-! ### Their JSON, with the members in the order the use cases write them -/

def member (name : String) (v : Value) : Member := (name.toList, v)

/-- A member that is left out when there is nothing to say. -/
def present (name : String) : Option Value → List Member
  | none => []
  | some v => [member name v]

def EventMoney.toJson (m : EventMoney) : Value :=
  .object [member "amount" (.int m.amount), member "currency" (.string m.currency)]

def EventHeader.members (h : EventHeader) (type : String) : List Member :=
  [member "eventId" (.string h.eventId), member "correlationId" (.string h.correlationId),
    member "type" (.string type.toList), member "occurredAt" (.string h.occurredAt)]

def faresJson (fares : List (Text × EventMoney)) : Value :=
  .object (fares.map fun fare => (fare.1, fare.2.toJson))

def CreatedFlight.toJson (f : CreatedFlight) : Value :=
  .object <|
    [member "id" (.string f.id), member "flightNumber" (.string f.flightNumber),
      member "origin" (.string f.origin), member "destination" (.string f.destination),
      member "departureAt" (.string f.departureAt), member "arrivalAt" (.string f.arrivalAt),
      member "priceInCents" (.int f.priceInCents), member "currency" (.string f.currency)] ++
    present "fares" (f.fares.map faresJson) ++ [member "availableSeats" (.int f.availableSeats)] ++
    present "originAirportId" (f.originAirportId.map .string) ++
    present "destinationAirportId" (f.destinationAirportId.map .string) ++
    present "aircraftId" (f.aircraftId.map .string) ++ present "status" (f.status.map .string)

def FlightCreatedEvent.toJson (e : FlightCreatedEvent) : Value :=
  .object (e.members "flight.created" ++ [member "flight" e.flight.toJson])

def BookingHeldPassenger.toJson (p : BookingHeldPassenger) : Value :=
  .object ([member "name" (.string p.name), member "seat" (.string p.seat)] ++
    present "fareClass" (p.fareClass.map .string) ++ present "price" (p.price.map (·.toJson)))

def HeldBooking.toJson (b : HeldBooking) : Value :=
  .object ([member "id" (.string b.id), member "reference" (.string b.reference),
    member "flightId" (.string b.flightId), member "createdAt" (.string b.createdAt),
    member "holdExpiresAt" (.string b.holdExpiresAt),
    member "passengers" (.array (b.passengers.map (·.toJson)))] ++
    present "total" (b.total.map (·.toJson)))

def BookingHeldEvent.toJson (e : BookingHeldEvent) : Value :=
  .object (e.members "booking.held" ++ [member "booking" e.booking.toJson])

def BookingConfirmedPassenger.toJson (p : BookingConfirmedPassenger) : Value :=
  .object [member "name" (.string p.name), member "seat" (.string p.seat),
    member "fareClass" (.string p.fareClass), member "price" p.price.toJson]

def ConfirmedBooking.toJson (b : ConfirmedBooking) : Value :=
  .object [member "id" (.string b.id), member "reference" (.string b.reference),
    member "flightId" (.string b.flightId),
    member "passengers" (.array (b.passengers.map (·.toJson))), member "total" b.total.toJson]

def ConfirmingPayment.toJson (p : ConfirmingPayment) : Value :=
  .object [member "id" (.string p.id), member "amount" p.amount.toJson]

def BookingConfirmedEvent.toJson (e : BookingConfirmedEvent) : Value :=
  .object (e.members "booking.confirmed" ++
    [member "booking" e.booking.toJson, member "payment" e.payment.toJson])

def CancelledBooking.toJson (b : CancelledBooking) : Value :=
  .object [member "id" (.string b.id), member "reference" (.string b.reference),
    member "flightId" (.string b.flightId), member "seats" (.array (b.seats.map .string))]

def EventRefund.toJson (r : EventRefund) : Value :=
  .object [member "paymentId" (.string r.paymentId), member "amount" r.amount.toJson]

def BookingCancelledEvent.toJson (e : BookingCancelledEvent) : Value :=
  .object (e.members "booking.cancelled" ++
    [member "booking" e.booking.toJson, member "refund" ((e.refund.map (·.toJson)).getD .null)])

def ExpiredBooking.toJson (b : ExpiredBooking) : Value :=
  .object [member "id" (.string b.id), member "reference" (.string b.reference),
    member "flightId" (.string b.flightId), member "holdExpiresAt" (.string b.holdExpiresAt),
    member "seats" (.array (b.seats.map .string))]

def BookingExpiredEvent.toJson (e : BookingExpiredEvent) : Value :=
  .object (e.members "booking.expired" ++ [member "booking" e.booking.toJson])

/-! ### What the parsers check of a value; `none` for `undefined` -/

def field (v : Value) (name : String) : Option Value := v.get? name.toList

/-- `typeof value === "object"`, but not null. -/
def isRecord : Value → Bool
  | .array _ | .object _ => true
  | _ => false

def nonEmptyString? : Option Value → Option Text
  | some (.string (c :: s)) => some (c :: s)
  | _ => none

def nonEmptyArray? : Option Value → Option (List Value)
  | some (.array (item :: items)) => some (item :: items)
  | _ => none

def integer? : Option Value → Option Int
  | some (.int n) => some n
  | _ => none

def MAX_SAFE_INTEGER : Int := 2 ^ 53 - 1

/-- A safe integer, not below `least`, and a currency. -/
def money? (least : Int) (value : Option Value) : Option EventMoney := do
  let amount ← integer? (field (← value) "amount")
  let currency ← nonEmptyString? (field (← value) "currency")
  if least ≤ amount ∧ -MAX_SAFE_INTEGER ≤ amount ∧ amount ≤ MAX_SAFE_INTEGER then
    some ⟨amount, currency⟩
  else none

/-- What passed the check, or the reason it did not. -/
def require {α : Type} (reason : String) : Option α → Except String α
  | some a => .ok a
  | none => .error reason

/-- What may be absent, but is checked when it is there. -/
def whenPresent {α : Type} (reason : String) (check : Option Value → Option α) :
    Option Value → Except String (Option α)
  | none => .ok none
  | some v => do return some (← require reason (check (some v)))

def requireRecord (reason : String) (value : Option Value) : Except String Value :=
  require reason (value.filter isRecord)

/-- A required text of the object at `path`. -/
def requireText (path key : String) (v : Value) : Except String Text :=
  require (path ++ key ++ " must be a non-empty string") (nonEmptyString? (field v key))

/-- Each item of an array by the same parser, with its index. -/
def parseEach {α : Type} (parseItem : Nat → Value → Except String α) :
    Nat → List Value → Except String (List α)
  | _, [] => .ok []
  | i, item :: items => do
      let first ← parseItem i item
      let rest ← parseEach parseItem (i + 1) items
      return first :: rest

/-- The checks every parser starts with. -/
def parseHeader (type : String) (payload : Value) : Except String EventHeader := do
  let record ← requireRecord "payload must be an object" (some payload)
  let _ ← require ("type must be \"" ++ type ++ "\"")
    ((nonEmptyString? (field record "type")).filter (· = type.toList))
  let eventId ← requireText "" "eventId" record
  let correlationId ← requireText "" "correlationId" record
  let occurredAt ← requireText "" "occurredAt" record
  return { eventId, correlationId, occurredAt }

/-- `booking.passengers`. -/
def requirePassengers {α : Type} (parsePassenger : Nat → Value → Except String α)
    (booking : Value) : Except String (List α) := do
  let items ← require "booking.passengers must be a non-empty array"
    (nonEmptyArray? (field booking "passengers"))
  parseEach parsePassenger 0 items

/-- `booking.seats`. -/
def requireSeats (booking : Value) : Except String (List Text) :=
  require "booking.seats must be a non-empty array of seat codes"
    ((nonEmptyArray? (field booking "seats")).bind fun items =>
      items.mapM fun seat => nonEmptyString? (some seat))

/-! ### The parsers -/

/-- The fares in the order the object lists them. A fare named `__proto__` is checked as
the others are, but setting it sets no property. -/
def parseFareEntries : List Member → Except String (List (Text × EventMoney))
  | [] => .ok []
  | (fareClass, fare) :: entries => do
      let price ← require ("flight.fares." ++ String.ofList fareClass ++
        " must have a positive integer amount and a currency") (money? 1 (some fare))
      let fares ← parseFareEntries entries
      return if fareClass = "__proto__".toList then fares else (fareClass, price) :: fares

def parseFares : Value → Except String (List (Text × EventMoney))
  | .object members => parseFareEntries (Value.object members).entries
  | _ => .error "flight.fares must be an object when present"

/-- `flight.fares`, absent in old messages. -/
def optionalFares (flight : Value) : Except String (Option (List (Text × EventMoney))) :=
  match field flight "fares" with
  | none => .ok none
  | some v => do return some (← parseFares v)

/-- A text of the flight that old messages lack. -/
def optionalText (key : String) (flight : Value) : Except String (Option Text) :=
  whenPresent ("flight." ++ key ++ " must be a non-empty string when present") nonEmptyString?
    (field flight key)

def parseCreatedFlight (flight : Value) : Except String CreatedFlight := do
  let id ← requireText "flight." "id" flight
  let flightNumber ← requireText "flight." "flightNumber" flight
  let origin ← requireText "flight." "origin" flight
  let destination ← requireText "flight." "destination" flight
  let departureAt ← requireText "flight." "departureAt" flight
  let arrivalAt ← requireText "flight." "arrivalAt" flight
  let currency ← requireText "flight." "currency" flight
  let priceInCents ← require "flight.priceInCents must be an integer"
    (integer? (field flight "priceInCents"))
  let availableSeats ← require "flight.availableSeats must be an integer"
    (integer? (field flight "availableSeats"))
  let originAirportId ← optionalText "originAirportId" flight
  let destinationAirportId ← optionalText "destinationAirportId" flight
  let aircraftId ← optionalText "aircraftId" flight
  let status ← optionalText "status" flight
  let fares ← optionalFares flight
  return { id, flightNumber, origin, destination, departureAt, arrivalAt, priceInCents, currency,
           fares, availableSeats, originAirportId, destinationAirportId, aircraftId, status }

def parseFlightCreatedEvent (payload : Value) : Except String FlightCreatedEvent := do
  let header ← parseHeader "flight.created" payload
  let flight ← requireRecord "flight must be an object" (field payload "flight")
  let flight ← parseCreatedFlight flight
  return { toEventHeader := header, flight }

def passengerPath (index : Nat) : String := "booking.passengers[" ++ toString index ++ "]"

def parseHeldPassenger (index : Nat) (passenger : Value) : Except String BookingHeldPassenger := do
  let (name, seat) ← require (passengerPath index ++ " must have a non-empty name and seat") do
    let name ← nonEmptyString? (field passenger "name")
    let seat ← nonEmptyString? (field passenger "seat")
    return (name, seat)
  let fareClass ← whenPresent
    (passengerPath index ++ ".fareClass must be a non-empty string when present") nonEmptyString?
    (field passenger "fareClass")
  let price ← whenPresent
    (passengerPath index ++ ".price must have an integer amount and a currency when present")
    (money? 0) (field passenger "price")
  return { name, seat, fareClass, price }

def parseHeldBooking (booking : Value) : Except String HeldBooking := do
  let id ← requireText "booking." "id" booking
  let reference ← requireText "booking." "reference" booking
  let flightId ← requireText "booking." "flightId" booking
  let createdAt ← requireText "booking." "createdAt" booking
  let holdExpiresAt ← requireText "booking." "holdExpiresAt" booking
  let passengers ← requirePassengers parseHeldPassenger booking
  let total ← whenPresent "booking.total must have an integer amount and a currency when present"
    (money? 0) (field booking "total")
  return { id, reference, flightId, createdAt, holdExpiresAt, passengers, total }

def parseBookingHeldEvent (payload : Value) : Except String BookingHeldEvent := do
  let header ← parseHeader "booking.held" payload
  let booking ← requireRecord "booking must be an object" (field payload "booking")
  let booking ← parseHeldBooking booking
  return { toEventHeader := header, booking }

def parseConfirmedPassenger (index : Nat) (passenger : Value) :
    Except String BookingConfirmedPassenger :=
  require (passengerPath index ++ " must have a name, seat, fareClass and price") do
    let name ← nonEmptyString? (field passenger "name")
    let seat ← nonEmptyString? (field passenger "seat")
    let fareClass ← nonEmptyString? (field passenger "fareClass")
    let price ← money? 0 (field passenger "price")
    return { name, seat, fareClass, price }

def parseConfirmedBooking (booking : Value) : Except String ConfirmedBooking := do
  let id ← requireText "booking." "id" booking
  let reference ← requireText "booking." "reference" booking
  let flightId ← requireText "booking." "flightId" booking
  let passengers ← requirePassengers parseConfirmedPassenger booking
  let total ← require "booking.total must have an integer amount and a currency"
    (money? 0 (field booking "total"))
  return { id, reference, flightId, passengers, total }

def parseConfirmingPayment (payment : Value) : Except String ConfirmingPayment := do
  let id ← requireText "payment." "id" payment
  let amount ← require "payment.amount must have an integer amount and a currency"
    (money? 0 (field payment "amount"))
  return { id, amount }

def parseBookingConfirmedEvent (payload : Value) : Except String BookingConfirmedEvent := do
  let header ← parseHeader "booking.confirmed" payload
  let booking ← requireRecord "booking must be an object" (field payload "booking")
  let booking ← parseConfirmedBooking booking
  let payment ← requireRecord "payment must be an object" (field payload "payment")
  let payment ← parseConfirmingPayment payment
  return { toEventHeader := header, booking, payment }

def parseCancelledBooking (booking : Value) : Except String CancelledBooking := do
  let id ← requireText "booking." "id" booking
  let reference ← requireText "booking." "reference" booking
  let flightId ← requireText "booking." "flightId" booking
  let seats ← requireSeats booking
  return { id, reference, flightId, seats }

def parseStartedRefund (raw : Value) : Except String EventRefund :=
  require "refund must be null or have a paymentId and an amount" do
    let paymentId ← nonEmptyString? (field raw "paymentId")
    let amount ← money? 0 (field raw "amount")
    return { paymentId, amount }

/-- Required, possibly null. -/
def parseRefund (payload : Value) : Except String (Option EventRefund) :=
  match field payload "refund" with
  | none => .error "refund must be present (an object or null)"
  | some .null => .ok none
  | some raw => do return some (← parseStartedRefund raw)

def parseBookingCancelledEvent (payload : Value) : Except String BookingCancelledEvent := do
  let header ← parseHeader "booking.cancelled" payload
  let booking ← requireRecord "booking must be an object" (field payload "booking")
  let booking ← parseCancelledBooking booking
  let refund ← parseRefund payload
  return { toEventHeader := header, booking, refund }

def parseExpiredBooking (booking : Value) : Except String ExpiredBooking := do
  let id ← requireText "booking." "id" booking
  let reference ← requireText "booking." "reference" booking
  let flightId ← requireText "booking." "flightId" booking
  let holdExpiresAt ← requireText "booking." "holdExpiresAt" booking
  let seats ← requireSeats booking
  return { id, reference, flightId, holdExpiresAt, seats }

def parseBookingExpiredEvent (payload : Value) : Except String BookingExpiredEvent := do
  let header ← parseHeader "booking.expired" payload
  let booking ← requireRecord "booking must be an object" (field payload "booking")
  let booking ← parseExpiredBooking booking
  return { toEventHeader := header, booking }

end FlightBooking.Contracts
