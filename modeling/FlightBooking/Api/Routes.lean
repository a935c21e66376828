import FlightBooking.Api.Bodies
import FlightBooking.Bookings.Reads
import FlightBooking.System.UseCases

/-!
The routes that change something: who a request's token says is asking, and which use case
the request becomes.

`ApiRequest.dispatch` goes through a route's middleware and checks in their order. Verifying
a token's signature and expiry, Unicode's case mapping and SHA-256 are parameters (`Gate`).
-/

namespace FlightBooking

/-! ### Answers of the HTTP layer itself -/

structure ApiError where
  status : Nat
  code : String
  message : String
  details : List ValidationIssue
  deriving DecidableEq, Repr

def ApiError.plain (status : Nat) (code message : String) : ApiError := ⟨status, code, message, []⟩

def validationFailed (message : String) (issues : List ValidationIssue) : ApiError :=
  ⟨422, "VALIDATION_FAILED", message, issues⟩

/-! ### Who asks -/

inductive Role where
  | user
  | admin
  deriving DecidableEq, Repr

structure AuthenticatedUser where
  userId : List Char
  email : List Char
  role : Role
  deriving DecidableEq, Repr

/-- Why a token does not verify. -/
inductive JwtError where
  | expired
  | invalid
  deriving DecidableEq, Repr

def extractBearerToken (authorization : Option (List Char)) : Option (List Char) :=
  match authorization with
  | none => none
  | some header =>
      if "Bearer ".toList.isPrefixOf header then
        let token := Text.trim (header.drop "Bearer ".length)
        if token = [] then none else some token
      else none

def role? (text : List Char) : Option Role :=
  if text = "user".toList then some .user
  else if text = "admin".toList then some .admin
  else none

/-- `isTokenPayload`, with the user it describes. -/
def tokenPayload? (decoded : Json.Value) : Option AuthenticatedUser :=
  match decoded.get? "sub".toList, decoded.get? "email".toList, decoded.get? "role".toList with
  | some (.string sub), some (.string email), some (.string role) =>
      if sub = [] ∨ email = [] then none
      else (role? role).map fun role => ⟨sub, email, role⟩
  | _, _, _ => none

def verifyJwt (verify : List Char → Except JwtError Json.Value)
    (authorization : Option (List Char)) : Except ApiError AuthenticatedUser :=
  match extractBearerToken authorization with
  | none => .error (.plain 401 "MISSING_TOKEN" "Authentication token is missing")
  | some token =>
      match verify token with
      | .error .expired => .error (.plain 401 "TOKEN_EXPIRED" "Authentication token has expired")
      | .error .invalid => .error (.plain 401 "INVALID_TOKEN" "Authentication token is invalid")
      | .ok decoded =>
          match tokenPayload? decoded with
          | none => .error (.plain 401 "INVALID_TOKEN" "Authentication token is invalid")
          | some user => .ok user

def requireRole (role : Role) (user : AuthenticatedUser) : Except ApiError Unit :=
  if user.role = role then .ok ()
  else .error (.plain 403 "FORBIDDEN" "Insufficient permissions")

/-- `isUuid`, with its value: upper and lower case are one. -/
def parseUuid (text : List Char) : Option Uuid := readUuid (text.map Char.toLower)

/-- The account of a token's `sub`, which is a UUID; Postgres takes no other. -/
def toActor (user : AuthenticatedUser) : Except ApiError Uuid :=
  match parseUuid user.userId with
  | some accountId => .ok accountId
  | none => .error (.plain 500 "INTERNAL_SERVER_ERROR" "An unexpected error occurred")

/-- The one place that turns a token into booking access. -/
def toBookingAccessScope (role : Role) (accountId : Uuid) : BookingAccessScope :=
  match role with
  | .admin => .admin
  | .user => .owner accountId

/-! ### Requests -/

/-- The route of a request, with the texts of its path. -/
inductive Command where
  | createFlight
  | openFlight (id : List Char)
  | createBooking (flightId : List Char)
  | cancelBooking (id : List Char)
  | changeSeat (id position : List Char)
  | payForBooking (id : List Char)
  | registerAircraft
  deriving DecidableEq, Repr

/-- A body that is no JSON is `none`. -/
structure ApiRequest where
  command : Command
  authorization : Option (List Char)
  idempotencyKey : Option (List Char)
  body : Option Json.Value
  requestId : Option Uuid

def BOOKING_REFERENCE_ALPHABET : List Char := "ABCDEFGHJKLMNPQRSTUVWXYZ23456789".toList

/-- One draw of `randomInt` for each character. -/
abbrev ReferenceDraw := Fin BOOKING_REFERENCE_LENGTH → Fin BOOKING_REFERENCE_ALPHABET.length

def generateBookingReference (randomInt : ReferenceDraw) : String :=
  String.ofList <| (List.finRange BOOKING_REFERENCE_LENGTH).map fun i =>
    BOOKING_REFERENCE_ALPHABET.get (randomInt i)

/-- What a use case draws and reads while it runs a request. -/
structure Draws where
  flightId : Uuid
  aircraftId : Uuid
  bookingId : Uuid
  paymentId : Uuid
  auditId : Uuid
  refundAuditId : Uuid
  eventId : Uuid
  reference : Nat → ReferenceDraw
  occurredAt : Instant

/-- What the HTTP layer is given. -/
structure Gate where
  verify : List Char → Except JwtError Json.Value
  cases : CaseMapping
  sha256 : Digest
  reconcileAfterMs : Int

section Routes

variable (gate : Gate) (request : ApiRequest) (draws : Draws) (body : Json.Value)

/-- `requireJwt` and `requireRole`, with the account that asks. -/
def authorized (role : Role) : Except ApiError AuthenticatedUser := do
  let user ← verifyJwt gate.verify request.authorization
  requireRole role user
  pure user

def checked {α : Type} (message : String) (result : Except (List ValidationIssue) α) :
    Except ApiError α :=
  result.mapError (validationFailed message)

def routeCreateFlight : Except ApiError Invocation := do
  let user ← authorized gate request .admin
  let input ← checked "Request contains invalid flight data"
    (validateCreateFlightInput gate.cases body)
  pure (.createFlight input draws.flightId (← toActor user) draws.auditId draws.eventId
    request.requestId)

def routeOpenFlight (id : List Char) : Except ApiError Invocation := do
  let user ← authorized gate request .admin
  pure (.openFlight (parseUuid id) (← toActor user) draws.auditId request.requestId)

def routeRegisterAircraft : Except ApiError Invocation := do
  let user ← authorized gate request .admin
  let input ← checked "Request contains invalid aircraft data"
    (validateRegisterAircraftInput gate.cases body)
  pure (.registerAircraft
    { id := draws.aircraftId
      registration := input.registration
      seats := input.seats
      distinct := input.distinct
      createdAt := draws.occurredAt } (← toActor user) draws.auditId request.requestId)

def routeCreateBooking (flightId : List Char) : Except ApiError Invocation := do
  let user ← authorized gate request .user
  match parseUuid flightId with
  | none => throw (.plain 404 "FLIGHT_NOT_FOUND" "Flight was not found")
  | some flightId =>
      let input ← checked "Request contains invalid booking data" (validateCreateBookingInput body)
      pure (.createBooking (some flightId) input (← toActor user)
        { bookingId := draws.bookingId
          references := fun attempt => generateBookingReference (draws.reference attempt)
          auditId := draws.auditId
          eventId := draws.eventId } request.requestId)

def routeCancelBooking (id : List Char) : Except ApiError Invocation := do
  let user ← authorized gate request .user
  let accountId ← toActor user
  pure (.cancelBooking (parseUuid id) (toBookingAccessScope user.role accountId) accountId
    ⟨draws.auditId, draws.refundAuditId, draws.eventId⟩ request.requestId)

def routeChangeSeat (id position : List Char) : Except ApiError Invocation := do
  let user ← authorized gate request .user
  match parsePassengerPosition position with
  | none => throw (.plain 404 "PASSENGER_NOT_FOUND" "The booking has no passenger at this position")
  | some position =>
      let seat ← checked "Request validation failed" (validateChangeSeatInput body)
      let accountId ← toActor user
      pure (.changeSeat (parseUuid id) position seat (toBookingAccessScope user.role accountId)
        accountId draws.auditId request.requestId)

def routePayForBooking (id : List Char) : Except ApiError Invocation := do
  let user ← authorized gate request .user
  match request.idempotencyKey with
  | none => throw (.plain 422 "IDEMPOTENCY_KEY_REQUIRED" "Idempotency-Key header is required")
  | some key =>
      if ¬ isValidIdempotencyKey key then
        throw ⟨422, "VALIDATION_FAILED", "Request contains an invalid Idempotency-Key",
          [⟨"Idempotency-Key", "INVALID_IDEMPOTENCY_KEY",
            "Idempotency-Key must be 1-255 visible ASCII characters"⟩]⟩
      else
        let input ← checked "Request contains invalid payment data" (validatePaymentInput body)
        let accountId ← toActor user
        pure (.payForBooking (parseUuid id) (toBookingAccessScope user.role accountId) accountId
          { idempotencyKey := String.ofList key
            fingerprint := String.ofList (requestFingerprint gate.sha256 (input.fingerprinted id))
            paymentMethodToken := String.ofList input.paymentMethodToken
            amount := input.amount }
          ⟨draws.paymentId, ⟨draws.auditId, draws.eventId, request.requestId⟩,
            gate.reconcileAfterMs⟩)

/-- What a request becomes: a use case that runs, or an answer at once. -/
def ApiRequest.dispatch : Except ApiError Invocation :=
  match request.body with
  | none => .error (.plain 400 "MALFORMED_JSON" "Request body contains invalid JSON")
  | some body =>
      match request.command with
      | .createFlight => routeCreateFlight gate request draws body
      | .openFlight id => routeOpenFlight gate request draws id
      | .createBooking flightId => routeCreateBooking gate request draws body flightId
      | .cancelBooking id => routeCancelBooking gate request draws id
      | .changeSeat id position => routeChangeSeat gate request draws body id position
      | .payForBooking id => routePayForBooking gate request draws body id
      | .registerAircraft => routeRegisterAircraft gate request draws body

end Routes

end FlightBooking
