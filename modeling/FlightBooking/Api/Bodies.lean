import FlightBooking.Bookings.Validation
import FlightBooking.Flights.DateTimes
import FlightBooking.Flights.Fares
import FlightBooking.Flights.SearchFlights
import FlightBooking.Idempotency.RequestFingerprint

/-!
Reading the bodies of requests: what `validateCreateFlightInput`,
`validateRegisterAircraftInput`, `validateChangeSeatInput` and `validatePaymentInput` accept,
and the issues they find otherwise.

A body is what the JSON middleware made of the request; `null` stands for none at all, which
no validator takes for an object either.
-/

namespace FlightBooking

open Checks

/-! ### Texts -/

/-- Unicode's upper case, character by character, as `toUpperCase` applies it. -/
structure CaseMapping where
  upper : Char → List Char
  some_upper : ∀ c, upper c ≠ []
  upper_ascii : ∀ c, c.toNat < 128 → upper c = [c.toUpper]

def CaseMapping.toUpperCase (cases : CaseMapping) (text : List Char) : List Char :=
  text.flatMap cases.upper

/-- `trim().toUpperCase()`: how airport codes, registrations and flight numbers are normalized. -/
def CaseMapping.normalize (cases : CaseMapping) (raw : List Char) : List Char :=
  cases.toUpperCase (Text.trim raw)

def invalidBody : ValidationIssue := ⟨"body", "INVALID_BODY", "Request body must be a JSON object"⟩

/-- A member that must be a text. -/
def invalidString (field : String) : ValidationIssue :=
  ⟨field, "INVALID_STRING", field ++ " must be a non-empty string"⟩

/-! ### Members in their order -/

/-- The names that are array indices come first, by their number. -/
def arrayIndex? (name : List Char) : Option Nat :=
  let n := Nat.ofDigitChars 10 name 0
  if name.all Char.isDigit && Nat.toDigits 10 n = name && n < 4294967295 then some n else none

/-- `Object.entries` of a parsed object: of members of one name, the first has the place and the
last the value. -/
def objectEntries (members : List (List Char × Json.Value)) : List (List Char × Json.Value) :=
  let names := (members.map (·.1)).reverse.dedup.reverse
  let indices := (names.filter fun name => (arrayIndex? name).isSome).insertionSort
    fun a b => (arrayIndex? a).getD 0 ≤ (arrayIndex? b).getD 0
  let others := names.filter fun name => (arrayIndex? name).isNone
  (indices ++ others).filterMap fun name =>
    ((Json.Value.object members).get? name).map fun value => (name, value)

/-! ### Flights -/

def requiredFields : List String :=
  ["flightNumber", "origin", "destination", "aircraftRegistration", "departureAt", "arrivalAt",
    "fares"]

def stringFields : List String :=
  ["flightNumber", "origin", "destination", "aircraftRegistration", "departureAt", "arrivalAt"]

/-- What one price per fare class replaced. -/
def REPLACED_BY_FARES : List String := ["priceInCents", "currency"]

/-- The `fares` of a body. -/
def rawFares : Json.Value → RawFares
  | .object members => .object <| (objectEntries members).map fun m =>
      (String.ofList m.1, match m.2 with
        | .int n => .whole n
        | _ => .other)
  | _ => .other

def invalidAirportCode (field name : String) (code : Option String) : List ValidationIssue :=
  match code with
  | some code => if IsAirportCode code then [] else
      [⟨field, "INVALID_AIRPORT_CODE", name ++ " must be a three-letter airport code"⟩]
  | none => []

def invalidDateTime (field : String) (instant : Option (Option Instant)) : List ValidationIssue :=
  match instant with
  | some none =>
      [⟨field, "INVALID_DATETIME", field ++ " must be ISO-8601 with timezone (Z or ±HH:MM)"⟩]
  | _ => []

/-- The members of the body as they were read. -/
structure FlightFields where
  flightNumber : Option String
  origin : Option String
  destination : Option String
  aircraftRegistration : Option String
  departureAt : Option (Option Instant)
  arrivalAt : Option (Option Instant)
  fares : Option (Except (List ValidationIssue) FlightFares)

def FlightFields.of (cases : CaseMapping) (input : Json.Value) : FlightFields :=
  let text (field : String) := nonEmptyString? (input.get? field.toList)
  let normalized (field : String) := (text field).map fun raw => String.ofList (cases.normalize raw)
  let instant (field : String) := (text field).map fun raw => tryParseUtcIso (Text.trim raw)
  { flightNumber := normalized "flightNumber"
    origin := normalized "origin"
    destination := normalized "destination"
    aircraftRegistration := normalized "aircraftRegistration"
    departureAt := instant "departureAt"
    arrivalAt := instant "arrivalAt"
    fares := (input.get? "fares".toList).map fun raw => parseFares (rawFares raw) }

/-- The issues of single members that are there and should not be, or the other way round. -/
def presenceIssues (input : Json.Value) : List ValidationIssue :=
  let has (field : String) : Bool := (input.get? field.toList).isSome
  (requiredFields.filter fun field => !has field).map (fun field =>
      ⟨field, "MISSING_FIELD", field ++ " is required"⟩) ++
    (if has "availableSeats" then [⟨"availableSeats", "UNSUPPORTED_FIELD",
      "availableSeats is no longer accepted: it is the aircraft's seat count"⟩] else []) ++
    (REPLACED_BY_FARES.filter has).map (fun field =>
      ⟨field, "UNSUPPORTED_FIELD",
        field ++ " is no longer accepted: send fares, one VND amount per fare class"⟩) ++
    (stringFields.filter fun field =>
      has field && (nonEmptyString? (input.get? field.toList)).isNone).map invalidString

/-- The issues of what the members say. -/
def FlightFields.issues (fields : FlightFields) : List ValidationIssue :=
  invalidAirportCode "origin" "Origin" fields.origin ++
    invalidAirportCode "destination" "Destination" fields.destination ++
    (match fields.origin, fields.destination with
      | some origin, some destination =>
          if IsAirportCode origin ∧ IsAirportCode destination ∧ origin = destination then
            [⟨"destination", "ORIGIN_EQUALS_DESTINATION",
              "Origin and destination must be different"⟩]
          else []
      | _, _ => []) ++
    (match fields.fares with
      | some (.error issues) => issues
      | _ => []) ++
    invalidDateTime "departureAt" fields.departureAt ++
    invalidDateTime "arrivalAt" fields.arrivalAt ++
    (match fields.departureAt, fields.arrivalAt with
      | some (some departureAt), some (some arrivalAt) =>
          if arrivalAt ≤ departureAt then
            [⟨"arrivalAt", "ARRIVAL_BEFORE_DEPARTURE", "arrivalAt must be after departureAt"⟩]
          else []
      | _, _ => [])

def validateCreateFlightInput (cases : CaseMapping) (input : Json.Value) :
    Except (List ValidationIssue) CreateFlightInput :=
  match input with
  | .object _ =>
      let fields := FlightFields.of cases input
      let issues := presenceIssues input ++ fields.issues
      match fields.flightNumber, fields.origin, fields.destination, fields.aircraftRegistration,
          fields.departureAt, fields.arrivalAt, fields.fares with
      | some flightNumber, some origin, some destination, some aircraftRegistration,
          some (some departureAt), some (some arrivalAt), some (.ok fares) =>
          if issues = [] then .ok
            { flightNumber, origin, destination, aircraftRegistration, departureAt, arrivalAt, fares }
          else .error issues
      | _, _, _, _, _, _, _ => .error issues
  | _ => .error [invalidBody]

/-! ### Aircraft -/

def MAX_MODEL_LENGTH : Nat := 50

/-- `REGISTRATION`: a prefix of one or two letters or digits, perhaps a hyphen, and a mark of
one to five. -/
def isRegistration (text : List Char) : Bool :=
  let isMark (c : Char) : Bool := c.isUpper || c.isDigit
  let front := text.takeWhile isMark
  match text.drop front.length with
  | [] => 2 ≤ front.length && front.length ≤ 7
  | '-' :: rest => 1 ≤ front.length && front.length ≤ 2 && 1 ≤ rest.length && rest.length ≤ 5 &&
      rest.all isMark
  | _ => false

/-- The registration, normalized, or what is wrong with it. -/
def parseRegistration (cases : CaseMapping) (raw : Option Json.Value) :
    Except ValidationIssue String :=
  match nonEmptyString? raw with
  | none => .error (invalidString "registration")
  | some raw =>
      if isRegistration (cases.normalize raw) then .ok (String.ofList (cases.normalize raw))
      else .error ⟨"registration", "INVALID_REGISTRATION",
        "registration must be letters and digits with an optional hyphen, e.g. VN-A321"⟩

def parseModel (raw : Option Json.Value) : Except ValidationIssue String :=
  match nonEmptyString? raw with
  | none => .error (invalidString "model")
  | some raw =>
      if Text.utf16Length (Text.trim raw) > MAX_MODEL_LENGTH then
        .error ⟨"model", "TOO_LONG",
          "model must be at most " ++ toString MAX_MODEL_LENGTH ++ " characters"⟩
      else .ok (String.ofList (Text.trim raw))

/-- The seats keep their proof that no position occurs twice. -/
structure RegisterAircraftInput where
  registration : String
  model : String
  seats : List LayoutSeat
  distinct : (seats.map (·.position)).Nodup

theorem expandSeatLayout_distinct {input : Json.Value} {field : String} {seats : List LayoutSeat}
    (h : expandSeatLayout input field = .ok seats) : (seats.map (·.position)).Nodup := by
  obtain ⟨cabins, layout, rfl⟩ := expandSeatLayout_eq_ok.mp h
  exact nodup_positions layout.apart

def validateRegisterAircraftInput (cases : CaseMapping) (input : Json.Value) :
    Except (List ValidationIssue) RegisterAircraftInput :=
  match input with
  | .object _ =>
      let registration := parseRegistration cases (input.get? "registration".toList)
      let model := parseModel (input.get? "model".toList)
      match registration, model,
          expanded : expandSeatLayout ((input.get? "seatLayout".toList).getD .null) "seatLayout" with
      | .ok registration, .ok model, .ok seats =>
          .ok ⟨registration, model, seats, expandSeatLayout_distinct expanded⟩
      | registration, model, layout => .error
          ((match registration with | .error issue => [issue] | .ok _ => []) ++
            (match model with | .error issue => [issue] | .ok _ => []) ++
            (match layout with | .error issues => issues | .ok _ => []))
  | _ => .error [invalidBody]

/-! ### Seat changes -/

def validateChangeSeatInput (input : Json.Value) : Except (List ValidationIssue) SeatPosition :=
  match input with
  | .object _ =>
      let raw := input.get? "seat".toList
      let seat := match raw with
        | some (.string code) => parseSeatPosition code
        | _ => none
      match seat with
      | some seat => .ok seat
      | none => .error [⟨"seat", if raw.isNone then "REQUIRED" else "INVALID_SEAT",
          "seat must be a seat code such as 12A"⟩]
  | _ => .error [invalidBody]

/-- A place in the booking, `1` to `9`. -/
def parsePassengerPosition : List Char → Option Nat
  | [c] => if c.isDigit && c ≠ '0' then some (Nat.ofDigitChars 10 [c] 0) else none
  | _ => none

/-! ### Payments -/

/-- `IDEMPOTENCY_KEY_PATTERN`: visible ASCII characters. -/
def isValidIdempotencyKey (key : List Char) : Bool :=
  1 ≤ key.length && key.length ≤ 255 && key.all fun c => 33 ≤ c.toNat && c.toNat ≤ 126

structure PaymentInput where
  paymentMethodToken : List Char
  amount : Money

theorem toNat_le_maxSafeInteger {n : Int} (valid : 0 < n ∧ n ≤ maxSafeInteger) :
    n.toNat ≤ maxSafeInteger := by
  omega

/-- A positive whole number of đồng. -/
def positiveAmount? : Option Json.Value → Option Money
  | some (.int n) =>
      if valid : 0 < n ∧ n ≤ maxSafeInteger then
        some ⟨n.toNat, toNat_le_maxSafeInteger valid⟩
      else none
  | _ => none

def isCurrency : Option Json.Value → Bool
  | some (.string currency) => currency = "VND".toList
  | _ => false

/-- The `amount` member, or what is wrong with it. -/
def parseAmount (raw : Option Json.Value) : Except (List ValidationIssue) Money :=
  match raw with
  | some (.object members) =>
      let amount := Json.Value.object members
      match positiveAmount? (amount.get? "amount".toList),
          isCurrency (amount.get? "currency".toList) with
      | some money, true => .ok money
      | money, currency => .error
          ((if money.isNone then [⟨"amount.amount", "INVALID_AMOUNT",
              "amount.amount must be a positive whole number of đồng"⟩] else []) ++
            (if currency then [] else [⟨"amount.currency", "UNSUPPORTED_CURRENCY",
              "amount.currency must be one of VND"⟩]))
  | _ => .error [⟨"amount", "REQUIRED", "amount must be an object \x7b amount, currency \x7d"⟩]

def validatePaymentInput (input : Json.Value) : Except (List ValidationIssue) PaymentInput :=
  match input with
  | .object _ =>
      match nonEmptyString? (input.get? "paymentMethodToken".toList),
          parseAmount (input.get? "amount".toList) with
      | some token, .ok amount => .ok ⟨Text.trim token, amount⟩
      | token, amount => .error
          ((if token.isNone then [⟨"paymentMethodToken", "REQUIRED",
              "paymentMethodToken must be a non-empty string"⟩] else []) ++
            match amount with
            | .error issues => issues
            | .ok _ => [])
  | _ => .error [invalidBody]

/-- The body as it is fingerprinted: only the fields the payment uses. -/
def PaymentInput.body (input : PaymentInput) : Body :=
  .object
    [(units "paymentMethodToken", some (.string (units (String.ofList input.paymentMethodToken)))),
      (units "amount", some (.object
        [(units "amount", some (.number (.ofNat input.amount.amount))),
          (units "currency", some (.string (units "VND")))]))]

/-- What the payment route fingerprints: its own path, without a query string. -/
def PaymentInput.fingerprinted (input : PaymentInput) (bookingId : List Char) :
    FingerprintedRequest where
  method := units "POST"
  path := units ("/api/bookings/" ++ String.ofList bookingId ++ "/payments")
  body := input.body

end FlightBooking
