import FlightBooking.Api.Routes
import FlightBooking.Flights.Effects
import FlightBooking.System.Authority

/-!
What a request may change, from its token on.

A request that becomes a use case carries a verified token, of the role its route is for, and
acts for that token's account (`dispatch_for`). So in every run a booking changes only for its
owner, and flights and aircraft only for an administrator (`changes_authorized`).
-/

namespace FlightBooking

open Checks Interaction ReadCommitted Relational

variable {gate : Gate} {request : ApiRequest} {draws : Draws} {body : Json.Value}
  {invocation : Invocation} {user : AuthenticatedUser} {account : Uuid}

/-! ### One request -/

/-- A use case run for an account, in the scope that the role's routes give it. -/
inductive Invocation.For (account : Uuid) : Role → Invocation → Prop where
  | createFlight {input flightId auditId eventId requestId} :
      For account .admin (.createFlight input flightId account auditId eventId requestId)
  | openFlight {id auditId requestId} : For account .admin (.openFlight id account auditId requestId)
  | registerAircraft {aircraft auditId requestId} :
      For account .admin (.registerAircraft aircraft account auditId requestId)
  | createBooking {flightId input ids requestId} :
      For account .user (.createBooking flightId input account ids requestId)
  | cancelBooking {id ids requestId} :
      For account .user (.cancelBooking id (.owner account) account ids requestId)
  | changeSeat {id position seat auditId requestId} :
      For account .user (.changeSeat id position seat (.owner account) account auditId requestId)
  | payForBooking {id request ctx} :
      For account .user (.payForBooking id (.owner account) account request ctx)

/-- The request carries a token of this role and account, which verifies. -/
structure ApiRequest.SentBy (gate : Gate) (request : ApiRequest) (role : Role) (account : Uuid) :
    Prop where
  sent : ∃ user, verifyJwt gate.verify request.authorization = .ok user ∧ user.role = role ∧
    parseUuid user.userId = some account

theorem authorized_eq_ok {role : Role} : authorized gate request role = .ok user ↔
    verifyJwt gate.verify request.authorization = .ok user ∧ user.role = role := by
  rw [authorized, bind_eq_ok]
  constructor
  · rintro ⟨user', verified, rest⟩
    obtain ⟨_, allowed, same⟩ := bind_eq_ok.mp rest
    cases same
    unfold requireRole at allowed
    split at allowed
    · exact ⟨verified, by assumption⟩
    · cases allowed
  · rintro ⟨verified, role⟩
    refine ⟨user, verified, bind_eq_ok.mpr ⟨(), ?_, rfl⟩⟩
    exact if_pos role

theorem toActor_eq_ok : toActor user = .ok account ↔ parseUuid user.userId = some account := by
  unfold toActor
  cases parseUuid user.userId <;> simp

theorem checked_eq_ok {α : Type} {message : String} {result : Except (List ValidationIssue) α}
    {a : α} : checked message result = .ok a ↔ result = .ok a := by
  cases result <;> simp [checked, Except.mapError]

/-- A route's request was sent by someone of the route's role. -/
theorem sentBy_of_authorized {role : Role} (admitted : authorized gate request role = .ok user)
    (acts : toActor user = .ok account) : request.SentBy gate role account := by
  obtain ⟨verified, role⟩ := authorized_eq_ok.mp admitted
  exact ⟨user, verified, role, toActor_eq_ok.mp acts⟩

section Routes

theorem routeCreateFlight_ok (h : routeCreateFlight gate request draws body = .ok invocation) :
    ∃ account input, request.SentBy gate .admin account ∧
      validateCreateFlightInput gate.cases body = .ok input ∧
      invocation = .createFlight input draws.flightId account draws.auditId draws.eventId
        request.requestId := by
  obtain ⟨user, admitted, h⟩ := bind_eq_ok.mp h
  obtain ⟨input, valid, h⟩ := bind_eq_ok.mp h
  obtain ⟨account, acts, h⟩ := bind_eq_ok.mp h
  cases h
  exact ⟨account, input, sentBy_of_authorized admitted acts, checked_eq_ok.mp valid, rfl⟩

theorem routeOpenFlight_ok {id : List Char}
    (h : routeOpenFlight gate request draws id = .ok invocation) :
    ∃ account, request.SentBy gate .admin account ∧
      invocation = .openFlight (parseUuid id) account draws.auditId request.requestId := by
  obtain ⟨user, admitted, h⟩ := bind_eq_ok.mp h
  obtain ⟨account, acts, h⟩ := bind_eq_ok.mp h
  cases h
  exact ⟨account, sentBy_of_authorized admitted acts, rfl⟩

theorem routeRegisterAircraft_ok
    (h : routeRegisterAircraft gate request draws body = .ok invocation) :
    ∃ account aircraft, request.SentBy gate .admin account ∧
      invocation = .registerAircraft aircraft account draws.auditId request.requestId := by
  obtain ⟨user, admitted, h⟩ := bind_eq_ok.mp h
  obtain ⟨input, valid, h⟩ := bind_eq_ok.mp h
  obtain ⟨account, acts, h⟩ := bind_eq_ok.mp h
  cases h
  exact ⟨account, _, sentBy_of_authorized admitted acts, rfl⟩

theorem routeCreateBooking_ok {flightId : List Char}
    (h : routeCreateBooking gate request draws body flightId = .ok invocation) :
    ∃ account id input, request.SentBy gate .user account ∧
      validateCreateBookingInput body = .ok input ∧
      invocation = .createBooking (some id) input account
        ⟨draws.bookingId, fun attempt => generateBookingReference (draws.reference attempt),
          draws.auditId, draws.eventId⟩ request.requestId := by
  obtain ⟨user, admitted, h⟩ := bind_eq_ok.mp h
  cases parsed : parseUuid flightId with
  | none =>
      rw [parsed] at h
      cases h
  | some id =>
      rw [parsed] at h
      obtain ⟨input, valid, h⟩ := bind_eq_ok.mp h
      obtain ⟨account, acts, h⟩ := bind_eq_ok.mp h
      cases h
      exact ⟨account, id, input, sentBy_of_authorized admitted acts, checked_eq_ok.mp valid, rfl⟩

theorem routeCancelBooking_ok {id : List Char}
    (h : routeCancelBooking gate request draws id = .ok invocation) :
    ∃ account, request.SentBy gate .user account ∧
      invocation = .cancelBooking (parseUuid id) (.owner account) account
        ⟨draws.auditId, draws.refundAuditId, draws.eventId⟩ request.requestId := by
  obtain ⟨user, admitted, h⟩ := bind_eq_ok.mp h
  obtain ⟨account, acts, h⟩ := bind_eq_ok.mp h
  cases h
  refine ⟨account, sentBy_of_authorized admitted acts, ?_⟩
  rw [(authorized_eq_ok.mp admitted).2]
  rfl

theorem routeChangeSeat_ok {id position : List Char}
    (h : routeChangeSeat gate request draws body id position = .ok invocation) :
    ∃ account place seat, request.SentBy gate .user account ∧
      parsePassengerPosition position = some place ∧ validateChangeSeatInput body = .ok seat ∧
      invocation = .changeSeat (parseUuid id) place seat (.owner account) account draws.auditId
        request.requestId := by
  obtain ⟨user, admitted, h⟩ := bind_eq_ok.mp h
  cases parsed : parsePassengerPosition position with
  | none =>
      rw [parsed] at h
      cases h
  | some place =>
      rw [parsed] at h
      obtain ⟨seat, valid, h⟩ := bind_eq_ok.mp h
      obtain ⟨account, acts, h⟩ := bind_eq_ok.mp h
      cases h
      refine ⟨account, place, seat, sentBy_of_authorized admitted acts, rfl,
        checked_eq_ok.mp valid, ?_⟩
      rw [(authorized_eq_ok.mp admitted).2]
      rfl

theorem routePayForBooking_ok {id : List Char}
    (h : routePayForBooking gate request draws body id = .ok invocation) :
    ∃ account key input, request.SentBy gate .user account ∧ request.idempotencyKey = some key ∧
      isValidIdempotencyKey key = true ∧ validatePaymentInput body = .ok input ∧
      invocation = .payForBooking (parseUuid id) (.owner account) account
        ⟨String.ofList key,
          String.ofList (requestFingerprint gate.sha256 (input.fingerprinted id)),
          String.ofList input.paymentMethodToken, input.amount⟩
        ⟨draws.paymentId, ⟨draws.auditId, draws.eventId, request.requestId⟩,
          gate.reconcileAfterMs⟩ := by
  obtain ⟨user, admitted, h⟩ := bind_eq_ok.mp h
  cases hasKey : request.idempotencyKey with
  | none =>
      rw [hasKey] at h
      cases h
  | some key =>
      rw [hasKey] at h
      dsimp only at h
      by_cases valid : isValidIdempotencyKey key = true
      · rw [if_neg (not_not.mpr valid)] at h
        obtain ⟨input, accepted, h⟩ := bind_eq_ok.mp h
        obtain ⟨account, acts, h⟩ := bind_eq_ok.mp h
        cases h
        refine ⟨account, key, input, sentBy_of_authorized admitted acts, rfl, valid,
          checked_eq_ok.mp accepted, ?_⟩
        rw [(authorized_eq_ok.mp admitted).2]
        rfl
      · rw [if_pos valid] at h
        cases h

end Routes

/-- What becomes a use case was sent by someone its route is for, and runs for that account. -/
theorem dispatch_for (h : request.dispatch gate draws = .ok invocation) :
    ∃ role account, request.SentBy gate role account ∧ invocation.For account role := by
  unfold ApiRequest.dispatch at h
  cases hasBody : request.body with
  | none =>
      rw [hasBody] at h
      cases h
  | some body =>
  rw [hasBody] at h
  cases isCommand : request.command with
  | createFlight =>
      rw [isCommand] at h
      obtain ⟨account, input, sent, -, rfl⟩ := routeCreateFlight_ok h
      exact ⟨_, _, sent, .createFlight⟩
  | openFlight id =>
      rw [isCommand] at h
      obtain ⟨account, sent, rfl⟩ := routeOpenFlight_ok h
      exact ⟨_, _, sent, .openFlight⟩
  | createBooking flightId =>
      rw [isCommand] at h
      obtain ⟨account, id, input, sent, -, rfl⟩ := routeCreateBooking_ok h
      exact ⟨_, _, sent, .createBooking⟩
  | cancelBooking id =>
      rw [isCommand] at h
      obtain ⟨account, sent, rfl⟩ := routeCancelBooking_ok h
      exact ⟨_, _, sent, .cancelBooking⟩
  | changeSeat id position =>
      rw [isCommand] at h
      obtain ⟨account, place, seat, sent, -, -, rfl⟩ := routeChangeSeat_ok h
      exact ⟨_, _, sent, .changeSeat⟩
  | payForBooking id =>
      rw [isCommand] at h
      obtain ⟨account, key, input, sent, -, -, -, rfl⟩ := routePayForBooking_ok h
      exact ⟨_, _, sent, .payForBooking⟩
  | registerAircraft =>
      rw [isCommand] at h
      obtain ⟨account, aircraft, sent, rfl⟩ := routeRegisterAircraft_ok h
      exact ⟨_, _, sent, .registerAircraft⟩

/-! ### Runs -/

/-- What a request may become; the other invocations are jobs, promises and the provider. -/
def Invocation.IsCommand : Invocation → Prop
  | .registerAircraft .. | .createFlight .. | .openFlight .. | .createBooking ..
  | .cancelBooking .. | .changeSeat .. | .payForBooking .. => True
  | _ => False

/-- Whoever may act for a booking of `owner`, on a user's routes, is `owner`. -/
theorem Invocation.For.owner {role : Role} {id owner : Uuid} (runs : invocation.For account role)
    (acts : invocation.ActsFor id owner) : role = .user ∧ account = owner := by
  cases acts with
  | createBooking =>
      cases runs
      exact ⟨rfl, rfl⟩
  | cancelBooking admits | changeSeat admits | payForBooking admits =>
      cases runs
      exact ⟨rfl, (of_decide_eq_true admits).symm⟩

theorem Invocation.ActsFor.isCommand {id owner : Uuid} (acts : invocation.ActsFor id owner) :
    invocation.IsCommand := by
  cases acts <;> trivial

section Service

variable {airports : Table Airport} {clock : Instant} {steady idempotent : Bool}
  {invocations : Nat → Invocation} {p : Pool app UseCaseResult}

/-- Flights, aircraft and fares change only in a commit that an administrator's command asked
for. -/
theorem flights_for_admin
    (h : (service airports clock steady idempotent invocations).Reachable p) {n : Nat}
    (lt : n < p.world.commits.length) :
    ((p.world.state (n + 1)).flights = (p.world.state n).flights ∧
      (p.world.state (n + 1)).aircraft = (p.world.state n).aircraft ∧
      (p.world.state (n + 1)).fares = (p.world.state n).fares) ∨
    (invocations p.world.commits[n].thread).IsCommand ∧
      ∀ account role, (invocations p.world.commits[n].thread).For account role → role = .admin := by
  have sound := ((service_kept ..).reachable h).good.sound
  obtain ⟨c', ran, log, -⟩ := sound.commits lt
  obtain ⟨trail, -, asked⟩ := asked_of_service h _ (List.getElem_mem lt)
  have change := flightsChange_of_commits sound.framed ran
  have next := p.world.state_succ lt
  rw [← log] at next
  clear ran log
  revert asked change
  generalize p.world.commits[n].tx = x
  generalize invocations p.world.commits[n].thread = invocation
  intro asked change
  cases change with
  | elsewhere aircraft flights fares =>
      left
      rw [next]
      exact ⟨by rw [Changes.apply_flights, flights, Table.putAll_nil],
        by rw [Changes.apply_aircraft, aircraft, Table.putAll_nil],
        by rw [Changes.apply_fares, fares, Table.putAll_nil]⟩
  | registered | created | opened =>
      right
      cases asked
      refine ⟨trivial, fun account role runs => ?_⟩
      cases runs
      rfl

/-- Each command is what the routes made of some request. -/
def Routed (gate : Gate) (invocations : Nat → Invocation) : Prop :=
  ∀ t, (invocations t).IsCommand → ∃ (request : ApiRequest) (draws : Draws),
    request.dispatch gate draws = .ok (invocations t)

/-- A booking changes for a job, or for a request of its owner. -/
theorem booking_changed_by_owner
    (h : (service airports clock steady idempotent invocations).Reachable p)
    (routed : Routed gate invocations) {n : Nat} (lt : n < p.world.commits.length) (id : Uuid) :
    (p.world.state n).SameBooking id (p.world.state (n + 1)) ∨
      (invocations p.world.commits[n].thread).IsJob ∨
      ∃ (request : ApiRequest) (draws : Draws) (b : BookingRow),
        request.dispatch gate draws = .ok (invocations p.world.commits[n].thread) ∧
        (p.world.state (n + 1)).bookings.find? id = some b ∧
        request.SentBy gate .user b.ownerAccountId := by
  rcases changed_for_owner h lt id with same | job | ⟨b, found, acts⟩
  · exact .inl same
  · exact .inr (.inl job)
  · obtain ⟨request, draws, dispatched⟩ := routed _ acts.isCommand
    obtain ⟨role, account, sent, runs⟩ := dispatch_for dispatched
    obtain ⟨rfl, rfl⟩ := runs.owner acts
    exact .inr (.inr ⟨request, draws, b, dispatched, found, sent⟩)

/-- Flights, aircraft and fares change for a request of an administrator. -/
theorem flights_changed_by_admin
    (h : (service airports clock steady idempotent invocations).Reachable p)
    (routed : Routed gate invocations) {n : Nat} (lt : n < p.world.commits.length) :
    ((p.world.state (n + 1)).flights = (p.world.state n).flights ∧
      (p.world.state (n + 1)).aircraft = (p.world.state n).aircraft ∧
      (p.world.state (n + 1)).fares = (p.world.state n).fares) ∨
    ∃ (request : ApiRequest) (draws : Draws) (account : Uuid),
      request.dispatch gate draws = .ok (invocations p.world.commits[n].thread) ∧
      request.SentBy gate .admin account := by
  rcases flights_for_admin h lt with same | ⟨command, admin⟩
  · exact .inl same
  · obtain ⟨request, draws, dispatched⟩ := routed _ command
    obtain ⟨role, account, sent, runs⟩ := dispatch_for dispatched
    exact .inr ⟨request, draws, account, dispatched, admin account role runs ▸ sent⟩

/-- In every run whose commands are requests that the routes let through: a booking, its
passengers, its seats and its payments change only in a commit that a job made, or that was
asked for by a request with a verified token of role `user` and of the booking's own account;
flights, aircraft and fares change only for a verified token of role `admin`. -/
theorem changes_authorized
    (h : (service airports clock steady idempotent invocations).Reachable p)
    (routed : Routed gate invocations) {n : Nat} (lt : n < p.world.commits.length) :
    (∀ id, (p.world.state n).SameBooking id (p.world.state (n + 1)) ∨
      (invocations p.world.commits[n].thread).IsJob ∨
      ∃ (request : ApiRequest) (draws : Draws) (b : BookingRow),
        request.dispatch gate draws = .ok (invocations p.world.commits[n].thread) ∧
        (p.world.state (n + 1)).bookings.find? id = some b ∧
        request.SentBy gate .user b.ownerAccountId) ∧
    ((p.world.state (n + 1)).flights = (p.world.state n).flights ∧
      (p.world.state (n + 1)).aircraft = (p.world.state n).aircraft ∧
      (p.world.state (n + 1)).fares = (p.world.state n).fares ∨
      ∃ (request : ApiRequest) (draws : Draws) (account : Uuid),
        request.dispatch gate draws = .ok (invocations p.world.commits[n].thread) ∧
        request.SentBy gate .admin account) :=
  ⟨fun id => booking_changed_by_owner h routed lt id, flights_changed_by_admin h routed lt⟩

end Service

/-- Upper case of ASCII letters only. -/
def asciiCases : CaseMapping where
  upper c := [c.toUpper]
  some_upper _ := List.cons_ne_nil _ _
  upper_ascii _ _ := rfl

def samplePayload (role : String) (account : Uuid) : Json.Value :=
  .object [("sub".toList, .string (uuidText account)), ("email".toList, .string "a@b".toList),
    ("role".toList, .string role.toList)]

/-- Account 1 is an administrator; 7 and 8 are users. -/
def sampleGate : Gate where
  verify token :=
    if token = "one".toList then .ok (samplePayload "admin" 1)
    else if token = "seven".toList then .ok (samplePayload "user" 7)
    else if token = "eight".toList then .ok (samplePayload "user" 8)
    else .error .invalid
  cases := asciiCases
  sha256 := id
  reconcileAfterMs := 40000

def aircraftBody : Json.Value :=
  .object [("registration".toList, .string "vn-a321".toList), ("model".toList, .string "A321".toList),
    ("seatLayout".toList, .object [("cabins".toList, .array [.object
      [("fareClass".toList, .string "ECONOMY".toList), ("fromRow".toList, .int 1),
        ("toRow".toList, .int 1), ("seatLetters".toList, .string "AB".toList)]])])]

def flightBody : Json.Value :=
  .object [("flightNumber".toList, .string "vn1".toList), ("origin".toList, .string "han".toList),
    ("destination".toList, .string "SGN".toList),
    ("aircraftRegistration".toList, .string " VN-A321".toList),
    ("departureAt".toList, .string "1970-01-12T13:46:40Z".toList),
    ("arrivalAt".toList, .string "1970-01-12T22:46:40+07:00".toList),
    ("fares".toList, .object [("ECONOMY".toList, .int 1500000)])]

def bookingBody : Json.Value :=
  .object [("passengers".toList, .array [.object
    [("name".toList, .string "NGUYEN VAN AN".toList), ("seat".toList, .string "1A".toList)]])]

def requestBy (token : String) (command : Command) (body : Json.Value) : ApiRequest :=
  ⟨command, some ("Bearer " ++ token).toList, none, some body, none⟩

def sampleRequests : Nat → ApiRequest
  | 0 => requestBy "one" .registerAircraft aircraftBody
  | 1 => requestBy "one" .createFlight flightBody
  | 2 => requestBy "one" (.openFlight (uuidText 1)) .null
  | 3 => requestBy "seven" (.createBooking (uuidText 1)) bookingBody
  | 4 => requestBy "eight" (.cancelBooking (uuidText 5)) .null
  | _ => requestBy "seven" (.cancelBooking (uuidText 5)) .null

def sampleDraws (t : Nat) : Draws where
  flightId := 1
  aircraftId := 1
  bookingId := 5
  paymentId := 9
  auditId := t + 1
  refundAuditId := t + 100
  eventId := t + 1
  reference _ _ := ⟨0, by decide⟩
  occurredAt := 0

/-- What a request runs, if it runs anything. -/
def served (gate : Gate) (requests : Nat → ApiRequest) (draws : Nat → Draws) (t : Nat) : Invocation :=
  ((requests t).dispatch gate (draws t)).toOption.getD (.lateCharge 0)

def apiMoves : List (Nat × Move app) :=
  sampleMoves ++ [(4, Move.call (A := app) (.time 0))] ++ Pool.wholly 4 0 3 ++
    [(5, Move.call (A := app) (.time 0))] ++ Pool.wholly 5 0 7

theorem served_routed (gate : Gate) (requests : Nat → ApiRequest) (draws : Nat → Draws) :
    Routed gate (served gate requests draws) := by
  intro t command
  refine ⟨requests t, draws t, ?_⟩
  unfold served at command ⊢
  cases dispatched : (requests t).dispatch gate (draws t) with
  | ok invocation => rfl
  | error e =>
      rw [dispatched] at command
      exact command.elim

/-- Account 8 cannot cancel the booking of account 7, which then does. -/
theorem changes_authorized_sample : ∃ p, Pool.run apiMoves
      (service sampleAirports 0 false false (served sampleGate sampleRequests sampleDraws)) =
        some p ∧
    p.world.commits.map (·.thread) = [0, 1, 1, 1, 1, 2, 2, 3, 4, 5] ∧
    p.world.db.bookings.rows.map (fun b => (b.ownerAccountId, b.status)) = [(7, .cancelled)] ∧
    ∃ lt : 9 < p.world.commits.length,
      ∀ id, (p.world.state 9).SameBooking id (p.world.state 10) ∨
        (served sampleGate sampleRequests sampleDraws p.world.commits[9].thread).IsJob ∨
        ∃ (request : ApiRequest) (draws : Draws) (b : BookingRow),
          request.dispatch sampleGate draws =
            .ok (served sampleGate sampleRequests sampleDraws p.world.commits[9].thread) ∧
          (p.world.state 10).bookings.find? id = some b ∧
          request.SentBy sampleGate .user b.ownerAccountId := by
  have ran : ((Pool.run apiMoves (service sampleAirports 0 false false
      (served sampleGate sampleRequests sampleDraws))).map fun p =>
        (p.world.commits.map (·.thread),
          p.world.db.bookings.rows.map fun b => (b.ownerAccountId, b.status))) =
      some ([0, 1, 1, 1, 1, 2, 2, 3, 4, 5], [(7, .cancelled)]) := by decide +kernel
  obtain ⟨p, ran, found⟩ := Option.map_eq_some_iff.mp ran
  obtain ⟨threads, bookings⟩ := Prod.mk.injEq _ _ _ _ ▸ found
  have ten : p.world.commits.length = 10 := by
    simpa using congrArg List.length threads
  have lt : 9 < p.world.commits.length := by omega
  exact ⟨p, ran, threads, bookings, lt, (changes_authorized (Pool.run_reachable ran)
    (served_routed _ _ _) lt).1⟩

end FlightBooking
