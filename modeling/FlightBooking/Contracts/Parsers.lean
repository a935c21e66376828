import FlightBooking.Contracts.Events
import FlightBooking.Library.Checks

/-!
What the parsers accept: exactly the valid events, whole.

An accepted value gives a valid event (`…_valid`), and the JSON of a valid event, as it
is or out of a `jsonb` column, gives that event (`…_toJson`, `…_jsonb`).
-/

namespace FlightBooking.Contracts

open Json Checks

/-! ### Valid events -/

structure EventMoney.Valid (least : Int) (m : EventMoney) : Prop where
  least : least ≤ m.amount
  safe : -MAX_SAFE_INTEGER ≤ m.amount ∧ m.amount ≤ MAX_SAFE_INTEGER
  currency : m.currency ≠ []

structure EventHeader.Valid (h : EventHeader) : Prop where
  eventId : h.eventId ≠ []
  correlationId : h.correlationId ≠ []
  occurredAt : h.occurredAt ≠ []

/-- Fares as an object lists them. -/
structure FaresValid (fares : List (Text × EventMoney)) : Prop where
  amounts : ∀ fare ∈ fares, fare.2.Valid 1
  names : ∀ fare ∈ fares, fare.1 ≠ "__proto__".toList
  listed : (faresJson fares).entries = fares.map fun fare => (fare.1, fare.2.toJson)

structure CreatedFlight.Valid (f : CreatedFlight) : Prop where
  id : f.id ≠ []
  flightNumber : f.flightNumber ≠ []
  origin : f.origin ≠ []
  destination : f.destination ≠ []
  departureAt : f.departureAt ≠ []
  arrivalAt : f.arrivalAt ≠ []
  currency : f.currency ≠ []
  originAirportId : f.originAirportId ≠ some []
  destinationAirportId : f.destinationAirportId ≠ some []
  aircraftId : f.aircraftId ≠ some []
  status : f.status ≠ some []
  fares : ∀ fares ∈ f.fares, FaresValid fares

structure FlightCreatedEvent.Valid (e : FlightCreatedEvent) : Prop where
  header : e.toEventHeader.Valid
  flight : e.flight.Valid

structure BookingHeldPassenger.Valid (p : BookingHeldPassenger) : Prop where
  name : p.name ≠ []
  seat : p.seat ≠ []
  fareClass : p.fareClass ≠ some []
  price : ∀ price ∈ p.price, price.Valid 0

structure HeldBooking.Valid (b : HeldBooking) : Prop where
  id : b.id ≠ []
  reference : b.reference ≠ []
  flightId : b.flightId ≠ []
  createdAt : b.createdAt ≠ []
  holdExpiresAt : b.holdExpiresAt ≠ []
  some : b.passengers ≠ []
  passengers : ∀ p ∈ b.passengers, p.Valid
  total : ∀ total ∈ b.total, total.Valid 0

structure BookingHeldEvent.Valid (e : BookingHeldEvent) : Prop where
  header : e.toEventHeader.Valid
  booking : e.booking.Valid

structure BookingConfirmedPassenger.Valid (p : BookingConfirmedPassenger) : Prop where
  name : p.name ≠ []
  seat : p.seat ≠ []
  fareClass : p.fareClass ≠ []
  price : p.price.Valid 0

structure ConfirmedBooking.Valid (b : ConfirmedBooking) : Prop where
  id : b.id ≠ []
  reference : b.reference ≠ []
  flightId : b.flightId ≠ []
  some : b.passengers ≠ []
  passengers : ∀ p ∈ b.passengers, p.Valid
  total : b.total.Valid 0

structure ConfirmingPayment.Valid (p : ConfirmingPayment) : Prop where
  id : p.id ≠ []
  amount : p.amount.Valid 0

structure BookingConfirmedEvent.Valid (e : BookingConfirmedEvent) : Prop where
  header : e.toEventHeader.Valid
  booking : e.booking.Valid
  payment : e.payment.Valid

structure CancelledBooking.Valid (b : CancelledBooking) : Prop where
  id : b.id ≠ []
  reference : b.reference ≠ []
  flightId : b.flightId ≠ []
  some : b.seats ≠ []
  seats : ∀ seat ∈ b.seats, seat ≠ []

structure EventRefund.Valid (r : EventRefund) : Prop where
  paymentId : r.paymentId ≠ []
  amount : r.amount.Valid 0

structure BookingCancelledEvent.Valid (e : BookingCancelledEvent) : Prop where
  header : e.toEventHeader.Valid
  booking : e.booking.Valid
  refund : ∀ refund ∈ e.refund, refund.Valid

structure ExpiredBooking.Valid (b : ExpiredBooking) : Prop where
  id : b.id ≠ []
  reference : b.reference ≠ []
  flightId : b.flightId ≠ []
  holdExpiresAt : b.holdExpiresAt ≠ []
  some : b.seats ≠ []
  seats : ∀ seat ∈ b.seats, seat ≠ []

structure BookingExpiredEvent.Valid (e : BookingExpiredEvent) : Prop where
  header : e.toEventHeader.Valid
  booking : e.booking.Valid

/-! ### The checks -/

variable {α β : Type} {v : Value} {o : Option Value} {reason : String} {s : Text} {n : Int}

@[simp] theorem require_eq_ok {x : Option α} {a : α} : require reason x = .ok a ↔ x = some a := by
  cases x <;> simp [require]

@[simp] theorem require_some (a : α) : require reason (some a) = .ok a := rfl

@[simp] theorem ok_bind (a : α) (f : α → Except String β) : (Except.ok a >>= f) = f a := rfl

@[simp] theorem field_jsonb (v : Value) (name : String) :
    field v.jsonb name = (field v name).map Value.jsonb := get?_jsonb v _

theorem isRecord_jsonb (v : Value) : isRecord v.jsonb = isRecord v := by
  cases v <;> rfl

theorem nonEmptyString?_eq : nonEmptyString? o = some s ↔ o = some (.string s) ∧ s ≠ [] := by
  unfold nonEmptyString?
  split
  · rename_i c s'
    constructor
    · intro h
      cases h
      exact ⟨rfl, List.cons_ne_nil c s'⟩
    · rintro ⟨h, -⟩
      cases h
      rfl
  · rename_i other
    constructor
    · intro h
      cases h
    · rintro ⟨rfl, some⟩
      obtain ⟨c, s', rfl⟩ := List.exists_cons_of_ne_nil some
      exact (other c s' rfl).elim

@[simp] theorem nonEmptyString?_string (some : s ≠ []) :
    nonEmptyString? (.some (.string s)) = .some s := nonEmptyString?_eq.mpr ⟨rfl, some⟩

@[simp] theorem nonEmptyString?_jsonb (o : Option Value) :
    nonEmptyString? (o.map Value.jsonb) = nonEmptyString? o := by
  rcases o with _ | v
  · rfl
  · cases v <;> rfl

@[simp] theorem integer?_jsonb (o : Option Value) : integer? (o.map Value.jsonb) = integer? o := by
  rcases o with _ | v
  · rfl
  · cases v <;> rfl

@[simp] theorem nonEmptyArray?_jsonb (o : Option Value) : nonEmptyArray? (o.map Value.jsonb) =
    (nonEmptyArray? o).map fun items => items.map Value.jsonb := by
  rcases o with _ | v
  · rfl
  · cases v with
    | array items => cases items <;> simp [nonEmptyArray?, Value.jsonb, jsonbItems_eq]
    | _ => rfl

@[simp] theorem money?_jsonb (least : Int) (o : Option Value) :
    money? least (o.map Value.jsonb) = money? least o := by
  cases o <;> simp [money?]

theorem whenPresent_jsonb {check : Option Value → Option α}
    (same : ∀ o, check (o.map Value.jsonb) = check o) (o : Option Value) :
    whenPresent reason check (o.map Value.jsonb) = whenPresent reason check o := by
  cases o with
  | none => rfl
  | some v => exact congrArg (fun r => require reason r >>= fun a => pure (some a)) (same (some v))

@[simp] theorem requireText_jsonb (path key : String) (v : Value) :
    requireText path key v.jsonb = requireText path key v := by
  simp [requireText]

theorem bind_record_jsonb {f : Value → Except String α} (same : ∀ v, f v.jsonb = f v)
    (o : Option Value) :
    (requireRecord reason (o.map Value.jsonb) >>= f) = (requireRecord reason o >>= f) := by
  cases o with
  | none => rfl
  | some v =>
      rw [Option.map_some, requireRecord, requireRecord, Option.filter_some, Option.filter_some,
        isRecord_jsonb]
      cases isRecord v with
      | false => rfl
      | true => exact same v

theorem parseEach_jsonb {parseItem : Nat → Value → Except String α}
    (same : ∀ i v, parseItem i v.jsonb = parseItem i v) (i : Nat) (items : List Value) :
    parseEach parseItem i (items.map Value.jsonb) = parseEach parseItem i items := by
  induction items generalizing i with
  | nil => rfl
  | cons item items ih => rw [List.map_cons, parseEach, parseEach, same, ih]

theorem requirePassengers_jsonb {parsePassenger : Nat → Value → Except String α}
    (same : ∀ i v, parsePassenger i v.jsonb = parsePassenger i v) (v : Value) :
    requirePassengers parsePassenger v.jsonb = requirePassengers parsePassenger v := by
  rw [requirePassengers, requirePassengers, field_jsonb, nonEmptyArray?_jsonb]
  cases nonEmptyArray? (field v "passengers") with
  | none => rfl
  | some items => exact parseEach_jsonb same 0 items

theorem requireSeats_jsonb (v : Value) : requireSeats v.jsonb = requireSeats v := by
  rw [requireSeats, requireSeats, field_jsonb, nonEmptyArray?_jsonb]
  cases nonEmptyArray? (field v "seats") with
  | none => rfl
  | some items =>
      have same : (fun seat => nonEmptyString? (some seat)) ∘ Value.jsonb =
          fun seat => nonEmptyString? (some seat) := funext fun seat =>
        nonEmptyString?_jsonb (some seat)
      simp only [Option.map_some, Option.bind_some, List.mapM_map, same]

theorem parseHeader_jsonb (type : String) (v : Value) :
    parseHeader type v.jsonb = parseHeader type v := by
  refine (bind_record_jsonb (o := some v) fun record => ?_)
  simp only [field_jsonb, nonEmptyString?_jsonb, requireText_jsonb]

/-! #### What is written is read -/

theorem field_snoc (members : List Member) (key name : String) (v : Value) :
    field (.object (members ++ [member key v])) name =
      if key = name then some v else field (.object members) name := by
  rw [field, get?_append, member]
  simp only [String.toList_inj, field]

theorem field_present (members : List Member) (key name : String) (o : Option Value) :
    field (.object (members ++ present key o)) name =
      if key = name then o.or (field (.object members) name) else field (.object members) name := by
  cases o with
  | none => simp [present]
  | some v => exact field_snoc ..

theorem requireRecord_some (isObject : isRecord v = true) : requireRecord reason (some v) = .ok v := by
  rw [requireRecord, Option.filter_some, if_pos isObject, require_some]

theorem requireText_some {path key : String} (found : field v key = some (.string s))
    (some : s ≠ []) : requireText path key v = .ok s := by
  rw [requireText, found, nonEmptyString?_string some, require_some]

theorem money?_toJson {least : Int} {m : EventMoney} (valid : m.Valid least) :
    money? least (some m.toJson) = some m := by
  have amount : integer? (field m.toJson "amount") = some m.amount := rfl
  have currency : nonEmptyString? (field m.toJson "currency") = some m.currency :=
    nonEmptyString?_string valid.currency
  simp only [money?, Option.bind_eq_bind, Option.bind_some, amount, currency]
  exact if_pos ⟨valid.least, valid.safe⟩

theorem whenPresent_map {check : Option Value → Option α} {f : α → Value} {o : Option α}
    (passes : ∀ a ∈ o, check (some (f a)) = some a) :
    whenPresent reason check (o.map f) = .ok o := by
  cases o with
  | none => rfl
  | some a => rw [Option.map_some, whenPresent, passes a rfl]; rfl

theorem whenPresent_string {o : Option Text} (valid : o ≠ some []) :
    whenPresent reason nonEmptyString? (o.map .string) = .ok o :=
  whenPresent_map fun _ mem => nonEmptyString?_string fun empty => valid (empty ▸ mem)

theorem parseEach_map {parseItem : Nat → Value → Except String α} {f : α → Value} {items : List α}
    (reads : ∀ i, ∀ item ∈ items, parseItem i (f item) = .ok item) (i : Nat) :
    parseEach parseItem i (items.map f) = .ok items := by
  induction items generalizing i with
  | nil => rfl
  | cons item items ih =>
      rw [List.map_cons, parseEach, reads i item List.mem_cons_self,
        ih fun j item mem => reads j item (.tail _ mem)]
      rfl

theorem requirePassengers_map {parsePassenger : Nat → Value → Except String α} {f : α → Value}
    {items : List α} (found : field v "passengers" = some (.array (items.map f)))
    (some : items ≠ []) (reads : ∀ i, ∀ item ∈ items, parsePassenger i (f item) = .ok item) :
    requirePassengers parsePassenger v = .ok items := by
  obtain ⟨item, rest, rfl⟩ := List.exists_cons_of_ne_nil some
  rw [requirePassengers, found]
  exact parseEach_map reads 0

theorem mapM_strings {texts : List Text} (valid : ∀ s ∈ texts, s ≠ []) :
    (texts.map Value.string).mapM (fun v => nonEmptyString? (some v)) = some texts := by
  induction texts with
  | nil => rfl
  | cons s texts ih =>
      rw [List.map_cons, List.mapM_cons, nonEmptyString?_string (valid s List.mem_cons_self),
        ih fun s mem => valid s (.tail _ mem)]
      rfl

theorem requireSeats_map {seats : List Text}
    (found : field v "seats" = some (.array (seats.map .string))) (some : seats ≠ [])
    (valid : ∀ seat ∈ seats, seat ≠ []) : requireSeats v = .ok seats := by
  have texts := mapM_strings valid
  obtain ⟨seat, rest, rfl⟩ := List.exists_cons_of_ne_nil some
  rw [requireSeats, found]
  exact congrArg _ texts

theorem parseHeader_fields {type : String} {h : EventHeader} (isObject : isRecord v = true)
    (named : type.toList ≠ []) (typed : field v "type" = some (.string type.toList))
    (eventId : field v "eventId" = some (.string h.eventId))
    (correlationId : field v "correlationId" = some (.string h.correlationId))
    (occurredAt : field v "occurredAt" = some (.string h.occurredAt)) (valid : h.Valid) :
    parseHeader type v = .ok h := by
  have record : requireRecord "payload must be an object" (some v) = .ok v :=
    requireRecord_some isObject
  have type : (nonEmptyString? (field v "type")).filter (· = type.toList) = some type.toList := by
    rw [typed, nonEmptyString?_string named]
    simp
  rw [parseHeader, record]
  simp only [ok_bind, type, require_some, requireText_some eventId valid.eventId,
    requireText_some correlationId valid.correlationId, requireText_some occurredAt valid.occurredAt]
  rfl

/-! #### What is read is valid -/

theorem requireText_ok {path key : String} (h : requireText path key v = .ok s) : s ≠ [] :=
  (nonEmptyString?_eq.mp (require_eq_ok.mp h)).2

theorem money?_valid {least : Int} {m : EventMoney} (h : money? least o = some m) :
    m.Valid least := by
  obtain ⟨v, -, h⟩ := Option.bind_eq_some_iff.mp h
  obtain ⟨amount, -, h⟩ := Option.bind_eq_some_iff.mp h
  obtain ⟨v', -, h⟩ := Option.bind_eq_some_iff.mp h
  obtain ⟨currency, named, h⟩ := Option.bind_eq_some_iff.mp h
  split at h
  · rename_i bounds
    cases h
    exact ⟨bounds.1, bounds.2, (nonEmptyString?_eq.mp named).2⟩
  · cases h

theorem whenPresent_ok {check : Option Value → Option α} {r : Option α}
    (h : whenPresent reason check o = .ok r) : ∀ a ∈ r, ∃ v, check v = some a := by
  cases o with
  | none =>
      cases h
      intro a mem
      cases mem
  | some v =>
      obtain ⟨a, read, h⟩ := bind_eq_ok.mp h
      cases h
      intro a' mem
      cases mem
      exact ⟨_, require_eq_ok.mp read⟩

theorem whenPresent_text {r : Option Text} (h : whenPresent reason nonEmptyString? o = .ok r) :
    r ≠ some [] := by
  rintro rfl
  obtain ⟨v, read⟩ := whenPresent_ok h _ rfl
  exact (nonEmptyString?_eq.mp read).2 rfl

theorem parseEach_ok {parseItem : Nat → Value → Except String α} {i : Nat} {items : List Value}
    {parsed : List α} (h : parseEach parseItem i items = .ok parsed) :
    parsed.length = items.length ∧ ∀ a ∈ parsed, ∃ j v, parseItem j v = .ok a := by
  induction items generalizing i parsed with
  | nil =>
      cases h
      exact ⟨rfl, by simp⟩
  | cons item items ih =>
      obtain ⟨first, read, h⟩ := bind_eq_ok.mp h
      obtain ⟨rest, reads, h⟩ := bind_eq_ok.mp h
      cases h
      obtain ⟨length, each⟩ := ih reads
      refine ⟨congrArg (· + 1) length, ?_⟩
      intro a mem
      rcases List.mem_cons.mp mem with rfl | mem
      · exact ⟨i, item, read⟩
      · exact each a mem

theorem nonEmptyArray?_ne : nonEmptyArray? o ≠ some [] := by
  unfold nonEmptyArray?
  split <;> simp

theorem requirePassengers_ok {parsePassenger : Nat → Value → Except String α} {parsed : List α}
    (h : requirePassengers parsePassenger v = .ok parsed) :
    parsed ≠ [] ∧ ∀ a ∈ parsed, ∃ i v, parsePassenger i v = .ok a := by
  obtain ⟨items, read, h⟩ := bind_eq_ok.mp h
  obtain ⟨length, each⟩ := parseEach_ok h
  refine ⟨?_, each⟩
  rintro rfl
  rw [List.length_eq_zero_iff.mp length.symm] at read
  exact nonEmptyArray?_ne (require_eq_ok.mp read)

theorem mapM_texts {items : List Value} {texts : List Text}
    (h : items.mapM (fun v => nonEmptyString? (some v)) = some texts) :
    texts.length = items.length ∧ ∀ s ∈ texts, s ≠ [] := by
  induction items generalizing texts with
  | nil =>
      cases h
      exact ⟨rfl, by simp⟩
  | cons item items ih =>
      rw [List.mapM_cons] at h
      obtain ⟨s, read, h⟩ := Option.bind_eq_some_iff.mp h
      obtain ⟨rest, reads, h⟩ := Option.bind_eq_some_iff.mp h
      cases h
      obtain ⟨length, each⟩ := ih reads
      refine ⟨congrArg (· + 1) length, ?_⟩
      intro s' mem
      rcases List.mem_cons.mp mem with rfl | mem
      · exact (nonEmptyString?_eq.mp read).2
      · exact each s' mem

theorem requireSeats_ok {seats : List Text} (h : requireSeats v = .ok seats) :
    seats ≠ [] ∧ ∀ seat ∈ seats, seat ≠ [] := by
  obtain ⟨items, read, reads⟩ := Option.bind_eq_some_iff.mp (require_eq_ok.mp h)
  obtain ⟨length, each⟩ := mapM_texts reads
  refine ⟨?_, each⟩
  rintro rfl
  rw [List.length_eq_zero_iff.mp length.symm] at read
  exact nonEmptyArray?_ne read

theorem parseHeader_ok {type : String} {h : EventHeader} (ok : parseHeader type v = .ok h) :
    h.Valid := by
  obtain ⟨_, -, ok⟩ := bind_eq_ok.mp ok
  obtain ⟨_, -, ok⟩ := bind_eq_ok.mp ok
  obtain ⟨eventId, first, ok⟩ := bind_eq_ok.mp ok
  obtain ⟨correlationId, second, ok⟩ := bind_eq_ok.mp ok
  obtain ⟨occurredAt, third, ok⟩ := bind_eq_ok.mp ok
  cases ok
  exact ⟨requireText_ok first, requireText_ok second, requireText_ok third⟩

/-! ### `booking.held` -/

theorem parseHeldPassenger_jsonb (i : Nat) (v : Value) :
    parseHeldPassenger i v.jsonb = parseHeldPassenger i v := by
  simp only [parseHeldPassenger, field_jsonb, nonEmptyString?_jsonb,
    whenPresent_jsonb nonEmptyString?_jsonb, whenPresent_jsonb (money?_jsonb 0)]

theorem parseHeldBooking_jsonb (v : Value) : parseHeldBooking v.jsonb = parseHeldBooking v := by
  simp only [parseHeldBooking, requireText_jsonb, requirePassengers_jsonb parseHeldPassenger_jsonb,
    field_jsonb, whenPresent_jsonb (money?_jsonb 0)]

theorem parseBookingHeldEvent_jsonb (v : Value) :
    parseBookingHeldEvent v.jsonb = parseBookingHeldEvent v := by
  rw [parseBookingHeldEvent, parseHeader_jsonb, field_jsonb]
  refine congrArg (_ >>= ·) (funext fun header => bind_record_jsonb (fun booking => ?_) _)
  rw [parseHeldBooking_jsonb]

theorem parseHeldPassenger_toJson (i : Nat) {p : BookingHeldPassenger} (valid : p.Valid) :
    parseHeldPassenger i p.toJson = .ok p := by
  have name : field p.toJson "name" = some (.string p.name) := by
    rw [BookingHeldPassenger.toJson, field_present, field_present]
    rfl
  have seat : field p.toJson "seat" = some (.string p.seat) := by
    rw [BookingHeldPassenger.toJson, field_present, field_present]
    rfl
  have fareClass : field p.toJson "fareClass" = p.fareClass.map .string := by
    rw [BookingHeldPassenger.toJson, field_present, field_present]
    exact Option.or_none
  have price : field p.toJson "price" = p.price.map (·.toJson) := by
    rw [BookingHeldPassenger.toJson, field_present, field_present]
    exact Option.or_none
  rw [parseHeldPassenger, name, seat, fareClass, price, nonEmptyString?_string valid.name,
    nonEmptyString?_string valid.seat, whenPresent_string valid.fareClass,
    whenPresent_map fun price mem => money?_toJson (valid.price price mem)]
  rfl

theorem parseHeldBooking_toJson {b : HeldBooking} (valid : b.Valid) :
    parseHeldBooking b.toJson = .ok b := by
  have total : field b.toJson "total" = b.total.map (·.toJson) := by
    rw [HeldBooking.toJson, field_present]
    exact Option.or_none
  have others : ∀ key v, ¬ "total" = key → field (.object
      [member "id" (.string b.id), member "reference" (.string b.reference),
        member "flightId" (.string b.flightId), member "createdAt" (.string b.createdAt),
        member "holdExpiresAt" (.string b.holdExpiresAt),
        member "passengers" (.array (b.passengers.map (·.toJson)))]) key = some v →
      field b.toJson key = some v := by
    intro key v other found
    rw [HeldBooking.toJson, field_present, if_neg other, found]
  rw [parseHeldBooking, requireText_some (others _ _ (by decide) rfl) valid.id,
    requireText_some (others _ _ (by decide) rfl) valid.reference,
    requireText_some (others _ _ (by decide) rfl) valid.flightId,
    requireText_some (others _ _ (by decide) rfl) valid.createdAt,
    requireText_some (others _ _ (by decide) rfl) valid.holdExpiresAt,
    requirePassengers_map (others _ _ (by decide) rfl) valid.some fun i p mem =>
      parseHeldPassenger_toJson i (valid.passengers p mem),
    total, whenPresent_map fun total mem => money?_toJson (valid.total total mem)]
  rfl

theorem parseBookingHeldEvent_toJson {e : BookingHeldEvent} (valid : e.Valid) :
    parseBookingHeldEvent e.toJson = .ok e := by
  have booking : field e.toJson "booking" = some e.booking.toJson := rfl
  rw [parseBookingHeldEvent, parseHeader_fields rfl (by decide) rfl rfl rfl rfl valid.header,
    booking, requireRecord_some rfl]
  simp only [ok_bind, parseHeldBooking_toJson valid.booking]
  rfl

theorem parseHeldPassenger_ok {i : Nat} {p : BookingHeldPassenger}
    (h : parseHeldPassenger i v = .ok p) : p.Valid := by
  obtain ⟨⟨name, seat⟩, named, h⟩ := bind_eq_ok.mp h
  obtain ⟨fareClass, fared, h⟩ := bind_eq_ok.mp h
  obtain ⟨price, priced, h⟩ := bind_eq_ok.mp h
  cases h
  obtain ⟨_, first, named⟩ := Option.bind_eq_some_iff.mp (require_eq_ok.mp named)
  obtain ⟨_, second, named⟩ := Option.bind_eq_some_iff.mp named
  cases named
  refine ⟨(nonEmptyString?_eq.mp first).2, (nonEmptyString?_eq.mp second).2, whenPresent_text fared,
    fun price mem => ?_⟩
  obtain ⟨_, read⟩ := whenPresent_ok priced price mem
  exact money?_valid read

theorem parseBookingHeldEvent_ok {e : BookingHeldEvent} (h : parseBookingHeldEvent v = .ok e) :
    e.Valid := by
  obtain ⟨header, first, h⟩ := bind_eq_ok.mp h
  obtain ⟨_, -, h⟩ := bind_eq_ok.mp h
  obtain ⟨booking, second, h⟩ := bind_eq_ok.mp h
  cases h
  refine ⟨parseHeader_ok first, ?_⟩
  obtain ⟨id, idRead, second⟩ := bind_eq_ok.mp second
  obtain ⟨reference, referenceRead, second⟩ := bind_eq_ok.mp second
  obtain ⟨flightId, flightRead, second⟩ := bind_eq_ok.mp second
  obtain ⟨createdAt, createdRead, second⟩ := bind_eq_ok.mp second
  obtain ⟨holdExpiresAt, expiresRead, second⟩ := bind_eq_ok.mp second
  obtain ⟨passengers, passengersRead, second⟩ := bind_eq_ok.mp second
  obtain ⟨total, totalRead, second⟩ := bind_eq_ok.mp second
  cases second
  obtain ⟨some, each⟩ := requirePassengers_ok passengersRead
  refine ⟨requireText_ok idRead, requireText_ok referenceRead, requireText_ok flightRead,
    requireText_ok createdRead, requireText_ok expiresRead, some, fun p mem => ?_,
    fun total mem => ?_⟩
  · obtain ⟨i, v, read⟩ := each p mem
    exact parseHeldPassenger_ok read
  · obtain ⟨_, read⟩ := whenPresent_ok totalRead total mem
    exact money?_valid read

/-! ### `booking.confirmed` -/

theorem parseConfirmedPassenger_jsonb (i : Nat) (v : Value) :
    parseConfirmedPassenger i v.jsonb = parseConfirmedPassenger i v := by
  simp only [parseConfirmedPassenger, field_jsonb, nonEmptyString?_jsonb, money?_jsonb]

theorem parseBookingConfirmedEvent_jsonb (v : Value) :
    parseBookingConfirmedEvent v.jsonb = parseBookingConfirmedEvent v := by
  have booking : ∀ v, parseConfirmedBooking v.jsonb = parseConfirmedBooking v := by
    intro v
    simp only [parseConfirmedBooking, requireText_jsonb,
      requirePassengers_jsonb parseConfirmedPassenger_jsonb, field_jsonb, money?_jsonb]
  have payment : ∀ v, parseConfirmingPayment v.jsonb = parseConfirmingPayment v := by
    intro v
    simp only [parseConfirmingPayment, requireText_jsonb, field_jsonb, money?_jsonb]
  rw [parseBookingConfirmedEvent, parseHeader_jsonb, field_jsonb, field_jsonb]
  refine congrArg (_ >>= ·) (funext fun header => (bind_record_jsonb (fun b => ?_) _).trans ?_)
  · rw [booking]
  · refine congrArg (_ >>= ·) (funext fun _ => congrArg (_ >>= ·) (funext fun _ => ?_))
    refine bind_record_jsonb (fun p => ?_) _
    rw [payment]

theorem parseConfirmedPassenger_toJson (i : Nat) {p : BookingConfirmedPassenger} (valid : p.Valid) :
    parseConfirmedPassenger i p.toJson = .ok p := by
  have name : field p.toJson "name" = some (.string p.name) := rfl
  have seat : field p.toJson "seat" = some (.string p.seat) := rfl
  have fareClass : field p.toJson "fareClass" = some (.string p.fareClass) := rfl
  have price : field p.toJson "price" = some p.price.toJson := rfl
  rw [parseConfirmedPassenger, name, seat, fareClass, price, nonEmptyString?_string valid.name,
    nonEmptyString?_string valid.seat, nonEmptyString?_string valid.fareClass,
    money?_toJson valid.price]
  rfl

theorem parseBookingConfirmedEvent_toJson {e : BookingConfirmedEvent} (valid : e.Valid) :
    parseBookingConfirmedEvent e.toJson = .ok e := by
  have booking : parseConfirmedBooking e.booking.toJson = .ok e.booking := by
    have total : field e.booking.toJson "total" = some e.booking.total.toJson := rfl
    rw [parseConfirmedBooking, requireText_some rfl valid.booking.id,
      requireText_some rfl valid.booking.reference, requireText_some rfl valid.booking.flightId,
      requirePassengers_map rfl valid.booking.some fun i p mem =>
        parseConfirmedPassenger_toJson i (valid.booking.passengers p mem),
      total, money?_toJson valid.booking.total]
    rfl
  have payment : parseConfirmingPayment e.payment.toJson = .ok e.payment := by
    have amount : field e.payment.toJson "amount" = some e.payment.amount.toJson := rfl
    rw [parseConfirmingPayment, requireText_some rfl valid.payment.id, amount,
      money?_toJson valid.payment.amount]
    rfl
  have bookingAt : field e.toJson "booking" = some e.booking.toJson := rfl
  have paymentAt : field e.toJson "payment" = some e.payment.toJson := rfl
  rw [parseBookingConfirmedEvent, parseHeader_fields rfl (by decide) rfl rfl rfl rfl valid.header,
    bookingAt, paymentAt, requireRecord_some rfl, requireRecord_some rfl]
  simp only [ok_bind, booking, payment]
  rfl

theorem parseConfirmedPassenger_ok {i : Nat} {p : BookingConfirmedPassenger}
    (h : parseConfirmedPassenger i v = .ok p) : p.Valid := by
  obtain ⟨_, name, h⟩ := Option.bind_eq_some_iff.mp (require_eq_ok.mp h)
  obtain ⟨_, seat, h⟩ := Option.bind_eq_some_iff.mp h
  obtain ⟨_, fareClass, h⟩ := Option.bind_eq_some_iff.mp h
  obtain ⟨_, price, h⟩ := Option.bind_eq_some_iff.mp h
  cases h
  exact ⟨(nonEmptyString?_eq.mp name).2, (nonEmptyString?_eq.mp seat).2,
    (nonEmptyString?_eq.mp fareClass).2, money?_valid price⟩

theorem parseBookingConfirmedEvent_ok {e : BookingConfirmedEvent}
    (h : parseBookingConfirmedEvent v = .ok e) : e.Valid := by
  obtain ⟨header, first, h⟩ := bind_eq_ok.mp h
  obtain ⟨_, -, h⟩ := bind_eq_ok.mp h
  obtain ⟨booking, second, h⟩ := bind_eq_ok.mp h
  obtain ⟨_, -, h⟩ := bind_eq_ok.mp h
  obtain ⟨payment, third, h⟩ := bind_eq_ok.mp h
  cases h
  refine ⟨parseHeader_ok first, ?_, ?_⟩
  · obtain ⟨id, idRead, second⟩ := bind_eq_ok.mp second
    obtain ⟨reference, referenceRead, second⟩ := bind_eq_ok.mp second
    obtain ⟨flightId, flightRead, second⟩ := bind_eq_ok.mp second
    obtain ⟨passengers, passengersRead, second⟩ := bind_eq_ok.mp second
    obtain ⟨total, totalRead, second⟩ := bind_eq_ok.mp second
    cases second
    obtain ⟨some, each⟩ := requirePassengers_ok passengersRead
    refine ⟨requireText_ok idRead, requireText_ok referenceRead, requireText_ok flightRead, some,
      fun p mem => ?_, money?_valid (require_eq_ok.mp totalRead)⟩
    obtain ⟨i, v, read⟩ := each p mem
    exact parseConfirmedPassenger_ok read
  · obtain ⟨id, idRead, third⟩ := bind_eq_ok.mp third
    obtain ⟨amount, amountRead, third⟩ := bind_eq_ok.mp third
    cases third
    exact ⟨requireText_ok idRead, money?_valid (require_eq_ok.mp amountRead)⟩

/-! ### `booking.cancelled` -/

theorem parseRefund_jsonb (v : Value) : parseRefund v.jsonb = parseRefund v := by
  have same : ∀ raw, parseStartedRefund raw.jsonb = parseStartedRefund raw := by
    intro raw
    simp only [parseStartedRefund, field_jsonb, nonEmptyString?_jsonb, money?_jsonb]
  rw [parseRefund, parseRefund, field_jsonb]
  rcases field v "refund" with _ | raw
  · rfl
  · cases raw with
    | null => rfl
    | bool | int | fraction | string | array | object =>
        exact congrArg (· >>= fun r => pure (some r)) (same _)

theorem parseBookingCancelledEvent_jsonb (v : Value) :
    parseBookingCancelledEvent v.jsonb = parseBookingCancelledEvent v := by
  have booking : ∀ v, parseCancelledBooking v.jsonb = parseCancelledBooking v := by
    intro v
    simp only [parseCancelledBooking, requireText_jsonb, requireSeats_jsonb]
  rw [parseBookingCancelledEvent, parseHeader_jsonb, field_jsonb, parseRefund_jsonb]
  refine congrArg (_ >>= ·) (funext fun header => bind_record_jsonb (fun b => ?_) _)
  rw [booking]

theorem parseRefund_some {refund : EventRefund}
    (found : field v "refund" = some refund.toJson) (valid : refund.Valid) :
    parseRefund v = .ok (some refund) := by
  have paymentId : field refund.toJson "paymentId" = some (.string refund.paymentId) := rfl
  have amount : field refund.toJson "amount" = some refund.amount.toJson := rfl
  have read : parseStartedRefund refund.toJson = .ok refund := by
    rw [parseStartedRefund, paymentId, amount, nonEmptyString?_string valid.paymentId,
      money?_toJson valid.amount]
    rfl
  rw [parseRefund, found]
  exact congrArg (· >>= fun r => pure (some r)) read

theorem parseBookingCancelledEvent_toJson {e : BookingCancelledEvent} (valid : e.Valid) :
    parseBookingCancelledEvent e.toJson = .ok e := by
  have booking : parseCancelledBooking e.booking.toJson = .ok e.booking := by
    rw [parseCancelledBooking, requireText_some rfl valid.booking.id,
      requireText_some rfl valid.booking.reference, requireText_some rfl valid.booking.flightId,
      requireSeats_map rfl valid.booking.some valid.booking.seats]
    rfl
  have refund : parseRefund e.toJson = .ok e.refund := by
    cases refund : e.refund with
    | none =>
        have found : field e.toJson "refund" = some .null := by
          rw [BookingCancelledEvent.toJson, refund]
          rfl
        rw [parseRefund, found]
    | some r =>
        refine parseRefund_some ?_ (valid.refund r refund)
        rw [BookingCancelledEvent.toJson, refund]
        rfl
  have bookingAt : field e.toJson "booking" = some e.booking.toJson := rfl
  rw [parseBookingCancelledEvent, parseHeader_fields rfl (by decide) rfl rfl rfl rfl valid.header,
    bookingAt, requireRecord_some rfl]
  simp only [ok_bind, booking, refund]
  rfl

theorem parseRefund_ok {refund : Option EventRefund} (h : parseRefund v = .ok refund) :
    ∀ r ∈ refund, r.Valid := by
  unfold parseRefund at h
  split at h
  · cases h
  · cases h
    intro r mem
    cases mem
  · obtain ⟨r, read, h⟩ := bind_eq_ok.mp h
    cases h
    obtain ⟨_, paymentId, read⟩ := Option.bind_eq_some_iff.mp (require_eq_ok.mp read)
    obtain ⟨_, amount, read⟩ := Option.bind_eq_some_iff.mp read
    cases read
    intro r' mem
    cases mem
    exact ⟨(nonEmptyString?_eq.mp paymentId).2, money?_valid amount⟩

theorem parseBookingCancelledEvent_ok {e : BookingCancelledEvent}
    (h : parseBookingCancelledEvent v = .ok e) : e.Valid := by
  obtain ⟨header, first, h⟩ := bind_eq_ok.mp h
  obtain ⟨_, -, h⟩ := bind_eq_ok.mp h
  obtain ⟨booking, second, h⟩ := bind_eq_ok.mp h
  obtain ⟨refund, third, h⟩ := bind_eq_ok.mp h
  cases h
  refine ⟨parseHeader_ok first, ?_, parseRefund_ok third⟩
  obtain ⟨id, idRead, second⟩ := bind_eq_ok.mp second
  obtain ⟨reference, referenceRead, second⟩ := bind_eq_ok.mp second
  obtain ⟨flightId, flightRead, second⟩ := bind_eq_ok.mp second
  obtain ⟨seats, seatsRead, second⟩ := bind_eq_ok.mp second
  cases second
  obtain ⟨some, each⟩ := requireSeats_ok seatsRead
  exact ⟨requireText_ok idRead, requireText_ok referenceRead, requireText_ok flightRead, some, each⟩

/-! ### `booking.expired` -/

theorem parseBookingExpiredEvent_jsonb (v : Value) :
    parseBookingExpiredEvent v.jsonb = parseBookingExpiredEvent v := by
  have booking : ∀ v, parseExpiredBooking v.jsonb = parseExpiredBooking v := by
    intro v
    simp only [parseExpiredBooking, requireText_jsonb, requireSeats_jsonb]
  rw [parseBookingExpiredEvent, parseHeader_jsonb, field_jsonb]
  refine congrArg (_ >>= ·) (funext fun header => bind_record_jsonb (fun b => ?_) _)
  rw [booking]

theorem parseBookingExpiredEvent_toJson {e : BookingExpiredEvent} (valid : e.Valid) :
    parseBookingExpiredEvent e.toJson = .ok e := by
  have booking : parseExpiredBooking e.booking.toJson = .ok e.booking := by
    rw [parseExpiredBooking, requireText_some rfl valid.booking.id,
      requireText_some rfl valid.booking.reference, requireText_some rfl valid.booking.flightId,
      requireText_some rfl valid.booking.holdExpiresAt,
      requireSeats_map rfl valid.booking.some valid.booking.seats]
    rfl
  have bookingAt : field e.toJson "booking" = some e.booking.toJson := rfl
  rw [parseBookingExpiredEvent, parseHeader_fields rfl (by decide) rfl rfl rfl rfl valid.header,
    bookingAt, requireRecord_some rfl]
  simp only [ok_bind, booking]
  rfl

theorem parseBookingExpiredEvent_ok {e : BookingExpiredEvent}
    (h : parseBookingExpiredEvent v = .ok e) : e.Valid := by
  obtain ⟨header, first, h⟩ := bind_eq_ok.mp h
  obtain ⟨_, -, h⟩ := bind_eq_ok.mp h
  obtain ⟨booking, second, h⟩ := bind_eq_ok.mp h
  cases h
  refine ⟨parseHeader_ok first, ?_⟩
  obtain ⟨id, idRead, second⟩ := bind_eq_ok.mp second
  obtain ⟨reference, referenceRead, second⟩ := bind_eq_ok.mp second
  obtain ⟨flightId, flightRead, second⟩ := bind_eq_ok.mp second
  obtain ⟨holdExpiresAt, expiresRead, second⟩ := bind_eq_ok.mp second
  obtain ⟨seats, seatsRead, second⟩ := bind_eq_ok.mp second
  cases second
  obtain ⟨some, each⟩ := requireSeats_ok seatsRead
  exact ⟨requireText_ok idRead, requireText_ok referenceRead, requireText_ok flightRead,
    requireText_ok expiresRead, some, each⟩

/-! ### `flight.created` -/

theorem names_faresJson (fares : List (Text × EventMoney)) :
    (fares.map fun fare => (fare.1, fare.2.toJson)).map (·.1) = fares.map (·.1) := by
  rw [List.map_map]
  rfl

theorem parseFareEntries_ok {entries : List Member} {fares : List (Text × EventMoney)}
    (h : parseFareEntries entries = .ok fares) :
    (∀ fare ∈ fares, fare.2.Valid 1 ∧ fare.1 ≠ "__proto__".toList) ∧
      (fares.map (·.1)).Sublist (entries.map (·.1)) := by
  induction entries generalizing fares with
  | nil =>
      cases h
      exact ⟨by simp, List.nil_sublist _⟩
  | cons entry entries ih =>
      obtain ⟨price, priced, h⟩ := bind_eq_ok.mp h
      obtain ⟨rest, read, h⟩ := bind_eq_ok.mp h
      obtain ⟨valid, sub⟩ := ih read
      cases h
      split
      · exact ⟨valid, sub.trans (List.sublist_cons_self _ _)⟩
      · rename_i named
        refine ⟨?_, sub.cons_cons _⟩
        intro fare mem
        rcases List.mem_cons.mp mem with rfl | mem
        · exact ⟨money?_valid (require_eq_ok.mp priced), named⟩
        · exact valid fare mem

theorem optionalFares_ok {fares : Option (List (Text × EventMoney))}
    (h : optionalFares v = .ok fares) : ∀ f ∈ fares, FaresValid f := by
  unfold optionalFares at h
  split at h
  · cases h
    intro f mem
    cases mem
  · rename_i raw _
    obtain ⟨f, read, h⟩ := bind_eq_ok.mp h
    cases h
    intro f' mem
    cases mem
    cases raw with
    | object members =>
        obtain ⟨valid, sub⟩ := parseFareEntries_ok read
        refine ⟨fun fare mem => (valid fare mem).1, fun fare mem => (valid fare mem).2, ?_⟩
        rw [← names_faresJson] at sub
        exact entries_eq ((entries_nodup members).sublist sub) ((entries_sorted members).sublist sub)
    | null | bool | int | fraction | string | array => cases read

theorem parseFares_faresJson {fares : List (Text × EventMoney)} (valid : FaresValid fares) :
    parseFares (faresJson fares) = .ok fares := by
  have read : ∀ f : List (Text × EventMoney), (∀ fare ∈ f, fare ∈ fares) →
      parseFareEntries (f.map fun fare => (fare.1, fare.2.toJson)) = .ok f := by
    intro f all
    induction f with
    | nil => rfl
    | cons fare f ih =>
        have mem := all fare List.mem_cons_self
        rw [List.map_cons, parseFareEntries, money?_toJson (valid.amounts fare mem), require_some,
          ok_bind, ih fun fare mem => all fare (.tail _ mem), ok_bind,
          if_neg (valid.names fare mem)]
        rfl
  have listed := valid.listed
  rw [faresJson] at listed ⊢
  rw [parseFares, listed]
  exact read fares fun _ mem => mem

theorem parseCreatedFlight_jsonb (same : optionalFares v.jsonb = optionalFares v) :
    parseCreatedFlight v.jsonb = parseCreatedFlight v := by
  simp only [parseCreatedFlight, requireText_jsonb, field_jsonb, integer?_jsonb, optionalText,
    whenPresent_jsonb nonEmptyString?_jsonb, same]

theorem field_fares (f : CreatedFlight) : field f.toJson "fares" = f.fares.map faresJson := by
  rw [CreatedFlight.toJson, field_present, field_present, field_present, field_present, field_snoc,
    field_present]
  exact Option.or_none

/-- A `jsonb` column keeps the event, if it keeps the order of its fares. -/
theorem parseFlightCreatedEvent_jsonb {e : FlightCreatedEvent}
    (stored : ∀ fares ∈ e.flight.fares, (faresJson fares).jsonb = faresJson fares) :
    parseFlightCreatedEvent e.toJson.jsonb = parseFlightCreatedEvent e.toJson := by
  have fares : optionalFares e.flight.toJson.jsonb = optionalFares e.flight.toJson := by
    rw [optionalFares, optionalFares, field_jsonb, field_fares]
    cases given : e.flight.fares with
    | none => rfl
    | some fares => rw [Option.map_some, Option.map_some, stored fares given]
  have flight : field e.toJson "flight" = some e.flight.toJson := rfl
  rw [parseFlightCreatedEvent, parseFlightCreatedEvent, parseHeader_jsonb, field_jsonb, flight,
    Option.map_some, requireRecord_some rfl, requireRecord_some rfl]
  simp only [ok_bind, parseCreatedFlight_jsonb fares]

theorem parseCreatedFlight_toJson {f : CreatedFlight} (valid : f.Valid) :
    parseCreatedFlight f.toJson = .ok f := by
  have others : ∀ key v, key ∉ ["fares", "originAirportId", "destinationAirportId", "aircraftId",
      "status"] → field (.object
      ([member "id" (.string f.id), member "flightNumber" (.string f.flightNumber),
        member "origin" (.string f.origin), member "destination" (.string f.destination),
        member "departureAt" (.string f.departureAt), member "arrivalAt" (.string f.arrivalAt),
        member "priceInCents" (.int f.priceInCents), member "currency" (.string f.currency)] ++
        [member "availableSeats" (.int f.availableSeats)])) key = some v →
      field f.toJson key = some v := by
    intro key v other found
    simp only [List.mem_cons, List.not_mem_nil, or_false, not_or] at other
    rw [field_snoc] at found
    rw [CreatedFlight.toJson, field_present, if_neg (Ne.symm other.2.2.2.2), field_present,
      if_neg (Ne.symm other.2.2.2.1), field_present, if_neg (Ne.symm other.2.2.1), field_present,
      if_neg (Ne.symm other.2.1), field_snoc, field_present, if_neg (Ne.symm other.1)]
    exact found
  have optional : ∀ key o, o ≠ some [] → field f.toJson key = o.map .string →
      optionalText key f.toJson = .ok o := by
    intro key o given found
    rw [optionalText, found]
    exact whenPresent_string given
  have originAirportId : field f.toJson "originAirportId" = f.originAirportId.map .string := by
    rw [CreatedFlight.toJson, field_present, field_present, field_present, field_present,
      field_snoc, field_present]
    exact Option.or_none
  have destinationAirportId :
      field f.toJson "destinationAirportId" = f.destinationAirportId.map .string := by
    rw [CreatedFlight.toJson, field_present, field_present, field_present, field_present,
      field_snoc, field_present]
    exact Option.or_none
  have aircraftId : field f.toJson "aircraftId" = f.aircraftId.map .string := by
    rw [CreatedFlight.toJson, field_present, field_present, field_present, field_present,
      field_snoc, field_present]
    exact Option.or_none
  have status : field f.toJson "status" = f.status.map .string := by
    rw [CreatedFlight.toJson, field_present, field_present, field_present, field_present,
      field_snoc, field_present]
    exact Option.or_none
  have fares : optionalFares f.toJson = .ok f.fares := by
    rw [optionalFares, field_fares]
    cases given : f.fares with
    | none => rfl
    | some fares =>
        exact congrArg (· >>= fun r => pure (some r))
          (parseFares_faresJson (valid.fares fares given))
  rw [parseCreatedFlight, requireText_some (others _ _ (by decide) rfl) valid.id,
    requireText_some (others _ _ (by decide) rfl) valid.flightNumber,
    requireText_some (others _ _ (by decide) rfl) valid.origin,
    requireText_some (others _ _ (by decide) rfl) valid.destination,
    requireText_some (others _ _ (by decide) rfl) valid.departureAt,
    requireText_some (others _ _ (by decide) rfl) valid.arrivalAt,
    requireText_some (others _ _ (by decide) rfl) valid.currency,
    others "priceInCents" (.int f.priceInCents) (by decide) rfl,
    others "availableSeats" (.int f.availableSeats) (by decide) rfl,
    optional "originAirportId" _ valid.originAirportId originAirportId,
    optional "destinationAirportId" _ valid.destinationAirportId destinationAirportId,
    optional "aircraftId" _ valid.aircraftId aircraftId, optional "status" _ valid.status status,
    fares]
  rfl

theorem parseFlightCreatedEvent_toJson {e : FlightCreatedEvent} (valid : e.Valid) :
    parseFlightCreatedEvent e.toJson = .ok e := by
  have flight : field e.toJson "flight" = some e.flight.toJson := rfl
  rw [parseFlightCreatedEvent, parseHeader_fields rfl (by decide) rfl rfl rfl rfl valid.header,
    flight, requireRecord_some rfl]
  simp only [ok_bind, parseCreatedFlight_toJson valid.flight]
  rfl

theorem parseFlightCreatedEvent_ok {e : FlightCreatedEvent} (h : parseFlightCreatedEvent v = .ok e) :
    e.Valid := by
  obtain ⟨header, first, h⟩ := bind_eq_ok.mp h
  obtain ⟨_, -, h⟩ := bind_eq_ok.mp h
  obtain ⟨flight, second, h⟩ := bind_eq_ok.mp h
  cases h
  refine ⟨parseHeader_ok first, ?_⟩
  obtain ⟨id, idRead, second⟩ := bind_eq_ok.mp second
  obtain ⟨flightNumber, numberRead, second⟩ := bind_eq_ok.mp second
  obtain ⟨origin, originRead, second⟩ := bind_eq_ok.mp second
  obtain ⟨destination, destinationRead, second⟩ := bind_eq_ok.mp second
  obtain ⟨departureAt, departureRead, second⟩ := bind_eq_ok.mp second
  obtain ⟨arrivalAt, arrivalRead, second⟩ := bind_eq_ok.mp second
  obtain ⟨currency, currencyRead, second⟩ := bind_eq_ok.mp second
  obtain ⟨priceInCents, -, second⟩ := bind_eq_ok.mp second
  obtain ⟨availableSeats, -, second⟩ := bind_eq_ok.mp second
  obtain ⟨originAirportId, originIdRead, second⟩ := bind_eq_ok.mp second
  obtain ⟨destinationAirportId, destinationIdRead, second⟩ := bind_eq_ok.mp second
  obtain ⟨aircraftId, aircraftRead, second⟩ := bind_eq_ok.mp second
  obtain ⟨status, statusRead, second⟩ := bind_eq_ok.mp second
  obtain ⟨fares, faresRead, second⟩ := bind_eq_ok.mp second
  cases second
  exact ⟨requireText_ok idRead, requireText_ok numberRead, requireText_ok originRead,
    requireText_ok destinationRead, requireText_ok departureRead, requireText_ok arrivalRead,
    requireText_ok currencyRead, whenPresent_text originIdRead, whenPresent_text destinationIdRead,
    whenPresent_text aircraftRead, whenPresent_text statusRead, optionalFares_ok faresRead⟩

/-! ### The JSON of an event -/

@[simp] theorem exact_member (key : String) (v : Value) : (member key v).2.Exact ↔ v.Exact := Iff.rfl

@[simp] theorem exactMembers_present {key : String} {o : Option Value} :
    ExactMembers (present key o) ↔ ∀ v ∈ o, v.Exact := by
  cases o <;> simp [present]

@[simp] theorem EventMoney.exact (m : EventMoney) : m.toJson.Exact := by
  simp [EventMoney.toJson]

@[simp] theorem EventHeader.exact (h : EventHeader) (type : String) :
    ExactMembers (h.members type) := by
  simp [EventHeader.members]

theorem FlightCreatedEvent.exact (e : FlightCreatedEvent) : e.toJson.Exact := by
  have fares : ∀ fares, (faresJson fares).Exact := by
    intro fares
    refine .object fun m mem => ?_
    obtain ⟨fare, -, rfl⟩ := List.mem_map.mp mem
    exact fare.2.exact
  simp [FlightCreatedEvent.toJson, CreatedFlight.toJson, fares]

theorem BookingHeldEvent.exact (e : BookingHeldEvent) : e.toJson.Exact := by
  have passenger : ∀ p : BookingHeldPassenger, p.toJson.Exact := by
    intro p
    simp [BookingHeldPassenger.toJson]
  simp [BookingHeldEvent.toJson, HeldBooking.toJson, passenger]

theorem BookingConfirmedEvent.exact (e : BookingConfirmedEvent) : e.toJson.Exact := by
  have passenger : ∀ p : BookingConfirmedPassenger, p.toJson.Exact := by
    intro p
    simp [BookingConfirmedPassenger.toJson]
  simp [BookingConfirmedEvent.toJson, ConfirmedBooking.toJson, ConfirmingPayment.toJson, passenger]

theorem BookingCancelledEvent.exact (e : BookingCancelledEvent) : e.toJson.Exact := by
  have refund : ((e.refund.map EventRefund.toJson).getD Value.null).Exact := by
    cases e.refund <;> simp [EventRefund.toJson]
  simp [BookingCancelledEvent.toJson, CancelledBooking.toJson, refund]

theorem BookingExpiredEvent.exact (e : BookingExpiredEvent) : e.toJson.Exact := by
  simp [BookingExpiredEvent.toJson, ExpiredBooking.toJson]

end FlightBooking.Contracts
