import FlightBooking.Aircraft.SeatLayout
import FlightBooking.Bookings.Transactions

/-!
Reading the body of a booking request: `validateCreateBookingInput`.

What the validated request may be is in its type (`CreateBookingInput`). `AsksFor` says
which bodies ask for which request; those are accepted, and read as that request
(`validateCreateBookingInput_exact`).
-/

namespace FlightBooking

open Checks

/-! ### Seat codes -/

/-- A row of an aircraft and a letter. -/
def SeatPosition.Named (seat : SeatPosition) : Prop :=
  MIN_ROW ≤ seat.row ∧ seat.row ≤ MAX_ROW ∧ isSeatLetter seat.letter = true

instance (seat : SeatPosition) : Decidable seat.Named := inferInstanceAs (Decidable (_ ∧ _ ∧ _))

/-- `SEAT_POSITION`, with its row and letter. -/
def parseSeatPosition : List Char → Option SeatPosition
  | [d, letter] =>
      if d.isDigit && d ≠ '0' && isSeatLetter letter then some ⟨Nat.ofDigitChars 10 [d] 0, letter⟩
      else none
  | [d, e, letter] =>
      if d.isDigit && d ≠ '0' && e.isDigit && isSeatLetter letter then
        some ⟨Nat.ofDigitChars 10 [d, e] 0, letter⟩
      else none
  | _ => none

theorem toList_formatSeatPosition (seat : SeatPosition) :
    (formatSeatPosition seat).toList = Nat.toDigits 10 seat.row ++ [seat.letter] := by
  have letter : (toString seat.letter).toList = [seat.letter] := String.toList_singleton _
  rw [formatSeatPosition, String.toList_append, letter, Nat.toString_eq_repr, Nat.toList_repr]

/-- Rows in one and in two digits. -/
theorem digits_of_row : ∀ n < 10, (n ≠ 0 → Nat.toDigits 10 (Nat.ofDigitChars 10 [n.digitChar] 0) =
      [n.digitChar]) ∧ ∀ m < 10, n ≠ 0 →
    Nat.toDigits 10 (Nat.ofDigitChars 10 [n.digitChar, m.digitChar] 0) =
      [n.digitChar, m.digitChar] ∧ 10 ≤ Nat.ofDigitChars 10 [n.digitChar, m.digitChar] 0 ∧
        Nat.ofDigitChars 10 [n.digitChar, m.digitChar] 0 ≤ 99 := by
  decide

theorem digit_of_isDigit {c : Char} (h : c.isDigit = true) :
    ∃ n < 10, c = Nat.digitChar n ∧ (c ≠ '0' → n ≠ 0) := by
  have bounds : 48 ≤ c.toNat ∧ c.toNat ≤ 57 := by
    simp only [Char.isDigit, Bool.and_eq_true, decide_eq_true_eq] at h
    exact ⟨UInt32.le_iff_toNat_le.mp h.1, UInt32.le_iff_toNat_le.mp h.2⟩
  have each : ∀ n < 10, Char.ofNat (n + 48) = Nat.digitChar n := by decide
  have own : c = Nat.digitChar (c.toNat - 48) := by
    rw [← each _ (by omega), Nat.sub_add_cancel bounds.1, Char.ofNat_toNat]
  refine ⟨c.toNat - 48, by omega, own, fun other zero => other ?_⟩
  rw [own, zero]
  rfl

theorem row_of_digit : ∀ n < 10, n ≠ 0 →
    MIN_ROW ≤ Nat.ofDigitChars 10 [n.digitChar] 0 ∧ Nat.ofDigitChars 10 [n.digitChar] 0 ≤ MAX_ROW := by
  decide

/-- A seat code is the rendering of its seat. -/
theorem parseSeatPosition_eq_some {code : List Char} {seat : SeatPosition} :
    parseSeatPosition code = some seat ↔
      seat.Named ∧ code = (formatSeatPosition seat).toList := by
  rw [toList_formatSeatPosition]
  constructor
  · intro h
    unfold parseSeatPosition at h
    split at h
    · rename_i d letter
      split at h
      · rename_i checks
        cases h
        simp only [Bool.and_eq_true, decide_eq_true_eq] at checks
        obtain ⟨⟨digit, first⟩, isLetter⟩ := checks
        obtain ⟨n, lt, rfl, some⟩ := digit_of_isDigit digit
        obtain ⟨low, high⟩ := row_of_digit n lt (some first)
        refine ⟨⟨low, high, isLetter⟩, ?_⟩
        simp only [(digits_of_row n lt).1 (some first), List.cons_append, List.nil_append]
      · cases h
    · rename_i d e letter
      split at h
      · rename_i checks
        cases h
        simp only [Bool.and_eq_true, decide_eq_true_eq] at checks
        obtain ⟨⟨⟨digit, first⟩, digit'⟩, isLetter⟩ := checks
        obtain ⟨n, lt, rfl, some⟩ := digit_of_isDigit digit
        obtain ⟨m, lt', rfl, -⟩ := digit_of_isDigit digit'
        obtain ⟨same, low, high⟩ := (digits_of_row n lt).2 m lt' (some first)
        refine ⟨⟨Nat.le_trans (by decide) low, high, isLetter⟩, ?_⟩
        simp only [same, List.cons_append, List.nil_append]
      · cases h
    · cases h
  · rintro ⟨⟨low, high, isLetter⟩, rfl⟩
    obtain ⟨row, letter⟩ := seat
    simp only at low high isLetter
    have digits : ∀ n < 10, (Nat.digitChar n).isDigit = true ∧ (n ≠ 0 → Nat.digitChar n ≠ '0') := by
      decide
    have value := Nat.ofDigitChars_ten_toDigits (n := row)
    rw [Nat.toDigits_eq_if (by decide)] at value ⊢
    by_cases short : row < 10
    · obtain ⟨digit, first⟩ := digits row short
      rw [if_pos short] at value ⊢
      have other := first (Nat.pos_iff_ne_zero.mp low)
      simp only [List.cons_append, List.nil_append, parseSeatPosition, digit, isLetter, value,
        Bool.true_and, Bool.and_true, decide_eq_true_eq, ne_eq, other, not_false_eq_true, if_true]
    · have tens : row / 10 < 10 := by unfold MAX_ROW at high; omega
      have units : row % 10 < 10 := Nat.mod_lt _ (by decide)
      rw [if_neg short, Nat.toDigits_eq_if (by decide), if_pos tens] at value ⊢
      have other := (digits (row / 10) tens).2 (by omega)
      simp only [List.cons_append, List.nil_append] at value
      simp only [List.cons_append, List.nil_append, parseSeatPosition, (digits _ tens).1,
        (digits _ units).1, isLetter, value, Bool.true_and, Bool.and_true, decide_eq_true_eq, ne_eq,
        other, not_false_eq_true, if_true]

/-- Seats with one code are one seat. -/
theorem formatSeatPosition_inj {a b : SeatPosition} (ha : a.Named) (hb : b.Named)
    (same : formatSeatPosition a = formatSeatPosition b) : a = b := by
  have first := parseSeatPosition_eq_some.mpr ⟨ha, rfl⟩
  rw [same, parseSeatPosition_eq_some.mpr ⟨hb, rfl⟩] at first
  exact (Option.some.inj first).symm

/-! ### Passengers -/

/-- A passenger as parsed; no seat is "pick for me". -/
structure ParsedPassenger where
  name : String
  seat : Option SeatPosition
  deriving DecidableEq, Repr

/-- `isNonEmptyString`, with the text. -/
def nonEmptyString? : Option Json.Value → Option (List Char)
  | some (.string text) => if Text.trim text ≠ [] then some text else none
  | _ => none

/-- Absent, or a seat code; anything else is `none`. -/
def requestedSeat? : Option Json.Value → Option (Option SeatPosition)
  | none => some none
  | some (.string code) => (parseSeatPosition code).map some
  | some _ => none

/-- The passenger of its members as they were read, or every problem with them. -/
def passengerOf (field : String) (name : Option (List Char)) (seat : Option (Option SeatPosition)) :
    Except (List ValidationIssue) ParsedPassenger :=
  match name, seat with
  | some name, some seat => .ok ⟨String.ofList (Text.trim name), seat⟩
  | name, seat => .error
      ((if name.isNone then [⟨field ++ ".name", "REQUIRED", "name must be a non-empty string"⟩]
        else []) ++
      (if seat.isNone then [⟨field ++ ".seat", "INVALID_SEAT", "seat must be a seat code such as 12A"⟩]
        else []))

def validatePassenger (value : Json.Value) (field : String) :
    Except (List ValidationIssue) ParsedPassenger :=
  match value with
  | .object _ => passengerOf field (nonEmptyString? (value.get? "name".toList))
      (requestedSeat? (value.get? "seat".toList))
  | _ => .error [⟨field, "INVALID_PASSENGER", "each passenger must be an object \x7b name, seat? \x7d"⟩]

/-- The value is this passenger. -/
structure ParsedPassenger.DescribedBy (value : Json.Value) (p : ParsedPassenger) : Prop where
  name : ∃ text, value.get? "name".toList = some (.string text) ∧ Text.NotBlank text ∧
    p.name = String.ofList (Text.trim text)
  seat : value.get? "seat".toList = p.seat.map fun seat => .string (formatSeatPosition seat).toList
  named : ∀ seat, p.seat = some seat → seat.Named

theorem nonEmptyString?_eq_some {raw : Option Json.Value} {text : List Char} :
    nonEmptyString? raw = some text ↔ raw = some (.string text) ∧ Text.NotBlank text := by
  rw [← Text.trim_ne_nil]
  constructor
  · intro h
    unfold nonEmptyString? at h
    split at h
    · split at h
      · rename_i some
        cases h
        exact ⟨rfl, some⟩
      · cases h
    · cases h
  · rintro ⟨rfl, some⟩
    exact if_pos some

theorem requestedSeat?_eq_some {raw : Option Json.Value} {seat : Option SeatPosition} :
    requestedSeat? raw = some seat ↔
      raw = seat.map (fun seat => .string (formatSeatPosition seat).toList) ∧
        ∀ own, seat = some own → own.Named := by
  constructor
  · intro h
    unfold requestedSeat? at h
    split at h
    · cases h
      exact ⟨rfl, fun _ none => by cases none⟩
    · obtain ⟨own, parsed, rfl⟩ := Option.map_eq_some_iff.mp h
      obtain ⟨named, rfl⟩ := parseSeatPosition_eq_some.mp parsed
      refine ⟨rfl, fun other same => ?_⟩
      cases same
      exact named
    · cases h
  · rintro ⟨rfl, named⟩
    cases seat with
    | none => rfl
    | some own =>
        have parsed := parseSeatPosition_eq_some.mpr ⟨named own rfl, rfl⟩
        exact congrArg (Option.map Option.some) parsed

theorem validatePassenger_eq_ok {value : Json.Value} {field : String} {p : ParsedPassenger} :
    validatePassenger value field = .ok p ↔ p.DescribedBy value := by
  constructor
  · intro h
    cases value with
    | object members =>
        unfold validatePassenger passengerOf at h
        dsimp only at h
        split at h
        · rename_i name seat isName isSeat
          cases h
          obtain ⟨text, some⟩ := nonEmptyString?_eq_some.mp isName
          obtain ⟨seatOf, named⟩ := requestedSeat?_eq_some.mp isSeat
          exact ⟨⟨name, text, some, rfl⟩, seatOf, named⟩
        · cases h
    | _ => cases h
  · intro h
    obtain ⟨text, isName, some, own⟩ := h.name
    have name := nonEmptyString?_eq_some.mpr ⟨isName, some⟩
    have seat := requestedSeat?_eq_some.mpr ⟨h.seat, h.named⟩
    cases value with
    | object members =>
        rw [validatePassenger, name, seat, passengerOf, ← own]
    | _ => cases isName

theorem passengerOf_issues {field : String} {name : Option (List Char)}
    {seat : Option (Option SeatPosition)} {issues : List ValidationIssue}
    (h : passengerOf field name seat = .error issues) : issues ≠ [] := by
  cases name with
  | none =>
      cases h
      exact List.cons_ne_nil _ _
  | some name =>
      cases seat with
      | none =>
          cases h
          exact List.cons_ne_nil _ _
      | some seat => cases h

/-- A rejected passenger has issues. -/
theorem validatePassenger_issues {value : Json.Value} {field : String} {issues : List ValidationIssue}
    (h : validatePassenger value field = .error issues) : issues ≠ [] := by
  cases value with
  | object members => exact passengerOf_issues h
  | _ =>
      cases h
      exact List.cons_ne_nil _ _

/-! ### The body -/

/-- BR-BOOK-02: each later repeat of a seat, but not its first use. -/
def repeatedSeats (seen : List String) (index : Nat) : List SeatPosition → List ValidationIssue
  | [] => []
  | seat :: seats =>
      let code := formatSeatPosition seat
      (if seen.contains code then
        [⟨"passengers[" ++ toString index ++ "].seat", "DUPLICATE_SEAT",
          "seat " ++ code ++ " is already taken by an earlier passenger"⟩]
      else []) ++ repeatedSeats (code :: seen) (index + 1) seats

theorem repeatedSeats_eq_nil {seen : List String} {index : Nat} {seats : List SeatPosition} :
    repeatedSeats seen index seats = [] ↔
      (seats.map formatSeatPosition).Nodup ∧ ∀ seat ∈ seats, formatSeatPosition seat ∉ seen := by
  induction seats generalizing seen index with
  | nil => exact iff_of_true rfl ⟨List.nodup_nil, fun _ mem => by cases mem⟩
  | cons seat seats ih =>
      rw [repeatedSeats, List.append_eq_nil_iff, ih]
      simp only [List.contains_eq_mem, decide_eq_true_eq, ite_eq_right_iff, reduceCtorEq, imp_false,
        List.map_cons, List.nodup_cons, List.mem_map, List.mem_cons, not_or, forall_eq_or_imp, not_exists,
        not_and]
      constructor
      · rintro ⟨fresh, nodup, apart⟩
        exact ⟨⟨fun own mem => (apart own mem).1, nodup⟩, fresh, fun own mem => (apart own mem).2⟩
      · rintro ⟨⟨other, nodup⟩, fresh, apart⟩
        exact ⟨fresh, nodup, fun own mem => ⟨other own mem, apart own mem⟩⟩

/-- The passengers with the seats they name. -/
def seated (passengers : List ParsedPassenger) : List (String × SeatPosition) :=
  passengers.filterMap fun p => p.seat.map fun seat => (p.name, seat)

theorem length_seated {passengers : List ParsedPassenger}
    (all : ¬ (seated passengers).length < passengers.length) :
    (seated passengers).length = passengers.length :=
  Nat.le_antisymm (List.length_filterMap_le _ _) (Nat.not_lt.mp all)

/-- The request of well-formed passengers: with their seats, or with the class they are to
be seated in. -/
def bookingOf (fareClass : Option Json.Value) (valid : List ParsedPassenger)
    (count : 1 ≤ valid.length ∧ valid.length ≤ MAX_PASSENGERS) :
    Except (List ValidationIssue) CreateBookingInput :=
  if (seated valid).length = 0 then
    match fareClass with
    | none => .error [⟨"fareClass", "MISSING_FIELD", "fareClass (" ++
        " or ".intercalate (FARE_CLASSES.map FareClass.name) ++
        ") is required when no passenger names a seat"⟩]
    | some value =>
        match fareClass? (some value) with
        | none => .error [⟨"fareClass", "INVALID_FARE_CLASS",
            "fareClass must be one of " ++ fareClassNames⟩]
        | some fareClass => .ok (.auto fareClass (valid.map (·.name)) (by simpa using count))
  else if all : (seated valid).length < valid.length then
    .error [⟨"passengers", "MIXED_SEAT_SELECTION",
      "either every passenger names a seat or none does"⟩]
  else if fine : fareClass.isNone ∧ repeatedSeats [] 0 ((seated valid).map (·.2)) = [] then
    .ok (.chosen (seated valid) (length_seated all ▸ count)
      (repeatedSeats_eq_nil.mp fine.2).1.of_map)
  else .error
    ((if fareClass.isSome then [⟨"fareClass", "UNSUPPORTED_FIELD",
      "fareClass applies only when no passenger names a seat"⟩] else []) ++
    repeatedSeats [] 0 ((seated valid).map (·.2)))

def invalidPassengerCount : ValidationIssue :=
  ⟨"passengers", "INVALID_PASSENGER_COUNT",
    "passengers must be an array of 1 to " ++ toString MAX_PASSENGERS ++ " passengers"⟩

def validateCreateBookingInput (input : Json.Value) :
    Except (List ValidationIssue) CreateBookingInput :=
  match input with
  | .object _ =>
      let issues : List ValidationIssue :=
        if (input.get? "passengerName".toList).isSome then [⟨"passengerName", "UNSUPPORTED_FIELD",
          "passengerName was replaced by passengers: [\x7b name, seat? \x7d]"⟩]
        else []
      match input.get? "passengers".toList with
      | some (.array passengers) =>
          if count : passengers.length = 0 ∨ passengers.length > MAX_PASSENGERS then
            .error (issues ++ [invalidPassengerCount])
          else
            match parsed : checkEach (fun index passenger =>
                validatePassenger passenger ("passengers[" ++ toString index ++ "]")) 0 passengers with
            | .error own => .error (issues ++ own)
            | .ok valid =>
                if issues.length > 0 then .error issues
                else bookingOf (input.get? "fareClass".toList) valid (by
                  rw [length_checkEach parsed]
                  omega)
      | _ => .error (issues ++ [invalidPassengerCount])
  | _ => .error [⟨"body", "INVALID_BODY", "Request body must be a JSON object"⟩]

/-! ### Which bodies are accepted -/

def ParsedPassenger.unseated (name : String) : ParsedPassenger := ⟨name, none⟩

def ParsedPassenger.inSeat (p : String × SeatPosition) : ParsedPassenger := ⟨p.1, some p.2⟩

/-- The members of a body ask for the request: for a class and no seats, or for a seat
each and no class. -/
def AsksForBooking (fareClass : Option Json.Value) (passengers : List Json.Value) :
    CreateBookingInput → Prop
  | .auto own names _ => fareClass = some (.string own.name.toList) ∧
      List.Forall₂ (fun value name => ParsedPassenger.DescribedBy value (.unseated name)) passengers names
  | .chosen seated _ _ => fareClass = none ∧
      List.Forall₂ (fun value p => ParsedPassenger.DescribedBy value (.inSeat p)) passengers seated

/-- The body asks for the request. -/
def AsksFor (input : Json.Value) (request : CreateBookingInput) : Prop :=
  input.get? "passengerName".toList = none ∧
    ∃ passengers, input.get? "passengers".toList = some (.array passengers) ∧
      AsksForBooking (input.get? "fareClass".toList) passengers request

theorem seated_unseated (names : List String) : seated (names.map .unseated) = [] := by
  rw [seated, List.filterMap_map]
  exact List.filterMap_eq_nil_iff.mpr fun _ _ => rfl

theorem seated_inSeat (passengers : List (String × SeatPosition)) :
    seated (passengers.map .inSeat) = passengers := by
  rw [seated, List.filterMap_map]
  exact List.filterMap_some

/-- Without a seat, passengers are their names. -/
theorem eq_unseated {passengers : List ParsedPassenger} (h : (seated passengers).length = 0) :
    passengers = (passengers.map (·.name)).map .unseated := by
  have empty := List.eq_nil_of_length_eq_zero h
  rw [List.map_map]
  refine (List.map_id passengers).symm.trans (List.map_congr_left fun p mem => ?_)
  have own := Option.map_eq_none_iff.mp (List.filterMap_eq_nil_iff.mp empty p mem)
  cases p
  cases own
  rfl

/-- If as many are seated, passengers are their names and seats. -/
theorem eq_inSeat {passengers : List ParsedPassenger}
    (all : (seated passengers).length = passengers.length) :
    passengers = (seated passengers).map .inSeat := by
  induction passengers with
  | nil => rfl
  | cons p passengers ih =>
      obtain ⟨name, seat⟩ := p
      cases seat with
      | none =>
          have short : (seated (⟨name, none⟩ :: passengers)).length ≤ passengers.length := by
            change (seated passengers).length ≤ passengers.length
            exact List.length_filterMap_le _ _
          rw [all, List.length_cons] at short
          omega
      | some own =>
          have rest := ih (Nat.succ.inj all)
          exact congrArg (ParsedPassenger.mk name (some own) :: ·) rest

/-- Passengers are determined by the values that are them. -/
theorem described_unique {passengers : List Json.Value} {a b : List ParsedPassenger}
    (ha : List.Forall₂ (fun value p => ParsedPassenger.DescribedBy value p) passengers a)
    (hb : List.Forall₂ (fun value p => ParsedPassenger.DescribedBy value p) passengers b) : a = b := by
  refine List.right_unique_forall₂' (fun value p q hp hq => ?_) ha hb
  have first := (@validatePassenger_eq_ok value "" p).mpr hp
  rw [validatePassenger_eq_ok.mpr hq] at first
  exact (Except.ok.inj first).symm

theorem forall₂_exists {α β : Type} {R : α → β → Prop} {as : List α} {bs : List β} {b : β}
    (h : List.Forall₂ R as bs) (mem : b ∈ bs) : ∃ a, R a b := by
  induction h with
  | nil => cases mem
  | cons own _ ih =>
      rcases List.mem_cons.mp mem with rfl | mem
      · exact ⟨_, own⟩
      · exact ih mem

/-- Well-formed passengers become the request they ask for with the class. -/
theorem bookingOf_eq_ok {fareClass : Option Json.Value} {passengers : List Json.Value}
    {valid : List ParsedPassenger} {count} {request : CreateBookingInput}
    (each : List.Forall₂ (fun value p => ParsedPassenger.DescribedBy value p) passengers valid) :
    bookingOf fareClass valid count = .ok request ↔ AsksForBooking fareClass passengers request := by
  constructor
  · intro h
    unfold bookingOf at h
    split at h
    · rename_i unseated
      split at h
      · cases h
      · split at h
        · cases h
        · rename_i isClass
          cases h
          rw [eq_unseated unseated, List.forall₂_map_right_iff] at each
          exact ⟨fareClass?_eq_some.mp isClass, each⟩
    · split at h
      · cases h
      · rename_i all
        split at h
        · rename_i fine
          cases h
          rw [eq_inSeat (length_seated all), List.forall₂_map_right_iff] at each
          exact ⟨Option.isNone_iff_eq_none.mp fine.1, each⟩
        · cases h
  · intro h
    cases request with
    | auto own names bounds =>
        obtain ⟨rfl, asked⟩ := h
        have mapped : List.Forall₂ (fun value p => ParsedPassenger.DescribedBy value p) passengers
            (names.map .unseated) := List.forall₂_map_right_iff.mpr asked
        obtain rfl := described_unique each mapped
        have isClass := fareClass?_eq_some.mpr (Eq.refl (some (Json.Value.string own.name.toList)))
        have none : (seated (names.map .unseated)).length = 0 := by
          rw [seated_unseated]
          rfl
        have same : (names.map .unseated).map ParsedPassenger.name = names := by
          rw [List.map_map]
          exact List.map_id names
        simp only [bookingOf, if_pos none, isClass, same]
    | chosen own bounds distinct =>
        obtain ⟨rfl, asked⟩ := h
        have mapped : List.Forall₂ (fun value p => ParsedPassenger.DescribedBy value p) passengers
            (own.map .inSeat) := List.forall₂_map_right_iff.mpr asked
        obtain rfl := described_unique each mapped
        have named : ∀ p ∈ own, p.2.Named := by
          intro p mem
          obtain ⟨value, described⟩ := forall₂_exists asked mem
          exact described.named p.2 rfl
        have seats := seated_inSeat own
        have some : ¬ (seated (own.map .inSeat)).length = 0 := by
          rw [seats]
          omega
        have all : ¬ (seated (own.map .inSeat)).length < (own.map ParsedPassenger.inSeat).length := by
          rw [seats, List.length_map]
          exact Nat.lt_irrefl _
        have codes : ((own.map (·.2)).map formatSeatPosition).Nodup := by
          refine distinct.map_on fun a ha b hb same => ?_
          obtain ⟨p, memP, rfl⟩ := List.mem_map.mp ha
          obtain ⟨q, memQ, rfl⟩ := List.mem_map.mp hb
          exact formatSeatPosition_inj (named p memP) (named q memQ) same
        have fine : (none : Option Json.Value).isNone = true ∧
            repeatedSeats [] 0 ((seated (own.map .inSeat)).map (·.2)) = [] :=
          ⟨rfl, repeatedSeats_eq_nil.mpr ⟨by rwa [seats], fun _ _ => List.not_mem_nil⟩⟩
        rw [bookingOf, if_neg some, dif_neg all, dif_pos fine]
        simp only [seats]

theorem bookingOf_issues {fareClass : Option Json.Value} {valid : List ParsedPassenger} {count}
    {issues : List ValidationIssue} (h : bookingOf fareClass valid count = .error issues) :
    issues ≠ [] := by
  unfold bookingOf at h
  split at h
  · split at h
    · cases h
      exact List.cons_ne_nil _ _
    · split at h
      · cases h
        exact List.cons_ne_nil _ _
      · cases h
  · split at h
    · cases h
      exact List.cons_ne_nil _ _
    · split at h
      · cases h
      · rename_i wrong
        rw [← Except.error.inj h]
        cases fareClass with
        | some _ => exact List.cons_ne_nil _ _
        | none =>
            intro none
            exact wrong ⟨rfl, (List.append_eq_nil_iff.mp none).2⟩

/-- The values are passengers, as many as a request may have. -/
theorem AsksForBooking.passengers {fareClass : Option Json.Value} {passengers : List Json.Value}
    {request : CreateBookingInput} (asks : AsksForBooking fareClass passengers request) :
    ∃ valid, List.Forall₂ (fun value p => ParsedPassenger.DescribedBy value p) passengers valid ∧
      ¬ (passengers.length = 0 ∨ passengers.length > MAX_PASSENGERS) := by
  cases request with
  | auto own names bounds =>
      have length := asks.2.length_eq
      exact ⟨names.map .unseated, List.forall₂_map_right_iff.mpr asks.2, by omega⟩
  | chosen own bounds distinct =>
      have length := asks.2.length_eq
      exact ⟨own.map .inSeat, List.forall₂_map_right_iff.mpr asks.2, by omega⟩

/-- A body is accepted exactly if it asks for a request, and is read as that request;
otherwise there is an issue. -/
theorem validateCreateBookingInput_exact (input : Json.Value) :
    (∀ request, validateCreateBookingInput input = .ok request ↔ AsksFor input request) ∧
      ∀ issues, validateCreateBookingInput input = .error issues → issues ≠ [] := by
  have passengersOf (passengers : List Json.Value) (valid : List ParsedPassenger) :
      checkEach (fun index passenger =>
          validatePassenger passenger ("passengers[" ++ toString index ++ "]")) 0 passengers = .ok valid ↔
        List.Forall₂ (fun value p => ParsedPassenger.DescribedBy value p) passengers valid :=
    checkEach_eq_ok fun _ _ _ => validatePassenger_eq_ok
  constructor
  · intro request
    constructor
    · intro h
      unfold validateCreateBookingInput at h
      split at h
      · extract_lets unsupported at h
        split at h
        · rename_i passengers member
          split at h
          · cases h
          · split at h
            · cases h
            · rename_i valid parsed
              split at h
              · cases h
              · rename_i supported
                refine ⟨?_, passengers, member, (bookingOf_eq_ok ((passengersOf _ _).mp parsed)).mp h⟩
                by_contra some
                refine supported ?_
                rw [← Ne, ← Option.isSome_iff_ne_none] at some
                simp only [unsupported, some, if_true]
                exact Nat.succ_pos _
        · cases h
      · cases h
    · rintro ⟨supported, passengers, member, asks⟩
      obtain ⟨valid, each, count⟩ := asks.passengers
      unfold validateCreateBookingInput
      split
      · rename_i members
        rw [member, supported]
        simp only [Option.isSome_none, Bool.false_eq_true, if_false, List.length_nil, gt_iff_lt,
          Nat.lt_irrefl, dif_neg count]
        split
        · rename_i own failed
          rw [(passengersOf _ _).mpr each] at failed
          cases failed
        · rename_i valid' parsed
          exact (bookingOf_eq_ok ((passengersOf _ _).mp parsed)).mpr asks
      · rename_i other
        cases input with
        | object members => exact absurd rfl (other members)
        | _ => cases member
  · intro issues h
    unfold validateCreateBookingInput at h
    split at h
    · extract_lets unsupported at h
      split at h
      · split at h
        · rw [← Except.error.inj h]
          exact List.append_ne_nil_of_right_ne_nil _ (List.cons_ne_nil _ _)
        · split at h
          · rename_i own failed
            rw [← Except.error.inj h]
            exact List.append_ne_nil_of_right_ne_nil _
              (checkEach_issues (fun _ _ _ => validatePassenger_issues) failed)
          · split at h
            · rename_i some
              rw [← Except.error.inj h]
              exact List.ne_nil_of_length_pos some
            · exact bookingOf_issues h
      · rw [← Except.error.inj h]
        exact List.append_ne_nil_of_right_ne_nil _ (List.cons_ne_nil _ _)
    · cases h
      exact List.cons_ne_nil _ _

/-! ### A body with two seats -/

def hueBody : Json.Value :=
  .object [("passengers".toList, .array
    [.object [("name".toList, .string " TRAN VAN BINH ".toList), ("seat".toList, .string "12A".toList)],
      .object [("name".toList, .string "LE THI CAM".toList), ("seat".toList, .string "2C".toList)]])]

def hueRequest : CreateBookingInput :=
  .chosen [("TRAN VAN BINH", ⟨12, 'A'⟩), ("LE THI CAM", ⟨2, 'C'⟩)] (by decide) (by decide)

theorem validateCreateBookingInput_exact_hue :
    validateCreateBookingInput hueBody = .ok hueRequest := by
  have first : "12A".toList = (formatSeatPosition ⟨12, 'A'⟩).toList := by decide +kernel
  have second : "2C".toList = (formatSeatPosition ⟨2, 'C'⟩).toList := by decide +kernel
  refine ((validateCreateBookingInput_exact hueBody).1 hueRequest).mpr ⟨rfl, _, rfl, rfl, ?_⟩
  refine .cons ⟨⟨_, rfl, ⟨'T', by decide, by decide⟩, by decide⟩, ?_, ?_⟩
    (.cons ⟨⟨_, rfl, ⟨'L', by decide, by decide⟩, by decide⟩, ?_, ?_⟩ .nil)
  · exact congrArg (fun code => some (Json.Value.string code)) first
  · rintro seat ⟨⟩
    decide
  · exact congrArg (fun code => some (Json.Value.string code)) second
  · rintro seat ⟨⟩
    decide

end FlightBooking
