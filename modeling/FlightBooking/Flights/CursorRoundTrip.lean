import FlightBooking.Flights.CursorCodec
import FlightBooking.Flights.DateTimes
import FlightBooking.Flights.SearchFlights

/-!
The cursors a search hands out, sent back.

A departure is admitted with any offset, and so may lie in the year 10000 of UTC while
its local date is one that can be searched for. `toISOString` writes that year with a
sign and six digits, which the decoder does not read (`fourDigitYear_of_read`): the
search hands out a cursor and then rejects it. In earlier years the cursor continues
behind its flight.
-/

namespace FlightBooking

open Calendar Numeral

variable {sha256 : Digest} {zones : TimeZones} {query : FlightSearchQuery} {request : PageRequest}
  {r : FlightSearchResult}

/-- At every later request the cursor is accepted, and answered with what lies strictly
behind the flight. -/
def ContinuesBehind (sha256 : Digest) (zones : TimeZones) (query : FlightSearchQuery)
    (r : FlightSearchResult) (cursor : List Char) : Prop :=
  ∀ later : PageRequest, ∃ hasNextPage nextCursor,
    searchFlights sha256 zones query later (some cursor) =
      .success (((later.rows zones query).filter fun x => sortKeyOf query r < sortKeyOf query x).take
        later.limit) hasNextPage nextCursor

/-! ### Years that are not read -/

theorem readField_sign {sign : Char} (isSign : sign = '+' ∨ sign = '-') (text : List Char) :
    readField 10 4 (sign :: text) = none := by
  rcases isSign with rfl | rfl
  · rw [readField]
    split <;> rfl
  · rw [readField]
    split <;> rfl

/-- What is read has a four-digit year. -/
theorem fourDigitYear_of_read {instant : Instant} {fields : IsoFields}
    (read : readIsoInstant (toISOString instant) = some fields) : FourDigitYear instant := by
  by_contra long
  have year : ∃ sign text, (sign = '+' ∨ sign = '-') ∧ isoYear (dateOf instant).year = sign :: text := by
    have others : ¬ (0 ≤ (dateOf instant).year ∧ (dateOf instant).year ≤ 9999) := long
    rw [isoYear, if_neg others]
    split
    · exact ⟨_, _, .inr rfl, rfl⟩
    · exact ⟨_, _, .inl rfl, rfl⟩
  obtain ⟨sign, text, isSign, year⟩ := year
  rw [toISOString, isoDate, year, List.cons_append, List.cons_append, readIsoInstant,
    readField_sign isSign] at read
  cases read

/-- A cursor that is accepted names a departure in a four-digit year. -/
theorem fourDigitYear_of_decode {key : FlightSearchKey}
    (decoded : decodeSearchCursor sha256 (encodeSearchCursor sha256 r.key query.scope) query.scope =
      some key) : FourDigitYear r.departureAt := by
  obtain ⟨valid, parsed, json, member, -⟩ := decode_sealed decoded
  rw [cursorJson, parse_encodeSearchCursor] at json
  cases json
  have same : key.sortKey query.sort = r.key.sortKey query.sort := by
    have members : (cursorValue sha256 r.key query.scope).get? ['k'] =
        some (.array (r.key.sortKey query.sort)) := rfl
    rw [members] at member
    exact (Json.Value.array.inj (Option.some.inj member)).symm
  have departure : key.departureAt = toISOString r.departureAt := by
    cases sort : query.sort <;>
      · rw [sort] at same
        simp only [FlightSearchKey.sortKey, List.cons.injEq, Json.Value.string.injEq] at same
        first | exact same.1 | exact same.2.1
  have read := valid.departureAt
  rw [departure, Option.any_eq_true] at read
  obtain ⟨fields, read, -⟩ := read
  exact fourDigitYear_of_read read

/-- In a later year the cursor is rejected. -/
theorem searchFlights_rejects (late : ¬ FourDigitYear r.departureAt) (later : PageRequest) :
    searchFlights sha256 zones query later (some (encodeSearchCursor sha256 r.key query.scope)) =
      .invalidCursor := by
  rw [searchFlights]
  cases decoded : decodeSearchCursor sha256 (encodeSearchCursor sha256 r.key query.scope)
      query.scope with
  | none => rfl
  | some key => exact absurd (fourDigitYear_of_decode decoded) late

/-! ### The main result -/

/-- An answer with a cursor is a page of the whole search, and the cursor is that of the
last flight on it. -/
theorem page_of_answer {cursor : Option (List Char)} {items : List FlightSearchResult}
    {hasNextPage : Bool} {next : List Char}
    (answered : searchFlights sha256 zones query request cursor =
      .success items hasNextPage (some next)) :
    ∃ r, items.getLast? = some r ∧ r ∈ request.rows zones query ∧
      next = encodeSearchCursor sha256 r.key query.scope := by
  have page : ∃ after, searchFlights sha256 zones query request cursor =
      answerPage sha256 query
        (searchPage zones request.db query request.limit request.now after) := by
    unfold searchFlights at answered ⊢
    cases cursor with
    | none => exact ⟨none, rfl⟩
    | some cursor =>
        cases decoded : decodeSearchCursor sha256 cursor query.scope with
        | none =>
            simp only [decoded] at answered
            cases answered
        | some key =>
            cases position : key.position with
            | none =>
                simp only [decoded, position] at answered
                cases answered
            | some after => exact ⟨after, by simp only [decoded, position]⟩
  obtain ⟨after, isPage⟩ := page
  rw [isPage, searchPage_eq, answerPage] at answered
  simp only [SearchFlightsResult.success.injEq] at answered
  obtain ⟨rfl, -, handed⟩ := answered
  split at handed
  · obtain ⟨r, last, rfl⟩ := Option.map_eq_some_iff.mp handed
    exact ⟨r, last, (Keyset.mem_page (List.mem_of_getLast? last)).1, rfl⟩
  · cases handed

/-- A page that ends on a flight hands out a cursor that continues behind it exactly if
the departure, in UTC, is before the year 10000. -/
theorem nextCursor_continues_iff (bytes : ∀ material, (sha256 material).length = 32)
    (within : zones.WithinDay) (valid : query.Valid)
    (ids : ∀ flight ∈ request.db.flights, flight.id < 2 ^ 128) {cursor : Option (List Char)}
    {items : List FlightSearchResult} {next : List Char}
    (answered : searchFlights sha256 zones query request cursor = .success items true (some next))
    (last : items.getLast? = some r) :
    ContinuesBehind sha256 zones query r next ↔ (dateOf r.departureAt).year ≤ 9999 := by
  obtain ⟨r', last', mem, rfl⟩ := page_of_answer answered
  rw [last] at last'
  cases last'
  have common := common_of_mem within valid mem
  constructor
  · intro continues
    by_contra late
    obtain ⟨_, _, answer⟩ := continues request
    rw [searchFlights_rejects fun four => late four.2] at answer
    cases answer
  · intro before later
    obtain ⟨flight, there, sameId, -⟩ := flight_of_mem mem
    have named : r.Named :=
      { id := sameId ▸ ids flight there
        year := ⟨by omega, before⟩
        common }
    obtain ⟨after, same, answer⟩ := searchFlights_cursor bytes named zones query later
    rw [answer, searchPage_eq, Option.map_some, same]
    refine ⟨_, _, congrArg (SearchFlightsResult.success · _ _) ?_⟩
    simp only [Keyset.page, Keyset.ahead, Option.all_some]

/-! ### The last day of the calendar -/

theorem single_answer {answer : SearchFlightsResult} (one : answer.items.length = 1)
    (more : answer.hasNextPage = true) (handed : answer.nextCursor.isSome = true) :
    ∃ r next, answer = .success [r] true (some next) := by
  cases answer with
  | success items hasNextPage nextCursor =>
      obtain ⟨r, rfl⟩ := List.length_eq_one_iff.mp one
      obtain ⟨next, rfl⟩ := Option.isSome_iff_exists.mp handed
      obtain rfl : hasNextPage = true := more
      exact ⟨r, next, rfl⟩
  | invalidCursor => cases one
  | failed => cases one

def zeroDigest : Digest := fun _ => List.replicate 32 0

/-- The first of the two flights ends a page, whose cursor continues. -/
theorem nextCursor_continues_hue :
    ∃ r next, searchFlights zeroDigest indochinaTime hueQuery ⟨hueTwice, 0, 1⟩ none =
        .success [r] true (some next) ∧ ContinuesBehind zeroDigest indochinaTime hueQuery r next := by
  have bytes : ∀ material, (zeroDigest material).length = 32 := by
    intro material
    exact List.length_replicate
  have within : indochinaTime.WithinDay := by
    intro timeZone l
    rw [indochinaTime, DAY_SECONDS]
    omega
  have valid : hueQuery.Valid := by
    constructor <;> decide
  have ids : ∀ flight ∈ hueTwice.flights, flight.id < 2 ^ 128 := by
    intro flight mem
    rcases List.mem_cons.mp mem with rfl | mem
    · decide
    · obtain rfl := List.mem_singleton.mp mem
      decide
  obtain ⟨r, next, answered⟩ := @single_answer
    (searchFlights zeroDigest indochinaTime hueQuery ⟨hueTwice, 0, 1⟩ none) (by decide +kernel)
    (by decide +kernel) (by decide +kernel)
  have departure : r.departureAt = 1000000000 := by
    have found : (searchFlights zeroDigest indochinaTime hueQuery ⟨hueTwice, 0, 1⟩ none).items.map
        (·.departureAt) = [1000000000] := by decide +kernel
    rw [answered] at found
    exact List.singleton_injective found
  have before : (dateOf r.departureAt).year ≤ 9999 := by
    rw [departure]
    decide
  exact ⟨r, next, answered,
    (nextCursor_continues_iff bytes within valid ids answered rfl).mpr before⟩

/-- Two flights from Panama City on 9999-12-31, in the last hour of the day. -/
def lastDay : Db :=
  { hueTwice with
    airports := ⟨[⟨1, "PTY", "America/Panama"⟩, ⟨2, "DAD", "Asia/Ho_Chi_Minh"⟩], by decide⟩
    flights := ⟨[⟨1, "VN1", 1, 2, 1, 253402317000000, 253402322340000, .open⟩,
      ⟨2, "VN2", 1, 2, 1, 253402317900000, 253402322340000, .open⟩], by decide⟩ }

/-- Five hours behind UTC, always. -/
def panamaTime : TimeZones := fun _ l => l + 5 * 60 * 60

def lastDayQuery : FlightSearchQuery := ⟨"PTY", "DAD", 2932896, 2932896, 1, .departure⟩

/-- An admitted flight ends a page, whose cursor is rejected. -/
theorem nextCursor_rejected :
    (∃ flight ∈ lastDay.flights,
      tryParseUtcIso "9999-12-31T23:30:00-05:00".toList = some flight.departureAt ∧
        tryParseUtcIso "9999-12-31T23:59:00-06:00".toList = some flight.arrivalAt ∧
        ∃ r next, searchFlights zeroDigest panamaTime lastDayQuery ⟨lastDay, 0, 1⟩ none =
            .success [r] true (some next) ∧
          r.id = flight.id ∧
          ∀ later, searchFlights zeroDigest panamaTime lastDayQuery later (some next) =
            .invalidCursor) ∧
      lastDayQuery.Valid := by
  have valid : lastDayQuery.Valid := by
    constructor <;> decide
  obtain ⟨r, next, answered⟩ := @single_answer
    (searchFlights zeroDigest panamaTime lastDayQuery ⟨lastDay, 0, 1⟩ none) (by decide +kernel)
    (by decide +kernel) (by decide +kernel)
  have found : (searchFlights zeroDigest panamaTime lastDayQuery ⟨lastDay, 0, 1⟩ none).items.map
      (fun r => (r.id, r.departureAt)) = [(1, 253402317000000)] := by decide +kernel
  rw [answered] at found
  have isFirst : (r.id, r.departureAt) = (1, 253402317000000) := List.singleton_injective found
  have late : ¬ FourDigitYear r.departureAt := by
    rw [(Prod.mk.inj isFirst).2]
    decide
  obtain ⟨r', last, -, rfl⟩ := page_of_answer answered
  obtain rfl : r = r' := Option.some.inj last
  exact ⟨⟨_, List.mem_cons_self, by decide +kernel, by decide +kernel, r, _, answered,
    (Prod.mk.inj isFirst).1, searchFlights_rejects late⟩, valid⟩

end FlightBooking
