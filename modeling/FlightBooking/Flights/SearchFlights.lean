import FlightBooking.Flights.SearchCursor
import FlightBooking.Flights.SearchResults
import FlightBooking.Library.Keyset

/-!
The search page by page: `createSearchFlights`, and a caller that follows its cursors
while the data change.

Each answer is a keyset page of the whole search of its moment (`followPages_eq`); what
keyset pagination guarantees then holds of the answers (`search_pages_exact`).
-/

namespace FlightBooking

open Relational Calendar

/-! ### The use case -/

def MAX_SEARCH_DAYS : Int := 7

def MAX_SEARCH_PASSENGERS : Nat := 9

def MAX_SEARCH_LIMIT : Nat := 50

/-- `AIRPORT_CODE`. -/
def IsAirportCode (code : String) : Prop :=
  code.toList.length = 3 ∧ code.toList.all Char.isUpper = true

instance (code : String) : Decidable (IsAirportCode code) := inferInstanceAs (Decidable (_ ∧ _))

/-- What `validateFlightSearchQuery` lets through. It reads a date's year back from
`Date.UTC`, which takes the years below 100 for others. -/
structure FlightSearchQuery.Valid (query : FlightSearchQuery) : Prop where
  origin : IsAirportCode query.origin
  destination : IsAirportCode query.destination
  different : query.origin ≠ query.destination
  earliest : (⟨100, 1, 1⟩ : CivilDate).days ≤ query.departureDateFrom
  ordered : query.departureDateFrom ≤ query.departureDateTo
  latest : query.departureDateTo ≤ (⟨9999, 12, 31⟩ : CivilDate).days
  span : query.departureDateTo - query.departureDateFrom + 1 ≤ MAX_SEARCH_DAYS
  passengers : 1 ≤ query.passengers ∧ query.passengers ≤ MAX_SEARCH_PASSENGERS

inductive SearchFlightsResult where
  | success (items : List FlightSearchResult) (hasNextPage : Bool) (nextCursor : Option (List Char))
  | invalidCursor
  /-- The database rejects a key's texts. -/
  | failed
  deriving DecidableEq, Repr

def SearchFlightsResult.items : SearchFlightsResult → List FlightSearchResult
  | .success items _ _ => items
  | _ => []

def SearchFlightsResult.hasNextPage : SearchFlightsResult → Bool
  | .success _ hasNextPage _ => hasNextPage
  | _ => false

def SearchFlightsResult.nextCursor : SearchFlightsResult → Option (List Char)
  | .success _ _ nextCursor => nextCursor
  | _ => none

/-- What a page request meets: the data, the clock and its own limit. -/
structure PageRequest where
  db : Db
  now : Instant
  limit : Nat

/-- The answer for a page, with a cursor to its last flight if there are more. -/
def answerPage (sha256 : Digest) (query : FlightSearchQuery) (page : FlightSearchPage) :
    SearchFlightsResult :=
  .success page.items page.hasNextPage
    (if page.hasNextPage then
      page.items.getLast?.map fun last => encodeSearchCursor sha256 last.key query.scope
    else none)

/-- `searchFlights`, for a validated search. -/
def searchFlights (sha256 : Digest) (zones : TimeZones) (query : FlightSearchQuery)
    (request : PageRequest) (cursor : Option (List Char)) : SearchFlightsResult :=
  let answer (after : Option SearchPosition) :=
    answerPage sha256 query (searchPage zones request.db query request.limit request.now after)
  match cursor with
  | none => answer none
  | some cursor =>
      match decodeSearchCursor sha256 cursor query.scope with
      | none => .invalidCursor
      | some key =>
          match key.position with
          | none => .failed
          | some after => answer (some after)

/-- The answers a caller gets who follows each `nextCursor`. -/
def followPages (sha256 : Digest) (zones : TimeZones) (query : FlightSearchQuery) :
    List PageRequest → Option (List Char) → List SearchFlightsResult
  | [], _ => []
  | request :: requests, cursor =>
      let answer := searchFlights sha256 zones query request cursor
      answer :: match answer.nextCursor with
        | some next => followPages sha256 zones query requests (some next)
        | none => []

variable {sha256 : Digest} {zones : TimeZones} {query : FlightSearchQuery} {request : PageRequest}
  {requests : List PageRequest} {r : FlightSearchResult}

/-! ### Pages are keyset pages -/

/-- The whole search at the moment of a request. -/
def PageRequest.rows (zones : TimeZones) (query : FlightSearchQuery) (request : PageRequest) :
    List FlightSearchResult :=
  searchRows zones request.db query request.now none

def sortKeyOf (query : FlightSearchQuery) (r : FlightSearchResult) : Nat ×ₗ Int ×ₗ Nat :=
  r.sortKey query.sort

/-- Two lists in strict order with the same members are one. -/
theorem lists_eq_of_increasing {α κ : Type} [LinearOrder κ] {key : α → κ} {a b : List α}
    (ha : a.Pairwise fun x y => key x < key y) (hb : b.Pairwise fun x y => key x < key y)
    (same : ∀ x, x ∈ a ↔ x ∈ b) : a = b := by
  have nodup {l : List α} (h : l.Pairwise fun x y => key x < key y) : l.Nodup :=
    h.imp fun lt eq => absurd (congrArg key eq) (ne_of_lt lt)
  refine List.Perm.eq_of_pairwise (fun x y _ _ lt gt => ?_) ha hb
    ((List.perm_ext_iff_of_nodup (nodup ha) (nodup hb)).mpr same)
  exact absurd lt (lt_asymm gt)

/-- The rows after a cursor are those of the whole search behind its key. -/
theorem searchRows_after (db : Db) (now : Instant) (after : Option SearchPosition) :
    searchRows zones db query now after =
      Keyset.ahead (sortKeyOf query) (after.map (·.sortKey query.sort))
        (searchRows zones db query now none) := by
  refine lists_eq_of_increasing (strict_searchRows zones db query now after)
    (Keyset.ahead_increasing (strict_searchRows zones db query now none)) fun r => ?_
  rw [Keyset.mem_ahead, mem_searchRows, mem_searchRows]
  cases after <;> simp [sortKeyOf]

theorem searchPage_eq (request : PageRequest) (after : Option SearchPosition) :
    searchPage zones request.db query request.limit request.now after =
      let page := Keyset.page (sortKeyOf query) (request.rows zones query) request.limit
        (after.map (·.sortKey query.sort))
      { items := page.items, hasNextPage := page.more } := by
  rw [searchPage, flightSearchSql, searchRows_after]
  have more (n : Nat) : (min (request.limit + 1) n > request.limit) = (request.limit < n) := by
    rw [eq_iff_iff]
    omega
  simp only [Keyset.page, PageRequest.rows, List.take_take, Nat.min_eq_left (Nat.le_succ _),
    List.length_take, more]
  rfl

/-! ### Cursors are followed -/

/-- The data are such that a cursor can name every flight. -/
structure PageRequest.Nameable (request : PageRequest) : Prop where
  ids : ∀ flight ∈ request.db.flights, flight.id < 2 ^ 128
  years : ∀ flight ∈ request.db.flights, FourDigitYear flight.departureAt

/-- `AT TIME ZONE` moves a local time by less than a day. -/
def TimeZones.WithinDay (zones : TimeZones) : Prop :=
  ∀ timeZone l, -DAY_SECONDS ≤ zones timeZone l - l ∧ zones timeZone l - l ≤ DAY_SECONDS

/-- A flight a cursor can name. -/
structure FlightSearchResult.Named (r : FlightSearchResult) : Prop where
  id : r.id < 2 ^ 128
  year : FourDigitYear r.departureAt
  common : 1 ≤ (dateOf r.departureAt).year

theorem day_of_departure {first midnight departure : Int}
    (early : (⟨100, 1, 1⟩ : CivilDate).days ≤ first)
    (near : -DAY_SECONDS ≤ midnight - first * DAY_SECONDS) (departs : 1000 * midnight ≤ departure) :
    -719162 ≤ departure / DAY_MS := by
  have start : (⟨100, 1, 1⟩ : CivilDate).days = -683003 := by decide
  have seconds : DAY_SECONDS = 86400 := rfl
  have ms : DAY_MS = 86400000 := rfl
  rw [seconds] at near
  rw [ms]
  omega

/-- A flight that a valid search finds departs in the common era, at most a day before the
year 100. -/
theorem common_of_mem (within : zones.WithinDay) (valid : query.Valid)
    (mem : r ∈ request.rows zones query) : 1 ≤ (dateOf r.departureAt).year := by
  obtain ⟨⟨c, of, matched⟩, -⟩ := mem_searchRows.mp mem
  obtain ⟨lowest, -, rfl⟩ := matchFlight_eq_some.mp matched
  have departs := of.departs
  rw [departsWithin, Bool.and_eq_true, decide_eq_true_eq] at departs
  exact civilDate_year (day_of_departure valid.earliest (within _ _).1 departs.1)

/-- A result is a flight of the data. -/
theorem flight_of_mem (mem : r ∈ request.rows zones query) :
    ∃ flight ∈ request.db.flights, flight.id = r.id ∧ flight.departureAt = r.departureAt := by
  obtain ⟨⟨c, of, matched⟩, -⟩ := mem_searchRows.mp mem
  obtain ⟨lowest, -, rfl⟩ := matchFlight_eq_some.mp matched
  exact ⟨c.flight, of.flight, rfl, rfl⟩

theorem named_of_mem (within : zones.WithinDay) (valid : query.Valid) (nameable : request.Nameable)
    (mem : r ∈ request.rows zones query) : r.Named := by
  obtain ⟨flight, there, same, departs⟩ := flight_of_mem mem
  exact
    { id := same ▸ nameable.ids flight there
      year := departs ▸ nameable.years flight there
      common := common_of_mem within valid mem }

/-- The cursor of a named flight continues behind it. -/
theorem searchFlights_cursor (bytes : ∀ material, (sha256 material).length = 32) (named : r.Named)
    (zones : TimeZones) (query : FlightSearchQuery) (request : PageRequest) :
    ∃ after : SearchPosition, after.sortKey query.sort = sortKeyOf query r ∧
      searchFlights sha256 zones query request (some (encodeSearchCursor sha256 r.key query.scope)) =
        answerPage sha256 query
          (searchPage zones request.db query request.limit request.now (some after)) := by
  refine ⟨⟨r.departureAt, r.id, carriedFare query.sort r⟩, ?_, ?_⟩
  · cases sort : query.sort <;> simp only [sortKeyOf, sort] <;> rfl
  · rw [searchFlights]
    simp only [decode_encode (valid_key named.year named.id) bytes, carried_key,
      position_of_key named.year named.common named.id]
    rfl

/-- The answer for a keyset page. -/
def answerOf (sha256 : Digest) (query : FlightSearchQuery) (page : Keyset.Page FlightSearchResult) :
    SearchFlightsResult :=
  answerPage sha256 query { items := page.items, hasNextPage := page.more }

theorem nextCursor_answerOf (page : Keyset.Page FlightSearchResult) :
    (answerOf sha256 query page).nextCursor =
      if page.more then page.items.getLast?.map fun r => encodeSearchCursor sha256 r.key query.scope
      else none := rfl

/-- The rows and the limit of a request. -/
def PageRequest.served (zones : TimeZones) (query : FlightSearchQuery) (request : PageRequest) :
    List FlightSearchResult × Nat :=
  (request.rows zones query, request.limit)

/-- Following the cursors is following the keys: no cursor is rejected. -/
theorem followPages_eq (bytes : ∀ material, (sha256 material).length = 32) (within : zones.WithinDay)
    (valid : query.Valid)
    (each : ∀ request ∈ requests, 0 < request.limit ∧ request.Nameable)
    {cursor : Option (List Char)} (last : Option FlightSearchResult) (named : ∀ r ∈ last, r.Named)
    (handed : cursor = last.map fun r => encodeSearchCursor sha256 r.key query.scope) :
    followPages sha256 zones query requests cursor =
      (Keyset.follow (sortKeyOf query) (requests.map (·.served zones query))
        (last.map (sortKeyOf query))).map (answerOf sha256 query) := by
  induction requests generalizing cursor last with
  | nil => rfl
  | cons request requests ih =>
      have answer : searchFlights sha256 zones query request cursor = answerOf sha256 query
          (Keyset.page (sortKeyOf query) (request.served zones query).1 (request.served zones query).2
            (last.map (sortKeyOf query))) := by
        cases last with
        | none =>
            rw [handed]
            exact congrArg (answerPage sha256 query) (searchPage_eq request none)
        | some r =>
            obtain ⟨after, same, answer⟩ :=
              searchFlights_cursor bytes (named r rfl) zones query request
            rw [handed, Option.map_some, answer, searchPage_eq, Option.map_some, same]
            rfl
      obtain ⟨room, nameable⟩ := each request List.mem_cons_self
      have served : Keyset.Served (sortKeyOf query) (request.served zones query) :=
        ⟨strict_searchRows zones request.db query request.now none, room⟩
      rw [followPages, List.map_cons, answer, nextCursor_answerOf]
      by_cases more : (Keyset.page (sortKeyOf query) (request.served zones query).1
          (request.served zones query).2 (last.map (sortKeyOf query))).more = true
      · obtain ⟨final, isLast, -⟩ := Keyset.page_more served more
        have onPage := (Keyset.mem_page (List.mem_of_getLast? isLast)).1
        rw [if_pos more, isLast, Option.map_some, Keyset.follow_more more, isLast, List.map_cons]
        refine congrArg _ ?_
        refine ih (fun request h => each request (.tail _ h)) (some final) (fun r h => ?_) rfl
        cases h
        exact named_of_mem within valid nameable onPage
      · rw [if_neg more, Keyset.follow_last more]
        rfl

/-! ### The main result -/

/-- The whole search at the moment of the request has the flight, with the sort key. -/
def PageRequest.Matches (zones : TimeZones) (query : FlightSearchQuery) (id : Uuid)
    (key : Nat ×ₗ Int ×ₗ Nat) (request : PageRequest) : Prop :=
  ∃ r ∈ request.rows zones query, r.id = id ∧ r.sortKey query.sort = key

instance (zones : TimeZones) (query : FlightSearchQuery) (id : Uuid) (key : Nat ×ₗ Int ×ₗ Nat)
    (request : PageRequest) : Decidable (request.Matches zones query id key) :=
  inferInstanceAs (Decidable (∃ r ∈ _, _))

/-- The answer is a page within the limit, with a cursor exactly if there are more. -/
def SearchFlightsResult.IsPage (limit : Nat) (answer : SearchFlightsResult) : Prop :=
  ∃ items hasNextPage nextCursor, answer = .success items hasNextPage nextCursor ∧
    items.length ≤ limit ∧ (nextCursor.isSome ↔ hasNextPage = true)

theorem isPage_answerOf (served : Keyset.Served (sortKeyOf query) (request.served zones query))
    (after : Option (Nat ×ₗ Int ×ₗ Nat)) :
    (answerOf sha256 query (Keyset.page (sortKeyOf query) (request.served zones query).1
      (request.served zones query).2 after)).IsPage request.limit := by
  refine ⟨_, _, _, rfl, List.length_take_le .., ?_⟩
  by_cases more : (Keyset.page (sortKeyOf query) (request.served zones query).1
      (request.served zones query).2 after).more = true
  · obtain ⟨final, isLast, -⟩ := Keyset.page_more served more
    simp only [if_pos more, isLast, Option.map_some]
    exact iff_of_true rfl more
  · simp only [if_neg more]
    exact iff_of_false (by simp) more

/-- What is returned over all pages. -/
theorem items_followPages (pages : List (Keyset.Page FlightSearchResult)) :
    (pages.map (answerOf sha256 query)).flatMap (·.items) = pages.flatMap (·.items) := by
  rw [List.flatMap_map]
  rfl

theorem complete_of_answers {pages : List (Keyset.Page FlightSearchResult)}
    (done : (pages.map (answerOf sha256 query)).getLast?.any (!·.hasNextPage) = true) :
    Keyset.Complete pages := by
  rw [List.getLast?_map] at done
  cases isLast : pages.getLast? with
  | none =>
      rw [isLast] at done
      cases done
  | some p =>
      rw [isLast] at done
      exact ⟨p, isLast, by simpa [answerOf, answerPage, SearchFlightsResult.hasNextPage] using done⟩

/-- Following the cursors of a search over changing data: every answer is a page within
its limit, with a cursor exactly if there are more; the results are strictly increasing;
and once there are no more pages, each flight that the whole search had at every request,
with one sort key, was returned exactly once. -/
theorem search_pages_exact (sha256 : Digest) (bytes : ∀ material, (sha256 material).length = 32)
    (zones : TimeZones) (within : zones.WithinDay) (query : FlightSearchQuery) (valid : query.Valid)
    (requests : List PageRequest)
    (limits : ∀ request ∈ requests, 1 ≤ request.limit ∧ request.limit ≤ MAX_SEARCH_LIMIT)
    (nameable : ∀ request ∈ requests, request.Nameable) :
    let answers := followPages sha256 zones query requests none
    (∀ asked ∈ requests.zip answers, asked.2.IsPage asked.1.limit) ∧
      (answers.flatMap (·.items)).Pairwise (fun a b => a.sortKey query.sort < b.sortKey query.sort) ∧
      (answers.getLast?.any (!·.hasNextPage) = true → ∀ id key,
        (∀ request ∈ requests.take answers.length, request.Matches zones query id key) →
          (answers.flatMap (·.items)).countP (·.id = id) = 1) := by
  have served : ∀ request ∈ requests.map (·.served zones query),
      Keyset.Served (sortKeyOf query) request := by
    intro _ served
    obtain ⟨request, mem, rfl⟩ := List.mem_map.mp served
    exact ⟨strict_searchRows zones request.db query request.now none, (limits request mem).1⟩
  have answers := followPages_eq bytes within valid
    (fun request h => ⟨(limits request h).1, nameable request h⟩) none (fun r h => by cases h) rfl
  rw [Option.map_none] at answers
  have increasing : ((Keyset.follow (sortKeyOf query) (requests.map (·.served zones query)) none).flatMap
      (·.items)).Pairwise fun a b => sortKeyOf query a < sortKeyOf query b :=
    Keyset.follow_increasing served
  simp only []
  refine ⟨?_, ?_, ?_⟩
  · rw [answers, List.zip_map_right]
    intro _ asked
    obtain ⟨⟨request, page⟩, mem, rfl⟩ := List.mem_map.mp asked
    have mem' : (request.served zones query, page) ∈ (requests.map (·.served zones query)).zip
        (Keyset.follow (sortKeyOf query) (requests.map (·.served zones query)) none) := by
      rw [List.zip_map_left]
      exact List.mem_map_of_mem (f := Prod.map _ _) mem
    obtain ⟨after, same⟩ := Keyset.follow_zip mem'
    simp only at same
    subst same
    exact isPage_answerOf (served _ (List.mem_map_of_mem (List.of_mem_zip mem).1)) after
  · rw [answers, items_followPages]
    exact increasing
  · intro done id key present
    rw [answers] at done present ⊢
    rw [List.length_map] at present
    rw [items_followPages]
    obtain ⟨r, mem, own⟩ := Keyset.follow_complete served (complete_of_answers done) (k := key)
      (by simp) (by
        rw [← List.map_take]
        intro _ asked
        obtain ⟨request, taken, rfl⟩ := List.mem_map.mp asked
        obtain ⟨r, row, -, same⟩ := present request taken
        exact ⟨r, row, same⟩)
    have mine : ∀ x ∈ (Keyset.follow (sortKeyOf query) (requests.map (·.served zones query)) none).flatMap
        (·.items), x.id = id ↔ x = r := by
      intro x mem'
      obtain ⟨_, asked, row⟩ := Keyset.follow_mem mem'
      rw [← List.map_take] at asked
      obtain ⟨request, taken, rfl⟩ := List.mem_map.mp asked
      obtain ⟨x', row', own', same⟩ := present request taken
      constructor
      · intro isId
        have : x = x' := List.inj_on_of_nodup_map
          (nodup_searchRows zones request.db query request.now none) row row' (isId.trans own'.symm)
        exact Keyset.eq_of_increasing increasing mem' mem (by rw [this]; exact same.trans own.symm)
      · rintro rfl
        exact (sortKey_inj (own.trans same.symm)).trans own'
    have once : ((Keyset.follow (sortKeyOf query) (requests.map (·.served zones query)) none).flatMap
        (·.items)).Nodup :=
      increasing.imp fun lt same => absurd (congrArg _ same) (ne_of_lt lt)
    calc _ = List.countP (fun x => x == r) _ := List.countP_congr fun x mem' => by
            simpa using mine x mem'
      _ = 1 := List.count_eq_one_of_mem once mem

def hueFare : Money := ⟨1300000, by decide⟩

/-- Two flights from Huế to Đà Nẵng, an hour apart, at one fare. -/
def hueTwice : Db :=
  { hueDb with
    flights := ⟨[⟨1, "VN1", 1, 2, 1, 1000000000, 1007200000, .open⟩,
      ⟨2, "VN2", 1, 2, 1, 1003600000, 1010800000, .open⟩], by decide⟩
    seats := ⟨[⟨1, ⟨1, 'B'⟩, .economy, .available, none⟩,
      ⟨2, ⟨1, 'A'⟩, .economy, .available, none⟩], by decide⟩
    fares := ⟨[⟨1, .economy, hueFare⟩, ⟨2, .economy, hueFare⟩], by decide⟩ }

/-- The SHA-256 digest of the one text that is sealed on the way through `huePages`. -/
def hueDigest : Digest := fun material =>
  if material = Utf8.encode (sealedMaterial
      [.int 1300000, .string "1970-01-12T13:46:40.000Z".toList,
        .string "00000000-0000-0000-0000-000000000001".toList] hueQuery.scope).render then
    [118, 91, 239, 71, 196, 231, 61, 114, 32, 21, 105, 241, 219, 75, 45, 57, 121, 126, 33, 112, 229,
      38, 219, 162, 160, 173, 70, 205, 147, 106, 133, 37]
  else List.replicate 32 0

/-- Pages of one flight; the clock moves on between them. -/
def huePages : List PageRequest := [⟨hueTwice, 0, 1⟩, ⟨hueTwice, 5, 1⟩]

theorem search_pages_exact_hue :
    let answers := followPages hueDigest indochinaTime hueQuery huePages none
    (∀ asked ∈ huePages.zip answers, asked.2.IsPage asked.1.limit) ∧
      (answers.flatMap (·.items)).countP (·.id = 2) = 1 := by
  have bytes : ∀ material, (hueDigest material).length = 32 := by
    intro material
    rw [hueDigest]
    split
    · rfl
    · rfl
  have within : indochinaTime.WithinDay := by
    intro timeZone l
    rw [indochinaTime, DAY_SECONDS]
    omega
  have valid : hueQuery.Valid := by
    constructor <;> decide
  have limits : ∀ request ∈ huePages, 1 ≤ request.limit ∧ request.limit ≤ MAX_SEARCH_LIMIT := by
    intro request mem
    simp only [huePages, List.mem_cons, List.not_mem_nil, or_false] at mem
    rcases mem with rfl | rfl <;> decide
  have nameable : ∀ request ∈ huePages, request.Nameable := by
    intro request mem
    simp only [huePages, List.mem_cons, List.not_mem_nil, or_false] at mem
    rcases mem with rfl | rfl <;> constructor <;> decide
  obtain ⟨pages, -, once⟩ := search_pages_exact hueDigest bytes indochinaTime within hueQuery valid
    huePages limits nameable
  refine ⟨pages, once (by decide +kernel) 2 (toLex (1300000, toLex (1003600000, 2))) ?_⟩
  have present : ∀ request ∈ huePages,
      request.Matches indochinaTime hueQuery 2 (toLex (1300000, toLex (1003600000, 2))) := by
    intro request mem
    simp only [huePages, List.mem_cons, List.not_mem_nil, or_false] at mem
    rcases mem with rfl | rfl <;> decide +kernel
  exact fun request mem => present request (List.mem_of_mem_take mem)

end FlightBooking
