import FlightBooking.Domain.Digests
import FlightBooking.Flights.Search
import FlightBooking.Library.Base64Url
import FlightBooking.Library.Calendar
import FlightBooking.Library.Json
import FlightBooking.Library.Utf8

/-!
The cursor of a search: the key of a page's last flight, bound to the search it
belongs to.

A cursor is JSON in base64url; its seal is a digest of the key and the search. The
digest is an argument throughout. A cursor that was handed out decodes to its key
(`decode_encode`), for a departure whose year has four digits.
-/

namespace FlightBooking

open Numeral Calendar

/-! ### Texts of instants and identifiers -/

def DAY_MS : Int := 24 * 60 * 60 * 1000

/-- The fields of an ISO date-time in UTC. -/
structure IsoFields where
  year : Nat
  month : Nat
  day : Nat
  hour : Nat
  minute : Nat
  second : Nat
  millisecond : Nat
  deriving DecidableEq, Repr

/-- A year outside 0 to 9999 has a sign and six digits. -/
def isoYear (year : Int) : List Char :=
  if 0 ≤ year ∧ year ≤ 9999 then numeral 10 4 year.toNat
  else (if year < 0 then '-' else '+') :: numeral 10 6 year.natAbs

def isoDate (date : CivilDate) : List Char :=
  isoYear date.year ++
    '-' :: (numeral 10 2 date.month.toNat ++ '-' :: numeral 10 2 date.day.toNat)

/-- The UTC date of an instant. -/
def dateOf (instant : Instant) : CivilDate := civilDate (instant / DAY_MS)

/-- The milliseconds since midnight. -/
def msOfDay (instant : Instant) : Nat := (instant % DAY_MS).toNat

/-- `toISOString`. -/
def toISOString (instant : Instant) : List Char :=
  let ms := msOfDay instant
  isoDate (dateOf instant) ++
    'T' :: (numeral 10 2 (ms / 3600000) ++
      ':' :: (numeral 10 2 (ms / 60000 % 60) ++
        ':' :: (numeral 10 2 (ms / 1000 % 60) ++ '.' :: (numeral 10 3 (ms % 1000) ++ ['Z']))))

/-- The text behind a sign. -/
def behind (sign : Char) : List Char → Option (List Char)
  | [] => none
  | c :: rest => if c = sign then some rest else none

/-- `ISO_INSTANT`, with its fields. -/
def readIsoInstant (text : List Char) : Option IsoFields := do
  let (year, text) ← readField 10 4 text
  let (month, text) ← readField 10 2 (← behind '-' text)
  let (day, text) ← readField 10 2 (← behind '-' text)
  let (hour, text) ← readField 10 2 (← behind 'T' text)
  let (minute, text) ← readField 10 2 (← behind ':' text)
  let (second, text) ← readField 10 2 (← behind ':' text)
  let (millisecond, text) ← readField 10 3 (← behind '.' text)
  if text = ['Z'] then some { year, month, day, hour, minute, second, millisecond } else none

/-- `Date.parse` is no NaN: a day of the month is one of 31, and the last hour of a day
may be its 24th. -/
def IsoFields.isDate (fields : IsoFields) : Bool :=
  1 ≤ fields.month && fields.month ≤ 12 && 1 ≤ fields.day && fields.day ≤ 31 &&
    (fields.hour < 24 && fields.minute < 60 && fields.second < 60 ||
      fields.hour = 24 && fields.minute = 0 && fields.second = 0 && fields.millisecond = 0)

def IsoFields.date (fields : IsoFields) : CivilDate := ⟨fields.year, fields.month, fields.day⟩

/-- `::timestamptz`: the calendar must have the date, and it has no year 0. -/
def IsoFields.timestamptz (fields : IsoFields) : Option Instant :=
  if 1 ≤ fields.year ∧ fields.date.Exists then
    some (fields.date.days * DAY_MS + fields.hour * 3600000 + fields.minute * 60000 +
      fields.second * 1000 + fields.millisecond)
  else none

/-- A UUID in lower case, with its hyphens. -/
def uuidText (id : Uuid) : List Char :=
  numeral 16 8 (id / 16 ^ 24) ++
    '-' :: (numeral 16 4 (id / 16 ^ 20 % 16 ^ 4) ++
      '-' :: (numeral 16 4 (id / 16 ^ 16 % 16 ^ 4) ++
        '-' :: (numeral 16 4 (id / 16 ^ 12 % 16 ^ 4) ++ '-' :: numeral 16 12 (id % 16 ^ 12))))

/-- `UUID`, with its value. -/
def readUuid (text : List Char) : Option Uuid := do
  let (a, text) ← readField 16 8 text
  let (b, text) ← readField 16 4 (← behind '-' text)
  let (c, text) ← readField 16 4 (← behind '-' text)
  let (d, text) ← readField 16 4 (← behind '-' text)
  let (e, text) ← readField 16 12 (← behind '-' text)
  if text = [] then some (a * 16 ^ 24 + b * 16 ^ 20 + c * 16 ^ 16 + d * 16 ^ 12 + e) else none

/-! ### Keys -/

structure FlightSearchKey where
  departureAt : List Char
  id : List Char
  lowestFare : Nat
  deriving DecidableEq, Repr

/-- The key of a page's last flight. -/
def FlightSearchResult.key (r : FlightSearchResult) : FlightSearchKey where
  departureAt := toISOString r.departureAt
  id := uuidText r.id
  lowestFare := r.lowestFare.amount

/-- The key names an instant, a flight and an amount of money. -/
structure FlightSearchKey.Valid (key : FlightSearchKey) : Prop where
  departureAt : (readIsoInstant key.departureAt).any (·.isDate) = true
  id : (readUuid key.id).isSome = true
  safe : key.lowestFare ≤ maxSafeInteger

/-- The key as the statement compares it: `::timestamptz`, `::uuid` and `::bigint`. -/
def FlightSearchKey.position (key : FlightSearchKey) : Option SearchPosition := do
  let departureAt ← (← readIsoInstant key.departureAt).timestamptz
  let id ← readUuid key.id
  pure { departureAt, id, lowestFare := key.lowestFare }

/-- The key of a cursor, as JSON. -/
def FlightSearchKey.sortKey (key : FlightSearchKey) (sort : FlightSearchSort) : List Json.Value :=
  match sort with
  | .price => [.int key.lowestFare, .string key.departureAt, .string key.id]
  | .departure => [.string key.departureAt, .string key.id]

def VERSION : Int := 1

def MAX_CURSOR_LENGTH : Nat := 512

def FlightSearchSort.text : FlightSearchSort → List Char
  | .departure => "departure".toList
  | .price => "price".toList

/-- The parts of a search a cursor belongs to, as texts: everything but the page. -/
structure SearchCursorScope where
  origin : String
  destination : String
  departureDateFrom : List Char
  departureDateTo : List Char
  passengers : Nat
  sort : FlightSearchSort
  deriving DecidableEq, Repr

def FlightSearchQuery.scope (query : FlightSearchQuery) : SearchCursorScope where
  origin := query.origin
  destination := query.destination
  departureDateFrom := isoDate (civilDate query.departureDateFrom)
  departureDateTo := isoDate (civilDate query.departureDateTo)
  passengers := query.passengers
  sort := query.sort

/-- What is sealed: the version, the key and the normalised search. -/
def sealedMaterial (key : List Json.Value) (scope : SearchCursorScope) : Json.Value :=
  .array [.int VERSION, .array key, .string scope.origin.toList, .string scope.destination.toList,
    .string scope.departureDateFrom, .string scope.departureDateTo, .int scope.passengers,
    .string scope.sort.text]

/-- `seal`. -/
def sealOf (sha256 : Digest) (key : List Json.Value) (scope : SearchCursorScope) : List Char :=
  Base64Url.encode (sha256 (Utf8.encode (sealedMaterial key scope).render))

/-- What a cursor says, as JSON. -/
def cursorValue (sha256 : Digest) (key : FlightSearchKey) (scope : SearchCursorScope) : Json.Value :=
  let k := key.sortKey scope.sort
  .object [(['v'], .int VERSION), (['k'], .array k), (['s'], .string (sealOf sha256 k scope))]

def encodeSearchCursor (sha256 : Digest) (key : FlightSearchKey) (scope : SearchCursorScope) :
    List Char :=
  Base64Url.encode (Utf8.encode (cursorValue sha256 key scope).render)

/-- The checks of `readKey` on a departure, an id and a fare. -/
def keyOf (fare : Int) (departureAt id : List Char) : Option FlightSearchKey :=
  if ((readIsoInstant departureAt).any (·.isDate) && (readUuid id).isSome && 0 ≤ fare &&
      fare ≤ maxSafeInteger) then
    some { departureAt, id, lowestFare := fare.toNat }
  else none

def readKey (k : List Json.Value) (sort : FlightSearchSort) : Option FlightSearchKey :=
  match sort, k with
  | .price, [.int fare, .string departureAt, .string id] => keyOf fare departureAt id
  | .departure, [.string departureAt, .string id] => keyOf 0 departureAt id
  | _, _ => none

/-- `BASE64URL`. -/
def isBase64Url (cursor : List Char) : Bool :=
  cursor ≠ [] && cursor.all fun c => (Base64Url.value? c).isSome

/-- The key a cursor carries; `none` when it does not decode, has the wrong shape or
belongs to another search. -/
def decodeSearchCursor (sha256 : Digest) (cursor : List Char) (scope : SearchCursorScope) :
    Option FlightSearchKey :=
  if cursor.length > MAX_CURSOR_LENGTH || !isBase64Url cursor then none
  else
    match Json.parse (Utf8.decode (Base64Url.decode cursor)) with
    | none => none
    | some parsed =>
        match parsed.get? ['v'], parsed.get? ['k'], parsed.get? ['s'] with
        | some (.int v), some (.array k), some (.string s) =>
            if v = VERSION then
              (readKey k scope.sort).filter fun _ => s = sealOf sha256 k scope
            else none
        | _, _, _ => none

/-! ### Reading the texts back -/

variable {sha256 : Digest} {scope : SearchCursorScope} {instant : Instant} {id : Uuid}

@[simp] theorem behind_cons (sign : Char) (rest : List Char) : behind sign (sign :: rest) = some rest :=
  if_pos rfl

/-- The ISO form of the instant has a four-digit year. -/
def FourDigitYear (instant : Instant) : Prop :=
  0 ≤ (dateOf instant).year ∧ (dateOf instant).year ≤ 9999

instance (instant : Instant) : Decidable (FourDigitYear instant) :=
  inferInstanceAs (Decidable (_ ∧ _))

/-- The fields of an instant's ISO form. -/
def isoFields (instant : Instant) : IsoFields where
  year := (dateOf instant).year.toNat
  month := (dateOf instant).month.toNat
  day := (dateOf instant).day.toNat
  hour := msOfDay instant / 3600000
  minute := msOfDay instant / 60000 % 60
  second := msOfDay instant / 1000 % 60
  millisecond := msOfDay instant % 1000

theorem dateOf_bounds (instant : Instant) :
    1 ≤ (dateOf instant).month ∧ (dateOf instant).month ≤ 12 ∧
      1 ≤ (dateOf instant).day ∧ (dateOf instant).day ≤ 31 :=
  civilDate_bounds _

theorem split_day (t : Int) : (t % 86400000).toNat < 86400000 ∧
    t / 86400000 * 86400000 + ((t % 86400000).toNat : Int) = t := by
  omega

theorem msOfDay_lt (instant : Instant) : msOfDay instant < 86400000 := (split_day instant).1

theorem readIsoInstant_toISOString (year : FourDigitYear instant) :
    readIsoInstant (toISOString instant) = some (isoFields instant) := by
  have bounds := dateOf_bounds instant
  have ms := msOfDay_lt instant
  have isYear : (dateOf instant).year.toNat < 10 ^ 4 := by
    have := year.2
    omega
  have isMonth : (dateOf instant).month.toNat < 10 ^ 2 := by omega
  have isDay : (dateOf instant).day.toNat < 10 ^ 2 := by omega
  have isHour : msOfDay instant / 3600000 < 10 ^ 2 := by omega
  have isMinute : msOfDay instant / 60000 % 60 < 10 ^ 2 := by omega
  have isSecond : msOfDay instant / 1000 % 60 < 10 ^ 2 := by omega
  have isMs : msOfDay instant % 1000 < 10 ^ 3 := by omega
  have ten : 10 ≤ 16 := by decide
  have four : isoYear (dateOf instant).year = numeral 10 4 (dateOf instant).year.toNat := if_pos year
  simp only [toISOString, isoDate, four, readIsoInstant, List.append_assoc, List.cons_append,
    readField_numeral ten isYear, readField_numeral ten isMonth, readField_numeral ten isDay,
    readField_numeral ten isHour, readField_numeral ten isMinute, readField_numeral ten isSecond,
    readField_numeral ten isMs, behind_cons, Option.bind_eq_bind, Option.bind_some, if_pos]
  rfl

theorem isDate_isoFields (instant : Instant) : (isoFields instant).isDate = true := by
  have bounds := dateOf_bounds instant
  have ms := msOfDay_lt instant
  have month : 1 ≤ (isoFields instant).month ∧ (isoFields instant).month ≤ 12 := by
    simp only [isoFields]
    omega
  have day : 1 ≤ (isoFields instant).day ∧ (isoFields instant).day ≤ 31 := by
    simp only [isoFields]
    omega
  have time : (isoFields instant).hour < 24 ∧ (isoFields instant).minute < 60 ∧
      (isoFields instant).second < 60 := by
    simp only [isoFields]
    omega
  simp [IsoFields.isDate, month, day, time]

/-- The instant is that of its fields; the calendar of the database starts in year 1. -/
theorem timestamptz_isoFields (year : 1 ≤ (dateOf instant).year) :
    (isoFields instant).timestamptz = some instant := by
  have bounds := dateOf_bounds instant
  have same : (isoFields instant).date = dateOf instant := by
    simp only [IsoFields.date, isoFields]
    rw [Int.toNat_of_nonneg (by omega), Int.toNat_of_nonneg (by omega), Int.toNat_of_nonneg (by omega)]
  have first : 1 ≤ (isoFields instant).year := by
    simp only [isoFields]
    omega
  have whole : instant / DAY_MS * DAY_MS + (msOfDay instant : Int) = instant := (split_day instant).2
  have parts : ((isoFields instant).hour : Int) * 3600000 + (isoFields instant).minute * 60000 +
      (isoFields instant).second * 1000 + (isoFields instant).millisecond = msOfDay instant := by
    simp only [isoFields]
    omega
  rw [IsoFields.timestamptz, same, if_pos ⟨first, civilDate_exists _⟩, dateOf, days_civilDate]
  simp only [Int.add_assoc] at parts ⊢
  rw [parts, whole]

/-- The five fields of an identifier. -/
theorem uuid_fields (n : Nat) (fits : n < 2 ^ 128) :
    n / 16 ^ 24 < 16 ^ 8 ∧ n / 16 ^ 24 * 16 ^ 24 + n / 16 ^ 20 % 16 ^ 4 * 16 ^ 20 +
      n / 16 ^ 16 % 16 ^ 4 * 16 ^ 16 + n / 16 ^ 12 % 16 ^ 4 * 16 ^ 12 + n % 16 ^ 12 = n := by
  omega

theorem readUuid_uuidText (fits : id < 2 ^ 128) : readUuid (uuidText id) = some id := by
  obtain ⟨a, whole⟩ := uuid_fields id fits
  have b : id / 16 ^ 20 % 16 ^ 4 < 16 ^ 4 := Nat.mod_lt _ (by decide)
  have c : id / 16 ^ 16 % 16 ^ 4 < 16 ^ 4 := Nat.mod_lt _ (by decide)
  have d : id / 16 ^ 12 % 16 ^ 4 < 16 ^ 4 := Nat.mod_lt _ (by decide)
  have e : id % 16 ^ 12 < 16 ^ 12 := Nat.mod_lt _ (by decide)
  have sixteen : 16 ≤ 16 := by decide
  have last := readField_numeral sixteen e []
  rw [List.append_nil] at last
  simp only [readUuid, uuidText, readField_numeral sixteen a,
    readField_numeral sixteen b, readField_numeral sixteen c, readField_numeral sixteen d, last,
    behind_cons, Option.bind_eq_bind, Option.bind_some, if_pos, whole]

/-! ### The texts in a cursor -/

open Json (Plain)

theorem plain_base64 (bytes : List UInt8) : ∀ c ∈ Base64Url.encode bytes, Plain c := by
  have digits : ∀ d < 64, Plain (Base64Url.digit d) := by decide
  intro c h
  obtain ⟨d, lt, rfl⟩ := Base64Url.mem_encode h
  exact digits d lt

theorem behind_eq_some {sign : Char} {text rest : List Char} (h : behind sign text = some rest) :
    text = sign :: rest := by
  cases text with
  | nil => cases h
  | cons c text =>
      rw [behind, Option.ite_none_right_eq_some] at h
      obtain ⟨rfl, same⟩ := h
      cases same
      rfl

/-- What was read is plain, of such a length, in front of what is left. -/
def PlainFront (length : Nat) (text rest : List Char) : Prop :=
  ∃ front, text = front ++ rest ∧ front.length = length ∧ ∀ c ∈ front, Plain c

theorem PlainFront.field {base width n : Nat} {text rest : List Char} (small : base ≤ 16)
    (h : readField base width text = some (n, rest)) : PlainFront width text rest := by
  obtain ⟨digits, same, length, all⟩ := readField_spec h
  refine ⟨digits, same, length, fun c mem => ?_⟩
  obtain ⟨d, lt, rfl⟩ := all c mem
  have each : ∀ d < 16, Plain (Nat.digitChar d) := by decide
  exact each d (Nat.lt_of_lt_of_le lt small)

/-- A field behind a sign. -/
theorem PlainFront.behind {sign : Char} {base width length n : Nat} {text mid mid' rest : List Char}
    (front : PlainFront length text mid) (plain : Plain sign) (small : base ≤ 16)
    (hSign : FlightBooking.behind sign mid = some mid')
    (h : readField base width mid' = some (n, rest)) :
    PlainFront (length + 1 + width) text rest := by
  obtain ⟨front, rfl, rfl, all⟩ := front
  obtain ⟨digits, rfl, rfl, digit⟩ := PlainFront.field small h
  rw [behind_eq_some hSign]
  refine ⟨front ++ sign :: digits, by simp, by simp; omega, fun c mem => ?_⟩
  rcases List.mem_append.mp mem with mem | mem
  · exact all c mem
  · rcases List.mem_cons.mp mem with rfl | mem
    · exact plain
    · exact digit c mem

theorem plain_of_readIsoInstant {text : List Char} {fields : IsoFields}
    (h : readIsoInstant text = some fields) : (∀ c ∈ text, Plain c) ∧ text.length = 24 := by
  have signs : Plain '-' ∧ Plain ':' ∧ Plain '.' ∧ Plain 'T' ∧ Plain 'Z' := by decide
  obtain ⟨hyphen, colon, point, time, zulu⟩ := signs
  have ten : 10 ≤ 16 := by decide
  simp only [readIsoInstant, Option.bind_eq_bind, Option.bind_eq_some_iff, Prod.exists] at h
  obtain ⟨year, t₁, hYear, t₁', s₁, month, t₂, hMonth, t₂', s₂, day, t₃, hDay, t₃', s₃, hour, t₄, hHour,
    t₄', s₄, minute, t₅, hMinute, t₅', s₅, second, t₆, hSecond, t₆', s₆, ms, t₇, hMs, last⟩ := h
  have front := ((((((PlainFront.field ten hYear).behind hyphen ten s₁ hMonth).behind hyphen ten s₂
    hDay).behind time ten s₃ hHour).behind colon ten s₄ hMinute).behind colon ten s₅ hSecond).behind
      point ten s₆ hMs
  split at last
  · rename_i isLast
    obtain ⟨front, rfl, length, all⟩ := front
    rw [isLast]
    constructor
    · intro c mem
      rcases List.mem_append.mp mem with mem | mem
      · exact all c mem
      · exact List.mem_singleton.mp mem ▸ zulu
    · rw [List.length_append, length]
      rfl
  · cases last

theorem plain_of_readUuid {text : List Char} {id : Uuid} (h : readUuid text = some id) :
    (∀ c ∈ text, Plain c) ∧ text.length = 36 := by
  have hyphen : Plain '-' := by decide
  have sixteen : 16 ≤ 16 := by decide
  simp only [readUuid, Option.bind_eq_bind, Option.bind_eq_some_iff, Prod.exists] at h
  obtain ⟨a, t₁, hA, t₁', s₁, b, t₂, hB, t₂', s₂, c, t₃, hC, t₃', s₃, d, t₄, hD, t₄', s₄, e, t₅, hE,
    last⟩ := h
  have front := ((((PlainFront.field sixteen hA).behind hyphen sixteen s₁ hB).behind hyphen sixteen s₂
    hC).behind hyphen sixteen s₃ hD).behind hyphen sixteen s₄ hE
  split at last
  · rename_i isLast
    obtain ⟨front, rfl, length, all⟩ := front
    rw [isLast, List.append_nil]
    exact ⟨all, length⟩
  · cases last

/-- ASCII, of at most so many characters. -/
def Ascii (most : Nat) (text : List Char) : Prop :=
  (∀ c ∈ text, c.toNat < 128) ∧ text.length ≤ most

theorem ascii_of_all {most : Nat} {text : List Char}
    (all : (text.all (·.toNat < 128) && text.length ≤ most) = true) : Ascii most text := by
  rw [Bool.and_eq_true, List.all_eq_true] at all
  exact ⟨fun c h => of_decide_eq_true (all.1 c h), of_decide_eq_true all.2⟩

theorem Ascii.append {m n : Nat} {a b : List Char} (ha : Ascii m a) (hb : Ascii n b) :
    Ascii (m + n) (a ++ b) := by
  constructor
  · exact List.forall_mem_append.mpr ⟨ha.1, hb.1⟩
  · rw [List.length_append]
    exact Nat.add_le_add ha.2 hb.2

theorem Ascii.mono {m n : Nat} {a : List Char} (ha : Ascii m a) (le : m ≤ n) : Ascii n a :=
  ⟨ha.1, Nat.le_trans ha.2 le⟩

theorem ascii_renderInt {n : Nat} (safe : n ≤ maxSafeInteger) : Ascii 16 (Json.renderInt n) := by
  have natural : ¬ (n : Int) < 0 := by omega
  rw [Json.renderInt, if_neg natural, Int.natAbs_natCast]
  constructor
  · exact fun c h => (Json.plain_toDigits _ c h).2
  · rw [Nat.length_toDigits_le_iff (by decide) (by decide)]
    exact Nat.lt_of_le_of_lt safe (by decide)

/-- A plain text is written with its two quotes. -/
theorem ascii_renderString {s : List Char} {n : Nat} (plain : ∀ c ∈ s, Plain c) (length : s.length = n) :
    Ascii (1 + n + 1) (Json.renderString s) := by
  have quoted : Ascii 1 [Json.quote] := ascii_of_all rfl
  rw [Json.renderString_plain plain]
  exact (quoted.append ⟨fun c h => (plain c h).2, length.le⟩).append quoted

theorem ascii_sortKey {key : FlightSearchKey} (valid : key.Valid) (sort : FlightSearchSort) :
    Ascii 82 (Json.renderItems (key.sortKey sort)) := by
  obtain ⟨fields, read, -⟩ := (Option.any_eq_true _ _).mp valid.departureAt
  obtain ⟨id, readId⟩ := Option.isSome_iff_exists.mp valid.id
  obtain ⟨plainDeparture, departure⟩ := plain_of_readIsoInstant read
  obtain ⟨plainId, length⟩ := plain_of_readUuid readId
  have comma : Ascii 1 [','] := ascii_of_all rfl
  have tail := (ascii_renderString plainDeparture departure).append
    (comma.append (ascii_renderString plainId length))
  cases sort with
  | departure => exact tail.mono (by decide)
  | price => exact ((ascii_renderInt valid.safe).append (comma.append tail)).mono (by decide)

/-- The JSON in a cursor is ASCII and short. -/
theorem ascii_cursorValue {key : FlightSearchKey} (valid : key.Valid)
    (bytes : ∀ material, (sha256 material).length = 32) :
    Ascii 160 (cursorValue sha256 key scope).render := by
  have length : (sealOf sha256 (key.sortKey scope.sort) scope).length = 43 := by
    rw [sealOf, Base64Url.length_encode, bytes]
  have version : Ascii 6 (Json.renderString ['v'] ++ ':' :: (Json.renderInt VERSION ++ [','])) :=
    ascii_of_all rfl
  have name : Ascii 5 (Json.renderString ['k'] ++ [':', '[']) ∧
      Ascii 6 (']' :: ',' :: Json.renderString ['s'] ++ [':']) := ⟨ascii_of_all rfl, ascii_of_all rfl⟩
  have braces : Ascii 1 ['{'] ∧ Ascii 1 ['}'] := ⟨ascii_of_all rfl, ascii_of_all rfl⟩
  have whole := braces.1.append (version.append (name.1.append ((ascii_sortKey valid scope.sort).append
    (name.2.append ((ascii_renderString (plain_base64 _) length).append braces.2)))))
  simp only [List.append_assoc, List.cons_append, List.nil_append] at whole
  simp only [cursorValue, sealOf, Json.Value.render, Json.renderMembers, List.append_assoc,
    List.cons_append, List.nil_append]
  exact whole.mono (by decide)

/-! ### Following a cursor -/

theorem exact_cursorValue (sha256 : Digest) (key : FlightSearchKey) (scope : SearchCursorScope) :
    (cursorValue sha256 key scope).Exact := by
  refine .object fun member mem => ?_
  simp only [List.mem_cons, List.not_mem_nil, or_false] at mem
  rcases mem with rfl | rfl | rfl
  · exact .int _
  · refine .array fun item mem => ?_
    cases sort : scope.sort <;>
      · simp only [sort, FlightSearchKey.sortKey, List.mem_cons, List.not_mem_nil, or_false] at mem
        rcases mem with rfl | rfl | rfl <;> constructor
  · exact .string _

theorem encodeSearchCursor_wellFormed {key : FlightSearchKey} (valid : key.Valid)
    (bytes : ∀ material, (sha256 material).length = 32) (scope : SearchCursorScope) :
    (encodeSearchCursor sha256 key scope).length ≤ MAX_CURSOR_LENGTH ∧
      isBase64Url (encodeSearchCursor sha256 key scope) = true := by
  obtain ⟨ascii, short⟩ : Ascii 160 (cursorValue sha256 key scope).render :=
    ascii_cursorValue valid bytes
  have length := Utf8.length_encode_ascii ascii
  constructor
  · rw [encodeSearchCursor, Base64Url.length_encode, length, MAX_CURSOR_LENGTH]
    omega
  · have some : 0 < (cursorValue sha256 key scope).render.length := by
      obtain ⟨c, tail, head, -⟩ := (exact_cursorValue sha256 key scope).head
      rw [head]
      exact Nat.succ_pos _
    have nonempty : encodeSearchCursor sha256 key scope ≠ [] := by
      intro empty
      have none : (encodeSearchCursor sha256 key scope).length = 0 := by rw [empty]; rfl
      rw [encodeSearchCursor, Base64Url.length_encode, length] at none
      omega
    rw [isBase64Url, Bool.and_eq_true]
    refine ⟨by simpa using nonempty, List.all_eq_true.mpr fun c mem => ?_⟩
    obtain ⟨n, lt, rfl⟩ := Base64Url.mem_encode mem
    rw [Base64Url.value_digit n lt]
    rfl

/-- What a cursor carries of a key: the fare only for the order by price. -/
def FlightSearchKey.carried (key : FlightSearchKey) (sort : FlightSearchSort) : FlightSearchKey :=
  match sort with
  | .price => key
  | .departure => { key with lowestFare := 0 }

/-- `readKey` accepts a valid key. -/
theorem readKey_sortKey {key : FlightSearchKey} (valid : key.Valid) (sort : FlightSearchSort) :
    readKey (key.sortKey sort) sort = some (key.carried sort) := by
  have fare := valid.safe
  cases sort <;>
    · simp only [FlightSearchKey.sortKey, readKey, keyOf, valid.departureAt, valid.id, Bool.true_and]
      rw [if_pos]
      · rfl
      · simp
        try omega

/-- The JSON of a cursor that was handed out. -/
theorem parse_encodeSearchCursor (key : FlightSearchKey) :
    Json.parse (Utf8.decode (Base64Url.decode (encodeSearchCursor sha256 key scope))) =
      some (cursorValue sha256 key scope) := by
  rw [encodeSearchCursor, Base64Url.decode_encode, Utf8.decode_encode,
    Json.parse_render (exact_cursorValue ..)]

theorem decode_encode {key : FlightSearchKey} (valid : key.Valid)
    (bytes : ∀ material, (sha256 material).length = 32) :
    decodeSearchCursor sha256 (encodeSearchCursor sha256 key scope) scope =
      some (key.carried scope.sort) := by
  obtain ⟨short, digits⟩ := encodeSearchCursor_wellFormed valid bytes scope
  have accepted : ¬ ((encodeSearchCursor sha256 key scope).length > MAX_CURSOR_LENGTH ||
      !isBase64Url (encodeSearchCursor sha256 key scope)) = true := by
    simp only [digits, Bool.not_true, Bool.or_false, decide_eq_true_eq]
    omega
  have version : (cursorValue sha256 key scope).get? ['v'] = some (.int VERSION) := rfl
  have member : (cursorValue sha256 key scope).get? ['k'] =
    some (.array (key.sortKey scope.sort)) := rfl
  have sealed : (cursorValue sha256 key scope).get? ['s'] =
    some (.string (sealOf sha256 (key.sortKey scope.sort) scope)) := rfl
  rw [decodeSearchCursor, if_neg accepted, parse_encodeSearchCursor]
  simp only [version, member, sealed, if_pos, readKey_sortKey valid]
  exact Option.filter_some_pos (by simp)

/-! ### The keys of flights -/

theorem valid_key {r : FlightSearchResult} (year : FourDigitYear r.departureAt)
    (fits : r.id < 2 ^ 128) : r.key.Valid where
  departureAt := by
    rw [FlightSearchResult.key, readIsoInstant_toISOString year, Option.any_some, isDate_isoFields]
  id := by rw [FlightSearchResult.key, readUuid_uuidText fits, Option.isSome_some]
  safe := r.lowestFare.safe

/-- A cursor carries the fare only for the order by price. -/
def carriedFare (sort : FlightSearchSort) (r : FlightSearchResult) : Nat :=
  match sort with
  | .price => r.lowestFare.amount
  | .departure => 0

theorem carried_key (r : FlightSearchResult) (sort : FlightSearchSort) :
    r.key.carried sort = { r.key with lowestFare := carriedFare sort r } := by
  cases sort <;> rfl

/-- The key a cursor carries is compared where the flight was. -/
theorem position_of_key {r : FlightSearchResult} (year : FourDigitYear r.departureAt)
    (common : 1 ≤ (dateOf r.departureAt).year) (fits : r.id < 2 ^ 128) (fare : Nat) :
    ({ r.key with lowestFare := fare } : FlightSearchKey).position =
      some { departureAt := r.departureAt, id := r.id, lowestFare := fare } := by
  simp only [FlightSearchKey.position, FlightSearchResult.key, readIsoInstant_toISOString year,
    readUuid_uuidText fits, timestamptz_isoFields common, Option.bind_eq_bind, Option.bind_some,
    Option.pure_def]

end FlightBooking
