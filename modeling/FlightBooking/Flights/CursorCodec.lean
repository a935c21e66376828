import FlightBooking.Flights.SearchCursor

/-!
The cursor codec: decoding undoes encoding and accepts nothing else.

The digest is taken to have 32 bytes and, where two texts are compared, to tell them
apart. A cursor that decodes carries the seal of its key under the search it is read
for (`decode_sealed`), so that of another search is rejected.
-/

namespace FlightBooking

variable {sha256 : Digest} {scope other : SearchCursorScope} {key : FlightSearchKey}
  {cursor : List Char}

/-- The JSON a cursor carries. -/
def cursorJson (cursor : List Char) : Option Json.Value :=
  Json.parse (Utf8.decode (Base64Url.decode cursor))

/-- The text that is digested. -/
def sealedText (key : List Json.Value) (scope : SearchCursorScope) : List UInt8 :=
  Utf8.encode (sealedMaterial key scope).render

/-! ### What decoding accepts -/

theorem keyOf_eq_some {fare : Int} {departureAt id : List Char}
    (h : keyOf fare departureAt id = some key) :
    key.Valid ∧ key.departureAt = departureAt ∧ key.id = id ∧ (key.lowestFare : Int) = fare := by
  unfold keyOf at h
  split at h
  · rename_i checks
    cases h
    simp only [Bool.and_eq_true, decide_eq_true_eq] at checks
    obtain ⟨⟨⟨departure, isId⟩, natural⟩, safe⟩ := checks
    have same : (fare.toNat : Int) = fare := Int.toNat_of_nonneg natural
    exact ⟨⟨departure, isId, by simp only; omega⟩, rfl, rfl, same⟩
  · cases h

/-- `readKey` reads the members that the key is written as. -/
theorem readKey_eq_some {k : List Json.Value} {sort : FlightSearchSort}
    (h : readKey k sort = some key) : key.Valid ∧ k = key.sortKey sort := by
  unfold readKey at h
  split at h
  · obtain ⟨valid, rfl, rfl, rfl⟩ := keyOf_eq_some h
    exact ⟨valid, rfl⟩
  · obtain ⟨valid, rfl, rfl, -⟩ := keyOf_eq_some h
    exact ⟨valid, rfl⟩
  · cases h

/-- A cursor decodes only to a key it is sealed with, under the search it is read for. -/
theorem decode_sealed (h : decodeSearchCursor sha256 cursor scope = some key) :
    key.Valid ∧ ∃ parsed, cursorJson cursor = some parsed ∧
      parsed.get? ['k'] = some (.array (key.sortKey scope.sort)) ∧
      parsed.get? ['s'] = some (.string (sealOf sha256 (key.sortKey scope.sort) scope)) := by
  unfold decodeSearchCursor at h
  split at h
  · cases h
  · split at h
    · cases h
    · rename_i parsed json
      split at h
      · rename_i v k s version member sealed
        split at h
        · obtain ⟨read, same⟩ := Option.filter_eq_some_iff.mp h
          obtain ⟨valid, rfl⟩ := readKey_eq_some read
          have isSeal : s = sealOf sha256 (key.sortKey scope.sort) scope := of_decide_eq_true same
          exact ⟨valid, parsed, json, member, isSeal ▸ sealed⟩
        · cases h
      · cases h

/-! ### What a seal binds -/

theorem text_injective {sort sort' : FlightSearchSort} (h : sort.text = sort'.text) : sort = sort' := by
  cases sort <;> cases sort' <;> first | rfl | exact absurd h (by decide)

theorem exact_sortKey (key : FlightSearchKey) (sort : FlightSearchSort) :
    ∀ item ∈ key.sortKey sort, item.Exact := by
  intro item mem
  cases sort <;>
    · simp only [FlightSearchKey.sortKey, List.mem_cons, List.not_mem_nil, or_false] at mem
      rcases mem with rfl | rfl | rfl <;> constructor

theorem exact_sealedMaterial {k : List Json.Value} (exact : ∀ item ∈ k, item.Exact)
    (scope : SearchCursorScope) : (sealedMaterial k scope).Exact := by
  refine .array fun item mem => ?_
  simp only [List.mem_cons, List.not_mem_nil, or_false] at mem
  rcases mem with rfl | rfl | rfl | rfl | rfl | rfl | rfl | rfl
  · exact .int _
  · exact .array exact
  · exact .string _
  · exact .string _
  · exact .string _
  · exact .string _
  · exact .int _
  · exact .string _

/-- The text that is digested determines the search. -/
theorem sealedText_injective {k : List Json.Value} (exact : ∀ item ∈ k, item.Exact)
    (same : sealedText k scope = sealedText k other) : scope = other := by
  have rendered : (sealedMaterial k scope).render = (sealedMaterial k other).render := by
    have decoded := congrArg Utf8.decode same
    rwa [sealedText, sealedText, Utf8.decode_encode, Utf8.decode_encode] at decoded
  have parsed := congrArg Json.parse rendered
  rw [Json.parse_render (exact_sealedMaterial exact scope),
    Json.parse_render (exact_sealedMaterial exact other)] at parsed
  simp only [sealedMaterial, Option.some.injEq, Json.Value.array.injEq, List.cons.injEq,
    Json.Value.string.injEq, Json.Value.int.injEq, true_and, and_true, String.toList_inj,
    Int.natCast_inj] at parsed
  obtain ⟨origin, destination, first, last, passengers, sort⟩ := parsed
  cases scope
  cases other
  simp only [SearchCursorScope.mk.injEq]
  exact ⟨origin, destination, first, last, passengers, text_injective sort⟩

/-- Equal seals, equal digests. -/
theorem sha256_of_sealOf {k : List Json.Value} (h : sealOf sha256 k scope = sealOf sha256 k other) :
    sha256 (sealedText k scope) = sha256 (sealedText k other) := by
  have decoded := congrArg Base64Url.decode h
  rwa [sealOf, sealOf, Base64Url.decode_encode, Base64Url.decode_encode] at decoded

theorem decode_other (differ : scope ≠ other)
    (separates : sha256.Separates (sealedText (key.sortKey scope.sort) scope)
      (sealedText (key.sortKey scope.sort) other)) :
    decodeSearchCursor sha256 (encodeSearchCursor sha256 key scope) other = none := by
  cases decoded : decodeSearchCursor sha256 (encodeSearchCursor sha256 key scope) other with
  | none => rfl
  | some read =>
      obtain ⟨-, parsed, json, members, sealed⟩ := decode_sealed decoded
      rw [cursorJson, parse_encodeSearchCursor] at json
      cases json
      -- The members and the seal of the cursor are those it was made with.
      have own : key.sortKey scope.sort = read.sortKey other.sort := by
        have same := Option.some.inj members
        exact Json.Value.array.inj same
      have same : sealOf sha256 (key.sortKey scope.sort) scope =
          sealOf sha256 (key.sortKey scope.sort) other := by
        rw [own]
        have bound := Json.Value.string.inj (Option.some.inj sealed)
        rwa [own] at bound
      exact absurd (sealedText_injective (exact_sortKey key scope.sort)
        (separates (sha256_of_sealOf same))) differ

/-! ### The main result -/

/-- The codec of a search. A valid key is encoded within the limit and decoded to what its
sort order carries of it; any text decodes only to a valid key whose seal under this
search it carries; and a cursor made for this search is rejected by every other. -/
theorem cursor_codec (sha256 : Digest) (bytes : ∀ material, (sha256 material).length = 32)
    (scope : SearchCursorScope) :
    (∀ key : FlightSearchKey, key.Valid →
      (encodeSearchCursor sha256 key scope).length ≤ MAX_CURSOR_LENGTH ∧
        decodeSearchCursor sha256 (encodeSearchCursor sha256 key scope) scope =
          some (key.carried scope.sort)) ∧
    (∀ cursor key, decodeSearchCursor sha256 cursor scope = some key →
      key.Valid ∧ ∃ parsed, cursorJson cursor = some parsed ∧
        parsed.get? ['k'] = some (.array (key.sortKey scope.sort)) ∧
        parsed.get? ['s'] = some (.string (sealOf sha256 (key.sortKey scope.sort) scope))) ∧
    ∀ key other, scope ≠ other →
      sha256.Separates (sealedText (key.sortKey scope.sort) scope)
        (sealedText (key.sortKey scope.sort) other) →
      decodeSearchCursor sha256 (encodeSearchCursor sha256 key scope) other = none := by
  refine ⟨?_, ?_, ?_⟩
  · intro key valid
    exact ⟨(encodeSearchCursor_wellFormed valid bytes scope).1, decode_encode valid bytes⟩
  · intro cursor key
    exact decode_sealed
  · intro key other
    exact decode_other

/-! ### One cursor, two searches -/

def hueScope : SearchCursorScope where
  origin := "HUI"
  destination := "DAD"
  departureDateFrom := "2026-11-20".toList
  departureDateTo := "2026-11-20".toList
  passengers := 1
  sort := .price

def hueKey : FlightSearchKey where
  departureAt := "2026-11-19T23:00:00.000Z".toList
  id := "00000000-0000-0000-0000-000000000001".toList
  lowestFare := 1300000

/-- The same search for two passengers. -/
def hueScopeOfTwo : SearchCursorScope := { hueScope with passengers := 2 }

/-- The SHA-256 digests of the two texts that are sealed. -/
def hueKeyDigest : Digest := fun material =>
  if material = sealedText (hueKey.sortKey .price) hueScope then
    [139, 44, 155, 92, 184, 176, 8, 47, 212, 114, 232, 75, 11, 126, 16, 218, 247, 126, 28, 163,
      202, 79, 48, 130, 227, 51, 67, 7, 22, 233, 134, 52]
  else if material = sealedText (hueKey.sortKey .price) hueScopeOfTwo then
    [251, 202, 90, 151, 143, 6, 63, 117, 168, 152, 255, 120, 242, 74, 222, 93, 212, 126, 9, 56,
      39, 25, 96, 128, 188, 177, 16, 103, 6, 234, 186, 130]
  else List.replicate 32 0

theorem cursor_codec_hue :
    decodeSearchCursor hueKeyDigest (encodeSearchCursor hueKeyDigest hueKey hueScope) hueScope =
        some hueKey ∧
      decodeSearchCursor hueKeyDigest (encodeSearchCursor hueKeyDigest hueKey hueScope)
        hueScopeOfTwo = none := by
  have bytes : ∀ material, (hueKeyDigest material).length = 32 := by
    intro material
    rw [hueKeyDigest]
    split
    · rfl
    · split
      · rfl
      · rfl
  have valid : hueKey.Valid := by
    constructor <;> decide +kernel
  have differ : hueScope ≠ hueScopeOfTwo := by decide
  have texts : sealedText (hueKey.sortKey .price) hueScopeOfTwo ≠
      sealedText (hueKey.sortKey .price) hueScope := by decide +kernel
  have separates : hueKeyDigest.Separates (sealedText (hueKey.sortKey hueScope.sort) hueScope)
      (sealedText (hueKey.sortKey hueScope.sort) hueScopeOfTwo) := by
    intro same
    change hueKeyDigest (sealedText (hueKey.sortKey .price) hueScope) =
      hueKeyDigest (sealedText (hueKey.sortKey .price) hueScopeOfTwo) at same
    rw [hueKeyDigest, if_pos rfl, hueKeyDigest, if_neg texts, if_pos rfl] at same
    exact absurd same (by decide)
  obtain ⟨decoded, -, rejected⟩ := cursor_codec hueKeyDigest bytes hueScope
  constructor
  · exact (decoded hueKey valid).2
  · exact rejected hueKey hueScopeOfTwo differ separates

end FlightBooking
