import FlightBooking.Flights.Fares
import FlightBooking.Library.Checks
import FlightBooking.Library.Json
import FlightBooking.Library.Text
import Mathlib.Data.List.Nodup

/-!
Seat layouts: from the compact description of an aircraft's cabins to its seats, or to
every problem found.

A cabin that was parsed is well formed by its type. `IsLayout` says which inputs
describe which cabins; they are the accepted ones (`expandSeatLayout_eq_ok`).
-/

namespace FlightBooking

open Checks

/-! ### Rows and letters -/

def MIN_ROW : Nat := 1

def MAX_ROW : Nat := 99

/-- `SEAT_LETTER`. -/
def isSeatLetter (letter : Char) : Bool := 'A' ≤ letter && letter ≤ 'K'

abbrev SeatRow := { row : Nat // MIN_ROW ≤ row ∧ row ≤ MAX_ROW }

/-- The row a value is, if `isSeatRow` holds of it. -/
def seatRow? : Option Json.Value → Option SeatRow
  | some (.int n) =>
      if row : (MIN_ROW : Int) ≤ n ∧ n ≤ MAX_ROW then some ⟨n.toNat, by omega⟩ else none
  | _ => none

/-! ### Cabins -/

def MAX_CABINS : Nat := 10

def MAX_LETTERS_PER_ROW : Nat := 10

def MAX_SEATS : Nat := 900

/-- The letters of a row: some, not too many, each a seat letter, none twice. -/
structure SeatLetters where
  letters : List Char
  some : letters ≠ []
  bounded : letters.length ≤ MAX_LETTERS_PER_ROW
  each : ∀ letter ∈ letters, isSeatLetter letter = true
  distinct : letters.Nodup
  deriving DecidableEq

structure Cabin extends SeatLetters where
  fareClass : FareClass
  fromRow : Nat
  toRow : Nat
  first : MIN_ROW ≤ fromRow
  ordered : fromRow ≤ toRow
  last : toRow ≤ MAX_ROW
  deriving DecidableEq

/-- `letters.filter((letter, index) => letters.indexOf(letter) !== index)`. -/
def repeatedLetters (letters : List Char) : List Char :=
  (letters.zipIdx.filter fun l => letters.idxOf l.1 ≠ l.2).map (·.1)

theorem repeatedLetters_eq_nil {letters : List Char} : repeatedLetters letters = [] ↔ letters.Nodup := by
  rw [repeatedLetters, List.map_eq_nil_iff, List.filter_eq_nil_iff, List.nodup_iff_injective_getElem]
  constructor
  · intro first i j same
    have own : ∀ k : Fin letters.length, letters.idxOf letters[k] = k := by
      intro k
      simpa using first (letters[k], k) (List.mem_zipIdx_iff_getElem?.mpr (by simp))
    have equal : letters[i] = letters[j] := same
    refine Fin.ext ?_
    rw [← own i, ← own j, equal]
  · rintro injective ⟨letter, i⟩ mem
    have here := List.mem_zipIdx_iff_getElem?.mp mem
    simp only at here
    obtain ⟨lt, rfl⟩ := List.getElem?_eq_some_iff.mp here
    have distinct := List.nodup_iff_injective_getElem.mpr injective
    simp [distinct.idxOf_getElem]

def joined (letters : List Char) : String := ", ".intercalate (letters.map toString)

theorem length_le_utf16Length (text : List Char) : text.length ≤ Text.utf16Length text := by
  induction text with
  | nil => exact Nat.le_refl _
  | cons c text ih =>
      simp only [Text.utf16Length, List.map_cons, List.sum_cons, List.length_cons] at ih ⊢
      split <;> omega

def parseSeatLetters (raw : Option Json.Value) (field : String) :
    Except ValidationIssue SeatLetters :=
  match raw with
  | some (.string letters) =>
      if room : Text.trim letters ≠ [] ∧ Text.utf16Length letters ≤ MAX_LETTERS_PER_ROW then
        if valid : letters.filter (fun letter => !isSeatLetter letter) = [] then
          if distinct : repeatedLetters letters = [] then
            .ok
              { letters
                some := fun none => room.1 (by rw [none]; rfl)
                bounded := Nat.le_trans (length_le_utf16Length letters) room.2
                each := by simpa using valid
                distinct := repeatedLetters_eq_nil.mp distinct }
          else .error ⟨field, "DUPLICATE_SEAT_LETTER",
            "seatLetters repeats " ++ joined (repeatedLetters letters).eraseDups⟩
        else .error ⟨field, "INVALID_SEAT_LETTERS", "seatLetters may only contain A to K (got " ++
          joined (letters.filter fun letter => !isSeatLetter letter) ++ ")"⟩
      else .error ⟨field, "INVALID_SEAT_LETTERS", "seatLetters must be 1 to " ++
        toString MAX_LETTERS_PER_ROW ++ " letters from A to K"⟩
  | _ => .error ⟨field, "INVALID_SEAT_LETTERS", "seatLetters must be 1 to " ++
      toString MAX_LETTERS_PER_ROW ++ " letters from A to K"⟩

/-- The class a value names, if `isFareClass` holds of it. -/
def fareClass? : Option Json.Value → Option FareClass
  | some (.string name) => toFareClass (String.ofList name)
  | _ => none

def fareClassNames : String := ", ".intercalate (FARE_CLASSES.map FareClass.name)

def invalidRow (field key : String) : ValidationIssue :=
  ⟨field ++ "." ++ key, "INVALID_ROW", key ++ " must be an integer from 1 to " ++ toString MAX_ROW⟩

/-- The cabin of its members as they were read, or every problem with them. -/
def cabinOf (field : String) (fareClass : Option FareClass) (fromRow toRow : Option SeatRow)
    (letters : Except ValidationIssue SeatLetters) : Except (List ValidationIssue) Cabin :=
  let issues :=
    (if fareClass.isNone then [⟨field ++ ".fareClass", "INVALID_FARE_CLASS",
      "fareClass must be one of " ++ fareClassNames⟩] else []) ++
    (if fromRow.isNone then [invalidRow field "fromRow"] else []) ++
    (if toRow.isNone then [invalidRow field "toRow"] else []) ++
    (match fromRow, toRow with
      | some fromRow, some toRow =>
          if fromRow.1 > toRow.1 then [⟨field ++ ".toRow", "INVALID_ROW_RANGE",
            "toRow must not be lower than fromRow"⟩]
          else []
      | _, _ => []) ++
    (match letters with
      | .ok _ => []
      | .error issue => [issue])
  match fareClass, fromRow, toRow, letters with
  | some fareClass, some fromRow, some toRow, .ok letters =>
      if ordered : fromRow.1 ≤ toRow.1 then .ok
        { letters with
          fareClass
          fromRow := fromRow.1
          toRow := toRow.1
          first := fromRow.2.1
          ordered
          last := toRow.2.2 }
      else .error issues
  | _, _, _, _ => .error issues

def parseCabin (raw : Json.Value) (field : String) : Except (List ValidationIssue) Cabin :=
  match raw with
  | .object _ => cabinOf field (fareClass? (raw.get? "fareClass".toList))
      (seatRow? (raw.get? "fromRow".toList)) (seatRow? (raw.get? "toRow".toList))
      (parseSeatLetters (raw.get? "seatLetters".toList) (field ++ ".seatLetters"))
  | _ => .error [⟨field, "INVALID_CABIN", field ++ " must be an object"⟩]

def seatCount (cabin : Cabin) : Nat := (cabin.toRow - cabin.fromRow + 1) * cabin.letters.length

/-- The rows two cabins share, if they do: no row may belong to two. -/
def overlapOf (field : String) (cabin other : Cabin × Nat) : List ValidationIssue :=
  let firstRow := max cabin.1.fromRow other.1.fromRow
  let lastRow := min cabin.1.toRow other.1.toRow
  if firstRow > lastRow then []
  else
    let rows := if firstRow = lastRow then "row " ++ toString firstRow ++ " also belongs"
      else "rows " ++ toString firstRow ++ "–" ++ toString lastRow ++ " also belong"
    let seat := match cabin.1.letters.find? fun letter => other.1.letters.contains letter with
      | none => ""
      | some letter => " (seat " ++ formatSeatPosition ⟨firstRow, letter⟩ ++ " is listed twice)"
    [⟨field ++ ".cabins[" ++ toString cabin.2 ++ "]", "CABIN_ROWS_OVERLAP",
      rows ++ " to cabins[" ++ toString other.2 ++ "]" ++ seat⟩]

/-- Each cabin against those before it. -/
def findOverlaps (cabins : List Cabin) (field : String) : List ValidationIssue :=
  cabins.zipIdx.flatMap fun cabin => (cabins.zipIdx.take cabin.2).flatMap (overlapOf field cabin)

/-- What is wrong with well-formed cabins taken together. -/
def layoutIssues (cabins : List Cabin) (field : String) : List ValidationIssue :=
  let totalSeats := (cabins.map seatCount).sum
  findOverlaps cabins field ++
    if totalSeats > MAX_SEATS then [⟨field ++ ".cabins", "TOO_MANY_SEATS",
      "the layout has " ++ toString totalSeats ++ " seats; the maximum is " ++ toString MAX_SEATS⟩]
    else []

def Cabin.seats (cabin : Cabin) : List LayoutSeat :=
  (List.range' cabin.fromRow (cabin.toRow - cabin.fromRow + 1)).flatMap fun row =>
    cabin.letters.map fun letter => ⟨⟨row, letter⟩, cabin.fareClass⟩

/-- One seat per position, or every problem found. -/
def expandSeatLayout (input : Json.Value) (field : String) :
    Except (List ValidationIssue) (List LayoutSeat) :=
  match input.get? "cabins".toList with
  | some (.array rawCabins) =>
      if rawCabins.length = 0 ∨ rawCabins.length > MAX_CABINS then
        .error [⟨field ++ ".cabins", "INVALID_CABIN_COUNT",
          "cabins must contain 1 to " ++ toString MAX_CABINS ++ " cabins"⟩]
      else do
        let cabins ← checkEach (fun index raw =>
          parseCabin raw (field ++ ".cabins[" ++ toString index ++ "]")) 0 rawCabins
        let issues := layoutIssues cabins field
        if issues.length > 0 then .error issues else .ok (cabins.flatMap Cabin.seats)
  | _ => .error [⟨field, "INVALID_SEAT_LAYOUT", field ++ " must be an object with a cabins array"⟩]

/-! ### What the parts accept -/

theorem fareClass?_eq_some {raw : Option Json.Value} {fareClass : FareClass} :
    fareClass? raw = some fareClass ↔ raw = some (.string fareClass.name.toList) := by
  constructor
  · intro h
    unfold fareClass? at h
    split at h
    · rename_i name
      have own := List.find?_some h
      have same : fareClass.name = String.ofList name := of_decide_eq_true own
      rw [same, String.toList_ofList]
    · cases h
  · rintro rfl
    cases fareClass <;> decide

theorem seatRow?_eq_some {raw : Option Json.Value} {row : SeatRow} :
    seatRow? raw = some row ↔ raw = some (.int row.1) := by
  constructor
  · intro h
    unfold seatRow? at h
    split at h
    · split at h
      · rename_i n bounds
        cases h
        have natural : (n.toNat : Int) = n := Int.toNat_of_nonneg (by unfold MIN_ROW at bounds; omega)
        rw [natural]
      · cases h
    · cases h
  · rintro rfl
    obtain ⟨row, first, last⟩ := row
    have bounds : (MIN_ROW : Int) ≤ row ∧ (row : Int) ≤ MAX_ROW := by omega
    rw [seatRow?, dif_pos bounds]
    rfl

theorem utf16Length_letters {letters : List Char} (each : ∀ l ∈ letters, isSeatLetter l = true) :
    Text.utf16Length letters = letters.length ∧ (letters ≠ [] → Text.NotBlank letters) := by
  have small : ∀ c, isSeatLetter c = true → 65 ≤ c.toNat ∧ c.toNat ≤ 75 := by
    intro c h
    simp only [isSeatLetter, Bool.and_eq_true, decide_eq_true_eq] at h
    exact ⟨UInt32.le_iff_toNat_le.mp h.1, UInt32.le_iff_toNat_le.mp h.2⟩
  constructor
  · induction letters with
    | nil => rfl
    | cons c letters ih =>
        have rest := ih fun l mem => each l (.tail _ mem)
        have bounds := small c (each c List.mem_cons_self)
        simp only [Text.utf16Length, List.map_cons, List.sum_cons, List.length_cons] at rest ⊢
        rw [rest, if_pos (by omega)]
        omega
  · intro some
    obtain ⟨c, mem⟩ := List.exists_mem_of_ne_nil letters some
    refine ⟨c, mem, ?_⟩
    have bounds := small c (each c mem)
    have printed : ¬ (8192 ≤ c.toNat ∧ c.toNat ≤ 8202) := by omega
    simp only [Text.isWhiteSpace, Bool.or_eq_false_iff, List.contains_eq_mem, decide_eq_false_iff_not,
      List.mem_cons, List.not_mem_nil, or_false, Bool.and_eq_false_iff]
    omega

theorem parseSeatLetters_eq_ok {raw : Option Json.Value} {field : String} {letters : SeatLetters} :
    parseSeatLetters raw field = .ok letters ↔ raw = some (.string letters.letters) := by
  constructor
  · intro h
    unfold parseSeatLetters at h
    split at h
    · split at h
      · split at h
        · split at h <;> cases h
          rfl
        · cases h
      · cases h
    · cases h
  · rintro rfl
    obtain ⟨length, blank⟩ := utf16Length_letters letters.each
    have room : Text.trim letters.letters ≠ [] ∧
        Text.utf16Length letters.letters ≤ MAX_LETTERS_PER_ROW :=
      ⟨Text.trim_ne_nil.mpr (blank letters.some), length ▸ letters.bounded⟩
    have valid : letters.letters.filter (fun letter => !isSeatLetter letter) = [] := by
      simpa using letters.each
    rw [parseSeatLetters, dif_pos room, dif_pos valid,
      dif_pos (repeatedLetters_eq_nil.mpr letters.distinct)]

/-- The value describes the cabin. -/
structure Cabin.DescribedBy (raw : Json.Value) (cabin : Cabin) : Prop where
  fareClass : raw.get? "fareClass".toList = some (.string cabin.fareClass.name.toList)
  fromRow : raw.get? "fromRow".toList = some (.int cabin.fromRow)
  toRow : raw.get? "toRow".toList = some (.int cabin.toRow)
  seatLetters : raw.get? "seatLetters".toList = some (.string cabin.letters)

theorem cabinOf_eq_ok {field : String} {fareClass : Option FareClass} {fromRow toRow : Option SeatRow}
    {letters : Except ValidationIssue SeatLetters} {cabin : Cabin} :
    cabinOf field fareClass fromRow toRow letters = .ok cabin ↔
      fareClass = some cabin.fareClass ∧ fromRow.map (·.1) = some cabin.fromRow ∧
        toRow.map (·.1) = some cabin.toRow ∧ letters = .ok cabin.toSeatLetters := by
  unfold cabinOf
  extract_lets issues
  constructor
  · intro h
    split at h
    · split at h
      · cases h
        exact ⟨rfl, rfl, rfl, rfl⟩
      · cases h
    · cases h
  · rintro ⟨rfl, isFrom, isTo, rfl⟩
    obtain ⟨⟨fromRow, first⟩, rfl, rfl⟩ := Option.map_eq_some_iff.mp isFrom
    obtain ⟨⟨toRow, last⟩, rfl, rfl⟩ := Option.map_eq_some_iff.mp isTo
    exact dif_pos cabin.ordered

/-- A rejected cabin has issues. -/
theorem cabinOf_issues {field : String} {fareClass : Option FareClass} {fromRow toRow : Option SeatRow}
    {letters : Except ValidationIssue SeatLetters} {issues : List ValidationIssue}
    (h : cabinOf field fareClass fromRow toRow letters = .error issues) : issues ≠ [] := by
  unfold cabinOf at h
  extract_lets found at h
  have same : found = issues := by
    split at h
    · split at h
      · cases h
      · exact Except.error.inj h
    · exact Except.error.inj h
  rw [← same]
  -- Where a member was not read, it has its issue.
  cases fareClass with
  | none => simp [found]
  | some fareClass =>
      cases fromRow with
      | none => simp [found]
      | some fromRow =>
          cases toRow with
          | none => simp [found]
          | some toRow =>
              cases letters with
              | error issue => simp [found]
              | ok letters =>
                  have back : fromRow.1 > toRow.1 := by
                    refine Nat.lt_of_not_le fun ordered => ?_
                    dsimp only at h
                    rw [dif_pos ordered] at h
                    cases h
                  simp [found, back]

theorem parseCabin_eq_ok {raw : Json.Value} {field : String} {cabin : Cabin} :
    parseCabin raw field = .ok cabin ↔ cabin.DescribedBy raw := by
  have row (key : String) {n : Nat} (bounds : MIN_ROW ≤ n ∧ n ≤ MAX_ROW) :
      (seatRow? (raw.get? key.toList)).map (·.1) = some n ↔ raw.get? key.toList = some (.int n) := by
    rw [← @seatRow?_eq_some _ ⟨n, bounds⟩, Option.map_eq_some_iff]
    constructor
    · rintro ⟨⟨n, own⟩, read, rfl⟩
      exact read
    · intro read
      exact ⟨_, read, rfl⟩
  constructor
  · intro h
    cases raw with
    | object members =>
        rw [parseCabin, cabinOf_eq_ok] at h
        obtain ⟨fareClass, fromRow, toRow, letters⟩ := h
        exact
          { fareClass := fareClass?_eq_some.mp fareClass
            fromRow := (row _ ⟨cabin.first, Nat.le_trans cabin.ordered cabin.last⟩).mp fromRow
            toRow := (row _ ⟨Nat.le_trans cabin.first cabin.ordered, cabin.last⟩).mp toRow
            seatLetters := parseSeatLetters_eq_ok.mp letters }
    | _ => cases h
  · intro h
    cases raw with
    | object members =>
        rw [parseCabin, cabinOf_eq_ok]
        refine ⟨fareClass?_eq_some.mpr h.fareClass, ?_, ?_, parseSeatLetters_eq_ok.mpr h.seatLetters⟩
        · exact (row _ ⟨cabin.first, Nat.le_trans cabin.ordered cabin.last⟩).mpr h.fromRow
        · exact (row _ ⟨Nat.le_trans cabin.first cabin.ordered, cabin.last⟩).mpr h.toRow
    | _ => cases h.fareClass

theorem parseCabin_issues {raw : Json.Value} {field : String} {issues : List ValidationIssue}
    (h : parseCabin raw field = .error issues) : issues ≠ [] := by
  cases raw with
  | object members => exact cabinOf_issues h
  | _ =>
      cases h
      exact List.cons_ne_nil _ _

/-! ### Rows of one cabin only -/

def Cabin.HasRow (cabin : Cabin) (row : Nat) : Prop := cabin.fromRow ≤ row ∧ row ≤ cabin.toRow

/-- No row belongs to both. -/
def Cabin.Apart (a b : Cabin) : Prop := ∀ row, a.HasRow row → ¬ b.HasRow row

theorem overlapOf_eq_nil {field : String} {cabin other : Cabin × Nat} :
    overlapOf field cabin other = [] ↔ other.1.Apart cabin.1 := by
  unfold overlapOf
  extract_lets firstRow lastRow rows seat
  constructor
  · intro none row own here
    split at none
    · rename_i apart
      unfold Cabin.HasRow at own here
      omega
    · cases none
  · intro apart
    refine if_pos (Nat.lt_of_not_le fun le => ?_)
    refine apart firstRow ⟨?_, ?_⟩ ⟨?_, ?_⟩ <;> omega

/-- There are no overlaps exactly if no row belongs to two cabins. -/
theorem findOverlaps_eq_nil {cabins : List Cabin} {field : String} :
    findOverlaps cabins field = [] ↔ cabins.Pairwise Cabin.Apart := by
  rw [findOverlaps, List.flatMap_eq_nil_iff, List.pairwise_iff_getElem]
  constructor
  · intro none i j hi hj lt
    have here := none (cabins[j], j) (List.mem_zipIdx_iff_getElem?.mpr (by simp [hj]))
    refine overlapOf_eq_nil.mp (List.flatMap_eq_nil_iff.mp here (cabins[i], i) ?_)
    refine List.mem_take_iff_getElem.mpr ⟨i, by simp [lt, hi], by simp⟩
  · rintro apart ⟨cabin, j⟩ mem
    refine List.flatMap_eq_nil_iff.mpr fun other earlier => overlapOf_eq_nil.mpr ?_
    have here := List.mem_zipIdx_iff_getElem?.mp mem
    simp only at here earlier
    obtain ⟨hj, rfl⟩ := List.getElem?_eq_some_iff.mp here
    obtain ⟨i, bounds, rfl⟩ := List.mem_take_iff_getElem.mp earlier
    have hi : i < cabins.length := by simp at bounds; omega
    have lt : i < j := by simp at bounds; omega
    simpa using apart i j hi hj lt

/-! ### The seats of a layout -/

theorem mem_seats {cabin : Cabin} {seat : LayoutSeat} : seat ∈ cabin.seats ↔
    cabin.HasRow seat.position.row ∧ seat.position.letter ∈ cabin.letters ∧
      seat.fareClass = cabin.fareClass := by
  have ordered := cabin.ordered
  simp only [Cabin.seats, List.mem_flatMap, List.mem_range'_1, List.mem_map, Cabin.HasRow]
  constructor
  · rintro ⟨row, bounds, letter, mem, rfl⟩
    exact ⟨by simp only; omega, mem, rfl⟩
  · rintro ⟨bounds, mem, isClass⟩
    refine ⟨seat.position.row, by omega, seat.position.letter, mem, ?_⟩
    rw [← isClass]

theorem length_seats (cabin : Cabin) : cabin.seats.length = seatCount cabin := by
  simp only [Cabin.seats, List.length_flatMap, List.length_map, List.map_const', List.sum_replicate,
    List.length_range', seatCount, Nat.nsmul_eq_mul]

theorem nodup_seats (cabin : Cabin) : (cabin.seats.map (·.position)).Nodup := by
  rw [Cabin.seats, List.map_flatMap, List.nodup_flatMap]
  constructor
  · intro row _
    rw [List.map_map]
    refine cabin.distinct.map fun a b same => ?_
    exact (SeatPosition.mk.inj same).2
  · refine (@List.nodup_range' _ _ 1 (by decide)).imp fun {row row'} differ => ?_
    refine List.disjoint_left.mpr ?_
    intro position mem mem'
    simp only [List.map_map, List.mem_map, Function.comp_apply] at mem mem'
    obtain ⟨letter, -, rfl⟩ := mem
    obtain ⟨letter', -, same⟩ := mem'
    exact differ (SeatPosition.mk.inj same).1.symm

/-- Cabins apart have no position twice. -/
theorem nodup_positions {cabins : List Cabin} (apart : cabins.Pairwise Cabin.Apart) :
    ((cabins.flatMap Cabin.seats).map (·.position)).Nodup := by
  rw [List.map_flatMap, List.nodup_flatMap]
  constructor
  · intro cabin _
    exact nodup_seats cabin
  · refine apart.imp fun {a b} none => ?_
    refine List.disjoint_left.mpr ?_
    intro position mem mem'
    obtain ⟨seat, own, rfl⟩ := List.mem_map.mp mem
    obtain ⟨seat', other, same⟩ := List.mem_map.mp mem'
    have there := (mem_seats.mp other).1
    rw [same] at there
    exact none _ (mem_seats.mp own).1 there

/-! ### Which layouts are accepted -/

/-- The input describes these cabins, and they are a layout. -/
structure IsLayout (input : Json.Value) (cabins : List Cabin) : Prop where
  described : ∃ rawCabins, input.get? "cabins".toList = some (.array rawCabins) ∧
    List.Forall₂ (fun raw cabin => cabin.DescribedBy raw) rawCabins cabins
  count : 1 ≤ cabins.length ∧ cabins.length ≤ MAX_CABINS
  apart : cabins.Pairwise Cabin.Apart
  room : (cabins.map seatCount).sum ≤ MAX_SEATS

theorem layoutIssues_eq_nil {cabins : List Cabin} {field : String} :
    layoutIssues cabins field = [] ↔
      cabins.Pairwise Cabin.Apart ∧ (cabins.map seatCount).sum ≤ MAX_SEATS := by
  rw [layoutIssues, List.append_eq_nil_iff, findOverlaps_eq_nil]
  refine and_congr_right fun _ => ?_
  split
  · rename_i above
    exact iff_of_false (List.cons_ne_nil _ _) (Nat.not_le.mpr above)
  · rename_i room
    exact iff_of_true rfl (Nat.not_lt.mp room)

/-- The accepted inputs are the layouts, and their seats those of the cabins. -/
theorem expandSeatLayout_eq_ok {input : Json.Value} {field : String} {seats : List LayoutSeat} :
    expandSeatLayout input field = .ok seats ↔
      ∃ cabins, IsLayout input cabins ∧ seats = cabins.flatMap Cabin.seats := by
  have cabinsOf (rawCabins : List Json.Value) (cabins : List Cabin) :
      checkEach (fun index raw => parseCabin raw (field ++ ".cabins[" ++ toString index ++ "]")) 0
          rawCabins = .ok cabins ↔
        List.Forall₂ (fun raw cabin => cabin.DescribedBy raw) rawCabins cabins :=
    checkEach_eq_ok fun _ _ _ => parseCabin_eq_ok
  constructor
  · intro h
    unfold expandSeatLayout at h
    split at h
    · rename_i rawCabins member
      split at h
      · cases h
      · rename_i count
        obtain ⟨cabins, parsed, h⟩ := bind_eq_ok.mp h
        have each := (cabinsOf rawCabins cabins).mp parsed
        extract_lets issues at h
        split at h
        · cases h
        · rename_i fine
          have none : issues = [] := List.eq_nil_of_length_eq_zero (by omega)
          obtain ⟨apart, room⟩ := layoutIssues_eq_nil.mp none
          refine ⟨cabins, ⟨⟨rawCabins, member, each⟩, ?_, apart, room⟩, (Except.ok.inj h).symm⟩
          rw [← each.length_eq]
          omega
    · cases h
  · rintro ⟨cabins, layout, rfl⟩
    obtain ⟨rawCabins, member, each⟩ := layout.described
    have count : ¬ (rawCabins.length = 0 ∨ rawCabins.length > MAX_CABINS) := by
      have bounds := layout.count
      rw [← each.length_eq] at bounds
      omega
    have none := (@layoutIssues_eq_nil cabins field).mpr ⟨layout.apart, layout.room⟩
    simp only [expandSeatLayout, member, if_neg count]
    refine bind_eq_ok.mpr ⟨cabins, (cabinsOf rawCabins cabins).mpr each, ?_⟩
    simp only [none, List.length_nil, gt_iff_lt, Nat.lt_irrefl, if_false]

theorem expandSeatLayout_issues {input : Json.Value} {field : String} {issues : List ValidationIssue}
    (h : expandSeatLayout input field = .error issues) : issues ≠ [] := by
  unfold expandSeatLayout at h
  split at h
  · rename_i rawCabins member
    split at h
    · cases h
      exact List.cons_ne_nil _ _
    · cases parsed : checkEach (fun index raw =>
        parseCabin raw (field ++ ".cabins[" ++ toString index ++ "]")) 0 rawCabins with
      | error own =>
          rw [parsed] at h
          cases h
          exact checkEach_issues (fun _ _ _ => parseCabin_issues) parsed
      | ok cabins =>
          rw [parsed] at h
          change (if _ then _ else _) = _ at h
          split at h
          · rename_i some
            rw [← Except.error.inj h]
            exact List.ne_nil_of_length_pos some
          · cases h
  · cases h
    exact List.cons_ne_nil _ _

/-- An input is expanded exactly if it describes a layout. It then has as many seats as
its cabins say, no position twice, and every row and letter of a cabin in its class and no
other seat; otherwise there is an issue. -/
theorem expandSeatLayout_exact (input : Json.Value) (field : String) :
    ((∃ seats, expandSeatLayout input field = .ok seats) ↔ ∃ cabins, IsLayout input cabins) ∧
      (∀ cabins, IsLayout input cabins → ∃ seats, expandSeatLayout input field = .ok seats ∧
        seats.length = (cabins.map seatCount).sum ∧ (seats.map (·.position)).Nodup ∧
        ∀ seat, seat ∈ seats ↔ ∃ cabin ∈ cabins, cabin.HasRow seat.position.row ∧
          seat.position.letter ∈ cabin.letters ∧ seat.fareClass = cabin.fareClass) ∧
      ∀ issues, expandSeatLayout input field = .error issues → issues ≠ [] := by
  refine ⟨?_, ?_, ?_⟩
  · constructor
    · rintro ⟨seats, h⟩
      obtain ⟨cabins, layout, -⟩ := expandSeatLayout_eq_ok.mp h
      exact ⟨cabins, layout⟩
    · rintro ⟨cabins, layout⟩
      exact ⟨_, expandSeatLayout_eq_ok.mpr ⟨cabins, layout, rfl⟩⟩
  · intro cabins layout
    refine ⟨_, expandSeatLayout_eq_ok.mpr ⟨cabins, layout, rfl⟩, ?_, nodup_positions layout.apart, ?_⟩
    · rw [List.length_flatMap]
      exact congrArg List.sum (List.map_congr_left fun cabin _ => length_seats cabin)
    · intro seat
      simp only [List.mem_flatMap, mem_seats]
  · intro issues
    exact expandSeatLayout_issues

/-- Rows 1 and 2 with one letter in BUSINESS, row 3 with two in ECONOMY. -/
def narrowLayout : Json.Value :=
  .object [("cabins".toList, .array
    [.object [("fareClass".toList, .string "BUSINESS".toList), ("fromRow".toList, .int 1),
        ("toRow".toList, .int 2), ("seatLetters".toList, .string ['A'])],
      .object [("fareClass".toList, .string "ECONOMY".toList), ("fromRow".toList, .int 3),
        ("toRow".toList, .int 3), ("seatLetters".toList, .string ['A', 'C'])]])]

def narrowCabins : List Cabin :=
  [⟨⟨['A'], by decide, by decide, List.all_eq_true.mp rfl, by decide⟩, .business, 1, 2, by decide,
      by decide, by decide⟩,
    ⟨⟨['A', 'C'], by decide, by decide, List.all_eq_true.mp rfl, by decide⟩, .economy, 3, 3,
      by decide, by decide, by decide⟩]

theorem expandSeatLayout_exact_narrow :
    ∃ seats, expandSeatLayout narrowLayout "seatLayout" = .ok seats ∧ seats.length = 4 := by
  have described : List.Forall₂ (fun raw cabin => Cabin.DescribedBy raw cabin)
      [.object [("fareClass".toList, .string "BUSINESS".toList), ("fromRow".toList, .int 1),
          ("toRow".toList, .int 2), ("seatLetters".toList, .string ['A'])],
        .object [("fareClass".toList, .string "ECONOMY".toList), ("fromRow".toList, .int 3),
          ("toRow".toList, .int 3), ("seatLetters".toList, .string ['A', 'C'])]] narrowCabins := by
    refine .cons ?_ (.cons ?_ .nil)
    · constructor <;> rfl
    · constructor <;> rfl
  have layout : IsLayout narrowLayout narrowCabins :=
    { described := ⟨_, rfl, described⟩
      count := by decide
      apart := by
        refine List.pairwise_pair.mpr fun row own other => ?_
        have last : row ≤ 2 := own.2
        have first : 3 ≤ row := other.1
        omega
      room := by decide }
  obtain ⟨seats, expanded, length, -⟩ :=
    (expandSeatLayout_exact narrowLayout "seatLayout").2.1 narrowCabins layout
  exact ⟨seats, expanded, length⟩

end FlightBooking
