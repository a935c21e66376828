import FlightBooking.Flights.Transactions

/-!
Reading the fares of a request: a positive amount for each fare class named, or every
issue there is.
-/

namespace FlightBooking

/-- An amount as the body has it: a whole number, or anything else. -/
inductive RawAmount where
  | whole (n : Int)
  | other
  deriving DecidableEq, Repr

/-- The `fares` of a body: an object of entries, or anything else. -/
inductive RawFares where
  | object (entries : List (String × RawAmount))
  | other
  deriving DecidableEq, Repr

/-- Whole đồng, ≥ 0, and exact as a JS number. -/
def isVndAmount : RawAmount → Option Money
  | .whole n =>
      if valid : 0 ≤ n ∧ n ≤ maxSafeInteger then some ⟨n.toNat, by omega⟩ else none
  | .other => none

def toFareClass (name : String) : Option FareClass := FARE_CLASSES.find? fun c => c.name = name

def FlightFares.set (fares : FlightFares) (fareClass : FareClass) (fare : Money) : FlightFares :=
  match fareClass with
  | .economy => { fares with economy := some fare }
  | .business => { fares with business := some fare }

/-- One entry: the fare it gives, or its issue. -/
def parseFare (entry : String × RawAmount) : Except ValidationIssue (FareClass × Money) :=
  match toFareClass entry.1 with
  | none => .error ⟨"fares." ++ entry.1, "INVALID_FARE_CLASS",
      "Fare class must be ECONOMY or BUSINESS"⟩
  | some fareClass =>
      match (isVndAmount entry.2).filter fun fare => fare.amount ≠ 0 with
      | none => .error ⟨"fares." ++ entry.1, "INVALID_FARE",
          "fares." ++ entry.1 ++ " must be a whole number of VND greater than 0"⟩
      | some fare => .ok (fareClass, fare)

/-- The loop's body: the issue is kept, or the fare. -/
def addFare (read : List ValidationIssue × FlightFares) (entry : String × RawAmount) :
    List ValidationIssue × FlightFares :=
  match parseFare entry with
  | .error issue => (read.1 ++ [issue], read.2)
  | .ok (fareClass, fare) => (read.1, read.2.set fareClass fare)

/-- Every bad entry is reported, not just the first. -/
def parseFares : RawFares → Except (List ValidationIssue) FlightFares
  | .other => .error [⟨"fares", "INVALID_FARES",
      "fares must be an object of fare class to amount in VND"⟩]
  | .object entries =>
      let read := entries.foldl addFare ([], ⟨none, none⟩)
      if read.1 = [] then .ok read.2 else .error read.1

/-- No fare is zero. -/
def FlightFares.Positive (fares : FlightFares) : Prop :=
  ∀ fareClass fare, fares.get fareClass = some fare → 0 < fare.amount

theorem FlightFares.Positive.set {fares : FlightFares} (positive : fares.Positive)
    {fareClass : FareClass} {fare : Money} (more : 0 < fare.amount) :
    (fares.set fareClass fare).Positive := by
  intro other found has
  cases fareClass <;> cases other
  · cases has
    exact more
  · exact positive .business found has
  · exact positive .economy found has
  · cases has
    exact more

theorem parseFare_positive {entry : String × RawAmount} {fareClass : FareClass} {fare : Money}
    (h : parseFare entry = .ok (fareClass, fare)) : 0 < fare.amount := by
  unfold parseFare at h
  split at h
  · cases h
  · split at h
    · cases h
    · rename_i found
      cases h
      have positive := (Option.filter_eq_some_iff.mp found).2
      exact Nat.pos_of_ne_zero (of_decide_eq_true positive)

theorem addFare_positive {read : List ValidationIssue × FlightFares} (positive : read.2.Positive)
    (entry : String × RawAmount) : (addFare read entry).2.Positive := by
  unfold addFare
  split
  · exact positive
  · rename_i parsed
    exact positive.set (parseFare_positive parsed)

theorem addFares_positive (entries : List (String × RawAmount))
    {read : List ValidationIssue × FlightFares} (positive : read.2.Positive) :
    (entries.foldl addFare read).2.Positive := by
  induction entries generalizing read with
  | nil => exact positive
  | cons entry entries ih => exact ih (addFare_positive positive entry)

/-- Fares that were accepted are positive. -/
theorem parseFares_positive {raw : RawFares} {fares : FlightFares}
    (h : parseFares raw = .ok fares) : fares.Positive := by
  have empty : (⟨none, none⟩ : FlightFares).Positive := by
    intro fareClass fare has
    cases fareClass <;> cases has
  cases raw with
  | other => cases h
  | object entries =>
      have positive := @addFares_positive entries ([], ⟨none, none⟩) empty
      rw [parseFares] at h
      by_cases clean : (entries.foldl addFare ([], ⟨none, none⟩)).1 = []
      · rw [if_pos clean] at h
        cases h
        exact positive
      · rw [if_neg clean] at h
        cases h

/-- Any positive amount that a JS number holds exactly is a fare, up to the last. -/
theorem parseFares_economy {n : Nat} (positive : 0 < n) (safe : n ≤ maxSafeInteger) :
    parseFares (.object [("ECONOMY", .whole n)]) = .ok ⟨some ⟨n, safe⟩, none⟩ := by
  have amount : isVndAmount (.whole n) = some ⟨n, safe⟩ := by
    have valid : 0 ≤ (n : Int) ∧ (n : Int) ≤ maxSafeInteger := ⟨by omega, by omega⟩
    rw [isVndAmount, dif_pos valid]
    rfl
  have name : toFareClass "ECONOMY" = some .economy := by decide
  have fare : parseFare ("ECONOMY", .whole n) = .ok (.economy, ⟨n, safe⟩) := by
    have kept : (some (⟨n, safe⟩ : Money)).filter (fun fare => fare.amount ≠ 0) =
        some ⟨n, safe⟩ := by
      rw [Option.filter_some, if_pos (by simpa using Nat.pos_iff_ne_zero.mp positive)]
    rw [parseFare, name]
    dsimp only
    rw [amount, kept]
  rw [parseFares, List.foldl_cons, List.foldl_nil, addFare, fare]
  rfl

end FlightBooking
