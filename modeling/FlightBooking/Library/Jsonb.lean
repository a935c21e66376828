import FlightBooking.Library.Json
import FlightBooking.Library.Utf8
import Mathlib.Data.List.Induction
import Mathlib.Data.List.Sort

/-!
JSON values as a `jsonb` column keeps them, and an object's properties as
`Object.entries` lists them.

Both forget a member that a later one of the same name overwrites. The column also
sorts the members of every object. Whoever looks members up by name cannot tell
(`get?_jsonb`).
-/

namespace Json

abbrev Member := List Char × Value

/-- A property is set: in its place if there is one, else behind the others. -/
def setMember (members : List Member) (m : Member) : List Member :=
  if members.any (·.1 = m.1) then members.map fun own => if own.1 = m.1 then m else own
  else members ++ [m]

/-- The properties an object with these members has. -/
def ownMembers (members : List Member) : List Member := members.foldl setMember []

/-- Shorter names first, those of one length by their bytes. -/
def StoredBefore (a b : List Char) : Prop :=
  (Utf8.encode a).length < (Utf8.encode b).length ∨
    ((Utf8.encode a).length = (Utf8.encode b).length ∧ ¬ Utf8.encode b < Utf8.encode a)

instance : DecidableRel StoredBefore := fun _ _ => inferInstanceAs (Decidable (_ ∨ _))

mutual

/-- The value as a `jsonb` column gives it back. -/
def Value.jsonb : Value → Value
  | .null => .null
  | .bool b => .bool b
  | .int n => .int n
  | .fraction text => .fraction text
  | .string s => .string s
  | .array items => .array (jsonbItems items)
  | .object members => .object
      ((ownMembers (jsonbMembers members)).insertionSort fun a b => StoredBefore a.1 b.1)

def jsonbItems : List Value → List Value
  | [] => []
  | item :: items => item.jsonb :: jsonbItems items

def jsonbMembers : List (List Char × Value) → List (List Char × Value)
  | [] => []
  | (name, value) :: members => (name, value.jsonb) :: jsonbMembers members

end

/-- The number a property's name is, if it is one an array could have. -/
def arrayIndex? (name : List Char) : Option Nat :=
  let n := Nat.ofDigitChars 10 name 0
  if name = Nat.toDigits 10 n ∧ n < 2 ^ 32 - 1 then some n else none

/-- Indexes come first, in their order. -/
def listingRank (name : List Char) : Nat := (arrayIndex? name).getD (2 ^ 32)

/-- `Object.entries`. -/
def Value.entries : Value → List Member
  | .object members =>
      (ownMembers members).insertionSort fun a b => listingRank a.1 ≤ listingRank b.1
  | _ => []

/-! ### Looking members up -/

variable {members : List Member} {name : List Char} {v : Value} {m : Member}

theorem get?_append : (Value.object (members ++ [m])).get? name =
    if m.1 = name then some m.2 else (Value.object members).get? name := by
  by_cases same : m.1 = name <;> simp [Value.get?, same]

theorem mem_of_get? (found : (Value.object members).get? name = some v) : (name, v) ∈ members := by
  obtain ⟨m, first, rfl⟩ := Option.map_eq_some_iff.mp found
  have same : m.1 = name := by simpa using List.find?_some first
  exact same ▸ List.mem_reverse.mp (List.mem_of_find?_eq_some first)

/-- Where names differ, what is there is what is found. -/
theorem get?_of_mem (distinct : (members.map (·.1)).Nodup) (mem : (name, v) ∈ members) :
    (Value.object members).get? name = some v := by
  cases found : (Value.object members).get? name with
  | none =>
      have absent := List.find?_eq_none.mp (Option.map_eq_none_iff.mp found) (name, v)
        (List.mem_reverse.mpr mem)
      simp at absent
  | some u =>
      have same := List.inj_on_of_nodup_map distinct (mem_of_get? found) mem rfl
      exact congrArg (some ·.2) same

theorem get?_perm {others : List Member} (distinct : (members.map (·.1)).Nodup)
    (perm : members.Perm others) (name : List Char) :
    (Value.object members).get? name = (Value.object others).get? name := by
  have distinct' : (others.map (·.1)).Nodup := (perm.map _).nodup_iff.mp distinct
  refine Option.ext fun v => ⟨fun found => ?_, fun found => ?_⟩
  · exact get?_of_mem distinct' (perm.mem_iff.mp (mem_of_get? found))
  · exact get?_of_mem distinct (perm.mem_iff.mpr (mem_of_get? found))

/-! ### Own properties -/

theorem setMember_names (m : Member) : (setMember members m).map (·.1) =
    if m.1 ∈ members.map (·.1) then members.map (·.1) else members.map (·.1) ++ [m.1] := by
  have present : members.any (·.1 = m.1) = true ↔ m.1 ∈ members.map (·.1) := by simp
  unfold setMember
  by_cases mem : m.1 ∈ members.map (·.1)
  · rw [if_pos (present.mpr mem), if_pos mem, List.map_map]
    refine List.map_congr_left fun own _ => ?_
    by_cases same : own.1 = m.1 <;> simp [same]
  · rw [if_neg (present.not.mpr mem), if_neg mem, List.map_append]
    rfl

theorem setMember_nodup (distinct : (members.map (·.1)).Nodup) (m : Member) :
    ((setMember members m).map (·.1)).Nodup := by
  rw [setMember_names]
  split
  · exact distinct
  · rename_i new
    exact List.nodup_append.mpr ⟨distinct, List.nodup_singleton _, fun a mem b last => by
      intro same
      rw [List.mem_singleton.mp last] at same
      exact new (same ▸ mem)⟩

theorem get?_setMember (distinct : (members.map (·.1)).Nodup) (m : Member) (name : List Char) :
    (Value.object (setMember members m)).get? name =
      if m.1 = name then some m.2 else (Value.object members).get? name := by
  have after := setMember_nodup distinct m
  unfold setMember at after ⊢
  split
  · rename_i present
    rw [if_pos present] at after
    split
    · rename_i same
      obtain ⟨own, mem, at'⟩ := List.any_eq_true.mp present
      refine get?_of_mem after (List.mem_map.mpr ⟨own, mem, ?_⟩)
      rw [if_pos (by simpa using at')]
      exact Prod.ext same rfl
    · rename_i other
      refine Option.ext fun v => ⟨fun found => ?_, fun found => ?_⟩
      · obtain ⟨own, mem, is⟩ := List.mem_map.mp (mem_of_get? found)
        split at is
        · exact (other (congrArg Prod.fst is)).elim
        · exact get?_of_mem distinct (is ▸ mem)
      · refine get?_of_mem after (List.mem_map.mpr ⟨_, mem_of_get? found, ?_⟩)
        exact if_neg fun same => other same.symm
  · exact get?_append

theorem ownMembers_append (m : Member) :
    ownMembers (members ++ [m]) = setMember (ownMembers members) m := List.foldl_concat ..

theorem ownMembers_nodup (members : List Member) : ((ownMembers members).map (·.1)).Nodup := by
  induction members using List.reverseRecOn with
  | nil => exact List.nodup_nil
  | append_singleton members m ih =>
      rw [ownMembers_append]
      exact setMember_nodup ih m

theorem get?_ownMembers (members : List Member) (name : List Char) :
    (Value.object (ownMembers members)).get? name = (Value.object members).get? name := by
  induction members using List.reverseRecOn with
  | nil => rfl
  | append_singleton members m ih =>
      rw [ownMembers_append, get?_setMember (ownMembers_nodup members), get?_append, ih]

/-- Nothing is overwritten where names differ. -/
theorem ownMembers_eq (distinct : (members.map (·.1)).Nodup) : ownMembers members = members := by
  induction members using List.reverseRecOn with
  | nil => rfl
  | append_singleton members m ih =>
      rw [List.map_append, List.nodup_append] at distinct
      obtain ⟨before, -, apart⟩ := distinct
      rw [ownMembers_append, ih before, setMember, if_neg]
      intro present
      obtain ⟨own, mem, same⟩ := List.any_eq_true.mp present
      exact apart _ (List.mem_map_of_mem mem) m.1 (by simp) (by simpa using same)

/-! ### The column -/

theorem jsonbItems_eq (items : List Value) : jsonbItems items = items.map Value.jsonb := by
  induction items with
  | nil => rfl
  | cons item items ih => rw [jsonbItems, ih, List.map_cons]

theorem jsonbMembers_eq (members : List Member) :
    jsonbMembers members = members.map fun m => (m.1, m.2.jsonb) := by
  induction members with
  | nil => rfl
  | cons m members ih => rw [jsonbMembers, ih, List.map_cons]

theorem get?_jsonbMembers (members : List Member) (name : List Char) :
    (Value.object (jsonbMembers members)).get? name =
      ((Value.object members).get? name).map Value.jsonb := by
  rw [jsonbMembers_eq]
  induction members using List.reverseRecOn with
  | nil => rfl
  | append_singleton members m ih =>
      rw [List.map_append, List.map_singleton, get?_append, get?_append, ih]
      split <;> rfl

/-- The column keeps what a member holds. -/
theorem get?_jsonb (v : Value) (name : List Char) :
    v.jsonb.get? name = (v.get? name).map Value.jsonb := by
  cases v with
  | object members =>
      rw [Value.jsonb, ← get?_jsonbMembers, ← get?_ownMembers (jsonbMembers members)]
      exact (get?_perm (ownMembers_nodup _)
        (List.perm_insertionSort (fun a b : Member => StoredBefore a.1 b.1)
          (ownMembers (jsonbMembers members))).symm name).symm
  | null | bool | int | fraction | string | array => rfl

/-- The column leaves an object whose members stand as it sorts them. -/
theorem jsonb_object (distinct : (members.map (·.1)).Nodup)
    (sorted : (members.map (·.1)).Pairwise StoredBefore) (same : ∀ m ∈ members, m.2.jsonb = m.2) :
    (Value.object members).jsonb = .object members := by
  have values : jsonbMembers members = members := by
    rw [jsonbMembers_eq]
    refine (List.map_congr_left fun m mem => ?_).trans (List.map_id members)
    exact Prod.ext rfl (same m mem)
  rw [Value.jsonb, values, ownMembers_eq distinct, (List.pairwise_map.mp sorted).insertionSort_eq]

theorem Value.Exact.jsonb (exact : v.Exact) : v.jsonb.Exact := by
  induction exact with
  | null | bool | int | string => constructor
  | @array items _ ih =>
      rw [Value.jsonb, jsonbItems_eq]
      refine .array fun item mem => ?_
      obtain ⟨v, mem', rfl⟩ := List.mem_map.mp mem
      exact ih v mem'
  | @object members _ ih =>
      refine .object fun m mem => ?_
      have found := get?_of_mem (ownMembers_nodup _) ((List.mem_insertionSort _).mp mem)
      rw [get?_ownMembers, get?_jsonbMembers] at found
      obtain ⟨v, found, is⟩ := Option.map_eq_some_iff.mp found
      rw [← is]
      exact ih _ (mem_of_get? found)

@[simp] theorem exact_null : Value.null.Exact := .null

@[simp] theorem exact_int (n : Int) : (Value.int n).Exact := .int n

@[simp] theorem exact_string (s : List Char) : (Value.string s).Exact := .string s

@[simp] theorem exact_array {items : List Value} :
    (Value.array items).Exact ↔ ∀ item ∈ items, item.Exact := by
  constructor
  · rintro ⟨⟩
    assumption
  · exact .array

def ExactMembers (members : List Member) : Prop := ∀ m ∈ members, m.2.Exact

@[simp] theorem exact_object : (Value.object members).Exact ↔ ExactMembers members := by
  constructor
  · rintro ⟨⟩
    assumption
  · exact .object

@[simp] theorem exactMembers_nil : ExactMembers [] := by
  intro m mem
  cases mem

@[simp] theorem exactMembers_cons : ExactMembers (m :: members) ↔ m.2.Exact ∧ ExactMembers members :=
  List.forall_mem_cons

@[simp] theorem exactMembers_append {others : List Member} :
    ExactMembers (members ++ others) ↔ ExactMembers members ∧ ExactMembers others :=
  List.forall_mem_append

/-! ### The properties listed -/

theorem entries_nodup (members : List Member) :
    ((Value.object members).entries.map (·.1)).Nodup := by
  have perm := List.perm_insertionSort (fun a b : Member => listingRank a.1 ≤ listingRank b.1)
    (ownMembers members)
  exact (perm.map _).nodup_iff.mpr (ownMembers_nodup members)

theorem entries_sorted (members : List Member) : ((Value.object members).entries.map (·.1)).Pairwise
    fun a b => listingRank a ≤ listingRank b := by
  have : Std.Total fun a b : Member => listingRank a.1 ≤ listingRank b.1 :=
    ⟨fun _ _ => Nat.le_total _ _⟩
  have : IsTrans Member fun a b => listingRank a.1 ≤ listingRank b.1 :=
    ⟨fun _ _ _ => Nat.le_trans⟩
  exact List.pairwise_map.mpr (List.pairwise_insertionSort _ _)

/-- An object whose members stand as they are listed. -/
theorem entries_eq (distinct : (members.map (·.1)).Nodup)
    (sorted : (members.map (·.1)).Pairwise fun a b => listingRank a ≤ listingRank b) :
    (Value.object members).entries = members := by
  rw [Value.entries, ownMembers_eq distinct]
  exact (List.pairwise_map.mp sorted).insertionSort_eq

end Json
