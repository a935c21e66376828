import FlightBooking.Domain.Digests
import FlightBooking.Library.Decimal
import FlightBooking.Library.Ordering
import FlightBooking.Library.Utf16
import FlightBooking.Library.Utf8
import Mathlib.Data.List.Lex

/-!
Fingerprints of requests: `requestFingerprint` over `canonicalJson`.

The canonical text sorts the members of an object by their keys and leaves out those
that are undefined. It is unambiguous (`canonicalJson_cancel`): a text, with what follows
a value, has one reading, so that two bodies have one text exactly if they are equal up to
the order of their members and the undefined ones (`canonicalJson_eq_iff`).
-/

namespace FlightBooking

open Utf16 Json

/-! ### Bodies -/

/-- What a request carries; `none` is a member that is undefined. -/
inductive Body where
  | null
  | bool (b : Bool)
  | number (n : Decimal.Number)
  | string (s : List CodeUnit)
  | array (items : List Body)
  | object (members : List (List CodeUnit × Option Body))

/-- The keys of every object are distinct. -/
inductive Body.WellFormed : Body → Prop where
  | null : WellFormed .null
  | bool (b : Bool) : WellFormed (.bool b)
  | number (n : Decimal.Number) : WellFormed (.number n)
  | string (s : List CodeUnit) : WellFormed (.string s)
  | array {items : List Body} (all : ∀ item ∈ items, WellFormed item) : WellFormed (.array items)
  | object {members : List (List CodeUnit × Option Body)} (distinct : (members.map (·.1)).Nodup)
      (all : ∀ key body, (key, some body) ∈ members → WellFormed body) :
      WellFormed (.object members)

/-- Equal up to the order of the members of objects and the members that are undefined. -/
inductive Body.Equivalent : Body → Body → Prop where
  | null : Equivalent .null .null
  | bool (b : Bool) : Equivalent (.bool b) (.bool b)
  | number (n : Decimal.Number) : Equivalent (.number n) (.number n)
  | string (s : List CodeUnit) : Equivalent (.string s) (.string s)
  | array {items items' : List Body} (length : items.length = items'.length)
      (each : ∀ a b, (a, b) ∈ items.zip items' → Equivalent a b) :
      Equivalent (.array items) (.array items')
  | object {members members' : List (List CodeUnit × Option Body)}
      (defined : ∀ key, (∃ a, (key, some a) ∈ members) ↔ ∃ b, (key, some b) ∈ members')
      (each : ∀ key a b, (key, some a) ∈ members → (key, some b) ∈ members' → Equivalent a b) :
      Equivalent (.object members) (.object members')

/-! ### The canonical text -/

/-- `join(",")`. -/
def joinTexts : List (List Char) → List Char
  | [] => []
  | text :: texts => text ++ texts.flatMap fun text => ',' :: text

/-- By the UTF-16 code units of the keys, as `sort()` has it. -/
def KeyLe {α : Type} (a b : List CodeUnit × α) : Prop := a.1 ≤ b.1

instance {α : Type} : DecidableRel (KeyLe (α := α)) := fun a b =>
  inferInstanceAs (Decidable (a.1 ≤ b.1))

mutual

def canonicalJson : Body → List Char
  | .null => ['n', 'u', 'l', 'l']
  | .bool true => ['t', 'r', 'u', 'e']
  | .bool false => ['f', 'a', 'l', 's', 'e']
  | .number n => n.text
  | .string s => quoted s
  | .array items => '[' :: joinTexts (canonicalItems items) ++ [']']
  | .object members =>
      '{' :: joinTexts (((canonicalMembers members).insertionSort KeyLe).map fun m =>
        quoted m.1 ++ ':' :: m.2) ++ ['}']

def canonicalItems : List Body → List (List Char)
  | [] => []
  | item :: items => canonicalJson item :: canonicalItems items

/-- The members that are not undefined, with their texts. -/
def canonicalMembers : List (List CodeUnit × Option Body) → List (List CodeUnit × List Char)
  | [] => []
  | (_, none) :: members => canonicalMembers members
  | (key, some body) :: members => (key, canonicalJson body) :: canonicalMembers members

end

/-- What a key is claimed for. -/
structure FingerprintedRequest where
  method : List CodeUnit
  path : List CodeUnit
  body : Body

def units (text : String) : List CodeUnit := text.toList.flatMap fun c => (Point.char c).units

def FingerprintedRequest.members (request : FingerprintedRequest) :
    List (List CodeUnit × Option Body) :=
  [(units "method", some (.string request.method)), (units "path", some (.string request.path)),
    (units "body", some request.body)]

def FingerprintedRequest.value (request : FingerprintedRequest) : Body := .object request.members

/-- The bytes that are digested. -/
def FingerprintedRequest.material (request : FingerprintedRequest) : List UInt8 :=
  Utf8.encode (canonicalJson request.value)

def requestFingerprint (sha256 : Digest) (request : FingerprintedRequest) : List Char :=
  hex (sha256 request.material)

/-! ### Members in order -/

variable {body body' : Body} {items items' : List Body}
  {members members' : List (List CodeUnit × Option Body)} {key : List CodeUnit}
  {text rest rest' : List Char}

/-- The members that are not undefined. -/
def definedMembers (members : List (List CodeUnit × Option Body)) : List (List CodeUnit × Body) :=
  members.filterMap fun m => m.2.map (m.1, ·)

theorem mem_definedMembers {m : List CodeUnit × Body} :
    m ∈ definedMembers members ↔ (m.1, some m.2) ∈ members := by
  rw [definedMembers, List.mem_filterMap]
  constructor
  · rintro ⟨⟨key, value⟩, mem, same⟩
    cases value with
    | none => cases same
    | some body =>
        cases same
        exact mem
  · intro mem
    exact ⟨_, mem, rfl⟩

theorem keys_definedMembers (distinct : (members.map (·.1)).Nodup) :
    ((definedMembers members).map (·.1)).Nodup := by
  refine List.Nodup.sublist ?_ distinct
  induction members with
  | nil => exact .slnil
  | cons m members ih =>
      rw [List.map_cons, List.nodup_cons] at distinct
      obtain ⟨key, value⟩ := m
      cases value with
      | none => exact (ih distinct.2).cons _
      | some body => exact (ih distinct.2).cons_cons _

theorem canonicalItems_eq (items : List Body) : canonicalItems items = items.map canonicalJson := by
  induction items with
  | nil => rfl
  | cons item items ih => rw [canonicalItems, ih, List.map_cons]

theorem canonicalMembers_eq (members : List (List CodeUnit × Option Body)) :
    canonicalMembers members = (definedMembers members).map fun m => (m.1, canonicalJson m.2) := by
  induction members with
  | nil => rfl
  | cons m members ih =>
      obtain ⟨key, value⟩ := m
      cases value with
      | none => exact ih
      | some body => exact congrArg _ ih

/-- The text of a member. -/
def memberText (m : List CodeUnit × Body) : List Char := quoted m.1 ++ ':' :: canonicalJson m.2

/-- The members of an object as they are written. -/
def sortedMembers (members : List (List CodeUnit × Option Body)) : List (List CodeUnit × Body) :=
  (definedMembers members).insertionSort KeyLe

theorem canonicalJson_array (items : List Body) :
    canonicalJson (.array items) = '[' :: joinTexts (items.map canonicalJson) ++ [']'] := by
  rw [canonicalJson, canonicalItems_eq]

theorem canonicalJson_object (members : List (List CodeUnit × Option Body)) :
    canonicalJson (.object members) =
      '{' :: joinTexts ((sortedMembers members).map memberText) ++ ['}'] := by
  have sorted := List.map_insertionSort KeyLe KeyLe
    (fun m : List CodeUnit × Body => (m.1, canonicalJson m.2)) (definedMembers members)
    (fun _ _ _ _ => Iff.rfl)
  rw [canonicalJson, canonicalMembers_eq, ← sorted, List.map_map]
  rfl

/-! ### One reading -/

/-- What a value's text starts with. -/
inductive Kind where
  | null
  | yes
  | no
  | number
  | string
  | array
  | object
  deriving DecidableEq

def Kind.of (c : Char) : Kind :=
  if c = 'n' then .null
  else if c = 't' then .yes
  else if c = 'f' then .no
  else if c = quote then .string
  else if c = '[' then .array
  else if c = '{' then .object
  else .number

def Body.kind : Body → Kind
  | .null => .null
  | .bool true => .yes
  | .bool false => .no
  | .number _ => .number
  | .string _ => .string
  | .array _ => .array
  | .object _ => .object

/-- A value's text starts with a character of its kind, and closes nothing. -/
theorem canonicalJson_head (body : Body) :
    ∃ c tail, canonicalJson body = c :: tail ∧ Kind.of c = body.kind ∧ c ≠ ']' ∧ c ≠ '}' := by
  cases body with
  | null => exact ⟨_, _, rfl, by decide⟩
  | bool b => cases b <;> exact ⟨_, _, rfl, by decide⟩
  | number n =>
      obtain ⟨c, tail, written, start⟩ := Decimal.number_head n
      have other := (number_start start).2
      refine ⟨c, tail, written, ?_, other _ (by decide), other _ (by decide)⟩
      simp only [Kind.of, other 'n' (by decide), other 't' (by decide), other 'f' (by decide),
        other quote (by decide), other '[' (by decide), other '{' (by decide), if_false, Body.kind]
  | string s => exact ⟨_, _, rfl, rfl, by decide, by decide⟩
  | array items => exact ⟨'[', _, canonicalJson_array items, rfl, by decide, by decide⟩
  | object members => exact ⟨'{', _, canonicalJson_object members, rfl, by decide, by decide⟩

/-- Values whose texts begin equally are of one kind. -/
theorem kind_eq (h : canonicalJson body ++ rest = canonicalJson body' ++ rest') :
    body.kind = body'.kind := by
  obtain ⟨c, tail, starts, kind, -⟩ := canonicalJson_head body
  obtain ⟨c', tail', starts', kind', -⟩ := canonicalJson_head body'
  rw [starts, starts'] at h
  rw [← kind, ← kind', (List.cons.inj h).1]

theorem ends_numeric (ends : Ends rest) : ∀ c ∈ rest.head?, Decimal.isNumeric c = false := by
  intro c first
  rcases ends c first with rfl | rfl | rfl <;> rfl

/-- What closes a list of texts. -/
def Closes (close : Char) : Prop := close = ']' ∨ close = '}'

section JoinTexts

variable {α : Type} {write : α → List Char} {Same : α → α → Prop} {close : Char} {as bs : List α}

theorem ends_separated (closes : Closes close) (as : List α) (rest : List Char) :
    Ends (((as.map write).flatMap fun text => ',' :: text) ++ close :: rest) := by
  cases as with
  | nil =>
      rcases closes with rfl | rfl
      · exact ends_bracket
      · exact ends_brace
  | cons a as => exact ends_comma

/-- A text of the first list that begins as one of the second is the same up to `Same`,
and both are followed by the same. -/
def Cancels (write : α → List Char) (Same : α → α → Prop) (as bs : List α) : Prop :=
  ∀ a ∈ as, ∀ b ∈ bs, ∀ rest rest', Ends rest → Ends rest' → write a ++ rest = write b ++ rest' →
    Same a b ∧ rest = rest'

theorem separated_cancel (closes : Closes close) (each : Cancels write Same as bs)
    (h : ((as.map write).flatMap fun text => ',' :: text) ++ close :: rest =
      ((bs.map write).flatMap fun text => ',' :: text) ++ close :: rest') :
    List.Forall₂ Same as bs ∧ rest = rest' := by
  have notComma : close ≠ ',' := by
    rcases closes with rfl | rfl <;> decide
  induction as generalizing bs with
  | nil =>
      cases bs with
      | nil => exact ⟨.nil, (List.cons.inj h).2⟩
      | cons b bs => exact absurd (List.cons.inj h).1 notComma
  | cons a as ih =>
      cases bs with
      | nil => exact absurd (List.cons.inj h).1.symm notComma
      | cons b bs =>
          simp only [List.map_cons, List.flatMap_cons, List.cons_append, List.append_assoc,
            List.cons.injEq, true_and] at h
          obtain ⟨same, next⟩ := each a List.mem_cons_self b List.mem_cons_self _ _
            (ends_separated closes as rest) (ends_separated closes bs rest') h
          obtain ⟨others, last⟩ := ih
            (fun a mem b mem' => each a (.tail _ mem) b (.tail _ mem')) next
          exact ⟨.cons same others, last⟩

/-- Two lists of texts that begin two equal texts, up to their closing brackets. -/
theorem joinTexts_cancel (closes : Closes close)
    (opens : ∀ a rest rest', write a ++ rest ≠ close :: rest') (each : Cancels write Same as bs)
    (h : joinTexts (as.map write) ++ close :: rest = joinTexts (bs.map write) ++ close :: rest') :
    List.Forall₂ Same as bs ∧ rest = rest' := by
  cases as with
  | nil =>
      cases bs with
      | nil => exact ⟨.nil, (List.cons.inj h).2⟩
      | cons b bs =>
          rw [List.map_cons, joinTexts, List.append_assoc] at h
          exact absurd h.symm (opens b _ _)
  | cons a as =>
      rw [List.map_cons, joinTexts, List.append_assoc] at h
      cases bs with
      | nil => exact absurd h (opens a _ _)
      | cons b bs =>
          rw [List.map_cons, joinTexts, List.append_assoc] at h
          obtain ⟨same, next⟩ := each a List.mem_cons_self b List.mem_cons_self _ _
            (ends_separated closes as rest) (ends_separated closes bs rest') h
          obtain ⟨others, last⟩ := separated_cancel closes
            (fun a mem b mem' => each a (.tail _ mem) b (.tail _ mem')) next
          exact ⟨.cons same others, last⟩

end JoinTexts

/-! ### Equal texts, equivalent bodies -/

theorem canonicalJson_opens {close : Char} (closes : Closes close) (body : Body)
    (rest rest' : List Char) : canonicalJson body ++ rest ≠ close :: rest' := by
  obtain ⟨c, tail, starts, -, bracket, brace⟩ := canonicalJson_head body
  rw [starts]
  intro h
  obtain rfl := (List.cons.inj h).1
  rcases closes with rfl | rfl
  · exact bracket rfl
  · exact brace rfl

theorem memberText_opens (m : List CodeUnit × Body) (rest rest' : List Char) :
    memberText m ++ rest ≠ '}' :: rest' := by
  intro h
  exact absurd (List.cons.inj h).1 (by decide)

/-- A member written alike is the same member, with an equivalent value. -/
def SameMember (m m' : List CodeUnit × Body) : Prop := m.1 = m'.1 ∧ Body.Equivalent m.2 m'.2

theorem mem_sortedMembers {m : List CodeUnit × Body} :
    m ∈ sortedMembers members ↔ (m.1, some m.2) ∈ members := by
  rw [sortedMembers, List.mem_insertionSort, mem_definedMembers]

/-- A key has one value. -/
theorem value_eq (distinct : (members.map (·.1)).Nodup) {value value' : Option Body}
    (mem : (key, value) ∈ members) (mem' : (key, value') ∈ members) : value = value' :=
  congrArg Prod.snd (List.inj_on_of_nodup_map distinct mem mem' rfl)

theorem exists_of_mem {α β : Type} {R : α → β → Prop} {as : List α} {bs : List β}
    (paired : List.Forall₂ R as bs) {a : α} (mem : a ∈ as) : ∃ b ∈ bs, R a b := by
  induction paired with
  | nil => cases mem
  | cons related _ ih =>
      rcases List.mem_cons.mp mem with rfl | mem
      · exact ⟨_, List.mem_cons_self, related⟩
      · obtain ⟨b, mem', related'⟩ := ih mem
        exact ⟨b, .tail _ mem', related'⟩

/-- Objects whose written members agree are equivalent. -/
theorem equivalent_object (distinct' : (members'.map (·.1)).Nodup)
    (same : List.Forall₂ SameMember (sortedMembers members) (sortedMembers members')) :
    Body.Equivalent (.object members) (.object members') := by
  have there : ∀ key a, (key, some a) ∈ members →
      ∃ b, (key, some b) ∈ members' ∧ Body.Equivalent a b := by
    intro key a mem
    obtain ⟨m, mem', rfl, equivalent⟩ :=
      exists_of_mem same (mem_sortedMembers.mpr mem : (key, a) ∈ sortedMembers members)
    exact ⟨m.2, mem_sortedMembers.mp mem', equivalent⟩
  constructor
  · intro key
    constructor
    · rintro ⟨a, mem⟩
      obtain ⟨b, mem', -⟩ := there key a mem
      exact ⟨b, mem'⟩
    · rintro ⟨b, mem'⟩
      obtain ⟨m, mem, rfl, -⟩ :=
        exists_of_mem same.flip (mem_sortedMembers.mpr mem' : (key, b) ∈ sortedMembers members')
      exact ⟨m.2, mem_sortedMembers.mp mem⟩
  · intro key a b mem mem'
    obtain ⟨b', own, equivalent⟩ := there key a mem
    obtain rfl : b' = b := Option.some.inj (value_eq distinct' own mem')
    exact equivalent

/-- A body's text, with what follows it, has one reading. -/
theorem canonicalJson_cancel (wellFormed : body.WellFormed) (wellFormed' : body'.WellFormed)
    (ends : Ends rest) (ends' : Ends rest')
    (h : canonicalJson body ++ rest = canonicalJson body' ++ rest') :
    Body.Equivalent body body' ∧ rest = rest' := by
  induction wellFormed generalizing body' rest rest' with
  | null =>
      have kinds := kind_eq h
      cases wellFormed' with
      | null => exact ⟨.null, List.append_cancel_left h⟩
      | bool b => cases b <;> cases kinds
      | _ => cases kinds
  | bool b =>
      have kinds := kind_eq h
      cases wellFormed' with
      | bool b' =>
          cases b <;> cases b' <;>
            first
            | exact ⟨.bool _, List.append_cancel_left h⟩
            | cases kinds
      | _ => cases b <;> cases kinds
  | number n =>
      have kinds := kind_eq h
      cases wellFormed' with
      | number n' =>
          rw [canonicalJson, canonicalJson] at h
          obtain ⟨rfl, same⟩ := Decimal.text_cancel (ends_numeric ends) (ends_numeric ends') h
          exact ⟨.number n, same⟩
      | bool b => cases b <;> cases kinds
      | _ => cases kinds
  | string s =>
      have kinds := kind_eq h
      cases wellFormed' with
      | string s' =>
          rw [canonicalJson, canonicalJson] at h
          obtain ⟨rfl, same⟩ := quoted_cancel h
          exact ⟨.string s, same⟩
      | bool b => cases b <;> cases kinds
      | _ => cases kinds
  | @array items all ih =>
      have kinds := kind_eq h
      cases wellFormed' with
      | @array items' all' =>
          have each : Cancels canonicalJson Body.Equivalent items items' := by
            intro a mem b mem' rest rest' ends ends' same
            exact ih a mem (all' b mem') ends ends' same
          simp only [canonicalJson_array, List.cons_append, List.append_assoc, List.nil_append,
            List.cons.injEq, true_and] at h
          obtain ⟨same, last⟩ := joinTexts_cancel (.inl rfl) (canonicalJson_opens (.inl rfl)) each h
          obtain ⟨length, pairs⟩ := List.forall₂_iff_zip.mp same
          exact ⟨.array length fun a b => pairs, last⟩
      | bool b => cases b <;> cases kinds
      | _ => cases kinds
  | @object members distinct all ih =>
      have kinds := kind_eq h
      cases wellFormed' with
      | @object members' distinct' all' =>
          have each : Cancels memberText SameMember (sortedMembers members)
              (sortedMembers members') := by
            intro a mem b mem' rest rest' ends ends' same
            rw [memberText, memberText, List.append_assoc, List.append_assoc] at same
            obtain ⟨key, value⟩ := quoted_cancel same
            obtain ⟨equivalent, last⟩ := ih a.1 a.2 (mem_sortedMembers.mp mem)
              (all' b.1 b.2 (mem_sortedMembers.mp mem')) ends ends' (List.cons.inj value).2
            exact ⟨⟨key, equivalent⟩, last⟩
          simp only [canonicalJson_object, List.cons_append, List.append_assoc, List.nil_append,
            List.cons.injEq, true_and] at h
          obtain ⟨same, last⟩ := joinTexts_cancel (.inr rfl) memberText_opens each h
          exact ⟨equivalent_object distinct' same, last⟩
      | bool b => cases b <;> cases kinds
      | _ => cases kinds

instance {α : Type} : Std.Total (KeyLe (α := α)) := ⟨fun a b => le_total a.1 b.1⟩

instance {α : Type} : IsTrans (List CodeUnit × α) KeyLe := ⟨fun _ _ _ => le_trans⟩

theorem mem_canonicalMembers {m : List CodeUnit × List Char} :
    m ∈ canonicalMembers members ↔ ∃ a, (m.1, some a) ∈ members ∧ canonicalJson a = m.2 := by
  rw [canonicalMembers_eq, List.mem_map]
  constructor
  · rintro ⟨m', mem, rfl⟩
    exact ⟨m'.2, mem_definedMembers.mp mem, rfl⟩
  · rintro ⟨a, mem, same⟩
    exact ⟨(m.1, a), mem_definedMembers.mpr mem, by rw [same]⟩

theorem keys_canonicalMembers (distinct : (members.map (·.1)).Nodup) :
    ((canonicalMembers members).map (·.1)).Nodup := by
  rw [canonicalMembers_eq, List.map_map]
  exact keys_definedMembers distinct

/-- Equivalent bodies have one text. -/
theorem canonicalJson_eq (equivalent : Body.Equivalent body body') (wellFormed : body.WellFormed)
    (wellFormed' : body'.WellFormed) : canonicalJson body = canonicalJson body' := by
  induction equivalent with
  | null => rfl
  | bool b => rfl
  | number n => rfl
  | string s => rfl
  | @array items items' length each ih =>
      cases wellFormed with
      | array all =>
          cases wellFormed' with
          | array all' =>
              have texts : items.map canonicalJson = items'.map canonicalJson := by
                rw [← List.forall₂_eq_eq_eq, List.forall₂_map_left_iff, List.forall₂_map_right_iff,
                  List.forall₂_iff_zip]
                refine ⟨length, fun {a b} pair => ?_⟩
                exact ih a b pair (all a (List.of_mem_zip pair).1) (all' b (List.of_mem_zip pair).2)
              rw [canonicalJson_array, canonicalJson_array, texts]
  | @object members members' defined each ih =>
      cases wellFormed with
      | object distinct all =>
          cases wellFormed' with
          | object distinct' all' =>
              have sorted : (canonicalMembers members).insertionSort KeyLe =
                  (canonicalMembers members').insertionSort KeyLe := by
                refine Ordering.insertionSort_eq (.of_map _ (keys_canonicalMembers distinct))
                  (.of_map _ (keys_canonicalMembers distinct')) ?_ ?_
                · intro m
                  rw [mem_canonicalMembers, mem_canonicalMembers]
                  constructor
                  · rintro ⟨a, mem, text⟩
                    obtain ⟨b, mem'⟩ := (defined m.1).mp ⟨a, mem⟩
                    have same := ih m.1 a b mem mem' (all _ _ mem) (all' _ _ mem')
                    exact ⟨b, mem', same.symm.trans text⟩
                  · rintro ⟨b, mem', text⟩
                    obtain ⟨a, mem⟩ := (defined m.1).mpr ⟨b, mem'⟩
                    have same := ih m.1 a b mem mem' (all _ _ mem) (all' _ _ mem')
                    exact ⟨a, mem, same.trans text⟩
                · intro a mem b mem' le ge
                  exact List.inj_on_of_nodup_map (keys_canonicalMembers distinct) mem mem'
                    (le_antisymm le ge)
              rw [canonicalJson, canonicalJson, sorted]

theorem canonicalJson_eq_iff (wellFormed : body.WellFormed) (wellFormed' : body'.WellFormed) :
    canonicalJson body = canonicalJson body' ↔ Body.Equivalent body body' := by
  constructor
  · intro same
    exact (canonicalJson_cancel wellFormed wellFormed' ends_nil ends_nil (congrArg (· ++ []) same)).1
  · intro equivalent
    exact canonicalJson_eq equivalent wellFormed wellFormed'

/-! ### Fingerprints -/

variable {request request' : FingerprintedRequest}

/-- The three members of a request. -/
theorem mem_members {a : Body} :
    (key, some a) ∈ request.members ↔
      (key = units "method" ∧ a = .string request.method) ∨
        (key = units "path" ∧ a = .string request.path) ∨ (key = units "body" ∧ a = request.body) := by
  simp only [FingerprintedRequest.members, List.mem_cons, List.not_mem_nil, or_false,
    Prod.mk.injEq, Option.some.injEq]

theorem distinct_members (request : FingerprintedRequest) : (request.members.map (·.1)).Nodup := by
  have distinct : [units "method", units "path", units "body"].Nodup := by decide
  exact distinct

theorem wellFormed_value (wellFormed : request.body.WellFormed) : request.value.WellFormed := by
  refine .object (distinct_members request) ?_
  intro key body mem
  rcases mem_members.mp mem with ⟨-, rfl⟩ | ⟨-, rfl⟩ | ⟨-, rfl⟩
  · exact .string _
  · exact .string _
  · exact wellFormed

theorem equivalent_string {s t : List CodeUnit} :
    Body.Equivalent (.string s) (.string t) ↔ s = t := by
  constructor
  · intro h
    cases h
    rfl
  · rintro rfl
    exact .string s

/-- The three members of a request are compared one by one. -/
theorem equivalent_value_iff : Body.Equivalent request.value request'.value ↔
    request.method = request'.method ∧ request.path = request'.path ∧
      Body.Equivalent request.body request'.body := by
  rw [← equivalent_string, ← @equivalent_string request.path]
  constructor
  · intro equivalent
    cases equivalent with
    | object _ each =>
        exact ⟨each _ _ _ (mem_members.mpr (.inl ⟨rfl, rfl⟩)) (mem_members.mpr (.inl ⟨rfl, rfl⟩)),
          each _ _ _ (mem_members.mpr (.inr (.inl ⟨rfl, rfl⟩))) (mem_members.mpr (.inr (.inl ⟨rfl, rfl⟩))),
          each _ _ _ (mem_members.mpr (.inr (.inr ⟨rfl, rfl⟩))) (mem_members.mpr (.inr (.inr ⟨rfl, rfl⟩)))⟩
  · rintro ⟨method, path, body⟩
    have there {request request' : FingerprintedRequest} (key : List CodeUnit) :
        (∃ a, (key, some a) ∈ request.members) → ∃ b, (key, some b) ∈ request'.members := by
      rintro ⟨a, mem⟩
      rcases mem_members.mp mem with ⟨rfl, -⟩ | ⟨rfl, -⟩ | ⟨rfl, -⟩
      · exact ⟨_, mem_members.mpr (.inl ⟨rfl, rfl⟩)⟩
      · exact ⟨_, mem_members.mpr (.inr (.inl ⟨rfl, rfl⟩))⟩
      · exact ⟨_, mem_members.mpr (.inr (.inr ⟨rfl, rfl⟩))⟩
    refine .object (fun key => ⟨there key, there key⟩) ?_
    intro key a b mem mem'
    have value (own : Body) (there : (key, some own) ∈ request'.members) : b = own :=
      Option.some.inj (value_eq (distinct_members request') mem' there)
    rcases mem_members.mp mem with ⟨rfl, rfl⟩ | ⟨rfl, rfl⟩ | ⟨rfl, rfl⟩
    · rw [value _ (mem_members.mpr (.inl ⟨rfl, rfl⟩))]
      exact method
    · rw [value _ (mem_members.mpr (.inr (.inl ⟨rfl, rfl⟩)))]
      exact path
    · rw [value _ (mem_members.mpr (.inr (.inr ⟨rfl, rfl⟩)))]
      exact body

/-- Two requests have one fingerprint exactly if their methods and paths are equal and
their bodies equivalent, as long as the digest tells their texts apart. -/
theorem requestFingerprint_eq_iff (sha256 : Digest) (request request' : FingerprintedRequest)
    (wellFormed : request.body.WellFormed) (wellFormed' : request'.body.WellFormed)
    (separates : sha256.Separates request.material request'.material) :
    requestFingerprint sha256 request = requestFingerprint sha256 request' ↔
      request.method = request'.method ∧ request.path = request'.path ∧
        Body.Equivalent request.body request'.body := by
  rw [← equivalent_value_iff, ← canonicalJson_eq_iff (wellFormed_value wellFormed)
    (wellFormed_value wellFormed')]
  constructor
  · intro same
    have texts := congrArg Utf8.decode (separates (hex_injective same))
    rwa [FingerprintedRequest.material, FingerprintedRequest.material, Utf8.decode_encode,
      Utf8.decode_encode] at texts
  · intro same
    rw [requestFingerprint, requestFingerprint, FingerprintedRequest.material,
      FingerprintedRequest.material, same]

/-- A payment with an amount of 0.5; `last` is the last letter of its token. -/
def tokenPayment (members : List CodeUnit → List (List CodeUnit × Option Body)) (last : String) :
    FingerprintedRequest where
  method := units "POST"
  path := units "/api/bookings/1/payments"
  body := .object (members (units "tok-" ++ units last))

def half : Body := .number (.signed false ⟨5, 0, by decide⟩)

def tokenFirst (token : List CodeUnit) : List (List CodeUnit × Option Body) :=
  [(units "paymentToken", some (.string token)), (units "amount", some half)]

def amountFirst (token : List CodeUnit) : List (List CodeUnit × Option Body) :=
  [(units "amount", some half), (units "note", none), (units "paymentToken", some (.string token))]

/-- The SHA-256 digests of two texts. -/
def tokenDigest : Digest := fun material =>
  if material = (tokenPayment tokenFirst "1").material then
    [177, 145, 0, 84, 77, 122, 88, 239, 209, 93, 242, 45, 192, 61, 195, 196, 203, 246, 74, 90, 91,
      153, 54, 90, 33, 216, 78, 177, 13, 182, 135, 84]
  else if material = (tokenPayment tokenFirst "2").material then
    [78, 249, 127, 237, 118, 152, 188, 41, 3, 38, 13, 167, 215, 25, 68, 183, 6, 177, 220, 115,
      105, 179, 140, 245, 91, 23, 116, 238, 1, 149, 212, 175]
  else List.replicate 32 0

example : String.ofList (canonicalJson (tokenPayment amountFirst "1").body) =
    "\x7b\"amount\":0.5,\"paymentToken\":\"tok-1\"\x7d" := by decide +kernel

theorem wellFormed_tokenFirst (token : List CodeUnit) :
    Body.WellFormed (.object (tokenFirst token)) := by
  have distinct : [units "paymentToken", units "amount"].Nodup := by decide
  refine .object distinct ?_
  intro key body mem
  simp only [tokenFirst, List.mem_cons, List.not_mem_nil, or_false, Prod.mk.injEq,
    Option.some.injEq] at mem
  rcases mem with ⟨-, rfl⟩ | ⟨-, rfl⟩
  · exact .string _
  · exact .number _

theorem wellFormed_amountFirst (token : List CodeUnit) :
    Body.WellFormed (.object (amountFirst token)) := by
  have distinct : [units "amount", units "note", units "paymentToken"].Nodup := by decide
  refine .object distinct ?_
  intro key body mem
  simp only [amountFirst, List.mem_cons, List.not_mem_nil, or_false, Prod.mk.injEq,
    Option.some.injEq, reduceCtorEq, and_false, false_or] at mem
  rcases mem with ⟨-, rfl⟩ | ⟨-, rfl⟩
  · exact .number _
  · exact .string _

theorem requestFingerprint_eq_iff_token :
    requestFingerprint tokenDigest (tokenPayment tokenFirst "1") =
        requestFingerprint tokenDigest (tokenPayment amountFirst "1") ∧
      requestFingerprint tokenDigest (tokenPayment tokenFirst "1") ≠
        requestFingerprint tokenDigest (tokenPayment tokenFirst "2") := by
  have first := wellFormed_tokenFirst
  constructor
  · have same : canonicalJson (tokenPayment tokenFirst "1").body =
        canonicalJson (tokenPayment amountFirst "1").body := by decide +kernel
    have one : (tokenPayment tokenFirst "1").material = (tokenPayment amountFirst "1").material := by
      decide +kernel
    exact (requestFingerprint_eq_iff tokenDigest (tokenPayment tokenFirst "1")
      (tokenPayment amountFirst "1") (first _) (wellFormed_amountFirst _) fun _ => one).mpr
        ⟨rfl, rfl, (canonicalJson_eq_iff (first _) (wellFormed_amountFirst _)).mp same⟩
  · intro same
    have apart : tokenDigest (tokenPayment tokenFirst "1").material ≠
        tokenDigest (tokenPayment tokenFirst "2").material := by decide +kernel
    obtain ⟨-, -, equivalent⟩ := (requestFingerprint_eq_iff tokenDigest (tokenPayment tokenFirst "1")
      (tokenPayment tokenFirst "2") (first _) (first _) fun digests => absurd digests apart).mp same
    exact absurd (canonicalJson_eq equivalent (first _) (first _)) (by decide +kernel)

end FlightBooking
