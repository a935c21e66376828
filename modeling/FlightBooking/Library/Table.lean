import Mathlib.Data.List.Basic
import Mathlib.Data.List.Nodup
import Mathlib.Data.List.Sort

/-!
Tables: lists of rows with a key, no key twice.

The invariant is a field, so a table with two rows of one key cannot be built;
membership plus the key determines a row (`Table.eq_of_key`). Rows keep their
insertion order, which nothing below relies on. `put` inserts a row or replaces
the one with its key, `erase` deletes; each has one membership lemma and one
lookup lemma, and a list of writes has the same two (`mem_putAll`,
`find?_putAll`).
-/

namespace Relational

/-- Rows with a primary key. -/
class Keyed (α : Type) (κ : outParam Type) where
  key : α → κ

export Keyed (key)

/-- The rows of a table; no two have the same key. -/
structure Table (α : Type) {κ : Type} [Keyed α κ] where
  rows : List α
  nodup : (rows.map key).Nodup

namespace Table

variable {α κ : Type} [Keyed α κ]

instance : Membership α (Table α) := ⟨fun t v => v ∈ t.rows⟩

@[simp] theorem mem_rows {t : Table α} {v : α} : v ∈ t.rows ↔ v ∈ t := Iff.rfl

instance (t : Table α) (p : α → Prop) [DecidablePred p] : Decidable (∀ v ∈ t, p v) :=
  inferInstanceAs (Decidable (∀ v ∈ t.rows, p v))

instance (t : Table α) (p : α → Prop) [DecidablePred p] : Decidable (∃ v ∈ t, p v) :=
  inferInstanceAs (Decidable (∃ v ∈ t.rows, p v))

/-- The table without rows. -/
def empty : Table α := ⟨[], List.nodup_nil⟩

instance : EmptyCollection (Table α) := ⟨empty⟩

@[simp] theorem not_mem_empty (v : α) : v ∉ (∅ : Table α) := List.not_mem_nil

@[simp] theorem rows_empty : (∅ : Table α).rows = [] := rfl

theorem eq_of_rows {t u : Table α} (same : t.rows = u.rows) : t = u := by
  cases t
  cases u
  cases same
  rfl

/-- A row is determined by its key. -/
theorem eq_of_key {t : Table α} {u v : α} (hu : u ∈ t) (hv : v ∈ t) (same : key u = key v) :
    u = v :=
  List.inj_on_of_nodup_map t.nodup hu hv same

variable [DecidableEq κ]

/-- The row with key `k`. -/
def find? (t : Table α) (k : κ) : Option α := t.rows.find? fun v => key v = k

theorem find?_eq_some {t : Table α} {k : κ} {v : α} :
    t.find? k = some v ↔ v ∈ t ∧ key v = k := by
  constructor
  · intro h
    exact ⟨List.mem_of_find?_eq_some h, by simpa using List.find?_some h⟩
  · rintro ⟨mem, rfl⟩
    cases h : t.find? (key v) with
    | none =>
        have out := List.find?_eq_none.mp h v mem
        simp at out
    | some u =>
        have same : key u = key v := by simpa using List.find?_some h
        rw [eq_of_key (List.mem_of_find?_eq_some h) mem same]

theorem find?_of_mem {t : Table α} {v : α} (mem : v ∈ t) : t.find? (key v) = some v :=
  find?_eq_some.mpr ⟨mem, rfl⟩

/-- A row that two versions agree on is in one if it is in the other. -/
theorem mem_of_find?_eq {t u : Table α} {v : α} (same : t.find? (key v) = u.find? (key v))
    (mem : v ∈ t) : v ∈ u :=
  (find?_eq_some.mp (same ▸ find?_of_mem mem)).1

theorem find?_eq_none {t : Table α} {k : κ} : t.find? k = none ↔ ∀ v ∈ t, key v ≠ k := by
  simp [find?, List.find?_eq_none]

theorem mem_of_find? {t : Table α} {k : κ} {v : α} (h : t.find? k = some v) : v ∈ t :=
  (find?_eq_some.mp h).1

theorem key_of_find? {t : Table α} {k : κ} {v : α} (h : t.find? k = some v) : key v = k :=
  (find?_eq_some.mp h).2

@[simp] theorem find?_empty (k : κ) : (∅ : Table α).find? k = none := rfl

/-- Insert the row, or replace the row with its key. -/
def put (t : Table α) (v : α) : Table α where
  rows := if key v ∈ t.rows.map key then t.rows.map fun u => if key u = key v then v else u
    else t.rows ++ [v]
  nodup := by
    split
    · have : (t.rows.map fun u => if key u = key v then v else u).map key = t.rows.map key := by
        rw [List.map_map]
        refine List.map_congr_left fun u _ => ?_
        by_cases same : key u = key v <;> simp [same]
      rw [this]
      exact t.nodup
    · rename_i fresh
      rw [List.map_append, List.nodup_append]
      refine ⟨t.nodup, by simp, ?_⟩
      intro k mem k' mem'
      simp only [List.map_cons, List.map_nil, List.mem_singleton] at mem'
      rintro rfl
      exact fresh (mem' ▸ mem)

theorem mem_put {t : Table α} {u v : α} : u ∈ t.put v ↔ u = v ∨ u ∈ t ∧ key u ≠ key v := by
  change u ∈ (if key v ∈ t.rows.map key then t.rows.map fun x => if key x = key v then v else x
    else t.rows ++ [v]) ↔ _
  split
  · rename_i old
    obtain ⟨o, memO, keyO⟩ := List.mem_map.mp old
    simp only [List.mem_map]
    constructor
    · rintro ⟨x, mem, rfl⟩
      by_cases same : key x = key v
      · simp [same]
      · simp only [same, if_false]
        exact .inr ⟨mem, same⟩
    · rintro (rfl | ⟨mem, ne⟩)
      · exact ⟨o, memO, by simp [keyO]⟩
      · exact ⟨u, mem, by simp [ne]⟩
  · rename_i fresh
    simp only [List.mem_append, List.mem_singleton]
    constructor
    · rintro (mem | rfl)
      · exact .inr ⟨mem, fun same => fresh (List.mem_map.mpr ⟨u, mem, same⟩)⟩
      · exact .inl rfl
    · rintro (rfl | ⟨mem, _⟩)
      · exact .inr rfl
      · exact .inl mem

theorem find?_put (t : Table α) (v : α) (k : κ) :
    (t.put v).find? k = if k = key v then some v else t.find? k := by
  by_cases same : k = key v
  · subst same
    simpa using find?_of_mem (mem_put.mpr (.inl rfl) : v ∈ t.put v)
  · rw [if_neg same]
    cases h : t.find? k with
    | none =>
        rw [find?_eq_none] at h ⊢
        intro u mem
        rcases mem_put.mp mem with rfl | ⟨mem, _⟩
        · exact Ne.symm same
        · exact h u mem
    | some u =>
        obtain ⟨mem, rfl⟩ := find?_eq_some.mp h
        exact find?_of_mem (mem_put.mpr (.inr ⟨mem, same⟩))

/-- A new key: the row is appended. -/
theorem rows_put_new {t : Table α} {v : α} (fresh : t.find? (key v) = none) :
    (t.put v).rows = t.rows ++ [v] := by
  have : key v ∉ t.rows.map key := by
    intro mem
    obtain ⟨u, mem, same⟩ := List.mem_map.mp mem
    exact find?_eq_none.mp fresh u mem same
  simp [put, this]

/-- A present key: the rows keep their places. -/
theorem rows_put_old {t : Table α} {u v : α} (mem : u ∈ t) (same : key u = key v) :
    (t.put v).rows = t.rows.map fun x => if key x = key v then v else x := by
  have : key v ∈ t.rows.map key := List.mem_map.mpr ⟨u, mem, same⟩
  simp [put, this]

/-- Putting back the row that another replaced. -/
theorem put_put_back {t : Table α} {u v : α} (mem : u ∈ t) (same : key u = key v) :
    (t.put v).put u = t := by
  have rows : ((t.put v).put u).rows = t.rows := by
    rw [rows_put_old (mem_put.mpr (.inl rfl)) same.symm, rows_put_old mem same, List.map_map]
    conv_rhs => rw [← List.map_id t.rows]
    refine List.map_congr_left fun x memX => ?_
    by_cases here : key x = key u
    · obtain rfl := eq_of_key memX mem here
      simp [same]
    · simp [here, same ▸ here]
  exact eq_of_rows rows

/-- Delete the row with key `k`. -/
def erase (t : Table α) (k : κ) : Table α where
  rows := t.rows.filter fun v => key v ≠ k
  nodup := t.nodup.sublist (List.filter_sublist.map key)

theorem mem_erase {t : Table α} {k : κ} {v : α} : v ∈ t.erase k ↔ v ∈ t ∧ key v ≠ k := by
  change v ∈ t.rows.filter _ ↔ _
  simp

theorem find?_erase (t : Table α) (k k' : κ) :
    (t.erase k).find? k' = if k' = k then none else t.find? k' := by
  by_cases same : k' = k
  · subst same
    rw [if_pos rfl, find?_eq_none]
    exact fun v mem => (mem_erase.mp mem).2
  · rw [if_neg same]
    cases h : t.find? k' with
    | none =>
        rw [find?_eq_none] at h ⊢
        exact fun v mem => h v (mem_erase.mp mem).1
    | some u =>
        obtain ⟨mem, rfl⟩ := find?_eq_some.mp h
        exact find?_of_mem (mem_erase.mpr ⟨mem, same⟩)

/-! ### Many rows at once -/

/-- Put every row of the list, in order. -/
def putAll (t : Table α) (vs : List α) : Table α := vs.foldl put t

@[simp] theorem putAll_nil (t : Table α) : t.putAll [] = t := rfl

@[simp] theorem putAll_cons (t : Table α) (v : α) (vs : List α) :
    t.putAll (v :: vs) = (t.put v).putAll vs := rfl

@[simp] theorem putAll_append (t : Table α) (vs ws : List α) :
    t.putAll (vs ++ ws) = (t.putAll vs).putAll ws := List.foldl_append ..

/-- Distinct keys: the table afterwards is the new rows and the untouched old ones. -/
theorem mem_putAll {t : Table α} {vs : List α} (distinct : (vs.map key).Nodup) {u : α} :
    u ∈ t.putAll vs ↔ u ∈ vs ∨ u ∈ t ∧ key u ∉ vs.map key := by
  induction vs generalizing t with
  | nil => simp
  | cons v vs ih =>
      obtain ⟨fresh, distinct⟩ := List.nodup_cons.mp distinct
      rw [putAll_cons, ih distinct, mem_put]
      constructor
      · rintro (mem | ⟨rfl | ⟨mem, ne⟩, out⟩)
        · exact .inl (List.mem_cons_of_mem _ mem)
        · exact .inl List.mem_cons_self
        · exact .inr ⟨mem, by simp [ne, out]⟩
      · rintro (mem | ⟨mem, out⟩)
        · rcases List.mem_cons.mp mem with rfl | mem
          · exact .inr ⟨.inl rfl, fresh⟩
          · exact .inl mem
        · simp only [List.map_cons, List.mem_cons, not_or] at out
          exact .inr ⟨.inr ⟨mem, out.1⟩, out.2⟩

/-- A key outside the list is looked up as before. -/
theorem find?_putAll_of_notMem {t : Table α} {vs : List α} {k : κ} (out : k ∉ vs.map key) :
    (t.putAll vs).find? k = t.find? k := by
  induction vs generalizing t with
  | nil => rfl
  | cons v vs ih =>
      simp only [List.map_cons, List.mem_cons, not_or] at out
      rw [putAll_cons, ih out.2, find?_put, if_neg out.1]

theorem find?_putAll_of_mem {t : Table α} {vs : List α} (distinct : (vs.map key).Nodup) {v : α}
    (mem : v ∈ vs) : (t.putAll vs).find? (key v) = some v :=
  find?_of_mem ((mem_putAll distinct).mpr (.inl mem))

/-- Afterwards a key has the row it had, or one of the new ones. -/
theorem find?_putAll_cases (t : Table α) (vs : List α) (k : κ) :
    (t.putAll vs).find? k = t.find? k ∨
      ∃ v ∈ vs, key v = k ∧ (t.putAll vs).find? k = some v := by
  induction vs generalizing t with
  | nil => exact .inl rfl
  | cons v vs ih =>
      rcases ih (t.put v) with same | ⟨u, mem, here, found⟩
      · by_cases here : k = key v
        · refine .inr ⟨v, List.mem_cons_self, here.symm, ?_⟩
          rw [putAll_cons, same, find?_put, if_pos here]
        · refine .inl ?_
          rw [putAll_cons, same, find?_put, if_neg here]
      · exact .inr ⟨u, List.mem_cons_of_mem _ mem, here, found⟩

/-- A key that is free afterwards was free before, and is no new row's. -/
theorem find?_putAll_none {t : Table α} {vs : List α} {k : κ} (h : (t.putAll vs).find? k = none) :
    t.find? k = none ∧ k ∉ vs.map key := by
  induction vs generalizing t with
  | nil => exact ⟨h, by simp⟩
  | cons v vs ih =>
      obtain ⟨before, out⟩ := ih h
      rw [find?_put] at before
      split at before
      · cases before
      · rename_i ne
        exact ⟨before, by simp [ne, out]⟩

/-- What is looked up after the rows are put depends only on the row before. -/
theorem find?_putAll_congr {t u : Table α} {k : κ} (same : t.find? k = u.find? k) (vs : List α) :
    (t.putAll vs).find? k = (u.putAll vs).find? k := by
  induction vs generalizing t u with
  | nil => exact same
  | cons v vs ih => exact ih (by rw [find?_put, find?_put, same])

/-- Rewriting some rows in place, keys unchanged. -/
theorem mem_putAll_map {t : Table α} {vs : List α} {f : α → α} (distinct : (vs.map key).Nodup)
    (sub : ∀ v ∈ vs, v ∈ t) (keeps : ∀ v, key (f v) = key v) {u : α} :
    u ∈ t.putAll (vs.map f) ↔ (∃ v ∈ vs, f v = u) ∨ u ∈ t ∧ u ∉ vs := by
  have keys : (vs.map f).map key = vs.map key := by
    rw [List.map_map]
    exact List.map_congr_left fun v _ => keeps v
  rw [mem_putAll (keys ▸ distinct), keys, List.mem_map]
  refine or_congr Iff.rfl (and_congr_right fun mem => not_congr ⟨fun h => ?_, fun h => ?_⟩)
  · obtain ⟨v, memV, same⟩ := List.mem_map.mp h
    rwa [← eq_of_key (sub v memV) mem same]
  · exact List.mem_map_of_mem h

/-- A row rewritten in place is looked up rewritten, any other as before. -/
theorem find?_putAll_map {t : Table α} {vs : List α} {f : α → α} (distinct : (vs.map key).Nodup)
    (sub : ∀ v ∈ vs, v ∈ t) (keeps : ∀ v, key (f v) = key v) (k : κ) :
    (t.putAll (vs.map f)).find? k = t.find? k ∨
      ∃ v ∈ vs, t.find? k = some v ∧ (t.putAll (vs.map f)).find? k = some (f v) := by
  have keys : (vs.map f).map key = vs.map key := by
    rw [List.map_map]
    exact List.map_congr_left fun v _ => keeps v
  by_cases h : k ∈ vs.map key
  · obtain ⟨v, mem, rfl⟩ := List.mem_map.mp h
    refine .inr ⟨v, mem, find?_of_mem (sub v mem), ?_⟩
    rw [← keeps v]
    exact find?_putAll_of_mem (keys ▸ distinct) (List.mem_map_of_mem mem)
  · exact .inl (find?_putAll_of_notMem (keys ▸ h))

/-- Inserting rows whose keys are new and distinct appends them. -/
theorem rows_putAll_new {t : Table α} {vs : List α} (distinct : (vs.map key).Nodup)
    (fresh : ∀ v ∈ vs, t.find? (key v) = none) : (t.putAll vs).rows = t.rows ++ vs := by
  induction vs generalizing t with
  | nil => simp
  | cons v vs ih =>
      obtain ⟨out, distinct⟩ := List.nodup_cons.mp distinct
      rw [putAll_cons, ih distinct, rows_put_new (fresh v List.mem_cons_self)]
      · simp
      · intro u mem
        rw [find?_put, if_neg, fresh u (List.mem_cons_of_mem _ mem)]
        rintro same
        exact out (same ▸ List.mem_map_of_mem mem)

/-- Rewriting present rows so that `g` does not see it leaves the list of what `g`
sees as it was. -/
theorem map_rows_putAll_old {β : Type} {t : Table α} {vs : List α} {g : α → β}
    (old : ∀ v ∈ vs, ∃ u ∈ t, key u = key v ∧ g u = g v) :
    (t.putAll vs).rows.map g = t.rows.map g := by
  induction vs generalizing t with
  | nil => rfl
  | cons v vs ih =>
      obtain ⟨u, mem, same, sees⟩ := old v List.mem_cons_self
      rw [putAll_cons, ih, rows_put_old mem same, List.map_map]
      · refine List.map_congr_left fun x memX => ?_
        by_cases here : key x = key v
        · obtain rfl := eq_of_key memX mem (here.trans same.symm)
          simp [here, sees]
        · simp [here]
      · intro w memW
        obtain ⟨x, memX, same', sees'⟩ := old w (List.mem_cons_of_mem _ memW)
        by_cases here : key x = key v
        · obtain rfl := eq_of_key memX mem (here.trans same.symm)
          exact ⟨v, mem_put.mpr (.inl rfl), here.symm.trans same', sees.symm.trans sees'⟩
        · exact ⟨x, mem_put.mpr (.inr ⟨memX, here⟩), same', sees'⟩

/-- Putting back rows that are present replaces them where they stand. -/
theorem rows_putAll_old {t : Table α} {vs : List α} (distinct : (vs.map key).Nodup)
    (old : ∀ v ∈ vs, ∃ u ∈ t, key u = key v) :
    (t.putAll vs).rows = t.rows.map fun u => (vs.find? fun v => key v = key u).getD u := by
  induction vs generalizing t with
  | nil => simp
  | cons v vs ih =>
      obtain ⟨out, distinct⟩ := List.nodup_cons.mp distinct
      obtain ⟨u, mem, same⟩ := old v List.mem_cons_self
      rw [putAll_cons, ih distinct, rows_put_old mem same, List.map_map]
      · refine List.map_congr_left fun x _ => ?_
        by_cases here : key x = key v
        · have none : vs.find? (fun w => key w = key v) = none := by
            refine List.find?_eq_none.mpr fun w memW => ?_
            have other : key w ≠ key v := fun same => out (same ▸ List.mem_map_of_mem memW)
            simpa using other
          simp [here, none]
        · have other : ¬ key v = key x := fun same => here same.symm
          simp [here, other]
      · intro w memW
        obtain ⟨x, memX, same'⟩ := old w (List.mem_cons_of_mem _ memW)
        by_cases here : key x = key v
        · exact ⟨v, mem_put.mpr (.inl rfl), here.symm.trans same'⟩
        · exact ⟨x, mem_put.mpr (.inr ⟨memX, here⟩), same'⟩

/-- Rewriting the rows that `p` selects. -/
theorem rows_putAll_map {t : Table α} {f : α → α} {p : α → Bool} {vs : List α}
    (keeps : ∀ v, key (f v) = key v) (distinct : (vs.map key).Nodup)
    (selects : ∀ v, v ∈ vs ↔ v ∈ t ∧ p v = true) :
    (t.putAll (vs.map f)).rows = t.rows.map fun v => if p v then f v else v := by
  have keys : (vs.map f).map key = vs.map key := by simp [keeps]
  rw [rows_putAll_old (keys ▸ distinct)]
  · refine List.map_congr_left fun u mem => ?_
    rw [List.find?_map]
    cases found : vs.find? ((fun v => key v = key u) ∘ f) with
    | none =>
        have out : ¬ p u = true := fun sel => by
          have miss := List.find?_eq_none.mp found u ((selects u).mpr ⟨mem, sel⟩)
          simp [keeps] at miss
        simp [out]
    | some v =>
        have same : key v = key u := by simpa [keeps] using List.find?_some found
        obtain ⟨memV, sel⟩ := (selects v).mp (List.mem_of_find?_eq_some found)
        obtain rfl := eq_of_key memV mem same
        simp [sel]
  · intro v mem
    obtain ⟨u, memU, rfl⟩ := List.mem_map.mp mem
    exact ⟨u, ((selects u).mp memU).1, (keeps u).symm⟩

/-! ### Rows that are inserted unless present, and rows all rewritten -/

/-- `INSERT … ON CONFLICT DO NOTHING`. -/
def insertNew (t : Table α) (v : α) : Table α := if (t.find? (key v)).isSome then t else t.put v

def insertAllNew (t : Table α) (vs : List α) : Table α := vs.foldl insertNew t

theorem find?_insertNew (t : Table α) (v : α) (k : κ) :
    (t.insertNew v).find? k = (t.find? k).or (if key v = k then some v else none) := by
  unfold insertNew
  by_cases here : key v = k
  · subst here
    cases found : t.find? (key v) with
    | none => simp [find?_put]
    | some u => simp [found]
  · have other : ¬ k = key v := fun same => here same.symm
    rw [if_neg here, Option.or_none]
    split
    · rfl
    · rw [find?_put, if_neg other]

/-- A key has the row it had, else the first of the new ones. -/
theorem find?_insertAllNew (t : Table α) (vs : List α) (k : κ) :
    (t.insertAllNew vs).find? k = (t.find? k).or (vs.find? fun v => key v = k) := by
  induction vs generalizing t with
  | nil => simp [insertAllNew]
  | cons v vs ih =>
      rw [insertAllNew, List.foldl_cons, ← insertAllNew, ih, find?_insertNew, Option.or_assoc]
      by_cases here : key v = k <;> simp [here]

theorem insertAllNew_present {t : Table α} {vs : List α}
    (present : ∀ v ∈ vs, (t.find? (key v)).isSome) : t.insertAllNew vs = t := by
  induction vs with
  | nil => rfl
  | cons v vs ih =>
      rw [insertAllNew, List.foldl_cons, insertNew, if_pos (present v List.mem_cons_self)]
      exact ih fun u mem => present u (List.mem_cons_of_mem v mem)

section Map

variable {β : Type} [Keyed β κ] {t : Table α} {f : α → β}

omit [DecidableEq κ] in
/-- Every row rewritten, the keys unchanged: an `UPDATE`, or a change of the columns. -/
def map (t : Table α) (f : α → β) (keeps : ∀ v, key (f v) = key v) : Table β where
  rows := t.rows.map f
  nodup := by
    have same : (t.rows.map f).map key = t.rows.map key := by
      rw [List.map_map]
      exact List.map_congr_left fun v _ => keeps v
    rw [same]
    exact t.nodup

omit [DecidableEq κ] in
theorem mem_map (keeps : ∀ v, key (f v) = key v) {u : β} : u ∈ t.map f keeps ↔ ∃ v ∈ t, f v = u :=
  List.mem_map

theorem find?_map (t : Table α) (keeps : ∀ v, key (f v) = key v) (k : κ) :
    (t.map f keeps).find? k = (t.find? k).map f := by
  cases found : t.find? k with
  | none =>
      rw [find?_eq_none] at found
      refine find?_eq_none.mpr fun u mem => ?_
      obtain ⟨v, old, rfl⟩ := (mem_map keeps).mp mem
      rw [keeps]
      exact found v old
  | some v =>
      obtain ⟨mem, rfl⟩ := find?_eq_some.mp found
      exact find?_eq_some.mpr ⟨(mem_map keeps).mpr ⟨v, mem, rfl⟩, keeps v⟩

omit [DecidableEq κ] in
theorem map_self {f : α → α} {keeps : ∀ v, key (f v) = key v} (same : ∀ v ∈ t, f v = v) :
    t.map f keeps = t :=
  eq_of_rows ((List.map_congr_left same).trans (List.map_id _))

end Map

/-! ### Rewritten tables -/

section Rewritten

variable {P : α → Prop} {f : α → α} {t u w : Table α}

omit [DecidableEq κ] in
/-- The tables have the same keys in the same places, and where a row differs it was
rewritten by `f`, with `P` before. -/
def Rewritten (P : α → Prop) (f : α → α) (t u : Table α) : Prop :=
  List.Forall₂ (fun v v' => v' = v ∨ (P v ∧ v' = f v)) t.rows u.rows

omit [DecidableEq κ] in
theorem Rewritten.refl (P : α → Prop) (f : α → α) (t : Table α) : Rewritten P f t t :=
  List.forall₂_same.mpr fun _ _ => .inl rfl

omit [DecidableEq κ] in
/-- A row is rewritten once at most. -/
theorem Rewritten.trans (once : ∀ v, P v → ¬ P (f v)) (h : Rewritten P f t u)
    (h' : Rewritten P f u w) : Rewritten P f t w := by
  unfold Rewritten at *
  generalize t.rows = a, u.rows = b, w.rows = c at *
  induction h generalizing c with
  | nil =>
      cases h'
      exact .nil
  | @cons v v' a b first rest ih =>
      cases h' with
      | @cons _ v'' _ c first' rest' =>
          refine .cons ?_ (ih c rest')
          rcases first with rfl | ⟨before, rfl⟩
          · exact first'
          · rcases first' with rfl | ⟨again, -⟩
            · exact .inr ⟨before, rfl⟩
            · exact absurd again (once v before)

omit [DecidableEq κ] in
theorem Rewritten.keys (keeps : ∀ v, key (f v) = key v) (h : Rewritten P f t u) :
    u.rows.map key = t.rows.map key := by
  unfold Rewritten at h
  generalize t.rows = a, u.rows = b at *
  induction h with
  | nil => rfl
  | cons first _ ih =>
      rw [List.map_cons, List.map_cons, ih]
      rcases first with rfl | ⟨-, rfl⟩
      · rfl
      · rw [keeps]

/-- A key has the same row in both, or its row was rewritten. -/
theorem Rewritten.find? (keeps : ∀ v, key (f v) = key v) (h : Rewritten P f t u) (k : κ) :
    u.find? k = t.find? k ∨ ∃ v, t.find? k = some v ∧ P v ∧ u.find? k = some (f v) := by
  unfold Table.find?
  unfold Rewritten at h
  generalize t.rows = a, u.rows = b at *
  induction h with
  | nil => exact .inl rfl
  | @cons v v' _ _ first _ ih =>
      have same : key v' = key v := by
        rcases first with rfl | ⟨-, rfl⟩
        · rfl
        · exact keeps v
      by_cases here : key v = k
      · rw [List.find?_cons_of_pos (by simpa [same] using here),
          List.find?_cons_of_pos (by simpa using here)]
        rcases first with rfl | ⟨before, rfl⟩
        · exact .inl rfl
        · exact .inr ⟨v, rfl, before, rfl⟩
      · rw [List.find?_cons_of_neg (by simpa [same] using here),
          List.find?_cons_of_neg (by simpa using here)]
        exact ih

/-- The same row put into both leaves the rest as it was. -/
theorem Rewritten.put (keeps : ∀ v, key (f v) = key v) (h : Rewritten P f t u) (v : α) :
    Rewritten P f (t.put v) (u.put v) := by
  have keys := h.keys keeps
  unfold Rewritten at *
  simp only [Table.put, keys]
  split
  · rw [List.forall₂_map_left_iff, List.forall₂_map_right_iff]
    refine h.imp fun a b row => ?_
    have same : key b = key a := by
      rcases row with rfl | ⟨-, rfl⟩
      · rfl
      · exact keeps a
    rw [same]
    split
    · exact .inl rfl
    · exact row
  · exact List.rel_append h (.cons (.inl rfl) .nil)

theorem Rewritten.putAll (keeps : ∀ v, key (f v) = key v) (h : Rewritten P f t u) (vs : List α) :
    Rewritten P f (t.putAll vs) (u.putAll vs) := by
  induction vs generalizing t u with
  | nil => exact h
  | cons v vs ih => exact ih (h.put keeps v)

omit [DecidableEq κ] in
/-- What selects no rewritten row selects the same rows. -/
theorem Rewritten.filter {p : α → Bool} (out : ∀ v, P v → p v = false ∧ p (f v) = false)
    (h : Rewritten P f t u) : u.rows.filter p = t.rows.filter p := by
  unfold Rewritten at h
  generalize t.rows = a, u.rows = b at *
  induction h with
  | nil => rfl
  | @cons v v' _ _ first _ ih =>
      rcases first with rfl | ⟨before, rfl⟩
      · rw [List.filter_cons, List.filter_cons, ih]
      · rw [List.filter_cons_of_neg (by simp [(out v before).2]),
          List.filter_cons_of_neg (by simp [(out v before).1]), ih]

/-- Rows selected by keys at which the tables agree are the same. -/
theorem Rewritten.filter_key {q : κ → Bool} (keeps : ∀ v, key (f v) = key v)
    (h : Rewritten P f t u) (same : ∀ k, q k = true → u.find? k = t.find? k) :
    u.rows.filter (fun v => q (key v)) = t.rows.filter fun v => q (key v) := by
  have found : ∀ v ∈ t, q (key v) = true → u.find? (key v) = some v := fun v mem sel =>
    (same _ sel).trans (find?_of_mem mem)
  have sub : ∀ v ∈ t.rows, v ∈ t := fun v mem => mem
  have sub' : ∀ v ∈ u.rows, v ∈ u := fun v mem => mem
  unfold Rewritten at h
  generalize t.rows = a, u.rows = b at h sub sub'
  induction h with
  | nil => rfl
  | @cons v v' a b first _ ih =>
      have rest := ih (fun x mem => sub x (List.mem_cons_of_mem v mem))
        fun x mem => sub' x (List.mem_cons_of_mem v' mem)
      have key' : key v' = key v := by
        rcases first with rfl | ⟨-, rfl⟩
        · rfl
        · exact keeps v
      rw [List.filter_cons, List.filter_cons, key', rest]
      by_cases sel : q (key v) = true
      · have here := find?_of_mem (sub' v' List.mem_cons_self)
        rw [key', found v (sub v List.mem_cons_self) sel] at here
        cases here
        rfl
      · rw [if_neg sel, if_neg sel]

theorem rewritten_put {v : α} (keeps : ∀ v, key (f v) = key v) (mem : v ∈ t) (before : P v) :
    Rewritten P f t (t.put (f v)) := by
  unfold Rewritten
  rw [rows_put_old mem (keeps v).symm, List.forall₂_map_right_iff, List.forall₂_same]
  intro x memX
  by_cases same : key x = key (f v)
  · obtain rfl := eq_of_key memX mem (same.trans (keeps v))
    rw [if_pos same]
    exact .inr ⟨before, rfl⟩
  · rw [if_neg same]
    exact .inl rfl

/-- Putting rewritten rows of the table back into it. -/
theorem rewritten_putAll {vs : List α} (keeps : ∀ v, key (f v) = key v)
    (once : ∀ v, P v → ¬ P (f v)) (distinct : (vs.map key).Nodup) (sub : ∀ v ∈ vs, v ∈ t)
    (before : ∀ v ∈ vs, P v) : Rewritten P f t (t.putAll (vs.map f)) := by
  induction vs generalizing t with
  | nil => exact .refl P f t
  | cons v vs ih =>
      obtain ⟨fresh, distinct⟩ := List.nodup_cons.mp distinct
      have first := rewritten_put keeps (sub v List.mem_cons_self) (before v List.mem_cons_self)
      refine first.trans once (ih distinct (fun x mem => ?_)
        fun x mem => before x (List.mem_cons_of_mem v mem))
      refine mem_put.mpr (.inr ⟨sub x (List.mem_cons_of_mem v mem), fun same => fresh ?_⟩)
      exact List.mem_map.mpr ⟨x, mem, same.trans (keeps v)⟩

end Rewritten

/-! ### Rows a statement selects -/

/-- The rows of `t` that satisfy `p`, as the newest version in `current` still
satisfying it: a READ COMMITTED statement finds rows in its own snapshot, and
re-checks the row it had to wait for. -/
def recheck (t current : Table α) (p : α → Bool) : List α :=
  t.rows.filterMap fun v => if p v then (current.find? (key v)).filter p else none

theorem mem_recheck {t current : Table α} {p : α → Bool} {v : α} :
    v ∈ t.recheck current p ↔ v ∈ current ∧ p v = true ∧ ∃ u ∈ t, key u = key v ∧ p u = true := by
  simp only [recheck, List.mem_filterMap]
  constructor
  · rintro ⟨u, mem, found⟩
    by_cases sel : p u = true
    · rw [if_pos sel] at found
      obtain ⟨found, hv⟩ := Option.filter_eq_some_iff.mp found
      obtain ⟨memV, same⟩ := find?_eq_some.mp found
      exact ⟨memV, hv, u, mem, same.symm, sel⟩
    · simp [sel] at found
  · rintro ⟨memV, hv, u, mem, same, sel⟩
    refine ⟨u, mem, ?_⟩
    rw [if_pos sel, same, find?_of_mem memV, Option.filter_some, if_pos hv]

theorem keys_recheck_sublist (t current : Table α) (p : α → Bool) :
    ((t.recheck current p).map key).Sublist (t.rows.map key) := by
  have : ∀ rows : List α, ((rows.filterMap fun v =>
      if p v then (current.find? (key v)).filter p else none).map key).Sublist (rows.map key) := by
    intro rows
    induction rows with
    | nil => simp
    | cons v rows ih =>
        rw [List.filterMap_cons]
        split
        · exact ih.trans (List.sublist_cons_self _ _)
        · rename_i u found
          have same : key u = key v := by
            by_cases sel : p v = true
            · rw [if_pos sel] at found
              exact key_of_find? (Option.filter_eq_some_iff.mp found).1
            · simp [sel] at found
          rw [List.map_cons, List.map_cons, same]
          exact ih.cons_cons _
  exact this t.rows

theorem nodup_recheck (t current : Table α) (p : α → Bool) :
    ((t.recheck current p).map key).Nodup :=
  t.nodup.sublist (keys_recheck_sublist t current p)

/-- Rows found earlier, in their order, each as it is in `current`. -/
def again (current : Table α) (p : α → Bool) (rows : List α) : List α :=
  rows.filterMap fun v => (current.find? (key v)).filter p

theorem recheck_eq_again (t current : Table α) (p : α → Bool) :
    t.recheck current p = current.again p (t.rows.filter p) := by
  rw [recheck, again, List.filterMap_filter]

/-- The order in which rows are locked does not change which ones are. -/
theorem again_perm {t current : Table α} {p : α → Bool} {rows : List α}
    (perm : rows.Perm (t.rows.filter p)) : (current.again p rows).Perm (t.recheck current p) := by
  rw [recheck_eq_again]
  exact perm.filterMap _

/-- Rows looked at again come in the order in which they were found. -/
theorem pairwise_again {t current : Table α} {p : α → Bool} {rows : List α} {R : α → α → Prop}
    (inside : ∀ v ∈ rows, v ∈ t) (ordered : rows.Pairwise R) :
    (current.again p rows).Pairwise fun a b =>
      ∀ u ∈ t, ∀ v ∈ t, key u = key a → key v = key b → R u v := by
  refine List.pairwise_filterMap.mpr (ordered.imp_of_mem fun {u v} memU memV before => ?_)
  intro a foundA b foundB u' memU' v' memV' sameU sameV
  have keyA : key a = key u := key_of_find? (Option.filter_eq_some_iff.mp foundA).1
  have keyB : key b = key v := key_of_find? (Option.filter_eq_some_iff.mp foundB).1
  rwa [eq_of_key memU' (inside u memU) (sameU.trans keyA),
    eq_of_key memV' (inside v memV) (sameV.trans keyB)]

/-- Against itself, re-checking selects the rows that satisfy the condition. -/
theorem mem_recheck_self {t : Table α} {p : α → Bool} {v : α} :
    v ∈ t.recheck t p ↔ v ∈ t ∧ p v = true := by
  rw [mem_recheck]
  exact ⟨fun h => ⟨h.1, h.2.1⟩, fun h => ⟨h.1, h.2, v, h.1, rfl, h.2⟩⟩

theorem recheck_self (t : Table α) (p : α → Bool) : t.recheck t p = t.rows.filter p := by
  have same : ∀ v ∈ t.rows, (if p v then (t.find? (key v)).filter p else none) =
      if p v then some v else none := fun v mem => by
    by_cases sel : p v = true
    · rw [if_pos sel, find?_of_mem mem, Option.filter_some, if_pos sel]
    · rw [if_neg sel, if_neg sel]
  rw [recheck, List.filterMap_congr same, ← List.filterMap_eq_filter]
  rfl

end Table

end Relational
