import Mathlib.Data.List.Nodup
import Mathlib.Data.List.Pairwise
import Mathlib.Data.List.Sort

/-!
Row numbers over windows, and two numbered lists joined.

`row_number() OVER (PARTITION BY … ORDER BY …)` numbers the rows of each partition in
order. Two lists joined on the partition and the number are paired off: the first rows of
a partition with the first of the same partition (`mem_paired`), no row twice, and no two
rows of one partition are both left over (`paired_or_paired`).
-/

namespace Window

variable {α β κ : Type} [DecidableEq κ]

section Numbers

variable (part : α → κ) (r : α → α → Prop) [DecidableRel r]

/-- The rows of a partition, in order. -/
def partition (rows : List α) (k : κ) : List α := (rows.filter fun a => part a = k).insertionSort r

/-- `row_number() OVER (PARTITION BY part ORDER BY r)`. -/
def rowNumber [DecidableEq α] (rows : List α) (a : α) : Nat :=
  (partition part r rows (part a)).idxOf a + 1

end Numbers

variable {part : α → κ} {r : α → α → Prop} [DecidableRel r] {rows : List α} {a b : α} {k : κ}

theorem mem_partition : a ∈ partition part r rows k ↔ a ∈ rows ∧ part a = k := by
  rw [partition, List.mem_insertionSort, List.mem_filter, decide_eq_true_eq]

theorem nodup_partition (distinct : rows.Nodup) (k : κ) : (partition part r rows k).Nodup :=
  (List.perm_insertionSort r _).nodup_iff.mpr (distinct.filter _)

/-- A partition is in order. -/
theorem pairwise_partition [Std.Total r] [IsTrans α r] (rows : List α) (k : κ) :
    (partition part r rows k).Pairwise r :=
  List.pairwise_insertionSort r _

/-- Rows that the order leaves no choice about have one partition. -/
theorem partition_eq [Std.Total r] [IsTrans α r] (distinct : rows.Nodup) {k : κ} {sorted : List α}
    (mem : ∀ a, a ∈ sorted ↔ a ∈ rows ∧ part a = k)
    (strict : sorted.Pairwise fun a b => r a b ∧ ¬ r b a) : partition part r rows k = sorted := by
  have nodup : sorted.Nodup := strict.imp fun h same => by
    subst same
    exact h.2 h.1
  have perm : (partition part r rows k).Perm sorted :=
    (List.perm_ext_iff_of_nodup (nodup_partition distinct k) nodup).mpr fun a =>
      mem_partition.trans (mem a).symm
  have : Std.Symm fun a b => r a b → r b a → a = b := ⟨fun _ _ h there back => (h back there).symm⟩
  have apart : ∀ a ∈ sorted, ∀ b ∈ sorted, r a b → r b a → a = b := fun a memA b memB =>
    List.Pairwise.forall_of_forall (R := fun a b => r a b → r b a → a = b) (fun _ _ _ _ => rfl)
      (strict.imp fun h _ back => absurd back h.2) memA memB
  refine perm.eq_of_pairwise (fun a b memA memB => ?_) (pairwise_partition rows k)
    (strict.imp And.left)
  exact apart a (perm.mem_iff.mp memA) b memB

/-- What selects the rows before place `n` takes the first `n`. -/
theorem filter_eq_take {l : List α} {p : α → Bool} {n : Nat}
    (places : ∀ (i : Nat) a, l[i]? = some a → (p a = true ↔ i < n)) : l.filter p = l.take n := by
  induction l generalizing n with
  | nil => simp
  | cons a l ih =>
      have first := places 0 a rfl
      have rest : l.filter p = l.take (n - 1) := ih fun i b place =>
        (places (i + 1) b place).trans Nat.add_lt_iff_lt_sub_right
      by_cases selected : p a = true
      · obtain ⟨m, rfl⟩ := Nat.exists_eq_succ_of_ne_zero (Nat.pos_iff_ne_zero.mp (first.mp selected))
        rw [List.filter_cons_of_pos selected, rest, List.take_succ_cons, Nat.succ_sub_one]
      · obtain rfl : n = 0 := Nat.eq_zero_of_not_pos (mt first.mpr selected)
        rw [List.filter_cons_of_neg selected, rest, List.take_zero, List.take_zero]

/-- A row's number is its place in its partition. -/
theorem rowNumber_eq_iff [DecidableEq α] (distinct : rows.Nodup) (mem : a ∈ rows) {i : Nat} :
    rowNumber part r rows a = i + 1 ↔ (partition part r rows (part a))[i]? = some a := by
  have there : a ∈ partition part r rows (part a) := mem_partition.mpr ⟨mem, rfl⟩
  rw [rowNumber, Nat.add_right_cancel_iff]
  constructor
  · rintro rfl
    exact List.getElem?_idxOf there
  · intro found
    obtain ⟨inside, same⟩ := List.getElem?_eq_some_iff.mp found
    have nodup : (partition part r rows (part a)).Nodup := nodup_partition distinct (part a)
    have index := nodup.idxOf_getElem i inside
    rw [same] at index
    exact index

/-- A row has one place. -/
theorem place_unique (distinct : rows.Nodup) {k' : κ} {i i' : Nat}
    (first : (partition part r rows k)[i]? = some a)
    (second : (partition part r rows k')[i']? = some a) : k = k' ∧ i = i' := by
  obtain ⟨-, rfl⟩ := mem_partition.mp (List.mem_of_getElem? first)
  obtain ⟨-, rfl⟩ := mem_partition.mp (List.mem_of_getElem? second)
  obtain ⟨inside, same⟩ := List.getElem?_eq_some_iff.mp first
  obtain ⟨inside', same'⟩ := List.getElem?_eq_some_iff.mp second
  exact ⟨rfl, (nodup_partition distinct _).getElem_inj_iff.mp (same.trans same'.symm)⟩

section Join

variable [DecidableEq α] [DecidableEq β] (partA : α → κ) (rA : α → α → Prop) [DecidableRel rA]
  (partB : β → κ) (rB : β → β → Prop) [DecidableRel rB]

/-- Two numbered lists, joined on their partitions and numbers. -/
def paired (as : List α) (bs : List β) : List (α × β) :=
  as.flatMap fun a =>
    (bs.filter fun b =>
      partB b = partA a ∧ rowNumber partB rB bs b = rowNumber partA rA as a).map (a, ·)

variable {partA : α → κ} {rA : α → α → Prop} [DecidableRel rA] {partB : β → κ}
  {rB : β → β → Prop} [DecidableRel rB] {as : List α} {bs : List β} {a a' : α} {b b' : β} {k : κ}
  {i : Nat}

/-- The rows of one place in the two partitions. -/
theorem mem_paired (distinct : as.Nodup) (distinct' : bs.Nodup) :
    (a, b) ∈ paired partA rA partB rB as bs ↔
      ∃ (k : κ) (i : Nat), (partition partA rA as k)[i]? = some a ∧
        (partition partB rB bs k)[i]? = some b := by
  simp only [paired, List.mem_flatMap, List.mem_map, List.mem_filter, decide_eq_true_eq,
    Prod.mk.injEq]
  constructor
  · rintro ⟨a, mem, b, ⟨mem', part, number⟩, rfl, rfl⟩
    obtain ⟨i, place⟩ : ∃ i, rowNumber partA rA as a = i + 1 := ⟨_, rfl⟩
    rw [place, rowNumber_eq_iff distinct' mem', part] at number
    exact ⟨partA a, i, (rowNumber_eq_iff distinct mem).mp place, number⟩
  · rintro ⟨k, i, first, second⟩
    obtain ⟨mem, rfl⟩ := mem_partition.mp (List.mem_of_getElem? first)
    obtain ⟨mem', same⟩ := mem_partition.mp (List.mem_of_getElem? second)
    have number := (rowNumber_eq_iff distinct mem).mpr first
    rw [← same] at second
    have number' := (rowNumber_eq_iff distinct' mem').mpr second
    exact ⟨a, mem, b, ⟨mem', same, number'.trans number.symm⟩, rfl, rfl⟩

/-- A place has its pair, if both partitions have it. -/
theorem paired_of_places (distinct : as.Nodup) (distinct' : bs.Nodup)
    (first : (partition partA rA as k)[i]? = some a)
    (second : (partition partB rB bs k)[i]? = some b) : (a, b) ∈ paired partA rA partB rB as bs :=
  (mem_paired distinct distinct').mpr ⟨k, i, first, second⟩

theorem paired_right (distinct : as.Nodup) (distinct' : bs.Nodup)
    (h : (a, b) ∈ paired partA rA partB rB as bs) (h' : (a, b') ∈ paired partA rA partB rB as bs) :
    b = b' := by
  obtain ⟨k, i, first, second⟩ := (mem_paired distinct distinct').mp h
  obtain ⟨k', i', first', second'⟩ := (mem_paired distinct distinct').mp h'
  obtain ⟨rfl, rfl⟩ := place_unique distinct first first'
  rw [second] at second'
  exact Option.some.inj second'

theorem paired_left (distinct : as.Nodup) (distinct' : bs.Nodup)
    (h : (a, b) ∈ paired partA rA partB rB as bs) (h' : (a', b) ∈ paired partA rA partB rB as bs) :
    a = a' := by
  obtain ⟨k, i, first, second⟩ := (mem_paired distinct distinct').mp h
  obtain ⟨k', i', first', second'⟩ := (mem_paired distinct distinct').mp h'
  obtain ⟨rfl, rfl⟩ := place_unique distinct' second second'
  rw [first] at first'
  exact Option.some.inj first'

/-- The first rows of a partition are paired, as many as the other has. -/
theorem paired_left_iff (distinct : as.Nodup) (distinct' : bs.Nodup)
    (place : (partition partA rA as k)[i]? = some a) :
    (∃ b, (a, b) ∈ paired partA rA partB rB as bs) ↔ i < (partition partB rB bs k).length := by
  constructor
  · rintro ⟨b, pair⟩
    obtain ⟨k', i', first, second⟩ := (mem_paired distinct distinct').mp pair
    obtain ⟨rfl, rfl⟩ := place_unique distinct place first
    exact (List.getElem?_eq_some_iff.mp second).1
  · intro inside
    exact ⟨_, paired_of_places distinct distinct' place (List.getElem?_eq_getElem inside)⟩

theorem paired_right_iff (distinct : as.Nodup) (distinct' : bs.Nodup)
    (place : (partition partB rB bs k)[i]? = some b) :
    (∃ a, (a, b) ∈ paired partA rA partB rB as bs) ↔ i < (partition partA rA as k).length := by
  constructor
  · rintro ⟨a, pair⟩
    obtain ⟨k', i', first, second⟩ := (mem_paired distinct distinct').mp pair
    obtain ⟨rfl, rfl⟩ := place_unique distinct' place second
    exact (List.getElem?_eq_some_iff.mp first).1
  · intro inside
    exact ⟨_, paired_of_places distinct distinct' (List.getElem?_eq_getElem inside) place⟩

/-- Of two rows of one partition, one at least is paired. -/
theorem paired_or_paired (distinct : as.Nodup) (distinct' : bs.Nodup) (mem : a ∈ as) (mem' : b ∈ bs)
    (same : partA a = partB b) :
    (∃ b', (a, b') ∈ paired partA rA partB rB as bs) ∨
      ∃ a', (a', b) ∈ paired partA rA partB rB as bs := by
  obtain ⟨i, first⟩ := List.mem_iff_getElem?.mp
    (mem_partition.mpr ⟨mem, rfl⟩ : a ∈ partition partA rA as (partA a))
  obtain ⟨j, second⟩ := List.mem_iff_getElem?.mp
    (mem_partition.mpr ⟨mem', same.symm⟩ : b ∈ partition partB rB bs (partA a))
  rw [paired_left_iff distinct distinct' first, paired_right_iff distinct distinct' second]
  have inside := (List.getElem?_eq_some_iff.mp first).1
  have inside' := (List.getElem?_eq_some_iff.mp second).1
  omega

end Join

end Window
