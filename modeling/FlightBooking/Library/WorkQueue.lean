import Mathlib.Data.List.Basic
import Mathlib.Data.List.Sort

/-!
A queue of messages with competing consumers.

A consumer holds at most one message, which the queue keeps until it is settled. What a
consumer gives back is taken up again at its old place, so messages wait in the order they came
in (`Ordered`). No message is lost or doubled: what waits or is held is what came in and has
not been settled (`contents`, with one lemma for each operation).
-/

structure WorkQueue (κ μ : Type) where
  /-- The place of the next message. -/
  next : Nat := 0
  ready : List (Nat × μ) := []
  held : List (κ × Nat × μ) := []
  deriving DecidableEq, Repr

namespace WorkQueue

variable {κ μ : Type}

def push (m : μ) (q : WorkQueue κ μ) : WorkQueue κ μ :=
  { q with next := q.next + 1, ready := q.ready ++ [(q.next, m)] }

/-- A message is put back to its place. -/
def putBack (m : Nat × μ) (ready : List (Nat × μ)) : List (Nat × μ) :=
  ready.orderedInsert (fun a b => a.1 ≤ b.1) m

/-- What waits, and what is held. -/
def contents (q : WorkQueue κ μ) : List (Nat × μ) := q.ready ++ q.held.map (·.2)

/-- The messages wait in the order they came in, and no consumer holds two. -/
structure Ordered (q : WorkQueue κ μ) : Prop where
  sorted : q.ready.Pairwise fun a b => a.1 < b.1
  places : (q.contents.map (·.1)).Nodup
  earlier : ∀ m ∈ q.contents, m.1 < q.next
  single : (q.held.map (·.1)).Nodup

theorem ordered_empty : ({} : WorkQueue κ μ).Ordered :=
  ⟨.nil, List.nodup_nil, fun _ mem => absurd mem List.not_mem_nil, List.nodup_nil⟩

theorem contents_push (m : μ) (q : WorkQueue κ μ) :
    (q.push m).contents.Perm ((q.next, m) :: q.contents) := by
  simp only [contents, push, List.append_assoc, List.singleton_append]
  exact List.perm_middle

theorem Ordered.push {q : WorkQueue κ μ} (ordered : q.Ordered) (m : μ) : (q.push m).Ordered := by
  have perm := contents_push m q
  constructor
  · refine List.pairwise_append.mpr ⟨ordered.sorted, List.pairwise_singleton _ _, ?_⟩
    intro a mem b last
    rw [List.mem_singleton.mp last]
    exact ordered.earlier a (List.mem_append_left _ mem)
  · rw [(perm.map _).nodup_iff, List.map_cons, List.nodup_cons]
    refine ⟨fun mem => ?_, ordered.places⟩
    obtain ⟨old, there, same⟩ := List.mem_map.mp mem
    exact absurd (ordered.earlier old there) (by rw [same]; exact Nat.lt_irrefl _)
  · intro old mem
    rcases List.mem_cons.mp (perm.subset mem) with rfl | mem
    · exact Nat.lt_succ_self _
    · exact Nat.lt_succ_of_lt (ordered.earlier old mem)
  · exact ordered.single

theorem perm_putBack (m : Nat × μ) (ready : List (Nat × μ)) :
    (putBack m ready).Perm (m :: ready) := List.perm_orderedInsert _ m ready

theorem perm_foldr_putBack (ms ready : List (Nat × μ)) :
    (ms.foldr putBack ready).Perm (ms ++ ready) := by
  induction ms with
  | nil => exact .refl _
  | cons m ms ih => exact (perm_putBack m _).trans (ih.cons m)

theorem sorted_foldr_putBack (ms : List (Nat × μ)) {ready : List (Nat × μ)}
    (sorted : ready.Pairwise fun a b => a.1 ≤ b.1) :
    (ms.foldr putBack ready).Pairwise fun a b => a.1 ≤ b.1 := by
  induction ms with
  | nil => exact sorted
  | cons m ms ih =>
      have total : Std.Total fun a b : Nat × μ => a.1 ≤ b.1 := ⟨fun a b => Nat.le_total a.1 b.1⟩
      have trans : IsTrans (Nat × μ) fun a b => a.1 ≤ b.1 := ⟨fun _ _ _ => Nat.le_trans⟩
      exact ih.orderedInsert m _

variable [DecidableEq κ] {q q' : WorkQueue κ μ} {k k' : κ} {m : Nat × μ}

/-- What the consumer holds. -/
def holding? (k : κ) (q : WorkQueue κ μ) : Option (Nat × μ) :=
  (q.held.find? fun h => h.1 = k).map (·.2)

/-- The first message goes to a consumer that holds none. -/
def take (k : κ) (q : WorkQueue κ μ) : Option (WorkQueue κ μ) :=
  match q.holding? k, q.ready with
  | none, m :: rest => some { q with ready := rest, held := q.held ++ [(k, m)] }
  | _, _ => none

/-- The consumer is done with its message. -/
def settle (k : κ) (q : WorkQueue κ μ) : WorkQueue κ μ :=
  { q with held := q.held.filter fun h => h.1 ≠ k }

/-- The consumer is gone. -/
def release (k : κ) (q : WorkQueue κ μ) : WorkQueue κ μ :=
  { q with
    ready := ((q.held.filter fun h => h.1 = k).map (·.2)).foldr putBack q.ready
    held := q.held.filter fun h => h.1 ≠ k }

theorem mem_of_holding? (h : q.holding? k = some m) : (k, m) ∈ q.held := by
  obtain ⟨⟨k', m'⟩, found, rfl⟩ := Option.map_eq_some_iff.mp h
  obtain rfl : k' = k := by simpa using List.find?_some found
  exact List.mem_of_find?_eq_some found

theorem holding?_eq_none : q.holding? k = none ↔ k ∉ q.held.map (·.1) := by
  simp only [holding?, Option.map_eq_none_iff, List.find?_eq_none, decide_eq_true_eq, List.mem_map,
    not_exists, not_and]

theorem Ordered.holding? (ordered : q.Ordered) (mem : (k, m) ∈ q.held) :
    q.holding? k = some m := by
  cases found : q.holding? k with
  | none => exact absurd (List.mem_map_of_mem mem) (holding?_eq_none.mp found)
  | some m' =>
      have same := List.inj_on_of_nodup_map ordered.single (mem_of_holding? found) mem rfl
      exact congrArg (some ·.2) same

/-! ### What each operation makes of the contents -/

theorem take_eq_some : q.take k = some q' ↔ ∃ m rest, q.holding? k = none ∧
    q.ready = m :: rest ∧ q' = { q with ready := rest, held := q.held ++ [(k, m)] } := by
  unfold take
  split
  · rename_i m rest free ready
    simp [free, ready, eq_comm]
  · rename_i other
    constructor
    · intro h
      cases h
    · rintro ⟨m, rest, free, ready, -⟩
      exact absurd ready (other m rest free)

theorem contents_take (taken : q.take k = some q') : q'.contents.Perm q.contents := by
  obtain ⟨m, rest, -, ready, rfl⟩ := take_eq_some.mp taken
  simp only [contents, ready, List.map_append, List.map_cons, List.map_nil, List.cons_append]
  rw [← List.append_assoc]
  exact List.perm_append_singleton _ _

/-- Of a consumer's messages there is one. -/
theorem filter_held {held : List (κ × Nat × μ)} (single : (held.map (·.1)).Nodup)
    (mem : (k, m) ∈ held) : held.filter (fun h => h.1 = k) = [(k, m)] := by
  induction held with
  | nil => cases mem
  | cons h rest ih =>
      obtain ⟨other, single⟩ := List.nodup_cons.mp single
      rcases List.mem_cons.mp mem with rfl | mem
      · have none : rest.filter (fun h => h.1 = k) = [] := by
          refine List.filter_eq_nil_iff.mpr fun h' mem' same => other ?_
          exact List.mem_map.mpr ⟨h', mem', of_decide_eq_true same⟩
        rw [List.filter_cons_of_pos (by simp), none]
      · have apart : h.1 ≠ k := by
          intro same
          exact other (List.mem_map.mpr ⟨_, mem, same.symm⟩)
        rw [List.filter_cons_of_neg (by simpa using apart), ih single mem]

theorem perm_held (k : κ) (held : List (κ × Nat × μ)) :
    (held.filter (fun h => h.1 = k) ++ held.filter fun h => h.1 ≠ k).Perm held := by
  have perm := List.filter_append_perm (fun h : κ × Nat × μ => decide (h.1 = k)) held
  simpa only [decide_not, ne_eq] using perm

theorem contents_settle (ordered : q.Ordered) (holds : (k, m) ∈ q.held) :
    q.contents.Perm (m :: (q.settle k).contents) := by
  have held := (perm_held k q.held).map (·.2)
  rw [filter_held ordered.single holds] at held
  exact (held.symm.append_left q.ready).trans List.perm_middle

theorem contents_release (k : κ) (q : WorkQueue κ μ) : (q.release k).contents.Perm q.contents := by
  have held := (perm_held k q.held).map (·.2)
  rw [List.map_append] at held
  refine ((perm_foldr_putBack _ _).append_right _).trans ?_
  refine (List.perm_append_comm.append_right _).trans ?_
  rw [List.append_assoc]
  exact held.append_left q.ready

theorem Ordered.take (ordered : q.Ordered) (taken : q.take k = some q') : q'.Ordered := by
  have perm := contents_take taken
  obtain ⟨m, rest, free, ready, rfl⟩ := take_eq_some.mp taken
  have sorted := ordered.sorted
  rw [ready] at sorted
  constructor
  · exact (List.pairwise_cons.mp sorted).2
  · exact (perm.map _).nodup_iff.mpr ordered.places
  · exact fun old mem => ordered.earlier old (perm.subset mem)
  · rw [List.map_append, List.nodup_append]
    refine ⟨ordered.single, List.nodup_singleton _, ?_⟩
    intro a mem b last same
    obtain rfl : a = k := same.trans (List.mem_singleton.mp last)
    exact holding?_eq_none.mp free mem

theorem length_held_settle (holds : (k, m) ∈ q.held) :
    (q.settle k).held.length < q.held.length := by
  refine List.length_filter_lt_length_iff_exists.mpr ⟨(k, m), holds, ?_⟩
  simp

theorem settle_sublist (k : κ) (q : WorkQueue κ μ) :
    (q.settle k).contents.Sublist q.contents :=
  (List.filter_sublist.map _).append_left _

theorem single_filter {held : List (κ × Nat × μ)} (single : (held.map (·.1)).Nodup) (k : κ) :
    ((held.filter fun h => h.1 ≠ k).map (·.1)).Nodup :=
  single.sublist (List.filter_sublist.map _)

theorem Ordered.settle (ordered : q.Ordered) (k : κ) : (q.settle k).Ordered where
  sorted := ordered.sorted
  places := ordered.places.sublist ((settle_sublist k q).map _)
  earlier m mem := ordered.earlier m ((settle_sublist k q).subset mem)
  single := single_filter ordered.single k

theorem Ordered.release (ordered : q.Ordered) (k : κ) : (q.release k).Ordered := by
  have perm := contents_release k q
  have places : ((q.release k).contents.map (·.1)).Nodup :=
    (perm.map _).nodup_iff.mpr ordered.places
  constructor
  · have weak : (q.release k).ready.Pairwise fun a b => a.1 ≤ b.1 :=
      sorted_foldr_putBack _ (ordered.sorted.imp Nat.le_of_lt)
    rw [contents, List.map_append] at places
    have apart : (q.release k).ready.Pairwise fun a b => a.1 ≠ b.1 :=
      List.pairwise_map.mp (List.Nodup.of_append_left places)
    exact (weak.and apart).imp fun both => Nat.lt_of_le_of_ne both.1 both.2
  · exact places
  · exact fun m mem => ordered.earlier m (perm.subset mem)
  · exact single_filter ordered.single k

end WorkQueue
