import Mathlib.Data.List.Nodup
import Mathlib.Order.Lattice

/-!
Keyset pagination.

A page is a prefix of the rows behind the key the previous page ended at, and says
whether there were more. The rows may be others at each request. What is returned over
all pages is strictly increasing (`follow_increasing`), and a key that has a row at
every request has one among them (`follow_complete`).
-/

namespace Keyset

universe u v

variable {α : Type u} {κ : Type v} [LinearOrder κ] (key : α → κ)

/-- The rows behind a key, if there is one. -/
def ahead (after : Option κ) (rows : List α) : List α :=
  rows.filter fun r => after.all fun k => decide (k < key r)

structure Page (α : Type u) where
  items : List α
  more : Bool

def page (rows : List α) (limit : Nat) (after : Option κ) : Page α where
  items := (ahead key after rows).take limit
  more := limit < (ahead key after rows).length

/-- The pages of a sequence of requests, each with its rows and limit, until one says
that there are no more. -/
def follow : List (List α × Nat) → Option κ → List (Page α)
  | [], _ => []
  | request :: requests, after =>
      let p := page key request.1 request.2 after
      p :: if p.more then follow requests (p.items.getLast?.map key) else []

variable {key} {rows : List α} {limit : Nat} {after : Option κ} {requests : List (List α × Nat)}
  {k : κ} {r : α}

/-- The rows are in strict order and a page has room. -/
def Served (key : α → κ) (request : List α × Nat) : Prop :=
  request.1.Pairwise (fun a b => key a < key b) ∧ 0 < request.2

theorem follow_more {request : List α × Nat} (more : (page key request.1 request.2 after).more = true) :
    follow key (request :: requests) after = page key request.1 request.2 after ::
      follow key requests ((page key request.1 request.2 after).items.getLast?.map key) := by
  rw [follow, if_pos more]

theorem follow_last {request : List α × Nat}
    (last : ¬ (page key request.1 request.2 after).more = true) :
    follow key (request :: requests) after = [page key request.1 request.2 after] := by
  rw [follow, if_neg last]

theorem mem_ahead : r ∈ ahead key after rows ↔ r ∈ rows ∧ ∀ k ∈ after, k < key r := by
  rw [ahead, List.mem_filter]
  cases after <;> simp

theorem ahead_increasing (h : rows.Pairwise fun a b => key a < key b) :
    (ahead key after rows).Pairwise fun a b => key a < key b :=
  h.filter _

theorem mem_page (h : r ∈ (page key rows limit after).items) :
    r ∈ rows ∧ ∀ k ∈ after, k < key r :=
  mem_ahead.mp (List.mem_of_mem_take h)

/-- A page that says there are more has a last row, behind the key the page started
from; every row behind that key is on the page or behind the last row. -/
theorem page_more {request : List α × Nat} (served : Served key request)
    (more : (page key request.1 request.2 after).more = true) :
    ∃ last, (page key request.1 request.2 after).items.getLast? = some last ∧
      (∀ k ∈ after, k < key last) ∧
      (∀ r ∈ (page key request.1 request.2 after).items, key r ≤ key last) ∧
      ∀ r ∈ ahead key after request.1, r ∈ (page key request.1 request.2 after).items ∨ key last < key r := by
  have long : request.2 < (ahead key after request.1).length := by simpa [page] using more
  have some : (page key request.1 request.2 after).items ≠ [] := by
    intro empty
    have := congrArg List.length empty
    rw [page, List.length_take, List.length_nil] at this
    have room : 0 < request.2 := served.2
    omega
  obtain ⟨last, isLast⟩ := Option.ne_none_iff_exists'.mp (mt List.getLast?_eq_none_iff.mp some)
  have ordered : (ahead key after request.1).Pairwise fun a b => key a < key b :=
    ahead_increasing served.1
  have whole : ahead key after request.1 =
      (page key request.1 request.2 after).items ++ (ahead key after request.1).drop request.2 :=
    (List.take_append_drop request.2 _).symm
  obtain ⟨front, split⟩ := List.getLast?_eq_some_iff.mp isLast
  have onPage : last ∈ (page key request.1 request.2 after).items := List.mem_of_getLast? isLast
  refine ⟨last, isLast, (mem_page onPage).2, ?_, ?_⟩
  · intro r mem
    rw [whole, split, List.append_assoc, List.pairwise_append] at ordered
    rw [split, List.mem_append, List.mem_singleton] at mem
    rcases mem with before | rfl
    · exact le_of_lt (ordered.2.2 r before last (List.mem_append_left _ (List.mem_singleton_self _)))
    · exact le_refl _
  · intro r mem
    rw [whole, List.mem_append] at mem
    rcases mem with page | later
    · exact .inl page
    · rw [whole, List.pairwise_append] at ordered
      exact .inr (ordered.2.2 last onPage r later)

/-- Everything that is returned lies behind the key the pages start from. -/
theorem follow_after (served : ∀ request ∈ requests, Served key request) :
    ∀ p ∈ follow key requests after, ∀ r ∈ p.items, ∀ k ∈ after, k < key r := by
  induction requests generalizing after with
  | nil => exact fun p h => absurd h List.not_mem_nil
  | cons request requests ih =>
      intro p mem r onPage k start
      rw [follow] at mem
      rcases List.mem_cons.mp mem with rfl | later
      · exact (mem_page onPage).2 k start
      · split at later
        · rename_i more
          obtain ⟨last, isLast, behind, -, -⟩ := page_more (served _ List.mem_cons_self) more
          rw [isLast] at later
          exact lt_trans (behind k start)
            (ih (fun _ h => served _ (.tail _ h)) p later r onPage (key last) rfl)
        · cases later

/-- What is returned over all pages is strictly increasing. -/
theorem follow_increasing (served : ∀ request ∈ requests, Served key request) :
    ((follow key requests after).flatMap (·.items)).Pairwise fun a b => key a < key b := by
  induction requests generalizing after with
  | nil => exact .nil
  | cons request requests ih =>
      have first := served _ List.mem_cons_self
      have rest := fun request h => served request (.tail _ h)
      rw [follow, List.flatMap_cons, List.pairwise_append]
      refine ⟨(ahead_increasing first.1).sublist (List.take_sublist _ _), ?_, ?_⟩
      · split
        · exact ih rest
        · exact .nil
      · intro a onPage b later
        split at later
        · rename_i more
          obtain ⟨last, isLast, -, most, -⟩ := page_more first more
          rw [isLast] at later
          obtain ⟨p, mem, onLater⟩ := List.mem_flatMap.mp later
          exact lt_of_le_of_lt (most a onPage) (follow_after rest p mem b onLater (key last) rfl)
        · cases later

/-- Each page is one of its request. -/
theorem follow_zip {asked : (List α × Nat) × Page α}
    (h : asked ∈ requests.zip (follow key requests after)) :
    ∃ after, asked.2 = page key asked.1.1 asked.1.2 after := by
  induction requests generalizing after with
  | nil => cases h
  | cons request requests ih =>
      rw [follow, List.zip_cons_cons] at h
      rcases List.mem_cons.mp h with rfl | later
      · exact ⟨after, rfl⟩
      · split at later
        · exact ih later
        · rw [List.zip_nil_right] at later
          cases later

/-- A row on a page is a row of one of the requests that were made. -/
theorem follow_mem (h : r ∈ (follow key requests after).flatMap (·.items)) :
    ∃ request ∈ requests.take (follow key requests after).length, r ∈ request.1 := by
  induction requests generalizing after with
  | nil => cases h
  | cons request requests ih =>
      by_cases more : (page key request.1 request.2 after).more = true
      · rw [follow_more more, List.flatMap_cons, List.mem_append] at h
        rw [follow_more more, List.length_cons, List.take_succ_cons]
        rcases h with onPage | later
        · exact ⟨request, List.mem_cons_self, (mem_page onPage).1⟩
        · obtain ⟨request', mem, row⟩ := ih later
          exact ⟨request', .tail _ mem, row⟩
      · rw [follow_last more, List.flatMap_cons, List.mem_append] at h
        rw [follow_last more, List.length_cons, List.take_succ_cons]
        rcases h with onPage | later
        · exact ⟨request, List.mem_cons_self, (mem_page onPage).1⟩
        · cases later

/-- A key has one row at most. -/
theorem eq_of_increasing {rows : List α} (increasing : rows.Pairwise fun a b => key a < key b)
    {a b : α} (ha : a ∈ rows) (hb : b ∈ rows) (same : key a = key b) : a = b := by
  have nodup : (rows.map key).Nodup :=
    List.pairwise_map.mpr (increasing.imp fun lt => ne_of_lt lt)
  exact List.inj_on_of_nodup_map nodup ha hb same

/-- No more pages are to come. -/
def Complete (pages : List (Page α)) : Prop := ∃ p ∈ pages.getLast?, p.more = false

theorem Complete.tail {p : Page α} {pages : List (Page α)} (more : p.more = true)
    (complete : Complete (p :: pages)) : Complete pages := by
  obtain ⟨final, isLast, done⟩ := complete
  cases pages with
  | nil =>
      obtain rfl : p = final := by simpa using isLast
      rw [more] at done
      cases done
  | cons next pages => exact ⟨final, by simpa using isLast, done⟩

/-- A key behind the start that has a row at every request has one on a page. -/
theorem follow_complete (served : ∀ request ∈ requests, Served key request)
    (complete : Complete (follow key requests after)) (start : ∀ k' ∈ after, k' < k)
    (present : ∀ request ∈ requests.take (follow key requests after).length,
      ∃ r ∈ request.1, key r = k) :
    ∃ r ∈ (follow key requests after).flatMap (·.items), key r = k := by
  induction requests generalizing after with
  | nil =>
      obtain ⟨p, last, -⟩ := complete
      cases last
  | cons request requests ih =>
      have first := served _ List.mem_cons_self
      have rest := fun request h => served request (.tail _ h)
      rw [follow, List.length_cons, List.take_succ_cons] at present
      obtain ⟨r, mem, own⟩ := present request List.mem_cons_self
      have isAhead : r ∈ ahead key after request.1 :=
        mem_ahead.mpr ⟨mem, fun k' h => own ▸ start k' h⟩
      rw [follow, List.flatMap_cons]
      by_cases more : (page key request.1 request.2 after).more = true
      · rw [if_pos more] at present ⊢
        obtain ⟨last, isLast, -, -, split⟩ := page_more first more
        rcases split r isAhead with onPage | later
        · exact ⟨r, List.mem_append_left _ onPage, own⟩
        · rw [isLast, Option.map_some] at present ⊢
          rw [follow, if_pos more, isLast, Option.map_some] at complete
          obtain ⟨r', mem', own'⟩ := ih rest (complete.tail more) (by simpa [own] using later)
            fun request h => present request (.tail _ h)
          exact ⟨r', List.mem_append_right _ mem', own'⟩
      · have all : (page key request.1 request.2 after).items = ahead key after request.1 := by
          refine List.take_of_length_le ?_
          simpa [page] using more
        exact ⟨r, List.mem_append_left _ (all ▸ isAhead), own⟩

end Keyset
