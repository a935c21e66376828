import FlightBooking.Bookings.Reads
import FlightBooking.System.Rows

/-!
No two bookings have the same reference, in any version of any run.

An insert finds the reference free and locks its index entry; whoever inserts it
too has to wait for the first one's commit. So between the version in which a new
booking's reference was free and the commit nobody else committed that reference.
-/

namespace FlightBooking

open Relational ReadCommitted

variable {T : Timeline postgres} {n i : Nat} {c c' : Cursor postgres} {now : Instant}

/-- The reference was free in some version, and kept locked from there to version `n`. -/
structure Named (T : Timeline postgres) (n : Nat) (reference : String) (c' : Cursor postgres) :
    Prop where
  locked : .reference reference ∈ exclusiveRows c'.held
  free : ∃ m ≤ n, T.Keeps (.reference reference) m n ∧
    ∀ b ∈ (T.state m).bookings, b.reference ≠ reference

theorem Named.later {α : Type} {p : Prog postgres α} {r : α} {reference : String}
    (named : Named T n reference c) (rest : Commits T n p c r c') : Named T n reference c' :=
  ⟨rest.held_mono named.locked, named.free⟩

theorem insertBookingRow_locks {b : BookingRow} {skip : List Row} {snap cur : Db} {out}
    (h : insertBookingRow b skip snap cur = .ok out) (inserted : out.reply = true) :
    (.reference b.reference, .update) ∈ out.locks := by
  unfold insertBookingRow at h
  extract_lets locks at h
  split at h
  · cases h
    cases inserted
  · split at h
    · cases h
    · split at h
      · cases h
      · cases h
        exact List.mem_singleton.mpr rfl

theorem insertBooking_named {booking : Booking} (unwritten : c.log.bookings = [])
    (h : Commits T n (insertBooking booking) c true c') : Named T n booking.reference c' := by
  obtain ⟨inserted, c₁, main, rest⟩ := commits_bind.mp h
  obtain ⟨skip, snap, cur, out, -, le, le', done, rfl, rfl, kept⟩ := commits_query.mp main
  cases reply : out.reply with
  | false =>
      rw [reply] at rest
      obtain ⟨impossible, -⟩ := rest
      cases impossible
  | true =>
      have locked := out.locks_held (insertBookingRow_locks done reply) rfl
      have named : Named T n booking.reference (c.next snap cur out) := by
        refine ⟨Cursor.mem_held_next (.inr locked), cur, le', kept _ locked, ?_⟩
        rcases insertBookingRow_ok done with ⟨no, -⟩ | ⟨-, -, -, free⟩
        · rw [reply] at no
          cases no
        · rwa [view_bookings unwritten] at free
      exact named.later rest

theorem createWithFreeReference_named {held : Booking} {references : Nat → String}
    {left attempt : Nat} {r : Booking} (framed : T.Framed) (unwritten : c.log.bookings = [])
    (unwritten' : c.log.passengers = [])
    (h : Commits T n (createWithFreeReference held references left attempt) c r c') :
    Named T n r.reference c' := by
  induction left generalizing attempt c with
  | zero => exact (commits_raise h).elim
  | succ left ih =>
      obtain ⟨inserted, c₁, main, rest⟩ := commits_bind.mp h
      cases inserted with
      | true =>
          obtain ⟨rfl, rfl⟩ := rest
          exact insertBooking_named unwritten main
      | false =>
          rcases insertBooking_commits framed unwritten unwritten' main with ⟨-, log⟩ | ⟨yes, -⟩
          · exact ih (by rw [log, unwritten]) (by rw [log, unwritten']) rest
          · cases yes

theorem createBooking_named (framed : T.Framed) {flightId : Uuid} {request : CreateBookingInput}
    {actor : Uuid} {ids : CreateBookingIds} {requestId : Option Uuid} {booking : Booking}
    (h : Commits T n (createBookingTransaction flightId request actor ids requestId now)
      (.start i) (.ok booking) c') : Named T n booking.reference c' := by
  obtain ⟨held, c₁, hold, rest⟩ := commits_bind.mp h
  rcases holdSeats_commits framed hold with ⟨⟨refusal, rfl⟩, -⟩ | ⟨free, seats, -, rfl, log⟩
  · obtain ⟨impossible, -⟩ := rest
    cases impossible
  obtain ⟨passengers, -, rest⟩ := commits_orThrow_bind.mp rest
  obtain ⟨total, -, rest⟩ := commits_orThrow_bind.mp rest
  obtain ⟨booking', c₂, create, rest⟩ := commits_bind.mp rest
  have named := createWithFreeReference_named framed (by rw [log]) (by rw [log]) create
  obtain ⟨_, c₃, audit, rest⟩ := commits_bind.mp rest
  obtain ⟨_, c₄, event, same, rfl⟩ := commits_bind.mp rest
  cases same
  exact (named.later audit).later event

/-! ### Over a run -/

/-- Commit by commit, a booking is there already with its reference, or is the one
new booking and named. -/
def NamesKept (T : Timeline postgres) (n : Nat) : Prop :=
  ∀ m < n, ∀ b ∈ (T.state (m + 1)).bookings,
    (∃ b' ∈ (T.state m).bookings, b'.id = b.id ∧ b'.reference = b.reference) ∨
    ((T.state m).bookings.find? b.id = none ∧
      (∀ b' ∈ (T.state (m + 1)).bookings, (T.state m).bookings.find? b'.id = none → b' = b) ∧
      ∃ c', T.locked m = exclusiveRows c'.held ∧ Named T m b.reference c')

/-- A commit creates one booking at most. -/
theorem BookingChange.one {id id' : Uuid} {x : Transaction} {r : x.Result} {b b' : BookingRow}
    (change : BookingChange T n c' id x now r none (some b))
    (change' : BookingChange T n c' id' x now r none (some b')) : b' = b := by
  cases change
  cases change'
  rfl

theorem namesKept_of_sound {w : World app} (sound : w.Sound) :
    NamesKept w.timeline w.commits.length := fun m lt b mem => by
  obtain ⟨c', ran, log, -, locked⟩ := sound.commits lt
  have changes : ∀ b ∈ (w.timeline.state (m + 1)).bookings,
      BookingChange w.timeline m c' b.id w.commits[m].tx w.commits[m].now w.commits[m].result
        ((w.timeline.state m).bookings.find? b.id) (some b) := fun b mem => by
    have change := (effect_of_commits sound.framed ran).booking b.id
    have next : w.timeline.state (m + 1) = c'.log.apply (w.timeline.state m) := log ▸ w.state_succ lt
    rwa [← next, show (w.timeline.state (m + 1)).bookings.find? b.id = some b from
      Table.find?_of_mem mem] at change
  have change := changes b mem
  have one : (w.timeline.state m).bookings.find? b.id = none →
      ∀ b' ∈ (w.timeline.state (m + 1)).bookings,
        (w.timeline.state m).bookings.find? b'.id = none → b' = b := fun new b' mem' new' => by
    have change' := changes b' mem'
    rw [new'] at change'
    rw [new] at change
    exact change.one change'
  generalize before : (w.timeline.state m).bookings.find? b.id = o at change one
  have old : ∀ {b' : BookingRow}, o = some b' → b'.reference = b.reference →
      ∃ b' ∈ (w.timeline.state m).bookings, b'.id = b.id ∧ b'.reference = b.reference := by
    rintro b' rfl same
    exact ⟨b', Table.mem_of_find? before, Table.key_of_find? before, same⟩
  clear changes
  generalize w.commits[m].tx = x, w.commits[m].now = now, w.commits[m].result = r,
    w.commits[m].begun = i at ran change
  cases change with
  | same => exact .inl (old rfl rfl)
  | created => exact .inr ⟨rfl, one rfl, c', locked, createBooking_named sound.framed ran⟩
  | cancelled | expired | confirmed => exact .inl (old rfl rfl)

/-- A reference that is free and stays locked is not taken. -/
theorem NamesKept.free (kept : NamesKept T n) {reference : String} {a m : Nat} (le : a ≤ m)
    (le' : m ≤ n) (locked : T.Keeps (.reference reference) a m)
    (free : ∀ b ∈ (T.state a).bookings, b.reference ≠ reference) :
    ∀ b ∈ (T.state m).bookings, b.reference ≠ reference := by
  induction m, le using Nat.le_induction with
  | base => exact free
  | succ m le ih =>
      intro b mem same
      rcases kept m (by omega) b mem with ⟨b', old, -, reference'⟩ | ⟨-, -, c', held, named⟩
      · exact ih (by omega) (locked.mono (by omega)) b' old (reference'.trans same)
      · refine locked m le (by omega) ?_
        rw [held, ← same]
        exact named.locked

theorem NamesKept.unique (kept : NamesKept T n) (first : (T.state 0).bookings = ∅) {m : Nat}
    (le : m ≤ n) : (T.state m).UniqueReferences := by
  induction m with
  | zero =>
      intro b mem
      rw [first] at mem
      exact absurd mem (Table.not_mem_empty b)
  | succ m ih =>
      have before := ih (by omega)
      have older : ∀ b ∈ (T.state (m + 1)).bookings, ∀ c', Named T m b.reference c' →
          ∀ b' ∈ (T.state m).bookings, b'.reference ≠ b.reference := by
        rintro b - c' ⟨-, a, leA, locked, free⟩
        exact kept.free leA (by omega) locked free
      intro b mem b' mem' same
      rcases kept m (by omega) b mem with ⟨o, memO, id, reference⟩ | ⟨new, one, c', -, named⟩
      · rcases kept m (by omega) b' mem' with ⟨o', memO', id', reference'⟩ | ⟨-, -, c', -, named⟩
        · obtain rfl := before o memO o' memO' (reference.trans (same.trans reference'.symm))
          exact Table.eq_of_key mem mem' (id.symm.trans id')
        · exact absurd (reference.trans same) (older b' mem' c' named o memO)
      · rcases kept m (by omega) b' mem' with ⟨o, memO, id, reference⟩ | ⟨new', -⟩
        · exact absurd (reference.trans same.symm) (older b mem c' named o memO)
        · exact (one b' mem' new').symm

/-- No two bookings of a reachable version have the same reference. -/
theorem references_unique {α : Type} {airports : Table Airport} {env : Env}
    {threads : Nat → App.Thread app α} {p : Pool app α}
    (h : (Pool.initial { airports } env threads : Pool app α).Reachable p) :
    p.world.db.UniqueReferences := by
  have good := (Pool.initial_good _ env threads).reachable h
  have start : p.world.state 0 = { airports } := by
    rw [World.state_zero, h.initial_eq]
    rfl
  have first : (p.world.timeline.state 0).bookings = ∅ := congrArg Db.bookings start
  have unique := (namesKept_of_sound good.sound).unique first (Nat.le_refl _)
  rwa [show p.world.timeline.state p.world.commits.length = p.world.db from p.world.state_length]
    at unique

end FlightBooking
