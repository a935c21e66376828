import FlightBooking.Library.Sessions
import Mathlib.Tactic.Set

/-!
What an interleaving commits.

`Pool.Good` is the invariant of a pool: exclusive locks exclude each other, a
session's changes are covered by its locks, and what a session still has to do
completes what it has done (`Session.Good`). It gives, for every committed
transaction of a reachable pool, that its text ran against the history
(`Pool.Good.commits`), and for every failed one, that its text can end in that
error (`Pool.Good.failures`).
-/

namespace ReadCommitted

open Interaction

variable {S : Store} {A : App S} {α : Type}

/-! ### The steps, one by one -/

/-- `Pool.step` as a relation: the pool afterwards, and what made it possible. -/
inductive Pool.Steps (p : Pool A α) (t : Nat) : Pool A α → Prop where
  | begin {x k now env} : p.threads t = .between (.act (.transaction x) k) →
      A.tick p.world.env now = some env →
      Steps p t ({ p with world := { p.world with env } }.set t (.within
        ⟨x, now, p.world.commits.length, .start p.world.commits.length, none, A.body x now⟩ k))
  | call {c k answer r env} : p.threads t = .between (.act (.call c) k) →
      A.perform t p.world.env c answer = some (r, env) →
      Steps p t ({ p with world := { p.world with env } }.set t (.between (k r)))
  | start {s : Session A} {k} : p.threads t = .within s k → s.running = none →
      Steps p t (p.set t (.within { s with running := some p.world.commits.length } k))
  | error {x now begun cursor snap s next k skip e} :
      p.threads t = .within ⟨x, now, begun, cursor, some snap, .act s next⟩ k →
      s.2 skip (cursor.view p.world.timeline snap) (S.apply cursor.log p.world.db) = .error e →
      Steps p t (p.fail t ⟨x, now, begun, cursor, some snap, .act s next⟩ e (k (.error e)))
  | finish {x now begun cursor snap s next k skip out} :
      p.threads t = .within ⟨x, now, begun, cursor, some snap, .act s next⟩ k →
      s.2 skip (cursor.view p.world.timeline snap) (S.apply cursor.log p.world.db) = .ok out →
      p.blocked t out.held = false →
      Steps p t ((p.take t out.held).set t (.within
        ⟨x, now, begun, cursor.next snap p.world.commits.length out, none, next out.reply⟩ k))
  | lose {s : Session A} {k} : p.threads t = .within s k →
      Steps p t (p.fail t s A.lost (k (.error A.lost)))
  | commit {x now begun cursor r k} {acknowledged : Bool} :
      p.threads t = .within ⟨x, now, begun, cursor, none, .ret r⟩ k →
      Steps p t (p.conclude t ⟨t, x, now, r, begun, cursor.log, cursor.held, cursor.spans⟩
        (k (if acknowledged then .ok r else .error A.lost)))
  | rollback {x now begun cursor e k} :
      p.threads t = .within ⟨x, now, begun, cursor, none, .fail e⟩ k →
      Steps p t (p.fail t ⟨x, now, begun, cursor, none, .fail e⟩ e (k (.error e)))

theorem Pool.steps_of_step {p q : Pool A α} {t : Nat} {m : Move A} (h : p.step t m = some q) :
    p.Steps t q := by
  unfold step at h
  split at h
  · rename_i x k now thread
    obtain ⟨env, ticked, rfl⟩ := Option.map_eq_some_iff.mp h
    exact .begin thread ticked
  · rename_i c k answer thread
    obtain ⟨⟨r, env⟩, performed, rfl⟩ := Option.map_eq_some_iff.mp h
    exact .call thread performed
  · rename_i thread
    cases h
    exact .start thread rfl
  · rename_i thread
    split at h
    · split at h
      · rename_i failed
        cases h
        exact .error thread failed
      · rename_i done
        split at h
        · cases h
        · rename_i free
          cases h
          exact .finish thread done (by simpa using free)
    · cases h
  · rename_i thread
    cases h
    exact .lose thread
  · rename_i thread
    cases h
    exact .commit thread
  · rename_i thread
    cases h
    exact .rollback thread
  · cases h

/-- A step leaves the database as it is, or commits a transaction of its thread. -/
theorem Pool.Steps.db_eq_or_commit {p q : Pool A α} {t : Nat} (h : p.Steps t q) :
    (q.world.db = p.world.db ∧ q.world.commits = p.world.commits) ∨
      ∃ c : Commit A, c.thread = t ∧ q.world = p.world.commit c := by
  cases h with
  | commit => exact .inr ⟨_, rfl, rfl⟩
  | begin | call | start | error | finish | lose | rollback => exact .inl ⟨rfl, rfl⟩

/-- A statement that gets its locks, or fails. -/
theorem Pool.step_finish {p q : Pool A α} {t : Nat} {s : Session A} {k} {skip : List S.Row}
    (thread : p.threads t = .within s k) (moved : p.step t (.finish skip) = some q) :
    ∃ snap st next, s.running = some snap ∧ s.rest = .act st next ∧
      (∀ row ∈ skip, p.lockedByOther t row = true) ∧
      ((∃ e, st.2 skip (s.cursor.view p.world.timeline snap) (S.apply s.cursor.log p.world.db) =
          .error e) ∨
        ∃ out, st.2 skip (s.cursor.view p.world.timeline snap) (S.apply s.cursor.log p.world.db) =
            .ok out ∧ p.blocked t out.held = false ∧
          q.threads t = .within { s with
            cursor := s.cursor.next snap p.world.commits.length out
            running := none
            rest := next out.reply } k) := by
  obtain ⟨x, now, begun, cursor, running, rest⟩ := s
  unfold step at moved
  rw [thread] at moved
  cases running with
  | none => cases rest <;> cases moved
  | some snap =>
      cases rest with
      | ret r => cases moved
      | fail e => cases moved
      | act st next =>
          refine ⟨snap, st, next, rfl, rfl, ?_⟩
          dsimp only at moved
          split at moved
          · rename_i skipped
            refine ⟨List.all_eq_true.mp skipped, ?_⟩
            split at moved
            · rename_i e failed
              exact .inl ⟨e, failed⟩
            · rename_i out done
              split at moved
              · cases moved
              · rename_i free
                cases moved
                exact .inr ⟨out, done, by simpa using free, Function.update_self ..⟩
          · cases moved

/-- A transaction of one statement is before it, or has run it. -/
def Session.Single (s : Session A) : Prop :=
  ∀ st : Statement S (A.Result s.tx), A.body s.tx s.now = query st →
    (s.rest = query st ∧ s.cursor.log = S.none) ∨ ∃ r, s.rest = .ret r

theorem ends_of_act_eq_query {st : Statement S α} {s : Σ ρ : Type, Statement S ρ}
    {next : s.1 → Prog S α} (h : .act s next = query st) (x : s.1) : ∃ r, next x = .ret r := by
  cases h
  exact ⟨x, rfl⟩

theorem Pool.Steps.single {p q : Pool A α} {u : Nat} (h : p.Steps u q)
    (before : ∀ t s k, p.threads t = .within s k → s.Single) :
    ∀ t s k, q.threads t = .within s k → s.Single := by
  have others : ∀ a : Activity A α, (∀ s k, a = .within s k → s.Single) →
      ∀ t s k, Function.update p.threads u a t = .within s k → s.Single := by
    intro a own t s k within
    by_cases mine : t = u
    · subst mine
      rw [Function.update_self] at within
      exact own s k within
    · rw [Function.update_of_ne mine] at within
      exact before t s k within
  have idle : ∀ (next : A.Thread α) s k, Activity.between next = .within s k → s.Single :=
    fun next s k within => by cases within
  cases h with
  | begin thread =>
      refine others _ fun s k within st single => ?_
      cases within
      exact .inl ⟨single, rfl⟩
  | start thread =>
      refine others _ fun s k within => ?_
      have own := before u _ _ thread
      cases within
      exact own
  | @finish x now begun cursor snap s next k skip out thread =>
      refine others _ fun s' k' within => ?_
      have own := before u _ _ thread
      cases within
      intro st single
      rcases own st single with ⟨same, -⟩ | ⟨r, same⟩
      · exact .inr (ends_of_act_eq_query same out.reply)
      · cases same
  | call | error | lose | commit | rollback => exact others _ (idle _)

theorem Pool.single_of_reachable {db : S.Db} {env : A.Env} {threads : Nat → A.Thread α}
    {p : Pool A α} (h : (Pool.initial db env threads).Reachable p) {t : Nat} {s : Session A} {k}
    (thread : p.threads t = .within s k) : s.Single := by
  induction h generalizing t s k with
  | refl => cases thread
  | tail _ moved ih =>
      obtain ⟨u, m, moved⟩ := moved
      exact (steps_of_step moved).single (fun _ _ _ => ih) t s k thread

/-- No step changes what the history started from. -/
theorem Pool.Reachable.initial_eq {p q : Pool A α} (h : p.Reachable q) :
    q.world.initial = p.world.initial := by
  induction h with
  | refl => rfl
  | tail _ moved ih =>
      obtain ⟨t, m, moved⟩ := moved
      cases steps_of_step moved <;> exact ih

/-! ### The invariant -/

/-- `T'` continues the first `n` commits of `T` in some way. -/
def Timeline.Extends (T T' : Timeline S) (n : Nat) : Prop :=
  (∀ j ≤ n, T'.state j = T.state j) ∧ ∀ j < n, T'.locked j = T.locked j

/-- The session is under way: whatever is committed from now on without touching
its locks, finishing the rest finishes the whole. -/
structure Session.Good (w : World A) (s : Session A) : Prop where
  begun_le : s.begun ≤ w.commits.length
  pos_le : s.cursor.pos ≤ w.commits.length
  running_le : ∀ snap, s.running = some snap → s.cursor.pos ≤ snap ∧ snap ≤ w.commits.length
  covered : ∀ r ∈ S.touched s.cursor.log, r ∈ exclusiveRows s.cursor.held
  commits : ∀ T n, w.timeline.Extends T w.commits.length → w.commits.length ≤ n →
    (∀ r ∈ exclusiveRows s.cursor.held, T.Keeps r w.commits.length n) →
    ∀ r c', Commits T n s.rest s.cursor r c' → Commits T n (A.body s.tx s.now) (.start s.begun) r c'
  aborts : ∀ T n, w.timeline.Extends T w.commits.length → w.commits.length ≤ n →
    (∀ r ∈ exclusiveRows s.cursor.held, T.Keeps r w.commits.length n) →
    ∀ e c', Aborts T n s.rest s.cursor e c' →
      Aborts T n (A.body s.tx s.now) (.start s.begun) e c'

/-- Commit number `n` ran its text against the history up to it. -/
def World.Ran (w : World A) (n : Nat) (c : Commit A) : Prop :=
  c.begun ≤ n ∧ ∀ T, w.timeline.Extends T n →
    ∃ c' : Cursor S, Commits T n (A.body c.tx c.now) (.start c.begun) c.result c' ∧
      c'.log = c.log ∧ c'.held = c.held ∧ c'.spans = c.spans

/-- A transaction failed: it was lost, or its text ended in the error. -/
def World.Failed (w : World A) (f : Failure A) : Prop :=
  f.begun ≤ f.ended ∧ f.ended ≤ w.commits.length ∧
    (f.error = A.lost ∨ ∀ T, w.timeline.Extends T f.ended →
      ∃ c' : Cursor S, Aborts T f.ended (A.body f.tx f.now) (.start f.begun) f.error c' ∧
        c'.spans = f.spans)

/-- The invariant of a pool. -/
structure Pool.Good (p : Pool A α) : Prop where
  exclusion : ∀ l ∈ p.locks, ∀ l' ∈ p.locks, l.owner ≠ l'.owner → l.row = l'.row →
    l.mode.exclusive = true → l'.mode.exclusive = false
  holding : ∀ t s k, p.threads t = .within s k → p.held t = s.cursor.held
  idle : ∀ t next, p.threads t = .between next → p.held t = []
  sessions : ∀ t s k, p.threads t = .within s k → s.Good p.world
  commits : ∀ (n : Nat) (h : n < p.world.commits.length), p.world.Ran n p.world.commits[n]
  failures : ∀ f ∈ p.failures, p.world.Failed f
  covered : ∀ c ∈ p.world.commits, ∀ r ∈ S.touched c.log, r ∈ exclusiveRows c.held

namespace Pool

variable {p : Pool A α} {t u : Nat}

theorem mem_held {r : S.Row} {m : LockMode} : (r, m) ∈ p.held t ↔ ⟨t, r, m⟩ ∈ p.locks := by
  simp only [held, List.mem_map, List.mem_filter, decide_eq_true_eq, Prod.mk.injEq]
  constructor
  · rintro ⟨⟨o, r', m'⟩, ⟨mem, rfl⟩, rfl, rfl⟩
    exact mem
  · exact fun mem => ⟨_, ⟨mem, rfl⟩, rfl, rfl⟩

@[simp] theorem held_set (a : Activity A α) : (p.set t a).held u = p.held u := rfl

@[simp] theorem held_world (w : World A) : ({ p with world := w } : Pool A α).held u = p.held u :=
  rfl

theorem held_take_self (ls : List (S.Row × LockMode)) :
    (p.take t ls).held t = p.held t ++ ls := by
  simp [held, take, List.filter_append, List.filter_map, Function.comp_def]

theorem held_take_ne (ls : List (S.Row × LockMode)) (ne : u ≠ t) :
    (p.take t ls).held u = p.held u := by
  simp [held, take, List.filter_append, List.filter_map, Function.comp_def, Ne.symm ne]

theorem held_endSession_self (next : A.Thread α) : (p.endSession t next).held t = [] := by
  simp [held, endSession, List.filter_filter]

theorem held_endSession_ne (next : A.Thread α) (ne : u ≠ t) :
    (p.endSession t next).held u = p.held u := by
  unfold held endSession
  rw [List.filter_filter]
  congr 1
  refine List.filter_congr fun l _ => ?_
  by_cases own : l.owner = u <;> simp [own, ne]

/-- A row that one session holds exclusively, no other does. -/
theorem Good.exclusive (good : p.Good) (ne : t ≠ u) {r : S.Row}
    (ht : r ∈ exclusiveRows (p.held t)) : r ∉ exclusiveRows (p.held u) := by
  intro hu
  simp only [exclusiveRows, List.mem_map, List.mem_filter] at ht hu
  obtain ⟨⟨_, m⟩, ⟨mem, exclusive⟩, rfl⟩ := ht
  obtain ⟨⟨_, m'⟩, ⟨mem', exclusive'⟩, same⟩ := hu
  cases same
  have := good.exclusion _ (mem_held.mp mem) _ (mem_held.mp mem') ne rfl exclusive
  rw [exclusive'] at this
  cases this

/-! ### Every step keeps it -/

theorem Good.set_idle (good : p.Good) {next : A.Thread α} (own : p.held t = []) :
    (p.set t (.between next)).Good where
  exclusion := good.exclusion
  holding u s k within := by
    by_cases same : u = t
    · subst same
      simp [set] at within
    · exact good.holding u s k (by simpa [set, same] using within)
  idle u next' between := by
    by_cases same : u = t
    · exact same ▸ own
    · exact good.idle u next' (by simpa [set, same] using between)
  sessions u s k within := by
    by_cases same : u = t
    · subst same
      simp [set] at within
    · exact good.sessions u s k (by simpa [set, same] using within)
  commits := good.commits
  failures := good.failures
  covered := good.covered

theorem Good.set_within (good : p.Good) {s : Session A} {k}
    (own : p.held t = s.cursor.held) (sGood : s.Good p.world) :
    (p.set t (.within s k)).Good where
  exclusion := good.exclusion
  holding u s' k' within := by
    by_cases same : u = t
    · subst same
      simp only [set, Function.update_self] at within
      cases within
      exact own
    · exact good.holding u s' k' (by simpa [set, same] using within)
  idle u next' between := by
    by_cases same : u = t
    · subst same
      simp [set] at between
    · exact good.idle u next' (by simpa [set, same] using between)
  sessions u s' k' within := by
    by_cases same : u = t
    · subst same
      simp only [set, Function.update_self] at within
      cases within
      exact sGood
    · exact good.sessions u s' k' (by simpa [set, same] using within)
  commits := good.commits
  failures := good.failures
  covered := good.covered

/-- The environment does not matter to the history. -/
theorem Good.set_env (good : p.Good) (env : A.Env) :
    ({ p with world := { p.world with env } } : Pool A α).Good where
  exclusion := good.exclusion
  holding := good.holding
  idle := good.idle
  sessions t s k within :=
    let g := good.sessions t s k within
    ⟨g.begun_le, g.pos_le, g.running_le, g.covered, g.commits, g.aborts⟩
  commits := good.commits
  failures := good.failures
  covered := good.covered

theorem Good.endSession (good : p.Good) (next : A.Thread α) : (p.endSession t next).Good where
  exclusion l mem l' mem' :=
    good.exclusion l (List.mem_filter.mp mem).1 l' (List.mem_filter.mp mem').1
  holding u s k within := by
    by_cases same : u = t
    · subst same
      simp [Pool.endSession] at within
    · rw [held_endSession_ne next same]
      exact good.holding u s k (by simpa [Pool.endSession, same] using within)
  idle u next' between := by
    by_cases same : u = t
    · exact same ▸ held_endSession_self next
    · rw [held_endSession_ne next same]
      exact good.idle u next' (by simpa [Pool.endSession, same] using between)
  sessions u s k within := by
    by_cases same : u = t
    · subst same
      simp [Pool.endSession] at within
    · exact good.sessions u s k (by simpa [Pool.endSession, same] using within)
  commits := good.commits
  failures := good.failures
  covered := good.covered

theorem Good.fail (good : p.Good) {s : Session A} {k} {e : S.Err} (next : A.Thread α)
    (thread : p.threads t = .within s k)
    (why : e = A.lost ∨ ∀ T, p.world.timeline.Extends T p.world.commits.length →
      Aborts T p.world.commits.length (A.body s.tx s.now) (.start s.begun) e s.cursor) :
    (p.fail t s e next).Good :=
  { good.endSession next with
    failures := by
      intro f mem
      rcases List.mem_append.mp mem with mem | mem
      · exact good.failures f mem
      · obtain rfl := List.mem_singleton.mp mem
        exact ⟨(good.sessions t s k thread).begun_le, Nat.le_refl _,
          why.imp id fun h T ext => ⟨s.cursor, h T ext, rfl⟩⟩ }

/-- The statement in progress fails: so can the whole transaction. -/
theorem Good.aborts_error (good : p.Good) {x now begun cursor snap s next k skip e}
    (thread : p.threads t = .within ⟨x, now, begun, cursor, some snap, .act s next⟩ k)
    (failed : s.2 skip (cursor.view p.world.timeline snap) (S.apply cursor.log p.world.db)
      = .error e) (T : Timeline S) (extends' : p.world.timeline.Extends T p.world.commits.length) :
    Aborts T p.world.commits.length (A.body x now) (.start begun) e cursor := by
  have g := good.sessions t _ _ thread
  obtain ⟨le, le'⟩ := g.running_le snap rfl
  refine g.aborts T _ extends' (Nat.le_refl _) (fun r _ j h h' => by omega) e cursor (.inl ?_)
  refine ⟨skip, snap, p.world.commits.length, le, le', Nat.le_refl _, ?_, rfl⟩
  rw [Cursor.view, Cursor.view, extends'.1 _ le', extends'.1 _ (Nat.le_refl _)]
  rw [Cursor.view] at failed
  rwa [show p.world.timeline.state p.world.commits.length = p.world.db from p.world.state_length]

/-- The statement in progress gets its locks: the session goes on behind it. -/
theorem Good.session_finish (good : p.Good) {x now begun cursor snap s next k skip out}
    (thread : p.threads t = .within ⟨x, now, begun, cursor, some snap, .act s next⟩ k)
    (done : s.2 skip (cursor.view p.world.timeline snap) (S.apply cursor.log p.world.db)
      = .ok out) :
    Session.Good p.world ⟨x, now, begun, cursor.next snap p.world.commits.length out, none,
      next out.reply⟩ := by
  have g := good.sessions t _ _ thread
  obtain ⟨le, le'⟩ := g.running_le snap rfl
  have executes : ∀ T n, p.world.timeline.Extends T p.world.commits.length →
      p.world.commits.length ≤ n →
      (∀ r ∈ exclusiveRows (cursor.next snap p.world.commits.length out).held,
        T.Keeps r p.world.commits.length n) →
      Executes T n cursor s.2 out.reply (cursor.next snap p.world.commits.length out) := by
    intro T n extends' len kept
    refine ⟨skip, snap, p.world.commits.length, out, le, le', len, ?_, rfl, rfl, ?_⟩
    · rw [Cursor.view, Cursor.view, extends'.1 _ le', extends'.1 _ (Nat.le_refl _)]
      rw [Cursor.view] at done
      rwa [show p.world.timeline.state p.world.commits.length = p.world.db from
        p.world.state_length]
    · intro r mem
      exact kept r (by simp [mem])
  have older : ∀ {T : Timeline S} {n},
      (∀ r ∈ exclusiveRows (cursor.next snap p.world.commits.length out).held,
        T.Keeps r p.world.commits.length n) →
      ∀ r ∈ exclusiveRows cursor.held, T.Keeps r p.world.commits.length n :=
    fun kept r mem => kept r (by simp [mem])
  refine ⟨g.begun_le, Nat.le_refl _, fun _ h => (by cases h), ?_, ?_, ?_⟩
  · intro r mem
    rcases (S.mem_touched_append _ _ _).mp mem with mem | mem
    · simp [g.covered r mem]
    · simp [out.touched_held mem]
  · intro T n extends' len kept r c' rest
    exact g.commits T n extends' len (older kept) r c'
      ⟨out.reply, _, executes T n extends' len kept, rest⟩
  · intro T n extends' len kept e c' rest
    exact g.aborts T n extends' len (older kept) e c'
      (.inr ⟨out.reply, _, executes T n extends' len kept, rest⟩)

/-- Locks that nobody's locks conflict with can be added. -/
theorem Good.exclusion_take (good : p.Good) {ls : List (S.Row × LockMode)}
    (free : p.blocked t ls = false) :
    ∀ l ∈ (p.take t ls).locks, ∀ l' ∈ (p.take t ls).locks, l.owner ≠ l'.owner → l.row = l'.row →
      l.mode.exclusive = true → l'.mode.exclusive = false := by
  have apart : ∀ l ∈ p.locks, l.owner ≠ t → ∀ w ∈ ls, l.row = w.1 →
      l.mode.exclusive = true → w.2.exclusive = true → False := by
    intro l mem ne w wanted same ex ex'
    simp only [blocked, List.any_eq_false] at free
    have := free w wanted
    simp only [List.any_eq_true, not_exists, not_and] at this
    exact this l mem (by simp [ne, same, LockMode.conflicts_of_exclusive ex ex'])
  intro l mem l' mem' ne same ex
  by_contra ex'
  rw [Bool.not_eq_false] at ex'
  simp only [take, List.mem_append, List.mem_map] at mem mem'
  rcases mem with mem | ⟨w, wanted, rfl⟩ <;> rcases mem' with mem' | ⟨w', wanted', rfl⟩
  · simpa [ex'] using good.exclusion l mem l' mem' ne same ex
  · exact apart l mem ne w' wanted' same ex ex'
  · exact apart l' mem' (Ne.symm ne) w wanted same.symm ex' ex
  · exact ne rfl

/-- The statement in progress has its locks, and the session goes on. -/
theorem Good.finish (good : p.Good) {s s' : Session A} {k k'} {ls : List (S.Row × LockMode)}
    (thread : p.threads t = .within s k) (free : p.blocked t ls = false)
    (held : s'.cursor.held = s.cursor.held ++ ls) (sGood : s'.Good p.world) :
    ((p.take t ls).set t (.within s' k')).Good where
  exclusion := good.exclusion_take free
  holding u s₁ k₁ within := by
    rw [held_set]
    by_cases same : u = t
    · subst same
      simp only [set, Function.update_self] at within
      cases within
      rw [held_take_self, good.holding u s k thread, held]
    · rw [held_take_ne ls same]
      exact good.holding u s₁ k₁ (by simpa [set, take, same] using within)
  idle u next between := by
    by_cases same : u = t
    · subst same
      simp [set] at between
    · rw [held_set, held_take_ne ls same]
      exact good.idle u next (by simpa [set, take, same] using between)
  sessions u s₁ k₁ within := by
    by_cases same : u = t
    · subst same
      simp only [set, Function.update_self] at within
      cases within
      exact sGood
    · exact good.sessions u s₁ k₁ (by simpa [set, take, same] using within)
  commits := good.commits
  failures := good.failures
  covered := good.covered

/-- A commit leaves the other sessions under way: none of its locks is theirs. -/
theorem Session.Good.commit {w : World A} {s : Session A} {c : Commit A} (g : s.Good w)
    (apart : ∀ r ∈ exclusiveRows s.cursor.held, r ∉ exclusiveRows c.held) :
    s.Good (w.commit c) := by
  have shorter : ∀ {T n}, (w.commit c).timeline.Extends T (w.commit c).commits.length →
      (w.commit c).commits.length ≤ n →
      (∀ r ∈ exclusiveRows s.cursor.held, T.Keeps r (w.commit c).commits.length n) →
      w.timeline.Extends T w.commits.length ∧ w.commits.length ≤ n ∧
        ∀ r ∈ exclusiveRows s.cursor.held, T.Keeps r w.commits.length n := by
    intro T n extends' len kept
    simp only [World.commit_commits, List.length_append, List.length_singleton] at extends' len kept
    refine ⟨⟨fun j le => ?_, fun j lt => ?_⟩, by omega, fun r mem j le lt => ?_⟩
    · rw [extends'.1 j (by omega)]
      exact w.commit_state c le
    · rw [extends'.2 j (by omega)]
      simp [World.timeline, List.getElem?_append_left lt]
    · by_cases first : j = w.commits.length
      · subst first
        rw [extends'.2 _ (by omega)]
        simpa [World.timeline] using apart r mem
      · exact kept r mem j (by omega) lt
  refine ⟨by simpa using Nat.le_succ_of_le g.begun_le, by simpa using Nat.le_succ_of_le g.pos_le,
    fun snap h => ?_, g.covered, fun T n h₁ h₂ h₃ => ?_, fun T n h₁ h₂ h₃ => ?_⟩
  · have := g.running_le snap h
    simp
    omega
  · obtain ⟨h₁, h₂, h₃⟩ := shorter h₁ h₂ h₃
    exact g.commits T n h₁ h₂ h₃
  · obtain ⟨h₁, h₂, h₃⟩ := shorter h₁ h₂ h₃
    exact g.aborts T n h₁ h₂ h₃

theorem World.timeline_commit_extends (w : World A) (c : Commit A) {T : Timeline S} {n : Nat}
    (le : n ≤ w.commits.length) (h : (w.commit c).timeline.Extends T n) : w.timeline.Extends T n := by
  refine ⟨fun j hj => ?_, fun j hj => ?_⟩
  · rw [h.1 j hj]
    exact w.commit_state c (by omega)
  · rw [h.2 j hj]
    simp [World.timeline, List.getElem?_append_left (show j < w.commits.length by omega)]

/-- The session that reached its end commits. -/
theorem Good.conclude (good : p.Good) {x now begun cursor r k} (next : A.Thread α)
    (thread : p.threads t = .within ⟨x, now, begun, cursor, none, .ret r⟩ k) :
    (p.conclude t ⟨t, x, now, r, begun, cursor.log, cursor.held, cursor.spans⟩ next).Good := by
  set c : Commit A := ⟨t, x, now, r, begun, cursor.log, cursor.held, cursor.spans⟩
  have g := good.sessions t _ _ thread
  have own := good.holding t _ _ thread
  have done := good.endSession (t := t) next
  refine ⟨done.exclusion, done.holding, done.idle, fun u s k within => ?_, fun n h => ?_,
    fun f mem => ?_, fun c' mem r' touched => ?_⟩
  · have ne : u ≠ t := by
      rintro rfl
      simp [Pool.conclude, Pool.endSession] at within
    refine Session.Good.commit (done.sessions u s k within) fun r' mem => ?_
    rw [← done.holding u s k within, held_endSession_ne next ne] at mem
    have := good.exclusive ne mem
    rwa [own] at this
  · simp only [Pool.conclude, World.commit_commits, List.length_append,
      List.length_singleton] at h
    by_cases old : n < p.world.commits.length
    · have ran := good.commits n old
      rw [show (p.conclude t c next).world.commits[n] = p.world.commits[n] from
        List.getElem_append_left old]
      exact ⟨ran.1, fun T h => ran.2 T (World.timeline_commit_extends _ _ (Nat.le_of_lt old) h)⟩
    · obtain rfl : n = p.world.commits.length := by omega
      rw [show (p.conclude t c next).world.commits[p.world.commits.length] = c from
        List.getElem_concat_length rfl _]
      refine ⟨g.begun_le, fun T h => ⟨cursor, ?_, rfl, rfl, rfl⟩⟩
      exact g.commits T _ (World.timeline_commit_extends _ _ (Nat.le_refl _) h) (Nat.le_refl _)
        (fun r' _ j h h' => by omega) r cursor ⟨rfl, rfl⟩
  · obtain ⟨le, le', why⟩ := good.failures f mem
    refine ⟨le, by simp [Pool.conclude]; omega, why.imp id fun h T ext => h T ?_⟩
    exact World.timeline_commit_extends _ _ le' ext
  · rcases List.mem_append.mp mem with mem | mem
    · exact good.covered c' mem r' touched
    · obtain rfl := List.mem_singleton.mp mem
      exact g.covered r' touched

theorem Good.step {q : Pool A α} (good : p.Good) (h : p.Steps t q) : q.Good := by
  cases h with
  | begin thread ticked =>
      refine Good.set_within (good.set_env _) (good.idle t _ thread) ⟨Nat.le_refl _, Nat.le_refl _,
        fun _ h => (by cases h), by simp, fun T n _ _ _ r c' h => h, fun T n _ _ _ e c' h => h⟩
  | call thread _ => exact Good.set_idle (good.set_env _) (good.idle t _ thread)
  | @start s k thread idle =>
      have g := good.sessions t _ _ thread
      have own : p.held t = s.cursor.held := good.holding t _ _ thread
      refine Good.set_within good own ⟨g.begun_le, g.pos_le, ?_, g.covered, g.commits, g.aborts⟩
      rintro snap h
      cases h
      exact ⟨g.pos_le, Nat.le_refl _⟩
  | error thread failed =>
      exact good.fail _ thread (.inr (good.aborts_error thread failed))
  | finish thread done free =>
      exact good.finish thread free rfl (good.session_finish thread done)
  | lose thread => exact good.fail _ thread (.inl rfl)
  | commit thread => exact good.conclude _ thread
  | rollback thread =>
      refine good.fail _ thread (.inr fun T h => ?_)
      have g := good.sessions t _ _ thread
      exact g.aborts T _ h (Nat.le_refl _) (fun r _ j h h' => by omega) _ _ ⟨rfl, rfl⟩

theorem Good.reachable {q : Pool A α} (good : p.Good) (h : p.Reachable q) : q.Good := by
  induction h with
  | refl => exact good
  | tail _ moved ih =>
      obtain ⟨t, m, moved⟩ := moved
      exact ih.step (steps_of_step moved)

theorem initial_good (db : S.Db) (env : A.Env) (threads : Nat → A.Thread α) :
    (initial db env threads : Pool A α).Good where
  exclusion _ mem := by cases mem
  holding _ _ _ within := by cases within
  idle _ _ _ := rfl
  sessions _ _ _ within := by cases within
  commits n h := by cases h
  failures _ mem := by cases mem
  covered _ mem := by cases mem

/-! ### The history of a reachable pool -/

/-- Every commit left the rows it had not locked as they were. -/
theorem Good.framed (good : p.Good) : p.world.timeline.Framed := by
  intro j r out
  by_cases h : j < p.world.commits.length
  · change S.Agree r (p.world.state j) (p.world.state (j + 1))
    rw [p.world.state_succ h]
    refine S.agree_apply _ _ _ fun touched => out ?_
    simpa [World.timeline, List.getElem?_eq_getElem h] using
      good.covered _ (List.getElem_mem h) r touched
  · change S.Agree r (p.world.state j) (p.world.state (j + 1))
    rw [p.world.state_of_le (by omega), p.world.state_of_le (by omega)]
    exact S.agree_refl _ _

end Pool

theorem Timeline.Extends.refl (T : Timeline S) (n : Nat) : T.Extends T n :=
  ⟨fun _ _ => rfl, fun _ _ => rfl⟩

/-- Every commit ran its text against the history before it, and left the rows it
had not locked as they were. -/
structure World.Sound (w : World A) : Prop where
  framed : w.timeline.Framed
  ran : ∀ (n : Nat) (h : n < w.commits.length), w.Ran n w.commits[n]

theorem Pool.Good.sound {p : Pool A α} (good : p.Good) : p.world.Sound :=
  ⟨good.framed, good.commits⟩

/-- A committed transaction, as a run against the history it is part of. -/
theorem World.Sound.commits {w : World A} (sound : w.Sound) {n : Nat} (h : n < w.commits.length) :
    ∃ c' : Cursor S, Commits w.timeline n (A.body w.commits[n].tx w.commits[n].now)
      (.start w.commits[n].begun) w.commits[n].result c' ∧ c'.log = w.commits[n].log ∧
        c'.spans = w.commits[n].spans ∧ w.timeline.locked n = exclusiveRows c'.held := by
  obtain ⟨c', ran, log, held, spans⟩ := (sound.ran n h).2 _ (.refl _ n)
  exact ⟨c', ran, log, spans, by simp [World.timeline, List.getElem?_eq_getElem h, held]⟩

end ReadCommitted
