import FlightBooking.Library.Trace

/-!
What threads may do, and what that makes of the world.

A `Discipline` says which transactions and calls a thread may make in a world,
and what the other threads may do to a world in the meantime (`Rely`). A program
that `Follows` it does so however the others move, so in a pool of such threads
every move of the world is one the discipline permits (`Kept.invariant`): an
invariant of the world is an induction over `Discipline.Moves`, which knows
nothing of threads.
-/

namespace ReadCommitted

open Interaction

variable {S : Store} {A : App S} {α β : Type}

/-- Who may do what, and what each thread may rely on. `commit` and `call` say
that nobody breaks what the others rely on. -/
structure Discipline (A : App S) where
  Rely : Nat → World A → World A → Prop
  May : Nat → A.Tx → World A → Prop
  MayCall : Nat → A.Call → World A → Prop
  refl : ∀ t w, Rely t w w
  trans : ∀ t w w' w'', Rely t w w' → Rely t w' w'' → Rely t w w''
  tick : ∀ t (w : World A) now env, A.tick w.env now = some env → Rely t w { w with env }
  call : ∀ t u (w : World A) q choice r env, u ≠ t → A.perform u w.env q choice = some (r, env) →
    Rely t w { w with env }
  commit : ∀ t (w : World A) (c : Commit A), c.thread ≠ t → Rely t w (w.commit c)

namespace Discipline

variable (D : Discipline A)

/-- Thread `t` waits for its transaction `x`, which may fail, commit, or commit
without the thread learning of it; `after` holds whichever way it goes. -/
def Waits (t : Nat) (x : A.Tx) (after : Except S.Err (A.Result x) → World A → Prop)
    (w : World A) : Prop :=
  ∀ w', D.Rely t w w' → D.May t x w' ∧ (∀ e, after (.error e) w') ∧
    ∀ now r begun log held spans,
      after (.ok r) (w'.commit ⟨t, x, now, r, begun, log, held, spans⟩) ∧
      after (.error A.lost) (w'.commit ⟨t, x, now, r, begun, log, held, spans⟩)

/-- From world `w` on, thread `t` running the program keeps to the discipline. It
ends in `Ends`, or with an error in `Fails`. -/
def Follows (t : Nat) (Ends : α → World A → Prop) (Fails : World A → Prop) :
    A.Thread α → World A → Prop
  | .ret a, w => ∀ w', D.Rely t w w' → Ends a w'
  | .fail _, w => ∀ w', D.Rely t w w' → Fails w'
  | .act (.transaction x) k, w => D.Waits t x (fun r w' => Follows t Ends Fails (k r) w') w
  | .act (.call q) k, w => ∀ w', D.Rely t w w' → D.MayCall t q w' ∧
      ∀ choice r env, A.perform t w'.env q choice = some (r, env) →
        Follows t Ends Fails (k r) { w' with env }

section Rules

variable {D} {t : Nat} {Ends : α → World A → Prop} {Fails : World A → Prop} {w w' : World A}

/-- What a thread may do it may still do after the moves of the others. -/
theorem Waits.mono {x : A.Tx} {after : Except S.Err (A.Result x) → World A → Prop}
    (moved : D.Rely t w w') (h : D.Waits t x after w) : D.Waits t x after w' :=
  fun w'' later => h w'' (D.trans t _ _ _ moved later)

theorem Follows.mono {p : A.Thread α} (moved : D.Rely t w w') (h : D.Follows t Ends Fails p w) :
    D.Follows t Ends Fails p w' := by
  cases p with
  | ret a => exact fun w'' later => h w'' (D.trans t _ _ _ moved later)
  | fail e => exact fun w'' later => h w'' (D.trans t _ _ _ moved later)
  | act a k =>
      cases a with
      | transaction x => exact Waits.mono (D := D) moved h
      | call q => exact fun w'' later => h w'' (D.trans t _ _ _ moved later)

theorem Waits.imp {x : A.Tx} {after after' : Except S.Err (A.Result x) → World A → Prop}
    (imp : ∀ r w, after r w → after' r w) (h : D.Waits t x after w) : D.Waits t x after' w :=
  fun w' moved =>
    let ⟨may, failed, done⟩ := h w' moved
    ⟨may, fun e => imp _ _ (failed e), fun now r begun log held spans =>
      (done now r begun log held spans).imp (imp _ _) (imp _ _)⟩

/-- Sequencing: the second part starts where the first one ends. -/
theorem Follows.bind {p : A.Thread β} {f : β → A.Thread α}
    (h : D.Follows t (fun b w' => D.Follows t Ends Fails (f b) w') Fails p w) :
    D.Follows t Ends Fails (p >>= f) w := by
  induction p generalizing w with
  | ret b => exact h w (D.refl t w)
  | fail e => exact h
  | act a k ih =>
      cases a with
      | transaction x => exact Waits.imp (D := D) (fun r w' rest => ih r rest) h
      | call q =>
          intro w' moved
          obtain ⟨may, rest⟩ := h w' moved
          exact ⟨may, fun choice r env done => ih r (rest choice r env done)⟩

/-- Catching: the handler starts where the program fails. -/
theorem Follows.tryCatch {p : A.Thread α} {handler : S.Err → A.Thread α}
    (h : D.Follows t Ends (fun w' => ∀ e, D.Follows t Ends Fails (handler e) w') p w) :
    D.Follows t Ends Fails (Tree.tryCatch p handler) w := by
  induction p generalizing w with
  | ret a => exact h
  | fail e => exact h w (D.refl t w) e
  | act a k ih =>
      cases a with
      | transaction x => exact Waits.imp (D := D) (fun r w' rest => ih r rest) h
      | call q =>
          intro w' moved
          obtain ⟨may, rest⟩ := h w' moved
          exact ⟨may, fun choice r env done => ih r (rest choice r env done)⟩

theorem Follows.imp {Ends' : α → World A → Prop} {Fails' : World A → Prop} {p : A.Thread α}
    (ends : ∀ a w, Ends a w → Ends' a w) (fails : ∀ w, Fails w → Fails' w)
    (h : D.Follows t Ends Fails p w) : D.Follows t Ends' Fails' p w := by
  induction p generalizing w with
  | ret a => exact fun w' moved => ends a w' (h w' moved)
  | fail e => exact fun w' moved => fails w' (h w' moved)
  | act a k ih =>
      cases a with
      | transaction x => exact Waits.imp (D := D) (fun r w' rest => ih r rest) h
      | call q =>
          intro w' moved
          obtain ⟨may, rest⟩ := h w' moved
          exact ⟨may, fun choice r env done => ih r (rest choice r env done)⟩

/-- A transaction whose error is thrown. -/
theorem Follows.run {x : A.Tx} {Ends : A.Result x → World A → Prop}
    (h : ∀ w', D.Rely t w w' → D.May t x w' ∧ Fails w' ∧
      ∀ now r begun log held spans, let w'' := w'.commit ⟨t, x, now, r, begun, log, held, spans⟩
        (∀ w₃, D.Rely t w'' w₃ → Ends r w₃) ∧ ∀ w₃, D.Rely t w'' w₃ → Fails w₃) :
    D.Follows t Ends Fails (A.run x) w := by
  intro w' moved
  obtain ⟨may, -, done⟩ := h w' moved
  exact ⟨may, fun e w'' later => (h w'' (D.trans t _ _ _ moved later)).2.1,
    fun now r begun log held spans => done now r begun log held spans⟩

theorem Follows.ask {q : A.Call} {Ends : A.Answer q → World A → Prop}
    (h : ∀ w', D.Rely t w w' → D.MayCall t q w' ∧
      ∀ choice r env, A.perform t w'.env q choice = some (r, env) →
        ∀ w'', D.Rely t { w' with env } w'' → Ends r w'') :
    D.Follows t Ends Fails (A.ask q) w := h

theorem Follows.ofExcept {r : Except S.Err α} (ok : ∀ a, r = .ok a → ∀ w', D.Rely t w w' → Ends a w')
    (error : ∀ e, r = .error e → ∀ w', D.Rely t w w' → Fails w') :
    D.Follows t Ends Fails (Tree.ofExcept r : A.Thread α) w := by
  cases r with
  | ok a => exact ok a rfl
  | error e => exact error e rfl

end Rules

/-! ### Pools of such threads -/

/-- What a thread is at, kept to the discipline. -/
def Active (t : Nat) (Ends : α → World A → Prop) : Activity A α → World A → Prop
  | .between next, w => D.Follows t Ends (fun _ => True) next w
  | .within s k, w =>
      D.Waits t s.tx (fun r w' => D.Follows t Ends (fun _ => True) (k r) w') w

/-- The permitted moves of a world. -/
inductive Moves : World A → World A → Prop where
  | tick {w : World A} {now env} : A.tick w.env now = some env → Moves w { w with env }
  | call {w : World A} {t q choice r env} : D.MayCall t q w →
      A.perform t w.env q choice = some (r, env) → Moves w { w with env }
  | commit {w : World A} {c : Commit A} : D.May c.thread c.tx w → Moves w (w.commit c)

/-- Every thread of the pool keeps to the discipline. -/
structure Kept (Ends : Nat → α → World A → Prop) (p : Pool A α) : Prop where
  good : p.Good
  threads : ∀ t, D.Active t (Ends t) (p.threads t) p.world

variable {D} {Ends : Nat → α → World A → Prop}

theorem Active.mono {t : Nat} {Ends : α → World A → Prop} {a : Activity A α} {w w' : World A}
    (moved : D.Rely t w w') (h : D.Active t Ends a w) : D.Active t Ends a w' := by
  cases a with
  | between next => exact Follows.mono moved h
  | within s k => exact fun w'' later => h w'' (D.trans t _ _ _ moved later)

theorem Kept.initial {db : S.Db} {env : A.Env} {threads : Nat → A.Thread α}
    (h : ∀ t, D.Follows t (Ends t) (fun _ => True) (threads t) ⟨db, [], env⟩) :
    D.Kept Ends (Pool.initial db env threads) :=
  ⟨Pool.initial_good db env threads, h⟩

/-- Thread `t` went on as `a`, the world as `w`; the others stood still. -/
theorem Kept.threads_update {p : Pool A α} (kept : D.Kept Ends p) {t : Nat} {a : Activity A α}
    {w : World A} (others : ∀ u, u ≠ t → D.Rely u p.world w) (own : D.Active t (Ends t) a w) (u : Nat) :
    D.Active u (Ends u) (Function.update p.threads t a u) w := by
  by_cases same : u = t
  · subst same
    rwa [Function.update_self]
  · rw [Function.update_of_ne same]
    exact (kept.threads u).mono (others u same)

/-- A step of the pool keeps it, and moves the world as permitted or not at all. -/
theorem Kept.step {p q : Pool A α} (kept : D.Kept Ends p) {t : Nat} (h : p.Steps t q) :
    D.Kept Ends q ∧ (q.world = p.world ∨ D.Moves p.world q.world) := by
  have mine := kept.threads t
  have still : ∀ u, u ≠ t → D.Rely u p.world p.world := fun u _ => D.refl u _
  suffices rest : (∀ u, D.Active u (Ends u) (q.threads u) q.world) ∧
      (q.world = p.world ∨ D.Moves p.world q.world) from
    ⟨⟨kept.good.step h, rest.1⟩, rest.2⟩
  cases h with
  | begin thread ticked =>
      rw [thread] at mine
      have later := mine.mono (D.tick t _ _ _ ticked)
      exact ⟨kept.threads_update (fun u _ => D.tick u _ _ _ ticked) later, .inr (.tick ticked)⟩
  | call thread performed =>
      rw [thread] at mine
      obtain ⟨may, rest⟩ := mine _ (D.refl t _)
      exact ⟨kept.threads_update (fun u ne => D.call u t _ _ _ _ _ (Ne.symm ne) performed)
        (rest _ _ _ performed), .inr (.call may performed)⟩
  | start thread _ =>
      rw [thread] at mine
      exact ⟨kept.threads_update still mine, .inl rfl⟩
  | error thread _ =>
      rw [thread] at mine
      exact ⟨kept.threads_update still ((mine _ (D.refl t _)).2.1 _), .inl rfl⟩
  | finish thread _ _ =>
      rw [thread] at mine
      exact ⟨kept.threads_update still mine, .inl rfl⟩
  | lose thread =>
      rw [thread] at mine
      exact ⟨kept.threads_update still ((mine _ (D.refl t _)).2.1 _), .inl rfl⟩
  | @commit x now begun cursor r k acknowledged thread =>
      rw [thread] at mine
      obtain ⟨may, -, done⟩ := mine _ (D.refl t _)
      refine ⟨kept.threads_update (fun u ne => D.commit u _ _ (Ne.symm ne)) ?_,
        .inr (.commit may)⟩
      cases acknowledged with
      | true => exact (done now r begun cursor.log cursor.held cursor.spans).1
      | false => exact (done now r begun cursor.log cursor.held cursor.spans).2
  | rollback thread =>
      rw [thread] at mine
      exact ⟨kept.threads_update still ((mine _ (D.refl t _)).2.1 _), .inl rfl⟩

/-- In every reachable pool the threads keep to the discipline. -/
theorem Kept.reachable {p q : Pool A α} (kept : D.Kept Ends p) (h : p.Reachable q) :
    D.Kept Ends q := by
  induction h with
  | refl => exact kept
  | tail _ moved ih =>
      obtain ⟨t, m, moved⟩ := moved
      exact (ih.step (Pool.steps_of_step moved)).1

/-- An invariant of the world: it holds at first and every permitted move keeps
it, so it holds in every reachable pool. -/
theorem Kept.invariant {p q : Pool A α} (kept : D.Kept Ends p) (h : p.Reachable q)
    {P : World A → Prop} (first : P p.world)
    (step : ∀ w w', w'.Sound → P w → D.Moves w w' → P w') : P q.world := by
  induction h with
  | refl => exact first
  | tail past moved ih =>
      obtain ⟨t, m, moved⟩ := moved
      obtain ⟨kept', same | next⟩ := (kept.reachable past).step (Pool.steps_of_step moved)
      · exact same ▸ ih
      · exact step _ _ kept'.good.sound ih next

/-- `Q` held of a transaction in the world in which it began, after `begun` commits. -/
def Began (Q : Nat → A.Tx → Int → World A → Prop) (w : World A) (t : Nat) (x : A.Tx) (now : Int)
    (begun : Nat) : Prop :=
  ∃ env, Q t x now ⟨w.initial, w.commits.take begun, env⟩

theorem Began.commit {Q : Nat → A.Tx → Int → World A → Prop} {w : World A} {t : Nat} {x : A.Tx}
    {now : Int} {begun : Nat} (h : Began Q w t x now begun) (le : begun ≤ w.commits.length)
    (c : Commit A) : Began Q (w.commit c) t x now begun := by
  obtain ⟨env, held⟩ := h
  refine ⟨env, ?_⟩
  rw [World.commit_commits, List.take_append_of_le_length le]
  exact held

/-- What holds of a transaction as it begins, held when any commit began. `I` is an invariant
of the world. -/
theorem Kept.began {db : S.Db} {env : A.Env} {threads : Nat → A.Thread α} {q : Pool A α}
    (kept : D.Kept Ends (Pool.initial db env threads))
    (h : (Pool.initial db env threads).Reachable q) {I : World A → Prop}
    (known : ∀ q, (Pool.initial db env threads).Reachable q → I q.world)
    {Q : Nat → A.Tx → Int → World A → Prop}
    (begins : ∀ t x now w env, I w → D.May t x w → A.tick w.env now = some env → Q t x now w) :
    (∀ t s k, q.threads t = .within s k → Began Q q.world t s.tx s.now s.begun) ∧
      ∀ c ∈ q.world.commits, Began Q q.world c.thread c.tx c.now c.begun := by
  induction h with
  | refl =>
      refine ⟨fun t s k within => ?_, fun c mem => absurd mem List.not_mem_nil⟩
      cases within
  | @tail p _ past moved ih =>
      obtain ⟨u, m, moved⟩ := moved
      obtain ⟨sessions, commits⟩ := ih
      have there := kept.reachable past
      have mine := there.threads u
      have others : ∀ a : Activity A α,
          (∀ s k, a = .within s k → Began Q p.world u s.tx s.now s.begun) →
          ∀ t s k, Function.update p.threads u a t = .within s k →
            Began Q p.world t s.tx s.now s.begun := by
        intro a own t s k within
        by_cases same : t = u
        · subst same
          rw [Function.update_self] at within
          exact own s k within
        · rw [Function.update_of_ne same] at within
          exact sessions t s k within
      have idle : ∀ (next : A.Thread α) s k, Activity.between next = .within s k →
          Began Q p.world u s.tx s.now s.begun := fun next s k within => by cases within
      cases Pool.steps_of_step moved with
      | begin thread ticked =>
          rw [thread] at mine
          refine ⟨others _ fun s k within => ?_, commits⟩
          cases within
          refine ⟨p.world.env, ?_⟩
          rw [List.take_length]
          exact begins _ _ _ _ _ (known p past) (mine _ (D.refl u _)).1 ticked
      | start thread =>
          refine ⟨others _ fun s k within => ?_, commits⟩
          have own := sessions u _ _ thread
          cases within
          exact own
      | finish thread =>
          refine ⟨others _ fun s k within => ?_, commits⟩
          have own := sessions u _ _ thread
          cases within
          exact own
      | commit thread =>
          refine ⟨fun t s k within => ?_, fun c mem => ?_⟩
          · have before := others _ (idle _) t s k within
            refine before.commit ?_ _
            by_cases same : t = u
            · subst same
              simp [Pool.conclude, Pool.endSession] at within
            · have within' : p.threads t = .within s k := by
                simpa [Pool.conclude, Pool.endSession, same] using within
              exact (there.good.sessions t s k within').begun_le
          · rcases List.mem_append.mp mem with mem | mem
            · obtain ⟨n, lt, rfl⟩ := List.getElem_of_mem mem
              exact (commits _ mem).commit (Nat.le_trans (there.good.commits n lt).1 (Nat.le_of_lt lt)) _
            · obtain rfl := List.mem_singleton.mp mem
              have own := sessions u _ _ thread
              exact own.commit (there.good.sessions u _ _ thread).begun_le _
      | call | error | lose | rollback => exact ⟨others _ (idle _), commits⟩

/-- A step of the pool fails the transaction of its own thread, if any. -/
theorem Kept.failed {p q : Pool A α} (kept : D.Kept Ends p) {t : Nat} (h : p.Steps t q) :
    ∀ f ∈ q.failures, f ∈ p.failures ∨
      (q.world = p.world ∧ f.ended = p.world.commits.length ∧ D.May f.thread f.tx p.world) := by
  have mine := kept.threads t
  have failing : ∀ {s : Session A} {k} {e : S.Err} {next : A.Thread α}, p.threads t = .within s k →
      ∀ f ∈ (p.fail t s e next).failures, f ∈ p.failures ∨
        (p.world = p.world ∧ f.ended = p.world.commits.length ∧ D.May f.thread f.tx p.world) := by
    intro s k e next thread f mem
    rw [thread] at mine
    rcases List.mem_append.mp mem with mem | mem
    · exact .inl mem
    · obtain rfl := List.mem_singleton.mp mem
      exact .inr ⟨rfl, rfl, (mine _ (D.refl t _)).1⟩
  cases h with
  | error thread _ => exact failing thread
  | lose thread => exact failing thread
  | rollback thread => exact failing thread
  | begin | call | start | finish | commit => exact fun f mem => .inl mem

/-- What holds of a transaction as it fails, and is kept by every move, holds of every
failure. `I` is an invariant of the world. -/
theorem Kept.failures {p q : Pool A α} (kept : D.Kept Ends p) (h : p.Reachable q)
    {I : World A → Prop} (known : ∀ q, p.Reachable q → I q.world) {P : Failure A → World A → Prop}
    (first : p.failures = [])
    (failed : ∀ f w, I w → f.ended = w.commits.length → D.May f.thread f.tx w → P f w)
    (stays : ∀ f w w', f.ended ≤ w.commits.length → P f w → D.Moves w w' → P f w') :
    ∀ f ∈ q.failures, P f q.world := by
  induction h with
  | refl => simp [first]
  | @tail p' q past moved ih =>
      obtain ⟨t, m, moved⟩ := moved
      have steps := Pool.steps_of_step moved
      intro f mem
      have there := kept.reachable past
      rcases there.failed steps f mem with mem | ⟨same, ended, may⟩
      · have before := ih f mem
        rcases (there.step steps).2 with same | moves
        · rwa [same]
        · obtain ⟨-, le, -⟩ := there.good.failures f mem
          exact stays f _ _ le before moves
      · rw [same]
        exact failed f _ (known _ past) ended may

end Discipline

end ReadCommitted
