import FlightBooking.Library.Trace

/-!
Which transactions a program may run at all, given what its earlier ones answered.

`Issues P` follows a program through every answer it could get and asks `P` of each
transaction it comes to; no world is needed for that. What the threads of a pool issue is
what the pool commits, or fails at (`issued_of_reachable`), so either can be traced back to
the request its thread was started with, and to the commits that request made before.
-/

namespace ReadCommitted

open Interaction

variable {S : Store} {A : App S} {α β : Type}

/-- Transactions of one thread and what they answered, in order. -/
abbrev Trail (A : App S) : Type := List ((x : A.Tx) × A.Result x)

/-- After `trail`, the program runs only transactions that `P` allows there. -/
def Issues (P : Trail A → A.Tx → Prop) : Trail A → A.Thread α → Prop
  | _, .ret _ => True
  | _, .fail _ => True
  | trail, .act (.transaction x) k => P trail x ∧
      (∀ r, Issues P (trail ++ [⟨x, r⟩]) (k (.ok r))) ∧ ∀ e, Issues P trail (k (.error e))
  | trail, .act (.call _) k => ∀ r, Issues P trail (k r)

namespace Issues

variable {P : Trail A → A.Tx → Prop} {trail : Trail A}

theorem ret (a : α) : Issues P trail (.ret a : A.Thread α) := trivial

theorem fail (e : S.Err) : Issues P trail (.fail e : A.Thread α) := trivial

theorem bind {p : A.Thread β} {f : β → A.Thread α} (h : Issues P trail p)
    (rest : ∀ b trail', trail <+: trail' → Issues P trail' (f b)) : Issues P trail (p >>= f) := by
  induction p generalizing trail with
  | ret b => exact rest b trail (List.prefix_rfl)
  | fail e => trivial
  | act a k ih =>
      cases a with
      | transaction x =>
          refine ⟨h.1, fun r => ?_, fun e => ih _ (h.2.2 e) rest⟩
          exact ih _ (h.2.1 r) fun b trail' later =>
            rest b trail' ((List.prefix_append _ _).trans later)
      | call q => exact fun r => ih r (h r) rest

theorem map {p : A.Thread β} {f : β → α} (h : Issues P trail p) : Issues P trail (f <$> p) :=
  h.bind fun b _ _ => ret (f b)

theorem tryCatch {p : A.Thread α} {handler : S.Err → A.Thread α} (h : Issues P trail p)
    (caught : ∀ e trail', trail <+: trail' → Issues P trail' (handler e)) :
    Issues P trail (Tree.tryCatch p handler) := by
  induction p generalizing trail with
  | ret a => trivial
  | fail e => exact caught e trail (List.prefix_rfl)
  | act a k ih =>
      cases a with
      | transaction x =>
          refine ⟨h.1, fun r => ?_, fun e => ih _ (h.2.2 e) caught⟩
          exact ih _ (h.2.1 r) fun e trail' later =>
            caught e trail' ((List.prefix_append _ _).trans later)
      | call q => exact fun r => ih r (h r) caught

/-- A transaction, and what follows its answer. -/
theorem run {x : A.Tx} {f : A.Result x → A.Thread α} (h : P trail x)
    (rest : ∀ r, Issues P (trail ++ [⟨x, r⟩]) (f r)) : Issues P trail (A.run x >>= f) :=
  ⟨h, rest, fun e => fail e⟩

/-- A transaction at the end. -/
theorem run_end {x : A.Tx} (h : P trail x) : Issues P trail (A.run x) :=
  ⟨h, fun r => ret r, fun e => fail e⟩

theorem ask {q : A.Call} {f : A.Answer q → A.Thread α} (rest : ∀ a, Issues P trail (f a)) :
    Issues P trail (A.ask q >>= f) := rest

end Issues

/-! ### Pools -/

/-- The thread's transaction, if it is in one, and all it may still run. -/
def Activity.Issues (P : Trail A → A.Tx → Prop) (trail : Trail A) : Activity A α → Prop
  | .between next => ReadCommitted.Issues P trail next
  | .within s k => P trail s.tx ∧
      (∀ r, ReadCommitted.Issues P (trail ++ [⟨s.tx, r⟩]) (k (.ok r))) ∧
      ∀ e, ReadCommitted.Issues P trail (k (.error e))

/-- The trail is one of commits of thread `t`. -/
def World.Trailed (w : World A) (t : Nat) (trail : Trail A) : Prop :=
  ∀ e ∈ trail, ∃ c ∈ w.commits, c.thread = t ∧ e = ⟨c.tx, c.result⟩

/-- Thread `t` may run what it is running, and was allowed all it committed and all that
failed. -/
structure Pool.Issued (P : Nat → Trail A → A.Tx → Prop) (p : Pool A α) : Prop where
  threads : ∀ t, ∃ trail, p.world.Trailed t trail ∧ (p.threads t).Issues (P t) trail
  commits : ∀ c ∈ p.world.commits, ∃ trail, p.world.Trailed c.thread trail ∧ P c.thread trail c.tx
  failures : ∀ f ∈ p.failures, ∃ trail, p.world.Trailed f.thread trail ∧ P f.thread trail f.tx

theorem World.Trailed.mono {w w' : World A} {t : Nat} {trail : Trail A} (h : w.Trailed t trail)
    (grown : w.commits ⊆ w'.commits) : w'.Trailed t trail := fun e mem =>
  let ⟨c, there, own⟩ := h e mem
  ⟨c, grown there, own⟩

section Steps

variable {P : Nat → Trail A → A.Tx → Prop} {p q : Pool A α} {t : Nat}

/-- One thread goes on, and perhaps commits. -/
theorem Pool.Issued.update (issued : p.Issued P) {trail : Trail A} {a : Activity A α} {w : World A}
    (grown : p.world.commits ⊆ w.commits) (trailed : w.Trailed t trail)
    (own : a.Issues (P t) trail) (u : Nat) :
    ∃ trail, w.Trailed u trail ∧ (Function.update p.threads t a u).Issues (P u) trail := by
  by_cases same : u = t
  · subst same
    rw [Function.update_self]
    exact ⟨trail, trailed, own⟩
  · rw [Function.update_of_ne same]
    obtain ⟨trail', trailed', other⟩ := issued.threads u
    exact ⟨trail', trailed'.mono grown, other⟩

/-- The transaction of a thread fails. -/
theorem Pool.Issued.fail (issued : p.Issued P) {s : Session A} {e : S.Err} {next : A.Thread α}
    {trail : Trail A} (trailed : p.world.Trailed t trail) (own : P t trail s.tx)
    (rest : Issues (P t) trail next) : (p.fail t s e next).Issued P where
  threads := issued.update (List.Subset.refl _) trailed rest
  commits := issued.commits
  failures := fun f mem => by
    rcases List.mem_append.mp mem with old | new
    · exact issued.failures f old
    · obtain rfl := List.mem_singleton.mp new
      exact ⟨trail, trailed, own⟩

theorem Pool.Issued.step (issued : p.Issued P) (h : p.Steps t q) : q.Issued P := by
  obtain ⟨trail, trailed, mine⟩ := issued.threads t
  have same : p.world.commits ⊆ p.world.commits := List.Subset.refl _
  cases h with
  | begin thread _ =>
      rw [thread] at mine
      exact ⟨issued.update same trailed mine, issued.commits, issued.failures⟩
  | call thread _ =>
      rw [thread] at mine
      exact ⟨issued.update same trailed (mine _), issued.commits, issued.failures⟩
  | start thread _ =>
      rw [thread] at mine
      exact ⟨issued.update same trailed mine, issued.commits, issued.failures⟩
  | finish thread _ _ =>
      rw [thread] at mine
      exact ⟨issued.update same trailed mine, issued.commits, issued.failures⟩
  | error thread _ =>
      rw [thread] at mine
      exact issued.fail trailed mine.1 (mine.2.2 _)
  | lose thread =>
      rw [thread] at mine
      exact issued.fail trailed mine.1 (mine.2.2 _)
  | rollback thread =>
      rw [thread] at mine
      exact issued.fail trailed mine.1 (mine.2.2 _)
  | @commit x now begun cursor r k acknowledged thread =>
      rw [thread] at mine
      have grown : p.world.commits ⊆ (p.world.commit
          ⟨t, x, now, r, begun, cursor.log, cursor.held, cursor.spans⟩).commits :=
        List.subset_append_left _ _
      constructor
      · cases acknowledged with
        | false => exact issued.update grown (trailed.mono grown) (mine.2.2 _)
        | true =>
            have later : (Activity.between (k (.ok r))).Issues (P t) (trail ++ [⟨x, r⟩]) :=
              mine.2.1 r
            refine issued.update grown (fun e mem => ?_) later
            rcases List.mem_append.mp mem with old | new
            · exact trailed.mono grown e old
            · obtain rfl := List.mem_singleton.mp new
              exact ⟨_, List.mem_append_right _ List.mem_cons_self, rfl, rfl⟩
      · intro c mem
        rcases List.mem_append.mp mem with old | new
        · obtain ⟨trail', trailed', allowed⟩ := issued.commits c old
          exact ⟨trail', trailed'.mono grown, allowed⟩
        · obtain rfl := List.mem_singleton.mp new
          exact ⟨trail, trailed.mono grown, mine.1⟩
      · intro f mem
        obtain ⟨trail', trailed', allowed⟩ := issued.failures f mem
        exact ⟨trail', trailed'.mono grown, allowed⟩

/-- What each thread's program issues is what the thread commits, or fails at. -/
theorem issued_of_reachable {db : S.Db} {env : A.Env} {threads : Nat → A.Thread α}
    (each : ∀ t, Issues (P t) [] (threads t)) (h : (Pool.initial db env threads).Reachable q) :
    q.Issued P := by
  induction h with
  | refl =>
      constructor
      · exact fun t => ⟨[], fun e mem => absurd mem List.not_mem_nil, each t⟩
      · exact fun c mem => absurd mem List.not_mem_nil
      · exact fun f mem => absurd mem List.not_mem_nil
  | tail _ moved ih =>
      obtain ⟨t, m, moved⟩ := moved
      exact ih.step (Pool.steps_of_step moved)

end Steps

end ReadCommitted
