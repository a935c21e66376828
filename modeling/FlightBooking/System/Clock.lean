import FlightBooking.System.Knowledge

/-!
The clock, as transactions read it.

A transaction under way read its time from the clock, so under a clock that never goes back
no later moment is earlier than that (`behind_of_service`).
-/

namespace FlightBooking

open Relational ReadCommitted

/-- No transaction under way is ahead of the clock. -/
def Behind (p : Pool app UseCaseResult) : Prop :=
  p.world.env.steady = true → ∀ t s k, p.threads t = .within s k → s.now ≤ p.world.env.clock

theorem Env.tick_some {e e' : Env} {now : Instant} (h : e.tick now = some e') :
    e' = { e with clock := now } ∧ (e.steady = true → e.clock ≤ now) := by
  unfold Env.tick at h
  split at h
  · cases h
  · rename_i forward
    cases h
    exact ⟨rfl, fun steady => not_lt.mp fun back => forward ⟨steady, back⟩⟩

/-- Whoever calls, the clock does not go back. -/
theorem Env.perform_clock {t : Nat} {e e' : Env} {q : Call} {choice : Choice} {a : q.Answer}
    (h : e.perform t q choice = some (a, e')) :
    e'.steady = e.steady ∧ (e.steady = true → e.clock ≤ e'.clock) :=
  let grows := Env.perform_grows (t := t + 1) (Nat.ne_of_lt (Nat.lt_succ_self t)) h
  ⟨grows.steady, grows.clock⟩

theorem Behind.step {p q : Pool app UseCaseResult} {t : Nat} (behind : Behind p) (h : p.Steps t q) :
    Behind q := by
  have others : ∀ {w : World app} {a : Activity app UseCaseResult}, w.env.steady = p.world.env.steady →
      (p.world.env.steady = true → p.world.env.clock ≤ w.env.clock) →
      (∀ s k, a = .within s k → w.env.steady = true → s.now ≤ w.env.clock) →
      w.env.steady = true → ∀ u s k, Function.update p.threads t a u = .within s k →
        s.now ≤ w.env.clock := by
    intro w a same forward own steady u s k within
    by_cases mine : u = t
    · subst mine
      rw [Function.update_self] at within
      exact own s k within steady
    · rw [Function.update_of_ne mine] at within
      have before := same.symm.trans steady
      exact le_trans (behind before u s k within) (forward before)
  have idle : ∀ {next : app.Thread UseCaseResult} {w : World app} s k,
      Activity.between next = .within s k → w.env.steady = true → s.now ≤ w.env.clock :=
    fun s k within => by cases within
  have still : p.world.env.steady = true → p.world.env.clock ≤ p.world.env.clock :=
    fun _ => le_refl _
  cases h with
  | begin thread ticked =>
      obtain ⟨rfl, forward⟩ := Env.tick_some ticked
      refine others rfl forward fun s k within _ => ?_
      cases within
      exact le_refl _
  | call thread performed =>
      obtain ⟨same, forward⟩ := Env.perform_clock performed
      exact others same forward idle
  | start thread =>
      refine others rfl still fun s k within steady => ?_
      have before := behind steady t _ _ thread
      cases within
      exact before
  | finish thread =>
      refine others rfl still fun s k within steady => ?_
      have before := behind steady t _ _ thread
      cases within
      exact before
  | error | lose | commit | rollback => exact others rfl still idle

section Service

variable {airports : Table Airport} {clock : Instant} {steady idempotent : Bool}
  {invocations : Nat → Invocation} {p : Pool app UseCaseResult}

theorem behind_of_service (h : (service airports clock steady idempotent invocations).Reachable p) :
    Behind p := by
  induction h with
  | refl => exact fun _ t s k within => by cases within
  | tail _ moved ih =>
      obtain ⟨t, m, moved⟩ := moved
      exact ih.step (Pool.steps_of_step moved)

/-- Whether the clock goes back is settled at the start. -/
theorem steady_of_service (h : (service airports clock steady idempotent invocations).Reachable p) :
    p.world.env.steady = steady := by
  induction h with
  | refl => rfl
  | tail _ moved ih =>
      obtain ⟨t, m, moved⟩ := moved
      cases Pool.steps_of_step moved with
      | begin _ ticked =>
          obtain ⟨rfl, -⟩ := Env.tick_some ticked
          exact ih
      | call _ performed => exact (Env.perform_clock performed).1.trans ih
      | start | finish | error | lose | commit | rollback => exact ih

theorem committed_le_clock
    (h : (service airports clock true idempotent invocations).Reachable p) :
    ∀ c ∈ p.world.commits, c.now ≤ p.world.env.clock := by
  induction h with
  | refl => exact fun c mem => absurd mem List.not_mem_nil
  | tail past moved ih =>
      obtain ⟨t, m, moved⟩ := moved
      have steady := steady_of_service past
      have behind := behind_of_service past steady
      cases Pool.steps_of_step moved with
      | begin _ ticked =>
          obtain ⟨rfl, forward⟩ := Env.tick_some ticked
          exact fun c mem => le_trans (ih c mem) (forward steady)
      | call _ performed =>
          exact fun c mem => le_trans (ih c mem) ((Env.perform_clock performed).2 steady)
      | commit thread =>
          intro c mem
          rcases List.mem_append.mp mem with mem | mem
          · exact ih c mem
          · obtain rfl := List.mem_singleton.mp mem
            exact behind t _ _ thread
      | start | finish | error | lose | rollback => exact ih

/-- A transaction that began after a commit reads no earlier time. -/
theorem now_mono (h : (service airports clock true idempotent invocations).Reachable p)
    {c c₀ : Commit app} (mem : c ∈ p.world.commits) (before : c₀ ∈ p.world.commits.take c.begun) :
    c₀.now ≤ c.now := by
  have began := (service_kept airports clock true idempotent invocations).began h
    (I := fun w => w.env.steady = true ∧ ∀ c ∈ w.commits, c.now ≤ w.env.clock)
    (fun q reached => ⟨steady_of_service reached, committed_le_clock reached⟩)
    (Q := fun _ _ now w => ∀ c ∈ w.commits, c.now ≤ now) ?_
  · obtain ⟨env, earlier⟩ := began.2 c mem
    exact earlier c₀ before
  · rintro t x now w env ⟨steady, le⟩ - ticked c mem
    obtain ⟨rfl, forward⟩ := Env.tick_some ticked
    exact le_trans (le c mem) (forward steady)

end Service

end FlightBooking
