import Mathlib.Data.Option.Basic
import Mathlib.Data.List.Basic

/-!
Machines that take one atomic step for each event.

An event loop is one: between two of its tasks nothing else runs, and which task is
next is the environment's choice. `step s e` is `none` when `e` cannot happen in `s`.
-/

namespace Machine

variable {σ ε : Type} {step : σ → ε → Option σ}

/-- The state after a list of events. -/
def run (step : σ → ε → Option σ) : List ε → σ → Option σ
  | [], s => some s
  | e :: es, s => (step s e).bind (run step es)

/-- The machine without the events that `allowed` refuses. -/
def guarded (allowed : σ → ε → Bool) (step : σ → ε → Option σ) (s : σ) (e : ε) : Option σ :=
  if allowed s e then step s e else none

theorem guarded_eq_some {allowed : σ → ε → Bool} {s s' : σ} {e : ε} :
    guarded allowed step s e = some s' ↔ allowed s e = true ∧ step s e = some s' := by
  unfold guarded
  split
  · rename_i yes
    simp [yes]
  · rename_i no
    simp [no]

/-- What every step keeps, every run keeps. -/
theorem run_invariant {I : σ → Prop} (kept : ∀ s e s', I s → step s e = some s' → I s')
    {es : List ε} {s s' : σ} (ran : run step es s = some s') (before : I s) : I s' := by
  induction es generalizing s with
  | nil =>
      cases ran
      exact before
  | cons e es ih =>
      obtain ⟨mid, taken, rest⟩ := Option.bind_eq_some_iff.mp ran
      exact ih rest (kept s e mid before taken)

/-- A run of the guarded machine is a run. -/
theorem run_of_guarded {allowed : σ → ε → Bool} {es : List ε} {s s' : σ}
    (ran : run (guarded allowed step) es s = some s') : run step es s = some s' := by
  induction es generalizing s with
  | nil => exact ran
  | cons e es ih =>
      obtain ⟨mid, taken, rest⟩ := Option.bind_eq_some_iff.mp ran
      exact Option.bind_eq_some_iff.mpr ⟨mid, (guarded_eq_some.mp taken).2, ih rest⟩

/-! ### Continuations -/

/-- Some run, all of whose events `P` admits, leads from one state to the other. -/
def Leads (step : σ → ε → Option σ) (P : ε → Prop) (s s' : σ) : Prop :=
  ∃ es, run step es s = some s' ∧ ∀ e ∈ es, P e

namespace Leads

variable {P P' : ε → Prop} {s s₁ s₂ : σ} {e : ε}

theorem refl (s : σ) : Leads step P s s := ⟨[], rfl, fun _ mem => absurd mem List.not_mem_nil⟩

theorem head (taken : step s e = some s₁) (admitted : P e) (rest : Leads step P s₁ s₂) :
    Leads step P s s₂ := by
  obtain ⟨es, ran, all⟩ := rest
  refine ⟨e :: es, Option.bind_eq_some_iff.mpr ⟨s₁, taken, ran⟩, ?_⟩
  intro e' mem
  rcases List.mem_cons.mp mem with rfl | mem
  · exact admitted
  · exact all e' mem

theorem single (taken : step s e = some s₁) (admitted : P e) : Leads step P s s₁ :=
  head taken admitted (refl s₁)

theorem trans (first : Leads step P s s₁) (rest : Leads step P s₁ s₂) : Leads step P s s₂ := by
  obtain ⟨es, ran, all⟩ := first
  induction es generalizing s with
  | nil =>
      cases ran
      exact rest
  | cons e es ih =>
      obtain ⟨mid, taken, ran⟩ := Option.bind_eq_some_iff.mp ran
      have later := ih ran fun e' mem => all e' (List.mem_cons_of_mem _ mem)
      exact head taken (all e List.mem_cons_self) later

theorem mono (h : Leads step P s s₁) (admits : ∀ e, P e → P' e) : Leads step P' s s₁ := by
  obtain ⟨es, ran, all⟩ := h
  exact ⟨es, ran, fun e mem => admits e (all e mem)⟩

theorem invariant {I : σ → Prop} (kept : ∀ s e s', I s → step s e = some s' → I s')
    (h : Leads step P s s₁) (before : I s) : I s₁ := by
  obtain ⟨es, ran, -⟩ := h
  exact run_invariant kept ran before

end Leads

end Machine
