import Mathlib.Order.Bounds.Basic

/-!
Local clocks.

A zone says how far its clocks are ahead of UTC at each second; changes may be as
many and as large as they like, if the offset stays within a bound. Clocks skip a
local time when they jump over it (`Zone.GapAt`) and repeat it when they go back.
`Zone.Resolves` is what a resolver of local times promises: the later instant of a
repeated time, the offset before the gap for a skipped one. A resolved time splits
the instants as the clocks do exactly when the clocks pass it once and no gap
begins before it (`Zone.splits_iff`).
-/

namespace LocalClock

structure Zone where
  offset : Int → Int
  bounded : ∃ b, ∀ u, -b ≤ offset u ∧ offset u ≤ b

namespace Zone

variable (z : Zone)

/-- What the clocks show at instant `u`. -/
def shows (u : Int) : Int := u + z.offset u

/-- At instant `t` the clocks jump over the local time `l`. -/
def GapAt (t l : Int) : Prop := t + z.offset (t - 1) ≤ l ∧ l < t + z.offset t

/-- A resolver of local times, as documented. -/
structure Resolves (resolve : Int → Int) : Prop where
  shown : ∀ l, (∃ u, z.shows u = l) → IsGreatest {u | z.shows u = l} (resolve l)
  skipped : ∀ l, (¬ ∃ u, z.shows u = l) → ∃ t, z.GapAt t l ∧ resolve l = l - z.offset (t - 1)

/-- The clocks pass `l` once: having shown it or later, they show later times only. -/
def PassesOnce (l : Int) : Prop := ∀ u v, u < v → l ≤ z.shows u → l < z.shows v

/-- A jump over `l` begins at `l`. -/
def GapsBeginAt (l : Int) : Prop := ∀ t, z.GapAt t l → l = t + z.offset (t - 1)

/-- The resolved `l` parts the instants as the clocks do. -/
def Splits (resolve : Int → Int) (l : Int) : Prop := ∀ u, resolve l ≤ u ↔ l ≤ z.shows u

variable {z} {resolve : Int → Int} {l : Int}

/-- Just before a jump over `l` the clocks are short of it. -/
theorem GapAt.before {t : Int} (gap : z.GapAt t l) : z.shows (t - 1) < l := by
  have first := gap.1
  unfold shows
  omega

theorem GapAt.after {t : Int} (gap : z.GapAt t l) : l < z.shows t := gap.2

theorem Splits.gap {t : Int} (splits : z.Splits resolve l) (gap : z.GapAt t l) :
    resolve l = t := by
  have upper := (splits t).mpr gap.after.le
  have lower : ¬ resolve l ≤ t - 1 := fun le => absurd ((splits _).mp le) (not_le.mpr gap.before)
  omega

theorem Splits.passesOnce (resolves : z.Resolves resolve) (splits : z.Splits resolve l) :
    z.PassesOnce l := by
  intro u v before reached
  have first := (splits u).mpr reached
  refine lt_of_le_of_ne ((splits v).mp (by omega)) fun same => ?_
  -- A second time would be resolved to, so nothing before it would count.
  have last := (resolves.shown l ⟨v, same.symm⟩).2 same.symm
  omega

theorem Splits.gapsBeginAt (resolves : z.Resolves resolve) (splits : z.Splits resolve l) :
    z.GapsBeginAt l := by
  intro t gap
  have here := splits.gap gap
  have unshown : ¬ ∃ u, z.shows u = l := by
    intro shown
    have own : z.shows (resolve l) = l := (resolves.shown l shown).1
    rw [here] at own
    exact absurd own gap.after.ne'
  obtain ⟨t', gap', resolved⟩ := resolves.skipped l unshown
  have same : t = t' := here.symm.trans (splits.gap gap')
  subst same
  omega

theorem splits_of_shown (resolves : z.Resolves resolve) (once : z.PassesOnce l)
    (shown : ∃ u, z.shows u = l) : z.Splits resolve l := by
  have own : z.shows (resolve l) = l := (resolves.shown l shown).1
  intro u
  constructor
  · intro le
    rcases le.eq_or_lt with rfl | later
    · exact own.ge
    · exact (once _ _ later own.ge).le
  · intro reached
    by_contra early
    exact absurd own (once _ _ (not_le.mp early) reached).ne'

theorem splits_of_skipped (resolves : z.Resolves resolve) (once : z.PassesOnce l)
    (begins : z.GapsBeginAt l) (unshown : ¬ ∃ u, z.shows u = l) : z.Splits resolve l := by
  obtain ⟨t, gap, resolved⟩ := resolves.skipped l unshown
  have here : resolve l = t := by
    have start := begins t gap
    omega
  intro u
  rw [here]
  constructor
  · intro le
    rcases le.eq_or_lt with rfl | later
    · exact gap.after.le
    · exact (once _ _ later gap.after.le).le
  · intro reached
    by_contra early
    have before := gap.before
    rcases (Int.le_sub_one_of_lt (not_le.mp early)).eq_or_lt with rfl | earlier
    · omega
    · exact absurd (once _ _ earlier reached) (not_lt.mpr before.le)

/-- A resolved time parts the instants as the clocks do, exactly when they pass it
once and no gap over it begins earlier. -/
theorem splits_iff (resolves : z.Resolves resolve) :
    z.Splits resolve l ↔ z.PassesOnce l ∧ z.GapsBeginAt l := by
  constructor
  · intro splits
    exact ⟨splits.passesOnce resolves, splits.gapsBeginAt resolves⟩
  · rintro ⟨once, begins⟩
    by_cases shown : ∃ u, z.shows u = l
    · exact splits_of_shown resolves once shown
    · exact splits_of_skipped resolves once begins shown

/-- Resolved times are as late as the local times they resolve, up to the bound. -/
theorem Resolves.unbounded (resolves : z.Resolves resolve) (u : Int) :
    ∃ l₀, ∀ l, l₀ ≤ l → u < resolve l ∧ z.shows u < l := by
  obtain ⟨b, bounded⟩ := z.bounded
  refine ⟨u + b + 1, fun l le => ?_⟩
  have own := (bounded u).2
  refine ⟨?_, by unfold shows; omega⟩
  by_cases shown : ∃ v, z.shows v = l
  · have here : z.shows (resolve l) = l := (resolves.shown l shown).1
    have there := (bounded (resolve l)).2
    unfold shows at here
    omega
  · obtain ⟨t, -, resolved⟩ := resolves.skipped l shown
    have there := (bounded (t - 1)).2
    omega

end Zone

end LocalClock
