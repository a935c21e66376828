import FlightBooking.Jobs.Scheduler

/-!
One run of a job at a time, and what `stop` promises.

A handle's slots are enough only while they tell the truth: a timer that is set is in
its handle's slot, and so is a run in progress (`Orderly`). A `start` that finds a run
still in progress, or a `stop` from inside a handler's call, breaks that; without them
every step keeps it.
-/

namespace FlightBooking

namespace Scheduler

variable {s : Scheduler}

/-- A `start` that takes effect finds no run in progress, and a handler does not call
`stop` before its first await. -/
def polite (s : Scheduler) : SchedulerEvent → Bool
  | .start => s.started || s.runs.isEmpty
  | .stop => s.entered.isNone
  | _ => true

/-- The slots tell which timers are set and which runs are in progress. -/
structure Orderly (s : Scheduler) : Prop where
  slots : ∀ x ∈ s.timers, ∃ h, s.handles[x.2]? = some h ∧ h.timer = some x.1
  oneTimer : (s.timers.map (·.2)).Nodup
  oneRun : (s.runs.map (·.handle)).Nodup
  apart : ∀ x ∈ s.timers, ∀ r ∈ s.runs, r.handle ≠ x.2
  known : ∀ r ∈ s.runs, r.handle < s.handles.length
  entered : ∀ x, s.entered = some x → ∃ r ∈ s.runs, r.id = x.1 ∧ r.handle = x.2
  waited : ∀ r ∈ s.runs, s.entered ≠ some (r.id, r.handle) →
    ∃ h, s.handles[r.handle]? = some h ∧ h.running = some r.id
  idle : s.started = false → s.timers = [] ∧ ∀ r ∈ s.runs, s.isStopped r.handle = true
  /-- A call of `stop` with no `start` since waits for all there is to wait for. -/
  stopped : ∀ c ∈ s.stops, c.restarted = false →
    s.started = false ∧ ∀ r ∈ s.runs, r.id ∈ c.awaited
  resolved : ∀ c ∈ s.stops, c.restarted = false → c.resolved = true → s.runs = []

/-! ### Handles -/

theorem getElem?_modifyHandle {i j : Nat} {f : Handle → Handle} :
    (s.modifyHandle i f).handles[j]? = (s.handles[j]?).map fun h => if i = j then f h else h :=
  List.getElem?_modify ..

theorem isStopped_modifyHandle {i j : Nat} {f : Handle → Handle}
    (same : ∀ h, (f h).stopped = h.stopped) : (s.modifyHandle i f).isStopped j = s.isStopped j := by
  unfold isStopped
  rw [getElem?_modifyHandle]
  cases s.handles[j]? with
  | none => rfl
  | some h =>
      by_cases own : i = j
      · simp [own, same]
      · simp [own]

theorem isStopped_endRun {r : JobRun} {i : Nat} : (s.endRun r).isStopped i = s.isStopped i :=
  @isStopped_modifyHandle s r.handle i (fun h => { h with running := none }) fun _ => rfl

theorem isStopped_returned {x : RunId × Nat} {i : Nat} :
    (s.returned x).isStopped i = s.isStopped i :=
  @isStopped_modifyHandle s x.2 i (fun h => { h with running := some x.1 }) fun _ => rfl

/-- A handle's timer slot was filled when there was neither a timer nor a run of it. -/
theorem Orderly.scheduleNext (orderly : s.Orderly) {i : Nat} (known : i < s.handles.length)
    (noTimer : ∀ x ∈ s.timers, x.2 ≠ i) (noRun : ∀ r ∈ s.runs, r.handle ≠ i)
    (on : s.started = false → s.isStopped i = true) : (s.scheduleNext i).Orderly := by
  unfold Scheduler.scheduleNext
  split
  · exact orderly
  rename_i live
  have started : s.started = true := by
    by_contra off
    exact live (on (by simpa using off))
  constructor
  · intro x mem
    rcases List.mem_cons.mp mem with rfl | mem
    · refine ⟨{ s.handles[i] with timer := some s.fresh }, ?_, rfl⟩
      simp [getElem?_modifyHandle, known]
    · obtain ⟨h, at', own⟩ := orderly.slots x mem
      refine ⟨h, ?_, own⟩
      simp [getElem?_modifyHandle, at', (noTimer x mem).symm]
  · rw [List.map_cons, List.nodup_cons]
    refine ⟨fun mem => ?_, orderly.oneTimer⟩
    obtain ⟨x, memX, same⟩ := List.mem_map.mp mem
    exact noTimer x memX same
  · exact orderly.oneRun
  · intro x mem r memR
    rcases List.mem_cons.mp mem with rfl | mem
    · exact noRun r memR
    · exact orderly.apart x mem r memR
  · intro r mem
    simpa [modifyHandle] using orderly.known r mem
  · exact orderly.entered
  · intro r mem returned
    obtain ⟨h, at', own⟩ := orderly.waited r mem returned
    refine ⟨h, ?_, own⟩
    simp [getElem?_modifyHandle, at', (noRun r mem).symm]
  · intro off
    exact absurd (started.symm.trans off) (by simp)
  · exact orderly.stopped
  · exact orderly.resolved

theorem Orderly.endRun (orderly : s.Orderly) {r : JobRun} (mem : r ∈ s.runs)
    (left : s.entered = none) :
    (s.endRun r).Orderly ∧ ∀ r' ∈ (s.endRun r).runs, r'.handle ≠ r.handle := by
  have others : ∀ r' ∈ s.runs.erase r, r'.handle ≠ r.handle := by
    intro r' memR same
    have perm := (List.perm_cons_erase mem).map JobRun.handle
    have nodup := (perm.nodup_iff).mp orderly.oneRun
    rw [List.map_cons, List.nodup_cons] at nodup
    exact nodup.1 (List.mem_map.mpr ⟨r', memR, same⟩)
  refine ⟨?_, others⟩
  have sub : ∀ r' ∈ s.runs.erase r, r' ∈ s.runs := fun r' memR => List.mem_of_mem_erase memR
  constructor
  · intro x memX
    obtain ⟨h, at', own⟩ := orderly.slots x memX
    refine ⟨if r.handle = x.2 then { h with running := none } else h, ?_, ?_⟩
    · simp [Scheduler.endRun, getElem?_modifyHandle, at']
    · split <;> exact own
  · exact orderly.oneTimer
  · exact orderly.oneRun.sublist (List.erase_sublist.map _)
  · exact fun x memX r' memR => orderly.apart x memX r' (sub r' memR)
  · intro r' memR
    simpa [Scheduler.endRun, modifyHandle] using orderly.known r' (sub r' memR)
  · intro x entered
    exact absurd (left.symm.trans entered) (by simp)
  · intro r' memR _
    obtain ⟨h, at', own⟩ := orderly.waited r' (sub r' memR) (by simp [left])
    refine ⟨h, ?_, own⟩
    simp [Scheduler.endRun, getElem?_modifyHandle, at', (others r' memR).symm]
  · intro off
    refine ⟨(orderly.idle off).1, fun r' memR => ?_⟩
    rw [isStopped_endRun]
    exact (orderly.idle off).2 r' (sub r' memR)
  · intro c memC since
    exact ⟨(orderly.stopped c memC since).1,
      fun r' memR => (orderly.stopped c memC since).2 r' (sub r' memR)⟩
  · intro c memC since resolved
    have none := orderly.resolved c memC since resolved
    simp [none] at mem

/-! ### The steps -/

theorem Orderly.register (orderly : s.Orderly) (job : Job) : (s.register job).Orderly := by
  have old : ∀ {i : Nat} {h : Handle}, s.handles[i]? = some h → (s.register job).handles[i]? = some h := by
    intro i h at'
    have lt : i < s.handles.length := (List.getElem?_eq_some_iff.mp at').1
    exact (List.getElem?_append_left lt).trans at'
  constructor
  · intro x mem
    obtain ⟨h, at', own⟩ := orderly.slots x mem
    exact ⟨h, old at', own⟩
  · exact orderly.oneTimer
  · exact orderly.oneRun
  · exact orderly.apart
  · intro r mem
    have lt := orderly.known r mem
    simp only [Scheduler.register, List.length_append, List.length_singleton]
    omega
  · exact orderly.entered
  · intro r mem returned
    obtain ⟨h, at', own⟩ := orderly.waited r mem returned
    exact ⟨h, old at', own⟩
  · intro off
    refine ⟨(orderly.idle off).1, fun r mem => ?_⟩
    obtain ⟨h, at', stopped⟩ := (Option.any_eq_true _ _).mp ((orderly.idle off).2 r mem)
    exact (Option.any_eq_true _ _).mpr ⟨h, old at', stopped⟩
  · exact orderly.stopped
  · exact orderly.resolved

theorem Orderly.finish (orderly : s.Orderly) {r : JobRun} (left : s.entered = none)
    (mem : r ∈ s.runs) : (s.finish r).Orderly := by
  obtain ⟨cleared, others⟩ := orderly.endRun mem left
  refine cleared.scheduleNext ?_ (fun x memX same => orderly.apart x memX r mem same.symm) others ?_
  · simpa [Scheduler.endRun, modifyHandle] using orderly.known r mem
  · intro off
    rw [isStopped_endRun]
    exact (orderly.idle off).2 r mem

theorem Orderly.settle (orderly : s.Orderly) {r : JobRun} (mem : r ∈ s.runs) :
    (s.settle r).Orderly := by
  -- The same runs, but for one's phase.
  have old : ∀ r' ∈ (s.settle r).runs, ∃ r₀ ∈ s.runs, r₀.id = r'.id ∧ r₀.handle = r'.handle := by
    intro r' memR
    rcases List.mem_cons.mp memR with rfl | memR
    · exact ⟨r, mem, rfl, rfl⟩
    · exact ⟨r', List.mem_of_mem_erase memR, rfl, rfl⟩
  constructor
  · exact orderly.slots
  · exact orderly.oneTimer
  · exact (((List.perm_cons_erase mem).map JobRun.handle).nodup_iff).mp orderly.oneRun
  · intro x memX r' memR same
    obtain ⟨r₀, mem₀, -, handle⟩ := old r' memR
    exact orderly.apart x memX r₀ mem₀ (handle.trans same)
  · intro r' memR
    obtain ⟨r₀, mem₀, -, handle⟩ := old r' memR
    exact handle ▸ orderly.known r₀ mem₀
  · intro x entered
    obtain ⟨r', memR, id, handle⟩ := orderly.entered x entered
    by_cases same : r' = r
    · exact ⟨_, List.mem_cons_self, same ▸ id, same ▸ handle⟩
    · exact ⟨r', List.mem_cons_of_mem _ ((List.mem_erase_of_ne same).mpr memR), id, handle⟩
  · intro r' memR returned
    obtain ⟨r₀, mem₀, id, handle⟩ := old r' memR
    have waited := orderly.waited r₀ mem₀
    rw [id, handle] at waited
    exact waited returned
  · intro off
    refine ⟨(orderly.idle off).1, fun r' memR => ?_⟩
    obtain ⟨r₀, mem₀, -, handle⟩ := old r' memR
    exact handle ▸ (orderly.idle off).2 r₀ mem₀
  · intro c memC since
    refine ⟨(orderly.stopped c memC since).1, fun r' memR => ?_⟩
    obtain ⟨r₀, mem₀, id, -⟩ := old r' memR
    exact id ▸ (orderly.stopped c memC since).2 r₀ mem₀
  · intro c memC since resolved
    have none := orderly.resolved c memC since resolved
    simp [none] at mem

theorem Orderly.returned (orderly : s.Orderly) {x : RunId × Nat} (entered : s.entered = some x) :
    (s.returned x).Orderly := by
  constructor
  · intro y mem
    obtain ⟨h, at', own⟩ := orderly.slots y mem
    refine ⟨if x.2 = y.2 then { h with running := some x.1 } else h, ?_, ?_⟩
    · simp [Scheduler.returned, getElem?_modifyHandle, at']
    · split <;> exact own
  · exact orderly.oneTimer
  · exact orderly.oneRun
  · exact orderly.apart
  · intro r mem
    simpa [Scheduler.returned, modifyHandle] using orderly.known r mem
  · intro x none
    cases none
  · intro r mem _
    by_cases own : s.entered = some (r.id, r.handle)
    · cases entered.symm.trans own
      have lt := orderly.known r mem
      exact ⟨{ s.handles[r.handle] with running := some r.id },
        by simp [Scheduler.returned, getElem?_modifyHandle, lt], rfl⟩
    · obtain ⟨h, at', running⟩ := orderly.waited r mem own
      -- The entered run is its handle's only one.
      have others : x.2 ≠ r.handle := fun same => by
        obtain ⟨r', mem', id, handle⟩ := orderly.entered x entered
        obtain rfl := List.inj_on_of_nodup_map orderly.oneRun mem' mem (handle.trans same)
        exact own (entered.trans (congrArg some (Prod.ext id.symm handle.symm)))
      exact ⟨h, by simp [Scheduler.returned, getElem?_modifyHandle, at', others], running⟩
  · intro off
    refine ⟨(orderly.idle off).1, fun r' memR => ?_⟩
    rw [isStopped_returned]
    exact (orderly.idle off).2 r' memR
  · exact orderly.stopped
  · exact orderly.resolved

theorem Orderly.fire (orderly : s.Orderly) {x : TimerId × Nat} (mem : x ∈ s.timers)
    (left : s.entered = none) : (s.fire x).Orderly := by
  have perm := (List.perm_cons_erase mem).map Prod.snd
  have nodup := perm.nodup_iff.mp orderly.oneTimer
  rw [List.map_cons, List.nodup_cons] at nodup
  have others : ∀ y ∈ s.timers.erase x, y.2 ≠ x.2 := fun y memY same =>
    nodup.1 (List.mem_map.mpr ⟨y, memY, same⟩)
  have sub : ∀ y ∈ s.timers.erase x, y ∈ s.timers := fun y memY => List.mem_of_mem_erase memY
  obtain ⟨own, at', -⟩ := orderly.slots x mem
  have lt : x.2 < s.handles.length := (List.getElem?_eq_some_iff.mp at').1
  -- The timer is gone, whatever the callback then does.
  have slots : ∀ y ∈ s.timers.erase x, ∃ h,
      (s.modifyHandle x.2 fun h => { h with timer := none }).handles[y.2]? = some h ∧
        h.timer = some y.1 := by
    intro y memY
    obtain ⟨h, atY, own⟩ := orderly.slots y (sub y memY)
    refine ⟨h, ?_, own⟩
    simp [getElem?_modifyHandle, atY, (others y memY).symm]
  have waited : ∀ r ∈ s.runs, ∃ h,
      (s.modifyHandle x.2 fun h => { h with timer := none }).handles[r.handle]? = some h ∧
        h.running = some r.id := by
    intro r memR
    obtain ⟨h, atR, running⟩ := orderly.waited r memR (by simp [left])
    refine ⟨if x.2 = r.handle then { h with timer := none } else h, ?_, ?_⟩
    · simp [getElem?_modifyHandle, atR]
    · split <;> exact running
  have on : s.started = true := by
    by_contra off
    have none := (orderly.idle (by simpa using off)).1
    simp [none] at mem
  unfold Scheduler.fire
  dsimp only
  split
  · constructor
    · exact slots
    · exact nodup.2
    · exact orderly.oneRun
    · exact fun y memY r memR => orderly.apart y (sub y memY) r memR
    · intro r memR
      simpa [modifyHandle] using orderly.known r memR
    · exact orderly.entered
    · exact fun r memR _ => waited r memR
    · intro off
      exact absurd (on.symm.trans off) (by simp)
    · exact orderly.stopped
    · exact orderly.resolved
  · constructor
    · exact slots
    · exact nodup.2
    · rw [List.map_cons, List.nodup_cons]
      refine ⟨fun memR => ?_, orderly.oneRun⟩
      obtain ⟨r, memR, same⟩ := List.mem_map.mp memR
      exact orderly.apart x mem r memR same
    · intro y memY r memR
      rcases List.mem_cons.mp memR with rfl | memR
      · exact (others y memY).symm
      · exact orderly.apart y (sub y memY) r memR
    · intro r memR
      have same : (s.modifyHandle x.2 fun h => { h with timer := none }).handles.length =
          s.handles.length := by simp [modifyHandle]
      rcases List.mem_cons.mp memR with rfl | memR
      · exact same ▸ lt
      · exact same ▸ orderly.known r memR
    · rintro y entered
      cases entered
      exact ⟨_, List.mem_cons_self, rfl, rfl⟩
    · intro r memR returned
      rcases List.mem_cons.mp memR with rfl | memR
      · exact absurd rfl returned
      · exact waited r memR
    · intro off
      exact absurd (on.symm.trans off) (by simp)
    · intro c memC since
      exact absurd (on.symm.trans (orderly.stopped c memC since).1) (by simp)
    · intro c memC since
      exact absurd (on.symm.trans (orderly.stopped c memC since).1) (by simp)

theorem Orderly.stop (orderly : s.Orderly) (left : s.entered = none) : s.stop.Orderly := by
  have cleared : s.stop.timers = [] := by
    refine List.filter_eq_nil_iff.mpr fun x mem kept => ?_
    obtain ⟨h, at', own⟩ := orderly.slots x mem
    have keptBy := List.all_eq_true.mp kept h (List.mem_of_getElem? at')
    simp [own] at keptBy
  have at' : ∀ {i : Nat} {h : Handle}, s.handles[i]? = some h →
      s.stop.handles[i]? = some { h with stopped := true, timer := none } := by
    intro i h at'
    simp [Scheduler.stop, at']
  have halted : ∀ r ∈ s.runs, s.stop.isStopped r.handle = true := fun r mem => by
    obtain ⟨h, atR, -⟩ := orderly.waited r mem (by simp [left])
    exact (Option.any_eq_true _ _).mpr ⟨_, at' atR, rfl⟩
  have waitsFor : ∀ r ∈ s.runs, r.id ∈ s.handles.filterMap (·.running) := fun r mem => by
    obtain ⟨h, atR, running⟩ := orderly.waited r mem (by simp [left])
    exact List.mem_filterMap.mpr ⟨h, List.mem_of_getElem? atR, running⟩
  constructor
  · simp [cleared]
  · simp [cleared]
  · exact orderly.oneRun
  · simp [cleared]
  · intro r mem
    simpa [Scheduler.stop] using orderly.known r mem
  · exact orderly.entered
  · intro r mem returned
    obtain ⟨h, atR, running⟩ := orderly.waited r mem returned
    exact ⟨_, at' atR, running⟩
  · intro _
    exact ⟨cleared, halted⟩
  · intro c mem since
    refine ⟨rfl, fun r memR => ?_⟩
    rcases List.mem_append.mp mem with mem | mem
    · exact (orderly.stopped c mem since).2 r memR
    · obtain rfl := List.mem_singleton.mp mem
      exact waitsFor r memR
  · intro c mem since resolved
    rcases List.mem_append.mp mem with mem | mem
    · exact orderly.resolved c mem since resolved
    · obtain rfl := List.mem_singleton.mp mem
      cases resolved

theorem Orderly.revive (orderly : s.Orderly) (started : s.started = true) (noRun : s.runs = [])
    (i : Nat) : (s.modifyHandle i fun h => { h with stopped := false }).Orderly := by
  constructor
  · intro x mem
    obtain ⟨h, at', own⟩ := orderly.slots x mem
    refine ⟨if i = x.2 then { h with stopped := false } else h, ?_, ?_⟩
    · simp [getElem?_modifyHandle, at']
    · split <;> exact own
  · exact orderly.oneTimer
  · exact orderly.oneRun
  · exact orderly.apart
  · simp [modifyHandle, noRun]
  · exact orderly.entered
  · simp [modifyHandle, noRun]
  · intro off
    exact absurd (started.symm.trans off) (by simp)
  · exact orderly.stopped
  · exact orderly.resolved

theorem timers_scheduleNext {i : Nat} {x : TimerId × Nat} (mem : x ∈ (s.scheduleNext i).timers) :
    x ∈ s.timers ∨ x.2 = i := by
  unfold scheduleNext at mem
  split at mem
  · exact .inl mem
  · rcases List.mem_cons.mp mem with rfl | mem
    · exact .inr rfl
    · exact .inl mem

theorem scheduleNext_frame (i : Nat) : (s.scheduleNext i).started = s.started ∧
    (s.scheduleNext i).runs = s.runs ∧ (s.scheduleNext i).handles.length = s.handles.length := by
  unfold scheduleNext
  split
  · exact ⟨rfl, rfl, rfl⟩
  · exact ⟨rfl, rfl, List.length_modify ..⟩

/-- Handles are started one by one, none of them with a timer or a run. -/
theorem Orderly.startHandles {is : List Nat} (nodup : is.Nodup) (orderly : s.Orderly)
    (started : s.started = true) (known : ∀ i ∈ is, i < s.handles.length)
    (noTimer : ∀ i ∈ is, ∀ x ∈ s.timers, x.2 ≠ i) (noRun : s.runs = []) :
    (is.foldl (fun s i => startHandle i s) s).Orderly := by
  induction is generalizing s with
  | nil => exact orderly
  | cons i is ih =>
      rw [List.nodup_cons] at nodup
      set revived := s.modifyHandle i fun h => { h with stopped := false }
      have length : revived.handles.length = s.handles.length := List.length_modify ..
      obtain ⟨sameStarted, sameRuns, sameLength⟩ := scheduleNext_frame (s := revived) i
      refine ih nodup.2 ?_ (sameStarted.trans started) ?_ ?_ (sameRuns.trans noRun)
      · refine (orderly.revive started noRun i).scheduleNext ?_ ?_ ?_ ?_
        · exact length ▸ known i List.mem_cons_self
        · exact noTimer i List.mem_cons_self
        · exact fun r mem => absurd (noRun ▸ mem) List.not_mem_nil
        · intro off
          exact absurd (started.symm.trans off) (by simp)
      · intro j mem
        exact (sameLength.trans length).symm ▸ known j (List.mem_cons_of_mem _ mem)
      · intro j mem x memX same
        rcases timers_scheduleNext memX with old | new
        · exact noTimer j (List.mem_cons_of_mem _ mem) x old same
        · exact nodup.1 ((new.symm.trans same) ▸ mem)

theorem Orderly.start (orderly : s.Orderly) (free : s.started = true ∨ s.runs = []) :
    s.start.Orderly := by
  unfold Scheduler.start
  split
  · exact orderly
  rename_i off
  have off : s.started = false := by simpa using off
  have noRun : s.runs = [] := free.resolve_left (by simp [off])
  have noTimer := (orderly.idle off).1
  refine Orderly.startHandles List.nodup_range ?_ rfl (fun i mem => List.mem_range.mp mem) ?_ noRun
  · constructor
    · exact orderly.slots
    · exact orderly.oneTimer
    · exact orderly.oneRun
    · exact orderly.apart
    · exact orderly.known
    · exact orderly.entered
    · exact orderly.waited
    · intro on
      cases on
    · intro c mem since
      obtain ⟨c', -, rfl⟩ := List.mem_map.mp mem
      cases since
    · intro c mem since
      obtain ⟨c', -, rfl⟩ := List.mem_map.mp mem
      cases since
  · intro i _ x mem
    exact absurd (noTimer ▸ mem) List.not_mem_nil

theorem Orderly.resolve (orderly : s.Orderly) {k : Nat} (can : s.canResolve k = true) :
    (s.resolve k).Orderly := by
  obtain ⟨c, at', ended⟩ := (Option.any_eq_true _ _).mp can
  -- A call is itself, or it is the one that resolves.
  have old : ∀ c' ∈ (s.resolve k).stops, (c' ∈ s.stops ∨ c' = { c with resolved := true }) := by
    intro c' mem
    obtain ⟨j, atJ⟩ := List.mem_iff_getElem?.mp mem
    rw [Scheduler.resolve, List.getElem?_modify] at atJ
    obtain ⟨c₀, at₀, rfl⟩ := Option.map_eq_some_iff.mp atJ
    by_cases own : k = j
    · subst own
      cases at'.symm.trans at₀
      exact .inr (if_pos rfl)
    · rw [if_neg own]
      exact .inl (List.mem_of_getElem? at₀)
  have memC : c ∈ s.stops := List.mem_of_getElem? at'
  constructor
  · exact orderly.slots
  · exact orderly.oneTimer
  · exact orderly.oneRun
  · exact orderly.apart
  · exact orderly.known
  · exact orderly.entered
  · exact orderly.waited
  · exact orderly.idle
  · intro c' mem since
    rcases old c' mem with mem | rfl
    · exact orderly.stopped c' mem since
    · exact orderly.stopped c memC since
  · intro c' mem since resolved
    rcases old c' mem with mem | rfl
    · exact orderly.resolved c' mem since resolved
    · refine List.eq_nil_iff_forall_not_mem.mpr fun r memR => ?_
      have waits := (orderly.stopped c memC since).2 r memR
      have gone := List.all_eq_true.mp ended r memR
      simp [waits] at gone

/-! ### Runs of the scheduler -/

theorem Orderly.step {s' : Scheduler} {e : SchedulerEvent} (orderly : s.Orderly)
    (taken : Machine.guarded polite step s e = some s') : s'.Orderly := by
  obtain ⟨fine, taken⟩ := Machine.guarded_eq_some.mp taken
  cases e with
  | register job =>
      cases taken
      exact orderly.register job
  | start =>
      cases taken
      refine orderly.start ?_
      simpa [polite] using fine
  | stop =>
      cases taken
      exact orderly.stop (Option.isNone_iff_eq_none.mp fine)
  | fire t i =>
      rw [Scheduler.step, Option.ite_none_right_eq_some] at taken
      obtain ⟨⟨left, mem⟩, taken⟩ := taken
      cases taken
      exact orderly.fire mem left
  | returned =>
      obtain ⟨x, entered, rfl⟩ := Option.map_eq_some_iff.mp taken
      exact orderly.returned entered
  | settle r =>
      rw [Scheduler.step, Option.ite_none_right_eq_some] at taken
      obtain ⟨⟨mem, -⟩, taken⟩ := taken
      cases taken
      exact orderly.settle mem
  | finish r =>
      rw [Scheduler.step, Option.ite_none_right_eq_some] at taken
      obtain ⟨⟨left, mem, -⟩, taken⟩ := taken
      cases taken
      exact orderly.finish left mem
  | resolve k =>
      rw [Scheduler.step, Option.ite_none_right_eq_some] at taken
      obtain ⟨⟨-, can⟩, taken⟩ := taken
      cases taken
      exact orderly.resolve can

theorem orderly_empty : ({} : Scheduler).Orderly := by
  constructor <;> simp

/-- After a `stop` that has resolved, only a `start` makes anything happen. -/
theorem halted_step {s' : Scheduler} {e : SchedulerEvent} (timers : s.timers = [])
    (runs : s.runs = []) (other : e ≠ .start) (taken : s.step e = some s') :
    s'.timers = [] ∧ s'.runs = [] := by
  cases e with
  | register job =>
      cases taken
      exact ⟨timers, runs⟩
  | start => exact absurd rfl other
  | stop =>
      cases taken
      exact ⟨by simp [stop, timers], runs⟩
  | fire t i =>
      rw [Scheduler.step, Option.ite_none_right_eq_some] at taken
      simp [timers] at taken
  | returned =>
      obtain ⟨x, -, rfl⟩ := Option.map_eq_some_iff.mp taken
      exact ⟨timers, runs⟩
  | settle r =>
      rw [Scheduler.step, Option.ite_none_right_eq_some] at taken
      simp [runs] at taken
  | finish r =>
      rw [Scheduler.step, Option.ite_none_right_eq_some] at taken
      simp [runs] at taken
  | resolve k =>
      rw [Scheduler.step, Option.ite_none_right_eq_some] at taken
      obtain ⟨-, taken⟩ := taken
      cases taken
      exact ⟨timers, runs⟩

theorem halted_run {es : List SchedulerEvent} {s' : Scheduler} (timers : s.timers = [])
    (runs : s.runs = []) (ran : Machine.run step es s = some s') (others : .start ∉ es) :
    s'.runs = [] := by
  induction es generalizing s with
  | nil =>
      cases ran
      exact runs
  | cons e es ih =>
      obtain ⟨mid, taken, rest⟩ := Option.bind_eq_some_iff.mp ran
      rw [List.mem_cons, not_or] at others
      obtain ⟨timers', runs'⟩ := halted_step timers runs (fun same => others.1 same.symm) taken
      exact ih timers' runs' rest others.2

theorem Orderly.runs_le_one (orderly : s.Orderly) (i : Nat) :
    (s.runs.filter fun r => r.handle = i).length ≤ 1 := by
  have once := List.nodup_iff_count_le_one.mp orderly.oneRun i
  rw [List.count, List.countP_map, List.countP_eq_length_filter] at once
  refine Nat.le_trans (Nat.le_of_eq ?_) once
  refine congrArg (fun p => (s.runs.filter p).length) (funext fun r => ?_)
  rw [Function.comp_apply, Bool.eq_iff_iff, decide_eq_true_eq, beq_iff_eq]

/-- In every run whose starts and stops are polite, no handle has two runs in progress;
and once a `stop` has resolved with no `start` since, there is no run, and none begins
before the next `start`. -/
theorem no_overlap {es : List SchedulerEvent}
    (ran : Machine.run (Machine.guarded polite step) es {} = some s) :
    (∀ i, (s.runs.filter fun r => r.handle = i).length ≤ 1) ∧
    ∀ c ∈ s.stops, c.resolved = true → c.restarted = false →
      s.runs = [] ∧ ∀ more s', Machine.run step more s = some s' → .start ∉ more → s'.runs = [] := by
  have orderly : s.Orderly :=
    Machine.run_invariant (fun _ _ _ orderly taken => orderly.step taken) ran orderly_empty
  refine ⟨orderly.runs_le_one, fun c mem resolved since => ?_⟩
  have none := orderly.resolved c mem since resolved
  have cleared := (orderly.idle (orderly.stopped c mem since).1).1
  exact ⟨none, fun more s' ran' others => halted_run cleared none ran' others⟩

def sampleJob : Job := ⟨"expire-holds", 60000⟩

/-- A run is stopped, finishes, and the job is started and stopped again. -/
def politeEvents : List SchedulerEvent :=
  [.register sampleJob, .start, .fire 0 0, .returned, .stop, .settle ⟨1, 0, .handling⟩,
    .finish ⟨1, 0, .settled⟩, .resolve 0, .start, .stop, .resolve 1]

theorem no_overlap_sample : ∃ s, Machine.run (Machine.guarded polite step) politeEvents {} = some s ∧
    (s.stops.map fun c => (c.resolved, c.restarted)) = [(true, true), (true, false)] ∧
    ∀ more s', Machine.run step more s = some s' → .start ∉ more → s'.runs = [] := by
  have ends : (Machine.run (Machine.guarded polite step) politeEvents {}).map (fun s =>
      s.stops.map fun c => (c.resolved, c.restarted)) = some [(true, true), (true, false)] := by
    decide
  obtain ⟨s, ran, stops⟩ := Option.map_eq_some_iff.mp ends
  refine ⟨s, ran, stops, ?_⟩
  have mem : (true, false) ∈ s.stops.map fun c => (c.resolved, c.restarted) := by simp [stops]
  obtain ⟨c, memC, same⟩ := List.mem_map.mp mem
  obtain ⟨resolved, since⟩ := Prod.ext_iff.mp same
  exact ((no_overlap ran).2 c memC resolved since).2

/-- `start` again while the first run goes on: the new timer fires beside it. -/
def overlapEvents : List SchedulerEvent :=
  [.register sampleJob, .start, .fire 0 0, .returned, .stop, .start, .fire 2 0, .returned]

/-- Then the first run ends, which empties the slot, and `stop` waits for nothing. -/
def forgottenEvents : List SchedulerEvent :=
  overlapEvents ++ [.settle ⟨1, 0, .handling⟩, .finish ⟨1, 0, .settled⟩, .stop, .resolve 1]

/-- Two runs of one job at a time, both still in their handlers; and a `stop` that has
resolved while one of them goes on. -/
theorem restart_overlaps :
    (∃ s, Machine.run step overlapEvents {} = some s ∧
      (s.runs.filter fun r => r.handle = 0 && r.phase = .handling).length = 2) ∧
    ∃ s, Machine.run step forgottenEvents {} = some s ∧
      (∃ c ∈ s.stops, c.resolved = true ∧ c.restarted = false) ∧
      ∃ r ∈ s.runs, r.phase = .handling := by
  have twice : (Machine.run step overlapEvents {}).map (fun s =>
      (s.runs.filter fun r => r.handle = 0 && r.phase = .handling).length) = some 2 := by decide
  have late : (Machine.run step forgottenEvents {}).map (fun s =>
      (s.stops.any (fun c => c.resolved && !c.restarted), s.runs.any fun r => r.phase = .handling)) =
      some (true, true) := by decide
  obtain ⟨s, ran, two⟩ := Option.map_eq_some_iff.mp twice
  obtain ⟨s', ran', both⟩ := Option.map_eq_some_iff.mp late
  simp only [Prod.mk.injEq, List.any_eq_true, Bool.and_eq_true, Bool.not_eq_true',
    decide_eq_true_eq] at both
  exact ⟨⟨s, ran, two⟩, s', ran', both.1, both.2⟩

end Scheduler

end FlightBooking
