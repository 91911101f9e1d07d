import Koushi.Library.Fairness
import Koushi.Work.Admission

namespace Koushi.Work

open Collections SchedulerState Machine List Nat World

/-!
# The scheduler makes progress

When the slot is free, nobody holds an interactive guard and somebody may be admitted, then
somebody is admitted without a further call.  The executor is fair: a task that can go on
goes on, and a notification that is owed is sent.  While nobody is admitted the first waiter
of the queue stays the same once all callers have entered; it is notified or its interval
ends, so it wakes up, registers, looks at the state and takes the slot.
-/

/-! ## Who is granted the slot -/

namespace World

/-- The waiter that an action grants the slot to. -/
def grantedBy (world : World) : Action -> Option WaitingWork
  | .check id =>
    match world.tasks[id]? with
    | some ⟨work, .armed _⟩ => if world.shared.grants world.now work then some work else none
    | _ => none
  | _ => none

variable {action : Action}

theorem grants_of_grantedBy {world : World} {work : WaitingWork}
    (granted : world.grantedBy action = some work) : world.shared.grants world.now work = true := by
  unfold grantedBy at granted
  split at granted
  · split at granted
    · split at granted
      · next grants =>
        cases granted
        exact grants
      · cases granted
    · cases granted
  · cases granted

/-- Every other rank is better than every background rank. -/
theorem rank_lt_of_background {selected accountTabId accountTabId' : Option String}
    {kind kind' : AccountWorkKind} (front : kind.policy.workClass ≠ .background)
    (background : kind'.policy.workClass = .background) :
    workRank selected kind accountTabId < workRank selected kind' accountTabId' := by
  unfold workRank
  left
  rw [background]
  cases class' : kind.policy.workClass with
  | interactive => exact zero_lt_two
  | foreground => exact one_lt_two
  | background => exact absurd class' front

theorem not_background {kind : AccountWorkKind} (interactive : kind.isInteractive = true) :
    kind.policy.workClass ≠ .background := by
  rw [of_decide_eq_true interactive]
  decide

/-- A permit goes to the first waiter, and not to background work while a guard is held. -/
theorem Sound.grantedBy {world : World} (sound : world.Sound) {work : WaitingWork}
    (granted : world.grantedBy action = some work) :
    (∀ other ∈ world.shared.waiting, other.id ≠ work.id -> world.shared.pausedBudgetWaiter other.kind = false ->
      world.shared.outranks other work = false) ∧
    (work.kind.policy.workClass = .background -> world.shared.interactive = []) := by
  have unblocked := (grants_eq_true_iff.mp (grants_of_grantedBy granted)).2
  have admitted : world.shared.canAdmitLocked work.kind work.kind.policy work = true := by
    by_contra refused
    exact unblocked (.inr (Bool.not_eq_true _ ▸ refused))
  obtain ⟨-, first, unguarded⟩ := canAdmitLocked_eq_true_iff.mp admitted
  refine ⟨first, ?_⟩
  intro background
  rw [eq_nil_iff_forall_not_mem]
  intro entry held
  exact unguarded background entry held
    (rank_lt_of_background (not_background (sound.interactive entry held)) background)

/-- A permit that is held after an action was held before it as it is, may have been marked at
the end of the action, or is granted by it. -/
theorem active_step_cases {world : World} {entry : ActiveWork}
    (held : entry ∈ (world.step action).shared.active) : entry ∈ world.shared.active ∨
      (∃ state : SchedulerState, (world.step action).shared = state.preemptLocked ∧
        state.active ⊆ world.shared.active) ∨
      ∃ work, world.grantedBy action = some work ∧ work.id = entry.id ∧ entry.preempted = false := by
  by_cases enabled : world.enabled action = true
  swap
  · rw [step_of_disabled enabled] at held
    exact .inl held
  rw [step_of_enabled enabled] at held ⊢
  cases action with
  | acquire | dropAcquire | dropInteractive | notify | tick => exact .inl held
  | dropPermit id =>
    refine .inr (.inl ⟨_, rfl, ?_⟩)
    split <;> exact filter_sublist.subset
  | beginInteractive | setSelectedAccount => exact .inr (.inl ⟨_, rfl, Subset.refl _⟩)
  | setSearchCrawlerSpeed | arm | wake =>
    dsimp only [act] at held
    split at held <;> exact .inl held
  | enter id =>
    dsimp only [act] at held ⊢
    split at held
    · exact .inl held
    · exact .inr (.inl ⟨_, rfl, Subset.refl _⟩)
  | check id =>
    dsimp only [act] at held ⊢
    split at held
    · next work epoch found =>
      split at held
      · next grants =>
        rcases mem_append.mp held with old | new
        · exact .inl old
        · rw [mem_singleton.mp new]
          exact .inr (.inr ⟨work, by simp [grantedBy, found, grants], rfl, rfl⟩)
      · next refused =>
        rw [if_neg refused]
        exact .inr (.inl ⟨_, rfl, Subset.refl _⟩)
    · exact .inl held

/-- A permit that is held after an action was held before it or is granted by it. -/
theorem active_step {world : World} {entry : ActiveWork} (held : entry ∈ (world.step action).shared.active) :
    entry.id ∈ world.shared.active.map (·.id) ∨
      ∃ work, world.grantedBy action = some work ∧ work.id = entry.id := by
  rcases active_step_cases held with before | ⟨state, same, fewer⟩ | ⟨work, granted, named, -⟩
  · exact .inl (mem_map_of_mem before)
  · left
    rw [same] at held
    have marked := mem_map_of_mem (f := fun active => active.id) held
    rw [ids_preemptLocked] at marked
    exact map_subset _ fewer marked
  · exact .inr ⟨work, granted, named⟩

end World

/-! ## Steps without a call and without an admission -/

/-- The steps of the task of one `acquire` call. -/
def Action.ofTask (id : Nat) : Action -> Prop
  | .enter id' | .arm id' | .check id' | .wake id' => id' = id
  | _ => False

/-- The one step that a task in the queue may take next. -/
def WaitPhase.next (id : Nat) : WaitPhase -> Action
  | .ready => .arm id
  | .armed _ => .check id
  | .parked _ _ => .wake id

namespace World

/-- What may change when nobody calls and nobody is admitted. -/
structure Quiet (world world' : World) : Prop where
  free : world.shared.active = [] -> world'.shared.active = []
  interactive : world'.shared.interactive = world.shared.interactive
  selected : world'.shared.selectedAccountTabId = world.shared.selectedAccountTabId
  speed : world'.shared.searchCrawlerSpeed = world.shared.searchCrawlerSpeed
  last : world'.shared.lastBackgroundCompleted = world.shared.lastBackgroundCompleted
  calling : world'.calling.length ≤ world.calling.length
  settled : world'.calling.length = world.calling.length -> world'.shared.waiting = world.shared.waiting
  grows : world.shared.waiting ⊆ world'.shared.waiting
  now : world.now ≤ world'.now
  epoch : world.epoch ≤ world'.epoch

theorem Quiet.refl (world : World) : Quiet world world := by
  constructor <;> simp

theorem active_preemptLocked_of_free {state : SchedulerState} (free : state.active = []) :
    state.preemptLocked.active = [] := by
  rw [← length_eq_zero_iff, length_active_preemptLocked, free]
  rfl

variable {action : Action}

theorem quiet_step {world : World} (internal : action.isInternal = true)
    (nobody : world.grantedBy action = none) : Quiet world (world.step action) := by
  by_cases enabled : world.enabled action = true
  swap
  · rw [step_of_disabled enabled]
    exact Quiet.refl world
  rw [step_of_enabled enabled]
  cases action with
  | enter id =>
    dsimp only [act]
    split
    · exact { Quiet.refl world with }
    next work called =>
    obtain ⟨marks, preempted, -⟩ :=
      preemptLocked_eq { world.shared with waiting := world.shared.waiting ++ [work] }
    have fewer : (world.calling.filter (fun other => other.id ≠ id)).length < world.calling.length := by
      rw [length_filter_lt_length_iff_exists]
      exact ⟨work, mem_of_find?_eq_some called, by simpa using find?_some called⟩
    refine ⟨?_, ?_, ?_, ?_, ?_, fewer.le, fun same => absurd same fewer.ne, ?_, le_refl _, le_refl _⟩
    · exact fun free => active_preemptLocked_of_free free
    all_goals simp [thenNotify, setPhase, preempted]
  | notify => exact { Quiet.refl world with epoch := Nat.le_succ _ }
  | arm | wake =>
    dsimp only [act]
    split <;> exact { Quiet.refl world with }
  | check id =>
    dsimp only [act]
    split
    · next work epoch found =>
      split
      · next grants => simp [grantedBy, found, grants] at nobody
      obtain ⟨marks, preempted, -⟩ := world.shared.preemptLocked_eq
      refine ⟨fun free => active_preemptLocked_of_free free, ?_, ?_, ?_, ?_, ?_, ?_, ?_, ?_, ?_⟩ <;>
        simp [setPhase, preempted]
    · exact { Quiet.refl world with }
  | tick => exact { Quiet.refl world with now := Nat.le_add_right .. }
  | _ => cases internal

/-- A task stays where it is until a step of its own. -/
theorem tasks_step_of_other {world : World} {id : Nat} (sound : world.Sound)
    (internal : action.isInternal = true) (other : ¬(action.ofTask id ∧ world.enabled action = true)) :
    (world.step action).tasks[id]? = world.tasks[id]? := by
  by_cases enabled : world.enabled action = true
  swap
  · rw [step_of_disabled enabled]
  have different : ¬action.ofTask id := fun own => other ⟨own, enabled⟩
  have phased : ∀ (world' : World) (task : AcquireTask) (phase : WaitPhase) (id' : Nat), id' ≠ id ->
      world.tasks[id']? = some task -> world'.tasks = world.tasks ->
      (world'.setPhase task.work phase).tasks[id]? = world.tasks[id]? := by
    intro world' task phase id' apart found same
    have named := (sound.tasks id' task found).1
    rw [setPhase, OrdMap.getElem?_insert_of_ne (by rwa [named]), same]
  rw [step_of_enabled enabled]
  cases action with
  | enter id' =>
    dsimp only [act]
    split
    · rfl
    next work called =>
    have named : work.id = id' := by simpa using find?_some called
    exact OrdMap.getElem?_insert_of_ne (by rwa [named])
  | notify => rfl
  | arm id' | wake id' =>
    dsimp only [act]
    split
    · rfl
    · next task found => exact phased world task _ id' different found rfl
  | check id' =>
    dsimp only [act]
    split
    · next work epoch found =>
      split
      · exact OrdMap.getElem?_erase_of_ne different
      · exact phased _ ⟨work, .armed epoch⟩ _ id' different found rfl
    · rfl
  | tick elapsed => rfl
  | _ => cases internal

theorem own_step {world : World} {id : Nat} {task : AcquireTask}
    (found : world.tasks[id]? = some task) (own : action.ofTask id) (entered : action ≠ .enter id)
    (enabled : world.enabled action = true) : action = task.phase.next id := by
  obtain ⟨work, phase⟩ := task
  cases action with
  | enter id' =>
    cases own
    exact absurd rfl entered
  | arm | check | wake =>
    cases own
    cases phase <;> simp [World.enabled, found, WaitPhase.next] at enabled ⊢
  | _ => cases own

theorem Quiet.trans {first second third : World} (early : Quiet first second) (late : Quiet second third) :
    Quiet first third where
  free free := late.free (early.free free)
  interactive := late.interactive.trans early.interactive
  selected := late.selected.trans early.selected
  speed := late.speed.trans early.speed
  last := late.last.trans early.last
  calling := late.calling.trans early.calling
  settled same := by
    -- the number of callers never grows, so it is the same in between
    have between := le_antisymm early.calling (same.symm.trans_le late.calling)
    exact (late.settled (same.trans between.symm)).trans (early.settled between)
  grows := Subset.trans early.grows late.grows
  now := early.now.trans late.now
  epoch := early.epoch.trans late.epoch

theorem Quiet.shared_eq {world world' : World} (quiet : Quiet world world') (free : world.shared.active = [])
    (same : world'.calling.length = world.calling.length) : world'.shared = world.shared := by
  have active := (quiet.free free).trans free.symm
  have waiting := quiet.settled same
  have interactive := quiet.interactive
  have selected := quiet.selected
  have speed := quiet.speed
  have last := quiet.last
  cases before : world.shared
  cases after : world'.shared
  simp only [before, after] at active waiting interactive selected speed last
  rw [active, waiting, interactive, selected, speed, last]

end World

/-! ## The first waiter -/

namespace SchedulerState

variable {state : SchedulerState}

/-- Some waiter that is not paused stands before all others that are not. -/
theorem exists_first (somebody : ∃ work ∈ state.waiting, state.pausedBudgetWaiter work.kind = false) :
    ∃ work ∈ state.waiting, state.pausedBudgetWaiter work.kind = false ∧
      ∀ other ∈ state.waiting, state.pausedBudgetWaiter other.kind = false ->
        state.outranks other work = false := by
  let place (work : WaitingWork) : WorkRank ×ₗ Nat := toLex (state.rankOf work.kind work.accountTabId, work.seq)
  have before : ∀ other work, state.outranks other work = true ↔ place other < place work := by
    intro other work
    simp [outranks, place, Prod.Lex.toLex_lt_toLex]
  let candidates := (state.waiting.filter (fun work => !state.pausedBudgetWaiter work.kind)).toFinset
  have member : ∀ work, work ∈ candidates ↔ work ∈ state.waiting ∧ state.pausedBudgetWaiter work.kind = false := by
    intro work
    simp [candidates]
  obtain ⟨work, waits, unpaused⟩ := somebody
  obtain ⟨first, chosen, least⟩ :=
    Finset.exists_min_image candidates place ⟨work, (member work).mpr ⟨waits, unpaused⟩⟩
  obtain ⟨firstWaits, firstUnpaused⟩ := (member first).mp chosen
  refine ⟨first, firstWaits, firstUnpaused, ?_⟩
  intro other otherWaits otherUnpaused
  rw [← Bool.not_eq_true, before]
  exact not_lt.mpr (least other ((member other).mpr ⟨otherWaits, otherUnpaused⟩))

/-- The first waiter is not blocked when the slot is free and nobody holds a guard. -/
theorem exists_unblocked (free : state.active = []) (unguarded : state.interactive = [])
    (somebody : ∃ work ∈ state.waiting, state.pausedBudgetWaiter work.kind = false) :
    ∃ work ∈ state.waiting, ¬state.Blocked work := by
  obtain ⟨work, waits, unpaused, first⟩ := exists_first somebody
  have admitted : state.canAdmitLocked work.kind work.kind.policy work = true := by
    rw [canAdmitLocked_eq_true_iff, unguarded]
    exact ⟨free, fun other waits' _ unpaused' => first other waits' unpaused', by simp⟩
  refine ⟨work, waits, ?_⟩
  simp [Blocked, unpaused, admitted]

/-- The background interval after the last background permit is over. -/
def IntervalElapsed (state : SchedulerState) (now : Nat) : Prop :=
  ∀ last, state.lastBackgroundCompleted = some last -> last + backgroundInterval state.searchCrawlerSpeed ≤ now

theorem IntervalElapsed.deadline_le {now : Nat} (elapsed : state.IntervalElapsed now)
    {kind : AccountWorkKind} {deadline : Nat} (limited : state.rateLimit kind = some deadline) : deadline ≤ now := by
  unfold rateLimit at limited
  split at limited
  · obtain ⟨last, completed, rfl⟩ := Option.map_eq_some_iff.mp limited
    exact elapsed last completed
  · cases limited

end SchedulerState

/-! ## Fair schedules admit somebody -/

namespace World

/-- A schedule in which nobody calls the scheduler, every task that can go on goes on, and
every notification that is owed is sent. -/
structure Unattended (schedule : Machine.Schedule step) : Prop where
  internal : ∀ time, (schedule.action time).isInternal = true
  notifies : schedule.WeakFair (fun world action => world.enabled action = true) (· = .notify)
  runs : ∀ id, schedule.WeakFair (fun world action => world.enabled action = true) (Action.ofTask id)

section Progress

variable {schedule : Schedule step} {work : WaitingWork} {time : Nat}

theorem sound_schedule (sound : (schedule.state 0).Sound) (time : Nat) : (schedule.state time).Sound :=
  Schedule.forever sound (fun later _ sound => sound.step (schedule.action later)) time (Nat.zero_le time)

theorem quiet_schedule (unattended : Unattended schedule)
    (nobody : ∀ time, (schedule.state time).grantedBy (schedule.action time) = none) {later : Nat}
    (after : time ≤ later) : Quiet (schedule.state time) (schedule.state later) := by
  refine Schedule.forever (Quiet.refl _) ?_ later after
  intro later _ quiet
  exact quiet.trans (quiet_step (unattended.internal later) (nobody later))

/-- As long as nobody is admitted the shared state settles. -/
theorem exists_settled_shared (unattended : Unattended schedule)
    (nobody : ∀ time, (schedule.state time).grantedBy (schedule.action time) = none)
    (free : (schedule.state 0).shared.active = []) (start : Nat) :
    ∃ time, start ≤ time ∧ ∀ later, time ≤ later -> (schedule.state later).shared = (schedule.state time).shared := by
  obtain ⟨time, after, settled⟩ := schedule.exists_settled (fun world => world.calling.length)
    (fun time => (quiet_step (unattended.internal time) (nobody time)).calling) start
  have stillFree := (quiet_schedule unattended nobody (Nat.zero_le time)).free free
  refine ⟨time, after, ?_⟩
  intro later since
  exact (quiet_schedule unattended nobody since).shared_eq stillFree (settled later since)

/-- A waiter that could take the slot from now on: nobody is admitted, the state keeps still
and its interval is over. -/
structure Overdue (schedule : Machine.Schedule step) (work : WaitingWork) (time : Nat) : Prop where
  unattended : Unattended schedule
  sound : (schedule.state 0).Sound
  nobody : ∀ time, (schedule.state time).grantedBy (schedule.action time) = none
  waits : ∀ later, time ≤ later -> work ∈ (schedule.state later).shared.waiting
  unblocked : ∀ later, time ≤ later -> ¬(schedule.state later).shared.Blocked work
  elapsed : ∀ later, time ≤ later -> ∀ deadline,
    (schedule.state later).shared.rateLimit work.kind = some deadline -> deadline ≤ (schedule.state later).now

namespace Overdue

section

variable (overdue : Overdue schedule work time)
include overdue

theorem later {later : Nat} (after : time ≤ later) : Overdue schedule work later :=
  ⟨overdue.unattended, overdue.sound, overdue.nobody, fun other since => overdue.waits other (after.trans since),
    fun other since => overdue.unblocked other (after.trans since),
    fun other since => overdue.elapsed other (after.trans since)⟩

/-- An entry of the queue is not at the same time a call that is still to enter. -/
theorem not_enter : (schedule.state time).enabled (.enter work.id) = false := by
  have sound := sound_schedule overdue.sound time
  rw [← Bool.not_eq_true]
  intro enabled
  obtain ⟨other, called, same⟩ := any_eq_true.mp enabled
  have waits := overdue.waits time (le_refl time)
  exact (sound.distinct other called work (.inr waits) (of_decide_eq_true same).symm).2 waits

theorem next_action {phase : WaitPhase} (found : (schedule.state time).tasks[work.id]? = some ⟨work, phase⟩)
    (own : (schedule.action time).ofTask work.id)
    (able : (schedule.state time).enabled (schedule.action time) = true) :
    schedule.action time = phase.next work.id := by
  refine own_step found own ?_ able
  intro enters
  rw [enters, overdue.not_enter] at able
  cases able

theorem stays {phase : WaitPhase} (found : (schedule.state time).tasks[work.id]? = some ⟨work, phase⟩)
    (other : ¬((schedule.action time).ofTask work.id ∧
      (schedule.state time).enabled (schedule.action time) = true)) :
    ((schedule.state time).step (schedule.action time)).tasks[work.id]? = some ⟨work, phase⟩ := by
  rw [tasks_step_of_other (sound_schedule overdue.sound time) (overdue.unattended.internal time) other]
  exact found

/-- The task of the waiter moves on from a phase whose step is enabled. -/
theorem moves {phase : WaitPhase} (found : (schedule.state time).tasks[work.id]? = some ⟨work, phase⟩)
    (able : ∀ later, time ≤ later -> (schedule.state later).tasks[work.id]? = some ⟨work, phase⟩ ->
      (schedule.state later).enabled (phase.next work.id) = true) :
    ∃ later, time ≤ later ∧ (schedule.state later).tasks[work.id]? = some ⟨work, phase⟩ ∧
      schedule.action later = phase.next work.id ∧
      schedule.state (later + 1) = (schedule.state later).act (phase.next work.id) := by
  have own : (phase.next work.id).ofTask work.id := by cases phase <;> rfl
  obtain ⟨later, after, found, taken⟩ := (overdue.unattended.runs work.id).takes
    (fun world => world.tasks[work.id]? = some ⟨work, phase⟩) found
    (fun later after found => ⟨_, own, able later after found⟩)
    (fun later after found untaken => (overdue.later after).stays found untaken)
  have acts := (overdue.later after).next_action found taken.1 taken.2
  refine ⟨later, after, found, acts, ?_⟩
  rw [schedule.steps, step_of_enabled taken.2, acts]

/-- A task that looks at the state takes the slot. -/
theorem not_armed (epoch : Nat) : (schedule.state time).tasks[work.id]? ≠ some ⟨work, .armed epoch⟩ := by
  intro armed
  obtain ⟨later, after, found, checks, -⟩ :=
    overdue.moves armed (fun later _ found => by simp [enabled, WaitPhase.next, found])
  have granted : (schedule.state later).shared.grants (schedule.state later).now work = true :=
    grants_eq_true_iff.mpr ⟨overdue.elapsed later after, overdue.unblocked later after⟩
  have nobody := overdue.nobody later
  simp [checks, WaitPhase.next, grantedBy, found, granted] at nobody

theorem not_ready : (schedule.state time).tasks[work.id]? ≠ some ⟨work, .ready⟩ := by
  intro ready
  obtain ⟨later, after, found, -, acts⟩ :=
    overdue.moves ready (fun later _ found => by simp [enabled, WaitPhase.next, found])
  refine (overdue.later (le_succ_of_le after)).not_armed (schedule.state later).epoch ?_
  rw [acts]
  simp [act, WaitPhase.next, found, setPhase]

theorem not_awake {epoch : Nat} {waitUntil : Option Nat}
    (parked : (schedule.state time).tasks[work.id]? = some ⟨work, .parked epoch waitUntil⟩) :
    (schedule.state time).awake epoch waitUntil = false := by
  rw [← Bool.not_eq_true]
  intro awake
  have stillAwake : ∀ later, time ≤ later -> (schedule.state later).awake epoch waitUntil = true := by
    intro later after
    have quiet := quiet_schedule overdue.unattended overdue.nobody after
    simp only [World.awake, Bool.or_eq_true, decide_eq_true_eq, Option.any_eq_true] at awake ⊢
    rcases awake with notified | ⟨deadline, sleeping, past⟩
    · exact .inl (notified.trans_le quiet.epoch)
    · exact .inr ⟨deadline, sleeping, past.trans quiet.now⟩
  obtain ⟨later, after, found, -, acts⟩ := overdue.moves parked
    (fun later after found => by simp [enabled, WaitPhase.next, found, stillAwake later after])
  refine (overdue.later (le_succ_of_le after)).not_ready ?_
  rw [acts]
  simp [act, WaitPhase.next, found, setPhase]

/-- A task that sleeps has a notification on its way. -/
theorem owed_of_parked {epoch : Nat} {waitUntil : Option Nat}
    (parked : (schedule.state time).tasks[work.id]? = some ⟨work, .parked epoch waitUntil⟩) :
    (schedule.state time).enabled .notify = true := by
  have asleep := overdue.not_awake parked
  obtain ⟨registered, watched⟩ := (sound_schedule overdue.sound time).watched work.id _ parked
  simp only [World.awake, Bool.or_eq_false_iff, decide_eq_false_iff_not, not_lt] at asleep
  have current : epoch = (schedule.state time).epoch := le_antisymm registered asleep.1
  rw [enabled, decide_eq_true_eq, pos_iff_ne_zero]
  intro none
  rcases watched current none with blocked | ⟨deadline, rfl, limited⟩
  · exact overdue.unblocked time (le_refl time) blocked
  · have past := overdue.elapsed time (le_refl time) deadline limited
    simp [past] at asleep

/-- The notification wakes the task, so nobody is overdue for ever. -/
theorem not_parked (epoch : Nat) (waitUntil : Option Nat) :
    (schedule.state time).tasks[work.id]? ≠ some ⟨work, .parked epoch waitUntil⟩ := by
  intro parked
  let asleep (world : World) : Prop := world.tasks[work.id]? = some ⟨work, .parked epoch waitUntil⟩
  have sleeps : ∀ later, time ≤ later -> asleep (schedule.state later) := by
    refine Schedule.forever parked ?_
    intro later after found
    dsimp only [asleep] at found
    apply (overdue.later after).stays found
    rintro ⟨own, able⟩
    rw [(overdue.later after).next_action found own able] at able
    simp [enabled, WaitPhase.next, found, (overdue.later after).not_awake found] at able
  obtain ⟨later, after, notifies, able⟩ := overdue.unattended.notifies time
    (fun later after => ⟨.notify, rfl, (overdue.later after).owed_of_parked (sleeps later after)⟩)
  have unaware := (overdue.later (le_succ_of_le after)).not_awake
    (sleeps (later + 1) (le_succ_of_le after))
  have registered : epoch ≤ (schedule.state later).epoch :=
    ((sound_schedule overdue.sound later).watched work.id _ (sleeps later after)).1
  have sent : (schedule.state (later + 1)).epoch = (schedule.state later).epoch + 1 := by
    rw [schedule.steps, step_of_enabled able, notifies]
    rfl
  simp only [World.awake, sent, Bool.or_eq_false_iff, decide_eq_false_iff_not] at unaware
  exact unaware.1 (lt_succ_of_le registered)

theorem false : False := by
  obtain ⟨phase, found⟩ :=
    (sound_schedule overdue.sound time).waiting work (overdue.waits time (le_refl time))
  cases phase with
  | ready => exact overdue.not_ready found
  | armed => exact overdue.not_armed _ found
  | parked => exact overdue.not_parked _ _ found

end

end Overdue

/-- With the slot free, no guard held and a waiter that is not paused, somebody is admitted
without a further call, once the background interval is over. -/
theorem admitted_eventually (sound : (schedule.state 0).Sound) (unattended : Unattended schedule)
    (free : (schedule.state 0).shared.active = []) (unguarded : (schedule.state 0).shared.interactive = [])
    (somebody : ∃ work ∈ (schedule.state 0).shared.waiting,
      (schedule.state 0).shared.pausedBudgetWaiter work.kind = false)
    (elapses : ∃ time, (schedule.state 0).shared.IntervalElapsed (schedule.state time).now) :
    ∃ time work, (schedule.state time).grantedBy (schedule.action time) = some work := by
  by_contra never
  have nobody : ∀ time, (schedule.state time).grantedBy (schedule.action time) = none := by
    intro time
    rw [Option.eq_none_iff_forall_ne_some]
    exact fun work granted => never ⟨time, work, granted⟩
  obtain ⟨start, elapsed⟩ := elapses
  obtain ⟨time, after, settled⟩ := exists_settled_shared unattended nobody free start
  have quiet := quiet_schedule unattended nobody (Nat.zero_le time)
  have somebody' : ∃ work ∈ (schedule.state time).shared.waiting,
      (schedule.state time).shared.pausedBudgetWaiter work.kind = false := by
    obtain ⟨work, member, unpaused⟩ := somebody
    refine ⟨work, quiet.grows member, ?_⟩
    rw [pausedBudgetWaiter, quiet.speed]
    exact unpaused
  obtain ⟨work, member, unblocked⟩ :=
    exists_unblocked (quiet.free free) (quiet.interactive.trans unguarded) somebody'
  have overdue : Overdue schedule work time := by
    refine ⟨unattended, sound, nobody, ?_, ?_, ?_⟩
    · intro later since
      rw [settled later since]
      exact member
    · intro later since
      rw [settled later since]
      exact unblocked
    · intro later since deadline limited
      rw [settled later since] at limited
      refine IntervalElapsed.deadline_le ?_ limited
      intro completed known
      rw [quiet.last] at known
      rw [quiet.speed]
      exact (elapsed completed known).trans (quiet_schedule unattended nobody (after.trans since)).now
  exact overdue.false

end Progress

/-- One caller waits for maintenance work, and its notification is sent. -/
def oneWaiter : World :=
  Machine.run step {} [.acquire 0 0 .maintenance none, .enter 0, .notify]

/-- The waiter registers, then looks at the state; after that nothing happens. -/
def lookingSchedule : Machine.Schedule step where
  state
    | 0 => oneWaiter
    | 1 => oneWaiter.step (.arm 0)
    | _ => (oneWaiter.step (.arm 0)).step (.check 0)
  action
    | 0 => .arm 0
    | 1 => .check 0
    | _ => .tick 0
  steps
    | 0 => rfl
    | 1 => rfl
    | _ + 2 => rfl

theorem unattended_lookingSchedule : Unattended lookingSchedule := by
  have last : ∀ time, lookingSchedule.state (time + 2) = (oneWaiter.step (.arm 0)).step (.check 0) := fun _ => rfl
  have noTask : ((oneWaiter.step (.arm 0)).step (.check 0)).tasks.isEmpty = true := by decide +kernel
  have noCaller : ((oneWaiter.step (.arm 0)).step (.check 0)).calling = [] := by decide +kernel
  refine ⟨?_, ?_, ?_⟩
  · intro time
    match time with
    | 0 | 1 => rfl
    | _ + 2 => rfl
  · intro time always
    obtain ⟨action, rfl, enabled⟩ := always (time + 2) (Nat.le_add_right time 2)
    cases enabled
  · intro id time always
    obtain ⟨action, own, enabled⟩ := always (time + 2) (Nat.le_add_right time 2)
    have none : ∀ id : Nat, ((oneWaiter.step (.arm 0)).step (.check 0)).tasks[id]? = none := by
      intro id
      rw [Std.ExtTreeMap.isEmpty_iff.mp noTask, Std.ExtTreeMap.getElem?_empty]
    rw [last] at enabled
    cases action with
    | enter id' => simp [World.enabled, noCaller] at enabled
    | arm | check | wake => simp [World.enabled, none] at enabled
    | _ => cases own

end World

end Koushi.Work
