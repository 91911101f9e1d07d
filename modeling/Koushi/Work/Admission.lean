import Koushi.Work.Scheduler

namespace Koushi.Work

open Collections SchedulerState OrdMap List

/-!
# What holds at every moment of the scheduler

`World.Sound` collects what every interleaving keeps: one slot, interactive guards of an
interactive kind only, and one waiting task for every entry of the queue.  Its last field
says that no wake-up is lost.  A task that sleeps without a notification on its way is
blocked by the state as it is now, or waits for the end of its background interval.
-/

namespace SchedulerState

/-! ## Preemption changes marks only -/

theorem preemptLocked_eq (state : SchedulerState) :
    ∃ active, state.preemptLocked = { state with active } ∧
      active.map (fun active => (active.id, active.kind)) =
        state.active.map (fun active => (active.id, active.kind)) := by
  unfold preemptLocked
  cases state.bestPendingRank with
  | none => exact ⟨state.active, rfl, rfl⟩
  | some best =>
    refine ⟨_, rfl, ?_⟩
    rw [map_map]
    apply map_congr_left
    intro active _
    dsimp only [Function.comp]
    split <;> rfl

section Preempt

variable (state : SchedulerState)

@[simp] theorem waiting_preemptLocked : state.preemptLocked.waiting = state.waiting := by
  obtain ⟨active, same, -⟩ := state.preemptLocked_eq
  rw [same]

@[simp] theorem interactive_preemptLocked : state.preemptLocked.interactive = state.interactive := by
  obtain ⟨active, same, -⟩ := state.preemptLocked_eq
  rw [same]

@[simp] theorem length_active_preemptLocked : state.preemptLocked.active.length = state.active.length := by
  obtain ⟨active, same, kinds⟩ := state.preemptLocked_eq
  rw [same]
  simpa using congrArg length kinds

theorem ids_preemptLocked : state.preemptLocked.active.map (·.id) = state.active.map (·.id) := by
  obtain ⟨active, same, marks⟩ := state.preemptLocked_eq
  rw [same]
  simpa [map_map, Function.comp_def] using congrArg (map Prod.fst) marks

@[simp] theorem rateLimit_preemptLocked (kind : AccountWorkKind) :
    state.preemptLocked.rateLimit kind = state.rateLimit kind := by
  obtain ⟨active, same, -⟩ := state.preemptLocked_eq
  rw [same]
  rfl

end Preempt

/-! ## Blocked waiters -/

/-- The state keeps a waiter from the slot, whatever the time. -/
def Blocked (state : SchedulerState) (waiting : WaitingWork) : Prop :=
  state.pausedBudgetWaiter waiting.kind = true ∨
    state.canAdmitLocked waiting.kind waiting.kind.policy waiting = false

variable {waiting : WaitingWork} {state : SchedulerState}

theorem canAdmitLocked_eq_true_iff : state.canAdmitLocked waiting.kind waiting.kind.policy waiting = true ↔
      state.active = [] ∧
      (∀ other ∈ state.waiting, other.id ≠ waiting.id -> state.pausedBudgetWaiter other.kind = false ->
        state.outranks other waiting = false) ∧
      (waiting.kind.policy.workClass = .background -> ∀ entry ∈ state.interactive,
        ¬state.rankOf entry.kind entry.accountTabId < state.rankOf waiting.kind waiting.accountTabId) := by
  have concurrency : ∀ kind : AccountWorkKind, kind.policy.maxConcurrency = 1 := by
    intro kind
    cases kind <;> rfl
  unfold canAdmitLocked
  rw [concurrency, SHARED_WORK_CONCURRENCY]
  cases occupied : state.active with
  | cons active rest => simp
  | nil => simp [imp_iff_not_or, or_comm, or_left_comm, and_comm]

theorem blocked_preemptLocked (blocked : state.Blocked waiting) : state.preemptLocked.Blocked waiting := by
  obtain ⟨active, same, kinds⟩ := state.preemptLocked_eq
  rw [same]
  rcases blocked with paused | refused
  · exact .inl paused
  · right
    rw [← Bool.not_eq_true, canAdmitLocked_eq_true_iff] at refused ⊢
    rintro ⟨free, rest⟩
    dsimp only at free
    rw [free] at kinds
    exact refused ⟨map_eq_nil_iff.mp kinds.symm, rest⟩

/-- A taken slot blocks everyone. -/
theorem blocked_of_active (occupied : state.active ≠ []) : state.Blocked waiting := by
  right
  rw [← Bool.not_eq_true, canAdmitLocked_eq_true_iff]
  exact fun admitted => occupied admitted.1

/-- A guard more blocks no less. -/
theorem blocked_of_interactive {entry : InteractiveWork} (blocked : state.Blocked waiting) :
    { state with interactive := state.interactive ++ [entry] }.Blocked waiting := by
  rcases blocked with paused | refused
  · exact .inl paused
  · right
    rw [← Bool.not_eq_true, canAdmitLocked_eq_true_iff] at refused ⊢
    rintro ⟨free, first, unguarded⟩
    exact refused ⟨free, first, fun background other member =>
      unguarded background other (mem_append_left [entry] member)⟩

theorem grants_eq_true_iff {now : Nat} : state.grants now waiting = true ↔
      (∀ deadline, state.rateLimit waiting.kind = some deadline -> deadline ≤ now) ∧ ¬state.Blocked waiting := by
  unfold grants Blocked
  cases state.rateLimit waiting.kind with
  | none => simp
  | some deadline => simp [and_comm, and_left_comm]

end SchedulerState

namespace World

/-! ## Invariants -/

/-- A task that sleeps without a notification on its way is blocked, or waits for its interval. -/
def Watched (world : World) (work : WaitingWork) : WaitPhase -> Prop
  | .ready => True
  | .armed epoch => epoch ≤ world.epoch
  | .parked epoch waitUntil => epoch ≤ world.epoch ∧
      (epoch = world.epoch -> world.owedNotifications = 0 ->
        world.shared.Blocked work ∨ ∃ deadline, waitUntil = some deadline ∧
          world.shared.rateLimit work.kind = some deadline)

structure Sound (world : World) : Prop where
  oneSlot : world.shared.active.length ≤ 1
  interactive : ∀ entry ∈ world.shared.interactive, entry.kind.isInteractive = true
  tasks : ∀ (id : Nat) (task : AcquireTask), world.tasks[id]? = some task ->
    task.work.id = id ∧ task.work ∈ world.shared.waiting
  waiting : ∀ work ∈ world.shared.waiting, ∃ phase, world.tasks[work.id]? = some ⟨work, phase⟩
  issued : ∀ work, work ∈ world.calling ∨ work ∈ world.shared.waiting -> work.id ∈ world.issuedIds
  distinct : ∀ work ∈ world.calling, ∀ other, other ∈ world.calling ∨ other ∈ world.shared.waiting ->
    other.id = work.id -> other = work ∧ other ∉ world.shared.waiting
  watched : ∀ (id : Nat) (task : AcquireTask), world.tasks[id]? = some task -> world.Watched task.work task.phase

theorem sound_initial : Sound {} := by
  refine ⟨Nat.zero_le 1, ?_, ?_, ?_, ?_, ?_, ?_⟩ <;> simp

theorem step_of_enabled {world : World} {action : Action} (enabled : world.enabled action = true) :
    world.step action = world.act action := if_pos enabled

theorem step_of_disabled {world : World} {action : Action} (disabled : world.enabled action ≠ true) :
    world.step action = world := if_neg disabled

/-! ## What a step does to the sleeping tasks -/

section Watched

variable {world world' : World} {work : WaitingWork} {phase : WaitPhase}

/-- A notification that is owed will wake every task that sleeps now. -/
theorem Watched.of_owed (watched : world.Watched work phase) (epoch : world'.epoch = world.epoch)
    (owed : world'.owedNotifications ≠ 0) : world'.Watched work phase := by
  cases phase with
  | ready => trivial
  | armed => exact watched.trans epoch.ge
  | parked => exact ⟨watched.1.trans epoch.ge, fun _ none => absurd none owed⟩

/-- Without a notification nobody is let in, so a task that sleeps may sleep on. -/
theorem Watched.of_tighter (watched : world.Watched work phase) (epoch : world'.epoch = world.epoch)
    (owed : world'.owedNotifications = world.owedNotifications)
    (tighter : world.shared.Blocked work -> world'.shared.Blocked work)
    (limits : world'.shared.rateLimit work.kind = world.shared.rateLimit work.kind) :
    world'.Watched work phase := by
  cases phase with
  | ready => trivial
  | armed => exact watched.trans epoch.ge
  | parked armed waitUntil =>
    refine ⟨watched.1.trans epoch.ge, ?_⟩
    intro current none
    rw [epoch] at current
    rw [owed] at none
    rcases watched.2 current none with blocked | ⟨deadline, sleeping, limited⟩
    · exact .inl (tighter blocked)
    · exact .inr ⟨deadline, sleeping, limits.trans limited⟩

end Watched

/-! ## One lemma for each action -/

section

variable {world : World} (sound : world.Sound)
include sound

theorem Sound.acquire {id seq : Nat} {kind : AccountWorkKind}
    {accountTabId : Option String} (enabled : world.enabled (.acquire id seq kind accountTabId) = true) :
    (world.act (.acquire id seq kind accountTabId)).Sound := by
  have fresh : id ∉ world.issuedIds := (of_decide_eq_true enabled).1
  refine ⟨sound.oneSlot, sound.interactive, sound.tasks, sound.waiting, ?_, ?_, sound.watched⟩
  · rintro work (calling | waiting)
    · rcases mem_append.mp calling with known | new
      · exact mem_cons_of_mem id (sound.issued work (.inl known))
      · rw [mem_singleton.mp new]
        exact mem_cons_self
    · exact mem_cons_of_mem id (sound.issued work (.inr waiting))
  · intro work calling other known same
    have issued : ∀ work, work ∈ world.calling ∨ work ∈ world.shared.waiting -> work.id ≠ id :=
      fun work known equal => fresh (equal ▸ sound.issued work known)
    rcases mem_append.mp calling with old | new
    · rcases known with called | waits
      · rcases mem_append.mp called with old' | new'
        · exact sound.distinct work old other (.inl old') same
        · rw [mem_singleton.mp new'] at same
          exact absurd same.symm (issued work (.inl old))
      · exact sound.distinct work old other (.inr waits) same
    · rw [mem_singleton.mp new] at same ⊢
      rcases known with called | waits
      · rcases mem_append.mp called with old' | new'
        · exact absurd same (issued other (.inl old'))
        · refine ⟨mem_singleton.mp new', fun waits => ?_⟩
          exact issued other (.inr waits) same
      · exact absurd same (issued other (.inr waits))

variable (id : Nat)

/-- A step after which one waiter is gone. -/
theorem Sound.without {world' : World} (oneSlot : world'.shared.active.length ≤ 1)
    (interactive : world'.shared.interactive = world.shared.interactive)
    (waiting : world'.shared.waiting = world.shared.waiting.filter (fun waiting => waiting.id ≠ id))
    (calling : world'.calling = world.calling) (tasks : world'.tasks = world.tasks.erase id)
    (issued : world'.issuedIds = world.issuedIds)
    (watched : ∀ (other : Nat) (task : AcquireTask), world.tasks[other]? = some task ->
      world'.Watched task.work task.phase) : world'.Sound := by
  have kept : ∀ (other : Nat) (task : AcquireTask), world'.tasks[other]? = some task ->
      id ≠ other ∧ world.tasks[other]? = some task := by
    intro other task found
    rw [tasks] at found
    exact getElem?_erase_cases found
  refine ⟨oneSlot, interactive ▸ sound.interactive, ?_, ?_, ?_, ?_, ?_⟩
  · intro other task found
    rcases kept other task found with ⟨different, before⟩
    rcases sound.tasks other task before with ⟨named, waits⟩
    refine ⟨named, ?_⟩
    rw [waiting, mem_filter]
    exact ⟨waits, by simpa [named] using Ne.symm different⟩
  · intro work waits
    rw [waiting] at waits
    rcases mem_filter.mp waits with ⟨waited, different⟩
    rw [tasks, getElem?_erase_of_ne (fun same => of_decide_eq_true different same.symm)]
    exact sound.waiting work waited
  · rw [calling, waiting, issued]
    exact fun work known => sound.issued work (known.imp_right mem_of_mem_filter)
  · rw [calling, waiting]
    intro work called other known same
    rcases sound.distinct work called other (known.imp_right mem_of_mem_filter) same with ⟨equal, absent⟩
    exact ⟨equal, fun waits => absent (mem_of_mem_filter waits)⟩
  · intro other task found
    exact watched other task (kept other task found).2

theorem Sound.dropAcquire : (world.act (.dropAcquire id)).Sound :=
  sound.without id sound.oneSlot rfl rfl rfl rfl rfl
    (fun other task found => (sound.watched other task found).of_owed rfl (Nat.succ_ne_zero _))

/-- A step that writes neither the queue nor the tasks. -/
theorem Sound.of_frame {world' : World} (oneSlot : world'.shared.active.length ≤ 1)
    (interactive : ∀ entry ∈ world'.shared.interactive, entry.kind.isInteractive = true)
    (waiting : world'.shared.waiting = world.shared.waiting) (calling : world'.calling = world.calling)
    (tasks : world'.tasks = world.tasks) (issued : world.issuedIds ⊆ world'.issuedIds)
    (watched : ∀ (id : Nat) (task : AcquireTask), world.tasks[id]? = some task ->
      world'.Watched task.work task.phase) : world'.Sound := by
  refine ⟨oneSlot, interactive, ?_, ?_, ?_, ?_, ?_⟩
  · rw [tasks, waiting]
    exact sound.tasks
  · rw [tasks, waiting]
    exact sound.waiting
  · rw [calling, waiting]
    exact fun work known => issued (sound.issued work known)
  · rw [calling, waiting]
    exact sound.distinct
  · rw [tasks]
    exact watched

theorem Sound.thenNotify {shared : SchedulerState} (oneSlot : shared.active.length ≤ 1)
    (interactive : ∀ entry ∈ shared.interactive, entry.kind.isInteractive = true)
    (waiting : shared.waiting = world.shared.waiting) : (world.thenNotify shared).Sound :=
  sound.of_frame oneSlot interactive waiting rfl rfl (Subset.refl _)
    (fun id task found => (sound.watched id task found).of_owed rfl (Nat.succ_ne_zero _))

theorem Sound.dropPermit : (world.act (.dropPermit id)).Sound := by
  have fewer : (world.shared.active.filter (fun active => active.id ≠ id)).length ≤ 1 :=
    (length_filter_le _ _).trans sound.oneSlot
  dsimp only [act]
  split
  all_goals
    refine sound.thenNotify ?_ ?_ ?_
    · simpa using fewer
    · simpa using sound.interactive
    · simp

theorem Sound.beginInteractive {id : Nat} {kind : AccountWorkKind}
    {accountTabId : Option String} (enabled : world.enabled (.beginInteractive id kind accountTabId) = true) :
    (world.act (.beginInteractive id kind accountTabId)).Sound := by
  have isInteractive : kind.isInteractive = true := (of_decide_eq_true enabled).2
  refine sound.of_frame ?_ ?_ ?_ rfl rfl (subset_cons_self _ _) ?_
  · simpa [act] using sound.oneSlot
  · intro entry listed
    simp only [act, interactive_preemptLocked, mem_append, mem_singleton] at listed
    rcases listed with known | rfl
    · exact sound.interactive entry known
    · exact isInteractive
  · simp [act]
  · intro other task found
    refine (sound.watched other task found).of_tighter rfl rfl ?_ ?_
    · exact fun blocked => blocked_preemptLocked (blocked_of_interactive blocked)
    · exact rateLimit_preemptLocked _ _

theorem Sound.dropInteractive : (world.act (.dropInteractive id)).Sound :=
  sound.thenNotify sound.oneSlot (fun entry listed => sound.interactive entry (mem_of_mem_filter listed)) rfl

theorem Sound.setSelectedAccount (accountTabId : Option String) :
    (world.act (.setSelectedAccount accountTabId)).Sound := by
  refine sound.thenNotify ?_ ?_ ?_
  · simpa using sound.oneSlot
  · simpa using sound.interactive
  · simp

theorem Sound.setSearchCrawlerSpeed (speed : SearchCrawlerSpeed) :
    (world.act (.setSearchCrawlerSpeed speed)).Sound := by
  dsimp only [act]
  split
  · exact sound
  · exact sound.thenNotify sound.oneSlot sound.interactive rfl

theorem Sound.notify : (world.act .notify).Sound := by
  refine sound.of_frame sound.oneSlot sound.interactive rfl rfl rfl (Subset.refl _) ?_
  rintro id ⟨work, phase⟩ found
  have watched := sound.watched id _ found
  cases phase with
  | ready => trivial
  | armed => exact Nat.le_succ_of_le watched
  | parked epoch waitUntil =>
    refine ⟨Nat.le_succ_of_le watched.1, ?_⟩
    rintro rfl
    exact absurd watched.1 (Nat.not_succ_le_self _)

theorem Sound.tick (elapsed : Nat) : (world.act (.tick elapsed)).Sound :=
  sound.of_frame sound.oneSlot sound.interactive rfl rfl rfl (Subset.refl _)
    (fun id task found => (sound.watched id task found).of_tighter rfl rfl (fun blocked => blocked) rfl)

/-- Two waiters, or a caller and a waiter, with one number are the same. -/
theorem Sound.eq_of_id {work other : WaitingWork} (known : work ∈ world.calling ∨ work ∈ world.shared.waiting)
    (waits : other ∈ world.shared.waiting) (same : other.id = work.id) : other = work := by
  rcases known with called | waits'
  · exact (sound.distinct work called other (.inr waits) same).1
  · obtain ⟨phase, found⟩ := sound.waiting work waits'
    obtain ⟨phase', found'⟩ := sound.waiting other waits
    rw [same, found] at found'
    cases found'
    rfl

/-- A step after which a caller or a waiter stands in the queue with its task in some phase. -/
theorem Sound.placed {world' : World} {work : WaitingWork} {phase : WaitPhase}
    (known : work ∈ world.calling ∨ work ∈ world.shared.waiting) (oneSlot : world'.shared.active.length ≤ 1)
    (interactive : world'.shared.interactive = world.shared.interactive)
    (waiting : ∀ other, other ∈ world'.shared.waiting ↔ other ∈ world.shared.waiting ∨ other = work)
    (calling : ∀ other, other ∈ world'.calling ↔ other ∈ world.calling ∧ other.id ≠ work.id)
    (tasks : world'.tasks = world.tasks.insert work.id ⟨work, phase⟩) (issued : world'.issuedIds = world.issuedIds)
    (watched : world'.Watched work phase) (others : ∀ (id : Nat) (task : AcquireTask),
      world.tasks[id]? = some task -> world'.Watched task.work task.phase) : world'.Sound := by
  refine ⟨oneSlot, interactive ▸ sound.interactive, ?_, ?_, ?_, ?_, ?_⟩
  · intro id task found
    rw [tasks] at found
    rw [waiting]
    rcases getElem?_insert_cases found with ⟨same, rfl⟩ | ⟨_, before⟩
    · exact ⟨same, .inr rfl⟩
    · exact (sound.tasks id task before).imp_right .inl
  · intro other waits
    rw [tasks, getElem?_insert_ite]
    rcases (waiting other).mp waits with waited | rfl
    · split
      · next same => exact ⟨phase, by rw [sound.eq_of_id known waited same.symm]⟩
      · exact sound.waiting other waited
    · exact ⟨phase, if_pos rfl⟩
  · intro other present
    rw [calling, waiting] at present
    rw [issued]
    rcases present with called | waited | rfl
    · exact sound.issued other (.inl called.1)
    · exact sound.issued other (.inr waited)
    · exact sound.issued other known
  · intro first firstCalled other present same
    obtain ⟨called, different⟩ := (calling first).mp firstCalled
    have notPlaced : other ≠ work := by
      rintro rfl
      exact different same.symm
    rw [calling, waiting, or_iff_left notPlaced] at present
    rw [waiting, or_iff_left notPlaced]
    exact sound.distinct first called other (present.imp_left And.left) same
  · intro id task found
    rw [tasks] at found
    rcases getElem?_insert_cases found with ⟨_, rfl⟩ | ⟨_, before⟩
    · exact watched
    · exact others id task before

theorem Sound.enter : (world.act (.enter id)).Sound := by
  dsimp only [act]
  cases called : world.calling.find? (fun work => work.id = id) with
  | none => exact sound
  | some work =>
    have named : work.id = id := by simpa using find?_some called
    subst named
    refine sound.placed (.inl (mem_of_find?_eq_some called)) ?_ ?_ ?_ ?_ rfl rfl trivial ?_
    · simpa [World.thenNotify, World.setPhase] using sound.oneSlot
    · simp [World.thenNotify, World.setPhase]
    · simp [World.thenNotify, World.setPhase]
    · simp
    · exact fun id task found => (sound.watched id task found).of_owed rfl (Nat.succ_ne_zero _)

/-- A task changes its phase; the shared state may be marked for preemption. -/
theorem Sound.setPhase {shared : SchedulerState} {task : AcquireTask}
    {id : Nat} {phase : WaitPhase} (found : world.tasks[id]? = some task)
    (marked : shared = world.shared ∨ shared = world.shared.preemptLocked)
    (watched : { world with shared }.Watched task.work phase) :
    ({ world with shared }.setPhase task.work phase).Sound := by
  have waits : task.work ∈ world.shared.waiting := (sound.tasks id task found).2
  have apart : ∀ other ∈ world.calling, other.id ≠ task.work.id :=
    fun other called same => (sound.distinct other called task.work (.inr waits) same.symm).2 waits
  refine sound.placed (.inr waits) ?_ ?_ ?_ ?_ rfl rfl watched ?_
  · rcases marked with rfl | rfl <;> simpa [World.setPhase] using sound.oneSlot
  · rcases marked with rfl | rfl <;> simp [World.setPhase]
  · intro other
    have present : other = task.work -> other ∈ world.shared.waiting := fun same => same ▸ waits
    rcases marked with rfl | rfl <;> simpa [World.setPhase] using present
  · exact fun other => (and_iff_left_of_imp (apart other)).symm
  · intro other task' found'
    have before := sound.watched other task' found'
    rcases marked with rfl | rfl
    · exact before
    · exact before.of_tighter rfl rfl blocked_preemptLocked (rateLimit_preemptLocked _ _)

theorem Sound.arm : (world.act (.arm id)).Sound := by
  dsimp only [act]
  cases found : world.tasks[id]? with
  | none => exact sound
  | some task => exact sound.setPhase found (.inl rfl) (le_refl world.epoch)

theorem Sound.wake : (world.act (.wake id)).Sound := by
  dsimp only [act]
  cases found : world.tasks[id]? with
  | none => exact sound
  | some task => exact sound.setPhase found (.inl rfl) trivial

/-- A waiter that is granted the slot leaves the queue. -/
theorem Sound.granted {id epoch : Nat} {work : WaitingWork}
    (found : world.tasks[id]? = some ⟨work, .armed epoch⟩) (granted : world.shared.grants world.now work = true) :
    Sound { world with shared := world.shared.admitWaiter work, tasks := world.tasks.erase id } := by
  obtain ⟨named, waits⟩ := sound.tasks id _ found
  subst named
  have free : world.shared.active = [] := by
    by_contra occupied
    exact (grants_eq_true_iff.mp granted).2 (blocked_of_active occupied)
  have taken : (world.shared.admitWaiter work).active ≠ [] := by
    simp [admitWaiter, withoutWaiter]
  refine sound.without work.id ?_ rfl rfl rfl rfl rfl ?_
  · simp [admitWaiter, withoutWaiter, free]
  · intro other task found'
    exact (sound.watched other task found').of_tighter rfl rfl
      (fun _ => blocked_of_active taken) rfl

theorem Sound.check : (world.act (.check id)).Sound := by
  dsimp only [act]
  split
  · next work epoch found =>
    split
    · next granted => exact sound.granted found granted
    next refused =>
    have armed : epoch ≤ world.epoch := sound.watched id _ found
    refine sound.setPhase found (.inr rfl) ⟨armed, ?_⟩
    intro _ _
    -- the check failed for the state or for the time
    by_cases blocked : world.shared.Blocked work
    · exact .inl (blocked_preemptLocked blocked)
    · right
      rw [grants_eq_true_iff] at refused
      push Not at refused
      have early : ¬∀ deadline, world.shared.rateLimit work.kind = some deadline -> deadline ≤ world.now :=
        fun elapsed => blocked (refused elapsed)
      push Not at early
      obtain ⟨deadline, limited, later⟩ := early
      refine ⟨deadline, ?_, ?_⟩
      · rw [limited, Option.filter_some, if_pos (decide_eq_true later)]
      · rw [rateLimit_preemptLocked]
        exact limited
  · exact sound

theorem Sound.step (action : Action) : (world.step action).Sound := by
  by_cases enabled : world.enabled action = true
  · rw [step_of_enabled enabled]
    cases action with
    | acquire => exact sound.acquire enabled
    | dropAcquire => exact sound.dropAcquire _
    | dropPermit => exact sound.dropPermit _
    | beginInteractive => exact sound.beginInteractive enabled
    | dropInteractive => exact sound.dropInteractive _
    | setSelectedAccount => exact sound.setSelectedAccount _
    | setSearchCrawlerSpeed => exact sound.setSearchCrawlerSpeed _
    | enter => exact sound.enter _
    | notify => exact sound.notify
    | arm => exact sound.arm _
    | check => exact sound.check _
    | wake => exact sound.wake _
    | tick => exact sound.tick _
  · rw [step_of_disabled enabled]
    exact sound

end

theorem sound_run (actions : List Action) : (Machine.run World.step {} actions).Sound :=
  Machine.run_invariant Sound (fun _ action sound => sound.step action) sound_initial

end World

end Koushi.Work
