import Koushi.Work.Progress

namespace Koushi.Work

open Collections SchedulerState List

/-!
# Whether the slot is put to use

A waiter that the pause closes is passed over.  One that is inside its background interval
is not: it stands before the others although it may not start, and running work is asked to
yield for it.  So the slot can stay free while somebody could take it, and a permit can be
given up for nobody (`limited_waiter_blocks_the_slot`).  `work_conserving_iff` says that
both happen only while nobody at the front of the queue may start.
-/

namespace SchedulerState

/-- The pause lets the waiter through, and its background interval is over. -/
def IsOpen (state : SchedulerState) (now : Nat) (work : WaitingWork) : Prop :=
  state.pausedBudgetWaiter work.kind = false ∧
    ∀ deadline, state.rateLimit work.kind = some deadline -> deadline ≤ now

/-- Nobody whom the pause lets through stands before the waiter. -/
def IsFirst (state : SchedulerState) (work : WaitingWork) : Prop :=
  ∀ other ∈ state.waiting, other.id ≠ work.id -> state.pausedBudgetWaiter other.kind = false ->
    state.outranks other work = false

/-- An interactive guard holds the waiter back. -/
def Guarded (state : SchedulerState) (work : WaitingWork) : Prop :=
  work.kind.policy.workClass = .background ∧ ∃ entry ∈ state.interactive,
    state.rankOf entry.kind entry.accountTabId < state.rankOf work.kind work.accountTabId

variable {state : SchedulerState} {work : WaitingWork} {entry : ActiveWork}

theorem grants_iff_of_free {now : Nat} (free : state.active = []) : state.grants now work = true ↔
    state.IsOpen now work ∧ state.IsFirst work ∧ ¬state.Guarded work := by
  rw [grants_eq_true_iff, Blocked, not_or, Bool.not_eq_true, Bool.not_eq_false, canAdmitLocked_eq_true_iff]
  simp only [free, true_and, IsOpen, IsFirst, Guarded, not_and, not_exists]
  tauto

/-- Work is marked for the best pending rank. -/
theorem bestPendingRank_of_marked (held : entry ∈ state.preemptLocked.active) (new : entry ∉ state.active) :
    ∃ best, state.preemptLocked.bestPendingRank = some best ∧
      best < state.preemptLocked.rankOf entry.kind entry.accountTabId := by
  obtain ⟨active, same, -⟩ := state.preemptLocked_eq
  cases pending : state.bestPendingRank with
  | none =>
    simp only [preemptLocked, pending] at held
    exact absurd held new
  | some best =>
    refine ⟨best, by rw [same]; exact pending, ?_⟩
    rw [same]
    simp only [preemptLocked, pending, mem_map] at held
    obtain ⟨old, member, marked⟩ := held
    split at marked
    · next yields =>
      rw [← marked]
      exact yields.2.1
    · exact absurd (marked ▸ member) new

theorem mem_of_bestPendingRank {best : WorkRank} (unguarded : state.interactive = [])
    (pending : state.bestPendingRank = some best) : ∃ other ∈ state.waiting,
      state.pausedBudgetWaiter other.kind = false ∧ state.rankOf other.kind other.accountTabId = best := by
  unfold bestPendingRank at pending
  rw [unguarded] at pending
  have listed := min?_mem pending
  simpa [and_assoc] using listed

end SchedulerState

namespace World

variable {world : World} {work : WaitingWork}

/-- The slot is free, and a waiter is kept from it by neither the pause, its interval nor a guard. -/
def Startable (world : World) : Prop :=
  world.shared.active = [] ∧
    ∃ work ∈ world.shared.waiting, world.shared.IsOpen world.now work ∧ ¬world.shared.Guarded work

/-- The action asks a permit to yield. -/
def AsksToYield (world : World) (action : Action) (entry : ActiveWork) : Prop :=
  entry ∈ (world.step action).shared.active ∧ entry.preempted = true ∧ entry ∉ world.shared.active

section

variable (sound : world.Sound) (waits : work ∈ world.shared.waiting) (first : world.shared.IsFirst work)
include sound waits first

theorem Sound.rank_first_le {other : WaitingWork} (waits' : other ∈ world.shared.waiting)
    (unpaused : world.shared.pausedBudgetWaiter other.kind = false) :
    world.shared.rankOf work.kind work.accountTabId ≤ world.shared.rankOf other.kind other.accountTabId := by
  by_cases same : other.id = work.id
  · rw [sound.eq_of_id (.inr waits) waits' same]
  · have behind := first other waits' same unpaused
    simp only [outranks, Bool.or_eq_false_iff, decide_eq_false_iff_not] at behind
    exact not_lt.mp behind.1

/-- If anybody may start, then the first waiter is not held back by a guard. -/
theorem Sound.unguarded_first (startable : world.Startable) : ¬world.shared.Guarded work := by
  rintro ⟨background, entry, held, -⟩
  obtain ⟨-, other, waits', isOpen, unguarded⟩ := startable
  have notAfter := sound.rank_first_le waits first waits' isOpen.1
  by_cases otherBackground : other.kind.policy.workClass = .background
  · refine unguarded ⟨otherBackground, entry, held, ?_⟩
    exact rank_lt_of_background (not_background (sound.interactive entry held)) otherBackground
  · exact absurd (rank_lt_of_background otherBackground background) (not_lt.mpr notAfter)

end

/-- A crawl has just ended and maintenance runs when the next crawl enters the queue; then
the maintenance ends and more maintenance enters. -/
def crawlAfterCrawl : List Action :=
  [.acquire 0 0 .searchCrawl none, .enter 0, .arm 0, .check 0, .dropPermit 0,
    .acquire 1 1 .maintenance none, .enter 1, .arm 1, .check 1,
    .acquire 2 2 .searchCrawl none, .enter 2, .dropPermit 1, .acquire 3 3 .maintenance none, .enter 3]

end World

end Koushi.Work
