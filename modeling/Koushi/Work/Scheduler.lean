import Koushi.Library.NestedMap
import Koushi.Library.Run

namespace Koushi.Work

open Collections

/-!
# The account work scheduler

Work that competes for the homeserver waits for one slot that all accounts share.  Every
waiter decides for itself, under the lock, whether it is the one to be admitted, and sleeps
until it is notified or its background interval is over when it is not.  The model takes
one step for each critical section, for each `notify_waiters` call that follows one, and for
each thing a waiting task does between two sections, so that a run is an interleaving of all
callers and tasks.
-/

/-! ## Policies -/

inductive AccountWorkKind where
  | messageSend
  | userRoomOperation
  | visibleGapRepair
  | explicitPagination
  | offscreenGapRepair
  | searchCrawl
  | mediaPrefetch
  | maintenance
deriving DecidableEq, Repr

inductive AccountWorkClass where
  | interactive
  | foreground
  | background
deriving DecidableEq, Repr

structure AccountWorkPolicy where
  priority : Nat
  workClass : AccountWorkClass
  preemptible : Bool
  maxConcurrency : Nat
  batchLimit : Nat
deriving DecidableEq, Repr

def SHARED_WORK_CONCURRENCY : Nat := 1

namespace AccountWorkKind

def policy : AccountWorkKind -> AccountWorkPolicy
  | .messageSend => ⟨0, .interactive, false, 1, 0⟩
  | .userRoomOperation => ⟨16, .interactive, false, 1, 0⟩
  | .visibleGapRepair => ⟨32, .foreground, true, 1, 64⟩
  | .explicitPagination => ⟨40, .foreground, true, 1, 64⟩
  | .offscreenGapRepair => ⟨96, .background, true, 1, 64⟩
  | .mediaPrefetch => ⟨112, .background, false, 1, 1⟩
  | .searchCrawl => ⟨128, .background, true, 1, 64⟩
  | .maintenance => ⟨192, .background, true, 1, 32⟩

def isInteractive (kind : AccountWorkKind) : Bool := kind.policy.workClass = .interactive

def usesSharedBackgroundBudget (kind : AccountWorkKind) : Bool :=
  kind = .searchCrawl || kind = .mediaPrefetch

end AccountWorkKind

inductive SearchCrawlerSpeed where
  | standard
  | fast
  | slow
  | paused
deriving DecidableEq, Repr

/-- The pause after a background permit, in milliseconds. -/
def backgroundInterval : SearchCrawlerSpeed -> Nat
  | .fast => 0
  | .standard => 100
  | .slow => 500
  | .paused => 0

/-- Ranks are compared by class, then by account, then by priority; a lower one is better. -/
abbrev WorkRank := Nat ×ₗ Nat ×ₗ Nat

def workRank (selectedAccountTabId : Option String) (kind : AccountWorkKind)
    (accountTabId : Option String) : WorkRank :=
  let policy := kind.policy
  let workClass := match policy.workClass with
    | .interactive => 0
    | .foreground => 1
    | .background => 2
  let accountPriority :=
    if policy.workClass = .background ∧ selectedAccountTabId.isSome ∧ accountTabId ≠ selectedAccountTabId
    then 1 else 0
  toLex (workClass, toLex (accountPriority, policy.priority))

/-! ## The shared state -/

structure ActiveWork where
  id : Nat
  kind : AccountWorkKind
  accountTabId : Option String
  priority : Nat
  preemptible : Bool
  preempted : Bool
deriving DecidableEq, Repr

structure WaitingWork where
  id : Nat
  kind : AccountWorkKind
  accountTabId : Option String
  seq : Nat
deriving DecidableEq, Repr

structure InteractiveWork where
  id : Nat
  kind : AccountWorkKind
  accountTabId : Option String
deriving DecidableEq, Repr

structure SchedulerState where
  active : List ActiveWork := []
  waiting : List WaitingWork := []
  interactive : List InteractiveWork := []
  selectedAccountTabId : Option String := none
  searchCrawlerSpeed : SearchCrawlerSpeed := .standard
  lastBackgroundCompleted : Option Nat := none
deriving DecidableEq, Repr

namespace SchedulerState

variable (state : SchedulerState)

def rankOf (kind : AccountWorkKind) (accountTabId : Option String) : WorkRank :=
  workRank state.selectedAccountTabId kind accountTabId

def pausedBudgetWaiter (kind : AccountWorkKind) : Bool :=
  kind.usesSharedBackgroundBudget && state.searchCrawlerSpeed = .paused

/-- `other` stands before `waiting` in the queue. -/
def outranks (other waiting : WaitingWork) : Bool :=
  let otherRank := state.rankOf other.kind other.accountTabId
  let waitingRank := state.rankOf waiting.kind waiting.accountTabId
  otherRank < waitingRank || (otherRank = waitingRank && other.seq < waiting.seq)

def canAdmitLocked (kind : AccountWorkKind) (policy : AccountWorkPolicy)
    (waiting : WaitingWork) : Bool :=
  if SHARED_WORK_CONCURRENCY ≤ state.active.length then false
  else if policy.maxConcurrency ≤ state.active.countP (fun active => active.kind = kind) then false
  else if state.waiting.any (fun other =>
      !(other.id = waiting.id || state.pausedBudgetWaiter other.kind) && state.outranks other waiting) then false
  else if policy.workClass = .background ∧ state.interactive.any (fun entry =>
      state.rankOf entry.kind entry.accountTabId < state.rankOf waiting.kind waiting.accountTabId) then false
  else true

def bestPendingRank : Option WorkRank :=
  let waiting := state.waiting.filter (fun waiting => !state.pausedBudgetWaiter waiting.kind)
  let ranks := waiting.map (fun waiting => state.rankOf waiting.kind waiting.accountTabId) ++
    state.interactive.map (fun entry => state.rankOf entry.kind entry.accountTabId)
  ranks.min?

/-- Ask active preemptible work to yield for the best pending rank. -/
def preemptLocked : SchedulerState :=
  match state.bestPendingRank with
  | none => state
  | some best =>
    { state with
      active := state.active.map fun active =>
        if active.preemptible ∧ best < state.rankOf active.kind active.accountTabId ∧ active.preempted = false
        then { active with preempted := true } else active }

/-- When the background interval of a kind is over, if the kind has to wait for it. -/
def rateLimit (kind : AccountWorkKind) : Option Nat :=
  if kind.usesSharedBackgroundBudget then
    state.lastBackgroundCompleted.map (· + backgroundInterval state.searchCrawlerSpeed)
  else none

def withoutWaiter (id : Nat) : SchedulerState :=
  { state with waiting := state.waiting.filter (fun waiting => waiting.id ≠ id) }

/-- The slot goes to a waiter, which leaves the queue. -/
def admitWaiter (waiting : WaitingWork) : SchedulerState :=
  let policy := waiting.kind.policy
  let active := ⟨waiting.id, waiting.kind, waiting.accountTabId, policy.priority, policy.preemptible, false⟩
  { state with active := state.active ++ [active] }.withoutWaiter waiting.id

/-- A waiter that looks at the state at this instant takes the slot. -/
def grants (now : Nat) (waiting : WaitingWork) : Bool :=
  !state.pausedBudgetWaiter waiting.kind && (state.rateLimit waiting.kind).all (· ≤ now) &&
    state.canAdmitLocked waiting.kind waiting.kind.policy waiting

end SchedulerState

/-! ## Callers and waiting tasks -/

/-- Where the loop of an `acquire` call is: before it registers for a notification, between
that and the critical section, or asleep.  A registration remembers how many notifications
had been sent. -/
inductive WaitPhase where
  | ready
  | armed (epoch : Nat)
  | parked (epoch : Nat) (waitUntil : Option Nat)
deriving DecidableEq, Repr

structure AcquireTask where
  work : WaitingWork
  phase : WaitPhase
deriving DecidableEq, Repr

/-- The scheduler with its clock, its callers and its waiting tasks.  `epoch` counts the
`notify_waiters` calls, `owedNotifications` those whose critical section is over but that were
not made yet, and `calling` holds the `acquire` calls that have their numbers and did not
enter the queue yet. -/
structure World where
  shared : SchedulerState := {}
  now : Nat := 0
  epoch : Nat := 0
  owedNotifications : Nat := 0
  calling : List WaitingWork := []
  tasks : OrdMap Nat AcquireTask := ∅
  issuedIds : List Nat := []
  issuedSeqs : List Nat := []

inductive Action where
  /- Calls of the scheduler. -/
  | acquire (id seq : Nat) (kind : AccountWorkKind) (accountTabId : Option String)
  | dropAcquire (id : Nat)
  | dropPermit (id : Nat)
  | beginInteractive (id : Nat) (kind : AccountWorkKind) (accountTabId : Option String)
  | dropInteractive (id : Nat)
  | setSelectedAccount (accountTabId : Option String)
  | setSearchCrawlerSpeed (speed : SearchCrawlerSpeed)
  /- What goes on by itself. -/
  | enter (id : Nat)
  | notify
  | arm (id : Nat)
  | check (id : Nat)
  | wake (id : Nat)
  | tick (elapsed : Nat)
deriving DecidableEq, Repr

/-- Actions that are not calls of the scheduler. -/
def Action.isInternal : Action -> Bool
  | .enter _ | .notify | .arm _ | .check _ | .wake _ | .tick _ => true
  | _ => false

namespace World

variable (world : World)

/-- The registration is notified, or the sleep is over. -/
def awake (epoch : Nat) (waitUntil : Option Nat) : Bool :=
  epoch < world.epoch || waitUntil.any (· ≤ world.now)

/-- An action may be taken.  The two counters hand out every number once; in which order two
callers get theirs is left open, so a call may have any number that was not handed out. -/
def enabled : Action -> Bool
  | .acquire id seq kind _ => id ∉ world.issuedIds ∧ seq ∉ world.issuedSeqs ∧ kind.isInteractive = false
  | .dropAcquire id =>
    match world.tasks[id]? with
    | some ⟨_, .parked _ _⟩ => true
    | _ => false
  | .dropPermit id => world.shared.active.any (fun active => active.id = id)
  | .beginInteractive id kind _ => id ∉ world.issuedIds ∧ kind.isInteractive = true
  | .dropInteractive id => world.shared.interactive.any (fun entry => entry.id = id)
  | .setSelectedAccount _ => true
  | .setSearchCrawlerSpeed _ => true
  | .enter id => world.calling.any (fun work => work.id = id)
  | .notify => 0 < world.owedNotifications
  | .arm id =>
    match world.tasks[id]? with
    | some ⟨_, .ready⟩ => true
    | _ => false
  | .check id =>
    match world.tasks[id]? with
    | some ⟨_, .armed _⟩ => true
    | _ => false
  | .wake id =>
    match world.tasks[id]? with
    | some ⟨_, .parked epoch waitUntil⟩ => world.awake epoch waitUntil
    | _ => false
  | .tick _ => true

def setPhase (work : WaitingWork) (phase : WaitPhase) : World :=
  { world with tasks := world.tasks.insert work.id ⟨work, phase⟩ }

/-- End a critical section that is followed by a notification. -/
def thenNotify (shared : SchedulerState) : World :=
  { world with shared, owedNotifications := world.owedNotifications + 1 }

/-- What an enabled action does. -/
def act : Action -> World
  | .acquire id seq kind accountTabId =>
    { world with
      calling := world.calling ++ [⟨id, kind, accountTabId, seq⟩]
      issuedIds := id :: world.issuedIds
      issuedSeqs := seq :: world.issuedSeqs }
  | .dropAcquire id =>
    { world.thenNotify (world.shared.withoutWaiter id) with tasks := world.tasks.erase id }
  | .dropPermit id =>
    let released := { world.shared with active := world.shared.active.filter (fun active => active.id ≠ id) }
    let budget := world.shared.active.any fun active =>
      active.id = id && active.kind.usesSharedBackgroundBudget
    let timed := if budget then { released with lastBackgroundCompleted := some world.now } else released
    world.thenNotify timed.preemptLocked
  | .beginInteractive id kind accountTabId =>
    let entry : InteractiveWork := ⟨id, kind, accountTabId⟩
    let entered := { world.shared with interactive := world.shared.interactive ++ [entry] }
    { world with shared := entered.preemptLocked, issuedIds := id :: world.issuedIds }
  | .dropInteractive id =>
    world.thenNotify { world.shared with
      interactive := world.shared.interactive.filter (fun entry => entry.id ≠ id) }
  | .setSelectedAccount accountTabId =>
    world.thenNotify { world.shared with selectedAccountTabId := accountTabId }.preemptLocked
  | .setSearchCrawlerSpeed speed =>
    if world.shared.searchCrawlerSpeed = speed then world
    else world.thenNotify { world.shared with searchCrawlerSpeed := speed }
  | .enter id =>
    match world.calling.find? (fun work => work.id = id) with
    | none => world
    | some work =>
      let entered := { world.shared with waiting := world.shared.waiting ++ [work] }
      { (world.thenNotify entered.preemptLocked).setPhase work .ready with
        calling := world.calling.filter (fun work => work.id ≠ id) }
  | .notify =>
    { world with epoch := world.epoch + 1, owedNotifications := world.owedNotifications - 1 }
  | .arm id =>
    match world.tasks[id]? with
    | none => world
    | some task => world.setPhase task.work (.armed world.epoch)
  | .check id =>
    match world.tasks[id]? with
    | some ⟨work, .armed epoch⟩ =>
      if world.shared.grants world.now work then
        { world with shared := world.shared.admitWaiter work, tasks := world.tasks.erase id }
      else
        { world with shared := world.shared.preemptLocked }.setPhase work
          (.parked epoch ((world.shared.rateLimit work.kind).filter (fun deadline => world.now < deadline)))
    | _ => world
  | .wake id =>
    match world.tasks[id]? with
    | none => world
    | some task => world.setPhase task.work .ready
  | .tick elapsed => { world with now := world.now + elapsed }

/-- An action that is not enabled does nothing. -/
def step (action : Action) : World :=
  if world.enabled action then world.act action else world

end World

end Koushi.Work
