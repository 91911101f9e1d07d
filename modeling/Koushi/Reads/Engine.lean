import Koushi.Library.NestedMap

namespace Koushi.Reads

open Collections

/-!
# The read-state engine

For every receipt that a room or a thread may have, the engine keeps the target that is
wanted, the operation that is running and the last failure.  Requests for a receipt attach
a waiter to the wanted target; a later request moves all waiters to its own target unless
the wanted one stands at least as far down the timeline.  An operation is fenced by two
counters, so that an answer to an operation that was superseded or retired is discarded.
-/

def READ_STATE_WAITER_LIMIT : Nat := 32

def READ_STATE_OUTBOX_ENTRY_LIMIT : Nat := 128

/-! ## Keys, targets and fences -/

inductive ReadStateKey where
  | publicUnthreaded (roomId : String)
  | threadRead (roomId rootEventId : String)
  | fullyReadAndPrivateUnthreaded (roomId : String)
deriving DecidableEq, Repr

namespace ReadStateKey

/-- Keys are ordered by kind, then by their ids. -/
def orderKey : ReadStateKey -> Nat × String × String
  | .publicUnthreaded roomId => (0, roomId, "")
  | .threadRead roomId rootEventId => (1, roomId, rootEventId)
  | .fullyReadAndPrivateUnthreaded roomId => (2, roomId, "")

theorem orderKey_injective : Function.Injective orderKey := by
  intro left right equal
  cases left <;> cases right <;> simp_all [orderKey]

end ReadStateKey

attribute [local instance] lexOrd

instance : Ord ReadStateKey := ⟨fun left right => compare left.orderKey right.orderKey⟩

instance : Std.TransOrd ReadStateKey :=
  inferInstanceAs (Std.TransCmp (compareOn ReadStateKey.orderKey))

instance : Std.LawfulEqOrd ReadStateKey where
  eq_of_compare {_ _} equal :=
    ReadStateKey.orderKey_injective (Std.LawfulEqOrd.eq_of_compare equal)

structure ReadPositionEvidence where
  generation : Nat
  rank : Nat
deriving DecidableEq, Repr

structure ReadTarget where
  eventId : String
  position : Option ReadPositionEvidence
deriving DecidableEq, Repr

def ReadTarget.new (eventId : String) : ReadTarget := ⟨eventId, none⟩

def ReadTarget.withPosition (eventId : String) (position : ReadPositionEvidence) : ReadTarget :=
  ⟨eventId, some position⟩

structure ReadWaiterId where
  value : Nat
deriving DecidableEq, Repr

structure ReadOperationFence where
  sessionGeneration : Nat
  operationGeneration : Nat
deriving DecidableEq, Repr

structure ReadOperation where
  key : ReadStateKey
  target : ReadTarget
  fence : ReadOperationFence
deriving DecidableEq, Repr

/-- Evidence is comparable within one generation only. -/
def dominates (left right : ReadTarget) : Bool :=
  match left.position, right.position with
  | some left, some right => left.generation = right.generation && right.rank ≤ left.rank
  | _, _ => false

def sameTargetOrDominated (confirmed candidate : ReadTarget) : Bool :=
  confirmed.eventId = candidate.eventId || dominates confirmed candidate

def evidenceIsOlder (candidate known : ReadPositionEvidence) : Bool :=
  candidate.generation < known.generation ||
    (candidate.generation = known.generation && candidate.rank < known.rank)

def preferredSameEventPosition (left right : Option ReadPositionEvidence) : Option ReadPositionEvidence :=
  match left, right with
  | none, none => none
  | some position, none => some position
  | none, some position => some position
  | some left, some right => some (if evidenceIsOlder left right then right else left)

/-! ## Results -/

inductive ReadAdmissionRejection where
  | staleSession
  | candidateCapacity
  | waiterCapacity
  | duplicateWaiter
deriving DecidableEq, Repr

inductive ReadAdmissionStatus where
  | accepted
  | coalesced
  | rejected (reason : ReadAdmissionRejection)
deriving DecidableEq, Repr

structure ReadAdmissionResult where
  status : ReadAdmissionStatus
  supersededOperation : Option ReadOperationFence
  candidateCount : Nat
  waiterCount : Nat
deriving DecidableEq, Repr

inductive ReadWakeResult where
  | start (operation : ReadOperation)
  | alreadyActive
  | noDesired
  | operationGenerationExhausted
deriving DecidableEq, Repr

inductive ReadStateFailureKind where
  | timeout
  | transport
  | rateLimited
  | authentication
  | server
  | capacity
  | sdk
deriving DecidableEq, Repr

structure ReadNetworkFailure where
  kind : ReadStateFailureKind
  retryAfter : Option Nat := none
deriving DecidableEq, Repr

inductive ReadNetworkOutcome where
  | succeeded
  | failed (failure : ReadNetworkFailure)
  | timedOut
deriving DecidableEq, Repr

inductive ReadCompletionDisposition where
  | succeeded
  | failed
  | timedOut
  | cancelled
  | staleDiscarded
deriving DecidableEq, Repr

inductive ReadWaiterTerminal where
  | converged
  | failed
  | timedOut
deriving DecidableEq, Repr

structure ReadWaiterSettlement where
  waiter : ReadWaiterId
  terminal : ReadWaiterTerminal
deriving DecidableEq, Repr

structure ReadCompletionResult where
  disposition : ReadCompletionDisposition
  settlements : List ReadWaiterSettlement
  remainingCandidateCount : Nat
  remainingWaiterCount : Nat
  failureKind : Option ReadStateFailureKind
deriving DecidableEq, Repr

structure ReadAuthoritativeConfirmation where
  settlements : List ReadWaiterSettlement
  supersededOperation : Option ReadOperationFence
deriving DecidableEq, Repr

/-! ## The state of one key -/

structure ReadCandidate where
  target : ReadTarget
  waiters : List ReadWaiterId
deriving DecidableEq, Repr

structure ActiveReadOperation where
  eventId : String
  fence : ReadOperationFence
deriving DecidableEq, Repr

/-- The last failure belongs to the current desired target only. -/
structure ReadKeyState where
  desired : Option ReadCandidate := none
  active : Option ActiveReadOperation := none
  lastFailure : Option ReadNetworkFailure := none
deriving DecidableEq, Repr

def waiterCount (state : ReadKeyState) : Nat :=
  match state.desired with
  | none => 0
  | some desired => desired.waiters.length

def admissionResult (status : ReadAdmissionStatus) (superseded : Option ReadOperationFence)
    (state : ReadKeyState) : ReadAdmissionResult :=
  { status
    supersededOperation := superseded
    candidateCount := state.desired.isSome.toNat
    waiterCount := waiterCount state }

def completionResult (disposition : ReadCompletionDisposition) (settlements : List ReadWaiterSettlement)
    (state : ReadKeyState) (failureKind : Option ReadStateFailureKind) : ReadCompletionResult :=
  { disposition
    settlements
    remainingCandidateCount := state.desired.isSome.toNat
    remainingWaiterCount := waiterCount state
    failureKind }

def settleAll (terminal : ReadWaiterTerminal) (waiters : List ReadWaiterId) : List ReadWaiterSettlement :=
  waiters.map (fun waiter => ⟨waiter, terminal⟩)

namespace ReadKeyState

/-- Want `target`, with the arriving waiters.  A target for the same event keeps the better
evidence, a target that the desired one dominates is dropped, and any other replaces it. -/
def desire (state : ReadKeyState) (target : ReadTarget) (arriving : List ReadWaiterId) :
    ReadKeyState × ReadAdmissionStatus × Option ReadOperationFence :=
  match state.desired with
  | none => ({ state with desired := some ⟨target, arriving⟩ }, .accepted, none)
  | some desired =>
    if desired.target.eventId = target.eventId then
      let position := preferredSameEventPosition desired.target.position target.position
      ({ state with desired := some ⟨{ desired.target with position }, desired.waiters ++ arriving⟩ },
        .coalesced, none)
    else if dominates desired.target target then
      ({ state with desired := some ⟨desired.target, desired.waiters ++ arriving⟩ }, .coalesced, none)
    else
      let superseded := state.active.bind fun active =>
        if active.eventId = desired.target.eventId then some active.fence else none
      ({ state with desired := some ⟨target, desired.waiters ++ arriving⟩, lastFailure := none },
        .accepted, superseded)

/-- A failed attempt gives the waiters back and keeps the target for a retry. -/
def failWith (state : ReadKeyState) (desired : ReadCandidate) (failure : ReadNetworkFailure) : ReadKeyState :=
  { state with desired := some { desired with waiters := [] }, lastFailure := some failure }

/-- Apply the outcome of the operation that ran for the desired target. -/
def conclude (state : ReadKeyState) (desired : ReadCandidate) :
    ReadNetworkOutcome -> ReadKeyState × ReadCompletionResult
  | .succeeded =>
    let next := { state with desired := none, lastFailure := none }
    (next, completionResult .succeeded (settleAll .converged desired.waiters) next none)
  | .failed failure =>
    let next := state.failWith desired failure
    (next, completionResult .failed (settleAll .failed desired.waiters) next (some failure.kind))
  | .timedOut =>
    let next := state.failWith desired { kind := .timeout }
    (next, completionResult .timedOut (settleAll .timedOut desired.waiters) next (some .timeout))

end ReadKeyState

/-! ## The engine -/

structure ReadStateEngine where
  sessionGeneration : Nat
  operationGeneration : Nat
  keys : OrdMap ReadStateKey ReadKeyState

structure ReadPersistenceEntry where
  key : ReadStateKey
  eventId : String
deriving DecidableEq, Repr

structure ReadPersistenceSnapshot where
  entries : List ReadPersistenceEntry
deriving DecidableEq, Repr

/-- The state that a stored entry is read back as: its evidence is not stored. -/
def ReadPersistenceEntry.restored (entry : ReadPersistenceEntry) : ReadKeyState :=
  { desired := some ⟨ReadTarget.new entry.eventId, []⟩ }

def restoreEntries (keys : OrdMap ReadStateKey ReadKeyState) :
    List ReadPersistenceEntry -> Option (OrdMap ReadStateKey ReadKeyState)
  | [] => some keys
  | entry :: rest =>
    if entry.eventId = "" ∨ entry.key ∈ keys then none
    else restoreEntries (keys.insert entry.key entry.restored) rest

namespace ReadStateEngine

def new (sessionGeneration : Nat) : ReadStateEngine := ⟨sessionGeneration, 0, ∅⟩

def restore (sessionGeneration : Nat) (snapshot : ReadPersistenceSnapshot) : Option ReadStateEngine :=
  if READ_STATE_OUTBOX_ENTRY_LIMIT < snapshot.entries.length then none
  else (restoreEntries ∅ snapshot.entries).map fun keys => ⟨sessionGeneration, 0, keys⟩

variable (engine : ReadStateEngine)

def persistenceSnapshot : ReadPersistenceSnapshot :=
  let entries := engine.keys.toList.filterMap fun entry =>
    entry.2.desired.map fun desired => ⟨entry.1, desired.target.eventId⟩
  ⟨entries.take READ_STATE_OUTBOX_ENTRY_LIMIT⟩

variable (key : ReadStateKey)

def store (state : ReadKeyState) : ReadStateEngine :=
  { engine with keys := engine.keys.insert key state }

def remove : ReadStateEngine :=
  { engine with keys := engine.keys.erase key }

/-- A key whose operation has ended is kept while a target is desired. -/
def storeWhileDesired (state : ReadKeyState) : ReadStateEngine :=
  if state.desired.isNone then engine.remove key else engine.store key state

def counts : Nat × Nat :=
  match engine.keys[key]? with
  | none => (0, 0)
  | some state => (state.desired.isSome.toNat, waiterCount state)

def rejectedAdmission (rejection : ReadAdmissionRejection) : ReadAdmissionResult :=
  ⟨.rejected rejection, none, (engine.counts key).1, (engine.counts key).2⟩

def staleCompletion : ReadCompletionResult :=
  ⟨.staleDiscarded, [], (engine.counts key).1, (engine.counts key).2, none⟩

/-- A new key is taken in only while there is room for one. -/
def full : Prop :=
  key ∉ engine.keys ∧ READ_STATE_OUTBOX_ENTRY_LIMIT ≤ engine.keys.size

instance (engine : ReadStateEngine) (key : ReadStateKey) : Decidable (engine.full key) :=
  inferInstanceAs (Decidable (_ ∧ _))

def admitRead (sessionGeneration : Nat) (key : ReadStateKey)
    (target : ReadTarget) (waiter : ReadWaiterId) : ReadStateEngine × ReadAdmissionResult :=
  if sessionGeneration ≠ engine.sessionGeneration then
    (engine, engine.rejectedAdmission key .staleSession)
  else if engine.full key then
    (engine, engine.rejectedAdmission key .candidateCapacity)
  else
    -- the entry of the key is made before the waiter is looked at
    let state := engine.keys.getD key {}
    if state.desired.any (fun candidate => candidate.waiters.contains waiter) then
      (engine.store key state, admissionResult (.rejected .duplicateWaiter) none state)
    else if READ_STATE_WAITER_LIMIT ≤ waiterCount state then
      (engine.store key state, admissionResult (.rejected .waiterCapacity) none state)
    else
      let (next, status, superseded) := state.desire target [waiter]
      (engine.store key next, admissionResult status superseded next)

def admitBackground (sessionGeneration : Nat) (key : ReadStateKey)
    (target : ReadTarget) : ReadStateEngine × ReadAdmissionResult :=
  if sessionGeneration ≠ engine.sessionGeneration then
    (engine, engine.rejectedAdmission key .staleSession)
  else if engine.full key then
    (engine, engine.rejectedAdmission key .candidateCapacity)
  else
    let (next, status, superseded) := (engine.keys.getD key {}).desire target []
    (engine.store key next, admissionResult status superseded next)

def observePosition (sessionGeneration : Nat) (key : ReadStateKey)
    (eventId : String) (evidence : ReadPositionEvidence) : ReadStateEngine :=
  if sessionGeneration ≠ engine.sessionGeneration then engine
  else
    match engine.keys[key]? with
    | none => engine
    | some state =>
      match state.desired with
      | none => engine
      | some desired =>
        if desired.target.eventId ≠ eventId then engine
        else if desired.target.position.any (evidenceIsOlder evidence) then engine
        else
          let target := { desired.target with position := some evidence }
          engine.store key { state with desired := some { desired with target } }

/-- The largest value of the 64-bit operation counter. -/
def MAX_OPERATION_GENERATION : Nat := 2 ^ 64 - 1

def wake : ReadStateEngine × ReadWakeResult :=
  match engine.keys[key]? with
  | none => (engine, .noDesired)
  | some state =>
    if state.active.isSome then (engine, .alreadyActive)
    else
      match state.desired with
      | none => (engine, .noDesired)
      | some desired =>
        if MAX_OPERATION_GENERATION < engine.operationGeneration + 1 then
          (engine, .operationGenerationExhausted)
        else
          let fence := ⟨engine.sessionGeneration, engine.operationGeneration + 1⟩
          let active := ⟨desired.target.eventId, fence⟩
          ({ engine.store key { state with active := some active } with
              operationGeneration := engine.operationGeneration + 1 },
            .start ⟨key, desired.target, fence⟩)

def complete (fence : ReadOperationFence)
    (outcome : ReadNetworkOutcome) : ReadStateEngine × ReadCompletionResult :=
  if fence.sessionGeneration ≠ engine.sessionGeneration then (engine, engine.staleCompletion key)
  else
    match engine.keys[key]? with
    | none => (engine, ⟨.staleDiscarded, [], 0, 0, none⟩)
    | some state =>
      match state.active with
      | none => (engine, completionResult .staleDiscarded [] state none)
      | some active =>
        if active.fence ≠ fence then (engine, completionResult .staleDiscarded [] state none)
        else
          let idle := { state with active := none }
          match idle.desired with
          | none =>
            (engine.storeWhileDesired key idle, completionResult .staleDiscarded [] idle none)
          | some desired =>
            if desired.target.eventId ≠ active.eventId then
              (engine.storeWhileDesired key idle, completionResult .staleDiscarded [] idle none)
            else
              let (next, result) := idle.conclude desired outcome
              (engine.storeWhileDesired key next, result)

def completeCancelled (fence : ReadOperationFence) : ReadStateEngine × ReadCompletionResult :=
  if fence.sessionGeneration ≠ engine.sessionGeneration then (engine, engine.staleCompletion key)
  else
    match engine.keys[key]? with
    | none => (engine, engine.staleCompletion key)
    | some state =>
      match state.active with
      | none => (engine, completionResult .staleDiscarded [] state none)
      | some active =>
        if active.fence ≠ fence then (engine, completionResult .staleDiscarded [] state none)
        else
          let idle := { state with active := none }
          (engine.storeWhileDesired key idle, completionResult .cancelled [] idle none)

def confirmAuthoritative (sessionGeneration : Nat) (key : ReadStateKey)
    (confirmed : ReadTarget) : ReadStateEngine × ReadAuthoritativeConfirmation :=
  if sessionGeneration ≠ engine.sessionGeneration then (engine, ⟨[], none⟩)
  else
    match engine.keys[key]? with
    | none => (engine, ⟨[], none⟩)
    | some state =>
      let unsatisfied :=
        if state.desired.isNone && state.active.isNone then (engine.remove key, ⟨[], none⟩)
        else (engine, ⟨[], none⟩)
      match state.desired with
      | none => unsatisfied
      | some desired =>
        if sameTargetOrDominated confirmed desired.target then
          let next := { state with desired := none, lastFailure := none }
          (if state.active.isNone then engine.remove key else engine.store key next,
            ⟨settleAll .converged desired.waiters, state.active.map (·.fence)⟩)
        else unsatisfied

def retireWithWaiters : ReadStateEngine × Option ReadOperationFence × List ReadWaiterId :=
  match engine.keys[key]? with
  | none => (engine, none, [])
  | some state =>
    (engine.remove key, state.active.map (·.fence),
      match state.desired with
      | none => []
      | some desired => desired.waiters)

/-- The operation that is running for a key. -/
def activeOperation : Option ReadOperationFence :=
  engine.keys[key]?.bind fun state => state.active.map (·.fence)

end ReadStateEngine

/-! ## Operations -/

inductive ReadCall where
  | admitRead (sessionGeneration : Nat) (key : ReadStateKey) (target : ReadTarget) (waiter : ReadWaiterId)
  | admitBackground (sessionGeneration : Nat) (key : ReadStateKey) (target : ReadTarget)
  | observePosition (sessionGeneration : Nat) (key : ReadStateKey) (eventId : String)
      (evidence : ReadPositionEvidence)
  | wake (key : ReadStateKey)
  | complete (key : ReadStateKey) (fence : ReadOperationFence) (outcome : ReadNetworkOutcome)
  | completeCancelled (key : ReadStateKey) (fence : ReadOperationFence)
  | confirmAuthoritative (sessionGeneration : Nat) (key : ReadStateKey) (confirmed : ReadTarget)
  | retireWithWaiters (key : ReadStateKey)
deriving DecidableEq, Repr

namespace ReadCall

def key : ReadCall -> ReadStateKey
  | .admitRead _ key _ _ => key
  | .admitBackground _ key _ => key
  | .observePosition _ key _ _ => key
  | .wake key => key
  | .complete key _ _ => key
  | .completeCancelled key _ => key
  | .confirmAuthoritative _ key _ => key
  | .retireWithWaiters key => key

/-- The target that a call puts forward for its key. -/
def target : ReadCall -> Option ReadTarget
  | .admitRead _ _ target _ => some target
  | .admitBackground _ _ target => some target
  | .observePosition _ _ eventId evidence => some (.withPosition eventId evidence)
  | .confirmAuthoritative _ _ confirmed => some confirmed
  | _ => none

end ReadCall

inductive ReadReply where
  | admission (result : ReadAdmissionResult)
  | observed
  | woken (result : ReadWakeResult)
  | completion (result : ReadCompletionResult)
  | confirmation (result : ReadAuthoritativeConfirmation)
  | retirement (active : Option ReadOperationFence) (waiters : List ReadWaiterId)
deriving DecidableEq, Repr

namespace ReadReply

def settlements : ReadReply -> List ReadWaiterSettlement
  | .completion result => result.settlements
  | .confirmation result => result.settlements
  | _ => []

/-- The waiters that a reply gives back, settled or retired. -/
def returned : ReadReply -> List ReadWaiterId
  | .retirement _ waiters => waiters
  | reply => reply.settlements.map (·.waiter)

/-- The answer to an admission that attached the waiter. -/
def attached : ReadReply -> Bool
  | .admission result => result.status = .accepted || result.status = .coalesced
  | _ => false

end ReadReply

def ReadStateEngine.call (engine : ReadStateEngine) : ReadCall -> ReadStateEngine × ReadReply
  | .admitRead session key target waiter =>
    let (next, result) := engine.admitRead session key target waiter
    (next, .admission result)
  | .admitBackground session key target =>
    let (next, result) := engine.admitBackground session key target
    (next, .admission result)
  | .observePosition session key eventId evidence =>
    (engine.observePosition session key eventId evidence, .observed)
  | .wake key =>
    let (next, result) := engine.wake key
    (next, .woken result)
  | .complete key fence outcome =>
    let (next, result) := engine.complete key fence outcome
    (next, .completion result)
  | .completeCancelled key fence =>
    let (next, result) := engine.completeCancelled key fence
    (next, .completion result)
  | .confirmAuthoritative session key confirmed =>
    let (next, result) := engine.confirmAuthoritative session key confirmed
    (next, .confirmation result)
  | .retireWithWaiters key =>
    let (next, active, waiters) := engine.retireWithWaiters key
    (next, .retirement active waiters)

end Koushi.Reads
