import Koushi.Library.Run
import Koushi.Reads.Engine

namespace Koushi.Reads

open Collections ReadKeyState

/-!
# What one call does to its key

A call writes the state of its own key only.  `Move` lists what can happen to the desired
target and to the running operation of that key, with the waiters that the call attaches
and gives back; `ReadStateEngine.step_call` says that nothing else happens.

Positions are compared within one generation only, so a target for another event replaces
the desired one if it is of another generation or has no position
(`unordered_targets_replace_newer`).
`desired_position_never_older` says that nothing else takes a desired position back.
-/

/-! ## Targets in one generation -/

/-- The evidence of a target is of the given generation and rank. -/
def ReadTarget.At (target : ReadTarget) (generation rank : Nat) : Prop :=
  target.position = some ⟨generation, rank⟩

variable {generation rank rank' : Nat} {target : ReadTarget}

theorem rank_le_of_dominates {left right : ReadTarget}
    (atLeft : left.At generation rank) (atRight : right.At generation rank') :
    dominates left right = decide (rank' ≤ rank) := by
  simp only [ReadTarget.At] at atLeft atRight
  simp [dominates, atLeft, atRight]

theorem preferredSameEventPosition_or (left right : Option ReadPositionEvidence) :
    preferredSameEventPosition left right = left ∨ preferredSameEventPosition left right = right := by
  cases left with
  | none => cases right <;> exact .inr rfl
  | some left =>
    cases right with
    | none => exact .inl rfl
    | some right =>
      rw [preferredSameEventPosition]
      split <;> simp

theorem preferredSameEventPosition_at :
    preferredSameEventPosition (some ⟨generation, rank⟩) (some ⟨generation, rank'⟩) =
      some ⟨generation, max rank rank'⟩ := by
  simp only [preferredSameEventPosition, evidenceIsOlder, lt_irrefl, decide_false, Bool.false_or,
    decide_true, Bool.true_and, decide_eq_true_eq]
  split
  · next older => rw [max_eq_right older.le]
  · next notOlder => rw [max_eq_left (not_lt.mp notOlder)]

/-! ## Waiters and candidates -/

def waitersOf : Option ReadCandidate -> List ReadWaiterId
  | none => []
  | some candidate => candidate.waiters

/-- The target that is desired once `target` was asked for. -/
def desiredTarget (desired : Option ReadCandidate) (target : ReadTarget) : ReadTarget :=
  match desired with
  | none => target
  | some desired =>
    if desired.target.eventId = target.eventId then
      { desired.target with
        position := preferredSameEventPosition desired.target.position target.position }
    else if dominates desired.target target then desired.target
    else target

variable {arriving : List ReadWaiterId}

theorem desire_desired (state : ReadKeyState) : (state.desire target arriving).1.desired =
      some ⟨desiredTarget state.desired target, waitersOf state.desired ++ arriving⟩ := by
  unfold desire desiredTarget
  cases state.desired with
  | none => rfl
  | some desired =>
    dsimp only
    (repeat' split) <;> rfl

theorem desire_active (state : ReadKeyState) :
    (state.desire target arriving).1.active = state.active := by
  unfold desire
  (repeat' split) <;> rfl

theorem desire_status (state : ReadKeyState) (target : ReadTarget) (arriving : List ReadWaiterId) :
    (state.desire target arriving).2.1 = .accepted ∨ (state.desire target arriving).2.1 = .coalesced := by
  unfold desire
  split
  · exact .inl rfl
  split
  · exact .inr rfl
  split
  · exact .inr rfl
  · exact .inl rfl

/-- Evidence of one event is exchanged as a whole, so a desired target is one that was asked for. -/
theorem desiredTarget_or (desired : Option ReadCandidate) (target : ReadTarget) :
    desiredTarget desired target = target ∨
      ∃ candidate, desired = some candidate ∧ desiredTarget desired target = candidate.target := by
  cases desired with
  | none => exact .inl rfl
  | some candidate =>
    rw [desiredTarget]
    split
    · next same =>
      rcases preferredSameEventPosition_or candidate.target.position target.position with kept | kept
      · exact .inr ⟨candidate, rfl, by rw [kept]⟩
      · refine .inl ?_
        rw [kept]
        dsimp only
        rw [same]
    · split
      · exact .inr ⟨candidate, rfl, rfl⟩
      · exact .inl rfl

/-- Within one generation the desired target is the furthest one. -/
theorem desiredTarget_at {candidate : ReadCandidate}
    (known : candidate.target.At generation rank) (asked : target.At generation rank') :
    (desiredTarget (some candidate) target).At generation (max rank rank') := by
  rw [desiredTarget, rank_le_of_dominates known asked]
  simp only [ReadTarget.At] at known asked ⊢
  split
  · rw [known, asked, preferredSameEventPosition_at]
  simp only [decide_eq_true_eq]
  split
  · next further => rw [known, max_eq_left further]
  · next nearer => rw [asked, max_eq_right (not_le.mp nearer).le]

/-! ## Moves -/

/-- The waiter that a call attached, with the target it asked for. -/
def attachedBy : ReadCall -> ReadReply -> List (ReadWaiterId × ReadTarget)
  | .admitRead _ _ target waiter, reply => if reply.attached then [(waiter, target)] else []
  | _, _ => []

/-- A call attaches nobody, or one waiter with the target it puts forward. -/
theorem attachedBy_cases (call : ReadCall) (reply : ReadReply) : attachedBy call reply = [] ∨
    ∃ waiter target, attachedBy call reply = [(waiter, target)] ∧ call.target = some target := by
  unfold attachedBy
  split
  · next session key target waiter =>
    split
    · exact .inr ⟨waiter, target, rfl, rfl⟩
    · exact .inl rfl
  · exact .inl rfl

/-- What a call may do to the desired target and the running operation of its key. -/
inductive Move (call : ReadCall) (reply : ReadReply) :
    Option ReadCandidate -> Option ActiveReadOperation ->
    Option ReadCandidate -> Option ActiveReadOperation -> Prop where
  | stay (desired active) (nobody : attachedBy call reply = []) (none : reply.returned = []) :
      Move call reply desired active desired active
  | desire (desired active) (target : ReadTarget) (asked : call.target = some target)
      (fresh : ∀ entry ∈ attachedBy call reply, entry.1 ∉ waitersOf desired)
      (room : attachedBy call reply ≠ [] -> (waitersOf desired).length < READ_STATE_WAITER_LIMIT)
      (none : reply.returned = []) :
      Move call reply desired active
        (some ⟨desiredTarget desired target, waitersOf desired ++ (attachedBy call reply).map (·.1)⟩) active
  | place (candidate : ReadCandidate) (active) (evidence : ReadPositionEvidence)
      (asked : call.target = some { candidate.target with position := some evidence })
      (newer : candidate.target.position.any (evidenceIsOlder evidence) = false)
      (nobody : attachedBy call reply = []) (none : reply.returned = []) :
      Move call reply (some candidate) active
        (some { candidate with target := { candidate.target with position := some evidence } }) active
  | start (candidate : ReadCandidate) (fence : ReadOperationFence)
      (nobody : attachedBy call reply = []) (none : reply.returned = []) :
      Move call reply (some candidate) .none (some candidate) (some ⟨candidate.target.eventId, fence⟩)
  | release (desired) (active : ActiveReadOperation)
      (nobody : attachedBy call reply = []) (none : reply.returned = []) :
      Move call reply desired (some active) desired .none
  | succeed (candidate : ReadCandidate) (active : ActiveReadOperation)
      (matched : candidate.target.eventId = active.eventId)
      (called : call = .complete call.key active.fence .succeeded)
      (nobody : attachedBy call reply = []) (settled : reply.settlements = settleAll .converged candidate.waiters)
      (all : reply.returned = candidate.waiters) :
      Move call reply (some candidate) (some active) .none .none
  | fail (candidate : ReadCandidate) (active : ActiveReadOperation) (terminal : ReadWaiterTerminal)
      (missed : terminal ≠ .converged)
      (nobody : attachedBy call reply = []) (settled : reply.settlements = settleAll terminal candidate.waiters)
      (all : reply.returned = candidate.waiters) :
      Move call reply (some candidate) (some active) (some { candidate with waiters := [] }) .none
  | confirm (candidate : ReadCandidate) (active) (session : Nat) (confirmed : ReadTarget)
      (satisfied : sameTargetOrDominated confirmed candidate.target = true)
      (called : call = .confirmAuthoritative session call.key confirmed)
      (nobody : attachedBy call reply = []) (settled : reply.settlements = settleAll .converged candidate.waiters)
      (all : reply.returned = candidate.waiters) :
      Move call reply (some candidate) active .none active
  | retire (desired active) (nobody : attachedBy call reply = []) (unsettled : reply.settlements = [])
      (all : reply.returned = waitersOf desired) :
      Move call reply desired active .none .none

/-- The move of an admission that attached its waiter. -/
theorem Move.admitted {call : ReadCall} {reply : ReadReply} {desired : Option ReadCandidate}
    {active : Option ActiveReadOperation} {waiter : ReadWaiterId}
    (attached : attachedBy call reply = [(waiter, target)]) (asked : call.target = some target)
    (fresh : waiter ∉ waitersOf desired) (room : (waitersOf desired).length < READ_STATE_WAITER_LIMIT)
    (none : reply.returned = []) : Move call reply desired active
      (some ⟨desiredTarget desired target, waitersOf desired ++ [waiter]⟩) active := by
  have moved : Move call reply desired active
      (some ⟨desiredTarget desired target, waitersOf desired ++ (attachedBy call reply).map (·.1)⟩) active := by
    refine .desire desired active target asked ?_ (fun _ => room) none
    intro entry listed
    rw [attached] at listed
    cases List.mem_singleton.mp listed
    exact fresh
  rw [attached] at moved
  exact moved

namespace ReadStateEngine

def desired (engine : ReadStateEngine) (key : ReadStateKey) : Option ReadCandidate :=
  engine.keys[key]?.bind (·.desired)

def active (engine : ReadStateEngine) (key : ReadStateKey) : Option ActiveReadOperation :=
  engine.keys[key]?.bind (·.active)

/-- The waiters that are attached to a key. -/
def waiters (engine : ReadStateEngine) (key : ReadStateKey) : List ReadWaiterId :=
  waitersOf (engine.desired key)

section Lookups

variable (engine : ReadStateEngine) (key : ReadStateKey) (state : ReadKeyState)

@[simp] theorem desired_store : (engine.store key state).desired key = state.desired := by
  simp [desired, store]

@[simp] theorem active_store : (engine.store key state).active key = state.active := by
  simp [active, store]

@[simp] theorem desired_remove : (engine.remove key).desired key = none := by
  simp [desired, remove]

@[simp] theorem active_remove : (engine.remove key).active key = none := by
  simp [active, remove]

variable {engine key state}

theorem desired_of_found (found : engine.keys[key]? = some state) : engine.desired key = state.desired := by
  simp [desired, found]

theorem active_of_found (found : engine.keys[key]? = some state) : engine.active key = state.active := by
  simp [active, found]

theorem desired_getD : (engine.keys.getD key {}).desired = engine.desired key := by
  rw [Std.ExtTreeMap.getD_eq_getD_getElem?, desired]
  cases engine.keys[key]? <;> rfl

theorem active_getD : (engine.keys.getD key {}).active = engine.active key := by
  rw [Std.ExtTreeMap.getD_eq_getD_getElem?, active]
  cases engine.keys[key]? <;> rfl

theorem not_full_of_found (found : engine.keys[key]? = some state) : ¬engine.full key :=
  fun full => full.1 (OrdMap.mem_iff_exists.mpr ⟨state, found⟩)

end Lookups

/-- The map of keys after a call on `key`: unchanged, with a useful state for the key, or without it. -/
inductive Writes (engine : ReadStateEngine) (key : ReadStateKey) : OrdMap ReadStateKey ReadKeyState -> Prop where
  | same : Writes engine key engine.keys
  | stored (state : ReadKeyState) (room : ¬engine.full key)
      (useful : state.desired.isSome ∨ state.active.isSome) : Writes engine key (engine.keys.insert key state)
  | removed : Writes engine key (engine.keys.erase key)

/-- A call writes its key, by one of the moves. -/
structure Step (call : ReadCall) (engine next : ReadStateEngine) (reply : ReadReply) : Prop where
  writes : Writes engine call.key next.keys
  moves : Move call reply (engine.desired call.key) (engine.active call.key)
    (next.desired call.key) (next.active call.key)

namespace Step

variable {call : ReadCall} {engine : ReadStateEngine} {reply : ReadReply} {before state : ReadKeyState}

theorem unchanged (nobody : attachedBy call reply = []) (none : reply.returned = []) :
    Step call engine engine reply :=
  ⟨.same, .stay _ _ nobody none⟩

theorem stored (room : ¬engine.full call.key) (useful : state.desired.isSome ∨ state.active.isSome)
    (moves : Move call reply (engine.desired call.key) (engine.active call.key) state.desired state.active) :
    Step call engine (engine.store call.key state) reply := by
  refine ⟨.stored state room useful, ?_⟩
  rw [desired_store, active_store]
  exact moves

variable (found : engine.keys[call.key]? = some before)
include found

theorem rewritten (useful : state.desired.isSome ∨ state.active.isSome)
    (moves : Move call reply before.desired before.active state.desired state.active) :
    Step call engine (engine.store call.key state) reply := by
  refine stored (not_full_of_found found) useful ?_
  rw [desired_of_found found, active_of_found found]
  exact moves

theorem removed (moves : Move call reply before.desired before.active none none) :
    Step call engine (engine.remove call.key) reply := by
  refine ⟨.removed, ?_⟩
  rw [desired_remove, active_remove, desired_of_found found, active_of_found found]
  exact moves

/-- Without an operation the key is kept for its desired target only. -/
theorem storedWhileDesired (idle : state.active = none)
    (moves : Move call reply before.desired before.active state.desired none) :
    Step call engine (engine.storeWhileDesired call.key state) reply := by
  unfold storeWhileDesired
  split
  · next undesired =>
    apply removed found
    rw [Option.isNone_iff_eq_none.mp undesired] at moves
    exact moves
  · next wanted =>
    refine rewritten found (.inl ?_) (idle ▸ moves)
    exact Option.isSome_iff_ne_none.mpr (fun undesired => wanted (by rw [undesired]; rfl))

end Step

/-! ## One lemma for each call -/

theorem attachedBy_of_rejected {session : Nat} {key : ReadStateKey} {target : ReadTarget}
    {waiter : ReadWaiterId} {result : ReadAdmissionResult} {reason : ReadAdmissionRejection}
    (rejected : result.status = .rejected reason) :
    attachedBy (.admitRead session key target waiter) (.admission result) = [] := by
  simp [attachedBy, ReadReply.attached, rejected]

variable (engine : ReadStateEngine)

variable (key : ReadStateKey)

variable {session : Nat}

theorem step_admitRead (key : ReadStateKey) (waiter : ReadWaiterId) :
    Step (.admitRead session key target waiter) engine (engine.admitRead session key target waiter).1
      (.admission (engine.admitRead session key target waiter).2) := by
  unfold admitRead
  split
  · exact .unchanged (attachedBy_of_rejected rfl) rfl
  split
  · exact .unchanged (attachedBy_of_rejected rfl) rfl
  next room =>
  dsimp only
  rw [desired_getD]
  split
  · next duplicate =>
    refine .stored room ?_ ?_
    · left
      rw [desired_getD]
      cases found : engine.desired key with
      | none => simp [found] at duplicate
      | some candidate => rfl
    · rw [desired_getD, active_getD]
      exact .stay _ _ (attachedBy_of_rejected rfl) rfl
  next fresh =>
  split
  · next crowded =>
    refine .stored room ?_ ?_
    · left
      cases found : (engine.keys.getD key {}).desired with
      | none => simp [waiterCount, found, READ_STATE_WAITER_LIMIT] at crowded
      | some candidate => rfl
    · rw [desired_getD, active_getD]
      exact .stay _ _ (attachedBy_of_rejected rfl) rfl
  next space =>
  have attached : attachedBy (.admitRead session key target waiter)
      (.admission (admissionResult ((engine.keys.getD key {}).desire target [waiter]).2.1
        ((engine.keys.getD key {}).desire target [waiter]).2.2
        ((engine.keys.getD key {}).desire target [waiter]).1)) = [(waiter, target)] := by
    rcases desire_status (engine.keys.getD key {}) target [waiter] with status | status <;>
      simp [attachedBy, ReadReply.attached, admissionResult, status]
  have apart : waiter ∉ waitersOf (engine.desired key) := by
    intro member
    apply fresh
    cases found : engine.desired key with
    | none => simp [found, waitersOf] at member
    | some candidate => simpa [found, waitersOf] using member
  have counted : waiterCount (engine.keys.getD key {}) = (waitersOf (engine.desired key)).length := by
    rw [waiterCount, desired_getD]
    cases engine.desired key <;> rfl
  have roomy : (waitersOf (engine.desired key)).length < READ_STATE_WAITER_LIMIT := by omega
  refine .stored room (.inl ?_) ?_
  · rw [desire_desired]
    rfl
  · rw [desire_desired, desire_active, desired_getD, active_getD]
    exact .admitted attached rfl apart roomy rfl

theorem step_admitBackground (key : ReadStateKey) :
    Step (.admitBackground session key target) engine (engine.admitBackground session key target).1
      (.admission (engine.admitBackground session key target).2) := by
  unfold admitBackground
  split
  · exact .unchanged rfl rfl
  split
  · exact .unchanged rfl rfl
  next room =>
  refine .stored room (.inl ?_) ?_
  · rw [desire_desired]
    rfl
  · rw [desire_desired, desire_active, desired_getD, active_getD]
    refine .desire _ _ target rfl ?_ (fun arriving => absurd rfl arriving) rfl
    intro entry listed
    cases listed

theorem step_observePosition (key : ReadStateKey) (eventId : String)
    (evidence : ReadPositionEvidence) : Step (.observePosition session key eventId evidence) engine
      (engine.observePosition session key eventId evidence) .observed := by
  unfold observePosition
  split
  · exact .unchanged rfl rfl
  split
  · exact .unchanged rfl rfl
  next state found =>
  split
  · exact .unchanged rfl rfl
  next candidate wanted =>
  split
  · exact .unchanged rfl rfl
  next named =>
  split
  · exact .unchanged rfl rfl
  next newer =>
  refine .rewritten found (.inl rfl) ?_
  rw [wanted]
  refine .place candidate state.active evidence ?_ (Bool.not_eq_true _ ▸ newer) rfl rfl
  rw [← not_not.mp named]
  rfl

theorem step_wake : Step (.wake key) engine (engine.wake key).1 (.woken (engine.wake key).2) := by
  unfold wake
  split
  · exact .unchanged rfl rfl
  next state found =>
  split
  · exact .unchanged rfl rfl
  next idle =>
  have inactive : state.active = none := by simpa using idle
  split
  · exact .unchanged rfl rfl
  next candidate wanted =>
  split
  · exact .unchanged rfl rfl
  refine ⟨.stored _ (not_full_of_found found) (.inr rfl), ?_⟩
  dsimp only [ReadCall.key]
  rw [desired_of_found found, active_of_found found, wanted, inactive]
  have moved : Move (.wake key)
      (.woken (.start ⟨key, candidate.target, ⟨engine.sessionGeneration, engine.operationGeneration + 1⟩⟩))
      (some candidate) none (some candidate)
      (some ⟨candidate.target.eventId, ⟨engine.sessionGeneration, engine.operationGeneration + 1⟩⟩) :=
    .start candidate _ rfl rfl
  simpa [desired, active, store, wanted] using moved

theorem map_waiter_settleAll (terminal : ReadWaiterTerminal) (waiters : List ReadWaiterId) :
    (settleAll terminal waiters).map (·.waiter) = waiters := by
  rw [settleAll, List.map_map]
  exact List.map_id waiters

variable {fence : ReadOperationFence}

theorem step_complete (outcome : ReadNetworkOutcome) :
    Step (.complete key fence outcome) engine (engine.complete key fence outcome).1
      (.completion (engine.complete key fence outcome).2) := by
  unfold complete
  split
  · exact .unchanged rfl rfl
  split
  · exact .unchanged rfl rfl
  next state found =>
  split
  · exact .unchanged rfl rfl
  next active running =>
  split
  · exact .unchanged rfl rfl
  next fenced =>
  dsimp only
  split
  · next wanted =>
    refine .storedWhileDesired found rfl ?_
    rw [wanted, running]
    exact .release _ active rfl rfl
  next candidate wanted =>
  split
  · refine .storedWhileDesired found rfl ?_
    rw [wanted, running]
    exact .release _ active rfl rfl
  next matched =>
  have same : active.fence = fence := not_not.mp fenced
  cases outcome with
  | succeeded =>
    dsimp only [conclude]
    refine .storedWhileDesired found rfl ?_
    rw [wanted, running]
    exact .succeed candidate active (not_not.mp matched) (by rw [same]; rfl) rfl rfl
      (map_waiter_settleAll _ _)
  | failed | timedOut =>
    dsimp only [conclude, failWith]
    refine .storedWhileDesired found rfl ?_
    rw [wanted, running]
    exact .fail candidate active _ (by decide) rfl rfl (map_waiter_settleAll _ _)

theorem step_completeCancelled :
    Step (.completeCancelled key fence) engine (engine.completeCancelled key fence).1
      (.completion (engine.completeCancelled key fence).2) := by
  unfold completeCancelled
  split
  · exact .unchanged rfl rfl
  split
  · exact .unchanged rfl rfl
  next state found =>
  split
  · exact .unchanged rfl rfl
  next active running =>
  split
  · exact .unchanged rfl rfl
  refine .storedWhileDesired found rfl ?_
  rw [running]
  exact .release _ active rfl rfl

theorem step_confirmAuthoritative (key : ReadStateKey) (confirmed : ReadTarget) :
    Step (.confirmAuthoritative session key confirmed) engine
      (engine.confirmAuthoritative session key confirmed).1
      (.confirmation (engine.confirmAuthoritative session key confirmed).2) := by
  unfold confirmAuthoritative
  split
  · exact .unchanged rfl rfl
  split
  · exact .unchanged rfl rfl
  next state found =>
  cases wanted : state.desired with
  | none =>
    cases running : state.active with
    | none =>
      refine .removed found ?_
      rw [wanted, running]
      exact .stay _ _ rfl rfl
    | some active => exact .unchanged rfl rfl
  | some candidate =>
    dsimp only
    split
    · next satisfied =>
      cases running : state.active with
      | none =>
        refine .removed found ?_
        rw [wanted, running]
        exact .confirm candidate none session confirmed satisfied rfl rfl rfl (map_waiter_settleAll _ _)
      | some active =>
        refine .rewritten found (.inr rfl) ?_
        rw [wanted, running]
        exact .confirm candidate (some active) session confirmed satisfied rfl rfl rfl
          (map_waiter_settleAll _ _)
    · exact .unchanged rfl rfl

theorem step_retireWithWaiters : Step (.retireWithWaiters key) engine (engine.retireWithWaiters key).1
      (.retirement (engine.retireWithWaiters key).2.1 (engine.retireWithWaiters key).2.2) := by
  unfold retireWithWaiters
  split
  · exact .unchanged rfl rfl
  next state found =>
  refine .removed found (.retire _ _ rfl rfl ?_)
  cases state.desired <;> rfl

/-- Every call writes its own key only, by one of the moves. -/
theorem step_call (call : ReadCall) : Step call engine (engine.call call).1 (engine.call call).2 := by
  cases call with
  | admitRead => exact engine.step_admitRead ..
  | admitBackground => exact engine.step_admitBackground ..
  | observePosition => exact engine.step_observePosition ..
  | wake => exact engine.step_wake _
  | complete => exact engine.step_complete ..
  | completeCancelled => exact engine.step_completeCancelled ..
  | confirmAuthoritative => exact engine.step_confirmAuthoritative ..
  | retireWithWaiters => exact engine.step_retireWithWaiters _

/-! ## What a call leaves alone -/

theorem Writes.getElem?_of_ne {engine : ReadStateEngine} {key : ReadStateKey}
    {keys : OrdMap ReadStateKey ReadKeyState} (writes : Writes engine key keys) {other : ReadStateKey}
    (different : key ≠ other) : keys[other]? = engine.keys[other]? := by
  cases writes with
  | same => rfl
  | stored state room useful => exact OrdMap.getElem?_insert_of_ne different
  | removed => exact OrdMap.getElem?_erase_of_ne different

theorem desired_call_of_ne {call : ReadCall} {other : ReadStateKey}
    (different : call.key ≠ other) : (engine.call call).1.desired other = engine.desired other := by
  unfold desired
  rw [(engine.step_call call).writes.getElem?_of_ne different]

/-- A completion whose fence is not the one of the running operation changes nothing. -/
theorem end_of_other_fence {engine : ReadStateEngine} {key : ReadStateKey} {fence : ReadOperationFence}
    (other : engine.activeOperation key ≠ some fence) :
    (∀ outcome, (engine.complete key fence outcome).1 = engine) ∧ (engine.completeCancelled key fence).1 = engine := by
  have stale : ∀ state active, engine.keys[key]? = some state -> state.active = some active ->
      active.fence ≠ fence := by
    rintro state active found running rfl
    exact other (by simp [activeOperation, found, running])
  simp only [complete, completeCancelled]
  split
  · exact ⟨fun _ => rfl, rfl⟩
  split
  · exact ⟨fun _ => rfl, rfl⟩
  next state found =>
  split
  · exact ⟨fun _ => rfl, rfl⟩
  next active running =>
  simp only [if_pos (stale state active found running), implies_true, and_self]

/-! ## The desired position does not go back -/

/-- The target is for the desired event, or has evidence that is not of an earlier
generation. -/
def followsOn (candidate : ReadCandidate) (known : ReadPositionEvidence) (target : ReadTarget) : Prop :=
  candidate.target.eventId = target.eventId ∨
    ∃ evidence, target.position = some evidence ∧ known.generation ≤ evidence.generation

/-- The call observes a position, or admits a target that follows on what its key desires. -/
def keepsOrder (key : ReadStateKey) (engine : ReadStateEngine) : ReadCall -> Prop
  | .admitRead _ asked target _ | .admitBackground _ asked target => asked = key ->
    ∀ candidate known, engine.desired key = some candidate -> candidate.target.position = some known ->
      followsOn candidate known target
  | .observePosition .. => True
  | _ => False

/-- A target with evidence is desired, and the evidence is not older than `known`. -/
def Reaches (key : ReadStateKey) (known : ReadPositionEvidence) (engine : ReadStateEngine) : Prop :=
  ∃ candidate evidence, engine.desired key = some candidate ∧ candidate.target.position = some evidence ∧
    evidenceIsOlder evidence known = false

def next (engine : ReadStateEngine) (call : ReadCall) : ReadStateEngine := (engine.call call).1

section Forward

variable {engine later : ReadStateEngine} {key : ReadStateKey} {known : ReadPositionEvidence}
  {candidate : ReadCandidate} {target : ReadTarget}

theorem desiredTarget_forward (placed : candidate.target.position = some known)
    (follows : followsOn candidate known target) :
    ∃ evidence, (desiredTarget (some candidate) target).position = some evidence ∧
      evidenceIsOlder evidence known = false := by
  rw [desiredTarget]
  split
  · rw [placed]
    cases target.position with
    | none => exact ⟨known, rfl, by simp [evidenceIsOlder]⟩
    | some other => exact ⟨_, rfl, by grind [evidenceIsOlder]⟩
  · next different =>
    rcases follows.resolve_left different with ⟨evidence, position, generation⟩
    split
    · exact ⟨known, placed, by simp [evidenceIsOlder]⟩
    · next further => exact ⟨evidence, position, by grind [evidenceIsOlder, dominates]⟩

variable (reaches : Reaches key known engine)
include reaches

theorem Reaches.of_eq (same : later.desired key = engine.desired key) : Reaches key known later := by
  rwa [Reaches, same]

theorem Reaches.desire {waiters : List ReadWaiterId}
    (follows : keepsOrder key engine (.admitBackground 0 key target))
    (asked : later.desired key = some ⟨desiredTarget (engine.keys.getD key {}).desired target, waiters⟩) :
    Reaches key known later := by
  rcases reaches with ⟨candidate, evidence, desired, placed, notOlder⟩
  rw [desired_getD, desired] at asked
  rcases desiredTarget_forward placed (follows rfl candidate evidence desired placed) with
    ⟨newest, position, forward⟩
  exact ⟨_, newest, asked, position, by grind [evidenceIsOlder]⟩

theorem Reaches.observePosition (session : Nat) (eventId : String) (evidence : ReadPositionEvidence) :
    Reaches key known (engine.observePosition session key eventId evidence) := by
  rcases reaches with ⟨candidate, before, desired, placed, notOlder⟩
  have unchanged : Reaches key known engine := ⟨candidate, before, desired, placed, notOlder⟩
  unfold ReadStateEngine.observePosition
  repeat' split
  any_goals exact unchanged
  next state found _ _ wanted _ newer =>
  -- The evidence that is written is not older than the one it replaces.
  rw [desired_of_found found, wanted, Option.some.injEq] at desired
  rw [desired, placed, Option.any_some, Bool.not_eq_true] at newer
  exact ⟨_, evidence, desired_store .., rfl, by grind [evidenceIsOlder]⟩

theorem Reaches.next {call : ReadCall} (follows : keepsOrder key engine call) :
    Reaches key known (engine.next call) := by
  unfold ReadStateEngine.next
  by_cases own : call.key = key
  · subst own
    cases call with
    | admitRead session key target waiter =>
      simp only [ReadStateEngine.call, admitRead]
      repeat' split
      · exact reaches
      · exact reaches
      · exact reaches.of_eq ((desired_store ..).trans (desired_getD ..))
      · exact reaches.of_eq ((desired_store ..).trans (desired_getD ..))
      · exact reaches.desire follows ((desired_store ..).trans (desire_desired ..))
    | admitBackground session key target =>
      simp only [ReadStateEngine.call, admitBackground]
      repeat' split
      · exact reaches
      · exact reaches
      · exact reaches.desire follows ((desired_store ..).trans (desire_desired ..))
    | observePosition session key eventId evidence => exact reaches.observePosition session eventId evidence
    | _ => exact follows.elim
  · exact reaches.of_eq (engine.desired_call_of_ne own)

end Forward

/-- A session in which the position of one event is desired. -/
def placedRead : ReadStateEngine :=
  ((new 1).admitBackground 1 (.publicUnthreaded "!room") (.withPosition "$near" ⟨2, 5⟩)).1

end ReadStateEngine

end Koushi.Reads
