import Koushi.Reducer.RegistrySteps

namespace Koushi

open Collections Machine ComposerSubmissionRegistry AppEffect Nat

/-!
# Each submission is sent once and settled once

An acceptance asks for a send only if the registry does not know the id, and it
makes the id known.  A settlement is applied only to an active record; it removes
the record and leaves a tombstone, and the tombstone keeps the id from becoming
active again.  So both happen at most once as long as the registry remembers the
id: no step resets the registry, and no later settlement pushes the tombstone out
of its bounded window.

A terminal that matches no active record is refused whole.  The reducer refreshes
the assistant markers after every action, so in a reachable state there is nothing
left to refresh and the state stays as it is.
-/

/-! ## Counting -/

def AppEffect.isSendText : AppEffect -> Bool
  | .sendText _ _ _ => true
  | _ => false

variable (submissionId : SubmissionId)

/-- The sends that an acceptance of the submission asks for. -/
def sendsFor (state : AppState) (action : AppAction) : Nat :=
  if action.accepts submissionId then (reduce state action).2.countP isSendText else 0

/-- Whether a step applies a settlement of the submission. -/
def appliesSettlement (state : AppState) : AppAction -> Bool
  | .composerSubmissionSettled settled transactionId target _ =>
    settled = submissionId &&
      state.timeline.submissionRegistry.activeMatches settled transactionId target
  | _ => false

def settlementsFor (state : AppState) (action : AppAction) : Nat :=
  (appliesSettlement submissionId state action).toNat

/-- The step does not push the tombstone of the submission out of the window. -/
def keepsTombstone (state : AppState) : AppAction -> Prop
  | .composerSubmissionSettled settled _ _ _ =>
    submissionId ∈ state.timeline.submissionRegistry.settledSubmissionIds ->
      settled ∈ state.timeline.submissionRegistry.settledSubmissionIds ∨
        submissionId ∈ retainNewest (MAX_ACCEPTED_SUBMISSION_TOMBSTONES - 1)
          state.timeline.submissionRegistry.settledSubmissionIds
  | _ => True

/-- The registry remembers the submission over a step. -/
structure RemembersSubmission (submissionId : SubmissionId) (state : AppState) (action : AppAction) :
    Prop where
  sameSession : action.endsSession = false
  keepsRoom : closesActiveRoom state action = false
  inWindow : keepsTombstone submissionId state action

/-! ## What is remembered -/

variable {state : AppState} {submissionId : SubmissionId} {action : AppAction}

theorem settledSubmissionIds_rememberSettled {submissionId settled : SubmissionId}
    {transactionId : String} {target : ComposerTarget} {outcome : ComposerSubmissionTerminalOutcome}
    (inWindow : keepsTombstone submissionId state
    (.composerSubmissionSettled settled transactionId target outcome))
    (tombstone : submissionId ∈ state.timeline.submissionRegistry.settledSubmissionIds) :
    submissionId ∈ (state.timeline.submissionRegistry.rememberSettled settled).settledSubmissionIds :=
  mem_rememberBounded_of_mem tombstone (inWindow tombstone)

/-- A known submission stays known. -/
theorem step_isKnownSubmission (remembers : RemembersSubmission submissionId state action)
    (known : isKnownSubmission state submissionId = true) :
    isKnownSubmission (step state action) submissionId = true := by
  unfold isKnownSubmission at known ⊢
  simp only [Bool.or_eq_true, decide_eq_true_eq] at known ⊢
  cases step_registryChange state action with
  | kept same =>
    rw [same]
    exact known
  | accepted acceptedId transactionId target _ same =>
    rw [same, rememberAccepted]
    split
    · exact known
    · exact known.imp (List.mem_append_left _) id
  | queued queuedId same =>
    rw [same]
    exact known
  | settled settledId transactionId target outcome named _ same =>
    rw [same]
    have inWindow := remembers.inWindow
    rw [named] at inWindow
    rcases known with accepted | tombstone
    · by_cases isIt : submissionId = settledId
      · subst isIt
        exact .inr (mem_rememberBounded_self _)
      · exact .inl (List.mem_filter.mpr ⟨accepted, by simpa using isIt⟩)
    · exact .inr (settledSubmissionIds_rememberSettled inWindow tombstone)
  | closed closes _ =>
    rw [remembers.keepsRoom] at closes
    cases closes
  | ended ends =>
    rw [remembers.sameSession] at ends
    cases ends

/-- A settled submission has a tombstone and no record. -/
def IsSettled (submissionId : SubmissionId) (state : AppState) : Prop :=
  submissionId ∈ state.timeline.submissionRegistry.settledSubmissionIds ∧
    ∀ record ∈ state.timeline.submissionRegistry.activeSubmissions, record.submissionId ≠ submissionId

theorem step_isSettled
    (remembers : RemembersSubmission submissionId state action) (settled : IsSettled submissionId state) :
    IsSettled submissionId (step state action) := by
  unfold IsSettled at settled ⊢
  cases step_registryChange state action with
  | kept same =>
    rw [same]
    exact settled
  | accepted acceptedId transactionId target unknown same =>
    have other : acceptedId ≠ submissionId := by
      rintro rfl
      simp [isKnownSubmission, settled.1] at unknown
    rw [same, rememberAccepted]
    split
    · exact settled
    refine ⟨settled.1, ?_⟩
    intro record member
    rcases List.mem_append.mp member with earlier | new
    · exact settled.2 record earlier
    · rw [List.mem_singleton.mp new]
      exact other
  | queued queuedId same =>
    rw [same]
    exact settled
  | settled settledId transactionId target outcome named _ same =>
    have inWindow := remembers.inWindow
    rw [named] at inWindow
    rw [same]
    refine ⟨settledSubmissionIds_rememberSettled inWindow settled.1, ?_⟩
    intro record member
    exact settled.2 record (mem_activeSubmissions_rememberSettled.mp member).1
  | closed closes _ =>
    rw [remembers.keepsRoom] at closes
    cases closes
  | ended ends =>
    rw [remembers.sameSession] at ends
    cases ends

/-! ## Sends -/

theorem returnMainPaneToLiveForAcceptedSend_sends (roomId : String) :
    (returnMainPaneToLiveForAcceptedSend state roomId).2.countP isSendText = 0 := by
  unfold returnMainPaneToLiveForAcceptedSend
  split <;> rfl

/-- An acceptance asks for at most one send, and for none if the id is known. -/
theorem handleComposerSubmissionAccepted_sends
    (roomId transactionId body : String) (draftRevision : Nat) :
    (handleComposerSubmissionAccepted state submissionId roomId transactionId body
        draftRevision).2.countP isSendText ≤
      if !isSessionReady state || isKnownSubmission state submissionId then 0 else 1 := by
  unfold handleComposerSubmissionAccepted
  split
  · exact le_refl 0
  dsimp only
  split
  · exact zero_le 1
  split
  · rw [List.countP_append, returnMainPaneToLiveForAcceptedSend_sends]
    exact le_refl 1
  · exact zero_le 1

theorem handleThreadSubmissionAccepted_sends
    (roomId rootEventId transactionId : String) (draftRevision : Nat) :
    (handleThreadSubmissionAccepted state submissionId roomId rootEventId transactionId
        draftRevision).2.countP isSendText = 0 := by
  unfold handleThreadSubmissionAccepted
  dsimp only
  (repeat' split) <;> rfl

/-- The sends of an acceptance are those of its handler. -/
theorem sendsFor_le (submissionId : SubmissionId) (state : AppState) (action : AppAction) :
    sendsFor submissionId state action ≤
      if !isSessionReady state || isKnownSubmission state submissionId then 0 else 1 := by
  have silent : 0 ≤ if !isSessionReady state || isKnownSubmission state submissionId then 0 else 1 :=
    zero_le _
  unfold sendsFor
  split
  · next accepts =>
    cases action with
    | composerSubmissionAccepted | composerSubmissionAcceptedAtRevision =>
      cases of_decide_eq_true accepts
      exact handleComposerSubmissionAccepted_sends ..
    | threadSubmissionAccepted | threadSubmissionAcceptedAtRevision =>
      exact (handleThreadSubmissionAccepted_sends ..).trans_le silent
    | _ => cases accepts
  · exact silent

/-- An acceptance in a ready session makes the submission known. -/
theorem step_accepts_isKnown
    (accepts : action.accepts submissionId = true) (ready : isSessionReady state = true)
    (unknown : isKnownSubmission state submissionId = false) :
    isKnownSubmission (step state action) submissionId = true := by
  have registered : forall transactionId target,
      (step state action).timeline.submissionRegistry =
        (if !isSessionReady state || isKnownSubmission state submissionId then
          state.timeline.submissionRegistry
        else state.timeline.submissionRegistry.rememberAccepted submissionId transactionId target) ->
      isKnownSubmission (step state action) submissionId = true := by
    intro transactionId target same
    rw [if_neg (by simp [ready, unknown])] at same
    unfold isKnownSubmission at unknown ⊢
    simp only [Bool.or_eq_false_iff, decide_eq_false_iff_not] at unknown
    rw [same, rememberAccepted, if_neg unknown.1]
    simp
  rw [step_submissionRegistry] at registered
  cases action with
  | composerSubmissionAccepted accepted roomId transactionId body =>
    cases of_decide_eq_true accepts
    exact registered _ _ (handleComposerSubmissionAccepted_registry state _ roomId transactionId body)
  | composerSubmissionAcceptedAtRevision accepted roomId transactionId body draftRevision =>
    cases of_decide_eq_true accepts
    exact registered _ _
      (handleComposerSubmissionAccepted_registry state _ roomId transactionId body)
  | threadSubmissionAccepted accepted roomId rootEventId transactionId =>
    cases of_decide_eq_true accepts
    exact registered _ _ (handleThreadSubmissionAccepted_registry state _ roomId rootEventId transactionId)
  | threadSubmissionAcceptedAtRevision accepted roomId rootEventId transactionId draftRevision =>
    cases of_decide_eq_true accepts
    exact registered _ _
      (handleThreadSubmissionAccepted_registry state _ roomId rootEventId transactionId)
  | _ => cases accepts

/-- A submission is sent at most once in a run that remembers it. -/
theorem tally_sendsFor_le_one {actions : List AppAction}
    (guarded : EveryStep step (RemembersSubmission submissionId) state actions) :
    tally step (sendsFor submissionId) state actions ≤ 1 := by
  refine tally_le_one (fun state => isKnownSubmission state submissionId = true) ?_ ?_ ?_ guarded
  · intro state action
    refine (sendsFor_le submissionId state action).trans ?_
    split
    · exact zero_le 1
    · exact le_refl 1
  · intro state action _ sent
    have bound := sendsFor_le submissionId state action
    have accepts : action.accepts submissionId = true := by
      by_contra refused
      exact sent (if_neg refused)
    split at bound
    · exact absurd (le_zero.mp bound) sent
    next fresh =>
    simp only [Bool.or_eq_true, not_or, Bool.not_eq_true, Bool.not_eq_false'] at fresh
    exact step_accepts_isKnown accepts fresh.1 fresh.2
  · intro state action remembers known
    have bound := sendsFor_le submissionId state action
    rw [if_pos (by simp [known])] at bound
    exact ⟨le_zero.mp bound, step_isKnownSubmission remembers known⟩

/-! ## Settlements -/

theorem appliesSettlement_eq_true (applies : appliesSettlement submissionId state action = true) :
    ∃ transactionId target outcome,
      action = .composerSubmissionSettled submissionId transactionId target outcome ∧
        state.timeline.submissionRegistry.activeMatches submissionId transactionId target = true := by
  cases action with
  | composerSubmissionSettled settled transactionId target outcome =>
    simp only [appliesSettlement, Bool.and_eq_true, decide_eq_true_eq] at applies
    rcases applies with ⟨rfl, matched⟩
    exact ⟨transactionId, target, outcome, rfl, matched⟩
  | _ => cases applies

/-- An applied settlement settles. -/
theorem step_applies_isSettled (applies : appliesSettlement submissionId state action = true) :
    IsSettled submissionId (step state action) := by
  rcases appliesSettlement_eq_true applies with ⟨transactionId, target, outcome, rfl, matched⟩
  have settled : (step state (.composerSubmissionSettled submissionId transactionId target
      outcome)).timeline.submissionRegistry =
        state.timeline.submissionRegistry.rememberSettled submissionId := by
    rw [step_submissionRegistry, reduceAction, handleSettled_registry, if_pos matched]
  unfold IsSettled
  rw [settled]
  refine ⟨mem_rememberBounded_self _, ?_⟩
  intro record member
  exact (mem_activeSubmissions_rememberSettled.mp member).2

theorem appliesSettlement_of_isSettled (settled : IsSettled submissionId state) :
    appliesSettlement submissionId state action = false := by
  cases applies : appliesSettlement submissionId state action with
  | false => rfl
  | true =>
    rcases appliesSettlement_eq_true applies with ⟨transactionId, target, outcome, _, matched⟩
    exact absurd rfl (settled.2 _ (activeMatches_iff.mp matched))

/-- A submission is settled at most once in a run that remembers it. -/
theorem tally_settlementsFor_le_one {actions : List AppAction}
    (guarded : EveryStep step (RemembersSubmission submissionId) state actions) :
    tally step (settlementsFor submissionId) state actions ≤ 1 := by
  refine tally_le_one (IsSettled submissionId) ?_ ?_ ?_ guarded
  · intro state action
    exact Bool.toNat_le _
  · intro state action _ applied
    refine step_applies_isSettled ?_
    by_contra refused
    rw [Bool.not_eq_true] at refused
    exact applied (by rw [settlementsFor, refused]; rfl)
  · intro state action remembers settled
    refine ⟨?_, step_isSettled remembers settled⟩
    rw [settlementsFor, appliesSettlement_of_isSettled settled]
    rfl

/-! ## Terminals that match nothing -/

theorem syncAssistantDraftMarkers_idem :
    syncAssistantDraftMarkers (syncAssistantDraftMarkers state) = syncAssistantDraftMarkers state := by
  cases opened : state.thread <;>
    simp [syncAssistantDraftMarkers, setTimelineComposer, setThreadComposer, opened]

/-- In a reachable state the markers are up to date. -/
theorem run_syncAssistantDraftMarkers (actions : List AppAction) :
    syncAssistantDraftMarkers (run step AppState.default actions) =
      run step AppState.default actions := by
  refine run_invariant (fun state => syncAssistantDraftMarkers state = state) ?_ ?_
  · intro state action _
    rw [step_eq, syncAssistantDraftMarkers_idem]
  · rfl

/-- A terminal that matches no active record is refused. -/
theorem reduceAction_unmatched {transactionId : String} {target : ComposerTarget}
    (unmatched : state.timeline.submissionRegistry.activeMatches submissionId transactionId target = false) :
    (forall draftRevision, reduceAction state
        (.composerSubmissionQueued submissionId transactionId target draftRevision) = (state, [])) ∧
      forall outcome, reduceAction state
        (.composerSubmissionSettled submissionId transactionId target outcome) = (state, []) := by
  refine ⟨fun draftRevision => ?_, fun outcome => ?_⟩
  · rw [reduceAction, handleQueued, if_pos (by simp [unmatched])]
  · rw [reduceAction, handleSettled, if_pos (by simp [unmatched])]

/-! ## Exactly once -/

/-- A restored session with one open room. -/
def lobbyStart : List AppAction :=
  coldStart ⟨"https://example.org", "@ada:example.org", "DEVICE"⟩ ++
    [.roomListUpdated [] [⟨"!lobby", false, [], []⟩]]

/-- An acceptance and a settlement, each of them repeated. -/
def repeatedSubmission : List AppAction :=
  [.composerSubmissionAccepted "s1" "!lobby" "t1" "hello",
    .composerSubmissionAccepted "s1" "!lobby" "t1" "hello",
    .composerSubmissionSettled "s1" "t1" (.main "!lobby") .succeeded,
    .composerSubmissionSettled "s1" "t1" (.main "!lobby") .succeeded]

end Koushi
