import Koushi.Reducer.Reduce

namespace Koushi

open Collections ComposerSubmissionRegistry

/-!
# Sends at the end of the revisions

Five actions take the draft of a composer: they advance its revision, and refuse
when the revision is at the end of its range.  The refusal has no effects, but each
of the five writes something before it asks for the next revision, and nothing takes
that back.
-/

variable (state : AppState)

/-- An action that names no draft revision takes the draft as it is. -/
def AppAction.atRevision : AppAction -> AppAction
  | .sendTextSubmitted roomId transactionId body =>
    .sendTextSubmittedAtRevision roomId transactionId body (state.composerDrafts.roomRevision roomId)
  | .threadReplySubmitted roomId rootEventId transactionId =>
    .threadReplySubmittedAtRevision roomId rootEventId transactionId
      (state.composerDrafts.threadRevision roomId rootEventId)
  | .composerSubmissionAccepted submissionId roomId transactionId body =>
    .composerSubmissionAcceptedAtRevision submissionId roomId transactionId body
      (state.composerDrafts.roomRevision roomId)
  | .scheduledSendCreated item =>
    .scheduledSendCreatedAtRevision item
      (match item.threadRootEventId with
      | some rootEventId => state.composerDrafts.threadRevision item.roomId rootEventId
      | none => state.composerDrafts.roomRevision item.roomId)
  | action => action

theorem reduceAction_atRevision (action : AppAction) :
    reduceAction state (action.atRevision state) = reduceAction state action := by
  cases action <;> rfl

/-- No revision is left above the stored one and a submitted one. -/
def ComposerDraftStore.Exhausted (store : ComposerDraftStore) (target : ComposerTarget) (revision : Nat) :
    Prop :=
  let stored := match target with
    | .main roomId => store.roomRevision roomId
    | .thread roomId rootEventId => store.threadRevision roomId rootEventId
  ComposerDraftRevision.checkedSuccessor stored revision = .error .exhausted

def ScheduledSendItem.target (item : ScheduledSendItem) : ComposerTarget :=
  match item.threadRootEventId with
  | some rootEventId => .thread item.roomId rootEventId
  | none => .main item.roomId

/-- The action passes its guards and is refused because no revision is left. -/
def RejectedAsExhausted (action : AppAction) : Prop :=
  match action.atRevision state with
  | .sendTextSubmittedAtRevision roomId _ _ revision =>
    isSessionReady state = true ∧ timelineShows state roomId = true ∧
      state.timeline.composer.pendingTransactionId = none ∧
      state.composerDrafts.Exhausted (.main roomId) revision
  | .threadReplySubmittedAtRevision roomId rootEventId _ revision =>
    isSessionReady state = true ∧
      (∃ pane, threadShowing state roomId rootEventId = some pane ∧
        pane.composer.pendingTransactionId = none) ∧
      state.composerDrafts.Exhausted (.thread roomId rootEventId) revision
  | .composerSubmissionAcceptedAtRevision submissionId roomId _ _ revision =>
    isSessionReady state = true ∧ isKnownSubmission state submissionId = false ∧
      state.composerDrafts.Exhausted (.main roomId) revision
  | .composerSubmissionQueued submissionId transactionId target revision =>
    state.timeline.submissionRegistry.activeMatches submissionId transactionId target = true ∧
      state.composerDrafts.Exhausted target revision
  | .scheduledSendCreatedAtRevision item revision =>
    isSessionReady state = true ∧ roomExists state item.roomId = true ∧
      state.composerDrafts.Exhausted item.target revision
  | _ => False

/-- What the action writes first is there already. -/
def WrittenBefore (action : AppAction) : Prop :=
  match action.atRevision state with
  | .composerSubmissionQueued submissionId _ _ _ =>
    submissionId ∈ state.timeline.submissionRegistry.queuedSubmissionIds
  | .scheduledSendCreatedAtRevision item _ => state.scheduledSends.items[item.scheduledId]? = some item
  | _ => False

/-- What the five actions write: the transactions that the open composers wait for,
the registry, and the scheduled sends. -/
def sendRecords : Option String × Option String × ComposerSubmissionRegistry × ScheduledSendStore :=
  (state.timeline.composer.pendingTransactionId,
    match state.thread with
    | .opened pane => pane.composer.pendingTransactionId
    | _ => none,
    state.timeline.submissionRegistry, state.scheduledSends)

theorem sendRecords_sync : sendRecords (syncAssistantDraftMarkers state) = sendRecords state := by
  cases opened : state.thread <;>
    simp [sendRecords, syncAssistantDraftMarkers, opened, setTimelineComposer, setThreadComposer]

theorem errors_sync : (syncAssistantDraftMarkers state).errors = state.errors := by
  cases opened : state.thread <;>
    simp [syncAssistantDraftMarkers, opened, setTimelineComposer, setThreadComposer]

/-- A refused action leaves `written` behind, and `there` says when that is nothing new. -/
structure LeavesBehind (state : AppState) (outcome : Outcome) (there : Prop) : Prop where
  silent : outcome.2 = []
  recorded : sendRecords outcome.1 = sendRecords state -> there
  unchanged : there -> outcome.1 = state

section Refusals

variable {state : AppState} {roomId rootEventId transactionId body : String} {submissionId : SubmissionId}
  {revision : Nat}

theorem advanceRoomRevision_exhausted (exhausted : state.composerDrafts.Exhausted (.main roomId) revision) :
    state.composerDrafts.advanceRoomRevision roomId revision = .error .exhausted := by
  rw [ComposerDraftStore.advanceRoomRevision, show _ = _ from exhausted]

theorem advanceThreadRevision_exhausted
    (exhausted : state.composerDrafts.Exhausted (.thread roomId rootEventId) revision) :
    state.composerDrafts.advanceThreadRevision roomId rootEventId revision = .error .exhausted := by
  rw [ComposerDraftStore.advanceThreadRevision, show _ = _ from exhausted]

variable (ready : isSessionReady state = true)

include ready in
theorem handleSendTextSubmitted_exhausted (shown : timelineShows state roomId = true)
    (idle : state.timeline.composer.pendingTransactionId = none)
    (exhausted : state.composerDrafts.Exhausted (.main roomId) revision) :
    LeavesBehind state (handleSendTextSubmitted state roomId transactionId body revision) False := by
  have refused : handleSendTextSubmitted state roomId transactionId body revision =
      (setTimelineComposer state (state.timeline.composer.beginSend transactionId), []) := by
    simp only [handleSendTextSubmitted, ready, shown, idle, setTimelineComposer,
      advanceRoomRevision_exhausted exhausted]
    rfl
  rw [refused]
  refine ⟨rfl, ?_, False.elim⟩
  intro same
  have pending : some transactionId = state.timeline.composer.pendingTransactionId :=
    congrArg Prod.fst same
  rw [idle] at pending
  cases pending

include ready in
theorem handleThreadReplySubmitted_exhausted {pane : OpenThread}
    (shown : threadShowing state roomId rootEventId = some pane)
    (idle : pane.composer.pendingTransactionId = none)
    (exhausted : state.composerDrafts.Exhausted (.thread roomId rootEventId) revision) :
    LeavesBehind state (handleThreadReplySubmitted state roomId rootEventId transactionId revision) False := by
  have refused : handleThreadReplySubmitted state roomId rootEventId transactionId revision =
      (setThreadComposer state pane (pane.composer.beginSend transactionId), []) := by
    simp only [handleThreadReplySubmitted, ready, shown, idle, advanceThreadRevision_exhausted exhausted]
    rfl
  rw [refused]
  refine ⟨rfl, ?_, False.elim⟩
  intro same
  have pending := congrArg (fun records => records.2.1) same
  have opened : state.thread = .opened pane := by
    unfold threadShowing at shown
    split at shown
    · next other isOpen =>
      split at shown
      · cases shown
        exact isOpen
      · cases shown
    · cases shown
  simp [sendRecords, setThreadComposer, opened, ComposerState.beginSend, idle] at pending

include ready in
theorem handleComposerSubmissionAccepted_exhausted (unknown : isKnownSubmission state submissionId = false)
    (exhausted : state.composerDrafts.Exhausted (.main roomId) revision) : LeavesBehind state
      (handleComposerSubmissionAccepted state submissionId roomId transactionId body revision) False := by
  have refused : handleComposerSubmissionAccepted state submissionId roomId transactionId body revision =
      (setRegistry state
        (state.timeline.submissionRegistry.rememberAccepted submissionId transactionId (.main roomId)), []) := by
    simp only [handleComposerSubmissionAccepted, ready, unknown, setRegistry]
    rw [show ComposerDraftRevision.checkedSuccessor _ _ = _ from exhausted]
    rfl
  rw [refused]
  refine ⟨rfl, ?_, False.elim⟩
  intro same
  have registry := congrArg (fun records => records.2.2.1.acceptedSubmissionIds) same
  rw [isKnownSubmission, Bool.or_eq_false_iff, decide_eq_false_iff_not] at unknown
  simp [sendRecords, setRegistry, rememberAccepted, unknown.1] at registry

theorem handleQueued_exhausted {target : ComposerTarget}
    (active : state.timeline.submissionRegistry.activeMatches submissionId transactionId target = true)
    (exhausted : state.composerDrafts.Exhausted target revision) :
    LeavesBehind state (handleQueued state submissionId transactionId target revision)
      (submissionId ∈ state.timeline.submissionRegistry.queuedSubmissionIds) := by
  have refused : handleQueued state submissionId transactionId target revision =
      (setRegistry state (state.timeline.submissionRegistry.rememberQueued submissionId), []) := by
    cases target with
    | main roomId =>
      simp only [handleQueued, active, setRegistry, advanceRoomRevision_exhausted exhausted]
      rfl
    | thread roomId rootEventId =>
      simp only [handleQueued, active, setRegistry, advanceThreadRevision_exhausted exhausted]
      rfl
  rw [refused]
  refine ⟨rfl, ?_, ?_⟩
  · intro same
    have queued : (state.timeline.submissionRegistry.rememberQueued submissionId).queuedSubmissionIds =
        state.timeline.submissionRegistry.queuedSubmissionIds :=
      congrArg (fun records => records.2.2.1.queuedSubmissionIds) same
    rw [← queued]
    exact mem_rememberBounded_self _
  · intro known
    rw [rememberQueued, rememberBoundedId,
      rememberBounded, if_pos known]
    rfl

include ready in
theorem handleScheduledSendCreatedAtRevision_exhausted {item : ScheduledSendItem}
    (joined : roomExists state item.roomId = true)
    (exhausted : state.composerDrafts.Exhausted item.target revision) :
    LeavesBehind state (handleScheduledSendCreatedAtRevision state item revision)
      (state.scheduledSends.items[item.scheduledId]? = some item) := by
  have refused : handleScheduledSendCreatedAtRevision state item revision =
      ({ state with scheduledSends := state.scheduledSends.insert item }, []) := by
    unfold ScheduledSendItem.target at exhausted
    cases isReply : item.threadRootEventId with
    | none =>
      rw [isReply] at exhausted
      simp only [handleScheduledSendCreatedAtRevision, ready, joined, isReply,
        advanceRoomRevision_exhausted exhausted]
      rfl
    | some rootEventId =>
      rw [isReply] at exhausted
      simp only [handleScheduledSendCreatedAtRevision, ready, joined, isReply,
        advanceThreadRevision_exhausted exhausted]
      rfl
  rw [refused]
  refine ⟨rfl, ?_, ?_⟩
  · intro same
    have stored : (state.scheduledSends.insert item).items = state.scheduledSends.items :=
      congrArg (fun records => records.2.2.2.items) same
    rw [← stored]
    exact Std.ExtTreeMap.getElem?_insert_self
  · intro listed
    have stored : state.scheduledSends.items.insert item.scheduledId item = state.scheduledSends.items := by
      apply Std.ExtTreeMap.ext_getElem?
      intro other
      rw [OrdMap.getElem?_insert_ite]
      split
      · next same => rw [← same, listed]
      · rfl
    rw [ScheduledSendStore.insert, stored]

end Refusals

theorem reduceAction_exhausted {state : AppState} {action : AppAction}
    (rejected : RejectedAsExhausted state action) :
    LeavesBehind state (reduceAction state action) (WrittenBefore state action) := by
  rw [← reduceAction_atRevision]
  unfold RejectedAsExhausted at rejected
  unfold WrittenBefore
  revert rejected
  cases action.atRevision state with
  | sendTextSubmittedAtRevision roomId transactionId body revision =>
    rintro ⟨ready, shown, idle, exhausted⟩
    exact handleSendTextSubmitted_exhausted ready shown idle exhausted
  | threadReplySubmittedAtRevision roomId rootEventId transactionId revision =>
    rintro ⟨ready, ⟨pane, shown, idle⟩, exhausted⟩
    exact handleThreadReplySubmitted_exhausted ready shown idle exhausted
  | composerSubmissionAcceptedAtRevision submissionId roomId transactionId body revision =>
    rintro ⟨ready, unknown, exhausted⟩
    exact handleComposerSubmissionAccepted_exhausted ready unknown exhausted
  | composerSubmissionQueued submissionId transactionId target revision =>
    rintro ⟨active, exhausted⟩
    exact handleQueued_exhausted active exhausted
  | scheduledSendCreatedAtRevision item revision =>
    rintro ⟨ready, joined, exhausted⟩
    exact handleScheduledSendCreatedAtRevision_exhausted ready joined exhausted
  | _ => exact False.elim

/-- A refusal for want of a revision has no effects.  It leaves the state as it was
exactly when the submission was queued before, or the same item scheduled before
(and the markers of the open composers were in step); a send or an acceptance never
does. -/
theorem exhaustion_atomic_iff (state : AppState) (action : AppAction)
    (rejected : RejectedAsExhausted state action) : (reduce state action).2 = [] ∧
      ({ (reduce state action).1 with errors := state.errors } = state ↔
        WrittenBefore state action ∧ syncAssistantDraftMarkers state = state) := by
  have left := reduceAction_exhausted rejected
  refine ⟨left.silent, ?_, ?_⟩
  · intro same
    have records := congrArg sendRecords same
    have there := left.recorded ((sendRecords_sync _).symm.trans records)
    refine ⟨there, ?_⟩
    have synced : { syncAssistantDraftMarkers (reduceAction state action).1 with errors := state.errors } =
      state := same
    rw [left.unchanged there] at synced
    exact (congrArg (fun errors => { syncAssistantDraftMarkers state with errors := errors })
      (errors_sync state)).trans synced
  · rintro ⟨there, synced⟩
    change { syncAssistantDraftMarkers (reduceAction state action).1 with errors := state.errors } = state
    rw [left.unchanged there, synced]

/-- A signed-in account with one room open and one message scheduled in it. -/
def scheduledState (item : ScheduledSendItem) : AppState :=
  { AppState.default with
    session := .ready ⟨"https://example.org", "@user:example.org", "DEVICE"⟩
    rooms := [⟨"!room", false, [], []⟩]
    timeline := { (default : TimelinePaneState) with roomId := some "!room" }
    scheduledSends := AppState.default.scheduledSends.insert item }

def heldItem : ScheduledSendItem := ⟨"held", "!room", none, "later", 1, .local, false⟩

theorem exhaustion_atomic_iff_scheduled : { (reduce (scheduledState heldItem)
        (.scheduledSendCreatedAtRevision heldItem ComposerDraftRevision.MAX)).1 with
      errors := [] } = scheduledState heldItem :=
  (exhaustion_atomic_iff (scheduledState heldItem)
    (.scheduledSendCreatedAtRevision heldItem ComposerDraftRevision.MAX)
    ⟨by decide +kernel, by decide +kernel, rfl⟩).2.mpr
    ⟨show (scheduledState heldItem).scheduledSends.items["held"]? = some heldItem by decide +kernel,
      by decide +kernel⟩

/-- A text at the last revision is not sent, and its composer waits for it. -/
theorem exhausted_send_stays_pending :
    let state := scheduledState heldItem
    let refused := reduce state (.sendTextSubmittedAtRevision "!room" "t1" "hello" ComposerDraftRevision.MAX)
    state.timeline.composer.pendingTransactionId = none ∧ refused.2 = [] ∧
      refused.1.timeline.composer.pendingTransactionId = some "t1" := by
  decide +kernel

end Koushi
