import Koushi.Reducer.Composer

namespace Koushi

open Collections

/-!
# Submissions

A submission is accepted, then queued, then settled.  Acceptance registers it
and, if the composer of its target is open and idle, marks that composer as
pending; only then does a main submission ask for its text to be sent.  Queueing
takes the draft out of the store.  Settlement removes the record.  Queueing and
settlement are believed only for an active record, and they release the open
composer only if it still waits for the same submission.
-/

namespace ComposerState

variable (composer : ComposerState) (submissionId : SubmissionId)

def rememberAcceptedSubmission : ComposerState :=
  { composer with
    acceptedSubmissionIds :=
      retainNewest (MAX_ACCEPTED_SUBMISSION_TOMBSTONES - 1) composer.acceptedSubmissionIds ++ [submissionId] }

/-- Whether a composer can take a new submission. -/
def acceptsSubmission : Bool :=
  composer.pendingSubmissionId.isNone && composer.pendingTransactionId.isNone &&
    !decide (submissionId ∈ composer.acceptedSubmissionIds)

/-- Mark a composer as waiting for a submission; its draft is read again. -/
def beginSubmission (transactionId : String) (stored : ComposerState) : ComposerState :=
  ({ composer.rememberAcceptedSubmission submissionId with
      pendingSubmissionId := some submissionId
      pendingTransactionId := some transactionId
      pendingSendKind := some composer.pendingSendKindFor }).withStored stored

/-- Whether a composer waits for this submission. -/
def awaits (transactionId : String) : Bool :=
  decide (composer.pendingSubmissionId = some submissionId) &&
    decide (composer.pendingTransactionId = some transactionId)

/-- Release a composer; a finished reply returns to the plain mode. -/
def release (finished : Bool) : ComposerState :=
  let released := { composer with
    pendingSubmissionId := none
    pendingTransactionId := none
    pendingSendKind := none }
  if finished then released.settleReplyMode composer.pendingSendKind else released

end ComposerState

variable (state : AppState)

def setRegistry (registry : ComposerSubmissionRegistry) : AppState :=
  { state with timeline.submissionRegistry := registry }

/-! ## Acceptance -/

variable (submissionId : SubmissionId)

/-- Whether an acceptance is a repetition. -/
def isKnownSubmission : Bool :=
  decide (submissionId ∈ state.timeline.submissionRegistry.acceptedSubmissionIds) ||
    decide (submissionId ∈ state.timeline.submissionRegistry.settledSubmissionIds)

def handleComposerSubmissionAccepted (roomId transactionId body : String) (draftRevision : Nat) : Outcome :=
  if !isSessionReady state || isKnownSubmission state submissionId then (state, [])
  else
    let state := setRegistry state
      (state.timeline.submissionRegistry.rememberAccepted submissionId transactionId (.main roomId))
    match ComposerDraftRevision.checkedSuccessor (state.composerDrafts.roomRevision roomId) draftRevision with
    | .error _ => (state, [])
    | .ok _ =>
      if timelineShows state roomId && state.timeline.composer.acceptsSubmission submissionId then
        let stored := state.composerDrafts.composerForRoom roomId
        let composer := state.timeline.composer.beginSubmission submissionId transactionId stored
        let (state, navigationEffects) := returnMainPaneToLiveForAcceptedSend state roomId
        (setTimelineComposer state composer,
          [.sendText roomId transactionId body, .emitUiEvent (.timelineChanged roomId)] ++
            navigationEffects)
      else (state, [])

def handleThreadSubmissionAccepted
    (roomId rootEventId transactionId : String) (draftRevision : Nat) : Outcome :=
  if !isSessionReady state || isKnownSubmission state submissionId then (state, [])
  else
    let state := setRegistry state
      (state.timeline.submissionRegistry.rememberAccepted submissionId transactionId
        (.thread roomId rootEventId))
    match ComposerDraftRevision.checkedSuccessor (state.composerDrafts.threadRevision roomId rootEventId)
        draftRevision with
    | .error _ => (state, [])
    | .ok _ =>
      match threadShowing state roomId rootEventId with
      | none => (state, [])
      | some pane =>
        if pane.composer.acceptsSubmission submissionId then
          let stored := state.composerDrafts.composerForThread roomId rootEventId
          let composer := pane.composer.beginSubmission submissionId transactionId stored
          (setThreadComposer state { pane with intent := .existingThread } composer,
            [.emitUiEvent .threadChanged])
        else (state, [])

/-! ## Queueing -/

/-- The draft leaves the store when the send queue has taken the message. -/
def handleQueued (transactionId : String) (target : ComposerTarget) (draftRevision : Nat) : Outcome :=
  if !state.timeline.submissionRegistry.activeMatches submissionId transactionId target then (state, [])
  else
    let state := setRegistry state (state.timeline.submissionRegistry.rememberQueued submissionId)
    match target with
    | .main roomId =>
      let wasCleared := decide (state.composerDrafts.roomRevision roomId ≤ draftRevision)
      match state.composerDrafts.advanceRoomRevision roomId draftRevision with
      | .error _ => (state, [])
      | .ok (_, drafts) =>
        let state := { state with composerDrafts := drafts }
        if timelineShows state roomId && state.timeline.composer.awaits submissionId transactionId then
          let stored := state.composerDrafts.composerForRoom roomId
          (setTimelineComposer state ((state.timeline.composer.release wasCleared).withStored stored),
            [.emitUiEvent (.timelineChanged roomId)])
        else (state, [])
    | .thread roomId rootEventId =>
      let wasCleared := decide (state.composerDrafts.threadRevision roomId rootEventId ≤ draftRevision)
      match state.composerDrafts.advanceThreadRevision roomId rootEventId draftRevision with
      | .error _ => (state, [])
      | .ok (_, drafts) =>
        let state := { state with composerDrafts := drafts }
        match threadShowing state roomId rootEventId with
        | none => (state, [])
        | some pane =>
          if pane.composer.awaits submissionId transactionId then
            let stored := state.composerDrafts.composerForThread roomId rootEventId
            (setThreadComposer state pane ((pane.composer.release wasCleared).withStored stored),
              [.emitUiEvent .threadChanged])
          else (state, [])

/-! ## Settlement -/

/-- Report a released composer, and the failure of the send if it failed. -/
def reportSettled (changed : UiEvent) : ComposerSubmissionTerminalOutcome -> Outcome
  | .failed message =>
    ({ state with errors := state.errors ++ [sendTextFailed message] },
      [.emitUiEvent changed, .emitUiEvent .errorChanged])
  | _ => (state, [.emitUiEvent changed])

def handleSettled (transactionId : String)
    (target : ComposerTarget) (outcome : ComposerSubmissionTerminalOutcome) : Outcome :=
  if !state.timeline.submissionRegistry.activeMatches submissionId transactionId target then (state, [])
  else
    let state := setRegistry state (state.timeline.submissionRegistry.rememberSettled submissionId)
    if !isSessionReady state then (state, [])
    else
      match target with
      | .main roomId =>
        if timelineShows state roomId && state.timeline.composer.awaits submissionId transactionId then
          reportSettled
            (setTimelineComposer state (state.timeline.composer.release (outcome = .succeeded)))
            (.timelineChanged roomId) outcome
        else (state, [])
      | .thread roomId rootEventId =>
        match threadShowing state roomId rootEventId with
        | none => (state, [])
        | some pane =>
          if pane.composer.awaits submissionId transactionId then
            reportSettled (setThreadComposer state pane (pane.composer.release (outcome = .succeeded)))
              .threadChanged outcome
          else (state, [])

/-- The older terminal of a tracked send.  It ends in `handleSendTextFinished`,
which refuses every tracked send. -/
def handleComposerSubmissionFinished (roomId transactionId : String) : Outcome :=
  if state.timeline.composer.pendingSubmissionId ≠ some submissionId then (state, [])
  else
    let (state, effects) := handleSendTextFinished state roomId transactionId
    if effects.isEmpty then (state, effects)
    else
      (setTimelineComposer state { state.timeline.composer with pendingSubmissionId := none }, effects)

end Koushi
