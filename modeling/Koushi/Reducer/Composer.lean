import Koushi.Reducer.Navigation

namespace Koushi

open Collections

/-!
# Drafts in the open composers

The draft store holds every draft.  The open timeline pane and the open thread
pane each show one of them in a composer, which also carries what the store does
not know: the pending send, the reply mode and the submissions accepted in it.
A handler that changes the store copies the change into a composer that shows
the same target.

The handlers of the room composer and of the thread composer come in pairs and
share their composer steps.
-/

namespace ComposerState

/-- Copy the stored draft into a composer; the send in progress stays. -/
def withStored (composer stored : ComposerState) : ComposerState :=
  { composer with
    draft := stored.draft
    document := stored.document
    draftRevision := stored.draftRevision
    lastAcceptedClearRevision := stored.lastAcceptedClearRevision }

variable (composer : ComposerState)

/-- Show a document that was just written at a revision. -/
def withWritten (document : ComposerDocument) (revision : Nat) : ComposerState :=
  { composer with draft := document.plainBody, document := document, draftRevision := revision }

/-- The pending kind captures the mode at submission time. -/
def pendingSendKindFor : PendingComposerSendKind :=
  match composer.mode with
  | .plain => .plain
  | .reply inReplyToEventId => .reply inReplyToEventId

/-- Return to plain only when the completed send was a reply to the target that
is still current. -/
def settleReplyMode (pendingKind : Option PendingComposerSendKind) : ComposerState :=
  match pendingKind with
  | some (.reply inReplyToEventId) =>
    if composer.mode = .reply inReplyToEventId then { composer with mode := .plain } else composer
  | _ => composer

/-- Copy only the draft fields of a staged draft. -/
def hydrateStagedDraft (composer hydrated : ComposerState) : ComposerState :=
  { composer with
    draft := hydrated.draft
    document := hydrated.document
    draftRevision := hydrated.draftRevision
    assistantDraft := hydrated.assistantDraft }

/-- A composer takes a draft from the store only when it holds nothing itself. -/
def acceptsHydration : Bool :=
  composer.pendingTransactionId.isNone && composer.draft.isEmpty

end ComposerState

/-! ## The open composers -/

variable (state : AppState)

def timelineShows (roomId : String) : Bool := state.timeline.roomId = some roomId

/-- The open thread pane, if it shows this thread. -/
def threadShowing (roomId rootEventId : String) : Option OpenThread :=
  match state.thread with
  | .opened pane => if pane.roomId = roomId && pane.rootEventId = rootEventId then some pane else none
  | _ => none

def setTimelineComposer (composer : ComposerState) : AppState :=
  { state with timeline.composer := composer }

def setThreadComposer (pane : OpenThread) (composer : ComposerState) : AppState :=
  { state with thread := .opened { pane with composer := composer } }

/-- The open composers show the marker of the store after every action. -/
def syncAssistantDraftMarkers : AppState :=
  let marker := state.timeline.roomId.bind state.composerDrafts.roomAssistantMarker
  let state := setTimelineComposer state { state.timeline.composer with assistantDraft := marker }
  match state.thread with
  | .opened pane =>
    let marker := state.composerDrafts.threadAssistantMarker pane.roomId pane.rootEventId
    setThreadComposer state pane { pane.composer with assistantDraft := marker }
  | _ => state

/-- A main-composer send returns an anchored main pane to the live timeline. -/
def returnMainPaneToLiveForAcceptedSend (roomId : String) : Outcome :=
  if state.navigation.activeRoomId ≠ some roomId then (state, [])
  else
    let state :=
      if state.navigation.mainTimelineAnchor.isSome then
        { state with
          navigation.mainTimelineAnchor := none
          navigation.eventNavigation := .idle
          focusedContext := .closed }
      else state
    (state, [.cancelPendingMainTimelineNavigation roomId])

/-! ## Loading and writing drafts -/

def hydrateTimelineComposer : Outcome :=
  match state.timeline.roomId with
  | none => (state, [])
  | some roomId =>
    let hydrated := state.composerDrafts.composerForRoom roomId
    if state.timeline.composer.acceptsHydration && decide (state.timeline.composer ≠ hydrated) then
      (setTimelineComposer state hydrated, [.emitUiEvent (.timelineChanged roomId)])
    else (state, [])

def hydrateThreadComposer : Outcome :=
  match state.thread with
  | .opened pane =>
    let hydrated := state.composerDrafts.composerForThread pane.roomId pane.rootEventId
    if pane.composer.acceptsHydration && decide (pane.composer ≠ hydrated) then
      (setThreadComposer state pane hydrated, [.emitUiEvent .threadChanged])
    else (state, [])
  | _ => (state, [])

/-- Replace the whole store; an open composer that holds something keeps it. -/
def handleComposerDraftsLoaded (drafts : ComposerDraftStore) : Outcome :=
  if !isSessionReady state then (state, [])
  else (hydrateTimelineComposer { state with composerDrafts := drafts }).andThen hydrateThreadComposer

def handleComposerDraftChanged (roomId : String) (document : ComposerDocument)
    (revision : Nat) : Outcome :=
  if !isSessionReady state || !roomExists state roomId then (state, [])
  else
    let (accepted, drafts) := state.composerDrafts.applyRoomDraft roomId document revision
    if !accepted then (state, [])
    else
      let state := { state with composerDrafts := drafts }
      if timelineShows state roomId then
        (setTimelineComposer state (state.timeline.composer.withWritten document revision),
          [.emitUiEvent (.timelineChanged roomId)])
      else (state, [])

def handleThreadComposerDraftChanged (roomId rootEventId : String)
    (document : ComposerDocument) (revision : Nat) : Outcome :=
  if !isSessionReady state || !roomExists state roomId then (state, [])
  else
    let (accepted, drafts) := state.composerDrafts.applyThreadDraft roomId rootEventId document revision
    if !accepted then (state, [])
    else
      let state := { state with composerDrafts := drafts }
      match threadShowing state roomId rootEventId with
      | some pane =>
        (setThreadComposer state pane (pane.composer.withWritten document revision),
          [.emitUiEvent .threadChanged])
      | none => (state, [])

/-- Seed an empty room draft. -/
def handleComposerDraftSeeded (roomId : String) (document : ComposerDocument) : Outcome :=
  if !isSessionReady state || document.isEmpty || !roomExists state roomId ||
      !(state.composerDrafts.composerForRoom roomId).document.isEmpty then (state, [])
  else
    match ComposerDraftRevision.checkedSuccessor (state.composerDrafts.roomRevision roomId)
        ComposerDraftRevision.ZERO with
    | .error _ => (state, [])
    | .ok revision =>
      let (accepted, drafts) := state.composerDrafts.applyRoomDraft roomId document revision
      if !accepted then (state, [])
      else
        let state := { state with composerDrafts := drafts }
        if timelineShows state roomId && state.timeline.composer.acceptsHydration then
          (setTimelineComposer state (state.composerDrafts.composerForRoom roomId),
            [.emitUiEvent (.timelineChanged roomId)])
        else (state, [])

def handleAssistantDraftStaged (target : ComposerTarget)
    (document : ComposerDocument) (clientName : String) : Outcome :=
  if !isSessionReady state || !roomExists state target.roomId then (state, [])
  else
    match state.composerDrafts.stageAssistantDraft target document clientName with
    | (none, _) => (state, [])
    | (some _, drafts) =>
      let state := { state with composerDrafts := drafts }
      match target with
      | .main roomId =>
        if timelineShows state roomId && state.timeline.composer.acceptsHydration then
          (setTimelineComposer state
            (state.timeline.composer.hydrateStagedDraft (state.composerDrafts.composerForRoom roomId)),
            [.emitUiEvent (.timelineChanged roomId)])
        else (state, [])
      | .thread roomId rootEventId =>
        match threadShowing state roomId rootEventId with
        | none => (state, [])
        | some pane =>
          if pane.composer.acceptsHydration then
            (setThreadComposer state pane
              (pane.composer.hydrateStagedDraft
                (state.composerDrafts.composerForThread roomId rootEventId)),
              [.emitUiEvent .threadChanged])
          else (state, [])

/-- Drop only the marker; the draft and its revision stay. -/
def handleAssistantDraftMarkerDismissed (target : ComposerTarget) : Outcome :=
  if !isSessionReady state then (state, [])
  else
    let (dismissed, drafts) := state.composerDrafts.dismissAssistantMarker target
    let state := { state with composerDrafts := drafts }
    if !dismissed then (state, [])
    else
      match target with
      | .main roomId =>
        (state, effectsIf (timelineShows state roomId) [.emitUiEvent (.timelineChanged roomId)])
      | .thread roomId rootEventId =>
        (state, effectsIf (threadShowing state roomId rootEventId).isSome [.emitUiEvent .threadChanged])

/-! ## Drafts taken by a send -/

/-- A staged-attachment send settles the draft; it clears it only when it
carried the draft along. -/
def handleComposerDraftAccepted (target : ComposerTarget)
    (submittedRevision : Nat) (consumesDraft : Bool) : Outcome :=
  if !isSessionReady state || !roomExists state target.roomId then (state, [])
  else
    match target with
    | .main roomId =>
      let settled :=
        if consumesDraft then state.composerDrafts.advanceRoomRevision roomId submittedRevision
        else state.composerDrafts.settleRoomRevision roomId submittedRevision
      match settled with
      | .error _ => (state, [])
      | .ok (_, drafts) =>
        let state := { state with composerDrafts := drafts }
        if timelineShows state roomId then
          let state := setTimelineComposer state (state.composerDrafts.composerForRoom roomId)
          let (state, navigationEffects) := returnMainPaneToLiveForAcceptedSend state roomId
          (state, .emitUiEvent (.timelineChanged roomId) :: navigationEffects)
        else (state, [])
    | .thread roomId rootEventId =>
      let settled :=
        if consumesDraft then
          state.composerDrafts.advanceThreadRevision roomId rootEventId submittedRevision
        else state.composerDrafts.settleThreadRevision roomId rootEventId submittedRevision
      match settled with
      | .error _ => (state, [])
      | .ok (_, drafts) =>
        let state := { state with composerDrafts := drafts }
        match threadShowing state roomId rootEventId with
        | some pane =>
          (setThreadComposer state pane (state.composerDrafts.composerForThread roomId rootEventId),
            [.emitUiEvent .threadChanged])
        | none => (state, [])

/-- Mark a composer as sending. -/
def ComposerState.beginSend (composer : ComposerState) (transactionId : String) : ComposerState :=
  { composer with
    pendingTransactionId := some transactionId
    pendingSendKind := some composer.pendingSendKindFor }

def handleSendTextSubmitted (roomId transactionId body : String) (draftRevision : Nat) : Outcome :=
  if !isSessionReady state || !timelineShows state roomId ||
      state.timeline.composer.pendingTransactionId.isSome then (state, [])
  else
    -- The pending send is recorded even when the revision is exhausted.
    let state := setTimelineComposer state (state.timeline.composer.beginSend transactionId)
    match state.composerDrafts.advanceRoomRevision roomId draftRevision with
    | .error _ => (state, [])
    | .ok (acceptedRevision, drafts) =>
      let state := { state with composerDrafts := drafts }
      let (state, navigationEffects) := returnMainPaneToLiveForAcceptedSend state roomId
      let stored := state.composerDrafts.composerForRoom roomId
      (setTimelineComposer state
        { state.timeline.composer.withStored stored with draftRevision := acceptedRevision },
        [.sendText roomId transactionId body, .emitUiEvent (.timelineChanged roomId)] ++ navigationEffects)

def handleThreadReplySubmitted (roomId rootEventId transactionId : String)
    (draftRevision : Nat) : Outcome :=
  if !isSessionReady state then (state, [])
  else
    match threadShowing state roomId rootEventId with
    | none => (state, [])
    | some pane =>
      if pane.composer.pendingTransactionId.isSome then (state, [])
      else
        let composer := pane.composer.beginSend transactionId
        match state.composerDrafts.advanceThreadRevision roomId rootEventId draftRevision with
        | .error _ => (setThreadComposer state pane composer, [])
        | .ok (acceptedRevision, drafts) =>
          let state := { state with composerDrafts := drafts }
          let stored := state.composerDrafts.composerForThread roomId rootEventId
          (setThreadComposer state pane
            { composer.withStored stored with draftRevision := acceptedRevision },
            [.emitUiEvent .threadChanged])

/-- The end of a send that no submission tracks. -/
def ComposerState.finishSend (composer : ComposerState) : ComposerState :=
  ({ composer with pendingTransactionId := none, pendingSendKind := none }).settleReplyMode
    composer.pendingSendKind

def ComposerState.failSend (composer : ComposerState) : ComposerState :=
  { composer with pendingTransactionId := none, pendingSendKind := none }

def sendTextFailed (message : String) : AppError :=
  { code := "send_text_failed", message := message, recoverable := true }

/-- Whether the room composer waits for this untracked send. -/
def timelineAwaitsSend (roomId transactionId : String) : Bool :=
  state.timeline.composer.pendingSubmissionId.isNone && isSessionReady state &&
    timelineShows state roomId &&
    decide (state.timeline.composer.pendingTransactionId = some transactionId)

def handleSendTextFinished (roomId transactionId : String) : Outcome :=
  if timelineAwaitsSend state roomId transactionId then
    (setTimelineComposer state state.timeline.composer.finishSend,
      [.emitUiEvent (.timelineChanged roomId)])
  else (state, [])

def handleSendTextFailed (roomId transactionId message : String) : Outcome :=
  if timelineAwaitsSend state roomId transactionId then
    ({ setTimelineComposer state state.timeline.composer.failSend with
        errors := state.errors ++ [sendTextFailed message] },
      [.emitUiEvent (.timelineChanged roomId), .emitUiEvent .errorChanged])
  else (state, [])

/-- The thread pane, if its composer waits for this untracked send. -/
def threadAwaitingSend (roomId rootEventId transactionId : String) : Option OpenThread :=
  if !isSessionReady state then none
  else
    (threadShowing state roomId rootEventId).filter (fun pane =>
      pane.composer.pendingSubmissionId.isNone &&
        decide (pane.composer.pendingTransactionId = some transactionId))

def handleThreadReplyFinished (roomId rootEventId transactionId : String) : Outcome :=
  match threadAwaitingSend state roomId rootEventId transactionId with
  | some pane => (setThreadComposer state pane pane.composer.finishSend, [.emitUiEvent .threadChanged])
  | none => (state, [])

def handleThreadReplyFailed (roomId rootEventId transactionId message : String) : Outcome :=
  match threadAwaitingSend state roomId rootEventId transactionId with
  | some pane =>
    ({ setThreadComposer state pane pane.composer.failSend with
        errors := state.errors ++ [sendTextFailed message] },
      [.emitUiEvent .threadChanged, .emitUiEvent .errorChanged])
  | none => (state, [])

/-! ## Reply targets -/

def handleComposerReplyTargetSelected (roomId eventId : String) : Outcome :=
  if !isSessionReady state || !timelineShows state roomId then (state, [])
  else (setTimelineComposer state { state.timeline.composer with mode := .reply eventId },
    [.emitUiEvent (.timelineChanged roomId)])

def handleComposerReplyCancelled : Outcome :=
  match state.timeline.roomId with
  | none => (state, [])
  | some roomId =>
    if state.timeline.composer.mode = .plain then (state, [])
    else (setTimelineComposer state { state.timeline.composer with mode := .plain },
      [.emitUiEvent (.timelineChanged roomId)])

def handleThreadComposerReplyTargetSelected (roomId rootEventId eventId : String) : Outcome :=
  if !isSessionReady state then (state, [])
  else
    match threadShowing state roomId rootEventId with
    | some pane => (setThreadComposer state pane { pane.composer with mode := .reply eventId },
        [.emitUiEvent .threadChanged])
    | none => (state, [])

def handleThreadComposerReplyCancelled (roomId rootEventId : String) : Outcome :=
  match threadShowing state roomId rootEventId with
  | none => (state, [])
  | some pane =>
    if pane.composer.mode = .plain then (state, [])
    else (setThreadComposer state pane { pane.composer with mode := .plain }, [.emitUiEvent .threadChanged])

end Koushi
