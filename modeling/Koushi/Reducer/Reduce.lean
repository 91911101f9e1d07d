import Koushi.Library.Run
import Koushi.Reducer.RoomList
import Koushi.Reducer.Submission
import Koushi.Reducer.Panes
import Koushi.Reducer.Session

namespace Koushi

open Collections

/-!
# The reducer

`reduce` dispatches one action and then brings the assistant markers of the open
composers up to date.  The actions are those of the source that touch a modelled
slice.  Two of them stand for many: `sessionStepped` for the remaining steps of
sign-in, verification and capability checks, which replace the session and at
most report errors, and `panelsChanged` for the features whose only modelled
slices are the side panels and the error list.  Both may set their slices to
anything, so every run of the source has a run here.
-/

/-- The slices that other features write. -/
structure SidePanels where
  threadAttention : ThreadAttentionState
  threadsList : ThreadsListState
  focusedContext : FocusedContextState
  mainTimelineAnchor : Option String
  eventNavigation : EventNavigationState
  errors : List AppError
deriving DecidableEq, Repr

inductive AppAction where
  -- the session
  | appStarted
  | restoreSessionSucceeded (info : SessionInfo)
  | currentDeviceTrustChanged (trust : CurrentDeviceTrustState)
  | sessionLocked
  | sessionAuthenticationInvalidated
  | logoutRequested
  | logoutFinished
  | switchAccountRequested (info : SessionInfo)
  | e2eeRecoveryRequired (info : SessionInfo)
  | verificationSessionRejected
  | provisionalSessionDiscarded
  | deviceCleanupCompleted
  | sessionStepped (next : SessionState) (errors : List AppError)
  -- the room list
  | roomListUpdated (spaces : List SpaceSummary) (rooms : List RoomSummary)
  | roomListSnapshotProvisional (snapshot : RoomListSnapshot)
  | roomListSnapshotAuthoritative (snapshot : RoomListSnapshot)
  | roomLeftLocally (roomId : String)
  | roomJoinedLocally (roomId : String)
  | roomListBootstrapStarted (generation : Nat) (source : RoomListSource)
  | roomListBootstrapFailed (generation : Nat) (source : RoomListSource) (kind : RoomListFailureKind)
  | roomListFilterSelected (filter : RoomListFilter)
  | roomListFilterApplied (projection : RoomListProjection)
  | inviteListUpdated (invites : List InvitePreview)
  | spaceChildLinkSettled (spaceId childRoomId : String)
  -- navigation
  | selectSpace (spaceId : Option String)
  | selectRoom (roomId : String)
  | navigationLoaded (navigation : NavigationState)
  | reorderSpaces (spaceIds : List String)
  | spaceOrderPreferenceRemoved (spaceId : String)
  | directoryJoinRequested (requestId : Nat) (roomIdOrAlias : String) (viaServers : List String)
  | directoryJoinSucceeded (requestId : Nat) (roomId : String)
  | directoryJoinFailed (requestId : Nat) (roomIdOrAlias : String) (viaServers : List String)
      (kind : OperationFailureKind)
  -- the timeline pane and local work
  | timelineSubscribed (roomId : String)
  | timelineSubscriptionFailed (roomId : String)
  | timelineBackPaginationRequested (roomId : String)
  | timelineBackPaginationFinished (roomId : String)
  | scheduledSendCapabilityChanged (capability : ScheduledSendCapability)
  | scheduledSendsLoaded (scheduledSends : ScheduledSendStore)
  | scheduledSendCreated (item : ScheduledSendItem)
  | scheduledSendCreatedAtRevision (item : ScheduledSendItem) (draftRevision : Nat)
  | scheduledSendDispatchStarted (scheduledId : String)
  | scheduledSendDispatchFailed (scheduledId : String) (retryAtMs : Nat)
  | scheduledSendRescheduled (scheduledId body : String) (sendAtMs : Nat) (handle : ScheduledSendHandle)
  | scheduledSendCancelledOrDispatched (scheduledId : String)
  | uploadStagingChanged (target : ComposerTarget) (items : List StagedUploadItem)
  | uploadStagingCaptionChanged (target : ComposerTarget) (stagedId : String)
      (caption : Option ComposerDocument)
  | uploadStagingCompressionChanged (target : ComposerTarget) (stagedId : String)
      (compressionChoice : StagedUploadCompressionChoice)
  | uploadStagingOutputSelected (target : ComposerTarget) (stagedId : String)
      (selection : StagedUploadOutputSelection)
  | uploadStagingCleared (target : ComposerTarget)
  | mediaGalleryUpdated (roomId : String) (items : List TimelineMediaGalleryItem)
  -- drafts
  | composerDraftsLoaded (drafts : ComposerDraftStore)
  | composerDraftChanged (roomId : String) (document : ComposerDocument)
  | composerDraftChangedAtRevision (roomId : String) (document : ComposerDocument) (revision : Nat)
  | threadComposerDraftChanged (roomId rootEventId : String) (document : ComposerDocument)
  | threadComposerDraftChangedAtRevision (roomId rootEventId : String) (document : ComposerDocument)
      (revision : Nat)
  | composerDraftSeeded (roomId : String) (document : ComposerDocument)
  | assistantDraftStaged (target : ComposerTarget) (document : ComposerDocument) (clientName : String)
  | assistantDraftMarkerDismissed (target : ComposerTarget)
  | composerDraftAccepted (target : ComposerTarget) (submittedRevision : Nat) (consumesDraft : Bool)
  -- sends without a submission
  | sendTextSubmitted (roomId transactionId body : String)
  | sendTextSubmittedAtRevision (roomId transactionId body : String) (draftRevision : Nat)
  | sendTextFinished (roomId transactionId : String)
  | sendTextFailed (roomId transactionId message : String)
  | threadReplySubmitted (roomId rootEventId transactionId : String)
  | threadReplySubmittedAtRevision (roomId rootEventId transactionId : String) (draftRevision : Nat)
  | threadReplyFinished (roomId rootEventId transactionId : String)
  | threadReplyFailed (roomId rootEventId transactionId message : String)
  -- submissions
  | composerSubmissionAccepted (submissionId : SubmissionId) (roomId transactionId body : String)
  | composerSubmissionAcceptedAtRevision (submissionId : SubmissionId) (roomId transactionId body : String)
      (draftRevision : Nat)
  | threadSubmissionAccepted (submissionId : SubmissionId) (roomId rootEventId transactionId : String)
  | threadSubmissionAcceptedAtRevision (submissionId : SubmissionId)
      (roomId rootEventId transactionId : String) (draftRevision : Nat)
  | composerSubmissionFinished (submissionId : SubmissionId) (roomId transactionId : String)
  | composerSubmissionQueued (submissionId : SubmissionId) (transactionId : String)
      (target : ComposerTarget) (draftRevision : Nat)
  | composerSubmissionSettled (submissionId : SubmissionId) (transactionId : String)
      (target : ComposerTarget) (outcome : ComposerSubmissionTerminalOutcome)
  -- reply targets and the thread pane
  | composerReplyTargetSelected (roomId eventId : String)
  | composerReplyCancelled
  | threadComposerReplyTargetSelected (roomId rootEventId eventId : String)
  | threadComposerReplyCancelled (roomId rootEventId : String)
  | openThread (roomId rootEventId : String) (intent : ThreadOpenIntent)
  | threadSubscribed (roomId rootEventId : String)
  | threadSubscriptionFailed (roomId rootEventId : String) (failureKind : OperationFailureKind)
  | threadActivityObserved (roomId rootEventId : String)
  | closeThread
  -- everything else
  | panelsChanged (panels : SidePanels)
deriving DecidableEq

variable (state : AppState)

def handlePanelsChanged (panels : SidePanels) : Outcome :=
  ({ state with
      threadAttention := panels.threadAttention
      threadsList := panels.threadsList
      focusedContext := panels.focusedContext
      navigation.mainTimelineAnchor := panels.mainTimelineAnchor
      navigation.eventNavigation := panels.eventNavigation
      errors := panels.errors }, [])

/-- A draft written without a revision takes the successor of the stored one. -/
def handleComposerDraftChangedNow (roomId : String) (document : ComposerDocument) : Outcome :=
  match ComposerDraftRevision.checkedSuccessor (state.composerDrafts.roomRevision roomId)
      ComposerDraftRevision.ZERO with
  | .error _ => (state, [])
  | .ok revision => handleComposerDraftChanged state roomId document revision

def handleThreadComposerDraftChangedNow (roomId rootEventId : String)
    (document : ComposerDocument) : Outcome :=
  match ComposerDraftRevision.checkedSuccessor (state.composerDrafts.threadRevision roomId rootEventId)
      ComposerDraftRevision.ZERO with
  | .error _ => (state, [])
  | .ok revision => handleThreadComposerDraftChanged state roomId rootEventId document revision

def reduceAction : AppAction -> Outcome
  | .appStarted => handleAppStarted state
  | .restoreSessionSucceeded info => handleRestoreSessionSucceeded state info
  | .currentDeviceTrustChanged trust => handleCurrentDeviceTrustChanged state trust
  | .sessionLocked => handleSessionLocked state
  | .sessionAuthenticationInvalidated => handleSessionAuthenticationInvalidated state
  | .logoutRequested => handleLogoutRequested state
  | .logoutFinished => handleLogoutFinished state
  | .switchAccountRequested info => handleSwitchAccountRequested state info
  | .e2eeRecoveryRequired info => handleE2eeRecoveryRequired state info
  | .verificationSessionRejected => handleVerificationSessionRejected state
  | .provisionalSessionDiscarded => handleProvisionalSessionDiscarded state
  -- Its guard reads the progress of the cleanup, which is outside the model.
  | .deviceCleanupCompleted => resetAppState
  | .sessionStepped next errors => ({ state with session := next, errors := errors }, [])
  | .roomListUpdated spaces rooms => handleRoomListUpdated state spaces rooms
  | .roomListSnapshotProvisional snapshot => handleRoomListSnapshotProvisional state snapshot
  | .roomListSnapshotAuthoritative snapshot => handleRoomListSnapshotAuthoritative state snapshot
  | .roomLeftLocally roomId => handleRoomLeftLocally state roomId
  | .roomJoinedLocally roomId => handleRoomJoinedLocally state roomId
  | .roomListBootstrapStarted generation source => handleRoomListBootstrapStarted state generation source
  | .roomListBootstrapFailed generation source kind =>
    handleRoomListBootstrapFailed state generation source kind
  | .roomListFilterSelected filter => handleRoomListFilterSelected state filter
  | .roomListFilterApplied projection => handleRoomListFilterApplied state projection
  | .inviteListUpdated invites => handleInviteListUpdated state invites
  | .spaceChildLinkSettled spaceId childRoomId => handleSpaceChildLinkSettled state spaceId childRoomId
  | .selectSpace spaceId => handleSelectSpace state spaceId
  | .selectRoom roomId => handleSelectRoom state roomId
  | .navigationLoaded navigation => handleNavigationLoaded state navigation
  | .reorderSpaces spaceIds => handleReorderSpaces state spaceIds
  | .spaceOrderPreferenceRemoved spaceId => handleSpaceOrderPreferenceRemoved state spaceId
  | .directoryJoinRequested requestId roomIdOrAlias viaServers =>
    handleDirectoryJoinRequested state requestId roomIdOrAlias viaServers
  | .directoryJoinSucceeded requestId roomId => handleDirectoryJoinSucceeded state requestId roomId
  | .directoryJoinFailed requestId roomIdOrAlias viaServers kind =>
    handleDirectoryJoinFailed state requestId roomIdOrAlias viaServers kind
  | .timelineSubscribed roomId => handleTimelineSubscribed state roomId
  | .timelineSubscriptionFailed roomId => handleTimelineSubscriptionFailed state roomId
  | .timelineBackPaginationRequested roomId => handleTimelineBackPaginationRequested state roomId
  | .timelineBackPaginationFinished roomId => handleTimelineBackPaginationFinished state roomId
  | .scheduledSendCapabilityChanged capability => handleScheduledSendCapabilityChanged state capability
  | .scheduledSendsLoaded scheduledSends => handleScheduledSendsLoaded state scheduledSends
  | .scheduledSendCreated item => handleScheduledSendCreated state item
  | .scheduledSendCreatedAtRevision item draftRevision =>
    handleScheduledSendCreatedAtRevision state item draftRevision
  | .scheduledSendDispatchStarted scheduledId => handleScheduledSendDispatchStarted state scheduledId
  | .scheduledSendDispatchFailed scheduledId retryAtMs =>
    handleScheduledSendDispatchFailed state scheduledId retryAtMs
  | .scheduledSendRescheduled scheduledId body sendAtMs handle =>
    handleScheduledSendRescheduled state scheduledId body sendAtMs handle
  | .scheduledSendCancelledOrDispatched scheduledId =>
    handleScheduledSendCancelledOrDispatched state scheduledId
  | .uploadStagingChanged target items => handleUploadStagingChanged state target items
  | .uploadStagingCaptionChanged target stagedId caption =>
    handleUploadStagingCaptionChanged state target stagedId caption
  | .uploadStagingCompressionChanged target stagedId compressionChoice =>
    handleUploadStagingCompressionChanged state target stagedId compressionChoice
  | .uploadStagingOutputSelected target stagedId selection =>
    handleUploadStagingOutputSelected state target stagedId selection
  | .uploadStagingCleared target => handleUploadStagingCleared state target
  | .mediaGalleryUpdated roomId items => handleMediaGalleryUpdated state roomId items
  | .composerDraftsLoaded drafts => handleComposerDraftsLoaded state drafts
  | .composerDraftChanged roomId document => handleComposerDraftChangedNow state roomId document
  | .composerDraftChangedAtRevision roomId document revision =>
    handleComposerDraftChanged state roomId document revision
  | .threadComposerDraftChanged roomId rootEventId document =>
    handleThreadComposerDraftChangedNow state roomId rootEventId document
  | .threadComposerDraftChangedAtRevision roomId rootEventId document revision =>
    handleThreadComposerDraftChanged state roomId rootEventId document revision
  | .composerDraftSeeded roomId document => handleComposerDraftSeeded state roomId document
  | .assistantDraftStaged target document clientName =>
    handleAssistantDraftStaged state target document clientName
  | .assistantDraftMarkerDismissed target => handleAssistantDraftMarkerDismissed state target
  | .composerDraftAccepted target submittedRevision consumesDraft =>
    handleComposerDraftAccepted state target submittedRevision consumesDraft
  | .sendTextSubmitted roomId transactionId body =>
    handleSendTextSubmitted state roomId transactionId body (state.composerDrafts.roomRevision roomId)
  | .sendTextSubmittedAtRevision roomId transactionId body draftRevision =>
    handleSendTextSubmitted state roomId transactionId body draftRevision
  | .sendTextFinished roomId transactionId => handleSendTextFinished state roomId transactionId
  | .sendTextFailed roomId transactionId message => handleSendTextFailed state roomId transactionId message
  | .threadReplySubmitted roomId rootEventId transactionId =>
    handleThreadReplySubmitted state roomId rootEventId transactionId
      (state.composerDrafts.threadRevision roomId rootEventId)
  | .threadReplySubmittedAtRevision roomId rootEventId transactionId draftRevision =>
    handleThreadReplySubmitted state roomId rootEventId transactionId draftRevision
  | .threadReplyFinished roomId rootEventId transactionId =>
    handleThreadReplyFinished state roomId rootEventId transactionId
  | .threadReplyFailed roomId rootEventId transactionId message =>
    handleThreadReplyFailed state roomId rootEventId transactionId message
  | .composerSubmissionAccepted submissionId roomId transactionId body =>
    handleComposerSubmissionAccepted state submissionId roomId transactionId body
      (state.composerDrafts.roomRevision roomId)
  | .composerSubmissionAcceptedAtRevision submissionId roomId transactionId body draftRevision =>
    handleComposerSubmissionAccepted state submissionId roomId transactionId body draftRevision
  | .threadSubmissionAccepted submissionId roomId rootEventId transactionId =>
    handleThreadSubmissionAccepted state submissionId roomId rootEventId transactionId
      (state.composerDrafts.threadRevision roomId rootEventId)
  | .threadSubmissionAcceptedAtRevision submissionId roomId rootEventId transactionId draftRevision =>
    handleThreadSubmissionAccepted state submissionId roomId rootEventId transactionId draftRevision
  | .composerSubmissionFinished submissionId roomId transactionId =>
    handleComposerSubmissionFinished state submissionId roomId transactionId
  | .composerSubmissionQueued submissionId transactionId target draftRevision =>
    handleQueued state submissionId transactionId target draftRevision
  | .composerSubmissionSettled submissionId transactionId target outcome =>
    handleSettled state submissionId transactionId target outcome
  | .composerReplyTargetSelected roomId eventId => handleComposerReplyTargetSelected state roomId eventId
  | .composerReplyCancelled => handleComposerReplyCancelled state
  | .threadComposerReplyTargetSelected roomId rootEventId eventId =>
    handleThreadComposerReplyTargetSelected state roomId rootEventId eventId
  | .threadComposerReplyCancelled roomId rootEventId =>
    handleThreadComposerReplyCancelled state roomId rootEventId
  | .openThread roomId rootEventId intent => handleOpenThread state roomId rootEventId intent
  | .threadSubscribed roomId rootEventId => handleThreadSubscribed state roomId rootEventId
  | .threadSubscriptionFailed roomId rootEventId failureKind =>
    handleThreadSubscriptionFailed state roomId rootEventId failureKind
  | .threadActivityObserved roomId rootEventId => handleThreadActivityObserved state roomId rootEventId
  | .closeThread => handleCloseThread state
  | .panelsChanged panels => handlePanelsChanged state panels

def reduce (action : AppAction) : Outcome :=
  let (state, effects) := reduceAction state action
  (syncAssistantDraftMarkers state, effects)

/-- The state after one action. -/
def step (action : AppAction) : AppState := (reduce state action).1

theorem step_eq (action : AppAction) :
    step state action = syncAssistantDraftMarkers (reduceAction state action).1 := rfl

/-- The actions that bring up a stored session on a verified device. -/
def coldStart (info : SessionInfo) : List AppAction :=
  [.appStarted, .restoreSessionSucceeded info, .currentDeviceTrustChanged .verified]

end Koushi
