import Koushi.Reducer.Composer

namespace Koushi

open Collections

/-!
# The timeline pane, the thread pane and their local work

The timeline pane follows its subscription and pagination, and shows the
scheduled sends, staged uploads and gallery of its room.  The thread pane is
opened on the room that the timeline pane shows; it goes through `opening` to
`opened`, or fails.  Opening, failing and closing a thread drops the uploads
staged in the threads of its room.
-/

/-! ## Subscription and pagination -/

variable (state : AppState)

def handleTimelineSubscribed (roomId : String) : Outcome :=
  if !isSessionReady state || !timelineShows state roomId then (state, [])
  else ({ state with timeline.isSubscribed := true }, [.emitUiEvent (.timelineChanged roomId)])

def TIMELINE_SUBSCRIPTION_FAILED_MESSAGE : String := "Matrix timeline subscription failed"

def handleTimelineSubscriptionFailed (roomId : String) : Outcome :=
  if !isSessionReady state || !timelineShows state roomId then (state, [])
  else
    ({ state with
        errors := state.errors ++
          [{ code := "timeline_subscription_failed"
             message := TIMELINE_SUBSCRIPTION_FAILED_MESSAGE
             recoverable := true }] },
      [.emitUiEvent (.timelineChanged roomId), .emitUiEvent .errorChanged])

def handleTimelineBackPaginationRequested (roomId : String) : Outcome :=
  if !isSessionReady state || !timelineShows state roomId || state.timeline.isPaginatingBackwards then
    (state, [])
  else ({ state with timeline.isPaginatingBackwards := true },
    [.paginateTimelineBackwards roomId, .emitUiEvent (.timelineChanged roomId)])

def handleTimelineBackPaginationFinished (roomId : String) : Outcome :=
  if !isSessionReady state || !timelineShows state roomId || !state.timeline.isPaginatingBackwards then
    (state, [])
  else ({ state with timeline.isPaginatingBackwards := false }, [.emitUiEvent (.timelineChanged roomId)])

/-! ## Scheduled sends -/

def handleScheduledSendCapabilityChanged (capability : ScheduledSendCapability) : Outcome :=
  if !isSessionReady state || state.scheduledSends.capability = capability then (state, [])
  else
    ({ state with
        scheduledSends.capability := capability
        timeline.scheduledSendCapability := capability },
      (state.timeline.roomId.map (fun roomId => [AppEffect.emitUiEvent (.timelineChanged roomId)])).getD [])

def handleScheduledSendsLoaded (scheduledSends : ScheduledSendStore) : Outcome :=
  if !isSessionReady state || state.scheduledSends = scheduledSends then (state, [])
  else
    let state := { state with scheduledSends := scheduledSends }
    match state.timeline.roomId with
    | none => (state, [])
    | some roomId => (refreshTimelineScheduledSends state, [.emitUiEvent (.timelineChanged roomId)])

/-- Show the changed scheduled sends of a room, if it is open. -/
def showScheduledSends (roomId : String) : Outcome :=
  if timelineShows state roomId then
    (refreshTimelineScheduledSends state, [.emitUiEvent (.timelineChanged roomId)])
  else (state, [])

/-- A message is scheduled: it leaves the draft of its target. -/
def handleScheduledSendCreatedAtRevision (item : ScheduledSendItem) (draftRevision : Nat) : Outcome :=
  if !isSessionReady state || !roomExists state item.roomId then (state, [])
  else
    let state := { state with scheduledSends := state.scheduledSends.insert item }
    match item.threadRootEventId with
    | some rootEventId =>
      match state.composerDrafts.advanceThreadRevision item.roomId rootEventId draftRevision with
      | .error _ => (state, [])
      | .ok (_, drafts) =>
        let state := { state with composerDrafts := drafts }
        let emptied : Outcome :=
          match threadShowing state item.roomId rootEventId with
          | some pane =>
            (setThreadComposer state pane
              (state.composerDrafts.composerForThread item.roomId rootEventId),
              [.emitUiEvent .threadChanged])
          | none => (state, [])
        emptied.andThen (fun state => showScheduledSends state item.roomId)
    | none =>
      match state.composerDrafts.advanceRoomRevision item.roomId draftRevision with
      | .error _ => (state, [])
      | .ok (_, drafts) =>
        let state := { state with composerDrafts := drafts }
        if timelineShows state item.roomId then
          showScheduledSends
            (setTimelineComposer state (state.composerDrafts.composerForRoom item.roomId)) item.roomId
        else (state, [])

/-- A message scheduled without a revision takes the draft as it is. -/
def handleScheduledSendCreated (item : ScheduledSendItem) : Outcome :=
  let draftRevision :=
    match item.threadRootEventId with
    | some rootEventId => state.composerDrafts.threadRevision item.roomId rootEventId
    | none => state.composerDrafts.roomRevision item.roomId
  handleScheduledSendCreatedAtRevision state item draftRevision

def handleScheduledSendDispatchStarted (scheduledId : String) : Outcome :=
  if !isSessionReady state then (state, [])
  else
    match state.scheduledSends.startLocalDispatch scheduledId with
    | none => (state, [])
    | some (_, scheduledSends) => ({ state with scheduledSends := scheduledSends }, [])

/-- A changed or removed scheduled send is shown again. -/
def replaceScheduledSends (changed : Option (ScheduledSendItem × ScheduledSendStore)) : Outcome :=
  if !isSessionReady state then (state, [])
  else
    match changed with
    | none => (state, [])
    | some (item, scheduledSends) =>
      showScheduledSends { state with scheduledSends := scheduledSends } item.roomId

def handleScheduledSendDispatchFailed (scheduledId : String) (retryAtMs : Nat) : Outcome :=
  replaceScheduledSends state (state.scheduledSends.retryLocalDispatch scheduledId retryAtMs)

def handleScheduledSendRescheduled (scheduledId body : String) (sendAtMs : Nat)
    (handle : ScheduledSendHandle) : Outcome :=
  replaceScheduledSends state (state.scheduledSends.reschedule scheduledId body sendAtMs handle)

def handleScheduledSendCancelledOrDispatched (scheduledId : String) : Outcome :=
  replaceScheduledSends state (state.scheduledSends.remove scheduledId)

/-! ## Staged uploads and the gallery -/

def composerTargetIsActive : ComposerTarget -> Bool
  | .main roomId => timelineShows state roomId
  | .thread roomId rootEventId => (threadShowing state roomId rootEventId).isSome

variable (target : ComposerTarget)

def refreshAndEmitUploadTarget : Outcome :=
  match target with
  | .main roomId => (refreshTimelineUploadStaging state, [.emitUiEvent (.timelineChanged roomId)])
  | .thread _ _ =>
    match state.thread with
    | .opened pane =>
      ({ state with
          thread := .opened { pane with stagedUploads := state.uploadStaging.itemsForTarget target } },
        [.emitUiEvent .threadChanged])
    | _ => (state, [.emitUiEvent .threadChanged])

/-- A change of the uploads staged in an open composer. -/
def replaceUploads (changed : Option UploadStagingStore) : Outcome :=
  if !isSessionReady state || !composerTargetIsActive state target then (state, [])
  else
    match changed with
    | none => (state, [])
    | some uploadStaging => refreshAndEmitUploadTarget { state with uploadStaging := uploadStaging } target

def handleUploadStagingChanged (items : List StagedUploadItem) : Outcome :=
  if !roomExists state target.roomId then (state, [])
  else replaceUploads state target (some (state.uploadStaging.replaceTargetItems target items))

def handleUploadStagingCaptionChanged (stagedId : String)
    (caption : Option ComposerDocument) : Outcome :=
  replaceUploads state target (state.uploadStaging.updateCaption target stagedId caption)

/-- Compression is only chosen for images. -/
def stagedCompressionChoiceIsValidForItem (item : Option StagedUploadItem)
    (compressionChoice : StagedUploadCompressionChoice) : Bool :=
  match item, compressionChoice with
  | none, _ => false
  | some item, .notApplicable => decide (item.kind = .file)
  | some item, _ => decide (item.kind ≠ .file)

attribute [local instance] lexOrd in
def handleUploadStagingCompressionChanged
    (stagedId : String) (compressionChoice : StagedUploadCompressionChoice) : Outcome :=
  if !stagedCompressionChoiceIsValidForItem state.uploadStaging.items[(target, stagedId)]?
      compressionChoice then (state, [])
  else
    replaceUploads state target
      (state.uploadStaging.updateCompressionChoice target stagedId compressionChoice)

def handleUploadStagingOutputSelected (stagedId : String)
    (selection : StagedUploadOutputSelection) : Outcome :=
  replaceUploads state target (state.uploadStaging.selectOutput target stagedId selection)

def handleUploadStagingCleared : Outcome :=
  let (cleared, uploadStaging) := state.uploadStaging.clearTarget target
  replaceUploads state target (if cleared then some uploadStaging else none)

def handleMediaGalleryUpdated (roomId : String) (items : List TimelineMediaGalleryItem) : Outcome :=
  if !isSessionReady state || !roomExists state roomId then (state, [])
  else
    let state := { state with mediaGallery := state.mediaGallery.replaceRoomItems roomId items }
    if timelineShows state roomId then
      (refreshTimelineMediaGallery state, [.emitUiEvent (.timelineChanged roomId)])
    else (state, [])

/-! ## The thread pane -/

/-- The pane of a thread whose draft and uploads are read from the stores. -/
def openThreadPane (roomId rootEventId : String) (intent : ThreadOpenIntent)
    (isSubscribed : Bool) : OpenThread where
  roomId := roomId
  rootEventId := rootEventId
  intent := intent
  isSubscribed := isSubscribed
  composer := state.composerDrafts.composerForThread roomId rootEventId
  stagedUploads := state.uploadStaging.itemsForTarget (.thread roomId rootEventId)

def clearThreadUploads (roomId : String) : AppState :=
  { state with uploadStaging := state.uploadStaging.clearThreadTargetsForRoom roomId }

def handleOpenThread (roomId rootEventId : String) (intent : ThreadOpenIntent) : Outcome :=
  if !isSessionReady state || !timelineShows state roomId then (state, [])
  else
    let state := clearThreadUploads state roomId
    let thread :=
      match intent with
      | .newThreadDraft => ThreadPaneState.opened (openThreadPane state roomId rootEventId intent false)
      | _ => .opening roomId rootEventId intent
    ({ state with thread := thread, threadAttention := .tracking roomId rootEventId 0 0 0 },
      [.openThreadTimeline roomId rootEventId intent, .emitUiEvent .threadChanged])

def handleThreadSubscribed (roomId rootEventId : String) : Outcome :=
  if !isSessionReady state then (state, [])
  else
    match state.thread with
    | .opened pane =>
      if pane.roomId ≠ roomId || pane.rootEventId ≠ rootEventId || pane.isSubscribed then (state, [])
      else ({ state with thread := .opened { pane with isSubscribed := true } },
        [.emitUiEvent .threadChanged])
    | .opening openingRoomId openingRootEventId intent =>
      if openingRoomId ≠ roomId || openingRootEventId ≠ rootEventId then (state, [])
      else ({ state with thread := .opened (openThreadPane state roomId rootEventId intent true) },
        [.emitUiEvent .threadChanged])
    | _ => (state, [])

/-- A reply makes a new thread an existing one. -/
def promoteIntent (roomId rootEventId : String) : Option ThreadPaneState :=
  match state.thread with
  | .opening openRoomId openRootEventId .newThreadDraft =>
    if openRoomId = roomId && openRootEventId = rootEventId then
      some (.opening openRoomId openRootEventId .existingThread)
    else none
  | .opened pane =>
    if pane.roomId = roomId && pane.rootEventId = rootEventId && pane.intent = .newThreadDraft then
      some (.opened { pane with intent := .existingThread })
    else none
  | _ => none

def handleThreadActivityObserved (roomId rootEventId : String) : Outcome :=
  if !isSessionReady state then (state, [])
  else
    match promoteIntent state roomId rootEventId with
    | none => (state, [])
    | some thread => ({ state with thread := thread }, [.emitUiEvent .threadChanged])

/-- The intent of the thread pane that waits for this subscription. -/
def pendingSubscription (roomId rootEventId : String) : Option ThreadOpenIntent :=
  match state.thread with
  | .opening openRoomId openRootEventId intent =>
    if openRoomId = roomId && openRootEventId = rootEventId then some intent else none
  | .opened pane =>
    if pane.roomId = roomId && pane.rootEventId = rootEventId && !pane.isSubscribed then some pane.intent
    else none
  | _ => none

def handleThreadSubscriptionFailed (roomId rootEventId : String)
    (failureKind : OperationFailureKind) : Outcome :=
  if !isSessionReady state then (state, [])
  else
    match pendingSubscription state roomId rootEventId with
    | none => (state, [])
    | some intent =>
      ({ clearThreadUploads state roomId with
          thread := .failed roomId rootEventId intent failureKind
          threadAttention := .closed
          errors := state.errors ++
            [{ code := "thread_subscription_failed"
               message := "Matrix thread subscription failed"
               recoverable := true }] },
        [.emitUiEvent .threadChanged, .emitUiEvent .errorChanged])

/-- The room of the thread pane. -/
def threadRoomId : ThreadPaneState -> Option String
  | .closed => none
  | .opening roomId _ _ => some roomId
  | .opened pane => some pane.roomId
  | .failed roomId _ _ _ => some roomId

def handleCloseThread : Outcome :=
  if !isSessionReady state then (state, [])
  else
    match threadRoomId state.thread with
    | none => (state, [])
    | some roomId =>
      ({ clearThreadUploads state roomId with thread := .closed, threadAttention := .closed },
        [.emitUiEvent .threadChanged])

end Koushi
