import Koushi.Reducer.Reduce

namespace Koushi

open Collections

/-!
# Actions that leave the composers alone

About half of the actions touch neither the drafts, nor the submissions, nor
what the two panes show.  `Untouched` is the frame they share, and
`reduceAction_untouched` gives it for all of them at once, so that a result about
composers or submissions only looks at the remaining actions.
-/

/-- What the thread pane shows: its room and, when it is open, its root and its
composer. -/
def threadView : ThreadPaneState -> Option (String × Option (String × ComposerState))
  | .closed => none
  | .opening roomId _ _ => some (roomId, none)
  | .opened pane => some (pane.roomId, some (pane.rootEventId, pane.composer))
  | .failed roomId _ _ _ => some (roomId, none)

/-- The drafts, the submissions and what the panes show are the same. -/
structure Untouched (before after : AppState) : Prop where
  composerDrafts : after.composerDrafts = before.composerDrafts
  activeRoomId : after.navigation.activeRoomId = before.navigation.activeRoomId
  roomId : after.timeline.roomId = before.timeline.roomId
  composer : after.timeline.composer = before.timeline.composer
  submissionRegistry : after.timeline.submissionRegistry = before.timeline.submissionRegistry
  thread : threadView after.thread = threadView before.thread

variable (state : AppState)

theorem Untouched.refl : Untouched state state := ⟨rfl, rfl, rfl, rfl, rfl, rfl⟩

/-! ## Scheduled sends -/

theorem showScheduledSends_untouched (roomId : String) :
    Untouched state (showScheduledSends state roomId).1 := by
  unfold showScheduledSends
  split <;> constructor <;> rfl

theorem replaceScheduledSends_untouched (changed : Option (ScheduledSendItem × ScheduledSendStore)) :
    Untouched state (replaceScheduledSends state changed).1 := by
  unfold replaceScheduledSends
  split
  · exact .refl state
  cases changed with
  | none => exact .refl state
  | some change =>
    have shown := showScheduledSends_untouched
      { state with scheduledSends := change.2 } change.1.roomId
    exact { shown with }

/-! ## Staged uploads and the gallery -/

variable (target : ComposerTarget)

theorem refreshAndEmitUploadTarget_untouched :
    Untouched state (refreshAndEmitUploadTarget state target).1 := by
  unfold refreshAndEmitUploadTarget
  split
  · constructor <;> rfl
  split
  · next pane opened =>
    refine ⟨rfl, rfl, rfl, rfl, rfl, ?_⟩
    rw [opened]
    rfl
  · exact .refl state

theorem replaceUploads_untouched
    (changed : Option UploadStagingStore) : Untouched state (replaceUploads state target changed).1 := by
  unfold replaceUploads
  split
  · exact .refl state
  cases changed with
  | none => exact .refl state
  | some uploadStaging =>
    have shown := refreshAndEmitUploadTarget_untouched
      { state with uploadStaging := uploadStaging } target
    exact { shown with }

theorem handleUploadStagingChanged_untouched (items : List StagedUploadItem) :
    Untouched state (handleUploadStagingChanged state target items).1 := by
  unfold handleUploadStagingChanged
  split
  · exact .refl state
  · exact replaceUploads_untouched _ _ _

theorem handleUploadStagingCompressionChanged_untouched (stagedId : String)
    (compressionChoice : StagedUploadCompressionChoice) :
    Untouched state (handleUploadStagingCompressionChanged state target stagedId compressionChoice).1 := by
  unfold handleUploadStagingCompressionChanged
  split
  · exact .refl state
  · exact replaceUploads_untouched _ _ _

/-! ## The thread pane -/

theorem promoteIntent_threadView {state : AppState} {roomId rootEventId : String}
    {thread : ThreadPaneState} (promoted : promoteIntent state roomId rootEventId = some thread) :
    threadView thread = threadView state.thread := by
  unfold promoteIntent at promoted
  split at promoted
  · next opening =>
    split at promoted
    · cases promoted
      rw [opening]
      rfl
    · cases promoted
  · next opened =>
    split at promoted
    · cases promoted
      rw [opened]
      rfl
    · cases promoted
  · cases promoted

theorem handleThreadActivityObserved_untouched (roomId rootEventId : String) :
    Untouched state (handleThreadActivityObserved state roomId rootEventId).1 := by
  unfold handleThreadActivityObserved
  split
  · exact .refl state
  split
  · exact .refl state
  · next promoted => exact { Untouched.refl state with thread := promoteIntent_threadView promoted }

/-! ## All of them -/

/-- The actions that leave the drafts, the submissions and the panes alone. -/
def AppAction.leavesComposers : AppAction -> Bool
  | .appStarted => true
  | .restoreSessionSucceeded _ => true
  | .sessionStepped _ _ => true
  | .roomJoinedLocally _ => true
  | .roomListBootstrapStarted _ _ => true
  | .roomListBootstrapFailed _ _ _ => true
  | .roomListFilterSelected _ => true
  | .roomListFilterApplied _ => true
  | .inviteListUpdated _ => true
  | .spaceChildLinkSettled _ _ => true
  | .reorderSpaces _ => true
  | .spaceOrderPreferenceRemoved _ => true
  | .directoryJoinRequested _ _ _ => true
  | .directoryJoinFailed _ _ _ _ => true
  | .timelineSubscribed _ => true
  | .timelineSubscriptionFailed _ => true
  | .timelineBackPaginationRequested _ => true
  | .timelineBackPaginationFinished _ => true
  | .scheduledSendCapabilityChanged _ => true
  | .scheduledSendsLoaded _ => true
  | .scheduledSendDispatchStarted _ => true
  | .scheduledSendDispatchFailed _ _ => true
  | .scheduledSendRescheduled _ _ _ _ => true
  | .scheduledSendCancelledOrDispatched _ => true
  | .uploadStagingChanged _ _ => true
  | .uploadStagingCaptionChanged _ _ _ => true
  | .uploadStagingCompressionChanged _ _ _ => true
  | .uploadStagingOutputSelected _ _ _ => true
  | .uploadStagingCleared _ => true
  | .mediaGalleryUpdated _ _ => true
  | .threadActivityObserved _ _ => true
  | .panelsChanged _ => true
  | _ => false

theorem reduceAction_untouched {action : AppAction}
    (leaves : action.leavesComposers = true) : Untouched state (reduceAction state action).1 := by
  cases action with
  | appStarted | restoreSessionSucceeded | sessionStepped | roomJoinedLocally | roomListBootstrapStarted
  | roomListBootstrapFailed | roomListFilterSelected | roomListFilterApplied | inviteListUpdated
  | spaceChildLinkSettled | reorderSpaces | spaceOrderPreferenceRemoved | directoryJoinRequested
  | directoryJoinFailed =>
    -- The session before it is ready, the room list and the order of the spaces.
    simp only [reduceAction, handleAppStarted, handleRestoreSessionSucceeded, handleRoomJoinedLocally,
      handleRoomListBootstrapStarted, handleRoomListBootstrapFailed, handleRoomListFilterSelected,
      handleRoomListFilterApplied, handleInviteListUpdated, handleSpaceChildLinkSettled,
      handleReorderSpaces, handleSpaceOrderPreferenceRemoved, handleDirectoryJoinRequested,
      handleDirectoryJoinFailed]
    (repeat' split) <;> constructor <;> rfl
  | timelineSubscribed | timelineSubscriptionFailed | timelineBackPaginationRequested
  | timelineBackPaginationFinished | scheduledSendCapabilityChanged | scheduledSendsLoaded
  | scheduledSendDispatchStarted | mediaGalleryUpdated | panelsChanged =>
    -- Parts of the panes that are not their composers.
    simp only [reduceAction, handleTimelineSubscribed, handleTimelineSubscriptionFailed,
      handleTimelineBackPaginationRequested, handleTimelineBackPaginationFinished,
      handleScheduledSendCapabilityChanged, handleScheduledSendsLoaded, refreshTimelineScheduledSends,
      handleScheduledSendDispatchStarted, handleMediaGalleryUpdated, handlePanelsChanged]
    (repeat' split) <;> constructor <;> rfl
  | scheduledSendDispatchFailed | scheduledSendRescheduled | scheduledSendCancelledOrDispatched =>
    exact replaceScheduledSends_untouched state _
  | uploadStagingChanged => exact handleUploadStagingChanged_untouched state ..
  | uploadStagingCaptionChanged | uploadStagingOutputSelected | uploadStagingCleared =>
    exact replaceUploads_untouched state ..
  | uploadStagingCompressionChanged => exact handleUploadStagingCompressionChanged_untouched state ..
  | threadActivityObserved => exact handleThreadActivityObserved_untouched state ..
  | _ => cases leaves

end Koushi
