import Koushi.Reducer.ActiveRoom
import Koushi.Reducer.RegistrySteps
import Koushi.Reducer.MirrorDrafts

namespace Koushi

open Collections MirroredPanes Machine Faithful

/-!
# The visible composers mirror the draft store

Navigation rebuilds the panes from the store, and a room-list update prunes the
store only after it has closed the pane of a room that is gone.  Together with
the handlers of drafts and submissions this makes the mirror an invariant of
every run whose steps meet `KeepsMirror`.
-/

/-! ## The thread pane -/

variable {before after state : AppState} {roomId : String} {action : AppAction}

/-- Attach the thread pane to the room that the timeline pane shows. -/
theorem Mirrored.of_openSide (mirrored : Mirrored before)
    (shown : before.timeline.roomId = some roomId) (inner : Option String)
    (attached : panes after = (panes before).openSide roomId inner) : Mirrored after := by
  rw [Mirrored, attached]
  exact openSide mirrored (panes_main_eq_some.mpr ⟨shown, rfl⟩) inner

variable (mirrored : Mirrored state)

include mirrored in
/-- The thread pane is attached to the room of the timeline pane. -/
theorem Mirrored.attachedRoom {content : Option (String × DraftView)}
    (side : threadShape state.thread = some (roomId, content)) :
    state.timeline.roomId = some roomId := by
  rcases mirrored.attached roomId content side with ⟨shown, opened⟩
  exact (panes_main_eq_some.mp opened).1

variable {intent : ThreadOpenIntent} {rootEventId : String}

/-- A thread pane that opens reads its slot. -/
theorem threadShape_openThreadPane (isSubscribed : Bool) :
    threadShape (.opened (openThreadPane state roomId rootEventId intent isSubscribed)) =
      some (roomId, some (rootEventId, slotView state.composerDrafts.threadSlots (roomId, rootEventId))) :=
  congrArg (fun view => some (roomId, some (rootEventId, view)))
    (composerForThread_view state.composerDrafts roomId rootEventId)

include mirrored in
theorem handleOpenThread_mirrored : Mirrored (handleOpenThread state roomId rootEventId intent).1 := by
  unfold handleOpenThread
  split
  · exact mirrored
  next admitted =>
  simp only [Bool.or_eq_true, not_or, Bool.not_eq_true, Bool.not_eq_false'] at admitted
  have shown : state.timeline.roomId = some roomId := timelineShows_iff.mp admitted.2
  cases intent with
  | newThreadDraft =>
    refine mirrored.of_openSide shown (some rootEventId) ?_
    exact ext (fun _ => rfl) (fun _ => rfl) rfl rfl
      (threadShape_openThreadPane _)
  | existingThread | pinnedReply => exact mirrored.of_openSide shown none rfl

include mirrored in
theorem handleThreadSubscribed_mirrored : Mirrored (handleThreadSubscribed state roomId rootEventId).1 := by
  unfold handleThreadSubscribed
  split
  · exact mirrored
  split
  · next pane opened =>
    split
    · exact mirrored
    refine mirrored.of_panes_eq ?_
    simp only [panes, opened, threadShape_opened]
  · next openingRoomId openingRootEventId intent opening =>
    split
    · exact mirrored
    next matched =>
    simp only [Bool.or_eq_true, decide_eq_true_eq, not_or, ne_eq, not_not] at matched
    have side : threadShape state.thread = some (roomId, none) := by
      rw [opening, matched.1]
      rfl
    refine mirrored.of_openSide (mirrored.attachedRoom side) (some rootEventId) ?_
    exact ext (fun _ => rfl) (fun _ => rfl) rfl rfl
      (threadShape_openThreadPane true)
  · exact mirrored

/-- A pane that waits for its subscription is a pane of that room. -/
theorem pendingSubscription_threadShape {roomId rootEventId : String}
    {intent : ThreadOpenIntent} (pending : pendingSubscription state roomId rootEventId = some intent) :
    ∃ content, threadShape state.thread = some (roomId, content) := by
  unfold pendingSubscription at pending
  split at pending
  · next opening =>
    split at pending
    · next matched =>
      simp only [Bool.and_eq_true, decide_eq_true_eq] at matched
      exact ⟨none, by rw [opening, matched.1]; rfl⟩
    · cases pending
  · next pane opened =>
    split at pending
    · next matched =>
      simp only [Bool.and_eq_true, decide_eq_true_eq] at matched
      exact ⟨_, by rw [opened, threadShape_opened, matched.1.1]⟩
    · cases pending
  · cases pending

include mirrored in
theorem handleThreadSubscriptionFailed_mirrored (failureKind : OperationFailureKind) :
    Mirrored (handleThreadSubscriptionFailed state roomId rootEventId failureKind).1 := by
  unfold handleThreadSubscriptionFailed
  split
  · exact mirrored
  split
  · exact mirrored
  next pending =>
  rcases pendingSubscription_threadShape pending with ⟨content, side⟩
  exact mirrored.of_openSide (mirrored.attachedRoom side) none rfl

include mirrored in
theorem handleCloseThread_mirrored : Mirrored (handleCloseThread state).1 := by
  unfold handleCloseThread
  split
  · exact mirrored
  split
  · exact mirrored
  · exact closeSide mirrored

/-! ## Changes of the active room -/

/-- A room that is opened shows its slot. -/
theorem panes_opened_eq (drafts : after.composerDrafts = before.composerDrafts)
    (active : after.navigation.activeRoomId = some roomId)
    (timeline : after.timeline = timelineForRoom before roomId)
    (thread : threadShape after.thread = none) : panes after = (panes before).openMain roomId := by
  apply ext
  · intro other
    simp only [panes, drafts, openMain]
  · intro other
    simp only [panes, drafts, openMain]
  · exact active
  · simp only [panes, timeline, timelineForRoom, openMain, Option.map_some,
      composerForRoom_view]
  · exact thread

/-- A pane change shows the mirror again. -/
theorem Mirrored.of_paneChange (mirrored : Mirrored before)
    (keeps : KeepsLists before after) (change : PaneChange before after) : Mirrored after := by
  cases change with
  | kept active timeline thread =>
    refine mirrored.of_panes_eq ?_
    simp only [panes, keeps.composerDrafts, active, timeline, thread]
  | opened roomId listed active timeline thread =>
    have closed : threadShape after.thread = none := by
      rcases thread with closed | ⟨inactive, same⟩
      · rw [closed]
        rfl
      · -- without an active room no pane is open
        rw [same]
        refine side_eq_none mirrored ?_
        cases main : (panes before).main with
        | none => rfl
        | some shown =>
          have selected := mirrored.selected shown.1 shown.2 main
          exact absurd (selected.symm.trans inactive) (by simp)
    rw [Mirrored, panes_opened_eq keeps.composerDrafts active timeline closed]
    exact faithful_openMain _ roomId
  | cleared active timeline thread =>
    have closed : panes after = (panes before).closeMain := by
      simp only [panes, keeps.composerDrafts, active, timeline, thread, closeMain]
      rfl
    rw [Mirrored, closed]
    exact faithful_closeMain _

include mirrored in
theorem Mirrored.of_stage {stage : AppState -> Outcome}
    (isStage : IsStage stage) : Mirrored (stage state).1 :=
  mirrored.of_paneChange (isStage state).1 (isStage state).2

theorem rememberActiveRoomForCurrentSpace_panes :
    panes (rememberActiveRoomForCurrentSpace state) = panes state := by
  unfold rememberActiveRoomForCurrentSpace
  dsimp only
  (repeat' split) <;> rfl

theorem restoreFilter_panes (restored : SpaceNavigationSelection × Bool) :
    panes (restoreFilter state restored) = panes state := by
  unfold restoreFilter
  split <;> rfl

theorem selectActiveRoomForNavigation_mirrored :
    Mirrored (selectActiveRoomForNavigation state roomId).1 := by
  rw [Mirrored, panes_opened_eq rfl rfl rfl rfl]
  exact faithful_openMain (panes state) roomId

theorem clearActiveRoomForNavigation_mirrored (previousRoomId : String) :
    Mirrored (clearActiveRoomForNavigation state previousRoomId).1 :=
  faithful_closeMain (panes state)

include mirrored in
theorem openRestoredRoom_mirrored
    (targetRoomId : Option String) : Mirrored (openRestoredRoom state targetRoomId).1 := by
  unfold openRestoredRoom
  split
  · exact mirrored
  split
  · exact selectActiveRoomForNavigation_mirrored
  · exact clearActiveRoomForNavigation_mirrored _
  · exact mirrored

include mirrored in
theorem handleSelectSpace_mirrored
    (spaceId : Option String) : Mirrored (handleSelectSpace state spaceId).1 := by
  have remembered : forall activeSpaceId, Mirrored { rememberActiveRoomForCurrentSpace state with
      navigation.activeSpaceId := activeSpaceId } := fun activeSpaceId =>
    mirrored.of_panes_eq (rememberActiveRoomForCurrentSpace_panes)
  unfold handleSelectSpace
  split
  · exact mirrored
  dsimp only
  split
  · simp only [Outcome.andThen_state]
    split
    · exact clearActiveRoomForNavigation_mirrored _
    · exact remembered _
  · refine Mirrored.of_panes_eq ?_ (rememberActiveRoomForCurrentSpace_panes)
    exact openRestoredRoom_mirrored ((remembered _).of_panes_eq (restoreFilter_panes _)) _

include mirrored in
theorem handleSelectRoom_mirrored : Mirrored (handleSelectRoom state roomId).1 := by
  unfold handleSelectRoom
  split
  · exact mirrored
  split
  · exact mirrored
  refine Mirrored.of_panes_eq ?_ (rememberActiveRoomForCurrentSpace_panes)
  split
  · exact mirrored.of_panes_eq (rememberActiveRoomForCurrentSpace_panes)
  · exact selectActiveRoomForNavigation_mirrored

/-- A persisted navigation record may not deselect the room that is open. -/
def navigationAgrees (state : AppState) (navigation : NavigationState) : Prop :=
  forall roomId, state.timeline.roomId = some roomId -> navigation.activeRoomId = some roomId

include mirrored in
theorem handleNavigationLoaded_mirrored {navigation : NavigationState}
    (agrees : navigationAgrees state navigation) :
    Mirrored (handleNavigationLoaded state navigation).1 := by
  unfold handleNavigationLoaded
  split
  · exact mirrored
  refine select mirrored ?_
  intro roomId shown opened
  exact agrees roomId (panes_main_eq_some.mp opened).1

include mirrored in
theorem handleDirectoryJoinSucceeded_mirrored (requestId : Nat) :
    Mirrored (handleDirectoryJoinSucceeded state requestId roomId).1 := by
  unfold handleDirectoryJoinSucceeded
  split
  · exact mirrored
  rw [Mirrored, panes_opened_eq rfl rfl rfl rfl]
  exact faithful_openMain (panes state) roomId

/-! ## Room-list updates -/

variable {rooms : List RoomSummary}

/-- Installing a list drops the slots of the rooms that are not kept. -/
theorem listInstalled_panes (spaces : List SpaceSummary)
    (authoritative : Bool) : panes (listInstalled state spaces rooms authoritative) =
      (panes state).prune (fun roomId => (retainedRoomIds (keptRooms state rooms)).contains roomId)
        .unwritten := by
  have views := state.composerDrafts.retainRooms_views (retainedRoomIds (keptRooms state rooms))
  cases authoritative <;> exact ext views.1 views.2 rfl rfl rfl

theorem listInstalled_listed {spaces : List SpaceSummary} {rooms : List RoomSummary} {authoritative : Bool}
    (listed : roomExists (listInstalled state spaces rooms authoritative) roomId = true) :
    (retainedRoomIds (keptRooms state rooms)).contains roomId = true := by
  have installed : (listInstalled state spaces rooms authoritative).rooms = keptRooms state rooms := by
    cases authoritative <;> rfl
  rw [roomExists, installed, hasKey_iff] at listed
  rw [retainedRoomIds, Std.ExtTreeSet.contains_iff_mem, OrdSet.mem_ofList]
  exact listed

section

variable (mirrored : Mirrored state)
include mirrored

variable (spaces : List SpaceSummary)

/-- The pane of a vanished room is closed before its lost slot can be seen. -/
theorem closeVanishedRoom_mirrored (rooms : List RoomSummary) (authoritative : Bool) :
    Mirrored (closeVanishedRoom (listInstalled state spaces rooms authoritative)).1 := by
  have pruned : (forall roomId, state.navigation.activeRoomId = some roomId ->
      roomExists (listInstalled state spaces rooms authoritative) roomId = true) ->
        Mirrored (listInstalled state spaces rooms authoritative) := by
    intro listed
    rw [Mirrored, listInstalled_panes]
    refine prune mirrored _ _ ?_
    intro roomId shown opened
    exact listInstalled_listed (listed roomId (mirrored.selected roomId shown opened))
  have sameActive := (listInstalled_kept state spaces rooms authoritative).1
  unfold closeVanishedRoom
  rw [sameActive]
  cases active : state.navigation.activeRoomId with
  | none =>
    refine pruned ?_
    intro roomId selected
    rw [active] at selected
    cases selected
  | some activeRoomId =>
    dsimp only
    split
    · next listed =>
      refine pruned ?_
      intro roomId selected
      rw [active] at selected
      cases selected
      exact listed
    · exact faithful_closeMain (panes (listInstalled state spaces rooms authoritative))

theorem handleRoomListUpdatedWithCrawler_mirrored (admitCrawler authoritative : Bool) :
    Mirrored (handleRoomListUpdatedWithCrawler state spaces rooms admitCrawler authoritative).1 := by
  unfold handleRoomListUpdatedWithCrawler
  split
  · exact mirrored
  have closed := closeVanishedRoom_mirrored mirrored spaces rooms authoritative
  exact (((closed.of_stage (replaceVanishedRoom_isStage _)).of_stage followSelectedSpace_isStage).of_stage
    reopenActiveRoom_isStage).of_stage (openDefaultRoom_isStage _)

/-- The lists that a handler changes before the update are not seen by the panes. -/
theorem Mirrored.of_listChange (change : ListChange state after) : Mirrored after := by
  cases change with
  | ignored => exact mirrored
  | installed =>
    apply handleRoomListUpdatedWithCrawler_mirrored
    exact mirrored

end

/-! ## The session -/

theorem mirrored_of_closed (timeline : state.timeline.roomId = none)
    (thread : state.thread = .closed) : Mirrored state := by
  have main : (panes state).main = none := by rw [panes, timeline, Option.map_none]
  have side : (panes state).side = none := by rw [panes, thread]; rfl
  constructor <;> simp [main, side]

theorem AppState.default_mirrored : Mirrored AppState.default := mirrored_of_closed rfl rfl

section

variable (mirrored : Mirrored state)
include mirrored

theorem suspendReadySession_mirrored
    (next : SessionInfo -> SessionState) : Mirrored (suspendReadySession state next).1 := by
  unfold suspendReadySession
  split
  · exact mirrored_of_closed rfl rfl
  · exact mirrored

variable {trust : CurrentDeviceTrustState}

theorem gatedDeviceTrustChanged_mirrored (info : SessionInfo) :
    Mirrored (gatedDeviceTrustChanged state info trust).1 := by
  cases trust <;> exact mirrored

theorem handleCurrentDeviceTrustChanged_mirrored : Mirrored (handleCurrentDeviceTrustChanged state trust).1 := by
  unfold handleCurrentDeviceTrustChanged
  (repeat' split) <;>
    first
    | exact mirrored
    | exact suspendReadySession_mirrored mirrored _
    | exact gatedDeviceTrustChanged_mirrored mirrored _

/-- The end of a session closes both panes, or does not happen. -/
theorem reduceAction_endsSession
    (ends : action.endsSession = true) : Mirrored (reduceAction state action).1 := by
  cases action with
  | logoutRequested => exact mirrored_of_closed rfl rfl
  | logoutFinished | deviceCleanupCompleted => exact AppState.default_mirrored
  | switchAccountRequested info =>
    rw [reduceAction, handleSwitchAccountRequested]
    split
    · exact mirrored
    · exact mirrored_of_closed rfl rfl
  | e2eeRecoveryRequired info =>
    rw [reduceAction, handleE2eeRecoveryRequired]
    split
    · exact mirrored_of_closed rfl rfl
    · exact mirrored
  | verificationSessionRejected =>
    rw [reduceAction, handleVerificationSessionRejected]
    split <;> first | exact mirrored_of_closed rfl rfl | exact mirrored
  | provisionalSessionDiscarded =>
    rw [reduceAction, handleProvisionalSessionDiscarded]
    split
    · exact AppState.default_mirrored
    · exact mirrored
  | _ => cases ends

end

/-! ## Whole runs -/

theorem syncAssistantDraftMarkers_panes : panes (syncAssistantDraftMarkers state) = panes state := by
  unfold syncAssistantDraftMarkers
  dsimp only
  split
  · next pane opened =>
    have openedBefore : state.thread = .opened pane := opened
    simp only [panes, setThreadComposer, setTimelineComposer, openedBefore, threadShape_opened]
    rfl
  · rfl

/-- When an action reaches the composer along with the store.  A loaded, seeded
or staged draft goes into an idle composer without text; a queued submission is
taken out of the composer that waits for it. -/
def KeepsMirror (state : AppState) : AppAction -> Prop
  | .composerDraftsLoaded drafts => LoadAgrees state drafts
  | .composerDraftChanged _ document => EmptyIsDefault document
  | .composerDraftChangedAtRevision _ document _ => EmptyIsDefault document
  | .threadComposerDraftChanged _ _ document => EmptyIsDefault document
  | .threadComposerDraftChangedAtRevision _ _ document _ => EmptyIsDefault document
  | .composerDraftSeeded roomId _ => targetIsIdle state (.main roomId)
  | .assistantDraftStaged target _ _ => targetIsIdle state target
  | .composerSubmissionQueued submissionId transactionId target _ =>
    submissionIsAwaited state submissionId transactionId target
  | .navigationLoaded navigation => navigationAgrees state navigation
  | _ => True

theorem reduceAction_mirrored (keeps : KeepsMirror state action)
    (mirrored : Mirrored state) : Mirrored (reduceAction state action).1 := by
  by_cases ends : action.endsSession = true
  · exact reduceAction_endsSession mirrored ends
  by_cases leaves : action.leavesComposers = true
  · exact mirrored.of_panes_eq (reduceAction_untouched state leaves).panes_eq
  cases action with
  | currentDeviceTrustChanged => exact handleCurrentDeviceTrustChanged_mirrored mirrored
  | sessionLocked | sessionAuthenticationInvalidated => exact suspendReadySession_mirrored mirrored _
  | roomListUpdated => exact mirrored.of_listChange (handleRoomListUpdated_change ..)
  | roomListSnapshotProvisional => exact mirrored.of_listChange (handleRoomListSnapshotProvisional_change ..)
  | roomListSnapshotAuthoritative =>
    exact mirrored.of_listChange (handleRoomListSnapshotAuthoritative_change ..)
  | roomLeftLocally => exact mirrored.of_listChange (handleRoomLeftLocally_change ..)
  | selectSpace => exact handleSelectSpace_mirrored mirrored _
  | selectRoom => exact handleSelectRoom_mirrored mirrored
  | navigationLoaded => exact handleNavigationLoaded_mirrored mirrored keeps
  | directoryJoinSucceeded => exact handleDirectoryJoinSucceeded_mirrored mirrored ..
  | scheduledSendCreated | scheduledSendCreatedAtRevision =>
    exact handleScheduledSendCreatedAtRevision_mirrored mirrored ..
  | composerDraftsLoaded => exact handleComposerDraftsLoaded_mirrored mirrored keeps
  | composerDraftChanged => exact handleComposerDraftChangedNow_mirrored mirrored keeps
  | composerDraftChangedAtRevision => exact handleComposerDraftChanged_mirrored mirrored _ keeps _
  | threadComposerDraftChanged => exact handleThreadComposerDraftChangedNow_mirrored mirrored keeps
  | threadComposerDraftChangedAtRevision =>
    exact handleThreadComposerDraftChanged_mirrored mirrored keeps _
  | composerDraftSeeded => exact handleComposerDraftSeeded_mirrored mirrored _ keeps
  | assistantDraftStaged => exact handleAssistantDraftStaged_mirrored mirrored _ keeps
  | assistantDraftMarkerDismissed =>
    exact mirrored.of_panes_eq (handleAssistantDraftMarkerDismissed_panes)
  | composerDraftAccepted => exact handleComposerDraftAccepted_mirrored mirrored ..
  | sendTextSubmitted | sendTextSubmittedAtRevision =>
    exact handleSendTextSubmitted_mirrored mirrored ..
  | sendTextFinished => exact mirrored.of_panes_eq (handleSendTextFinished_panes ..)
  | sendTextFailed => exact mirrored.of_panes_eq (handleSendTextFailed_panes ..)
  | threadReplySubmitted | threadReplySubmittedAtRevision =>
    exact handleThreadReplySubmitted_mirrored mirrored ..
  | threadReplyFinished => exact mirrored.of_panes_eq (handleThreadReplyFinished_panes ..)
  | threadReplyFailed => exact mirrored.of_panes_eq (handleThreadReplyFailed_panes ..)
  | composerSubmissionAccepted | composerSubmissionAcceptedAtRevision =>
    exact handleComposerSubmissionAccepted_mirrored mirrored ..
  | threadSubmissionAccepted | threadSubmissionAcceptedAtRevision =>
    exact handleThreadSubmissionAccepted_mirrored mirrored ..
  | composerSubmissionFinished submissionId roomId transactionId =>
    rw [reduceAction, handleComposerSubmissionFinished_eq]
    exact mirrored
  | composerSubmissionQueued => exact handleQueued_mirrored mirrored _ _ keeps
  | composerSubmissionSettled => exact mirrored.of_panes_eq (handleSettled_panes ..)
  | composerReplyTargetSelected =>
    exact mirrored.of_panes_eq (handleComposerReplyTargetSelected_panes ..)
  | composerReplyCancelled => exact mirrored.of_panes_eq (handleComposerReplyCancelled_panes)
  | threadComposerReplyTargetSelected =>
    exact mirrored.of_panes_eq (handleThreadComposerReplyTargetSelected_panes ..)
  | threadComposerReplyCancelled =>
    exact mirrored.of_panes_eq (handleThreadComposerReplyCancelled_panes ..)
  | openThread => exact handleOpenThread_mirrored mirrored ..
  | threadSubscribed => exact handleThreadSubscribed_mirrored mirrored ..
  | threadSubscriptionFailed => exact handleThreadSubscriptionFailed_mirrored mirrored ..
  | closeThread => exact handleCloseThread_mirrored mirrored
  | _ => first | exact absurd rfl ends | exact absurd rfl leaves

theorem step_mirrored (keeps : KeepsMirror state action)
    (mirrored : Mirrored state) : Mirrored (step state action) := by
  exact (reduceAction_mirrored keeps mirrored).of_panes_eq (syncAssistantDraftMarkers_panes)

/-- In every run whose steps meet `KeepsMirror`, an open composer shows the draft
that the store holds for its room or thread. -/
theorem run_mirrors_drafts {actions : List AppAction}
    (guarded : Machine.EveryStep step KeepsMirror AppState.default actions) :
    let state := Machine.run step AppState.default actions
    (forall roomId, state.timeline.roomId = some roomId ->
        state.timeline.composer.view = (state.composerDrafts.composerForRoom roomId).view) ∧
      forall pane, state.thread = .opened pane ->
        pane.composer.view =
          (state.composerDrafts.composerForThread pane.roomId pane.rootEventId).view := by
  have mirrored : Mirrored (run step AppState.default actions) :=
    run_invariant_of_everyStep Mirrored (fun _ _ => step_mirrored) guarded
      AppState.default_mirrored
  constructor
  · intro roomId opened
    rw [composerForRoom_view]
    exact mirrored.timeline opened
  · intro pane opened
    rw [composerForThread_view]
    exact mirrored.thread opened

/-- A started client that shows a lobby. -/
def lobbyOpened : List AppAction :=
  coldStart ⟨"https://example.org", "@ada:example.org", "DEVICE"⟩ ++
    [.roomListUpdated [] [⟨"!lobby", false, [], []⟩]]

/-- A draft is written, submitted and queued in the open room, and a thread is
opened; both composers show what the store holds then. -/
theorem run_mirrors_drafts_queued :
    let actions := lobbyOpened ++
      [.composerDraftChanged "!lobby" (ComposerDocument.fromPlainText "hello"),
        .composerSubmissionAccepted "s1" "!lobby" "t1" "hello",
        .composerSubmissionQueued "s1" "t1" (.main "!lobby") 1,
        .openThread "!lobby" "$root" .newThreadDraft]
    Machine.EveryStep step KeepsMirror AppState.default actions ∧
      let state := Machine.run step AppState.default actions
      (forall roomId, state.timeline.roomId = some roomId ->
          state.timeline.composer.view = (state.composerDrafts.composerForRoom roomId).view) ∧
        forall pane, state.thread = .opened pane ->
          pane.composer.view =
            (state.composerDrafts.composerForThread pane.roomId pane.rootEventId).view := by
  intro actions
  have guarded : EveryStep step KeepsMirror AppState.default actions := by
    refine ⟨trivial, trivial, trivial, trivial, EmptyIsDefault.of_content (by decide), trivial, ?_, trivial,
      trivial⟩
    intro _ _
    decide +kernel
  exact ⟨guarded, run_mirrors_drafts guarded⟩

/-- A composer with a submission in flight is not filled by a seeded draft, and a
composer with text is not overwritten by a loaded store; the text stays different
from the store after the next action. -/
theorem hydration_skips_busy_composer :
    let sending := Machine.run step AppState.default
      (lobbyOpened ++ [.composerSubmissionAccepted "s1" "!lobby" "t1" "hello"])
    let seeded := step sending (.composerDraftSeeded "!lobby" (ComposerDocument.fromPlainText "later"))
    let typed := Machine.run step AppState.default
      (lobbyOpened ++ [.composerDraftChanged "!lobby" (ComposerDocument.fromPlainText "typed"),
        .composerDraftsLoaded .default])
    let replying := step typed (.composerReplyTargetSelected "!lobby" "$event")
    isSessionReady seeded = true ∧ seeded.timeline.roomId = some "!lobby" ∧
      seeded.timeline.composer.draft = "" ∧
      (seeded.composerDrafts.composerForRoom "!lobby").draft = "later" ∧
      isSessionReady replying = true ∧ replying.timeline.roomId = some "!lobby" ∧
      replying.timeline.composer.draft = "typed" ∧
      (replying.composerDrafts.composerForRoom "!lobby").draft = "" := by
  decide +kernel

end Koushi
