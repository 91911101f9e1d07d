import Koushi.Reducer.ActiveRoom
import Koushi.Reducer.Frames

namespace Koushi

open Collections ComposerSubmissionRegistry

/-!
# What a step does to the submission registry

The registry sits in the timeline pane, and the pane is rebuilt whenever the
active room changes.  Opening a room carries the registry over; closing the
active room without opening another resets the pane, and so do the ends of a
session.  `closesActiveRoom` and `endsSession` say when, in terms of the state
before the step, and `step_registryChange` is the resulting list of everything a
step can do to the registry.
-/

/-- A registry whose pane may have been reset. -/
def ComposerSubmissionRegistry.resetIf (registry : ComposerSubmissionRegistry) (reset : Bool) :
    ComposerSubmissionRegistry :=
  if reset then .default else registry

/-- A part of a step that leaves the registry alone. -/
def SameRegistry (before after : AppState) : Prop :=
  after.timeline.submissionRegistry = before.timeline.submissionRegistry

/-! ## Loaded drafts and scheduled sends -/

variable (state : AppState)

theorem hydrateTimelineComposer_registry : SameRegistry state (hydrateTimelineComposer state).1 := by
  unfold hydrateTimelineComposer
  dsimp only
  (repeat' split) <;> rfl

theorem hydrateThreadComposer_registry : SameRegistry state (hydrateThreadComposer state).1 := by
  unfold hydrateThreadComposer
  dsimp only
  (repeat' split) <;> rfl

theorem handleComposerDraftsLoaded_registry (drafts : ComposerDraftStore) :
    SameRegistry state (handleComposerDraftsLoaded state drafts).1 := by
  unfold handleComposerDraftsLoaded
  split
  · rfl
  exact (hydrateThreadComposer_registry _).trans
    (hydrateTimelineComposer_registry { state with composerDrafts := drafts })

variable {draftRevision : Nat}

theorem handleScheduledSendCreatedAtRevision_registry (item : ScheduledSendItem) :
    SameRegistry state (handleScheduledSendCreatedAtRevision state item draftRevision).1 := by
  have shown : forall shownState : AppState,
      SameRegistry shownState (showScheduledSends shownState item.roomId).1 :=
    fun shownState => (showScheduledSends_untouched shownState item.roomId).submissionRegistry
  unfold handleScheduledSendCreatedAtRevision
  dsimp only
  (repeat' split) <;> first | rfl | exact shown _

/-! ## The session -/

theorem suspendReadySession_registry (next : SessionInfo -> SessionState) :
    SameRegistry state (suspendReadySession state next).1 := by
  unfold suspendReadySession
  split <;> rfl

variable {trust : CurrentDeviceTrustState}

theorem gatedDeviceTrustChanged_registry (info : SessionInfo) :
    SameRegistry state (gatedDeviceTrustChanged state info trust).1 := by
  cases trust <;> rfl

theorem handleCurrentDeviceTrustChanged_registry :
    SameRegistry state (handleCurrentDeviceTrustChanged state trust).1 := by
  unfold handleCurrentDeviceTrustChanged
  (repeat' split) <;>
    first
    | rfl
    | exact suspendReadySession_registry _ _
    | exact gatedDeviceTrustChanged_registry _ _

/-! ## Changes of the active room -/

theorem handleSelectRoom_registry (roomId : String) :
    SameRegistry state (handleSelectRoom state roomId).1 := by
  unfold handleSelectRoom
  split
  · rfl
  split
  · rfl
  simp only [SameRegistry, Outcome.andThen_state, (rememberActiveRoomForCurrentSpace_kept _).2.1]
  split <;> rfl

/-- A selected space has nothing to show: it is no space, or its remembered
conversation is gone and no room takes its place. -/
def selectionIsEmpty (spaceId : Option String) : Bool :=
  match spaceId.filter (spaceExists state) with
  | none => true
  | some selectedSpaceId =>
    (preferredSelectionInSpace (rememberActiveRoomForCurrentSpace state) selectedSpaceId).roomId.isNone

theorem openRestoredRoom_registry (targetRoomId : Option String) :
    (openRestoredRoom state targetRoomId).1.timeline.submissionRegistry =
      state.timeline.submissionRegistry.resetIf
        (state.navigation.activeRoomId.isSome && targetRoomId.isNone) := by
  unfold openRestoredRoom
  cases targetRoomId with
  | some roomId =>
    rw [Option.isNone_some, Bool.and_false]
    split <;> rfl
  | none => cases state.navigation.activeRoomId <;> rfl

variable {state}

/-- Selecting a space resets the registry exactly when a room was active and the
space has nothing to show. -/
theorem handleSelectSpace_registry (ready : isSessionReady state = true) (spaceId : Option String) :
    (handleSelectSpace state spaceId).1.timeline.submissionRegistry =
      state.timeline.submissionRegistry.resetIf
        (state.navigation.activeRoomId.isSome && selectionIsEmpty state spaceId) := by
  have remembered := rememberActiveRoomForCurrentSpace_kept
  have sameSpaces : spaceExists (rememberActiveRoomForCurrentSpace state) = spaceExists state := by
    funext spaceId
    exact (rememberActiveRoomForCurrentSpace_keeps state).spaceExists spaceId
  unfold handleSelectSpace selectionIsEmpty
  rw [if_neg (by simp [ready])]
  dsimp only
  rw [sameSpaces]
  cases selected : spaceId.filter (spaceExists state) with
  | none =>
    simp only [Outcome.andThen_state, (remembered _).1, Bool.and_true]
    cases active : state.navigation.activeRoomId with
    | none => simp only [(remembered _).2.1]; rfl
    | some previousRoomId => rfl
  | some selectedSpaceId =>
    simp only [Outcome.andThen_state, (remembered _).2.1,
      openRestoredRoom_registry]
    have restored : forall restoredState restored,
        (restoreFilter restoredState restored).timeline = restoredState.timeline ∧
          (restoreFilter restoredState restored).navigation = restoredState.navigation := by
      intro restoredState restored
      unfold restoreFilter
      split <;> exact ⟨rfl, rfl⟩
    simp only [(restored _ _).1, (restored _ _).2, (remembered _).1]
    rfl

/-! ## Room-list updates -/

/-- The active room is not listed, or it is outside the selected space and the
space has no listed room. -/
def losesActiveRoom (state : AppState) : Bool :=
  match state.navigation.activeRoomId with
  | none => false
  | some activeRoomId =>
    !roomExists state activeRoomId ||
      (activeRoomLeftSelectedSpace state activeRoomId && (firstRoomIdInActiveSpace state).isNone)

theorem replaceVanishedRoom_registry (hadActiveRoom : Bool) :
    SameRegistry state (replaceVanishedRoom hadActiveRoom state).1 := by
  unfold replaceVanishedRoom
  (repeat' split) <;> rfl

theorem reopenActiveRoom_registry : SameRegistry state (reopenActiveRoom state).1 := by
  unfold reopenActiveRoom
  (repeat' split) <;> rfl

theorem openDefaultRoom_registry (hadActiveRoom : Bool) :
    SameRegistry state (openDefaultRoom hadActiveRoom state).1 := by
  unfold openDefaultRoom
  (repeat' split) <;> rfl

theorem followSelectedSpace_registry : (followSelectedSpace state).1.timeline.submissionRegistry =
      state.timeline.submissionRegistry.resetIf
        (state.navigation.activeRoomId.any (activeRoomLeftSelectedSpace state) &&
          (firstRoomIdInActiveSpace state).isNone) := by
  unfold followSelectedSpace
  cases state.navigation.activeRoomId with
  | none => rfl
  | some activeRoomId =>
    cases left : activeRoomLeftSelectedSpace state activeRoomId with
    | false => simp [left, resetIf]
    | true =>
      simp only [left, retargetActiveRoomForSelectedSpace, if_true, Option.any_some, Bool.true_and]
      cases firstRoomIdInActiveSpace state <;> rfl

/-- After the list is installed, the registry goes exactly with the active room. -/
theorem resolveActiveRoom_registry (state : AppState) :
    (resolveActiveRoom state.navigation.activeRoomId.isSome state).1.timeline.submissionRegistry =
      state.timeline.submissionRegistry.resetIf (losesActiveRoom state) := by
  have later : forall hadActiveRoom follow,
      (openDefaultRoom hadActiveRoom (reopenActiveRoom follow).1).1.timeline.submissionRegistry =
        follow.timeline.submissionRegistry :=
    fun hadActiveRoom follow =>
      (openDefaultRoom_registry hadActiveRoom).trans (reopenActiveRoom_registry)
  have stages : (resolveActiveRoom state.navigation.activeRoomId.isSome state).1.timeline.submissionRegistry =
      (followSelectedSpace (replaceVanishedRoom state.navigation.activeRoomId.isSome
        (closeVanishedRoom state).1).1).1.timeline.submissionRegistry := later _ _
  rw [stages, followSelectedSpace_registry, replaceVanishedRoom_registry]
  unfold losesActiveRoom
  cases active : state.navigation.activeRoomId with
  | none =>
    -- nothing is open, so nothing is closed or replaced
    have closed : (closeVanishedRoom state).1 = state := by
      simp only [closeVanishedRoom, active]
    simp only [closed, replaceVanishedRoom, Option.isSome_none, Bool.false_and, Bool.false_eq_true,
      if_false, active, Option.any_none]
  | some activeRoomId =>
    cases listed : roomExists state activeRoomId with
    | true =>
      have closed : (closeVanishedRoom state).1 = state := by
        simp only [closeVanishedRoom, active, listed, if_true]
      simp only [closed, replaceVanishedRoom, active, Option.isNone_some, Bool.and_false,
        Bool.false_eq_true, if_false, Option.any_some, listed, Bool.not_true, Bool.false_or]
    | false =>
      have closed : (closeVanishedRoom state).1.timeline.submissionRegistry = .default := by
        simp only [closeVanishedRoom, active, listed, Bool.false_eq_true, if_false]
        rfl
      simp only [closed, resetIf, ite_self, listed, Bool.not_false,
        Bool.true_or, if_true]

/-- The lists of an update, installed before any room is closed. -/
def listInstalled (state : AppState) (spaces : List SpaceSummary) (rooms : List RoomSummary)
    (authoritative : Bool) : AppState :=
  closeVanishedSpace (installRoomList state spaces rooms authoritative)

/-- A room-list update closes the active room. -/
def roomListCloses (state : AppState) (spaces : List SpaceSummary) (rooms : List RoomSummary)
    (authoritative : Bool) : Bool :=
  isSessionReady state && losesActiveRoom (listInstalled state spaces rooms authoritative)

variable (state)

theorem listInstalled_kept (spaces : List SpaceSummary) (rooms : List RoomSummary)
    (authoritative : Bool) : (listInstalled state spaces rooms authoritative).navigation.activeRoomId =
        state.navigation.activeRoomId ∧
      SameRegistry state (listInstalled state spaces rooms authoritative) := by
  cases authoritative <;> exact ⟨rfl, rfl⟩

variable {rooms : List RoomSummary} {spaces : List SpaceSummary}

theorem handleRoomListUpdatedWithCrawler_registry (admitCrawler authoritative : Bool) :
    (handleRoomListUpdatedWithCrawler state spaces rooms admitCrawler
        authoritative).1.timeline.submissionRegistry =
      state.timeline.submissionRegistry.resetIf (roomListCloses state spaces rooms authoritative) := by
  have installed := listInstalled_kept state spaces rooms authoritative
  unfold handleRoomListUpdatedWithCrawler roomListCloses
  cases isSessionReady state with
  | false => rfl
  | true =>
    have resolved := resolveActiveRoom_registry (listInstalled state spaces rooms authoritative)
    rw [installed.1, installed.2] at resolved
    exact resolved

/-! ## Submissions -/

theorem returnMainPaneToLiveForAcceptedSend_registry (roomId : String) :
    SameRegistry state (returnMainPaneToLiveForAcceptedSend state roomId).1 := by
  unfold returnMainPaneToLiveForAcceptedSend
  (repeat' split) <;> rfl

variable (submissionId : SubmissionId)

theorem handleComposerSubmissionAccepted_registry (roomId transactionId body : String) :
    (handleComposerSubmissionAccepted state submissionId roomId transactionId body
        draftRevision).1.timeline.submissionRegistry =
      if !isSessionReady state || isKnownSubmission state submissionId then
        state.timeline.submissionRegistry
      else state.timeline.submissionRegistry.rememberAccepted submissionId transactionId (.main roomId) := by
  unfold handleComposerSubmissionAccepted
  split
  · rfl
  dsimp only
  split
  · rfl
  split
  · exact returnMainPaneToLiveForAcceptedSend_registry _ roomId
  · rfl

theorem handleThreadSubmissionAccepted_registry (roomId rootEventId transactionId : String) :
    (handleThreadSubmissionAccepted state submissionId roomId rootEventId transactionId
        draftRevision).1.timeline.submissionRegistry =
      if !isSessionReady state || isKnownSubmission state submissionId then
        state.timeline.submissionRegistry else
        state.timeline.submissionRegistry.rememberAccepted submissionId transactionId
          (.thread roomId rootEventId) := by
  unfold handleThreadSubmissionAccepted
  dsimp only
  (repeat' split) <;> rfl

theorem handleQueued_registry (transactionId : String) (target : ComposerTarget) (draftRevision : Nat) :
    (handleQueued state submissionId transactionId target draftRevision).1.timeline.submissionRegistry =
      if state.timeline.submissionRegistry.activeMatches submissionId transactionId target then
        state.timeline.submissionRegistry.rememberQueued submissionId
      else state.timeline.submissionRegistry := by
  unfold handleQueued
  cases state.timeline.submissionRegistry.activeMatches submissionId transactionId target with
  | false => rfl
  | true =>
    simp only [Bool.not_true, Bool.false_eq_true, if_false, if_true]
    (repeat' split) <;> rfl

theorem reportSettled_registry (changed : UiEvent) (outcome : ComposerSubmissionTerminalOutcome) :
    SameRegistry state (reportSettled state changed outcome).1 := by
  unfold reportSettled
  split <;> rfl

theorem handleSettled_registry (transactionId : String)
    (target : ComposerTarget) (outcome : ComposerSubmissionTerminalOutcome) :
    (handleSettled state submissionId transactionId target outcome).1.timeline.submissionRegistry =
      if state.timeline.submissionRegistry.activeMatches submissionId transactionId target then
        state.timeline.submissionRegistry.rememberSettled submissionId
      else state.timeline.submissionRegistry := by
  unfold handleSettled
  cases state.timeline.submissionRegistry.activeMatches submissionId transactionId target with
  | false => rfl
  | true =>
    simp only [Bool.not_true, Bool.false_eq_true, if_false, if_true]
    (repeat' split) <;> first | rfl | exact reportSettled_registry _ _ _

/-- The older terminal of a tracked send does nothing. -/
theorem handleComposerSubmissionFinished_eq (roomId transactionId : String) :
    handleComposerSubmissionFinished state submissionId roomId transactionId = (state, []) := by
  unfold handleComposerSubmissionFinished
  split
  · rfl
  next tracked =>
  have awaited : timelineAwaitsSend state roomId transactionId = false := by
    simp only [ne_eq, not_not] at tracked
    simp [timelineAwaitsSend, tracked]
  simp [handleSendTextFinished, awaited]

/-! ## The whole step -/

/-- The actions that end a session, and with it its submissions. -/
def AppAction.endsSession : AppAction -> Bool
  | .logoutRequested => true
  | .logoutFinished => true
  | .switchAccountRequested _ => true
  | .e2eeRecoveryRequired _ => true
  | .verificationSessionRejected => true
  | .provisionalSessionDiscarded => true
  | .deviceCleanupCompleted => true
  | _ => false

/-- The step closes the active room and opens no other. -/
def closesActiveRoom : AppAction -> Bool
  | .selectSpace spaceId =>
    isSessionReady state && state.navigation.activeRoomId.isSome && selectionIsEmpty state spaceId
  | .roomListUpdated spaces rooms => roomListCloses state spaces rooms true
  | .roomListSnapshotProvisional snapshot =>
    !provisionalIsIgnored state snapshot &&
      roomListCloses state (mergedSpaces state snapshot.spaces)
        (mergedRooms state (mergedSpaces state snapshot.spaces) snapshot.rooms) false
  | .roomListSnapshotAuthoritative snapshot =>
    roomListAuthoritativeMatchesCurrent state.roomList.readiness snapshot.generation snapshot.source &&
      roomListCloses state snapshot.spaces snapshot.rooms true
  | .roomLeftLocally roomId =>
    (hasKey InvitePreview.roomId state.invites roomId || roomExists state roomId ||
        spaceExists state roomId) &&
      roomListCloses
        { state with roomList.locallyLeftRoomIds := state.roomList.locallyLeftRoomIds.insert roomId }
        state.spaces (state.rooms.filter (fun room => room.roomId ≠ roomId)) false
  | _ => false

def AppAction.accepts : AppAction -> Bool
  | .composerSubmissionAccepted accepted _ _ _ => accepted = submissionId
  | .composerSubmissionAcceptedAtRevision accepted _ _ _ _ => accepted = submissionId
  | .threadSubmissionAccepted accepted _ _ _ => accepted = submissionId
  | .threadSubmissionAcceptedAtRevision accepted _ _ _ _ => accepted = submissionId
  | _ => false

/-- Everything that a step can do to the registry. -/
inductive RegistryChange (state : AppState) (action : AppAction)
    (after : ComposerSubmissionRegistry) : Prop where
  | kept (same : after = state.timeline.submissionRegistry)
  | accepted (submissionId : SubmissionId) (transactionId : String) (target : ComposerTarget)
      (unknown : isKnownSubmission state submissionId = false)
      (same : after =
        state.timeline.submissionRegistry.rememberAccepted submissionId transactionId target)
  | queued (submissionId : SubmissionId)
      (same : after = state.timeline.submissionRegistry.rememberQueued submissionId)
  | settled (submissionId : SubmissionId) (transactionId : String) (target : ComposerTarget)
      (outcome : ComposerSubmissionTerminalOutcome)
      (named : action = .composerSubmissionSettled submissionId transactionId target outcome)
      (matched : state.timeline.submissionRegistry.activeMatches submissionId transactionId target = true)
      (same : after = state.timeline.submissionRegistry.rememberSettled submissionId)
  | closed (closes : closesActiveRoom state action = true) (same : after = .default)
  | ended (ends : action.endsSession = true)

variable {state}

/-- A change that goes with the active room. -/
theorem RegistryChange.of_closes {action : AppAction} {after : ComposerSubmissionRegistry}
    (same : after = state.timeline.submissionRegistry.resetIf (closesActiveRoom state action)) :
    RegistryChange state action after := by
  cases closes : closesActiveRoom state action with
  | true => exact .closed closes (by rw [same, closes]; rfl)
  | false => exact .kept (by rw [same, closes]; rfl)

/-- An acceptance registers a submission that is not known yet, or does nothing. -/
theorem RegistryChange.of_accepted {action : AppAction}
    {after : ComposerSubmissionRegistry} {submissionId : SubmissionId} {transactionId : String}
    {target : ComposerTarget}
    (same : after = if !isSessionReady state || isKnownSubmission state submissionId then
    state.timeline.submissionRegistry
    else state.timeline.submissionRegistry.rememberAccepted submissionId transactionId target) :
    RegistryChange state action after := by
  split at same
  · exact .kept same
  next fresh =>
  simp only [Bool.or_eq_true, not_or, Bool.not_eq_true] at fresh
  exact .accepted submissionId transactionId target fresh.2 same

variable (state)

/-- What the lists close depends on neither the readiness nor the invites. -/
theorem roomListCloses_congr (readiness : RoomListReadiness) (invites : List InvitePreview)
    (authoritative : Bool) :
    roomListCloses { state with roomList.readiness := readiness, invites := invites } spaces rooms
      authoritative = roomListCloses state spaces rooms authoritative := by
  cases authoritative <;> rfl

theorem handleSelectSpace_closes (spaceId : Option String) :
    (handleSelectSpace state spaceId).1.timeline.submissionRegistry =
      state.timeline.submissionRegistry.resetIf (closesActiveRoom state (.selectSpace spaceId)) := by
  cases ready : isSessionReady state with
  | true => simp only [handleSelectSpace_registry ready, closesActiveRoom, ready, Bool.true_and]
  | false => simp [handleSelectSpace, closesActiveRoom, ready, resetIf]

theorem handleRoomListUpdated_closes (rooms : List RoomSummary) :
    (handleRoomListUpdated state spaces rooms).1.timeline.submissionRegistry =
      state.timeline.submissionRegistry.resetIf (closesActiveRoom state (.roomListUpdated spaces rooms)) := by
  unfold handleRoomListUpdated
  split
  · next notReady =>
    have kept : closesActiveRoom state (.roomListUpdated spaces rooms) = false := by
      simp only [Bool.not_eq_true'] at notReady
      simp [closesActiveRoom, roomListCloses, notReady]
    rw [kept]
    rfl
  · rw [handleRoomListUpdatedWithCrawler_registry]
    exact congrArg _
      (roomListCloses_congr state _ state.invites true)

theorem handleRoomListSnapshotProvisional_closes (snapshot : RoomListSnapshot) :
    (handleRoomListSnapshotProvisional state snapshot).1.timeline.submissionRegistry =
      state.timeline.submissionRegistry.resetIf (closesActiveRoom state (.roomListSnapshotProvisional snapshot)) := by
  unfold handleRoomListSnapshotProvisional
  rw [closesActiveRoom]
  split
  · next ignored =>
    rw [ignored]
    rfl
  · next read =>
    rw [Bool.not_eq_true] at read
    rw [handleRoomListUpdatedWithCrawler_registry, read, Bool.not_false, Bool.true_and]
    exact congrArg _
      (roomListCloses_congr state state.roomList.readiness _ false)

theorem handleRoomListSnapshotAuthoritative_closes (snapshot : RoomListSnapshot) :
    (handleRoomListSnapshotAuthoritative state snapshot).1.timeline.submissionRegistry =
      state.timeline.submissionRegistry.resetIf (closesActiveRoom state (.roomListSnapshotAuthoritative snapshot)) := by
  unfold handleRoomListSnapshotAuthoritative
  rw [closesActiveRoom]
  split
  · next refused =>
    simp only [Bool.or_eq_true, Bool.not_eq_true'] at refused
    rcases refused with notReady | other
    · simp [roomListCloses, notReady, resetIf]
    · simp [other, resetIf]
  · next admitted =>
    simp only [Bool.or_eq_true, Bool.not_eq_true', not_or, Bool.not_eq_false] at admitted
    rw [handleRoomListUpdatedWithCrawler_registry, admitted.2, Bool.true_and]
    exact congrArg _
      (roomListCloses_congr state _ _ true)

theorem handleRoomLeftLocally_closes (roomId : String) :
    (handleRoomLeftLocally state roomId).1.timeline.submissionRegistry =
      state.timeline.submissionRegistry.resetIf (closesActiveRoom state (.roomLeftLocally roomId)) := by
  unfold handleRoomLeftLocally
  rw [closesActiveRoom]
  dsimp only
  split
  · next refused =>
    simp only [Bool.or_eq_true, Bool.and_eq_true, Bool.not_eq_true'] at refused
    rcases refused with notReady | ⟨⟨notInvited, noRoom⟩, noSpace⟩
    · have closed : forall spaces rooms, roomListCloses
          { state with roomList.locallyLeftRoomIds := state.roomList.locallyLeftRoomIds.insert roomId }
          spaces rooms false = false := by
        intro spaces rooms
        rw [roomListCloses, Bool.and_eq_false_iff]
        exact .inl notReady
      simp [closed, resetIf]
    · simp [notInvited, noRoom, noSpace, resetIf]
  · next admitted =>
    have known : (hasKey InvitePreview.roomId state.invites roomId || roomExists state roomId ||
        spaceExists state roomId) = true := by
      grind
    simp only [Outcome.andThen_state]
    rw [handleRoomListUpdatedWithCrawler_registry, known, Bool.true_and]
    exact congrArg _
      (roomListCloses_congr { state with
        roomList.locallyLeftRoomIds := state.roomList.locallyLeftRoomIds.insert roomId }
        state.roomList.readiness _ false)

theorem step_submissionRegistry (action : AppAction) : (step state action).timeline.submissionRegistry =
      (reduceAction state action).1.timeline.submissionRegistry := by
  rw [step_eq]
  unfold syncAssistantDraftMarkers
  dsimp only
  split <;> rfl

/-- One step keeps the registry, registers, queues or settles one submission,
or resets the registry by closing the active room or ending the session. -/
theorem step_registryChange (action : AppAction) :
    RegistryChange state action (step state action).timeline.submissionRegistry := by
  rw [step_submissionRegistry]
  by_cases leaves : action.leavesComposers = true
  · exact .kept (reduceAction_untouched state leaves).submissionRegistry
  cases action with
  | currentDeviceTrustChanged => exact .kept (handleCurrentDeviceTrustChanged_registry state)
  | sessionLocked | sessionAuthenticationInvalidated =>
    exact .kept (suspendReadySession_registry state _)
  | logoutRequested | logoutFinished | switchAccountRequested | e2eeRecoveryRequired
  | verificationSessionRejected | provisionalSessionDiscarded | deviceCleanupCompleted =>
    exact .ended rfl
  | roomListUpdated => exact .of_closes (handleRoomListUpdated_closes state ..)
  | roomListSnapshotProvisional => exact .of_closes (handleRoomListSnapshotProvisional_closes state _)
  | roomListSnapshotAuthoritative => exact .of_closes (handleRoomListSnapshotAuthoritative_closes state _)
  | roomLeftLocally => exact .of_closes (handleRoomLeftLocally_closes state _)
  | selectSpace => exact .of_closes (handleSelectSpace_closes state _)
  | selectRoom => exact .kept (handleSelectRoom_registry state _)
  | navigationLoaded navigation =>
    refine .kept ?_
    simp only [reduceAction, handleNavigationLoaded]
    split <;> rfl
  | directoryJoinSucceeded requestId roomId =>
    refine .kept ?_
    simp only [reduceAction, handleDirectoryJoinSucceeded]
    split <;> rfl
  | scheduledSendCreated | scheduledSendCreatedAtRevision =>
    exact .kept (handleScheduledSendCreatedAtRevision_registry state ..)
  | composerSubmissionAccepted | composerSubmissionAcceptedAtRevision =>
    exact .of_accepted (handleComposerSubmissionAccepted_registry state ..)
  | threadSubmissionAccepted | threadSubmissionAcceptedAtRevision =>
    exact .of_accepted (handleThreadSubmissionAccepted_registry state ..)
  | composerSubmissionFinished submissionId roomId transactionId =>
    refine .kept ?_
    simp only [reduceAction, handleComposerSubmissionFinished_eq]
  | composerSubmissionQueued submissionId transactionId target draftRevision =>
    have queued := handleQueued_registry state submissionId transactionId target draftRevision
    split at queued
    · exact .queued submissionId queued
    · exact .kept queued
  | composerSubmissionSettled submissionId transactionId target outcome =>
    have settled := handleSettled_registry state submissionId transactionId target outcome
    split at settled
    · next matched => exact .settled submissionId transactionId target outcome rfl matched settled
    · exact .kept settled
  | composerDraftsLoaded => exact .kept (handleComposerDraftsLoaded_registry state _)
  | composerDraftChanged | composerDraftChangedAtRevision | threadComposerDraftChanged
  | threadComposerDraftChangedAtRevision | composerDraftSeeded
  | assistantDraftStaged | assistantDraftMarkerDismissed | composerDraftAccepted =>
    -- The handlers of drafts do not name the registry.
    refine .kept ?_
    simp only [reduceAction, handleComposerDraftChangedNow, handleComposerDraftChanged,
      handleThreadComposerDraftChangedNow, handleThreadComposerDraftChanged, handleComposerDraftSeeded,
      handleAssistantDraftStaged, handleAssistantDraftMarkerDismissed, handleComposerDraftAccepted,
      returnMainPaneToLiveForAcceptedSend]
    (repeat' split) <;> rfl
  | sendTextSubmitted | sendTextSubmittedAtRevision | sendTextFinished | sendTextFailed
  | threadReplySubmitted | threadReplySubmittedAtRevision | threadReplyFinished | threadReplyFailed
  | composerReplyTargetSelected | composerReplyCancelled | threadComposerReplyTargetSelected
  | threadComposerReplyCancelled | openThread | threadSubscribed | threadSubscriptionFailed | closeThread =>
    -- Nor do those of untracked sends, of replies and of the thread pane.
    refine .kept ?_
    simp only [reduceAction, handleSendTextSubmitted, returnMainPaneToLiveForAcceptedSend,
      handleSendTextFinished, handleSendTextFailed, handleThreadReplySubmitted, handleThreadReplyFinished,
      handleThreadReplyFailed, handleComposerReplyTargetSelected, handleComposerReplyCancelled,
      handleThreadComposerReplyTargetSelected, handleThreadComposerReplyCancelled, handleOpenThread,
      handleThreadSubscribed, handleThreadSubscriptionFailed, handleCloseThread]
    (repeat' split) <;> rfl
  | _ => exact absurd rfl leaves

end Koushi
