import Koushi.Library.Keyed
import Koushi.Composer.DraftStore
import Koushi.Reducer.LocalWork
import Koushi.Reducer.Registry

namespace Koushi

open Collections

/-!
# The application state

The reducer owns one state record.  The model keeps the slices that navigation,
the composers and the submissions read or write: the session, the room list, the
stores of local work, the main timeline pane, the thread pane, and the side
panels that a change of room closes.  Records keep the fields that the modelled
handlers use.

A handler takes the state and returns the next state with the effects it asks
for, in the order in which the source pushes them.
-/

/-! ## Session -/

structure SessionInfo where
  homeserver : String
  userId : String
  deviceId : String
deriving DecidableEq, Repr

inductive ProvisionalPhase where
  | checkingTrust
  | discoveringMethods
  | recheckingTrust
deriving DecidableEq, Repr

/-- The session, without the verification gate of the states before `ready`. -/
inductive SessionState where
  | signedOut
  | restoring
  | switchingAccount (info : SessionInfo)
  | authenticating
  | provisional (info : SessionInfo) (phase : ProvisionalPhase)
  | awaitingVerification (info : SessionInfo)
  | verifying (info : SessionInfo)
  | awaitingBootstrapConfirmation (info : SessionInfo)
  | rejecting (info : SessionInfo)
  | ready (info : SessionInfo)
  | locked (info : SessionInfo)
  | capabilityBlocked (info : SessionInfo)
  | loggingOut
deriving DecidableEq, Repr

inductive CurrentDeviceTrustState where
  | verified
  | unverified
  | unknown
deriving DecidableEq, Repr

/-! ## Rooms, spaces and the room list -/

structure RoomSummary where
  roomId : String
  isDm : Bool
  parentSpaceIds : List String
  dmSpaceIds : List String
deriving DecidableEq, Repr

structure SpaceSummary where
  spaceId : String
  childRoomIds : List String
deriving DecidableEq, Repr

structure InvitePreview where
  roomId : String
deriving DecidableEq, Repr

inductive RoomListSource where
  | cache
  | live
deriving DecidableEq, Repr

inductive RoomListFailureKind where
  | connectivity
  | service
  | stopped
deriving DecidableEq, Repr

inductive RoomListReadiness where
  | uninitialized
  | loading (source : RoomListSource) (generation : Nat)
  | ready (source : RoomListSource) (generation : Nat)
  | failed (source : RoomListSource) (generation : Nat) (kind : RoomListFailureKind)
deriving DecidableEq, Repr

inductive RoomListFilter where
  | rooms
  | unread
  | people
  | favourites
  | invites
deriving DecidableEq, Repr

/-- The room list, without its sorted items. -/
structure RoomListProjection where
  readiness : RoomListReadiness
  activeFilter : RoomListFilter
  locallyLeftRoomIds : OrdSet String
deriving DecidableEq

instance : Inhabited RoomListProjection := ⟨⟨.uninitialized, .rooms, ∅⟩⟩

/-! ## Navigation -/

inductive SpaceConversationSurface where
  | rooms
  | dms
deriving DecidableEq, Repr

structure SpaceNavigationSelection where
  surface : SpaceConversationSurface
  roomId : Option String
deriving DecidableEq, Repr

inductive EventNavigationSource where
  | activity
  | search
  | pinned
  | notification
  | replyQuote
deriving DecidableEq, Repr

inductive EventNavigationFailureKind where
  | targetMissing
  | roomUnavailable
  | sessionUnavailable
  | timeline
deriving DecidableEq, Repr

inductive EventNavigationState where
  | idle
  | opening (generation : Nat) (source : EventNavigationSource)
  | anchored (generation : Nat) (source : EventNavigationSource)
  | liveFallback (generation : Nat) (source : EventNavigationSource)
  | failed (generation : Nat) (source : EventNavigationSource) (failureKind : EventNavigationFailureKind)
deriving DecidableEq, Repr

structure NavigationState where
  activeSpaceId : Option String
  activeRoomId : Option String
  spaceOrder : List String
  lastRoomBySpaceId : OrdMap String String
  lastSelectionBySpaceId : OrdMap String SpaceNavigationSelection
  /-- The event that the main pane is anchored to, if it is not live. -/
  mainTimelineAnchor : Option String
  eventNavigation : EventNavigationState
deriving DecidableEq

instance : Inhabited NavigationState := ⟨⟨none, none, [], ∅, ∅, none, .idle⟩⟩

/-! ## Panes and panels -/

structure TimelinePaneState where
  roomId : Option String
  isSubscribed : Bool
  isPaginatingBackwards : Bool
  composer : ComposerState
  submissionRegistry : ComposerSubmissionRegistry
  scheduledSendCapability : ScheduledSendCapability
  scheduledSends : List ScheduledSendItem
  stagedUploads : List StagedUploadItem
  mediaGallery : List TimelineMediaGalleryItem
deriving DecidableEq, Repr

instance : Inhabited TimelinePaneState :=
  ⟨⟨none, false, false, .default, .default, .unknown, [], [], []⟩⟩

inductive ThreadOpenIntent where
  | existingThread
  | newThreadDraft
  | pinnedReply (eventId : String)
deriving DecidableEq, Repr

inductive OperationFailureKind where
  | forbidden
  | notFound
  | network
  | timeout
  | invalid
  | sdk
  | unsupportedPolicyCondition
  | policyNotVerified
deriving DecidableEq, Repr

/-- An open thread pane. -/
structure OpenThread where
  roomId : String
  rootEventId : String
  intent : ThreadOpenIntent
  isSubscribed : Bool
  composer : ComposerState
  stagedUploads : List StagedUploadItem
deriving DecidableEq, Repr

inductive ThreadPaneState where
  | closed
  | opening (roomId rootEventId : String) (intent : ThreadOpenIntent)
  | opened (pane : OpenThread)
  | failed (roomId rootEventId : String) (intent : ThreadOpenIntent) (failureKind : OperationFailureKind)
deriving DecidableEq, Repr

inductive ThreadAttentionState where
  | closed
  | tracking (roomId rootEventId : String)
      (notificationCount highlightCount liveEventMarkerCount : Nat)
deriving DecidableEq, Repr

/-- The threads panel, without its items. -/
inductive ThreadsListState where
  | closed
  | loading (roomId : String) (requestId : Nat)
  | opened (roomId : String) (requestId : Nat)
  | failed (roomId : String) (requestId : Nat) (failureKind : OperationFailureKind)
deriving DecidableEq, Repr

inductive FocusedContextState where
  | closed
  | opening (roomId eventId : String)
  | opened (roomId eventId : String) (isSubscribed : Bool)
deriving DecidableEq, Repr

inductive DirectoryJoinState where
  | idle
  | joining (requestId : Nat) (roomIdOrAlias : String) (viaServers : List String)
  | failed (requestId : Nat) (roomIdOrAlias : String) (viaServers : List String) (kind : OperationFailureKind)
deriving DecidableEq, Repr

structure AppError where
  code : String
  message : String
  recoverable : Bool
deriving DecidableEq, Repr

structure AppState where
  session : SessionState
  navigation : NavigationState
  spaces : List SpaceSummary
  rooms : List RoomSummary
  invites : List InvitePreview
  roomList : RoomListProjection
  composerDrafts : ComposerDraftStore
  scheduledSends : ScheduledSendStore
  uploadStaging : UploadStagingStore
  mediaGallery : MediaGalleryStore
  timeline : TimelinePaneState
  thread : ThreadPaneState
  threadAttention : ThreadAttentionState
  threadsList : ThreadsListState
  focusedContext : FocusedContextState
  directoryJoin : DirectoryJoinState
  errors : List AppError
deriving DecidableEq

namespace AppState

def default : AppState where
  session := .signedOut
  navigation := Inhabited.default
  spaces := []
  rooms := []
  invites := []
  roomList := Inhabited.default
  composerDrafts := .default
  scheduledSends := .default
  uploadStaging := .default
  mediaGallery := .default
  timeline := Inhabited.default
  thread := .closed
  threadAttention := .closed
  threadsList := .closed
  focusedContext := .closed
  directoryJoin := .idle
  errors := []

instance : Inhabited AppState := ⟨default⟩

end AppState

/-! ## Effects -/

inductive UiEvent where
  | sessionChanged
  | roomListChanged
  | timelineChanged (roomId : String)
  | threadChanged
  | threadsListChanged
  | focusedContextChanged
  | directoryChanged
  | errorChanged
deriving DecidableEq, Repr

/-- The effects of the modelled handlers.  The payload of the crawler's
notification is left out. -/
inductive AppEffect where
  | restoreSession
  | checkCurrentDeviceTrust
  | discoverVerificationMethods
  | persistSession (info : SessionInfo)
  | startSync
  | stopSync
  | inspectSecureBackup
  | rejectProvisionalSession
  | notifySearchCrawlerRoomsAvailable
  | subscribeTimeline (roomId : String)
  | paginateTimelineBackwards (roomId : String)
  | openThreadTimeline (roomId rootEventId : String) (intent : ThreadOpenIntent)
  | sendText (roomId transactionId body : String)
  | cancelPendingMainTimelineNavigation (roomId : String)
  | emitUiEvent (event : UiEvent)
deriving DecidableEq, Repr

/-- A handler's result: the next state and the effects it asks for. -/
abbrev Outcome := AppState × List AppEffect

namespace Outcome

/-- Continue from a result; the later effects come after the earlier ones. -/
def andThen (outcome : Outcome) (next : AppState -> Outcome) : Outcome :=
  ((next outcome.1).1, outcome.2 ++ (next outcome.1).2)

@[simp] theorem andThen_state (outcome : Outcome) (next : AppState -> Outcome) :
    (outcome.andThen next).1 = (next outcome.1).1 := rfl

end Outcome

/-! ## Shared readers -/

variable (state : AppState)

def isSessionReady : Bool :=
  match state.session with
  | .ready _ => true
  | _ => false

def roomExists (roomId : String) : Bool :=
  hasKey RoomSummary.roomId state.rooms roomId

def spaceExists (spaceId : String) : Bool :=
  hasKey SpaceSummary.spaceId state.spaces spaceId

def findRoom (roomId : String) : Option RoomSummary :=
  state.rooms.find? (fun room => room.roomId = roomId)

def findSpace (spaceId : String) : Option SpaceSummary :=
  state.spaces.find? (fun space => space.spaceId = spaceId)

theorem roomExists_of_findRoom {state : AppState} {roomId : String} {room : RoomSummary}
    (found : findRoom state roomId = some room) : roomExists state roomId = true := by
  have member := List.mem_of_find?_eq_some found
  have sameId := List.find?_some found
  simp only [decide_eq_true_eq] at sameId
  simp only [roomExists, hasKey, List.any_eq_true, decide_eq_true_eq]
  exact ⟨room, member, sameId⟩

/-- A thread is tracked or shown. -/
def hadThread : Bool :=
  state.thread ≠ .closed || state.threadAttention ≠ .closed

end Koushi
