import Koushi.Reducer.Navigation
import Koushi.Rooms.Sidebar

namespace Koushi.Rooms

open Collections Inhabited

/-!
# The state behind the room list

`AppState` is the application state as the room list, the sidebar and the badge
see it: the summaries in full, what is remembered per room, the settings and the
profile, and the two values that the reducer keeps computed, the items of the room
list and the count of the badge.

The panes are not in it but for the room of the timeline.  What navigation does is taken from the reducer model:
`core` is the view of this state that `Koushi.Reducer` works on, and a handler that
moves the selection takes the navigation of the reducer's handler on that view.
-/

/-! ## The profile -/

structure OwnProfile where
  displayName : Option String
  avatar : Option AvatarImage
deriving DecidableEq, Repr

structure UserProfile where
  userId : String
  displayName : Option String
  avatar : Option AvatarImage
deriving DecidableEq, Repr

inductive LocalUserAliasUpdateState where
  | idle
  | saving (requestId : Nat)
deriving DecidableEq, Repr

inductive IgnoredUserUpdateState where
  | idle
  | saving (requestId : Nat)
deriving DecidableEq, Repr

inductive ProfileUpdateRequest where
  | setDisplayName (displayName : Option String)
  | setAvatar (mimeType : String) (byteCount : Nat)
deriving DecidableEq, Repr

inductive ProfileUpdateState where
  | idle
  | settingDisplayName (requestId : Nat) (displayName : Option String)
  | settingAvatar (requestId : Nat) (mimeType : String) (byteCount : Nat)
deriving DecidableEq, Repr

def LocalUserAliasUpdateState.requestId : LocalUserAliasUpdateState -> Option Nat
  | .idle => none
  | .saving requestId => some requestId

def IgnoredUserUpdateState.requestId : IgnoredUserUpdateState -> Option Nat
  | .idle => none
  | .saving requestId => some requestId

def ProfileUpdateState.requestId : ProfileUpdateState -> Option Nat
  | .idle => none
  | .settingDisplayName requestId _ => some requestId
  | .settingAvatar requestId _ _ => some requestId

structure ProfileState where
  own : OwnProfile
  users : OrdMap String UserProfile
  localAliases : OrdMap String String
  localAliasUpdate : LocalUserAliasUpdateState
  ignoredUserIds : OrdSet String
  ignoredUserUpdate : IgnoredUserUpdateState
  update : ProfileUpdateState
deriving DecidableEq

instance : Inhabited ProfileState := ⟨⟨⟨none, none⟩, ∅, ∅, .idle, ∅, .idle, .idle⟩⟩

/-! ## What is remembered per room -/

/-- The unread and highlighted replies of one thread. -/
structure ThreadRootAttention where
  unread : Nat
  highlight : Nat
deriving DecidableEq, Repr

def ThreadRootAttention.isEmpty (attention : ThreadRootAttention) : Bool :=
  attention.unread = 0 && attention.highlight = 0

/-- What a local read cleared.  An unread list is stale only while it still shows
this activity. -/
structure RoomReadActivity where
  latestEventId : Option String
  recencyStamp : Option Nat
  conversationActivity : Option ConversationActivity
deriving DecidableEq, Repr

def RoomReadActivity.of (room : RoomSummary) : RoomReadActivity where
  latestEventId := room.latestEvent.map (fun event => event.eventId)
  recencyStamp := room.recencyStamp
  conversationActivity := room.conversationActivity

/-- The newest activity that this client has seen in each room. -/
abbrev RoomActivityState := OrdMap String ConversationActivity

namespace RoomActivityState

def observe (remembered : RoomActivityState) (roomId : String) (activity : ConversationActivity) :
    RoomActivityState :=
  match remembered[roomId]? with
  | some existing =>
    if activity.timestampMs ≤ existing.timestampMs then remembered
    else remembered.insert roomId activity
  | none => remembered.insert roomId activity

/-- The remembered activity of a room, where it is newer than what the room has. -/
def newerThan (remembered : RoomActivityState) (room : RoomSummary) : Option ConversationActivity :=
  remembered[room.roomId]?.filter (fun activity =>
    !room.conversationActivity.any (fun live => decide (activity.timestampMs ≤ live.timestampMs)))

def mergeInto (remembered : RoomActivityState) (room : RoomSummary) : RoomSummary :=
  match newerThan remembered room with
  | none => room
  | some activity => { room with conversationActivity := some activity }

end RoomActivityState

/-! ## The computed values -/

inductive RoomListEntryKind where
  | room
  | invite
deriving DecidableEq, Repr

structure RoomListProjectionItem where
  roomId : String
  kind : RoomListEntryKind
deriving DecidableEq, Repr

structure RoomListProjection extends Koushi.RoomListProjection where
  sort : RoomListSort
  items : List RoomListProjectionItem
deriving DecidableEq

instance : Inhabited RoomListProjection := ⟨⟨default, .recentFirst, []⟩⟩

inductive NativeAttentionCapability where
  | available
  | unavailable
  | unknown
deriving DecidableEq, Repr

/-- The attention shown by the platform: its badge, and the focus of the window by
which it is gated.  Alerts are outside the model. -/
structure NativeAttentionState where
  badgeCount : Nat
  badgeCapability : NativeAttentionCapability
  windowFocused : Bool
  windowFocusObservationGeneration : Nat
deriving DecidableEq, Repr

instance : Inhabited NativeAttentionState := ⟨⟨0, .unknown, true, 0⟩⟩

/-! ## The state -/

structure AppState extends SidebarState where
  session : SessionState
  roomList : RoomListProjection
  profile : ProfileState
  /-- The avatars of room members and of the readers of receipts. -/
  observedAvatars : List AvatarImage
  threadUnread : NestedMap String String ThreadRootAttention
  locallyReadActivity : OrdMap String RoomReadActivity
  roomActivity : RoomActivityState
  /-- The event up to which a room is read, as the live signals have it. -/
  fullyReadEventIds : OrdMap String String
  roomNotificationAwaitingEcho : OrdMap String (Nat × RoomNotificationMode)
  nativeAttention : NativeAttentionState
  directoryJoin : DirectoryJoinState
  /-- The room that the timeline pane shows. -/
  timelineRoomId : Option String
deriving DecidableEq

instance : Inhabited NavigationState := ⟨⟨default, ∅, none⟩⟩

/-- Every view empty; the settings are the account's and the session is given. -/
def AppState.empty (settings : SettingsValues) (session : SessionState) : AppState where
  navigation := default
  settings := settings
  spaces := []
  rooms := []
  invites := []
  roomNotificationSettings := ∅
  roomAccess := ∅
  spaceChildren := ⟨none, 0, []⟩
  basicOperation := .idle
  spaceChildLinks := ⟨[]⟩
  session := session
  roomList := default
  profile := default
  observedAvatars := []
  threadUnread := ∅
  locallyReadActivity := ∅
  roomActivity := ∅
  fullyReadEventIds := ∅
  roomNotificationAwaitingEcho := ∅
  nativeAttention := default
  directoryJoin := .idle
  timelineRoomId := none

/-! ## The view of the reducer model -/

def RoomSummary.core (room : RoomSummary) : Koushi.RoomSummary where
  roomId := room.roomId
  isDm := room.isDm
  parentSpaceIds := room.parentSpaceIds
  dmSpaceIds := room.dmSpaceIds

def SpaceSummary.core (space : SpaceSummary) : Koushi.SpaceSummary where
  spaceId := space.spaceId
  childRoomIds := space.childRoomIds

def InvitePreview.core (invite : InvitePreview) : Koushi.InvitePreview where
  roomId := invite.roomId

/-- The state as the reducer model has it.  Of the panes, navigation reads only which
room the timeline shows; the rest of them is left empty. -/
def AppState.core (state : AppState) : Koushi.AppState :=
  { Koushi.AppState.default with
    session := state.session
    navigation := state.navigation.toNavigationState
    spaces := state.spaces.map SpaceSummary.core
    rooms := state.rooms.map RoomSummary.core
    invites := state.invites.map InvitePreview.core
    roomList := state.roomList.toRoomListProjection
    timeline := { (default : TimelinePaneState) with roomId := state.timelineRoomId }
    directoryJoin := state.directoryJoin }

variable (state : AppState)

/-- Take the selection, its memory and the room of the pane from the reducer model. -/
def AppState.navigate (outcome : Koushi.Outcome) : AppState :=
  { state with
    navigation.toNavigationState := outcome.1.navigation
    timelineRoomId := outcome.1.timeline.roomId }

def AppState.isSessionReady (state : AppState) : Bool := Koushi.isSessionReady state.core

/-- Whether results of requests may still be projected. -/
def AppState.hasSessionProjectionContext : Bool :=
  match state.session with
  | .ready _ | .locked _ | .switchingAccount _ => true
  | _ => false

def AppState.sessionUserId : Option String :=
  match state.session with
  | .ready info | .provisional info _ | .awaitingVerification info | .verifying info
  | .awaitingBootstrapConfirmation info | .rejecting info | .locked info | .capabilityBlocked info
  | .switchingAccount info => some info.userId
  | _ => none

def findRoom (roomId : String) : Option RoomSummary :=
  state.rooms.find? (fun room => room.roomId = roomId)

def roomExists (roomId : String) : Bool :=
  hasKey RoomSummary.roomId state.rooms roomId

/-! ## Sample values -/

/-- Text without letters that change. -/
def plainText : TextRules := ⟨id, id⟩

def defaultSettings : SettingsValues := ⟨.recentFirst, ⟨⟨false, false, false⟩, ∅⟩, ⟨true⟩⟩

/-- A room of a list, with what a service sends of it. -/
def listedRoom (roomId : String) (unread : Nat) (activity : Option ConversationActivity) : RoomSummary where
  roomId := roomId
  displayName := roomId
  displayNamePlaceholder := none
  displayLabel := roomId
  originalDisplayLabel := roomId
  displayLabelPlaceholder := none
  avatar := none
  isDm := false
  dmUserIds := []
  tags := .default
  unreadCount := unread
  notificationCount := 0
  highlightCount := 0
  threadUnreadCount := 0
  threadHighlightCount := 0
  markedUnread := false
  recencyStamp := none
  conversationActivity := activity
  latestEvent := none
  parentSpaceIds := []
  dmSpaceIds := []
  isEncrypted := false
  joinedMembers := 2

end Koushi.Rooms
