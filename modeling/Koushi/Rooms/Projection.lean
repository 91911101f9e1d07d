import Koushi.Library.VectorDiff
import Koushi.Rooms.State

namespace Koushi.Rooms

open Collections

/-!
# What the reducer keeps computed

Two values of the state are projections of the rest: the items of the filtered room
list and the count of the badge.  A handler that changes what they are computed from
has to compute them again.  The projections are functions of the state here, and
`recomputeRoomListProjection` and `recomputeNativeAttentionFromRooms` store them.
-/

section Text

variable (text : TextRules)

/-! ## The filtered room list -/

/-- Whether a room is in the active scope.  Unlike the sidebar, which lists the
children of the space, this also believes the parents that the room names. -/
def roomVisibleInActiveSpace (room : RoomSummary) (activeSpaceId : Option String)
    (activeSpaceChildRoomIds : Option (List String)) (spaces : List SpaceSummary) : Bool :=
  match activeSpaceId with
  | none => roomListedAtHome room spaces
  | some activeSpaceId =>
    if room.isDm then room.dmSpaceIds.contains activeSpaceId
    else room.parentSpaceIds.contains activeSpaceId ||
      activeSpaceChildRoomIds.any (fun childRoomIds => childRoomIds.contains room.roomId)

def filterAccepts (filter : RoomListFilter) (room : RoomSummary) : Bool :=
  match filter with
  | .unread => decide (0 < roomActivityUnreadCount room) || room.markedUnread
  | .people => room.isDm
  | .rooms => !room.isDm && room.tags.favourite.isNone && room.tags.lowPriority.isNone
  | .favourites => room.tags.favourite.isSome
  | .invites => false

def selectedItems (filter : RoomListFilter) (activeSpaceId : Option String) (spaces : List SpaceSummary)
    (rooms : List RoomSummary) (invites : List InvitePreview) : List RoomListProjectionItem :=
  let childRoomIds := (activeSpaceId.bind (fun spaceId =>
    spaces.find? (fun space => space.spaceId = spaceId))).map (fun space => space.childRoomIds)
  match filter with
  | .invites => invites.map (fun invite => ⟨invite.roomId, .invite⟩)
  | filter =>
    ((rooms.filter (fun room =>
      roomVisibleInActiveSpace room activeSpaceId childRoomIds spaces)).filter
        (filterAccepts filter)).map (fun room => ⟨room.roomId, .room⟩)

def compareItems (sort : RoomListSort) (rooms : List RoomSummary) (settings : NotificationSettingsMap)
    (left right : RoomListProjectionItem) : Ordering :=
  let byId := roomsById rooms
  let mode (roomId : String) : Option RoomNotificationMode :=
    settings[roomId]?.map (fun entry => entry.mode)
  let label (roomId : String) : String :=
    (byId[roomId]?.map (fun room => room.displayLabel)).getD roomId
  match sort with
  | .activity => compareAttentionActivity text byId[left.roomId]? (mode left.roomId)
      byId[right.roomId]? (mode right.roomId)
  | .recentFirst => compareConversationActivity text byId[left.roomId]? byId[right.roomId]?
  | .normalLocale => compareLabels text (label left.roomId) left.roomId (label right.roomId) right.roomId

def computeRoomListProjection (filter : RoomListFilter) (sort : RoomListSort)
    (activeSpaceId : Option String) (spaces : List SpaceSummary) (rooms : List RoomSummary)
    (settings : NotificationSettingsMap) (invites : List InvitePreview) : RoomListProjection where
  readiness := .uninitialized
  activeFilter := filter
  sort := sort
  items := sortBy (compareItems text sort rooms settings)
    (selectedItems filter activeSpaceId spaces rooms invites)
  locallyLeftRoomIds := ∅

def visibleInvitesForIgnoredUsers (invites : List InvitePreview) (ignoredUserIds : OrdSet String) :
    List InvitePreview :=
  invites.filter (fun invite => !invite.inviterUserId.any (fun userId => ignoredUserIds.contains userId))

variable (state : AppState)

/-- The room list as the current state gives it. -/
def projectedRoomList : RoomListProjection :=
  computeRoomListProjection text state.roomList.activeFilter state.settings.roomListSort
    state.navigation.activeSpaceId state.spaces state.rooms state.roomNotificationSettings
    (visibleInvitesForIgnoredUsers state.invites state.profile.ignoredUserIds)

def recomputeRoomListProjection : AppState :=
  { state with
    roomList := { projectedRoomList text state with
      readiness := state.roomList.readiness
      locallyLeftRoomIds := state.roomList.locallyLeftRoomIds } }

/-! ## The badge -/

/-- The rooms that the badge counts.  A repeated id is counted once. -/
def badgeRooms (rooms : List RoomSummary) (settings : NotificationSettingsMap) : List RoomSummary :=
  (VectorDiff.keepFirst RoomSummary.roomId rooms []).filter (fun room =>
    (settings[room.roomId]?.map (fun entry => entry.mode)).getD .all ≠ .mute &&
      room.tags.lowPriority.isNone)

def projectedBadgeCount : Nat :=
  if state.nativeAttention.badgeCapability = .unavailable then 0
  else if !state.settings.notifications.badges then 0
  else ((badgeRooms state.rooms state.roomNotificationSettings).map roomActivityUnreadCount).sum

/-- Store the badge.  The source also computes the alert here. -/
def recomputeNativeAttentionFromRooms : AppState :=
  { state with nativeAttention.badgeCount := projectedBadgeCount state }

def applyBadgeSetting : AppState :=
  { state with nativeAttention.badgeCount := projectedBadgeCount state }

def accountAttentionSummaryForState : AccountAttentionSummary :=
  accountAttentionSummary state.rooms state.roomNotificationSettings state.invites.length

end Text

end Koushi.Rooms
