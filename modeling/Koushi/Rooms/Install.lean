import Koushi.Reducer.RoomList
import Koushi.Rooms.Projection

namespace Koushi.Rooms

open Collections RoomActivityState SpaceSummary

/-!
# Installing a room list

A list of the room-list service goes through a row of passes before it becomes the
state: rooms that were left here are dropped, known thumbnails are kept, unread
counts that a local read has cleared are suppressed, the counts of the threads and
the labels are filled in from what the client holds, and the remembered activity is
merged in.  The order of the passes matters: the suppression sees a room before the
remembered activity is merged into it.

Every pass but the first works on one room at a time.
-/

section Text

variable (text : TextRules)

/-! ## Avatars -/

def rememberKnownAvatarThumbnail (known : OrdMap String AvatarThumbnailState) (avatar : AvatarImage) :
    OrdMap String AvatarThumbnailState :=
  if avatar.thumbnail = .notRequested then known else known.insert avatar.mxcUri avatar.thumbnail

variable (state : AppState)

def collectKnownAvatarThumbnails (includeInvites : Bool) : OrdMap String AvatarThumbnailState :=
  let avatars := state.profile.own.avatar.toList ++
    state.profile.users.values.filterMap (fun profile => profile.avatar) ++
    state.observedAvatars ++
    state.rooms.filterMap (fun room => room.avatar) ++
    state.spaces.filterMap (fun space => space.avatar) ++
    if includeInvites then state.invites.filterMap (fun invite => invite.avatar) else []
  avatars.foldl rememberKnownAvatarThumbnail ∅

def preserveAvatarThumbnail (known : OrdMap String AvatarThumbnailState) (avatar : Option AvatarImage) :
    Option AvatarImage :=
  avatar.map (fun avatar =>
    if avatar.thumbnail = .notRequested then
      { avatar with thumbnail := known[avatar.mxcUri]?.getD avatar.thumbnail }
    else avatar)

def preserveRoomAvatarThumbnail (known : OrdMap String AvatarThumbnailState) (room : RoomSummary) :
    RoomSummary :=
  { room with avatar := preserveAvatarThumbnail known room.avatar }

def preserveSpaceAvatarThumbnail (known : OrdMap String AvatarThumbnailState) (space : SpaceSummary) :
    SpaceSummary :=
  { space with avatar := preserveAvatarThumbnail known space.avatar }

/-- An invite keeps its thumbnail only from the same room with the same picture. -/
def preserveInviteAvatarThumbnail (known : OrdMap String AvatarThumbnailState)
    (invite : InvitePreview) : InvitePreview :=
  let previous := (state.invites.find? (fun existing => existing.roomId = invite.roomId)).bind
    (fun existing => existing.avatar)
  match previous, invite.avatar with
  | some previous, some next =>
    if previous.mxcUri = next.mxcUri then
      { invite with avatar := preserveAvatarThumbnail known invite.avatar }
    else invite
  | _, _ => invite

def preserveKnownInviteAvatarThumbnails (invites : List InvitePreview) : List InvitePreview :=
  invites.map (preserveInviteAvatarThumbnail state (collectKnownAvatarThumbnails state true))

/-! ## Labels -/

/-- The trimmed text, if something is left of it. -/
def trimmed (value : Option String) : Option String :=
  (value.map text.trim).filter (fun value => value ≠ "")

def ownName (profiles : ProfileState) (userId : String) (ownUserId : Option String) : Option String :=
  if ownUserId = some userId then trimmed text profiles.own.displayName else none

/-- The name given by the list, or else by the profile. -/
def upstreamName (profiles : ProfileState) (userId : String) (upstream : Option String) :
    Option String :=
  trimmed text ((trimmed text upstream).or
    (profiles.users[userId]?.bind (fun profile => profile.displayName)))

def resolveUserDisplayName (profiles : ProfileState) (userId : String) (upstream ownUserId : Option String) :
    String :=
  ((profiles.localAliases[userId]?.filter (fun name => text.trim name ≠ "")).or
    ((upstreamName text profiles userId upstream).or (ownName text profiles userId ownUserId))).getD userId

def originalUserDisplayName (profiles : ProfileState) (userId : String)
    (upstream ownUserId : Option String) : String :=
  ((upstreamName text profiles userId upstream).or (ownName text profiles userId ownUserId)).getD userId

/-- A conversation with one other person is shown as that person. -/
def dmPartner (room : RoomSummary) : Option String :=
  match room.isDm, room.dmUserIds with
  | true, [userId] => some userId
  | _, _ => none

def refreshRoomDisplayProjection (profiles : ProfileState) (ownUserId : Option String)
    (room : RoomSummary) : RoomSummary :=
  match dmPartner room with
  | some userId =>
    let upstream := if room.displayNamePlaceholder.isNone then some room.displayName else none
    { room with
      displayLabel := resolveUserDisplayName text profiles userId upstream ownUserId
      originalDisplayLabel := originalUserDisplayName text profiles userId upstream ownUserId
      displayLabelPlaceholder := none
      avatar := (profiles.users[userId]?.bind (fun profile => profile.avatar)).or room.avatar }
  | none =>
    let label := (trimmed text (some room.displayName)).getD room.roomId
    { room with
      displayLabel := label
      originalDisplayLabel := label
      displayLabelPlaceholder := room.displayNamePlaceholder }

variable (rooms : List RoomSummary)

def refreshRoomSummaryDisplayProjection (profiles : ProfileState)
    (ownUserId : Option String) : List RoomSummary :=
  rooms.map (refreshRoomDisplayProjection text profiles ownUserId)

/-! ## Unread counts -/

def roomHasUnreadMetrics (room : RoomSummary) : Bool :=
  decide (0 < room.unreadCount) || decide (0 < room.notificationCount) ||
    decide (0 < room.highlightCount) || room.markedUnread

/-- A room that has been read in its main timeline. -/
def clearUnreadMetrics (room : RoomSummary) : RoomSummary :=
  { room with markedUnread := false, unreadCount := 0, notificationCount := 0, highlightCount := 0 }

/-- An unread room is stale when the list still shows the activity that a local read
has cleared. -/
def isStaleUnread (room : RoomSummary) : Bool :=
  roomHasUnreadMetrics room &&
    (findRoom state room.roomId).any (fun existing => !roomHasUnreadMetrics existing) &&
    state.fullyReadEventIds.contains room.roomId &&
    decide (state.locallyReadActivity[room.roomId]? = some (RoomReadActivity.of room))

def suppressStaleUnreadAfterLocalRead : List RoomSummary :=
  rooms.map (fun room => if isStaleUnread state room then clearUnreadMetrics room else room)

/-- The total over the threads of a room. -/
def threadTotal (threadUnread : NestedMap String String ThreadRootAttention)
    (count : ThreadRootAttention -> Nat) (roomId : String) : Nat :=
  ((threadUnread[roomId]?.getD ∅).values.map count).sum

/-- A list never has the counts of the threads; they come from the client. -/
def applyRoomThreadBadgeTotals (threadUnread : NestedMap String String ThreadRootAttention)
    (room : RoomSummary) : RoomSummary :=
  { room with
    threadUnreadCount := threadTotal threadUnread (fun attention => attention.unread) room.roomId
    threadHighlightCount := threadTotal threadUnread (fun attention => attention.highlight) room.roomId }

def applyThreadBadgeTotals (threadUnread : NestedMap String String ThreadRootAttention)
    (rooms : List RoomSummary) : List RoomSummary :=
  rooms.map (applyRoomThreadBadgeTotals threadUnread)

/-! ## Activity -/

def RoomActivityState.mergeIntoRooms (remembered : RoomActivityState) (rooms : List RoomSummary) :
    List RoomSummary :=
  rooms.map (mergeInto remembered)

def RoomActivityState.observeRooms (remembered : RoomActivityState) (rooms : List RoomSummary) :
    RoomActivityState :=
  rooms.foldl (fun remembered room =>
    match room.conversationActivity with
    | some activity => observe remembered room.roomId activity
    | none => remembered) remembered

/-! ## The order of spaces -/

variable (spaces : List SpaceSummary)

def applySpaceOrderPreference (spaceOrder : List String) : List SpaceSummary :=
  spaces.insertionSort (fun left right =>
    spacePosition spaceOrder left.spaceId ≤ spacePosition spaceOrder right.spaceId)

/-! ## The children of the selected space -/

/-- Another selection starts without children. -/
def SpaceChildrenState.select (children : SpaceChildrenState) (selectedSpaceId : Option String) :
    SpaceChildrenState :=
  if children.selectedSpaceId = selectedSpaceId then children
  else ⟨selectedSpaceId, children.generation + 1, []⟩

/-! ## The whole installation -/

def isLocallyLeft (roomId : String) : Bool :=
  state.roomList.locallyLeftRoomIds.contains roomId

def keptRooms : List RoomSummary :=
  rooms.filter (fun room => !isLocallyLeft state room.roomId)

def keptSpaces : List SpaceSummary :=
  spaces.filter (fun space => !isLocallyLeft state space.spaceId)

/-- What is remembered of a room survives an authoritative list only if it lists the
room; a provisional list may be incomplete. -/
def keepsMemory (authoritative : Bool) (roomId : String) : Bool :=
  if authoritative then (keysBy RoomSummary.roomId (keptRooms state rooms)).contains roomId
  else !isLocallyLeft state roomId

def retainRoomMemory (authoritative : Bool) : AppState :=
  { state with
    threadUnread := NestedMap.retainOuter state.threadUnread (keepsMemory state rooms authoritative)
    locallyReadActivity := state.locallyReadActivity.filter
      (fun roomId _ => keepsMemory state rooms authoritative roomId) }

/-- The rooms of a list as they are installed. -/
def installedRooms (authoritative : Bool) : List RoomSummary :=
  let kept := keptRooms state rooms
  let state := retainRoomMemory state rooms authoritative
  let rooms := kept.map (preserveRoomAvatarThumbnail (collectKnownAvatarThumbnails state false))
  let rooms := suppressStaleUnreadAfterLocalRead state rooms
  let rooms := applyThreadBadgeTotals state.threadUnread rooms
  let rooms := refreshRoomSummaryDisplayProjection text rooms state.profile state.sessionUserId
  mergeIntoRooms state.roomActivity rooms

def installedSpaces : List SpaceSummary :=
  let spaces := (keptSpaces state spaces).map
    (preserveSpaceAvatarThumbnail (collectKnownAvatarThumbnails state false))
  applySpaceOrderPreference spaces
    (mergeNewSpacesIntoPreference state.navigation.spaceOrder (spaces.map core))

/-- The lists in place, before the selection is resolved. -/
def installLists (rooms : List RoomSummary) (authoritative : Bool) : AppState :=
  let installed := installedRooms text state rooms authoritative
  { retainRoomMemory state rooms authoritative with
    spaces := installedSpaces state spaces
    rooms := installed
    roomActivity := (observeRooms state.roomActivity installed).filter
      (fun roomId _ => keepsMemory state rooms authoritative roomId) }

/-- Only what the service asks of the crawler depends on who sent the list; that is
outside this model. -/
def handleRoomListUpdatedWithCrawler (state : AppState) (spaces : List SpaceSummary)
    (rooms : List RoomSummary) (authoritative : Bool) : AppState :=
  if !state.isSessionReady then state
  else
    let resolved := (installLists text state spaces rooms authoritative).navigate
      (Koushi.handleRoomListUpdatedWithCrawler state.core (spaces.map core)
        (rooms.map RoomSummary.core) authoritative authoritative)
    -- A selected space that is gone takes its children along.
    let resolved := if resolved.navigation.activeSpaceId = state.navigation.activeSpaceId then resolved
      else { resolved with spaceChildren := resolved.spaceChildren.select none }
    recomputeRoomListProjection text (recomputeNativeAttentionFromRooms resolved)

/-! ## Snapshots -/

structure RoomListSnapshot where
  generation : Nat
  source : RoomListSource
  spaces : List SpaceSummary
  rooms : List RoomSummary
  invites : List InvitePreview
deriving DecidableEq, Repr

def RoomListSnapshot.isEmpty (snapshot : RoomListSnapshot) : Bool :=
  snapshot.spaces.isEmpty && snapshot.rooms.isEmpty && snapshot.invites.isEmpty

def mergedInvites (invites : List InvitePreview) : List InvitePreview :=
  mergeBy InvitePreview.roomId
    (state.invites.filter (fun invite => !isLocallyLeft state invite.roomId))
    (invites.filter (fun invite => !isLocallyLeft state invite.roomId))

def mergedSpaces : List SpaceSummary :=
  mergeBy spaceId state.spaces spaces

/-- Write one room of a snapshot.  An id that is a space is no room. -/
def mergeRoom (merged : List RoomSummary) (room : RoomSummary) : List RoomSummary :=
  if hasKey spaceId spaces room.roomId then
    merged.filter (fun existing => existing.roomId ≠ room.roomId)
  else upsertBy RoomSummary.roomId room merged

def mergedRooms (rooms : List RoomSummary) : List RoomSummary :=
  rooms.foldl (mergeRoom spaces)
    (state.rooms.filter (fun room => !hasKey spaceId spaces room.roomId))

def provisionalIsIgnored (snapshot : RoomListSnapshot) : Bool :=
  !state.isSessionReady ||
    !roomListProvisionalMatchesCurrent state.roomList.readiness snapshot.generation snapshot.source ||
    snapshot.isEmpty

def handleRoomListSnapshotProvisional (snapshot : RoomListSnapshot) : AppState :=
  if provisionalIsIgnored state snapshot then state
  else
    let invites := preserveKnownInviteAvatarThumbnails state snapshot.invites
    let spaces := mergedSpaces state snapshot.spaces
    let rooms := mergedRooms state spaces snapshot.rooms
    handleRoomListUpdatedWithCrawler text { state with invites := mergedInvites state invites }
      spaces rooms false

def authoritativeIsIgnored (snapshot : RoomListSnapshot) : Bool :=
  !state.isSessionReady ||
    !roomListAuthoritativeMatchesCurrent state.roomList.readiness snapshot.generation snapshot.source

def handleRoomListSnapshotAuthoritative (snapshot : RoomListSnapshot) : AppState :=
  if authoritativeIsIgnored state snapshot then state
  else
    let invites := preserveKnownInviteAvatarThumbnails state snapshot.invites
    handleRoomListUpdatedWithCrawler text
      { state with
        roomList.readiness := .ready snapshot.source snapshot.generation
        invites := invites }
      snapshot.spaces snapshot.rooms true

def handleRoomListUpdated (rooms : List RoomSummary) : AppState :=
  if !state.isSessionReady then state
  else
    let readiness :=
      if state.roomList.readiness = .uninitialized then RoomListReadiness.ready .cache 0
      else state.roomList.readiness
    handleRoomListUpdatedWithCrawler text { state with roomList.readiness := readiness } spaces rooms true

end Text

/-- The lists that the room-list service can send. -/
inductive RoomListUpdate where
  | updated (spaces : List SpaceSummary) (rooms : List RoomSummary)
  | provisional (snapshot : RoomListSnapshot)
  | authoritative (snapshot : RoomListSnapshot)
deriving DecidableEq, Repr

namespace RoomListUpdate

def rooms : RoomListUpdate -> List RoomSummary
  | updated _ rooms => rooms
  | provisional snapshot => snapshot.rooms
  | authoritative snapshot => snapshot.rooms

/-- Whether the list is dropped without being read. -/
def isIgnored (state : AppState) : RoomListUpdate -> Bool
  | updated _ _ => !state.isSessionReady
  | provisional snapshot => provisionalIsIgnored state snapshot
  | authoritative snapshot => authoritativeIsIgnored state snapshot

def install (text : TextRules) (state : AppState) : RoomListUpdate -> AppState
  | updated spaces rooms => handleRoomListUpdated text state spaces rooms
  | provisional snapshot => handleRoomListSnapshotProvisional text state snapshot
  | authoritative snapshot => handleRoomListSnapshotAuthoritative text state snapshot

end RoomListUpdate

end Koushi.Rooms
