import Koushi.Rooms.State

namespace Koushi.Rooms

open Collections List

/-!
# Summaries from a snapshot of the service

A space lists its children and a room names its parents, and a homeserver may have
sent only one of the two.  The summaries have the union: a child that names the space
is a child of it, and a space that lists the room is a parent of it.  So within one
snapshot the two relations are the same, which `agree_normalized` says.
-/

/-! ## The snapshot -/

structure MatrixRoomListSpace where
  spaceId : String
  rawName : Option String
  displayName : String
  avatarMxcUri : Option String
  joinRule : RoomJoinRule
  topic : Option String
  childRoomIds : List String
  memberUserIds : List String
deriving DecidableEq, Repr

structure MatrixRoomListRoom where
  roomId : String
  displayName : String
  displayNamePlaceholder : Option RoomNamePlaceholder
  avatarMxcUri : Option String
  isDm : Bool
  dmUserIds : List String
  tags : RoomTags
  unreadCount : Nat
  notificationCount : Nat
  highlightCount : Nat
  markedUnread : Bool
  recencyStamp : Option Nat
  conversationActivity : Option ConversationActivity
  latestEvent : Option RoomLatestEventSummary
  parentSpaceIds : List String
  isEncrypted : Bool
  joinedMembers : Nat
deriving DecidableEq, Repr

/-- What the service sends of spaces and rooms.  The members of a space are complete
only for the spaces that say so. -/
structure MatrixRoomListSnapshot where
  spaces : List MatrixRoomListSpace
  completeSpaceMemberIds : OrdSet String
  rooms : List MatrixRoomListRoom

/-! ## Spaces -/

def avatarFromMxcUri (mxcUri : Option String) : Option AvatarImage :=
  mxcUri.map (fun mxcUri => ⟨mxcUri, .notRequested⟩)

/-- Ids in order, each once. -/
def sortedIds (ids : List String) : List String := (Std.ExtTreeSet.ofList ids : OrdSet String).toList

@[simp] theorem mem_sortedIds {ids : List String} {id : String} : id ∈ sortedIds ids ↔ id ∈ ids := by
  rw [sortedIds, Std.ExtTreeSet.mem_toList, OrdSet.mem_ofList]

variable (snapshot : MatrixRoomListSnapshot)

/-- The children that the space lists and the rooms that name it. -/
def normalizeSpaceChildRoomIds (space : MatrixRoomListSpace) : List String :=
  sortedIds (space.childRoomIds ++
    (snapshot.rooms.filter (fun room => room.parentSpaceIds.contains space.spaceId)).map
      (fun room => room.roomId))

def normalizeSpace (space : MatrixRoomListSpace) : SpaceSummary where
  spaceId := space.spaceId
  rawName := space.rawName
  displayName := space.displayName
  avatar := avatarFromMxcUri space.avatarMxcUri
  joinRule := some space.joinRule
  topic := space.topic
  childRoomIds := normalizeSpaceChildRoomIds snapshot space
  parentSideChildRoomIds := space.childRoomIds

def normalizeSpaces : List SpaceSummary :=
  snapshot.spaces.map (normalizeSpace snapshot)

/-! ## Rooms -/

section Text

variable (text : TextRules)

/-- The parents that the room names and the spaces that list it. -/
def normalizeRoomParentSpaceIds (room : MatrixRoomListRoom) : List String :=
  sortedIds (room.parentSpaceIds ++
    (snapshot.spaces.filter (fun space => space.childRoomIds.contains room.roomId)).map
      (fun space => space.spaceId))

/-- A room, before its spaces as a direct message are known. -/
def normalizeRoom (snapshot : MatrixRoomListSnapshot) (room : MatrixRoomListRoom) : RoomSummary :=
  let displayLabel := if (text.trim room.displayName).isEmpty then room.roomId else text.trim room.displayName
  { roomId := room.roomId
    displayName := room.displayName
    displayNamePlaceholder := room.displayNamePlaceholder
    displayLabel := displayLabel
    originalDisplayLabel := displayLabel
    displayLabelPlaceholder := room.displayNamePlaceholder
    avatar := avatarFromMxcUri room.avatarMxcUri
    isDm := room.isDm
    dmUserIds := room.dmUserIds
    tags := room.tags
    unreadCount := room.unreadCount
    notificationCount := room.notificationCount
    highlightCount := room.highlightCount
    threadUnreadCount := 0
    threadHighlightCount := 0
    markedUnread := room.markedUnread
    recencyStamp := room.recencyStamp
    conversationActivity := room.conversationActivity
    latestEvent := room.latestEvent
    parentSpaceIds := normalizeRoomParentSpaceIds snapshot room
    dmSpaceIds := []
    isEncrypted := room.isEncrypted
    joinedMembers := room.joinedMembers }

/-- A direct message belongs to the spaces that one of its users is in. -/
def assignDmSpaceIds (spaceMembers : OrdMap String (OrdSet String)) (room : RoomSummary) : RoomSummary :=
  { room with
    dmSpaceIds :=
      if room.isDm then
        (spaceMembers.toList.filter (fun entry =>
          room.dmUserIds.any (fun userId => entry.2.contains userId))).map Prod.fst
      else [] }

/-- A direct message keeps the spaces it had, where the members of the space are not
complete. -/
def keepPreviousDmSpaces (previous : OrdMap String (OrdSet String)) (room : RoomSummary) : RoomSummary :=
  if room.isDm then
    match previous[room.roomId]? with
    | none => room
    | some known =>
      { room with
        dmSpaceIds := sortedIds (room.dmSpaceIds ++
          (snapshot.spaces.filter (fun space =>
            !snapshot.completeSpaceMemberIds.contains space.spaceId &&
              known.contains space.spaceId)).map (fun space => space.spaceId)) }
  else room

def normalizeRoomsWithPrevious (snapshot : MatrixRoomListSnapshot) (previousRooms : List RoomSummary) :
    List RoomSummary :=
  let spaceMembers := collect (snapshot.spaces.map (fun space =>
    (space.spaceId, (Std.ExtTreeSet.ofList space.memberUserIds : OrdSet String))))
  let previousDmSpaces := collect ((previousRooms.filter (fun room => room.isDm)).map (fun room =>
    (room.roomId, (Std.ExtTreeSet.ofList room.dmSpaceIds : OrdSet String))))
  ((snapshot.rooms.map (normalizeRoom text snapshot)).map (assignDmSpaceIds spaceMembers)).map
    (keepPreviousDmSpaces snapshot previousDmSpaces)

/-! ## The two relations -/

variable {text} {snapshot : MatrixRoomListSnapshot} {previousRooms : List RoomSummary}

/-- Every space the rooms are compared with is named by exactly the rooms it lists. -/
def Agree (spaces : List Koushi.SpaceSummary) (rooms : List Koushi.RoomSummary) : Prop :=
  ∀ space ∈ spaces, ∀ room ∈ rooms,
    space.spaceId ∈ room.parentSpaceIds ↔ room.roomId ∈ space.childRoomIds

/-- The passes over the direct messages leave the id and the parents. -/
theorem exists_of_mem_normalizeRooms {room : RoomSummary}
    (member : room ∈ normalizeRoomsWithPrevious text snapshot previousRooms) :
    ∃ raw ∈ snapshot.rooms, room.roomId = raw.roomId ∧
      room.parentSpaceIds = normalizeRoomParentSpaceIds snapshot raw := by
  simp only [normalizeRoomsWithPrevious, map_map, mem_map, Function.comp_apply] at member
  obtain ⟨raw, listed, rfl⟩ := member
  refine ⟨raw, listed, ?_⟩
  unfold keepPreviousDmSpaces
  split
  · split <;> exact ⟨rfl, rfl⟩
  · exact ⟨rfl, rfl⟩

theorem keysBy_normalizeRooms :
    keysBy RoomSummary.roomId (normalizeRoomsWithPrevious text snapshot previousRooms) =
      keysBy MatrixRoomListRoom.roomId snapshot.rooms := by
  simp only [keysBy, normalizeRoomsWithPrevious, map_map]
  apply map_congr_left
  intro raw _
  simp only [Function.comp_apply, keepPreviousDmSpaces]
  split
  · split <;> rfl
  · rfl

theorem keysBy_normalizeSpaces : keysBy SpaceSummary.spaceId (normalizeSpaces snapshot) =
      keysBy MatrixRoomListSpace.spaceId snapshot.spaces := by
  rw [keysBy, normalizeSpaces, map_map]
  rfl

/-- Within one snapshot a room names a space exactly if the space lists it. -/
theorem agree_normalized (distinctSpaces : (keysBy MatrixRoomListSpace.spaceId snapshot.spaces).Nodup)
    (distinctRooms : (keysBy MatrixRoomListRoom.roomId snapshot.rooms).Nodup) :
    Agree ((normalizeSpaces snapshot).map SpaceSummary.core)
      ((normalizeRoomsWithPrevious text snapshot previousRooms).map RoomSummary.core) := by
  intro space spaceIn room roomIn
  obtain ⟨fullSpace, fullSpaceIn, rfl⟩ := mem_map.mp spaceIn
  obtain ⟨rawSpace, rawSpaceIn, rfl⟩ := mem_map.mp fullSpaceIn
  obtain ⟨fullRoom, fullRoomIn, rfl⟩ := mem_map.mp roomIn
  obtain ⟨rawRoom, rawRoomIn, sameId, parents⟩ := exists_of_mem_normalizeRooms fullRoomIn
  have onlySpace := inj_on_of_nodup_map distinctSpaces
  have onlyRoom := inj_on_of_nodup_map distinctRooms
  change rawSpace.spaceId ∈ fullRoom.parentSpaceIds ↔
    fullRoom.roomId ∈ normalizeSpaceChildRoomIds snapshot rawSpace
  rw [parents, sameId, normalizeRoomParentSpaceIds, normalizeSpaceChildRoomIds, mem_sortedIds,
    mem_sortedIds, mem_append, mem_append]
  -- Each side is its own list or the other side's list, read from the other record.
  have fromSpaces : rawSpace.spaceId ∈ (snapshot.spaces.filter (fun space =>
      space.childRoomIds.contains rawRoom.roomId)).map (·.spaceId) ↔
      rawRoom.roomId ∈ rawSpace.childRoomIds := by
    simp only [mem_map, mem_filter, contains_iff_mem]
    constructor
    · rintro ⟨other, ⟨otherIn, lists⟩, same⟩
      rwa [onlySpace otherIn rawSpaceIn same] at lists
    · exact fun lists => ⟨rawSpace, ⟨rawSpaceIn, lists⟩, rfl⟩
  have fromRooms : rawRoom.roomId ∈ (snapshot.rooms.filter (fun room =>
      room.parentSpaceIds.contains rawSpace.spaceId)).map (·.roomId) ↔
      rawSpace.spaceId ∈ rawRoom.parentSpaceIds := by
    simp only [mem_map, mem_filter, contains_iff_mem]
    constructor
    · rintro ⟨other, ⟨otherIn, names⟩, same⟩
      rwa [onlyRoom otherIn rawRoomIn same] at names
    · exact fun names => ⟨rawRoom, ⟨rawRoomIn, names⟩, rfl⟩
  rw [fromSpaces, fromRooms]
  exact or_comm

end Text

end Koushi.Rooms
