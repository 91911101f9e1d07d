import Koushi.Reducer.State

namespace Koushi.Rooms

open Collections

/-!
# Rooms, spaces and their attention

The reducer model of `Koushi.Reducer` keeps of a room only what navigation reads.
The projections of the room list (the sidebar, the filtered list, the badge) read
the whole summary: names, tags, unread counts of the main timeline and of the
threads, and the activity by which rooms are ordered.  This module has the
summaries in full, the attention of one room, and the two orders of rooms.

The text functions of the standard library are a parameter.  Counts are natural
numbers; only the additions that the source saturates are cut at the largest u64.
-/

/-- The text functions that the projections use. -/
structure TextRules where
  toLowercase : String -> String
  trim : String -> String

/-! ## Summaries -/

inductive AvatarThumbnailFailureKind where
  | network
  | forbidden
  | unsupported
  | sdk
  | capacity
deriving DecidableEq, Repr

inductive AvatarThumbnailState where
  | notRequested
  | loading (requestId : Nat)
  | ready (sourceRef : String) (width height : Option Nat) (mimeType : Option String)
  | failed (requestId : Nat) (failureKind : AvatarThumbnailFailureKind)
deriving DecidableEq, Repr

structure AvatarImage where
  mxcUri : String
  thumbnail : AvatarThumbnailState
deriving DecidableEq, Repr

inductive RoomNamePlaceholder where
  | empty
  | emptyWas (previousNames : String)
deriving DecidableEq, Repr

inductive ConversationActivitySource where
  | message
  | encryptedMessage
  | threadReply
deriving DecidableEq, Repr

structure ConversationActivity where
  timestampMs : Nat
  source : ConversationActivitySource
deriving DecidableEq, Repr

/-- The latest event, without the fields that only a preview shows. -/
structure RoomLatestEventSummary where
  eventId : String
  senderId : Option String
deriving DecidableEq, Repr

structure RoomTagInfo where
  order : Option String
deriving DecidableEq, Repr

structure RoomTags where
  favourite : Option RoomTagInfo
  lowPriority : Option RoomTagInfo
deriving DecidableEq, Repr

inductive RoomTagKind where
  | favourite
  | lowPriority
deriving DecidableEq, Repr

namespace RoomTags

def default : RoomTags := ⟨none, none⟩

/-- A room has at most one of the two tags after a local choice. -/
def set (_tags : RoomTags) (tag : RoomTagKind) (info : RoomTagInfo) : RoomTags :=
  match tag with
  | .favourite => ⟨some info, none⟩
  | .lowPriority => ⟨none, some info⟩

def remove (tags : RoomTags) (tag : RoomTagKind) : RoomTags :=
  match tag with
  | .favourite => { tags with favourite := none }
  | .lowPriority => { tags with lowPriority := none }

end RoomTags

inductive RoomJoinRule where
  | «public»
  | invite
  | knock
  | restricted
  | knockRestricted
  | «private»
  | unknown
deriving DecidableEq, Repr

structure RoomSummary where
  roomId : String
  displayName : String
  displayNamePlaceholder : Option RoomNamePlaceholder
  displayLabel : String
  originalDisplayLabel : String
  displayLabelPlaceholder : Option RoomNamePlaceholder
  avatar : Option AvatarImage
  isDm : Bool
  dmUserIds : List String
  tags : RoomTags
  unreadCount : Nat
  notificationCount : Nat
  highlightCount : Nat
  threadUnreadCount : Nat
  threadHighlightCount : Nat
  markedUnread : Bool
  recencyStamp : Option Nat
  conversationActivity : Option ConversationActivity
  latestEvent : Option RoomLatestEventSummary
  parentSpaceIds : List String
  dmSpaceIds : List String
  isEncrypted : Bool
  joinedMembers : Nat
deriving DecidableEq, Repr

structure SpaceSummary where
  spaceId : String
  rawName : Option String
  displayName : String
  avatar : Option AvatarImage
  joinRule : Option RoomJoinRule
  topic : Option String
  childRoomIds : List String
  parentSideChildRoomIds : List String
deriving DecidableEq, Repr

structure InvitePreview where
  roomId : String
  displayName : String
  displayNamePlaceholder : Option RoomNamePlaceholder
  avatar : Option AvatarImage
  topic : Option String
  inviterDisplayName : Option String
  inviterUserId : Option String
  isDm : Bool
  isSpace : Bool
deriving DecidableEq, Repr

/-! ## Notification modes -/

inductive RoomNotificationMode where
  | all
  | mentions
  | mute
deriving DecidableEq, Repr

inductive RoomNotificationModeOperation where
  | idle
  | pending (requestId : Nat)
  | failed (requestId : Nat) (failureKind : OperationFailureKind)
deriving DecidableEq, Repr

structure RoomNotificationSettings where
  mode : RoomNotificationMode
  operation : RoomNotificationModeOperation
deriving DecidableEq, Repr

instance : Inhabited RoomNotificationSettings := ⟨⟨.all, .idle⟩⟩

abbrev NotificationSettingsMap := OrdMap String RoomNotificationSettings

def roomIsMuted (roomId : String) (settings : NotificationSettingsMap) : Bool :=
  settings[roomId]?.any (fun entry => entry.mode = .mute)

/-! ## Attention of one room -/

def saturatingAdd (left right : Nat) : Nat := min (left + right) U64_MAX

def roomActivityUnreadCount (room : RoomSummary) : Nat :=
  saturatingAdd room.unreadCount room.threadUnreadCount

structure RoomAttentionProjection where
  unreadCount : Nat
  mainUnreadCount : Nat
  threadUnreadCount : Nat
  notificationCount : Nat
  highlightCount : Nat
  hasUnreadContent : Bool
  isAttentionHighlighted : Bool
  hasUnreadMention : Bool
  isMuted : Bool
  displayCount : Nat
deriving DecidableEq, Repr

def roomAttentionProjection (room : RoomSummary) (mode : Option RoomNotificationMode) :
    RoomAttentionProjection :=
  let isMuted := decide (mode = some .mute)
  let highlightTotal := saturatingAdd room.highlightCount room.threadHighlightCount
  let unreadCount := roomActivityUnreadCount room
  { unreadCount := unreadCount
    mainUnreadCount := room.unreadCount
    threadUnreadCount := room.threadUnreadCount
    notificationCount :=
      if isMuted ∨ (mode = some .mentions ∧ highlightTotal = 0) then 0 else room.notificationCount
    highlightCount := if isMuted then 0 else highlightTotal
    hasUnreadContent := decide (0 < unreadCount) || room.markedUnread
    isAttentionHighlighted := !isMuted &&
      (decide (0 < room.notificationCount) || decide (0 < highlightTotal) || room.markedUnread)
    hasUnreadMention := !isMuted && decide (0 < highlightTotal)
    isMuted := isMuted
    displayCount := unreadCount }

def roomAttentionSortRank (room : Option RoomSummary) (mode : Option RoomNotificationMode) : Nat :=
  match room with
  | none => 3
  | some room =>
    let projection := roomAttentionProjection room mode
    if !projection.isMuted && decide (0 < projection.unreadCount) then 0
    else if !projection.isMuted && room.markedUnread then 1
    else 3

/-! ## Orders of rooms -/

inductive RoomListSort where
  | activity
  | recentFirst
  | normalLocale
deriving DecidableEq, Repr

/-- A stable sort by a comparison. -/
def sortBy {α : Type} (order : α -> α -> Ordering) (items : List α) : List α :=
  items.insertionSort (fun left right => (order left right).isLE = true)

theorem perm_sortBy {α : Type} (order : α -> α -> Ordering) (items : List α) :
    (sortBy order items).Perm items :=
  List.perm_insertionSort _ _

@[simp] theorem mem_sortBy {α : Type} {order : α -> α -> Ordering} {items : List α} {item : α} :
    item ∈ sortBy order items ↔ item ∈ items :=
  (perm_sortBy order items).mem_iff

/-- Larger values first, and a missing value last. -/
def compareDescending (left right : Option Nat) : Ordering :=
  (compare right.isSome left.isSome).then (compare right left)

section Orders

variable (text : TextRules)

/-- The newest conversation first; then the server's own order; then the labels. -/
def compareConversationActivity (left right : Option RoomSummary) : Ordering :=
  let activity (room : Option RoomSummary) : Option Nat :=
    (room.bind (fun room => room.conversationActivity)).map (fun activity => activity.timestampMs)
  let stamp (room : Option RoomSummary) : Option Nat := room.bind (fun room => room.recencyStamp)
  let label (room : Option RoomSummary) : String :=
    (room.map (fun room => text.toLowercase room.displayLabel)).getD ""
  let roomId (room : Option RoomSummary) : String := (room.map (fun room => room.roomId)).getD ""
  (compareDescending (activity left) (activity right)).then
    ((compareDescending (stamp left) (stamp right)).then
      ((compare (label left) (label right)).then (compare (roomId left) (roomId right))))

def compareAttentionActivity (left : Option RoomSummary) (leftMode : Option RoomNotificationMode)
    (right : Option RoomSummary) (rightMode : Option RoomNotificationMode) : Ordering :=
  (compare (roomAttentionSortRank left leftMode) (roomAttentionSortRank right rightMode)).then
    (compareConversationActivity text left right)

/-- By label without case, then by id. -/
def compareLabels (leftLabel leftId rightLabel rightId : String) : Ordering :=
  (compare (text.toLowercase leftLabel) (text.toLowercase rightLabel)).then (compare leftId rightId)

end Orders

end Koushi.Rooms
