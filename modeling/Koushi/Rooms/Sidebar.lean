import Koushi.Rooms.Summary

namespace Koushi.Rooms

open Collections

/-!
# The sidebar

The sidebar is computed from the application state: the rail of spaces, the rows of
the active scope (a space, or Home) in their sections, the children of the space
that the account has not joined, and what the dialogs of the scope start from.  The
renderer shows it and computes nothing of it again.

`SidebarState` has the slices of the application state that this projection reads.
-/

/-! ## What the projection reads -/

structure SpaceLocalPresentation where
  name : Option String
  icon : Option String
deriving DecidableEq, Repr

inductive SidebarSectionKind where
  | rooms
  | dms
  | lowPriority
deriving DecidableEq, Repr

/-- The section that a selection has opened in this session. -/
structure SidebarSectionReveal where
  scope : String
  sectionKind : SidebarSectionKind
deriving DecidableEq, Repr

structure NavigationState extends Koushi.NavigationState where
  spaceLocalPresentations : OrdMap String SpaceLocalPresentation
  revealedSidebarSection : Option SidebarSectionReveal
deriving DecidableEq

structure SidebarSectionSettings where
  collapsed : Bool
  sort : RoomListSort
  expanded : Bool
deriving DecidableEq, Repr

instance : Inhabited SidebarSectionSettings := ⟨⟨false, .recentFirst, false⟩⟩

structure SidebarScopeSettings where
  rooms : SidebarSectionSettings
  dms : SidebarSectionSettings
  /-- Absent until the section is edited in this scope. -/
  lowPriority : Option SidebarSectionSettings
deriving DecidableEq, Repr

/-- The flags that are not scoped, from before sections had settings of their own. -/
structure SidebarCollapsedSections where
  favourites : Bool
  lowPriority : Bool
  notJoined : Bool
deriving DecidableEq, Repr

structure SidebarSettings where
  collapsed : SidebarCollapsedSections
  scopePreferences : OrdMap String SidebarScopeSettings
deriving DecidableEq

structure NotificationSettings where
  badges : Bool
deriving DecidableEq, Repr

structure SettingsValues where
  roomListSort : RoomListSort
  sidebar : SidebarSettings
  notifications : NotificationSettings
deriving DecidableEq

inductive RestrictedConditions where
  | notInspected
  | confirmedEmpty
  | membershipOnly
  | membershipPlusUnsupported
  | unsupportedOnly
deriving DecidableEq, Repr

inductive RoomAllowTargetKind where
  | space
  | room
  | unknown
deriving DecidableEq, Repr

structure RoomAllowTarget where
  kind : RoomAllowTargetKind
  roomId : String
deriving DecidableEq, Repr

structure RoomAccessCondition where
  joinRule : Option RoomJoinRule
  restricted : Option RestrictedConditions
  allowTargets : List RoomAllowTarget
deriving DecidableEq, Repr

inductive SpaceChildMembership where
  | joined
  | invited
  | knocked
  | left
  | banned
  | notJoined
  | unknown
deriving DecidableEq, Repr

structure SpaceChildSummary where
  roomId : String
  displayName : String
  displayNamePlaceholder : Option RoomNamePlaceholder
  avatar : Option AvatarImage
  membership : SpaceChildMembership
  canJoin : Bool
  joinedMembers : Nat
  suggested : Bool
deriving DecidableEq, Repr

/-- The children of the selected space, without the state of their edits. -/
structure SpaceChildrenState where
  selectedSpaceId : Option String
  generation : Nat
  children : List SpaceChildSummary
deriving DecidableEq, Repr

def SpaceChildrenState.childrenFor (state : SpaceChildrenState) (spaceId : String) :
    List SpaceChildSummary :=
  if state.selectedSpaceId = some spaceId then state.children else []

inductive BasicOperationState where
  | idle
  | creatingRoom (requestId : Nat) (name : String)
  | creatingSpace (requestId : Nat) (name : String)
  | linkingSpaceChild (requestId : Nat) (spaceId childRoomId : String)
  | startingDirectMessage (requestId : Nat) (userId : String)
deriving DecidableEq, Repr

inductive SpaceChildLinkOutcome where
  | linked
  | failed (reason : OperationFailureKind)
deriving DecidableEq, Repr

structure SpaceChildLinkResult where
  requestId : Nat
  spaceId : String
  childRoomId : String
  outcome : SpaceChildLinkOutcome
deriving DecidableEq, Repr

structure SpaceChildLinkResults where
  entries : List SpaceChildLinkResult
deriving DecidableEq, Repr

def SpaceChildLinkResults.latest (results : SpaceChildLinkResults) (spaceId childRoomId : String) :
    Option SpaceChildLinkResult :=
  results.entries.find? (fun entry => entry.spaceId = spaceId && entry.childRoomId = childRoomId)

/-- The slices of the application state that the sidebar is computed from. -/
structure SidebarState where
  navigation : NavigationState
  settings : SettingsValues
  spaces : List SpaceSummary
  rooms : List RoomSummary
  invites : List InvitePreview
  roomNotificationSettings : NotificationSettingsMap
  roomAccess : OrdMap String RoomAccessCondition
  spaceChildren : SpaceChildrenState
  basicOperation : BasicOperationState
  spaceChildLinks : SpaceChildLinkResults
deriving DecidableEq

/-! ## Scope settings -/

def SIDEBAR_HOME_SCOPE_KEY : String := "__home__"

def sidebarScopeKey (scope : Option String) : String := scope.getD SIDEBAR_HOME_SCOPE_KEY

/-- The settings of a scope, with the fallbacks for what it does not set. -/
def SidebarSettings.scope (settings : SidebarSettings) (scope : Option String)
    (fallbackSort : RoomListSort) : SidebarScopeSettings :=
  let fallback : SidebarSectionSettings := { (default : SidebarSectionSettings) with sort := fallbackSort }
  let resolved := settings.scopePreferences[sidebarScopeKey scope]?.getD ⟨fallback, fallback, none⟩
  { resolved with
    lowPriority := some
      { collapsed := (resolved.lowPriority.map (fun own => own.collapsed)).getD
          settings.collapsed.lowPriority
        sort := resolved.rooms.sort
        expanded := resolved.lowPriority.any (fun own => own.expanded) } }

/-! ## Rows -/

structure RoomListItem where
  roomId : String
  membership : SpaceChildMembership
  canJoin : Bool
  suggested : Bool
  accessJoinRule : Option RoomJoinRule
  accessRestrictedConditions : Option RestrictedConditions
  accessAllowedRoomNames : List String
  accessSpaceMembersRoute : Option String
  displayName : String
  displayNamePlaceholder : Option RoomNamePlaceholder
  avatar : Option AvatarImage
  tags : RoomTags
  unreadCount : Nat
  highlightCount : Nat
  notificationCount : Nat
  displayCount : Nat
  mainUnreadCount : Nat
  threadUnreadCount : Nat
  hasUnreadContent : Bool
  isAttentionHighlighted : Bool
  hasUnreadMention : Bool
  isMuted : Bool
deriving DecidableEq, Repr

/-- A map from a list of pairs; a later pair replaces an earlier one. -/
def collect {β : Type} (pairs : List (String × β)) : OrdMap String β :=
  pairs.foldl (fun map pair => map.insert pair.1 pair.2) ∅

def roomsById (rooms : List RoomSummary) : OrdMap String RoomSummary :=
  collect (rooms.map (fun room => (room.roomId, room)))

/-- The labels by which a restricted rule can be described. -/
def accessNamesByRoom (rooms : List RoomSummary) (spaces : List SpaceSummary) : OrdMap String String :=
  collect (rooms.map (fun room => (room.roomId, room.displayLabel)) ++
    spaces.map (fun space => (space.spaceId, space.displayName)))

section Text

variable (text : TextRules)

/-- The names of a restricted rule's targets, and the one space whose members may
join.  What has no name stays out. -/
def accessAllowNames (condition : Option RoomAccessCondition) (namesByRoom : OrdMap String String) :
    List String × Option String :=
  match condition with
  | none => ([], none)
  | some condition =>
    let resolved (target : RoomAllowTarget) : Option String :=
      namesByRoom[target.roomId]?.bind (fun name =>
        let name := text.trim name
        if name = "" ∨ name = target.roomId then none else some name)
    let route :=
      match condition.restricted, condition.allowTargets with
      | some .membershipOnly, [target] => if target.kind = .space then resolved target else none
      | _, _ => none
    (condition.allowTargets.filterMap resolved, route)

def roomListItem (room : RoomSummary) (roomNotificationSettings : NotificationSettingsMap)
    (roomAccess : OrdMap String RoomAccessCondition) (namesByRoom : OrdMap String String) :
    RoomListItem :=
  let mode := roomNotificationSettings[room.roomId]?.map (fun settings => settings.mode)
  let projection := roomAttentionProjection room mode
  let (names, route) := accessAllowNames text roomAccess[room.roomId]? namesByRoom
  { roomId := room.roomId
    membership := .joined
    canJoin := false
    suggested := false
    accessJoinRule := roomAccess[room.roomId]?.bind (fun condition => condition.joinRule)
    accessRestrictedConditions := roomAccess[room.roomId]?.bind (fun condition => condition.restricted)
    accessAllowedRoomNames := names
    accessSpaceMembersRoute := route
    displayName := room.displayLabel
    displayNamePlaceholder := room.displayLabelPlaceholder
    avatar := room.avatar
    tags := room.tags
    unreadCount := projection.unreadCount
    highlightCount := projection.highlightCount
    notificationCount := projection.notificationCount
    displayCount := projection.displayCount
    mainUnreadCount := projection.mainUnreadCount
    threadUnreadCount := projection.threadUnreadCount
    hasUnreadContent := projection.hasUnreadContent
    isAttentionHighlighted := projection.isAttentionHighlighted
    hasUnreadMention := projection.hasUnreadMention
    isMuted := projection.isMuted }

/-- A room that the account has not joined has no read state and no tags.  The
account's own invitations outrank what the server said about the child. -/
def notJoinedRoomListItem (child : SpaceChildSummary) (invitedRoomIds : List String) : RoomListItem :=
  let invited := invitedRoomIds.contains child.roomId
  let membership :=
    if invited then .invited
    else match child.membership with
      | .joined | .invited => .notJoined
      | membership => membership
  { roomId := child.roomId
    membership := membership
    canJoin := invited || child.canJoin
    suggested := child.suggested
    accessJoinRule := none
    accessRestrictedConditions := none
    accessAllowedRoomNames := []
    accessSpaceMembersRoute := none
    displayName := child.displayName
    displayNamePlaceholder := child.displayNamePlaceholder
    avatar := child.avatar
    tags := .default
    unreadCount := 0
    highlightCount := 0
    notificationCount := 0
    displayCount := 0
    mainUnreadCount := 0
    threadUnreadCount := 0
    hasUnreadContent := false
    isAttentionHighlighted := false
    hasUnreadMention := false
    isMuted := false }

def spaceChildIsVisible (child : SpaceChildSummary) (invitedRoomIds : List String) : Bool :=
  invitedRoomIds.contains child.roomId ||
    match child.membership with
    | .joined => true
    | .unknown => decide (0 < child.joinedMembers)
    | .invited => invitedRoomIds.contains child.roomId
    | .knocked => true
    | .notJoined | .left | .banned => decide (0 < child.joinedMembers)

/-- With no active space a room is listed unless a joined space lists it. -/
def roomListedAtHome (room : RoomSummary) (spaces : List SpaceSummary) : Bool :=
  room.isDm || !spaces.any (fun space => space.childRoomIds.contains room.roomId)

def compareRooms (sort : RoomListSort) (roomNotificationSettings : NotificationSettingsMap)
    (left right : RoomSummary) : Ordering :=
  match sort with
  | .activity => compareAttentionActivity text (some left)
      (roomNotificationSettings[left.roomId]?.map (fun settings => settings.mode)) (some right)
      (roomNotificationSettings[right.roomId]?.map (fun settings => settings.mode))
  | .recentFirst => compareConversationActivity text (some left) (some right)
  | .normalLocale => compareLabels text left.displayLabel left.roomId right.displayLabel right.roomId

def sortRoomSummaries (rooms : List RoomSummary) (sort : RoomListSort)
    (roomNotificationSettings : NotificationSettingsMap) : List RoomSummary :=
  sortBy (compareRooms text sort roomNotificationSettings) rooms

/-! ## Aggregates -/

/-- Muted and low-priority conversations feed no aggregate. -/
def contributesAttention (room : RoomSummary) (settings : NotificationSettingsMap) : Bool :=
  room.tags.lowPriority.isNone && !roomIsMuted room.roomId settings

structure AccountAttentionSummary where
  unreadCount : Nat
  highlightCount : Nat
  inviteCount : Nat
  attentionCount : Nat
deriving DecidableEq, Repr

def accountAttentionSummary (rooms : List RoomSummary) (settings : NotificationSettingsMap)
    (pendingInviteCount : Nat) : AccountAttentionSummary :=
  let contributing := rooms.filter (fun room => contributesAttention room settings)
  let unread := (contributing.map roomActivityUnreadCount).sum
  { unreadCount := unread
    highlightCount := (contributing.map (fun room => room.highlightCount)).sum
    inviteCount := pendingInviteCount
    attentionCount := unread + pendingInviteCount }

/-- The joined rooms of a space that feed its aggregates. -/
def attentiveChildren (space : SpaceSummary) (byId : OrdMap String RoomSummary)
    (settings : NotificationSettingsMap) : List RoomSummary :=
  ((space.childRoomIds.filterMap (fun roomId => byId[roomId]?)).filter (fun room => !room.isDm)).filter
    (fun room => contributesAttention room settings)

def spaceUnreadCount (space : SpaceSummary) (byId : OrdMap String RoomSummary)
    (settings : NotificationSettingsMap) : Nat :=
  ((attentiveChildren space byId settings).map roomActivityUnreadCount).sum

def spaceHighlightCount (space : SpaceSummary) (byId : OrdMap String RoomSummary)
    (settings : NotificationSettingsMap) : Nat :=
  ((attentiveChildren space byId settings).map (fun room => room.highlightCount)).sum

def unreadCount (rooms : List RoomListItem) (settings : NotificationSettingsMap) : Nat :=
  ((rooms.filter (fun room => !roomIsMuted room.roomId settings)).map (fun room => room.unreadCount)).sum

def highlightCount (rooms : List RoomListItem) (settings : NotificationSettingsMap) : Nat :=
  ((rooms.filter (fun room => !roomIsMuted room.roomId settings)).map
    (fun room => room.highlightCount)).sum

/-! ## The rail -/

structure SpaceLeaveCandidate where
  roomId : String
  displayName : String
  displayNamePlaceholder : Option RoomNamePlaceholder
  avatar : Option AvatarImage
  inOtherSpace : Bool
deriving DecidableEq, Repr

def spaceLeaveCandidates (space : SpaceSummary) (spaces : List SpaceSummary)
    (byId : OrdMap String RoomSummary) : List SpaceLeaveCandidate :=
  let rooms := (space.childRoomIds.eraseDups.filterMap (fun roomId => byId[roomId]?)).filter
    (fun room => !room.isDm)
  let sorted := sortBy
    (fun left right => compareLabels text left.displayLabel left.roomId right.displayLabel right.roomId)
    rooms
  sorted.map (fun room =>
    { roomId := room.roomId
      displayName := room.displayLabel
      displayNamePlaceholder := room.displayLabelPlaceholder
      avatar := room.avatar
      inOtherSpace := spaces.any (fun other =>
        decide (other.spaceId ≠ space.spaceId) && other.childRoomIds.contains room.roomId) })

structure SpaceRailItem where
  spaceId : String
  displayName : String
  localIcon : Option String
  avatar : Option AvatarImage
  unreadCount : Nat
  highlightCount : Nat
  isActive : Bool
  accessJoinRule : Option RoomJoinRule
  accessRestrictedConditions : Option RestrictedConditions
  accessAllowedRoomNames : List String
  accessSpaceMembersRoute : Option String
  leaveCandidates : List SpaceLeaveCandidate
deriving DecidableEq, Repr

def spaceRailItem (activeSpaceId : Option String) (spaces : List SpaceSummary)
    (byId : OrdMap String RoomSummary) (settings : NotificationSettingsMap)
    (presentations : OrdMap String SpaceLocalPresentation)
    (roomAccess : OrdMap String RoomAccessCondition) (namesByRoom : OrdMap String String)
    (space : SpaceSummary) : SpaceRailItem :=
  let presentation := presentations[space.spaceId]?
  let (names, route) := accessAllowNames text roomAccess[space.spaceId]? namesByRoom
  { spaceId := space.spaceId
    displayName := (presentation.bind (fun own => own.name)).getD space.displayName
    localIcon := presentation.bind (fun own => own.icon)
    avatar := space.avatar
    unreadCount := spaceUnreadCount space byId settings
    highlightCount := spaceHighlightCount space byId settings
    isActive := decide (activeSpaceId = some space.spaceId)
    accessJoinRule := roomAccess[space.spaceId]?.bind (fun condition => condition.joinRule)
    accessRestrictedConditions := roomAccess[space.spaceId]?.bind (fun condition => condition.restricted)
    accessAllowedRoomNames := names
    accessSpaceMembersRoute := route
    leaveCandidates := spaceLeaveCandidates text space spaces byId }

structure AccountHomeItem where
  displayName : String
  unreadCount : Nat
  highlightCount : Nat
  inviteCount : Nat
  attentionCount : Nat
  isActive : Bool
deriving DecidableEq, Repr

/-! ## Sections -/

structure SidebarSections where
  favourites : List RoomListItem
  rooms : List RoomListItem
  people : List RoomListItem
  lowPriority : List RoomListItem
  notJoined : List RoomListItem
deriving DecidableEq, Repr

def SIDEBAR_SECTION_DEFAULT_VISIBLE_COUNT : Nat := 5

structure SidebarSectionBound where
  visibleLimit : Nat
  totalCount : Nat
  visibleCount : Nat
  hiddenCount : Nat
  expanded : Bool
  expandedByActiveRoom : Bool
  showsExpandControl : Bool
deriving DecidableEq, Repr

/-- The open conversation is never hidden by the bound. -/
def SidebarSectionBound.project (totalCount : Nat) (persistedExpanded : Bool)
    (activeRoomIndex : Option Nat) : SidebarSectionBound :=
  let visibleLimit := SIDEBAR_SECTION_DEFAULT_VISIBLE_COUNT
  let activeRoomBeyondBound := activeRoomIndex.any (fun index => decide (visibleLimit ≤ index))
  let expandedByActiveRoom := !persistedExpanded && activeRoomBeyondBound
  let expanded := persistedExpanded || activeRoomBeyondBound
  let visibleCount := if expanded then totalCount else min totalCount visibleLimit
  { visibleLimit := visibleLimit
    totalCount := totalCount
    visibleCount := visibleCount
    hiddenCount := totalCount - visibleCount
    expanded := expanded
    expandedByActiveRoom := expandedByActiveRoom
    showsExpandControl := !expandedByActiveRoom && decide (visibleLimit < totalCount) }

structure SidebarSectionBounds where
  rooms : Option SidebarSectionBound
  dms : Option SidebarSectionBound
  lowPriority : Option SidebarSectionBound
deriving DecidableEq, Repr

structure SidebarSectionVisibility where
  activeRoomId : Option String
  revealed : Option SidebarSectionReveal

def activeRoomPosition (rooms : List RoomListItem) (activeRoomId : Option String) : Option Nat :=
  activeRoomId.bind (fun activeRoomId => rooms.findIdx? (fun room => room.roomId = activeRoomId))

/-- A reveal opens its section only in its own scope and while the open conversation
is in it. -/
def sectionRevealed (visibility : SidebarSectionVisibility) (scopeKey : String)
    (kind : SidebarSectionKind) (rooms : List RoomListItem) : Bool :=
  visibility.revealed.any (fun reveal =>
    decide (reveal.scope = scopeKey) && decide (reveal.sectionKind = kind) &&
      (activeRoomPosition rooms visibility.activeRoomId).isSome)

/-- The non-DM rooms of the active scope: the children of the space, or at Home (or
for a space that is not there) what no space lists. -/
def scopeRooms (activeSpaceId : Option String) (spaces : List SpaceSummary) (rooms : List RoomSummary) :
    List RoomSummary :=
  match activeSpaceId.bind (fun spaceId => spaces.find? (fun space => space.spaceId = spaceId)) with
  | some space =>
    (space.childRoomIds.filterMap (fun roomId => (roomsById rooms)[roomId]?)).filter
      (fun room => !room.isDm)
  | none => rooms.filter (fun room => !room.isDm && roomListedAtHome room spaces)

/-- The DMs of the active scope. -/
def scopeDms (activeSpaceId : Option String) (rooms : List RoomSummary) : List RoomSummary :=
  rooms.filter (fun room => room.isDm &&
    (activeSpaceId.isNone || room.dmSpaceIds.any (fun spaceId => some spaceId = activeSpaceId)))

/-- The advertised children of the active space that the account is not in, the
suggested ones first. -/
def notJoinedChildren (activeSpaceId : Option String) (spaces : List SpaceSummary)
    (rooms : List RoomSummary) (spaceChildren : SpaceChildrenState) (invitedRoomIds : List String) :
    List SpaceChildSummary :=
  let children := (activeSpaceId.map spaceChildren.childrenFor).getD []
  let notJoined := children.filter (fun child =>
    !(roomsById rooms).contains child.roomId &&
      !spaces.any (fun space => space.spaceId = child.roomId) &&
      spaceChildIsVisible child invitedRoomIds)
  sortBy
    (fun left right => (compare right.suggested left.suggested).then
      (compareLabels text left.displayName left.roomId right.displayName right.roomId))
    notJoined

/-! ## The dialogs of the scope -/

inductive SpaceAddRoomStatus where
  | available
  | adding
  | added
  | failed (reason : OperationFailureKind)
deriving DecidableEq, Repr

structure SpaceAddRoomCandidate where
  roomId : String
  displayName : String
  avatar : Option AvatarImage
  status : SpaceAddRoomStatus
deriving DecidableEq, Repr

structure SpaceAddRoomsModel where
  spaceId : String
  candidates : List SpaceAddRoomCandidate
deriving DecidableEq, Repr

def spaceAddRoomsForState (state : SidebarState) : Option SpaceAddRoomsModel :=
  state.navigation.activeSpaceId.bind (fun spaceId =>
    (state.spaces.find? (fun space => space.spaceId = spaceId)).map (fun space =>
      let inFlight :=
        match state.basicOperation with
        | .linkingSpaceChild _ linkingSpaceId childRoomId =>
          if linkingSpaceId = spaceId then some childRoomId else none
        | _ => none
      let status (room : RoomSummary) : SpaceAddRoomStatus :=
        if inFlight = some room.roomId then .adding
        else if space.parentSideChildRoomIds.contains room.roomId then .added
        else match state.spaceChildLinks.latest spaceId room.roomId with
          | some ⟨_, _, _, .linked⟩ => .added
          | some ⟨_, _, _, .failed reason⟩ => .failed reason
          | none => .available
      let eligible := state.rooms.filter (fun room =>
        !room.isDm && decide (room.roomId ≠ spaceId) &&
          !state.spaces.any (fun space => space.spaceId = room.roomId))
      let candidates := eligible.map (fun room =>
        (⟨room.roomId, room.displayLabel, room.avatar, status room⟩ : SpaceAddRoomCandidate))
      { spaceId := spaceId
        candidates := sortBy
          (fun left right => compareLabels text left.displayName left.roomId right.displayName right.roomId)
          candidates }))

inductive CreateRoomVisibility where
  | «private»
  | «public»
deriving DecidableEq, Repr

structure CreateRoomDefaults where
  visibility : CreateRoomVisibility
  encrypted : Bool
  invitedOnly : Bool
deriving DecidableEq, Repr

instance : Inhabited CreateRoomDefaults := ⟨⟨.private, true, false⟩⟩

def createRoomDefaultsForState (state : SidebarState) : CreateRoomDefaults :=
  let publicSpace := (state.navigation.activeSpaceId.bind (fun spaceId =>
    state.spaces.find? (fun space => space.spaceId = spaceId))).any
      (fun space => space.joinRule = some .public)
  { (default : CreateRoomDefaults) with visibility := if publicSpace then .public else .private }

/-! ## The whole sidebar -/

structure SidebarModel where
  activeSpaceId : Option String
  accountHome : AccountHomeItem
  spaceRail : List SpaceRailItem
  spaceRooms : List RoomListItem
  notJoinedSpaceRooms : List RoomListItem
  globalDms : List RoomListItem
  spaceUnreadCount : Nat
  dmUnreadCount : Nat
  spaceHighlightCount : Nat
  dmHighlightCount : Nat
  roomsSort : RoomListSort
  dmsSort : RoomListSort
  roomsCollapsed : Bool
  dmsCollapsed : Bool
  lowPriorityCollapsed : Bool
  sections : SidebarSections
  sectionBounds : SidebarSectionBounds
  spaceAddRooms : Option SpaceAddRoomsModel
  createRoomDefaults : CreateRoomDefaults
deriving DecidableEq, Repr

/-- The sections of a scope.  Low priority spans its rooms and its DMs, in the order
of the rooms. -/
def composeSections (activeSpaceId : Option String) (spaces : List SpaceSummary)
    (rooms : List RoomSummary) (settings : NotificationSettingsMap) (roomsSort dmsSort : RoomListSort)
    (spaceChildren : SpaceChildrenState) (invites : List InvitePreview)
    (roomAccess : OrdMap String RoomAccessCondition) :
    SidebarSections × List RoomListItem × List RoomListItem :=
  let names := accessNamesByRoom rooms spaces
  let item (room : RoomSummary) : RoomListItem := roomListItem text room settings roomAccess names
  let spaceRoomSummaries :=
    sortRoomSummaries text (scopeRooms activeSpaceId spaces rooms) roomsSort settings
  let spaceRooms := spaceRoomSummaries.map item
  let invitedRoomIds := invites.map (fun invite => invite.roomId)
  let notJoined := (notJoinedChildren text activeSpaceId spaces rooms spaceChildren invitedRoomIds).map
    (fun child => notJoinedRoomListItem child invitedRoomIds)
  let globalDmSummaries := sortRoomSummaries text (scopeDms activeSpaceId rooms) dmsSort settings
  let globalDms := globalDmSummaries.map item
  let lowPrioritySummaries := sortRoomSummaries text
    ((spaceRoomSummaries ++ globalDmSummaries).filter (fun room => room.tags.lowPriority.isSome))
    roomsSort settings
  let sections : SidebarSections :=
    { favourites := spaceRooms.filter (fun room =>
        room.tags.favourite.isSome && room.tags.lowPriority.isNone)
      rooms := spaceRooms.filter (fun room => room.tags.lowPriority.isNone)
      people := globalDms.filter (fun room => room.tags.lowPriority.isNone)
      lowPriority := lowPrioritySummaries.map item
      notJoined := notJoined }
  (sections, spaceRooms, globalDms)

def composeSidebarWithPreferences (activeSpaceId : Option String) (spaces : List SpaceSummary)
    (rooms : List RoomSummary) (settings : NotificationSettingsMap) (pendingInviteCount : Nat)
    (roomsSort dmsSort : RoomListSort) (sectionSettings : SidebarScopeSettings)
    (presentations : OrdMap String SpaceLocalPresentation) (spaceChildren : SpaceChildrenState)
    (invites : List InvitePreview) (roomAccess : OrdMap String RoomAccessCondition)
    (visibility : SidebarSectionVisibility) : SidebarModel :=
  let attention := accountAttentionSummary rooms settings pendingInviteCount
  let composed := composeSections text activeSpaceId spaces rooms settings roomsSort dmsSort
    spaceChildren invites roomAccess
  let sections := composed.1
  let scopeKey := sidebarScopeKey activeSpaceId
  let lowPriority := sectionSettings.lowPriority.getD default
  { activeSpaceId := activeSpaceId
    accountHome :=
      { displayName := "Home"
        unreadCount := attention.unreadCount
        highlightCount := attention.highlightCount
        inviteCount := attention.inviteCount
        attentionCount := attention.attentionCount
        isActive := activeSpaceId.isNone }
    spaceRail := spaces.map (spaceRailItem text activeSpaceId spaces (roomsById rooms) settings
      presentations roomAccess (accessNamesByRoom rooms spaces))
    spaceRooms := composed.2.1
    notJoinedSpaceRooms := sections.notJoined
    globalDms := composed.2.2
    spaceUnreadCount := unreadCount sections.rooms settings
    dmUnreadCount := unreadCount sections.people settings
    spaceHighlightCount := highlightCount sections.rooms settings
    dmHighlightCount := highlightCount sections.people settings
    roomsSort := roomsSort
    dmsSort := dmsSort
    roomsCollapsed := sectionSettings.rooms.collapsed &&
      !sectionRevealed visibility scopeKey .rooms sections.rooms
    dmsCollapsed := sectionSettings.dms.collapsed &&
      !sectionRevealed visibility scopeKey .dms sections.people
    lowPriorityCollapsed := lowPriority.collapsed &&
      !sectionRevealed visibility scopeKey .lowPriority sections.lowPriority
    sections := sections
    sectionBounds :=
      { rooms := some (.project sections.rooms.length sectionSettings.rooms.expanded
          (activeRoomPosition sections.rooms visibility.activeRoomId))
        dms := some (.project sections.people.length sectionSettings.dms.expanded
          (activeRoomPosition sections.people visibility.activeRoomId))
        lowPriority := some (.project sections.lowPriority.length lowPriority.expanded
          (activeRoomPosition sections.lowPriority visibility.activeRoomId)) }
    spaceAddRooms := none
    createRoomDefaults := default }

/-- The positions of the spaces in the user's order. -/
def preferredPositions (spaceOrder : List String) : OrdMap String Nat :=
  collect spaceOrder.zipIdx

/-- Spaces with a preferred position first, in that order; the others as they come. -/
def compareRailPositions (positions : OrdMap String Nat) (left right : SpaceRailItem) : Ordering :=
  match positions[left.spaceId]?, positions[right.spaceId]? with
  | some left, some right => compare left right
  | some _, none => .lt
  | none, some _ => .gt
  | none, none => .eq

def composeSidebarForState (state : SidebarState) : SidebarModel :=
  let scope := state.settings.sidebar.scope state.navigation.activeSpaceId state.settings.roomListSort
  let sidebar := composeSidebarWithPreferences text state.navigation.activeSpaceId state.spaces
    state.rooms state.roomNotificationSettings state.invites.length scope.rooms.sort scope.dms.sort
    scope state.navigation.spaceLocalPresentations state.spaceChildren state.invites state.roomAccess
    ⟨state.navigation.activeRoomId, state.navigation.revealedSidebarSection⟩
  { sidebar with
    spaceAddRooms := spaceAddRoomsForState text state
    createRoomDefaults := createRoomDefaultsForState state
    spaceRail := sortBy (compareRailPositions (preferredPositions state.navigation.spaceOrder))
      sidebar.spaceRail }

end Text

end Koushi.Rooms
