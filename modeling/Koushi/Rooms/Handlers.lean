import Koushi.Rooms.Install

namespace Koushi.Rooms

open Collections

/-!
# The other handlers of the room list

Every handler that writes something the room list or the badge is computed from, as
the source has it: some compute the two values again, some compute one of them, and
some compute neither.
-/

section Text

variable (text : TextRules)

/-! ## Lists -/

/-- The child of the selected space that was left, and a new generation of children
to load. -/
def SpaceChildrenState.roomLeft (children : SpaceChildrenState) (spaces : List SpaceSummary)
    (roomId : String) (joinedMembersBeforeLeave : Option Nat) : SpaceChildrenState :=
  match children.selectedSpaceId with
  | none => children
  | some spaceId =>
    let advertised := (spaces.find? (fun space => space.spaceId = spaceId)).any
      (fun space => space.childRoomIds.contains roomId)
    if !hasKey SpaceChildSummary.roomId children.children roomId && !advertised then children
    else
      { children with
        generation := children.generation + 1
        children := modifyBy SpaceChildSummary.roomId roomId (fun child =>
          if child.membership = .joined then
            { child with
              membership := .left
              canJoin := false
              joinedMembers := joinedMembersBeforeLeave.getD child.joinedMembers - 1 }
          else child) children.children }

variable (state : AppState)

/-- A left room, or a declined invite, is removed before the service notices. -/
def handleRoomLeftLocally (roomId : String) : AppState :=
  let declinedInvite := hasKey InvitePreview.roomId state.invites roomId
  if !state.isSessionReady ||
      (!declinedInvite && !roomExists state roomId && !hasKey SpaceSummary.spaceId state.spaces roomId) then
    state
  else
    let joinedMembersBeforeLeave := (findRoom state roomId).map (fun room => room.joinedMembers)
    let state := { state with
      roomList.locallyLeftRoomIds := state.roomList.locallyLeftRoomIds.insert roomId
      invites := if declinedInvite then state.invites.filter (fun invite => invite.roomId ≠ roomId)
        else state.invites
      roomAccess := state.roomAccess.erase roomId }
    let state := handleRoomListUpdatedWithCrawler text state state.spaces
      (state.rooms.filter (fun room => room.roomId ≠ roomId)) false
    { state with
      spaceChildren := state.spaceChildren.roomLeft state.spaces roomId joinedMembersBeforeLeave }

def handleRoomJoinedLocally (roomId : String) : AppState :=
  { state with roomList.locallyLeftRoomIds := state.roomList.locallyLeftRoomIds.erase roomId }

def handleRoomListBootstrapStarted (generation : Nat) (source : RoomListSource) : AppState :=
  if !state.isSessionReady || generation ≤ roomListGeneration state.roomList.readiness then state
  else recomputeRoomListProjection text
    { state with roomList.readiness := .loading source generation }

def handleRoomListBootstrapFailed (generation : Nat) (source : RoomListSource)
    (kind : RoomListFailureKind) : AppState :=
  if state.roomList.readiness = .loading source generation then
    recomputeRoomListProjection text
      { state with roomList.readiness := .failed source generation kind }
  else state

def handleRoomListFilterSelected (filter : RoomListFilter) : AppState :=
  if !state.isSessionReady || state.roomList.activeFilter = filter then state
  else recomputeRoomListProjection text { state with roomList.activeFilter := filter }

/-- Compute the room list again if it shows the invites. -/
def recomputeIfInvitesShown : AppState :=
  if state.roomList.activeFilter = .invites then recomputeRoomListProjection text state else state

def handleInviteListUpdated (invites : List InvitePreview) : AppState :=
  if !state.isSessionReady then state
  else
    let known := collectKnownAvatarThumbnails state true
    let invites := invites.map (fun invite =>
      { invite with avatar := preserveAvatarThumbnail known invite.avatar })
    recomputeIfInvitesShown text { state with invites := invites }

def handleRoomActivityLoaded (activity : RoomActivityState) : AppState :=
  let state := { state with roomActivity := activity }
  if state.rooms.any (fun room => (RoomActivityState.newerThan activity room).isSome) then
    recomputeRoomListProjection text
      { state with rooms := RoomActivityState.mergeIntoRooms activity state.rooms }
  else state

/-! ## One room -/

/-- The three tag handlers: change the tags of a room, if that changes anything. -/
def changeRoomTags (roomId : String) (change : RoomTags -> RoomTags) : AppState :=
  if !state.isSessionReady then state
  else
    match findRoom state roomId with
    | none => state
    | some room =>
      if room.tags = change room.tags then state
      else { state with
        rooms := modifyBy RoomSummary.roomId roomId
          (fun room => { room with tags := change room.tags }) state.rooms }

def handleRoomTagsUpdated (roomId : String) (tags : RoomTags) : AppState :=
  changeRoomTags state roomId (fun _ => tags)

def handleRoomTagSet (roomId : String) (tag : RoomTagKind) (info : RoomTagInfo) : AppState :=
  changeRoomTags state roomId (fun tags => tags.set tag info)

def handleRoomTagRemoved (roomId : String) (tag : RoomTagKind) : AppState :=
  changeRoomTags state roomId (fun tags => tags.remove tag)

def handleRoomMarkedAsReadSucceeded (roomId : String) : AppState :=
  if !state.hasSessionProjectionContext then state
  else
    match findRoom state roomId with
    | none => state
    | some room =>
      let state := { state with
        rooms := modifyBy RoomSummary.roomId roomId clearUnreadMetrics state.rooms
        locallyReadActivity := state.locallyReadActivity.insert roomId (RoomReadActivity.of room) }
      recomputeNativeAttentionFromRooms (recomputeRoomListProjection text state)

def handleRoomMarkedAsUnreadSucceeded (roomId : String) (unread : Bool) : AppState :=
  if !state.hasSessionProjectionContext || !roomExists state roomId then state
  else recomputeRoomListProjection text
    { state with
      rooms := modifyBy RoomSummary.roomId roomId (fun room => { room with markedUnread := unread })
        state.rooms }

def handleThreadUnreadObserved (roomId rootEventId : String) (unread highlight : Nat) : AppState :=
  let next : ThreadRootAttention := ⟨unread, highlight⟩
  let previous := (NestedMap.lookup state.threadUnread roomId rootEventId).getD ⟨0, 0⟩
  if !state.isSessionReady || !roomExists state roomId || isLocallyLeft state roomId || previous = next then
    state
  else
    let threadUnread :=
      if next.isEmpty then NestedMap.removeAt state.threadUnread roomId rootEventId
      else NestedMap.insertAt state.threadUnread roomId rootEventId next
    let totals (room : RoomSummary) : Nat × Nat := (room.threadUnreadCount, room.threadHighlightCount)
    let refreshed := { state with
      threadUnread := threadUnread
      rooms := modifyBy RoomSummary.roomId roomId (applyRoomThreadBadgeTotals threadUnread) state.rooms }
    if (findRoom refreshed roomId).map totals = (findRoom state roomId).map totals then refreshed
    else recomputeNativeAttentionFromRooms (recomputeRoomListProjection text refreshed)

/-! ## Notification modes -/

/-- The modes of the stored preferences replace all that is known. -/
def handleRoomPreferencesLoaded (modes : OrdMap String RoomNotificationMode) : AppState :=
  let settings : NotificationSettingsMap := modes.map (fun _ mode => ⟨mode, .idle⟩)
  let loaded := { state with roomNotificationSettings := settings }
  let loaded := if settings = state.roomNotificationSettings then loaded
    else recomputeRoomListProjection text loaded
  recomputeNativeAttentionFromRooms loaded

def handleRoomNotificationModeSet (requestId : Nat) (roomId : String)
    (mode : RoomNotificationMode) : AppState :=
  if !state.isSessionReady ||
      (!roomExists state roomId && !hasKey InvitePreview.roomId state.invites roomId) then state
  else
    recomputeNativeAttentionFromRooms (recomputeRoomListProjection text { state with
      roomNotificationAwaitingEcho := state.roomNotificationAwaitingEcho.insert roomId (requestId, mode)
      roomNotificationSettings := state.roomNotificationSettings.insert roomId ⟨mode, .pending requestId⟩ })

/-- Settle the operation of a room that is waiting for this request. -/
def settleNotificationOperation (settings : NotificationSettingsMap) (requestId : Nat) (roomId : String)
    (operation : RoomNotificationModeOperation) : Option NotificationSettingsMap :=
  match settings[roomId]? with
  | some entry =>
    if entry.operation = .pending requestId then
      some (settings.insert roomId { entry with operation := operation })
    else none
  | none => none

def handleRoomNotificationModeCompleted (requestId : Nat) (roomId : String) : AppState :=
  if !state.isSessionReady then state
  else
    match settleNotificationOperation state.roomNotificationSettings requestId roomId .idle with
    | none => state
    | some settings => { state with roomNotificationSettings := settings }

def handleRoomNotificationModeFailed (requestId : Nat) (roomId : String)
    (kind : OperationFailureKind) : AppState :=
  if !state.isSessionReady then state
  else
    match settleNotificationOperation state.roomNotificationSettings requestId roomId
        (.failed requestId kind) with
    | none => state
    | some settings => { state with
        roomNotificationSettings := settings
        roomNotificationAwaitingEcho := state.roomNotificationAwaitingEcho.erase roomId }

/-- What an observation of modes changes. -/
structure ModeObservation where
  awaitingEcho : OrdMap String (Nat × RoomNotificationMode)
  settings : NotificationSettingsMap
  changed : Bool

/-- One observed mode.  A mode that a request here is still waiting for is not
overwritten by an older one, and a pending request keeps its choice. -/
def observeNotificationMode (seen : ModeObservation) (entry : String × RoomNotificationMode) :
    ModeObservation :=
  let roomId := entry.1
  let mode := entry.2
  if seen.awaitingEcho[roomId]?.any (fun expected => expected.2 ≠ mode) then seen
  else
    let current := seen.settings[roomId]?.getD default
    let seen := { seen with
      awaitingEcho := seen.awaitingEcho.erase roomId
      settings := seen.settings.insert roomId current }
    match current.operation with
    | .pending _ => seen
    | _ =>
      if current.mode = mode then seen
      else { seen with
        settings := seen.settings.insert roomId { current with mode := mode }
        changed := true }

def handleRoomNotificationModesObserved (generation : Nat) (source : RoomListSource)
    (modes : OrdMap String RoomNotificationMode) : AppState :=
  if !state.isSessionReady ||
      !roomListProvisionalMatchesCurrent state.roomList.readiness generation source then state
  else
    let seen := modes.toList.foldl observeNotificationMode
      ⟨state.roomNotificationAwaitingEcho, state.roomNotificationSettings, false⟩
    let observed := { state with
      roomNotificationAwaitingEcho := seen.awaitingEcho
      roomNotificationSettings := seen.settings }
    if seen.changed then
      recomputeNativeAttentionFromRooms (recomputeRoomListProjection text observed)
    else observed

/-- A synced policy is echo enough for every request that has finished. -/
def handleRoomNotificationPolicySynced (generation : Nat) : AppState :=
  if !state.isSessionReady ||
      !roomListProvisionalMatchesCurrent state.roomList.readiness generation .live then state
  else
    let isPending (roomId : String) : Bool := state.roomNotificationSettings[roomId]?.any (fun entry =>
      match entry.operation with
      | .pending _ => true
      | _ => false)
    { state with
      roomNotificationAwaitingEcho :=
        state.roomNotificationAwaitingEcho.filter (fun roomId _ => isPending roomId) }

def handleRoomNotificationModeConfirmed (requestId : Nat) (roomId : String)
    (mode : RoomNotificationMode) : AppState :=
  if !state.isSessionReady ||
      !state.roomNotificationAwaitingEcho[roomId]?.any (fun expected => expected.1 = requestId) then state
  else
    let awaiting (state : AppState) : AppState := { state with
      roomNotificationAwaitingEcho := state.roomNotificationAwaitingEcho.insert roomId (requestId, mode) }
    let (source, generation) :=
      match state.roomList.readiness with
      | .ready source generation => (source, generation)
      | .loading source generation => (source, generation)
      | _ => (RoomListSource.cache, 0)
    awaiting (handleRoomNotificationModesObserved text (awaiting state) generation source
      ((∅ : OrdMap String RoomNotificationMode).insert roomId mode))

/-! ## Settings -/

inductive SettingsPatchScope where
  | app
  | account
deriving DecidableEq, Repr

structure SidebarSectionPatch where
  scope : String
  sectionKind : SidebarSectionKind
  collapsed : Option Bool
  sort : Option RoomListSort
  expanded : Option Bool
deriving DecidableEq, Repr

/-- A patch, with the fields that the room list, the sidebar and the badge read. -/
structure SettingsPatch where
  scope : Option SettingsPatchScope
  notifications : Option NotificationSettings
  roomListSort : Option RoomListSort
  sidebar : Option SidebarSettings
  sidebarSection : Option SidebarSectionPatch
deriving DecidableEq

def SidebarSectionPatch.apply (patch : SidebarSectionPatch) (settings : SidebarSectionSettings) :
    SidebarSectionSettings where
  collapsed := patch.collapsed.getD settings.collapsed
  sort := patch.sort.getD settings.sort
  expanded := patch.expanded.getD settings.expanded

def SidebarSettings.applySectionPatch (settings : SidebarSettings) (patch : SidebarSectionPatch)
    (fallbackSort : RoomListSort) : SidebarSettings :=
  let current := settings.scopePreferences[patch.scope]?.getD (settings.scope (some patch.scope) fallbackSort)
  let patched :=
    match patch.sectionKind with
    | .rooms => { current with rooms := patch.apply current.rooms }
    | .dms => { current with dms := patch.apply current.dms }
    | .lowPriority => { current with lowPriority := some (patch.apply (current.lowPriority.getD default)) }
  { settings with scopePreferences := settings.scopePreferences.insert patch.scope patched }

def SettingsValues.applyPatch (values : SettingsValues) (patch : SettingsPatch) : SettingsValues :=
  if patch.scope = some .app then values
  else
    let sort := patch.roomListSort.getD values.roomListSort
    let sidebar := patch.sidebar.getD values.sidebar
    { roomListSort := sort
      sidebar := (patch.sidebarSection.map (fun sectionPatch => sidebar.applySectionPatch sectionPatch sort)).getD
        sidebar
      notifications := patch.notifications.getD values.notifications }

def handleSettingsLoaded (values : SettingsValues) : AppState :=
  applyBadgeSetting (recomputeRoomListProjection text { state with settings := values })

/-- The settings of the account, and whether others of them changed that this model
does not have. -/
def handleAccountSettingsLoaded (values : SettingsValues) (otherChanged : Bool) : AppState :=
  if values = state.settings && !otherChanged then state
  else applyBadgeSetting (recomputeRoomListProjection text { state with settings := values })

/-- The settings of the device are others; the badge is computed again all the same. -/
def handleAppSettingsSynchronized (changed : Bool) : AppState :=
  if changed then applyBadgeSetting state else state

/-- A collapse choice of the user ends the reveal of that section. -/
def revealAfterPatch (revealed : Option SidebarSectionReveal) (patch : SettingsPatch) :
    Option SidebarSectionReveal :=
  match patch.sidebarSection with
  | none => revealed
  | some sectionPatch => revealed.filter (fun reveal =>
    !(sectionPatch.collapsed.isSome && reveal.scope = sectionPatch.scope &&
      reveal.sectionKind = sectionPatch.sectionKind))

def handleSettingsUpdateRequested (patch : SettingsPatch) : AppState :=
  let patched := applyBadgeSetting { state with
    settings := state.settings.applyPatch patch
    navigation.revealedSidebarSection := revealAfterPatch state.navigation.revealedSidebarSection patch }
  if patched.settings.roomListSort ≠ state.settings.roomListSort ∨
      patched.settings.sidebar ≠ state.settings.sidebar ∨
      patched.navigation.revealedSidebarSection ≠ state.navigation.revealedSidebarSection then
    recomputeRoomListProjection text patched
  else patched

/-! ## Selection -/

def SidebarSectionKind.scopeField (kind : SidebarSectionKind) (settings : SidebarScopeSettings) :
    Option SidebarSectionSettings :=
  match kind with
  | .rooms => some settings.rooms
  | .dms => some settings.dms
  | .lowPriority => settings.lowPriority

/-- The section of the active scope that has the room and is collapsed. -/
def collapsedSectionContaining (roomId : String) : Option SidebarSectionKind :=
  let sections := (composeSidebarForState text state.toSidebarState).sections
  let has (rows : List RoomListItem) : Bool := hasKey RoomListItem.roomId rows roomId
  let kind : Option SidebarSectionKind :=
    if has sections.rooms then some .rooms
    else if has sections.people then some .dms
    else if has sections.lowPriority then some .lowPriority
    else none
  let scope := state.settings.sidebar.scope state.navigation.activeSpaceId state.settings.roomListSort
  kind.filter (fun kind => (kind.scopeField scope).any (fun settings => settings.collapsed))

def revealSidebarSectionForRoom (roomId : String) : AppState :=
  { state with
    navigation.revealedSidebarSection := (collapsedSectionContaining text state roomId).map
      (fun kind => ⟨sidebarScopeKey state.navigation.activeSpaceId, kind⟩) }

def clearRevealedSidebarSection : AppState :=
  { state with navigation.revealedSidebarSection := none }

/-- Another scope has other children and another list. -/
def enterScope : AppState :=
  recomputeRoomListProjection text
    { state with spaceChildren := state.spaceChildren.select state.navigation.activeSpaceId }

def handleSelectSpace (state : AppState) (spaceId : Option String) : AppState :=
  if !state.isSessionReady then state
  else
    let outcome := Koushi.handleSelectSpace state.core spaceId
    let selected := enterScope text { state.navigate outcome with
      roomList.activeFilter := outcome.1.roomList.activeFilter }
    match selected.navigation.activeSpaceId, selected.navigation.activeRoomId with
    | some _, some roomId => revealSidebarSectionForRoom text selected roomId
    | _, _ => clearRevealedSidebarSection selected

def handleSelectRoom (state : AppState) (roomId : String) : AppState :=
  if !state.isSessionReady || !roomExists state roomId then state
  else
    let selected := state.navigate (Koushi.handleSelectRoom state.core roomId)
    let selected := if selected.navigation.activeSpaceId = state.navigation.activeSpaceId then selected
      else enterScope text selected
    revealSidebarSectionForRoom text selected roomId

def handleNavigationLoaded (state : AppState) (navigation : NavigationState) : AppState :=
  if !state.isSessionReady then state
  else
    let outcome := Koushi.handleNavigationLoaded state.core navigation.toNavigationState
    let loaded := { state with
      navigation := { navigation with toNavigationState := outcome.1.navigation }
      spaces := applySpaceOrderPreference state.spaces outcome.1.navigation.spaceOrder }
    if loaded.navigation.activeSpaceId = state.navigation.activeSpaceId then
      recomputeRoomListProjection text loaded
    else enterScope text loaded

/-- The spaces follow a changed order, and nothing is computed again. -/
def setSpaceOrder (spaceOrder : List String) : AppState :=
  { state with
    navigation.spaceOrder := spaceOrder
    spaces := applySpaceOrderPreference state.spaces spaceOrder }

def handleReorderSpaces (spaceIds : List String) : AppState :=
  if !state.isSessionReady then state
  else
    match reorderVisibleSpaceOrder state.navigation.spaceOrder (state.spaces.map SpaceSummary.core)
        spaceIds with
    | none => state
    | some spaceOrder => setSpaceOrder state spaceOrder

def handleSpaceOrderPreferenceRemoved (spaceId : String) : AppState :=
  if !state.isSessionReady then state
  else
    let spaceOrder := state.navigation.spaceOrder.filter (fun candidate => candidate ≠ spaceId)
    if spaceOrder.length = state.navigation.spaceOrder.length then state
    else setSpaceOrder state spaceOrder

def handleDirectoryJoinRequested (state : AppState) (requestId : Nat) (roomIdOrAlias : String)
    (viaServers : List String) : AppState :=
  { state with
    directoryJoin :=
      (Koushi.handleDirectoryJoinRequested state.core requestId roomIdOrAlias viaServers).1.directoryJoin }

/-- The joined room opens at Home; the room list is left as it is. -/
def handleDirectoryJoinSucceeded (state : AppState) (requestId : Nat) (roomId : String) : AppState :=
  if !isJoining state.core requestId then state
  else
    let outcome := Koushi.handleDirectoryJoinSucceeded state.core requestId roomId
    { state.navigate outcome with
      directoryJoin := outcome.1.directoryJoin
      spaceChildren := state.spaceChildren.select none }

def handleDirectoryJoinFailed (state : AppState) (requestId : Nat) (roomIdOrAlias : String)
    (viaServers : List String) (kind : OperationFailureKind) : AppState :=
  { state with
    directoryJoin :=
      (Koushi.handleDirectoryJoinFailed state.core requestId roomIdOrAlias viaServers kind).1.directoryJoin }

def BasicOperationState.requestId : BasicOperationState -> Option Nat
  | .idle => none
  | .creatingRoom requestId _ => some requestId
  | .creatingSpace requestId _ => some requestId
  | .linkingSpaceChild requestId _ _ => some requestId
  | .startingDirectMessage requestId _ => some requestId

/-- A child in both lists of its space. -/
def SpaceSummary.withChild (space : SpaceSummary) (childRoomId : String) : SpaceSummary :=
  let add (roomIds : List String) : List String :=
    if roomIds.contains childRoomId then roomIds else (roomIds ++ [childRoomId]).insertionSort (· ≤ ·)
  { space with
    childRoomIds := add space.childRoomIds
    parentSideChildRoomIds := add space.parentSideChildRoomIds }

/-- A child that the homeserver accepted is in its space at once; the room does not
name the space yet. -/
def handleSpaceChildLinkSettled (requestId : Nat) (spaceId childRoomId : String)
    (outcome : SpaceChildLinkOutcome) : AppState :=
  if state.basicOperation.requestId ≠ some requestId then state
  else
    { state with
      spaces := if outcome = .linked then
          modifyBy SpaceSummary.spaceId spaceId (fun space => space.withChild childRoomId) state.spaces
        else state.spaces
      spaceChildLinks := ⟨state.spaceChildLinks.entries.filter (fun entry =>
          entry.spaceId ≠ spaceId || entry.childRoomId ≠ childRoomId) ++
        [⟨requestId, spaceId, childRoomId, outcome⟩]⟩ }

/-! ## The profile -/

/-- The handlers that change a name or an avatar relabel the rooms and compute
nothing again. -/
def changeProfile (profile : ProfileState) : AppState :=
  { state with
    profile := profile
    rooms := refreshRoomSummaryDisplayProjection text state.rooms profile state.sessionUserId }

def preserveOwnAvatarThumbnail (previous incoming : OwnProfile) : OwnProfile :=
  { incoming with
    avatar := incoming.avatar.map (fun next =>
      match previous.avatar with
      | some previous =>
        if previous.mxcUri = next.mxcUri ∧ next.thumbnail = .notRequested then
          { next with thumbnail := previous.thumbnail }
        else next
      | none => next) }

def handleOwnProfileUpdated (own : OwnProfile) : AppState :=
  if !state.isSessionReady then state
  else changeProfile text state
    { state.profile with own := preserveOwnAvatarThumbnail state.profile.own own }

/-- One profile of a sync.  It does not take away a name or an avatar. -/
def mergeUserProfile (users : OrdMap String UserProfile) (profile : UserProfile) : OrdMap String UserProfile :=
  match users[profile.userId]? with
  | none => users.insert profile.userId profile
  | some existing =>
    users.insert profile.userId
      { existing with
        displayName :=
          if (trimmed text profile.displayName).isSome then profile.displayName
          else existing.displayName
        avatar := profile.avatar.or existing.avatar }

def handleUserProfilesUpdated (profiles : List UserProfile) : AppState :=
  if !state.isSessionReady then state
  else
    let known := collectKnownAvatarThumbnails state false
    let byId := collect (profiles.map (fun profile => (profile.userId, profile)))
    let profiles := byId.values.map (fun profile =>
      { profile with avatar := preserveAvatarThumbnail known profile.avatar })
    changeProfile text state
      { state.profile with users := profiles.foldl (mergeUserProfile text) state.profile.users }

def handleLocalUserAliasesLoaded (aliases : OrdMap String String) : AppState :=
  if !state.isSessionReady then state
  else changeProfile text state
    { state.profile with
      localAliases := aliases.filterMap (fun _ name => trimmed text (some name))
      localAliasUpdate := .idle }

def handleLocalUserAliasUpdateRequested (requestId : Nat) (userId : String)
    (name : Option String) : AppState :=
  if !state.isSessionReady || state.profile.localAliasUpdate ≠ .idle then state
  else
    let aliases :=
      match trimmed text name with
      | some name => state.profile.localAliases.insert userId name
      | none => state.profile.localAliases.erase userId
    changeProfile text state
      { state.profile with localAliases := aliases, localAliasUpdate := .saving requestId }

/-- A saved alias, or one that could not be saved.  The alias stays in both cases. -/
def handleLocalUserAliasUpdateSettled (requestId : Nat) : AppState :=
  if state.profile.localAliasUpdate.requestId = some requestId then
    { state with profile.localAliasUpdate := .idle }
  else state

def handleProfileUpdateRequested (requestId : Nat) (request : ProfileUpdateRequest) : AppState :=
  if !state.isSessionReady || state.profile.update ≠ .idle then state
  else { state with
    profile.update :=
      match request with
      | .setDisplayName displayName => .settingDisplayName requestId displayName
      | .setAvatar mimeType byteCount => .settingAvatar requestId mimeType byteCount }

def handleProfileUpdateSucceeded (requestId : Nat) (own : OwnProfile) : AppState :=
  if state.profile.update.requestId ≠ some requestId then state
  else changeProfile text state
    { state.profile with
      own := preserveOwnAvatarThumbnail state.profile.own own
      update := .idle }

def handleProfileUpdateFailed (requestId : Nat) : AppState :=
  if state.profile.update.requestId = some requestId then { state with profile.update := .idle }
  else state

def handleIgnoredUsersLoaded (userIds : OrdSet String) : AppState :=
  if !state.isSessionReady then state
  else recomputeIfInvitesShown text
    { state with profile.ignoredUserIds := userIds, profile.ignoredUserUpdate := .idle }

def setIgnored (ignoredUserIds : OrdSet String) (userId : String) (ignored : Bool) : OrdSet String :=
  if ignored then ignoredUserIds.insert userId else ignoredUserIds.erase userId

def handleIgnoredUserUpdateRequested (requestId : Nat) (userId : String) (ignored : Bool) : AppState :=
  if !state.isSessionReady || state.profile.ignoredUserUpdate ≠ .idle then state
  else recomputeIfInvitesShown text
    { state with
      profile.ignoredUserIds := setIgnored state.profile.ignoredUserIds userId ignored
      profile.ignoredUserUpdate := .saving requestId }

def handleIgnoredUserUpdateSucceeded (requestId : Nat) : AppState :=
  if state.profile.ignoredUserUpdate.requestId = some requestId then
    { state with profile.ignoredUserUpdate := .idle }
  else state

/-- The choice is taken back, and the list of invites is left as it is. -/
def handleIgnoredUserUpdateFailed (requestId : Nat) (userId : String) (ignored : Bool) : AppState :=
  if state.profile.ignoredUserUpdate.requestId = some requestId then
    { state with
      profile.ignoredUserIds := setIgnored state.profile.ignoredUserIds userId !ignored
      profile.ignoredUserUpdate := .idle }
  else state

def updateAvatarThumbnail (mxcUri : String) (thumbnail : AvatarThumbnailState) (avatar : AvatarImage) :
    AvatarImage :=
  if avatar.mxcUri = mxcUri then { avatar with thumbnail := thumbnail } else avatar

def handleAvatarThumbnailUpdated (mxcUri : String) (thumbnail : AvatarThumbnailState) : AppState :=
  if !state.isSessionReady then state
  else
    let update := updateAvatarThumbnail mxcUri thumbnail
    let updated : AppState := { state with
      profile.own.avatar := state.profile.own.avatar.map update
      profile.users := state.profile.users.map (fun _ user => { user with avatar := user.avatar.map update })
      observedAvatars := state.observedAvatars.map update
      rooms := state.rooms.map (fun room => { room with avatar := room.avatar.map update })
      spaces := state.spaces.map (fun space => { space with avatar := space.avatar.map update })
      invites := state.invites.map (fun invite => { invite with avatar := invite.avatar.map update }) }
    if updated.rooms = state.rooms ∧ updated.spaces = state.spaces ∧ updated.invites = state.invites then
      updated
    else recomputeRoomListProjection text updated

/-! ## Attention -/

def handleNativeWindowFocusChanged (focused : Bool) (observationGeneration : Nat) : AppState :=
  if observationGeneration ≤ state.nativeAttention.windowFocusObservationGeneration then state
  else
    let observed := { state with
      nativeAttention.windowFocusObservationGeneration := observationGeneration }
    if state.nativeAttention.windowFocused = focused then observed
    else recomputeNativeAttentionFromRooms { observed with nativeAttention.windowFocused := focused }

end Text

end Koushi.Rooms
