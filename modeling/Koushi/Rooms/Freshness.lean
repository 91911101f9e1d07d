import Koushi.Rooms.ProjectionLaws
import Koushi.Rooms.InstallLaws
import Koushi.Rooms.Reduce

namespace Koushi.Rooms

open Collections ListedAlike SpacesAlike RoomListUpdate AppState List

/-!
# The computed values are current

`Fresh` says that the stored items and the stored badge are what the state gives now.
Most handlers keep it: they compute a value again when they change what it reads, or
they change nothing that it reads.  Some do not, and `keepsFresh` is the condition
under which each of these still does.  `fresh_step` has one case for each action, and
the run theorem follows from it.
-/

section Text

variable {text : TextRules} {state next : AppState}

/-! ## What is kept -/

structure Fresh (text : TextRules) (state : AppState) : Prop where
  items : state.roomList.items = (projectedRoomList text state).items
  badge : state.nativeAttention.badgeCount = projectedBadgeCount state
  distinct : (keysBy RoomSummary.roomId state.rooms).Nodup

/-- Nothing that the badge reads has changed, and the badge has not. -/
structure BadgeFrame (next state : AppState) : Prop where
  rooms : next.rooms = state.rooms
  modes : next.roomNotificationSettings = state.roomNotificationSettings
  notifications : next.settings.notifications = state.settings.notifications
  attention : next.nativeAttention.badgeCapability = state.nativeAttention.badgeCapability
  count : next.nativeAttention.badgeCount = state.nativeAttention.badgeCount

/-- Nothing that either value reads has changed, and they have not. -/
structure Frame (next state : AppState) : Prop extends BadgeFrame next state where
  spaces : next.spaces = state.spaces
  invites : next.invites = state.invites
  ignored : next.profile.ignoredUserIds = state.profile.ignoredUserIds
  sort : next.settings.roomListSort = state.settings.roomListSort
  filter : next.roomList.activeFilter = state.roomList.activeFilter
  scope : next.navigation.activeSpaceId = state.navigation.activeSpaceId
  items : next.roomList.items = state.roomList.items

theorem modesAlike_of_eq {left right : NotificationSettingsMap} (same : left = right) :
    ModesAlike left right := by
  intro roomId
  rw [same]

theorem roomsAlike_of_eq {related : RoomSummary -> RoomSummary -> Prop} (refl : ∀ room, related room room)
    {left right : List RoomSummary} (same : left = right) : RoomsAlike related left right := by
  rw [same]
  exact roomsAlike_refl refl

theorem spacesAlike_of_eq {left right : List SpaceSummary} (same : left = right) :
    SpacesAlike left right := by
  rw [same]
  exact refl right

theorem BadgeFrame.inputs (frame : BadgeFrame next state) : BadgeInputsAlike next state :=
  ⟨roomsAlike_of_eq CountedAlike.refl frame.rooms, modesAlike_of_eq frame.modes, frame.notifications,
    frame.attention⟩

theorem Frame.itemInputs (frame : Frame next state) : ItemInputsAlike next state where
  filter := frame.filter
  sort := frame.sort
  scope := frame.scope
  spaces := spacesAlike_of_eq frame.spaces
  rooms := roomsAlike_of_eq refl frame.rooms
  modes := modesAlike_of_eq frame.modes
  invites := by
    intro _
    rw [frame.invites, frame.ignored]

theorem keysBy_of_alike {rooms rooms' : List RoomSummary} (alike : RoomsAlike CountedAlike rooms rooms') :
    keysBy RoomSummary.roomId rooms = keysBy RoomSummary.roomId rooms' := by
  rw [keysBy, keysBy, ← forall₂_eq_eq_eq, forall₂_map_left_iff, forall₂_map_right_iff]
  exact alike.imp fun _ _ related => related.roomId

theorem counted_of_listed {rooms rooms' : List RoomSummary} (alike : RoomsAlike ListedAlike rooms rooms') :
    RoomsAlike CountedAlike rooms rooms' :=
  alike.imp (fun _ _ related => related.toCountedAlike)

/-! ## The ways to keep it -/

section

variable (fresh : Fresh text state)
include fresh

/-- Neither value is computed again, and what they read is alike. -/
theorem Fresh.kept (inputs : ItemInputsAlike next state)
    (notifications : next.settings.notifications = state.settings.notifications)
    (capability : next.nativeAttention.badgeCapability = state.nativeAttention.badgeCapability)
    (items : next.roomList.items = state.roomList.items)
    (count : next.nativeAttention.badgeCount = state.nativeAttention.badgeCount) : Fresh text next where
  items := by rw [items, fresh.items, projectedItems_congr inputs]
  badge := by
    have badge : BadgeInputsAlike next state :=
      ⟨counted_of_listed inputs.rooms, inputs.modes, notifications, capability⟩
    rw [count, fresh.badge, projectedBadgeCount_congr badge]
  distinct := by
    rw [keysBy_of_alike (counted_of_listed inputs.rooms)]
    exact fresh.distinct

theorem Fresh.frame (frame : Frame next state) : Fresh text next :=
  fresh.kept frame.itemInputs frame.notifications frame.attention frame.items frame.count

/-- The items are computed again, and what the badge reads is alike. -/
theorem Fresh.relisted (inputs : BadgeInputsAlike next state)
    (count : next.nativeAttention.badgeCount = state.nativeAttention.badgeCount) :
    Fresh text (recomputeRoomListProjection text next) where
  items := rfl
  badge := by
    change next.nativeAttention.badgeCount = projectedBadgeCount next
    rw [count, fresh.badge, projectedBadgeCount_congr inputs]
  distinct := by
    change (keysBy RoomSummary.roomId next.rooms).Nodup
    rw [keysBy_of_alike inputs.rooms]
    exact fresh.distinct

theorem Fresh.relistedFrame (frame : BadgeFrame next state) :
    Fresh text (recomputeRoomListProjection text next) :=
  fresh.relisted frame.inputs frame.count

/-- The badge is computed again, and what the items read is alike. -/
theorem Fresh.recounted (inputs : ItemInputsAlike next state)
    (items : next.roomList.items = state.roomList.items) :
    Fresh text (recomputeNativeAttentionFromRooms next) where
  items := by
    change next.roomList.items = (projectedRoomList text next).items
    rw [items, fresh.items, projectedItems_congr inputs]
  badge := rfl
  distinct := by
    change (keysBy RoomSummary.roomId next.rooms).Nodup
    rw [keysBy_of_alike (counted_of_listed inputs.rooms)]
    exact fresh.distinct

end

/-- Both values are computed again. -/
theorem fresh_recomputed (distinct : (keysBy RoomSummary.roomId next.rooms).Nodup) :
    Fresh text (recomputeNativeAttentionFromRooms (recomputeRoomListProjection text next)) :=
  ⟨rfl, rfl, distinct⟩

theorem fresh_recomputed_first (distinct : (keysBy RoomSummary.roomId next.rooms).Nodup) :
    Fresh text (recomputeRoomListProjection text (recomputeNativeAttentionFromRooms next)) :=
  ⟨rfl, rfl, distinct⟩

theorem fresh_empty (settings : SettingsValues) (session : SessionState) (children : SpaceChildrenState)
    (attention : NativeAttentionState) (count : attention.badgeCount = 0) :
    Fresh text { empty settings session with
      spaceChildren := children, nativeAttention := attention } where
  items := rfl
  badge := by
    rw [count, projectedBadgeCount]
    split
    · rfl
    · split <;> rfl
  distinct := nodup_nil

/-! ## Lists -/

variable {rooms : List RoomSummary} {spaces : List SpaceSummary} {profile : ProfileState} {roomId : String}
  {requestId : Nat}

theorem nodup_installedRooms {authoritative : Bool} (distinct : (keysBy RoomSummary.roomId rooms).Nodup) :
    (keysBy RoomSummary.roomId (installedRooms text state rooms authoritative)).Nodup := by
  have sameIds : keysBy RoomSummary.roomId (installedRooms text state rooms authoritative) =
      keysBy RoomSummary.roomId (keptRooms state rooms) := by
    rw [installedRooms_eq_map, keysBy, map_map]
    exact map_congr_left (fun room _ => roomId_installRoom _ room)
  rw [sameIds]
  exact distinct.sublist (filter_sublist.map _)

theorem nodup_mergeRoom {merged : List RoomSummary} (room : RoomSummary)
    (distinct : (keysBy RoomSummary.roomId merged).Nodup) :
    (keysBy RoomSummary.roomId (mergeRoom spaces merged room)).Nodup := by
  unfold mergeRoom
  split
  · exact distinct.sublist (filter_sublist.map _)
  · exact nodup_keysBy_upsertBy distinct

/-- A merge into distinct rooms leaves distinct rooms, whatever the snapshot has. -/
theorem nodup_mergedRooms (distinct : (keysBy RoomSummary.roomId state.rooms).Nodup) :
    (keysBy RoomSummary.roomId (mergedRooms state spaces rooms)).Nodup :=
  foldlRecOn (motive := fun merged => (keysBy RoomSummary.roomId merged).Nodup) rooms (mergeRoom spaces)
    (distinct.sublist (filter_sublist.map _)) (fun _ start room _ => nodup_mergeRoom room start)

theorem fresh_handleRoomListUpdatedWithCrawler (ready : state.isSessionReady = true) (authoritative : Bool)
    (distinct : (keysBy RoomSummary.roomId rooms).Nodup) :
    Fresh text (handleRoomListUpdatedWithCrawler text state spaces rooms authoritative) := by
  obtain ⟨resolved, equation, installed⟩ :=
    handleRoomListUpdatedWithCrawler_of_ready text ready spaces rooms authoritative
  rw [equation]
  apply fresh_recomputed_first
  rw [installed.rooms_eq]
  exact nodup_installedRooms distinct

/-- A list that replaces the rooms has every room once. -/
def RoomListUpdate.listsDistinctRooms : RoomListUpdate -> Prop
  | .updated _ rooms => (keysBy RoomSummary.roomId rooms).Nodup
  | .provisional _ => True
  | .authoritative snapshot => (keysBy RoomSummary.roomId snapshot.rooms).Nodup

variable (fresh : Fresh text state)

include fresh in
theorem Fresh.install {update : RoomListUpdate}
    (distinct : update.listsDistinctRooms) : Fresh text (update.install text state) := by
  cases ignored : update.isIgnored state with
  | true =>
    rw [install_of_ignored ignored]
    exact fresh
  | false =>
    rw [install_of_accepted ignored]
    apply fresh_handleRoomListUpdatedWithCrawler
    · rw [isSessionReady_base]
      exact ready_of_accepted ignored
    · cases update with
      | updated | authoritative => exact distinct
      | provisional snapshot => exact nodup_mergedRooms fresh.distinct

include fresh in
theorem Fresh.handleRoomLeftLocally (roomId : String) :
    Fresh text (handleRoomLeftLocally text state roomId) := by
  unfold Rooms.handleRoomLeftLocally
  dsimp only
  split
  · exact fresh
  next accepted =>
  rw [Bool.or_eq_true, not_or, Bool.not_eq_true', Bool.not_eq_false] at accepted
  have distinct : (keysBy RoomSummary.roomId
      (state.rooms.filter (fun room => room.roomId ≠ roomId))).Nodup :=
    fresh.distinct.sublist (filter_sublist.map _)
  refine Fresh.frame (fresh_handleRoomListUpdatedWithCrawler ?_ false distinct)
    ⟨⟨rfl, rfl, rfl, rfl, rfl⟩, rfl, rfl, rfl, rfl, rfl, rfl, rfl⟩
  exact accepted.1

include fresh in
/-- What the invites show is computed again exactly where it is shown. -/
theorem Fresh.recomputeIfInvitesShown (badge : BadgeFrame next state) (spaces : next.spaces = state.spaces)
    (sort : next.settings.roomListSort = state.settings.roomListSort)
    (filter : next.roomList.activeFilter = state.roomList.activeFilter)
    (scope : next.navigation.activeSpaceId = state.navigation.activeSpaceId)
    (items : next.roomList.items = state.roomList.items) :
    Fresh text (recomputeIfInvitesShown text next) := by
  unfold Rooms.recomputeIfInvitesShown
  split
  · exact fresh.relistedFrame badge
  next hidden =>
  refine fresh.kept ?_ badge.notifications badge.attention items badge.count
  exact ⟨filter, sort, scope, spacesAlike_of_eq spaces, roomsAlike_of_eq refl badge.rooms,
    modesAlike_of_eq badge.modes, fun shown => absurd shown hidden⟩

theorem counted_mergeInto (remembered : RoomActivityState) (room : RoomSummary) :
    CountedAlike (RoomActivityState.mergeInto remembered room) room := by
  unfold RoomActivityState.mergeInto
  split <;> exact ⟨rfl, rfl, rfl, rfl⟩

include fresh in
theorem Fresh.handleRoomActivityLoaded (activity : RoomActivityState) :
    Fresh text (handleRoomActivityLoaded text state activity) := by
  unfold Rooms.handleRoomActivityLoaded
  dsimp only
  split
  · refine fresh.relisted ⟨?_, fun _ => rfl, rfl, rfl⟩ rfl
    exact roomsAlike_map (fun room _ => counted_mergeInto activity room)
  · exact { fresh with }

/-! ## One room -/

include fresh in
/-- The rooms are listed alike, and nothing else that is read has changed. -/
theorem Fresh.keptRooms (alike : RoomsAlike ListedAlike rooms state.rooms)
    (ignored : profile.ignoredUserIds = state.profile.ignoredUserIds) :
    Fresh text { state with rooms := rooms, profile := profile } := by
  refine fresh.kept ⟨rfl, rfl, rfl, refl _, alike, fun _ => rfl, fun _ => ?_⟩ rfl rfl rfl rfl
  rw [ignored]

/-- The change of tags moves the room neither into nor out of the two places that tags
decide. -/
def tagsKeepPlace (state : AppState) (roomId : String) (change : RoomTags -> RoomTags) : Prop :=
  ∀ room, findRoom state roomId = some room ->
    (change room.tags).favourite.isSome = room.tags.favourite.isSome ∧
      (change room.tags).lowPriority.isSome = room.tags.lowPriority.isSome

include fresh in
theorem Fresh.changeRoomTags {change : RoomTags -> RoomTags}
    (kept : tagsKeepPlace state roomId change) : Fresh text (changeRoomTags state roomId change) := by
  unfold Rooms.changeRoomTags
  split
  · exact fresh
  split
  · exact fresh
  split
  · exact fresh
  refine fresh.keptRooms (roomsAlike_modifyBy refl ?_) rfl
  intro room found
  obtain ⟨favourite, lowPriority⟩ := kept room found
  exact ⟨⟨rfl, lowPriority, rfl, rfl⟩, rfl, favourite, rfl, rfl, rfl, rfl, rfl, rfl⟩

theorem nodup_modifyBy {change : RoomSummary -> RoomSummary}
    (sameId : ∀ room, (change room).roomId = room.roomId) (distinct : (keysBy RoomSummary.roomId rooms).Nodup) :
    (keysBy RoomSummary.roomId (modifyBy RoomSummary.roomId roomId change rooms)).Nodup := by
  rw [keysBy, map_modifyBy (fun room _ => sameId room)]
  exact distinct

section

variable (fresh : Fresh text state)
include fresh

theorem Fresh.handleRoomMarkedAsReadSucceeded (roomId : String) :
    Fresh text (handleRoomMarkedAsReadSucceeded text state roomId) := by
  unfold Rooms.handleRoomMarkedAsReadSucceeded
  split
  · exact fresh
  split
  · exact fresh
  apply fresh_recomputed
  exact nodup_modifyBy (fun _ => rfl) fresh.distinct

theorem Fresh.handleRoomMarkedAsUnreadSucceeded (roomId : String)
    (unread : Bool) : Fresh text (handleRoomMarkedAsUnreadSucceeded text state roomId unread) := by
  unfold Rooms.handleRoomMarkedAsUnreadSucceeded
  split
  · exact fresh
  refine fresh.relisted ⟨?_, fun _ => rfl, rfl, rfl⟩ rfl
  exact roomsAlike_modifyBy CountedAlike.refl (fun _ _ => ⟨rfl, rfl, rfl, rfl⟩)

theorem Fresh.handleThreadUnreadObserved (roomId rootEventId : String) (unread highlight : Nat) :
    Fresh text (handleThreadUnreadObserved text state roomId rootEventId unread highlight) := by
  unfold Rooms.handleThreadUnreadObserved
  dsimp only
  split
  · exact fresh
  generalize (if ThreadRootAttention.isEmpty ⟨unread, highlight⟩ = true then
      NestedMap.removeAt state.threadUnread roomId rootEventId
    else NestedMap.insertAt state.threadUnread roomId rootEventId ⟨unread, highlight⟩) = threadUnread
  split
  · next sameTotals =>
    -- The totals of the room are the same, so the rewritten room is listed alike.
    refine fresh.kept ⟨rfl, rfl, rfl, refl _, ?_, fun _ => rfl, fun _ => rfl⟩ rfl rfl rfl rfl
    refine roomsAlike_modifyBy refl (fun room found => ?_)
    have changed : (modifyBy RoomSummary.roomId roomId (applyRoomThreadBadgeTotals threadUnread)
      state.rooms).find? (fun room => room.roomId = roomId) = _ := find?_modifyBy (fun _ => rfl)
    rw [findRoom, findRoom, changed, if_pos rfl, found] at sameTotals
    have totals := Option.some.inj sameTotals
    exact ⟨⟨rfl, rfl, rfl, congrArg Prod.fst totals⟩, rfl, rfl, rfl, rfl, rfl, rfl, rfl, rfl⟩
  · apply fresh_recomputed
    exact nodup_modifyBy (fun _ => rfl) fresh.distinct

/-! ## Notification modes -/

theorem Fresh.keptModes {settings : NotificationSettingsMap}
    {awaitingEcho : OrdMap String (Nat × RoomNotificationMode)}
    (alike : ModesAlike settings state.roomNotificationSettings) : Fresh text { state with
      roomNotificationSettings := settings, roomNotificationAwaitingEcho := awaitingEcho } :=
  fresh.kept ⟨rfl, rfl, rfl, refl _, roomsAlike_refl refl, alike, fun _ => rfl⟩
    rfl rfl rfl rfl

theorem Fresh.handleRoomPreferencesLoaded (modes : OrdMap String RoomNotificationMode) :
    Fresh text (handleRoomPreferencesLoaded text state modes) := by
  unfold Rooms.handleRoomPreferencesLoaded
  dsimp only
  split
  · next same =>
    exact fresh.recounted ⟨rfl, rfl, rfl, refl _, roomsAlike_refl refl,
      modesAlike_of_eq same, fun _ => rfl⟩ rfl
  · exact fresh_recomputed fresh.distinct

end

/-- A settled operation keeps the mode. -/
theorem modesAlike_settleNotificationOperation {settings settled : NotificationSettingsMap}
    {operation : RoomNotificationModeOperation}
    (found : settleNotificationOperation settings requestId roomId operation = some settled) :
    ModesAlike settled settings := by
  unfold settleNotificationOperation at found
  split at found
  · next entry stored =>
    split at found
    · rw [← Option.some.inj found]
      apply modesAlike_insert
      rw [roomIsMuted, stored]
      rfl
    · cases found
  · cases found

theorem ModesAlike.trans {first second third : NotificationSettingsMap} (left : ModesAlike first second)
    (right : ModesAlike second third) : ModesAlike first third :=
  fun roomId => (left roomId).trans (right roomId)

/-- One observed mode either changes none, or is marked as a change. -/
theorem observeNotificationMode_unchanged {seen : ModeObservation} {entry : String × RoomNotificationMode}
    (unchanged : (observeNotificationMode seen entry).changed = false) :
    seen.changed = false ∧ ModesAlike (observeNotificationMode seen entry).settings seen.settings := by
  have stored : ModesAlike
      (seen.settings.insert entry.1 (seen.settings[entry.1]?.getD default)) seen.settings := by
    apply modesAlike_insert
    rw [roomIsMuted]
    cases seen.settings[entry.1]? <;> rfl
  unfold observeNotificationMode at unchanged ⊢
  dsimp only at unchanged ⊢
  split at unchanged
  · next waiting =>
    rw [if_pos waiting]
    exact ⟨unchanged, fun _ => rfl⟩
  · next answered =>
    rw [if_neg answered]
    cases operation : (seen.settings[entry.1]?.getD default).operation with
    | pending requestId =>
      simp only [operation] at unchanged ⊢
      exact ⟨unchanged, stored⟩
    | idle | failed =>
      simp only [operation] at unchanged ⊢
      split at unchanged
      · next same =>
        rw [if_pos same]
        exact ⟨unchanged, stored⟩
      · cases unchanged

theorem foldl_observeNotificationMode_unchanged {entries : List (String × RoomNotificationMode)}
    {seen : ModeObservation} (unchanged : (entries.foldl observeNotificationMode seen).changed = false) :
    seen.changed = false ∧
      ModesAlike (entries.foldl observeNotificationMode seen).settings seen.settings := by
  induction entries generalizing seen with
  | nil => exact ⟨unchanged, fun _ => rfl⟩
  | cons entry rest ih =>
    obtain ⟨afterEntry, later⟩ := ih unchanged
    obtain ⟨before, now⟩ := observeNotificationMode_unchanged afterEntry
    exact ⟨before, later.trans now⟩

include fresh in
theorem Fresh.handleRoomNotificationModesObserved (generation : Nat) (source : RoomListSource)
    (modes : OrdMap String RoomNotificationMode) :
    Fresh text (handleRoomNotificationModesObserved text state generation source modes) := by
  unfold Rooms.handleRoomNotificationModesObserved
  dsimp only
  split
  · exact fresh
  split
  · exact fresh_recomputed fresh.distinct
  next unchanged =>
  exact fresh.keptModes
    (foldl_observeNotificationMode_unchanged (Bool.eq_false_iff.mpr unchanged)).2

include fresh in
theorem Fresh.awaitingEcho (awaitingEcho : OrdMap String (Nat × RoomNotificationMode)) :
    Fresh text { state with roomNotificationAwaitingEcho := awaitingEcho } :=
  { fresh with }

include fresh in
theorem Fresh.handleRoomNotificationModeConfirmed (requestId : Nat) (roomId : String)
    (mode : RoomNotificationMode) :
    Fresh text (handleRoomNotificationModeConfirmed text state requestId roomId mode) := by
  unfold Rooms.handleRoomNotificationModeConfirmed
  split
  · exact fresh
  · exact ((fresh.awaitingEcho _).handleRoomNotificationModesObserved _ _ _).awaitingEcho _

/-! ## Settings -/

theorem fresh_settings (distinct : (keysBy RoomSummary.roomId state.rooms).Nodup) :
    Fresh text (applyBadgeSetting (recomputeRoomListProjection text state)) :=
  ⟨rfl, rfl, distinct⟩

section

variable (fresh : Fresh text state)
include fresh

theorem Fresh.handleSettingsUpdateRequested (patch : SettingsPatch) :
    Fresh text (handleSettingsUpdateRequested text state patch) := by
  unfold Rooms.handleSettingsUpdateRequested
  dsimp only
  split
  · exact ⟨rfl, rfl, fresh.distinct⟩
  next same =>
  have sort : (state.settings.applyPatch patch).roomListSort = state.settings.roomListSort :=
    not_not.mp (fun changed => same (Or.inl changed))
  exact fresh.recounted ⟨rfl, sort, rfl, refl _, roomsAlike_refl refl,
    fun _ => rfl, fun _ => rfl⟩ rfl

/-! ## Selection -/

theorem Fresh.enterScope (frame : BadgeFrame next state) : Fresh text (enterScope text next) :=
  fresh.relistedFrame ⟨frame.rooms, frame.modes, frame.notifications, frame.attention, frame.count⟩

theorem Fresh.revealed (reveal : Option SidebarSectionReveal) :
    Fresh text { state with navigation.revealedSidebarSection := reveal } :=
  { fresh with }

theorem Fresh.handleSelectSpace (spaceId : Option String) :
    Fresh text (handleSelectSpace text state spaceId) := by
  unfold Rooms.handleSelectSpace
  dsimp only
  split
  · exact fresh
  split
  all_goals
    apply Fresh.revealed
    exact fresh.enterScope ⟨rfl, rfl, rfl, rfl, rfl⟩

theorem Fresh.handleSelectRoom (roomId : String) : Fresh text (handleSelectRoom text state roomId) := by
  unfold Rooms.handleSelectRoom
  split
  · exact fresh
  apply Fresh.revealed
  split
  · next sameScope =>
    exact fresh.frame ⟨⟨rfl, rfl, rfl, rfl, rfl⟩, rfl, rfl, rfl, rfl, rfl, sameScope, rfl⟩
  · exact fresh.enterScope ⟨rfl, rfl, rfl, rfl, rfl⟩

theorem Fresh.handleNavigationLoaded (navigation : NavigationState) :
    Fresh text (handleNavigationLoaded text state navigation) := by
  unfold Rooms.handleNavigationLoaded
  dsimp only
  split
  · exact fresh
  split
  · exact fresh.relistedFrame ⟨rfl, rfl, rfl, rfl, rfl⟩
  · exact fresh.enterScope ⟨rfl, rfl, rfl, rfl, rfl⟩

theorem Fresh.setSpaceOrder (spaceOrder : List String) : Fresh text (setSpaceOrder state spaceOrder) :=
  fresh.kept ⟨rfl, rfl, rfl, spacesAlike_applySpaceOrderPreference state.spaces spaceOrder,
    roomsAlike_refl refl, fun _ => rfl, fun _ => rfl⟩ rfl rfl rfl rfl

/-- A join that succeeds at Home stays at Home. -/
theorem Fresh.handleDirectoryJoinSucceeded (roomId : String)
    (atHome : isJoining state.core requestId = true -> state.navigation.activeSpaceId = none) :
    Fresh text (handleDirectoryJoinSucceeded state requestId roomId) := by
  unfold Rooms.handleDirectoryJoinSucceeded
  split
  · exact fresh
  next joining =>
  have isJoin : isJoining state.core requestId = true := by simpa using joining
  have scope : (Koushi.handleDirectoryJoinSucceeded state.core requestId roomId).1.navigation.activeSpaceId
      = state.navigation.activeSpaceId := by
    rw [Koushi.handleDirectoryJoinSucceeded, isJoin, atHome isJoin]
    rfl
  exact fresh.frame ⟨⟨rfl, rfl, rfl, rfl, rfl⟩, rfl, rfl, rfl, rfl, rfl, scope, rfl⟩

end

/-- The settled link names a child that the space has already. -/
def linkAddsNoChild (state : AppState) (requestId : Nat) (spaceId childRoomId : String)
    (outcome : SpaceChildLinkOutcome) : Prop :=
  state.basicOperation.requestId = some requestId -> outcome = .linked ->
    ∀ space, state.spaces.find? (fun space => space.spaceId = spaceId) = some space ->
      childRoomId ∈ space.childRoomIds

theorem childRoomIds_withChild_of_mem {space : SpaceSummary} {childRoomId : String}
    (present : childRoomId ∈ space.childRoomIds) :
    (space.withChild childRoomId).childRoomIds = space.childRoomIds := by
  simp only [SpaceSummary.withChild]
  rw [if_pos (contains_iff_mem.mpr present)]

theorem spacesAlike_withChild {spaceId childRoomId : String}
    (present : ∀ space, spaces.find? (fun space => space.spaceId = spaceId) = some space ->
    childRoomId ∈ space.childRoomIds) :
    SpacesAlike (modifyBy SpaceSummary.spaceId spaceId (fun space => space.withChild childRoomId) spaces)
      spaces := by
  constructor
  · intro id
    have changed : (modifyBy SpaceSummary.spaceId spaceId (fun space => space.withChild childRoomId)
      spaces).find? (fun space => space.spaceId = id) = _ := find?_modifyBy (fun _ => rfl)
    rw [changed]
    split
    · next same =>
      rw [same]
      cases found : spaces.find? (fun space => space.spaceId = spaceId) with
      | none => rfl
      | some space =>
        rw [Option.map_some, Option.map_some, Option.map_some,
          childRoomIds_withChild_of_mem (present space found)]
    · rfl
  · intro roomId
    induction spaces with
    | nil => rfl
    | cons space rest ih =>
      unfold modifyBy
      by_cases here : space.spaceId = spaceId
      · have found := present space (by simp [here])
        rw [if_pos here, any_cons, any_cons, childRoomIds_withChild_of_mem found]
      · rw [if_neg here, any_cons, any_cons, ih]
        intro other found
        apply present
        rw [find?_cons, decide_eq_false here]
        exact found

include fresh in
theorem Fresh.handleSpaceChildLinkSettled {spaceId childRoomId : String} {outcome : SpaceChildLinkOutcome}
    (kept : linkAddsNoChild state requestId spaceId childRoomId outcome) :
    Fresh text (handleSpaceChildLinkSettled state requestId spaceId childRoomId outcome) := by
  unfold Rooms.handleSpaceChildLinkSettled
  split
  · exact fresh
  next current =>
  refine fresh.kept ⟨rfl, rfl, rfl, ?_, roomsAlike_refl refl, fun _ => rfl, fun _ => rfl⟩
    rfl rfl rfl rfl
  split
  · next linked => exact spacesAlike_withChild (kept (not_not.mp current) linked)
  · exact refl _

/-! ## The profile -/

/-- The labels that a profile gives the rooms are the ones they have. -/
def labelsKept (text : TextRules) (state : AppState) (profile : ProfileState) : Prop :=
  ∀ room ∈ state.rooms,
    (refreshRoomDisplayProjection text profile state.sessionUserId room).displayLabel = room.displayLabel

theorem listed_refreshRoomDisplayProjection {ownUserId : Option String} {room : RoomSummary}
    (sameLabel : (refreshRoomDisplayProjection text profile ownUserId room).displayLabel = room.displayLabel) :
    ListedAlike (refreshRoomDisplayProjection text profile ownUserId room) room := by
  cases partner : dmPartner room with
  | none | some =>
    simp only [refreshRoomDisplayProjection, partner] at sameLabel ⊢
    exact ⟨⟨rfl, rfl, rfl, rfl⟩, rfl, rfl, rfl, rfl, rfl, sameLabel, rfl, rfl⟩

include fresh in
theorem Fresh.changeProfile (kept : labelsKept text state profile)
    (ignored : profile.ignoredUserIds = state.profile.ignoredUserIds) :
    Fresh text (changeProfile text state profile) :=
  fresh.keptRooms (roomsAlike_map (fun room listed => listed_refreshRoomDisplayProjection (kept room listed)))
    ignored

include fresh in
theorem Fresh.handleAvatarThumbnailUpdated (mxcUri : String) (thumbnail : AvatarThumbnailState) :
    Fresh text (handleAvatarThumbnailUpdated text state mxcUri thumbnail) := by
  unfold Rooms.handleAvatarThumbnailUpdated
  dsimp only
  have rooms : RoomsAlike ListedAlike (state.rooms.map (fun room =>
      { room with avatar := room.avatar.map (updateAvatarThumbnail mxcUri thumbnail) })) state.rooms :=
    roomsAlike_map (fun room _ => ⟨⟨rfl, rfl, rfl, rfl⟩, rfl, rfl, rfl, rfl, rfl, rfl, rfl, rfl⟩)
  split
  · exact fresh
  split
  · next unchanged =>
    refine fresh.kept ⟨rfl, rfl, rfl, spacesAlike_of_eq unchanged.2.1, rooms, fun _ => rfl, fun _ => ?_⟩
      rfl rfl rfl rfl
    dsimp only
    rw [unchanged.2.2]
  · exact fresh.relisted ⟨counted_of_listed rooms, fun _ => rfl, rfl, rfl⟩ rfl

end Text

/-! ## Every step -/

section Steps

variable (text : TextRules)

/-- When an action leaves the computed values current.  Most do always.  The others
change something that one of the values reads and compute nothing again; they have to
leave it as it is. -/
def keepsFresh (state : AppState) (action : AppAction) : Prop :=
  match action with
  | .roomListInstalled update => update.listsDistinctRooms
  | .roomTagsUpdated roomId tags => tagsKeepPlace state roomId (fun _ => tags)
  | .roomTagSet roomId tag info => tagsKeepPlace state roomId (fun tags => tags.set tag info)
  | .roomTagRemoved roomId tag => tagsKeepPlace state roomId (fun tags => tags.remove tag)
  | .directoryJoinSucceeded requestId _ =>
    isJoining state.core requestId = true -> state.navigation.activeSpaceId = none
  | .spaceChildLinkSettled requestId spaceId childRoomId outcome =>
    linkAddsNoChild state requestId spaceId childRoomId outcome
  | .ownProfileUpdated _ | .userProfilesUpdated _ | .localUserAliasesLoaded _
  | .localUserAliasUpdateRequested _ _ _ | .profileUpdateSucceeded _ _ =>
    labelsKept text state (step text state action).profile
  | .ignoredUserUpdateFailed requestId _ _ =>
    state.profile.ignoredUserUpdate.requestId = some requestId -> state.roomList.activeFilter ≠ .invites
  | _ => True

variable {text}

theorem fresh_step {state : AppState} {action : AppAction} (kept : keepsFresh text state action)
    (fresh : Fresh text state) : Fresh text (step text state action) := by
  cases action with
  | sessionViewsCleared => exact fresh_empty state.settings _ state.spaceChildren _ rfl
  | appStateReset => exact fresh_empty state.settings .signedOut _ _ rfl
  | roomListInstalled => exact fresh.install kept
  | roomLeftLocally => exact fresh.handleRoomLeftLocally _
  | roomListBootstrapStarted | roomListBootstrapFailed | roomListFilterSelected =>
    simp only [step, handleRoomListBootstrapStarted, handleRoomListBootstrapFailed,
      handleRoomListFilterSelected]
    split <;> first | exact fresh | exact fresh.relistedFrame ⟨rfl, rfl, rfl, rfl, rfl⟩
  | roomActivityLoaded => exact fresh.handleRoomActivityLoaded _
  | roomTagsUpdated | roomTagSet | roomTagRemoved =>
    simp only [keepsFresh, step, handleRoomTagsUpdated, handleRoomTagSet, handleRoomTagRemoved] at kept ⊢
    exact fresh.changeRoomTags kept
  | roomMarkedAsReadSucceeded => exact fresh.handleRoomMarkedAsReadSucceeded _
  | roomMarkedAsUnreadSucceeded => exact fresh.handleRoomMarkedAsUnreadSucceeded ..
  | threadUnreadObserved => exact fresh.handleThreadUnreadObserved ..
  | roomPreferencesLoaded => exact fresh.handleRoomPreferencesLoaded _
  | roomNotificationModeSet requestId roomId mode =>
    simp only [step, handleRoomNotificationModeSet]
    split
    · exact fresh
    · exact fresh_recomputed fresh.distinct
  | roomNotificationModeCompleted | roomNotificationModeFailed =>
    simp only [step, handleRoomNotificationModeCompleted, handleRoomNotificationModeFailed]
    split
    · exact fresh
    split
    · exact fresh
    · next settings settled => exact fresh.keptModes (modesAlike_settleNotificationOperation settled)
  | roomNotificationModesObserved => exact fresh.handleRoomNotificationModesObserved ..
  | roomNotificationModeConfirmed => exact fresh.handleRoomNotificationModeConfirmed ..
  | settingsLoaded => exact fresh_settings fresh.distinct
  | accountSettingsLoaded values otherChanged =>
    simp only [step, handleAccountSettingsLoaded]
    split
    · exact fresh
    · exact fresh_settings fresh.distinct
  | appSettingsSynchronized changed =>
    simp only [step, handleAppSettingsSynchronized]
    split
    · exact ⟨fresh.items, rfl, fresh.distinct⟩
    · exact fresh
  | settingsUpdateRequested => exact fresh.handleSettingsUpdateRequested _
  | selectSpace => exact fresh.handleSelectSpace _
  | selectRoom => exact fresh.handleSelectRoom _
  | navigationLoaded => exact fresh.handleNavigationLoaded _
  | reorderSpaces | spaceOrderPreferenceRemoved =>
    simp only [step, handleReorderSpaces, handleSpaceOrderPreferenceRemoved]
    split
    · exact fresh
    split
    · exact fresh
    · exact fresh.setSpaceOrder _
  | directoryJoinSucceeded => exact fresh.handleDirectoryJoinSucceeded _ kept
  | spaceChildLinkSettled => exact fresh.handleSpaceChildLinkSettled kept
  | ownProfileUpdated | userProfilesUpdated | localUserAliasesLoaded | localUserAliasUpdateRequested
  | profileUpdateSucceeded =>
    simp only [keepsFresh, step, handleOwnProfileUpdated, handleUserProfilesUpdated,
      handleLocalUserAliasesLoaded, handleLocalUserAliasUpdateRequested, handleProfileUpdateSucceeded]
      at kept ⊢
    split at kept
    · next closed => rw [if_pos closed]; exact fresh
    · next open_ => rw [if_neg open_]; exact fresh.changeProfile kept rfl
  | inviteListUpdated | ignoredUsersLoaded | ignoredUserUpdateRequested =>
    simp only [step, handleInviteListUpdated, handleIgnoredUsersLoaded, handleIgnoredUserUpdateRequested]
    split
    · exact fresh
    · exact fresh.recomputeIfInvitesShown ⟨rfl, rfl, rfl, rfl, rfl⟩ rfl rfl rfl rfl rfl
  | ignoredUserUpdateFailed requestId userId ignored =>
    simp only [step, handleIgnoredUserUpdateFailed]
    split
    · next current =>
      exact fresh.kept ⟨rfl, rfl, rfl, refl _, roomsAlike_refl refl,
        fun _ => rfl, fun shown => absurd shown (kept current)⟩ rfl rfl rfl rfl
    · exact fresh
  | avatarThumbnailUpdated => exact fresh.handleAvatarThumbnailUpdated ..
  | nativeWindowFocusChanged focused observationGeneration =>
    simp only [step, handleNativeWindowFocusChanged]
    split
    · exact fresh
    split
    · exact { fresh with }
    · exact ⟨fresh.items, rfl, fresh.distinct⟩
  | sessionStepped | roomJoinedLocally | directoryJoinRequested | directoryJoinFailed | othersChanged =>
    exact { fresh with }
  | roomNotificationPolicySynced | localUserAliasUpdateSettled | profileUpdateRequested | profileUpdateFailed
  | ignoredUserUpdateSucceeded =>
    simp only [step, handleRoomNotificationPolicySynced, handleLocalUserAliasUpdateSettled,
      handleProfileUpdateRequested, handleProfileUpdateFailed, handleIgnoredUserUpdateSucceeded]
    split <;> exact { fresh with }

/-- In every run whose steps meet the condition, the stored items and the stored badge
are what the state reached gives. -/
theorem computed_values_current {settings : SettingsValues} {actions : List AppAction}
    (kept : Machine.EveryStep (step text) (keepsFresh text) (AppState.empty settings .signedOut) actions) :
    let state := Machine.run (step text) (AppState.empty settings .signedOut) actions
    state.roomList.items = (projectedRoomList text state).items ∧
      (state.settings.notifications.badges = true ->
        state.nativeAttention.badgeCapability ≠ .unavailable ->
        state.nativeAttention.badgeCount = (accountAttentionSummaryForState state).unreadCount) := by
  intro state
  have start : Fresh text (empty settings .signedOut) := fresh_empty settings .signedOut _ _ rfl
  have fresh : Fresh text state :=
    Machine.run_invariant_of_everyStep (Fresh text) (fun _ _ kept fresh => fresh_step kept fresh) kept start
  refine ⟨fresh.items, fun enabled available => ?_⟩
  rw [fresh.badge, projectedBadgeCount, if_neg available, if_neg (by rw [enabled]; exact Bool.false_ne_true)]
  exact badgeRooms_total_eq_account fresh.distinct _

/-- A session that gets a list with one unread room. -/
def unreadRoomListed : List AppAction :=
  [.sessionStepped (.ready ⟨"https://example.invalid", "@me:example.invalid", "DEVICE"⟩),
    .roomListInstalled (.updated [] [listedRoom "!room" 3 none])]

theorem computed_values_current_afterRead :
    let state := Machine.run (step plainText) (AppState.empty defaultSettings .signedOut)
      (unreadRoomListed ++ [.roomMarkedAsReadSucceeded "!room"])
    state.roomList.items = (projectedRoomList plainText state).items ∧
      (state.settings.notifications.badges = true ->
        state.nativeAttention.badgeCapability ≠ .unavailable ->
        state.nativeAttention.badgeCount = (accountAttentionSummaryForState state).unreadCount) :=
  computed_values_current ⟨trivial, nodup_singleton _, trivial, trivial⟩

/-- A room that is tagged as low priority stays in the list of rooms and in the badge. -/
theorem low_priority_tag_leaves_stale_values :
    let state := Machine.run (step plainText) (AppState.empty defaultSettings .signedOut)
      (unreadRoomListed ++ [.roomTagSet "!room" .lowPriority ⟨none⟩])
    state.isSessionReady = true ∧ state.settings.notifications.badges = true ∧
      state.nativeAttention.badgeCapability = .unknown ∧
      state.roomList.items = [⟨"!room", .room⟩] ∧ (projectedRoomList plainText state).items = [] ∧
      state.nativeAttention.badgeCount = 3 ∧ (accountAttentionSummaryForState state).unreadCount = 0 := by
  decide +kernel

end Steps

end Koushi.Rooms
