import Koushi.Rooms.Install

namespace Koushi.Rooms

open Collections List.Forall₂ VectorDiff List

/-!
# What the two computed values read

Two states have the same items and the same badge when they agree on what is read of
the rooms, the spaces, the notification modes and the invites.  `ListedAlike` and
`CountedAlike` say it for one room, `SpacesAlike` for the spaces, and `ModesAlike` for
the modes; a handler that keeps these need not compute the values again.
-/

/-! ## Rooms that are listed alike -/

/-- The badge reads the same of both rooms. -/
structure CountedAlike (left right : RoomSummary) : Prop where
  roomId : left.roomId = right.roomId
  lowPriority : left.tags.lowPriority.isSome = right.tags.lowPriority.isSome
  unreadCount : left.unreadCount = right.unreadCount
  threadUnreadCount : left.threadUnreadCount = right.threadUnreadCount

/-- The room list reads the same of both rooms. -/
structure ListedAlike (left right : RoomSummary) : Prop extends CountedAlike left right where
  isDm : left.isDm = right.isDm
  favourite : left.tags.favourite.isSome = right.tags.favourite.isSome
  markedUnread : left.markedUnread = right.markedUnread
  parentSpaceIds : left.parentSpaceIds = right.parentSpaceIds
  dmSpaceIds : left.dmSpaceIds = right.dmSpaceIds
  displayLabel : left.displayLabel = right.displayLabel
  conversationActivity : left.conversationActivity = right.conversationActivity
  recencyStamp : left.recencyStamp = right.recencyStamp

theorem CountedAlike.refl (room : RoomSummary) : CountedAlike room room := ⟨rfl, rfl, rfl, rfl⟩

theorem ListedAlike.refl (room : RoomSummary) : ListedAlike room room :=
  ⟨CountedAlike.refl room, rfl, rfl, rfl, rfl, rfl, rfl, rfl, rfl⟩

theorem CountedAlike.unreadTotal {left right : RoomSummary} (alike : CountedAlike left right) :
    roomActivityUnreadCount left = roomActivityUnreadCount right := by
  rw [roomActivityUnreadCount, roomActivityUnreadCount, alike.unreadCount, alike.threadUnreadCount]

theorem isNone_eq_of_isSome_eq {α β : Type} {left : Option α} {right : Option β}
    (same : left.isSome = right.isSome) : left.isNone = right.isNone := by
  rw [← Option.not_isSome, ← Option.not_isSome, same]

theorem ListedAlike.filterAccepts {left right : RoomSummary} (alike : ListedAlike left right)
    (filter : RoomListFilter) : filterAccepts filter left = filterAccepts filter right := by
  cases filter with
  | unread => simp only [Rooms.filterAccepts, alike.unreadTotal, alike.markedUnread]
  | people => exact alike.isDm
  | rooms =>
    simp only [Rooms.filterAccepts, alike.isDm, isNone_eq_of_isSome_eq alike.favourite,
      isNone_eq_of_isSome_eq alike.lowPriority]
  | favourites => exact alike.favourite
  | invites => rfl

/-- Lists of rooms that are alike, room by room. -/
abbrev RoomsAlike (related : RoomSummary -> RoomSummary -> Prop) (left right : List RoomSummary) : Prop :=
  List.Forall₂ related left right

variable {related : RoomSummary -> RoomSummary -> Prop} {rooms : List RoomSummary}

theorem roomsAlike_map {change : RoomSummary -> RoomSummary}
    (alike : ∀ room ∈ rooms, related (change room) room) :
    RoomsAlike related (rooms.map change) rooms := by
  rw [RoomsAlike, forall₂_map_left_iff, forall₂_same]
  exact alike

theorem roomsAlike_refl (refl : ∀ room, related room room) : RoomsAlike related rooms rooms :=
  forall₂_same.mpr (fun room _ => refl room)

/-- A change of the first room with an id that is alike in what is read. -/
theorem roomsAlike_modifyBy
    (refl : ∀ room, related room room) {roomId : String} {change : RoomSummary -> RoomSummary}
    (alike : ∀ room, rooms.find? (fun room => room.roomId = roomId) = some room -> related (change room) room) :
    RoomsAlike related (modifyBy RoomSummary.roomId roomId change rooms) rooms := by
  induction rooms with
  | nil => exact nil
  | cons room rest ih =>
    unfold modifyBy
    by_cases here : room.roomId = roomId
    · rw [if_pos here]
      refine cons (alike room ?_) (roomsAlike_refl refl)
      simp [here]
    · rw [if_neg here]
      refine cons (refl room) (ih ?_)
      intro other found
      apply alike
      rw [find?_cons, decide_eq_false here]
      exact found

/-! ## Spaces and modes -/

/-- The room list reads the same of both lists of spaces. -/
structure SpacesAlike (left right : List SpaceSummary) : Prop where
  childRoomIds : ∀ spaceId, (left.find? (fun space => space.spaceId = spaceId)).map
      (fun space => space.childRoomIds) =
    (right.find? (fun space => space.spaceId = spaceId)).map (fun space => space.childRoomIds)
  listsRoom : ∀ roomId, left.any (fun space => space.childRoomIds.contains roomId) =
    right.any (fun space => space.childRoomIds.contains roomId)

theorem SpacesAlike.refl (spaces : List SpaceSummary) : SpacesAlike spaces spaces :=
  ⟨fun _ => rfl, fun _ => rfl⟩

/-- A stable sort keeps the first of the members that it takes for equal. -/
theorem find?_insertionSort {α : Type} {order : α -> α -> Prop} [DecidableRel order]
    {selects : α -> Bool} (equal : ∀ left right, selects left = true -> selects right = true ->
      order left right) (items : List α) :
    (items.insertionSort order).find? selects = items.find? selects := by
  have sublist : (items.filter selects).Sublist (items.insertionSort order) := by
    apply sublist_insertionSort
    · rw [pairwise_iff_forall_sublist]
      intro left right pair
      have leftIn := pair.subset (mem_cons_self)
      have rightIn := pair.subset (mem_cons_of_mem _ mem_cons_self)
      exact equal left right (mem_filter.mp leftIn).2 (mem_filter.mp rightIn).2
    · exact filter_sublist
  have kept : (items.filter selects).Sublist ((items.insertionSort order).filter selects) := by
    have filtered := sublist.filter selects
    rwa [filter_filter, show (fun item => selects item && selects item) = selects from
      funext (fun item => Bool.and_self _)] at filtered
  have sameLength : ((items.insertionSort order).filter selects).length =
      (items.filter selects).length := ((perm_insertionSort order items).filter selects).length_eq
  rw [← head?_filter, ← head?_filter, kept.eq_of_length sameLength.symm]

theorem spacesAlike_applySpaceOrderPreference (spaces : List SpaceSummary) (spaceOrder : List String) :
    SpacesAlike (applySpaceOrderPreference spaces spaceOrder) spaces := by
  constructor
  · intro spaceId
    congr 1
    apply find?_insertionSort
    intro left right leftId rightId
    simp only [decide_eq_true_eq] at leftId rightId
    rw [leftId, rightId]
  · intro roomId
    exact (perm_insertionSort _ spaces).any_eq

/-- The same rooms are muted. -/
def ModesAlike (left right : NotificationSettingsMap) : Prop :=
  ∀ roomId, roomIsMuted roomId left = roomIsMuted roomId right

theorem roomIsMuted_eq (roomId : String) (settings : NotificationSettingsMap) :
    roomIsMuted roomId settings = decide (settings[roomId]?.map (·.mode) = some .mute) := by
  unfold roomIsMuted
  cases settings[roomId]? <;> simp

/-- A change of one entry that keeps the mode, or of a missing one to the default. -/
theorem modesAlike_insert {settings : NotificationSettingsMap} {roomId : String}
    {entry : RoomNotificationSettings}
    (same : decide (entry.mode = .mute) = roomIsMuted roomId settings) :
    ModesAlike (settings.insert roomId entry) settings := by
  intro other
  by_cases here : other = roomId
  · subst here
    rw [← same, roomIsMuted, Std.ExtTreeMap.getElem?_insert_self]
    rfl
  · rw [roomIsMuted, roomIsMuted, OrdMap.getElem?_insert_of_ne (Ne.symm here)]

/-! ## The items -/

section Items

variable {text : TextRules}

theorem ListedAlike.visible {left right : RoomSummary} (alike : ListedAlike left right)
    {spaces spaces' : List SpaceSummary} (spacesAlike : SpacesAlike spaces spaces')
    (activeSpaceId : Option String) (childRoomIds : Option (List String)) :
    roomVisibleInActiveSpace left activeSpaceId childRoomIds spaces =
      roomVisibleInActiveSpace right activeSpaceId childRoomIds spaces' := by
  cases activeSpaceId with
  | none =>
    simp only [roomVisibleInActiveSpace, roomListedAtHome, alike.isDm, alike.roomId]
    rw [spacesAlike.listsRoom]
  | some spaceId =>
    simp only [roomVisibleInActiveSpace, alike.isDm, alike.dmSpaceIds, alike.parentSpaceIds, alike.roomId]

variable {rooms rooms' : List RoomSummary}

/-- Alike rooms give the same rows. -/
theorem rows_eq_of_alike {accepts accepts' : RoomSummary -> Bool} (alike : RoomsAlike ListedAlike rooms rooms')
    (same : ∀ left right, ListedAlike left right -> accepts left = accepts' right) :
    (rooms.filter accepts).map (fun room => (⟨room.roomId, .room⟩ : RoomListProjectionItem)) =
      (rooms'.filter accepts').map (fun room => ⟨room.roomId, .room⟩) := by
  induction alike with
  | nil => rfl
  | cons head _ ih =>
    rw [filter_cons, filter_cons, same _ _ head]
    split
    · rw [map_cons, map_cons, ih, head.roomId]
    · exact ih

theorem selectedItems_congr {filter : RoomListFilter} {activeSpaceId : Option String}
    {spaces spaces' : List SpaceSummary}
    {invites invites' : List InvitePreview} (spacesAlike : SpacesAlike spaces spaces')
    (alike : RoomsAlike ListedAlike rooms rooms')
    (sameInvites : filter = .invites -> invites.map (·.roomId) =
    invites'.map (·.roomId)) : selectedItems filter activeSpaceId spaces rooms invites =
      selectedItems filter activeSpaceId spaces' rooms' invites' := by
  have children : (activeSpaceId.bind (fun spaceId =>
        spaces.find? (fun space => space.spaceId = spaceId))).map (·.childRoomIds) =
      (activeSpaceId.bind (fun spaceId =>
        spaces'.find? (fun space => space.spaceId = spaceId))).map (·.childRoomIds) := by
    cases activeSpaceId with
    | none => rfl
    | some spaceId => exact spacesAlike.childRoomIds spaceId
  cases filter with
  | invites =>
    have ids := congrArg (map (fun roomId => (⟨roomId, .invite⟩ : RoomListProjectionItem)))
      (sameInvites rfl)
    rw [map_map, map_map] at ids
    exact ids
  | rooms | unread | people | favourites =>
    simp only [selectedItems, filter_filter, children]
    apply rows_eq_of_alike alike
    intro left right related
    rw [related.filterAccepts, related.visible spacesAlike]

/-- The same id finds alike rooms. -/
theorem roomsById_alike (alike : RoomsAlike ListedAlike rooms rooms') (roomId : String) :
    Option.Rel ListedAlike (roomsById rooms)[roomId]? (roomsById rooms')[roomId]? := by
  have inserted : ∀ map map' : OrdMap String RoomSummary,
      (∀ id : String, Option.Rel ListedAlike map[id]? map'[id]?) ->
      ∀ left right, ListedAlike left right -> ∀ id : String,
        Option.Rel ListedAlike (map.insert left.roomId left)[id]? (map'.insert right.roomId right)[id]? := by
    intro map map' start left right related id
    rw [OrdMap.getElem?_insert_ite, OrdMap.getElem?_insert_ite, related.roomId]
    split
    · exact Option.Rel.some related
    · exact start id
  simp only [roomsById, collect, foldl_map]
  exact rel_foldl inserted (fun _ => Option.Rel.none) alike roomId

theorem roomAttentionSortRank_congr {left right : Option RoomSummary}
    {mode mode' : Option RoomNotificationMode} (alike : Option.Rel ListedAlike left right)
    (muted : decide (mode = some .mute) = decide (mode' = some .mute)) :
    roomAttentionSortRank left mode = roomAttentionSortRank right mode' := by
  cases alike with
  | none => rfl
  | @some left right alike =>
    have sameMuted : (roomAttentionProjection left mode).isMuted =
      (roomAttentionProjection right mode').isMuted := muted
    have sameUnread : (roomAttentionProjection left mode).unreadCount =
      (roomAttentionProjection right mode').unreadCount := alike.unreadTotal
    simp only [roomAttentionSortRank, sameMuted, sameUnread, alike.markedUnread]

theorem compareConversationActivity_congr {left right left' right' : Option RoomSummary}
    (leftAlike : Option.Rel ListedAlike left left') (rightAlike : Option.Rel ListedAlike right right') :
    compareConversationActivity text left right = compareConversationActivity text left' right' := by
  have reads : ∀ {room room' : Option RoomSummary}, Option.Rel ListedAlike room room' ->
      room.bind (·.conversationActivity) = room'.bind (·.conversationActivity) ∧
      room.bind (·.recencyStamp) = room'.bind (·.recencyStamp) ∧
      room.map (fun room => text.toLowercase room.displayLabel) =
        room'.map (fun room => text.toLowercase room.displayLabel) ∧
      room.map (·.roomId) = room'.map (·.roomId) := by
    intro room room' related
    cases related with
    | none => exact ⟨rfl, rfl, rfl, rfl⟩
    | some alike =>
      refine ⟨alike.conversationActivity, alike.recencyStamp, ?_, ?_⟩
      · rw [Option.map_some, Option.map_some, alike.displayLabel]
      · rw [Option.map_some, Option.map_some, alike.roomId]
  obtain ⟨leftActivity, leftStamp, leftLabel, leftId⟩ := reads leftAlike
  obtain ⟨rightActivity, rightStamp, rightLabel, rightId⟩ := reads rightAlike
  simp only [compareConversationActivity, leftActivity, leftStamp, leftLabel, leftId, rightActivity,
    rightStamp, rightLabel, rightId]

theorem compareItems_congr {sort : RoomListSort}
    {settings settings' : NotificationSettingsMap} (alike : RoomsAlike ListedAlike rooms rooms')
    (modes : ModesAlike settings settings') :
    compareItems text sort rooms settings = compareItems text sort rooms' settings' := by
  funext left right
  have labels : ∀ roomId : String, (roomsById rooms)[roomId]?.map (·.displayLabel) =
      (roomsById rooms')[roomId]?.map (·.displayLabel) := by
    intro roomId
    have related := roomsById_alike alike roomId
    generalize (roomsById rooms)[roomId]? = left, (roomsById rooms')[roomId]? = right at related
    cases related with
    | none => rfl
    | some related => rw [Option.map_some, Option.map_some, related.displayLabel]
  have muted : ∀ roomId : String, decide (settings[roomId]?.map (·.mode) = some .mute) =
      decide (settings'[roomId]?.map (·.mode) = some .mute) := by
    intro roomId
    rw [← roomIsMuted_eq, ← roomIsMuted_eq]
    exact modes roomId
  cases sort with
  | activity =>
    simp only [compareItems, compareAttentionActivity]
    rw [roomAttentionSortRank_congr (roomsById_alike alike left.roomId) (muted left.roomId),
      roomAttentionSortRank_congr (roomsById_alike alike right.roomId) (muted right.roomId),
      compareConversationActivity_congr (roomsById_alike alike left.roomId)
        (roomsById_alike alike right.roomId)]
  | recentFirst =>
    exact compareConversationActivity_congr (roomsById_alike alike left.roomId)
      (roomsById_alike alike right.roomId)
  | normalLocale => simp only [compareItems, labels]

/-- What the items are computed from is alike in both states. -/
structure ItemInputsAlike (state state' : AppState) : Prop where
  filter : state.roomList.activeFilter = state'.roomList.activeFilter
  sort : state.settings.roomListSort = state'.settings.roomListSort
  scope : state.navigation.activeSpaceId = state'.navigation.activeSpaceId
  spaces : SpacesAlike state.spaces state'.spaces
  rooms : RoomsAlike ListedAlike state.rooms state'.rooms
  modes : ModesAlike state.roomNotificationSettings state'.roomNotificationSettings
  invites : state.roomList.activeFilter = .invites ->
    (visibleInvitesForIgnoredUsers state.invites state.profile.ignoredUserIds).map
        (fun invite => invite.roomId) =
      (visibleInvitesForIgnoredUsers state'.invites state'.profile.ignoredUserIds).map
        (fun invite => invite.roomId)

theorem projectedItems_congr {state state' : AppState} (alike : ItemInputsAlike state state') :
    (projectedRoomList text state).items = (projectedRoomList text state').items := by
  have selected : selectedItems state.roomList.activeFilter state.navigation.activeSpaceId state.spaces
      state.rooms (visibleInvitesForIgnoredUsers state.invites state.profile.ignoredUserIds) =
    selectedItems state.roomList.activeFilter state.navigation.activeSpaceId state'.spaces
      state'.rooms (visibleInvitesForIgnoredUsers state'.invites state'.profile.ignoredUserIds) :=
    selectedItems_congr alike.spaces alike.rooms alike.invites
  simp only [projectedRoomList, computeRoomListProjection]
  rw [selected, compareItems_congr alike.rooms alike.modes, alike.sort, alike.filter, alike.scope]

end Items

/-! ## The badge -/

theorem keepFirst_alike {rooms rooms' : List RoomSummary} (alike : RoomsAlike CountedAlike rooms rooms')
    (seen : List String) : RoomsAlike CountedAlike (keepFirst RoomSummary.roomId rooms seen)
      (keepFirst RoomSummary.roomId rooms' seen) := by
  induction alike generalizing seen with
  | nil => exact nil
  | cons head _ ih =>
    rw [keepFirst, keepFirst, head.roomId]
    split
    · exact ih seen
    · exact cons head (ih _)

theorem badgeRooms_total_congr {rooms rooms' : List RoomSummary}
    {settings settings' : NotificationSettingsMap} (alike : RoomsAlike CountedAlike rooms rooms')
    (modes : ModesAlike settings settings') :
    ((badgeRooms rooms settings).map roomActivityUnreadCount).sum =
      ((badgeRooms rooms' settings').map roomActivityUnreadCount).sum := by
  have kept := keepFirst_alike alike []
  have unmuted : ∀ (settings : NotificationSettingsMap) (roomId : String),
      decide ((settings[roomId]?.map (·.mode)).getD .all ≠ .mute) =
        !roomIsMuted roomId settings := by
    intro settings roomId
    rw [roomIsMuted]
    cases settings[roomId]? <;> simp
  unfold badgeRooms
  generalize keepFirst RoomSummary.roomId rooms [] = left,
    keepFirst RoomSummary.roomId rooms' [] = right at kept
  induction kept with
  | nil => rfl
  | cons head _ ih =>
    rw [filter_cons, filter_cons, unmuted, unmuted, head.roomId, modes,
      isNone_eq_of_isSome_eq head.lowPriority]
    split
    · rw [map_cons, map_cons, sum_cons, sum_cons, ih, head.unreadTotal]
    · exact ih

/-- What the badge is computed from is alike in both states. -/
structure BadgeInputsAlike (state state' : AppState) : Prop where
  rooms : RoomsAlike CountedAlike state.rooms state'.rooms
  modes : ModesAlike state.roomNotificationSettings state'.roomNotificationSettings
  badges : state.settings.notifications = state'.settings.notifications
  capability : state.nativeAttention.badgeCapability = state'.nativeAttention.badgeCapability

theorem projectedBadgeCount_congr {state state' : AppState} (alike : BadgeInputsAlike state state') :
    projectedBadgeCount state = projectedBadgeCount state' := by
  rw [projectedBadgeCount, projectedBadgeCount, alike.capability, alike.badges,
    badgeRooms_total_congr alike.rooms alike.modes]

/-- With distinct ids the badge counts what the account counts. -/
theorem badgeRooms_total_eq_account {settings : NotificationSettingsMap}
    (distinct : (keysBy RoomSummary.roomId rooms).Nodup) (pendingInviteCount : Nat) :
    ((badgeRooms rooms settings).map roomActivityUnreadCount).sum =
      (accountAttentionSummary rooms settings pendingInviteCount).unreadCount := by
  have kept : keepFirst RoomSummary.roomId rooms [] = rooms :=
    keepFirst_of_nodup RoomSummary.roomId distinct (fun _ _ => not_mem_nil)
  have same : (fun room : RoomSummary =>
      decide ((settings[room.roomId]?.map (·.mode)).getD .all ≠ .mute) &&
        room.tags.lowPriority.isNone) = fun room => contributesAttention room settings := by
    funext room
    rw [contributesAttention, roomIsMuted, Bool.and_comm]
    cases settings[room.roomId]? <;> simp
  rw [badgeRooms, kept, same]
  rfl

end Koushi.Rooms
