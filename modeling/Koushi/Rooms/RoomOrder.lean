import Koushi.Rooms.OpenedScope

namespace Koushi.Rooms

open Collections List Std.OrientedCmp Std.TransCmp

/-!
# The order of rooms is a function of their set

Every order of rooms ends with the room id, so two rooms with different ids never
compare equal, and what is sorted does not depend on how the rooms were listed.  The
other readers of the room list look rooms up by id or add counts.
-/

/-! ## Orders and sorting -/

/-- A comparison orders the listed items totally. -/
structure OrdersTotally {α : Type} (order : α -> α -> Ordering) (items : List α) : Prop where
  antisymm : ∀ left ∈ items, ∀ right ∈ items,
    (order left right).isLE -> (order right left).isLE -> left = right
  trans : ∀ left ∈ items, ∀ middle ∈ items, ∀ right ∈ items,
    (order left middle).isLE -> (order middle right).isLE -> (order left right).isLE
  total : ∀ left ∈ items, ∀ right ∈ items, (order left right).isLE ∨ (order right left).isLE

section Sorting

variable {α β : Type} {order : α -> α -> Ordering} {items reordered : List α}

/-- The items that compare equal are equal. -/
def Separates (order : α -> α -> Ordering) (items : List α) : Prop :=
  ∀ left ∈ items, ∀ right ∈ items, order left right = .eq -> left = right

theorem isLE_total [Std.TransCmp order] (left right : α) :
    (order left right).isLE ∨ (order right left).isLE := by
  have swapped : order right left = (order left right).swap := eq_swap
  rw [swapped]
  cases order left right <;> simp

theorem ordersTotally_of_separates [Std.TransCmp order] (separates : Separates order items) :
    OrdersTotally order items where
  antisymm left first right second below above :=
    separates left first right second (isLE_antisymm below above)
  trans _ _ _ _ _ _ := isLE_trans
  total left _ right _ := isLE_total left right

theorem sortBy_eq_of_perm [Std.TransCmp order] (separates : Separates order items)
    (perm : items.Perm reordered) : sortBy order items = sortBy order reordered := by
  have total : Std.Total (fun left right => (order left right).isLE = true) := ⟨isLE_total⟩
  have trans : IsTrans α (fun left right => (order left right).isLE = true) :=
    ⟨fun _ _ _ => isLE_trans⟩
  apply Perm.eq_of_pairwise _ (pairwise_insertionSort _ _) (pairwise_insertionSort _ _)
  · exact (perm_sortBy order items).trans (perm.trans (perm_sortBy order reordered).symm)
  · intro left right first second below above
    exact separates left (mem_sortBy.mp first) right (perm.mem_iff.mpr (mem_sortBy.mp second))
      (isLE_antisymm below above)

theorem transCmp_on (order : α -> α -> Ordering) [Std.TransCmp order] (key : β -> α) :
    Std.TransCmp (fun left right => order (key left) (key right)) where
  eq_swap := eq_swap
  isLE_trans := isLE_trans

theorem transCmp_then {second : α -> α -> Ordering} (_ : Std.TransCmp order) (_ : Std.TransCmp second) :
    Std.TransCmp (fun left right => (order left right).then (second left right)) :=
  inferInstanceAs (Std.TransCmp (compareLex order second))

end Sorting

/-! ## The orders of rooms -/

section Text

variable (text : TextRules)

instance : Std.TransCmp compareDescending := by
  apply transCmp_then
  · exact transCmp_on (fun left right => compare right left) Option.isSome
  · exact opposite

theorem transCmp_byLabel {α : Type} (label roomId : α -> String) : Std.TransCmp (fun left right =>
      compareLabels text (label left) (roomId left) (label right) (roomId right)) := by
  apply transCmp_then
  · exact transCmp_on compare (fun item => text.toLowercase (label item))
  · exact transCmp_on compare roomId

instance : Std.TransCmp (compareConversationActivity text) := by
  apply transCmp_then
  · exact transCmp_on compareDescending _
  apply transCmp_then
  · exact transCmp_on compareDescending _
  apply transCmp_then
  · exact transCmp_on compare _
  · exact transCmp_on compare _

theorem transCmp_byAttention {α : Type} (room : α -> Option RoomSummary)
    (mode : α -> Option RoomNotificationMode) : Std.TransCmp (fun left right =>
      compareAttentionActivity text (room left) (mode left) (room right) (mode right)) := by
  apply transCmp_then
  · exact transCmp_on compare (fun item => roomAttentionSortRank (room item) (mode item))
  · exact transCmp_on (compareConversationActivity text) room

variable (sort : RoomListSort) (settings : NotificationSettingsMap) (rooms : List RoomSummary)

instance : Std.TransCmp (compareRooms text sort settings) := by
  cases sort
  · exact transCmp_byAttention text _ _
  · exact transCmp_on (compareConversationActivity text) _
  · exact transCmp_byLabel text _ _

instance : Std.TransCmp (compareItems text sort rooms settings) := by
  cases sort
  · exact transCmp_byAttention text _ _
  · exact transCmp_on (compareConversationActivity text) _
  · exact transCmp_byLabel text _ _

variable {rooms} {reordered : List RoomSummary}

theorem roomId_eq_of_compareRooms {left right : RoomSummary}
    (same : compareRooms text sort settings left right = .eq) : left.roomId = right.roomId := by
  cases sort <;>
    simp [compareRooms, compareAttentionActivity, compareConversationActivity, compareLabels,
      Ordering.then_eq_eq] at same <;> grind

section Distinct

variable (distinct : (keysBy RoomSummary.roomId rooms).Nodup)
include distinct

theorem eq_of_roomId {left right : RoomSummary} (first : left ∈ rooms) (second : right ∈ rooms)
    (same : left.roomId = right.roomId) : left = right :=
  inj_on_of_nodup_map distinct first second same

theorem separates_compareRooms : Separates (compareRooms text sort settings) rooms :=
  fun _ first _ second same =>
    eq_of_roomId distinct first second (roomId_eq_of_compareRooms text sort settings same)

/-- The items of joined rooms stand as the rooms do. -/
theorem compareItems_rooms {left right : RoomSummary} (first : left ∈ rooms) (second : right ∈ rooms) :
    compareItems text sort rooms settings ⟨left.roomId, .room⟩ ⟨right.roomId, .room⟩ =
      compareRooms text sort settings left right := by
  cases sort <;> simp [compareItems, compareRooms, roomsById_of_mem distinct first,
    roomsById_of_mem distinct second]

theorem separates_compareItems : Separates (compareItems text sort rooms settings)
    (rooms.map (fun room => ⟨room.roomId, .room⟩)) := by
  intro left first right second same
  rcases mem_map.mp first with ⟨leftRoom, leftListed, rfl⟩
  rcases mem_map.mp second with ⟨rightRoom, rightListed, rfl⟩
  rw [compareItems_rooms text sort settings distinct leftListed rightListed] at same
  rw [roomId_eq_of_compareRooms text sort settings same]

/-! ## What is looked up and what is counted -/

variable (perm : rooms.Perm reordered)
include perm

theorem collect_eq_of_perm {β : Type} (value : RoomSummary -> β) :
    collect (rooms.map (fun room => (room.roomId, value room))) =
      collect (reordered.map (fun room => (room.roomId, value room))) := by
  rw [collect, collect, foldl_map, foldl_map]
  apply perm.foldl_eq'
  -- Insertions under different ids commute, and two listed rooms with one id are one.
  intro left first right second map
  by_cases same : left.roomId = right.roomId
  · rw [eq_of_roomId distinct first second same]
  · apply Std.ExtTreeMap.ext_getElem?
    intro key
    grind

theorem roomsById_eq_of_perm : roomsById rooms = roomsById reordered :=
  collect_eq_of_perm distinct perm id

theorem accessNamesByRoom_eq_of_perm (spaces : List SpaceSummary) :
    accessNamesByRoom rooms spaces = accessNamesByRoom reordered spaces := by
  have labels := collect_eq_of_perm distinct perm RoomSummary.displayLabel
  rw [collect, collect] at labels
  rw [accessNamesByRoom, accessNamesByRoom, collect, collect, foldl_append, foldl_append, labels]

/-! ## The sidebar and the room list -/

theorem sortRoomSummaries_filter (accepts : RoomSummary -> Bool) :
    sortRoomSummaries text (rooms.filter accepts) sort settings =
      sortRoomSummaries text (reordered.filter accepts) sort settings := by
  apply sortBy_eq_of_perm _ (perm.filter accepts)
  intro left first right second
  exact separates_compareRooms text sort settings distinct left (mem_of_mem_filter first) right
    (mem_of_mem_filter second)

variable {activeSpaceId : Option String} {spaces : List SpaceSummary}

theorem sortRoomSummaries_scopeRooms :
    sortRoomSummaries text (scopeRooms activeSpaceId spaces rooms) sort settings =
      sortRoomSummaries text (scopeRooms activeSpaceId spaces reordered) sort settings := by
  rw [scopeRooms, scopeRooms, roomsById_eq_of_perm distinct perm]
  split
  · rfl
  · exact sortRoomSummaries_filter text sort settings distinct perm _

variable {invites : List InvitePreview}

theorem composeSections_eq_of_perm
    (roomsSort dmsSort : RoomListSort) (spaceChildren : SpaceChildrenState)
    (roomAccess : OrdMap String RoomAccessCondition) :
    composeSections text activeSpaceId spaces rooms settings roomsSort dmsSort spaceChildren invites
        roomAccess =
      composeSections text activeSpaceId spaces reordered settings roomsSort dmsSort spaceChildren invites
        roomAccess := by
  simp only [composeSections, notJoinedChildren, accessNamesByRoom_eq_of_perm distinct perm spaces,
    roomsById_eq_of_perm distinct perm, sortRoomSummaries_scopeRooms text roomsSort settings distinct perm,
    scopeDms, sortRoomSummaries_filter text dmsSort settings distinct perm]

omit distinct in
theorem accountAttentionSummary_eq_of_perm (pendingInviteCount : Nat) :
    accountAttentionSummary rooms settings pendingInviteCount =
      accountAttentionSummary reordered settings pendingInviteCount := by
  have contributing := perm.filter (fun room => contributesAttention room settings)
  rw [accountAttentionSummary, accountAttentionSummary,
    (contributing.map roomActivityUnreadCount).sum_eq,
    (contributing.map (·.highlightCount)).sum_eq]

theorem spaceAddRooms_eq_of_perm {state : SidebarState} (listed : state.rooms = reordered) :
    spaceAddRoomsForState text { state with rooms := rooms } = spaceAddRoomsForState text state := by
  unfold spaceAddRoomsForState
  congr 1
  funext spaceId
  congr 1
  funext space
  simp only [SpaceAddRoomsModel.mk.injEq, true_and]
  have := transCmp_byLabel text SpaceAddRoomCandidate.displayName SpaceAddRoomCandidate.roomId
  apply sortBy_eq_of_perm
  · intro left first right second same
    rcases mem_map.mp first with ⟨leftRoom, leftListed, rfl⟩
    rcases mem_map.mp second with ⟨rightRoom, rightListed, rfl⟩
    have sameId : leftRoom.roomId = rightRoom.roomId := by
      simp only [compareLabels, Ordering.then_eq_eq] at same
      exact Std.LawfulEqCmp.eq_of_compare same.2
    rw [eq_of_roomId distinct (mem_of_mem_filter leftListed) (mem_of_mem_filter rightListed)
      sameId]
  · rw [listed]
    exact (perm.filter _).map _

theorem composeSidebarForState_eq_of_perm {state : SidebarState} (listed : state.rooms = reordered) :
    composeSidebarForState text { state with rooms := rooms } = composeSidebarForState text state := by
  simp only [composeSidebarForState, composeSidebarWithPreferences, listed,
    spaceAddRooms_eq_of_perm text distinct perm listed, createRoomDefaultsForState,
    composeSections_eq_of_perm text _ distinct perm, accountAttentionSummary_eq_of_perm _ perm,
    roomsById_eq_of_perm distinct perm, accessNamesByRoom_eq_of_perm distinct perm]

theorem computeRoomListProjection_eq_of_perm (filter : RoomListFilter) :
    computeRoomListProjection text filter sort activeSpaceId spaces rooms settings invites =
      computeRoomListProjection text filter sort activeSpaceId spaces reordered settings invites := by
  have compared : compareItems text sort reordered settings = compareItems text sort rooms settings := by
    funext left right
    simp only [compareItems, roomsById_eq_of_perm distinct perm]
  rw [computeRoomListProjection, computeRoomListProjection, compared]
  cases filter with
  | invites => rfl
  | unread | people | rooms | favourites =>
    congr 1
    apply sortBy_eq_of_perm _ (((perm.filter _).filter _).map _)
    intro left first right second
    apply separates_compareItems text sort settings distinct
    · exact map_subset _ (fun _ => by simp +contextual) first
    · exact map_subset _ (fun _ => by simp +contextual) second

end Distinct

/-- For rooms with distinct ids every order of the sidebar and of the room list is a
total order of the rooms, and neither the sidebar nor the room list changes when the
rooms are listed in another order. -/
theorem sidebar_order_of_room_set (state : SidebarState) (rooms : List RoomSummary)
    (perm : rooms.Perm state.rooms) (distinct : (rooms.map RoomSummary.roomId).Nodup) :
    (∀ sort settings, OrdersTotally (compareRooms text sort settings) rooms ∧
      OrdersTotally (compareItems text sort rooms settings)
        (rooms.map (fun room => ⟨room.roomId, .room⟩))) ∧
    composeSidebarForState text { state with rooms := rooms } = composeSidebarForState text state ∧
    ∀ filter sort activeSpaceId spaces settings invites,
      computeRoomListProjection text filter sort activeSpaceId spaces rooms settings invites =
        computeRoomListProjection text filter sort activeSpaceId spaces state.rooms settings invites := by
  refine ⟨fun sort settings => ⟨?_, ?_⟩, ?_, ?_⟩
  · exact ordersTotally_of_separates (separates_compareRooms text sort settings distinct)
  · exact ordersTotally_of_separates (separates_compareItems text sort settings distinct)
  · exact composeSidebarForState_eq_of_perm text distinct perm rfl
  · intro filter sort activeSpaceId spaces settings invites
    exact computeRoomListProjection_eq_of_perm text sort settings distinct perm filter

end Text

theorem sidebar_order_of_swapped_rooms :
    let state : SidebarState := { (AppState.empty defaultSettings .signedOut).toSidebarState with
      rooms := [listedRoom "!first" 3 none, listedRoom "!second" 0 none] }
    composeSidebarForState plainText
        { state with rooms := [listedRoom "!second" 0 none, listedRoom "!first" 3 none] } =
      composeSidebarForState plainText state := by
  intro state
  exact (sidebar_order_of_room_set plainText state _ (Perm.swap _ _ _) (by decide)).2.1

end Koushi.Rooms
