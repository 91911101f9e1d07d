import Koushi.Rooms.OpenedScope
import Koushi.Rooms.SidebarGuard

namespace Koushi.Rooms

open Collections RoomSummary SidebarSectionBound List

/-!
# What a scope shows

The scope of the sidebar is a joined space or Home.  Its rooms and its DMs are laid
out in three sections, by tag and by kind, and each section shows a bounded part of
its rows.  The first half says that the sections are a partition of the scope.  The
second compares the badge that the rail gives the open space with the totals of the
section that lists its rooms.
-/

/-! ## The partition -/

/-- A joined room belongs to the scope: a DM at Home or in a space it is filed under,
another room in a space that has it as a child, or at Home if no space has. -/
def inScope (activeSpaceId : Option String) (spaces : List SpaceSummary) (room : RoomSummary) : Bool :=
  if room.isDm then
    activeSpaceId.isNone || room.dmSpaceIds.any (fun spaceId => some spaceId = activeSpaceId)
  else
    match activeSpaceId.bind (fun spaceId => spaces.find? (fun space => space.spaceId = spaceId)) with
    | some space => space.childRoomIds.contains room.roomId
    | none => roomListedAtHome room spaces

/-- The ids of the rows of joined rooms, section after section. -/
def SidebarSections.joinedRoomIds (sections : SidebarSections) : List String :=
  keysBy RoomListItem.roomId (sections.rooms ++ sections.people ++ sections.lowPriority)

/-- The bound of a section accounts for its rows and does not hide the open room. -/
def SidebarSectionBound.Shows (bound : SidebarSectionBound) (rows : List RoomListItem)
    (activeRoomId : Option String) : Prop :=
  bound.totalCount = rows.length ∧ bound.visibleCount + bound.hiddenCount = rows.length ∧
    ∀ index row, rows[index]? = some row -> activeRoomId = some row.roomId -> index < bound.visibleCount

theorem mem_of_collect {β : Type} {pairs : List (String × β)} {key : String} {value : β}
    (found : (collect pairs)[key]? = some value) : (key, value) ∈ pairs := by
  revert found
  refine foldlRecOn (motive := fun map : OrdMap String β => map[key]? = some value -> (key, value) ∈ pairs)
    pairs _ (fun nothing => by cases nothing) ?_
  intro map earlier pair member held
  rcases OrdMap.getElem?_insert_cases held with ⟨rfl, rfl⟩ | ⟨_, before⟩
  · exact member
  · exact earlier before

/-- What is found under an id is a room of the list with that id. -/
theorem mem_of_roomsById {rooms : List RoomSummary} {roomId : String} {room : RoomSummary}
    (found : (roomsById rooms)[roomId]? = some room) : room ∈ rooms ∧ room.roomId = roomId := by
  obtain ⟨listed, member, same⟩ := mem_map.mp (mem_of_collect found)
  cases same
  exact ⟨member, rfl⟩

/-- The rooms found under a list of ids stand in the order of the ids. -/
theorem keysBy_found_sublist (rooms : List RoomSummary) (roomIds : List String) :
    (keysBy roomId (roomIds.filterMap (fun roomId => (roomsById rooms)[roomId]?))).Sublist roomIds := by
  induction roomIds with
  | nil => exact Sublist.refl _
  | cons roomId rest ih =>
    rw [filterMap_cons]
    split
    · exact ih.cons roomId
    · next room found =>
      rw [keysBy, map_cons, (mem_of_roomsById found).2]
      exact ih.cons_cons roomId

section Text

variable (text : TextRules)

/-- The tag decides the section, and every room of the scope has a place. -/
theorem joinedRoomIds_perm (state : SidebarState) :
    (composeSidebarForState text state).sections.joinedRoomIds.Perm (keysBy roomId
        (scopeRooms state.navigation.activeSpaceId state.spaces state.rooms ++
          scopeDms state.navigation.activeSpaceId state.rooms)) := by
  simp only [SidebarSections.joinedRoomIds, composeSidebarForState, composeSidebarWithPreferences,
    composeSections, keysBy, filter_map]
  rw [map_append, map_append, map_map, map_map, map_map]
  generalize scopeRooms _ _ _ = rooms
  generalize scopeDms _ _ = dms
  generalize hRooms : sortRoomSummaries text rooms _ _ = sortedRooms
  generalize hDms : sortRoomSummaries text dms _ _ = sortedDms
  generalize hLow : sortRoomSummaries text ((sortedRooms ++ sortedDms).filter _) _ _ = sortedLow
  let isPlain (room : RoomSummary) : Bool := room.tags.lowPriority.isNone
  let isLow (room : RoomSummary) : Bool := room.tags.lowPriority.isSome
  have permRooms : sortedRooms.Perm rooms := hRooms ▸ perm_sortBy _ _
  have permDms : sortedDms.Perm dms := hDms ▸ perm_sortBy _ _
  have permLow : sortedLow.Perm ((sortedRooms ++ sortedDms).filter isLow) := hLow ▸ perm_sortBy _ _
  have complement : (fun room => !isPlain room) = isLow := funext fun room => Option.not_isNone _
  rw [← map_append, ← map_append, ← filter_append]
  apply Perm.map
  calc (sortedRooms ++ sortedDms).filter isPlain ++ sortedLow
    _ |>.Perm ((sortedRooms ++ sortedDms).filter isPlain ++ (sortedRooms ++ sortedDms).filter isLow) :=
        permLow.append_left _
    _ |>.Perm (sortedRooms ++ sortedDms) := by
        rw [← complement]
        exact filter_append_perm isPlain _
    _ |>.Perm (rooms ++ dms) := permRooms.append permDms

end Text

section Distinct

variable {spaces : List SpaceSummary} {rooms : List RoomSummary}
  (distinctRooms : (keysBy roomId rooms).Nodup)
include distinctRooms

theorem mem_scopeRooms_iff {scope : Option String} {room : RoomSummary} :
    room ∈ scopeRooms scope spaces rooms ↔
      room ∈ rooms ∧ room.isDm = false ∧ inScope scope spaces room = true := by
  unfold scopeRooms inScope
  cases scope.bind (fun spaceId => spaces.find? (fun space => space.spaceId = spaceId)) with
  | none => simp +contextual [mem_filter]
  | some space =>
    rw [mem_filter, mem_filterMap]
    constructor
    · rintro ⟨⟨roomId, child, found⟩, notDm⟩
      obtain ⟨listed, rfl⟩ := mem_of_roomsById found
      refine ⟨listed, by simpa using notDm, ?_⟩
      simpa [show room.isDm = false by simpa using notDm] using child
    · rintro ⟨listed, notDm, child⟩
      rw [if_neg (by rw [notDm]; exact Bool.false_ne_true)] at child
      exact ⟨⟨room.roomId, contains_iff_mem.mp child, roomsById_of_mem distinctRooms listed⟩,
        by rw [notDm]; rfl⟩

omit distinctRooms in
theorem mem_scopeDms_iff (spaces : List SpaceSummary) {scope : Option String} {room : RoomSummary} :
    room ∈ scopeDms scope rooms ↔ room ∈ rooms ∧ room.isDm = true ∧ inScope scope spaces room = true := by
  simp +contextual [scopeDms, inScope, mem_filter]

/-- No id stands twice in a scope whose space lists no child twice. -/
theorem nodup_scope (distinctChildren : ∀ space ∈ spaces, space.childRoomIds.Nodup)
    (scope : Option String) :
    (keysBy roomId (scopeRooms scope spaces rooms ++ scopeDms scope rooms)).Nodup := by
  rw [keysBy, map_append]
  refine Nodup.append ?_ ?_ ?_
  · unfold scopeRooms
    split
    · next space active =>
      obtain ⟨spaceId, -, found⟩ := Option.bind_eq_some_iff.mp active
      refine (distinctChildren space (mem_of_find?_eq_some found)).sublist ?_
      exact (filter_sublist.map _).trans (keysBy_found_sublist rooms space.childRoomIds)
    · exact distinctRooms.sublist (filter_sublist.map _)
  · exact distinctRooms.sublist (filter_sublist.map _)
  · -- A room and a DM with one id would be one room.
    rintro roomId inRooms inDms
    obtain ⟨room, isRoom, rfl⟩ := mem_map.mp inRooms
    obtain ⟨dm, isDm, same⟩ := mem_map.mp inDms
    obtain ⟨roomIn, notDm, -⟩ := (mem_scopeRooms_iff distinctRooms).mp isRoom
    obtain ⟨dmIn, dmIs, -⟩ := (mem_scopeDms_iff spaces).mp isDm
    have one : dm = room := inj_on_of_nodup_map distinctRooms dmIn roomIn same
    rw [one, notDm] at dmIs
    cases dmIs

end Distinct

section Composed

variable {text : TextRules} {state : SidebarState}
  (distinctRooms : (keysBy roomId state.rooms).Nodup)
include distinctRooms

/-- The rows of a scope are the joined rooms that belong to it. -/
theorem mem_joinedRoomIds_iff {room : RoomSummary} (listed : room ∈ state.rooms) :
    room.roomId ∈ (composeSidebarForState text state).sections.joinedRoomIds ↔
      inScope state.navigation.activeSpaceId state.spaces room = true := by
  rw [(joinedRoomIds_perm text state).mem_iff, keysBy, mem_map]
  constructor
  · rintro ⟨other, shown, same⟩
    have belongs : other ∈ state.rooms ∧
        inScope state.navigation.activeSpaceId state.spaces other = true := by
      rcases mem_append.mp shown with isRoom | isDm
      · have member := (mem_scopeRooms_iff distinctRooms).mp isRoom
        exact ⟨member.1, member.2.2⟩
      · have member := (mem_scopeDms_iff state.spaces).mp isDm
        exact ⟨member.1, member.2.2⟩
    rw [← inj_on_of_nodup_map distinctRooms belongs.1 listed same]
    exact belongs.2
  · intro belongs
    refine ⟨room, mem_append.mpr ?_, rfl⟩
    cases isDm : room.isDm with
    | false => exact .inl ((mem_scopeRooms_iff distinctRooms).mpr ⟨listed, isDm, belongs⟩)
    | true => exact .inr ((mem_scopeDms_iff state.spaces).mpr ⟨listed, isDm, belongs⟩)

/-- A room that is not at Home is in the scope of the space that lists it. -/
theorem exists_scope (distinctSpaces : (keysBy SpaceSummary.spaceId state.spaces).Nodup)
    {room : RoomSummary} (listed : room ∈ state.rooms) (notDm : room.isDm = false) :
    ∃ scope : Option String, (∀ spaceId ∈ scope, spaceId ∈ keysBy SpaceSummary.spaceId state.spaces) ∧
      room.roomId ∈ (composeSidebarForState text
        { state with navigation.activeSpaceId := scope }).sections.joinedRoomIds := by
  by_cases home : roomListedAtHome room state.spaces = true
  · refine ⟨none, ?_, (mem_joinedRoomIds_iff ?_ ?_).mpr ?_⟩
    · rintro _ ⟨⟩
    · exact distinctRooms
    · exact listed
    · simpa [inScope, notDm] using home
  · rw [roomListedAtHome, notDm, Bool.false_or, Bool.not_eq_true', Bool.not_eq_false, any_eq_true]
      at home
    obtain ⟨space, joined, child⟩ := home
    refine ⟨some space.spaceId, ?_, (mem_joinedRoomIds_iff ?_ ?_).mpr ?_⟩
    · rintro _ ⟨⟩
      exact mem_map_of_mem joined
    · exact distinctRooms
    · exact listed
    · simpa [inScope, notDm, find?_of_mem distinctSpaces joined] using child

/-- The not-joined section has nothing that the account is in. -/
theorem notJoined_absent {row : RoomListItem}
    (shown : row ∈ (composeSidebarForState text state).sections.notJoined) :
    row.roomId ∉ keysBy roomId state.rooms ∧ row.roomId ∉ keysBy SpaceSummary.spaceId state.spaces := by
  simp only [composeSidebarForState, composeSidebarWithPreferences, composeSections, mem_map] at shown
  obtain ⟨child, listed, rfl⟩ := shown
  simp only [notJoinedChildren, mem_sortBy, mem_filter, Bool.and_eq_true, Bool.not_eq_true'] at listed
  obtain ⟨-, ⟨noRoom, noSpace⟩, -⟩ := listed
  constructor
  · intro joined
    obtain ⟨room, roomIn, same⟩ := mem_map.mp joined
    have found := roomsById_of_mem distinctRooms roomIn
    rw [show room.roomId = child.roomId from same] at found
    rw [Std.ExtTreeMap.contains_eq_isSome_getElem?, found] at noRoom
    cases noRoom
  · intro joined
    obtain ⟨space, spaceIn, same⟩ := mem_map.mp joined
    have absent := any_eq_false.mp noSpace space spaceIn
    exact absent (decide_eq_true same)

end Composed

/-- The bound of a section without repeated rows shows the open room. -/
theorem SidebarSectionBound.project_shows {rows : List RoomListItem}
    (distinct : (keysBy RoomListItem.roomId rows).Nodup) (expanded : Bool) (activeRoomId : Option String) :
    (project rows.length expanded (activeRoomPosition rows activeRoomId)).Shows rows activeRoomId := by
  refine ⟨rfl, ?_, ?_⟩
  · dsimp only [project]
    split
    · exact Nat.add_sub_of_le le_rfl
    · exact Nat.add_sub_of_le (Nat.min_le_left _ _)
  · intro index row stands active
    have inRange : index < rows.length := (List.getElem?_eq_some_iff.mp stands).1
    have position : activeRoomPosition rows activeRoomId = some index := by
      rw [activeRoomPosition, active, Option.bind_some, findIdx?_eq_some_iff_getElem]
      have atIndex : rows[index] = row := (List.getElem?_eq_some_iff.mp stands).2
      refine ⟨inRange, decide_eq_true (congrArg RoomListItem.roomId atIndex), ?_⟩
      intro earlier before isActive
      have same : (keysBy RoomListItem.roomId rows)[earlier]? = (keysBy RoomListItem.roomId rows)[index]? := by
        simp [keysBy, atIndex, of_decide_eq_true isActive, inRange, before.trans inRange]
      exact nodup_iff_getElem?_ne_getElem?.mp distinct earlier index before
        (by rw [keysBy, length_map]; exact inRange) same
    rw [position]
    dsimp only [project]
    split
    · exact inRange
    · next folded =>
      simp only [Option.any_some, Bool.or_eq_true, decide_eq_true_eq, not_or, not_le] at folded
      exact Nat.lt_min.mpr ⟨inRange, folded.2⟩

/-- The sections of a scope are a partition of the joined rooms in it; every room that
is not a DM is in some scope; the not-joined section has nothing that is joined; and
the bound of each section accounts for its rows and shows the open room. -/
theorem sections_partition_scope (text : TextRules) (state : SidebarState)
    (distinctRooms : (keysBy RoomSummary.roomId state.rooms).Nodup)
    (distinctSpaces : (keysBy SpaceSummary.spaceId state.spaces).Nodup)
    (distinctChildren : ∀ space ∈ state.spaces, space.childRoomIds.Nodup) :
    let sidebar := composeSidebarForState text state
    let activeRoomId := state.navigation.activeRoomId
    (∀ room ∈ state.rooms, sidebar.sections.joinedRoomIds.count room.roomId =
      if inScope state.navigation.activeSpaceId state.spaces room then 1 else 0) ∧
    (∀ room ∈ state.rooms, room.isDm = false -> ∃ scope : Option String,
      (∀ spaceId ∈ scope, spaceId ∈ keysBy SpaceSummary.spaceId state.spaces) ∧
      room.roomId ∈ (composeSidebarForState text
        { state with navigation.activeSpaceId := scope }).sections.joinedRoomIds) ∧
    (∀ row ∈ sidebar.sections.notJoined, row.roomId ∉ keysBy RoomSummary.roomId state.rooms ∧
      row.roomId ∉ keysBy SpaceSummary.spaceId state.spaces) ∧
    (∃ bound, sidebar.sectionBounds.rooms = some bound ∧ bound.Shows sidebar.sections.rooms activeRoomId) ∧
    (∃ bound, sidebar.sectionBounds.dms = some bound ∧ bound.Shows sidebar.sections.people activeRoomId) ∧
    ∃ bound, sidebar.sectionBounds.lowPriority = some bound ∧
      bound.Shows sidebar.sections.lowPriority activeRoomId := by
  intro sidebar activeRoomId
  have distinct : sidebar.sections.joinedRoomIds.Nodup :=
    (joinedRoomIds_perm text state).nodup_iff.mpr
      (nodup_scope distinctRooms distinctChildren state.navigation.activeSpaceId)
  have parts := distinct
  rw [SidebarSections.joinedRoomIds, keysBy, map_append, map_append] at parts
  have upper := (sublist_append_left _ _).nodup parts
  refine ⟨?_, fun room => exists_scope distinctRooms distinctSpaces, fun row => notJoined_absent distinctRooms,
    ⟨_, rfl, ?_⟩, ⟨_, rfl, ?_⟩, ⟨_, rfl, ?_⟩⟩
  · intro room listed
    rw [distinct.count]
    simp only [sidebar, mem_joinedRoomIds_iff distinctRooms listed]
  · exact project_shows ((sublist_append_left _ _).nodup upper) _ _
  · exact project_shows ((sublist_append_right _ _).nodup upper) _ _
  · exact project_shows ((sublist_append_right _ _).nodup parts) _ _

/-- A joined space is open. -/
def openSpace (childRoomIds : List String) (rooms : List RoomSummary) : SidebarState :=
  { SidebarState.empty with
    navigation.activeSpaceId := some "!space"
    spaces := [⟨"!space", none, "Space", none, none, none, childRoomIds, childRoomIds⟩]
    rooms := rooms }

theorem sections_partition_scope_open : (composeSidebarForState plainText
      (openSpace ["!a"] [listedRoom "!a" 0 none, listedRoom "!b" 0 none])).sections.joinedRoomIds.count
        "!a" = 1 :=
  (sections_partition_scope plainText (openSpace ["!a"] [listedRoom "!a" 0 none, listedRoom "!b" 0 none])
    (by decide) (by decide) (by decide)).1 (listedRoom "!a" 0 none) (by decide)

/-- A space that lists a child twice shows its room twice. -/
theorem repeated_child_shown_twice :
    let state := openSpace ["!a", "!a"] [listedRoom "!a" 0 none]
    (keysBy RoomSummary.roomId state.rooms).Nodup ∧
      (composeSidebarForState plainText state).sections.joinedRoomIds.count "!a" = 2 := by
  decide +kernel

/-! ## The badge of the open space -/

/-- The entry of a space on the rail. -/
def SidebarModel.railEntry (sidebar : SidebarModel) (spaceId : String) : Option SpaceRailItem :=
  sidebar.spaceRail.find? (fun entry => entry.spaceId = spaceId)

/-- The user's order of the rail does not change which entry a space has. -/
theorem railEntry_composed (text : TextRules) (state : SidebarState) (spaceId : String) :
    (composeSidebarForState text state).railEntry spaceId =
      (state.spaces.find? (fun space => space.spaceId = spaceId)).map
        (spaceRailItem text state.navigation.activeSpaceId state.spaces (roomsById state.rooms)
          state.roomNotificationSettings state.navigation.spaceLocalPresentations state.roomAccess
          (accessNamesByRoom state.rooms state.spaces)) := by
  simp only [SidebarModel.railEntry, composeSidebarForState, composeSidebarWithPreferences, sortBy]
  rw [find?_insertionSort, find?_map]
  · rfl
  · intro left right leftId rightId
    rw [decide_eq_true_eq] at leftId rightId
    rw [compareRailPositions, leftId, rightId]
    cases (preferredPositions state.navigation.spaceOrder)[spaceId]? with
    | none => rfl
    | some position => simp

/-- Totals of unmuted rows are totals over the rooms that feed the badge. -/
theorem section_total {text : TextRules} {state : SidebarState} {space : SpaceSummary}
    (active : state.navigation.activeSpaceId = some space.spaceId)
    (joined : state.spaces.find? (fun other => other.spaceId = space.spaceId) = some space)
    (measure : RoomListItem -> Nat) : (((composeSidebarForState text state).sections.rooms.filter
        (fun row => !roomIsMuted row.roomId state.roomNotificationSettings)).map measure).sum =
      ((attentiveChildren space (roomsById state.rooms) state.roomNotificationSettings).map
        (fun room => measure (roomListItem text room state.roomNotificationSettings state.roomAccess
          (accessNamesByRoom state.rooms state.spaces)))).sum := by
  have scope : scopeRooms state.navigation.activeSpaceId state.spaces state.rooms =
      (space.childRoomIds.filterMap (fun roomId => (roomsById state.rooms)[roomId]?)).filter
        (fun room => !room.isDm) := by
    rw [scopeRooms, active, Option.bind_some, joined]
  simp only [composeSidebarForState, composeSidebarWithPreferences, composeSections, scope,
    filter_map, filter_filter, map_map]
  apply Perm.sum_eq
  apply Perm.map
  have feeds : (fun room : RoomSummary => !roomIsMuted room.roomId state.roomNotificationSettings &&
      room.tags.lowPriority.isNone) =
      fun room => contributesAttention room state.roomNotificationSettings :=
    funext fun room => Bool.and_comm _ _
  change (filter (fun room : RoomSummary => !roomIsMuted room.roomId state.roomNotificationSettings &&
    room.tags.lowPriority.isNone) _).Perm _
  rw [feeds]
  exact (perm_sortBy _ _).filter _

theorem sum_map_eq_iff {α : Type} {items : List α} {low high : α -> Nat}
    (below : ∀ item ∈ items, low item ≤ high item) :
    (items.map low).sum = (items.map high).sum ↔ ∀ item ∈ items, low item = high item := by
  induction items with
  | nil => simp
  | cons item rest ih =>
    have restBelow := fun other member => below other (mem_cons_of_mem item member)
    have head := below item mem_cons_self
    have tail : (rest.map low).sum ≤ (rest.map high).sum := sum_le_sum restBelow
    rw [forall_mem_cons, ← ih restBelow, map_cons, map_cons, sum_cons, sum_cons]
    omega

/-- The row of a room that is not muted counts its mentions in threads too. -/
theorem highlightCount_roomListItem {text : TextRules} {room : RoomSummary}
    {settings : NotificationSettingsMap} {access : OrdMap String RoomAccessCondition}
    {names : OrdMap String String} (heard : roomIsMuted room.roomId settings = false) :
    (roomListItem text room settings access names).highlightCount =
      saturatingAdd room.highlightCount room.threadHighlightCount := by
  have mode : settings[room.roomId]?.map (·.mode) ≠ some .mute := by
    intro muted
    obtain ⟨entry, found, isMute⟩ := Option.map_eq_some_iff.mp muted
    rw [roomIsMuted, found, Option.any_some, decide_eq_false_iff_not] at heard
    exact heard isMute
  simp only [roomListItem, roomAttentionProjection, mode, decide_false, Bool.false_eq_true, if_false]

theorem eq_saturatingAdd_iff {own threads : Nat} (word : own ≤ U64_MAX) :
    own = saturatingAdd own threads ↔ threads = 0 ∨ own = U64_MAX := by
  unfold saturatingAdd
  omega

/-- The badge of the open space counts what its section counts, but for mentions in
threads, which only the section counts: the highlight totals agree exactly when no
room that feeds the badge has any, or its own count is at the end of its range. -/
theorem railEntry_agrees_iff (text : TextRules) (state : SidebarState) (space : SpaceSummary)
    (active : state.navigation.activeSpaceId = some space.spaceId)
    (joined : state.spaces.find? (fun other => other.spaceId = space.spaceId) = some space)
    (words : ∀ room ∈ state.rooms, room.highlightCount ≤ U64_MAX) :
    let sidebar := composeSidebarForState text state
    ∃ entry, sidebar.railEntry space.spaceId = some entry ∧
      entry.unreadCount = sidebar.spaceUnreadCount ∧
      (entry.highlightCount = sidebar.spaceHighlightCount ↔
        ∀ room ∈ attentiveChildren space (roomsById state.rooms) state.roomNotificationSettings,
          room.threadHighlightCount = 0 ∨ room.highlightCount = U64_MAX) := by
  intro sidebar
  refine ⟨_, (railEntry_composed text state space.spaceId).trans (by rw [joined]; rfl), ?_, ?_⟩
  · exact (section_total active joined (·.unreadCount)).symm
  · have rows : sidebar.spaceHighlightCount =
        ((attentiveChildren space (roomsById state.rooms) state.roomNotificationSettings).map
          (fun room => saturatingAdd room.highlightCount room.threadHighlightCount)).sum := by
      refine (section_total active joined (·.highlightCount)).trans ?_
      refine congrArg sum (map_congr_left ?_)
      intro room feeds
      have contributes := (mem_filter.mp feeds).2
      rw [contributesAttention, Bool.and_eq_true, Bool.not_eq_true'] at contributes
      exact highlightCount_roomListItem contributes.2
    have word : ∀ room ∈ attentiveChildren space (roomsById state.rooms) state.roomNotificationSettings,
        room.highlightCount ≤ U64_MAX := by
      intro room feeds
      obtain ⟨roomId, -, found⟩ := mem_filterMap.mp
        (mem_filter.mp (mem_filter.mp feeds).1).1
      exact words room (mem_of_roomsById found).1
    rw [rows]
    refine (sum_map_eq_iff ?_).trans (forall₂_congr ?_)
    · exact fun room feeds => Nat.le_min.mpr ⟨Nat.le_add_right _ _, word room feeds⟩
    · exact fun room feeds => eq_saturatingAdd_iff (word room feeds)

theorem railEntry_agrees_iff_mentioned :
    let sidebar := composeSidebarForState plainText
      (openSpace ["!a"] [{ listedRoom "!a" 3 none with highlightCount := 2 }])
    ∃ entry, sidebar.railEntry "!space" = some entry ∧ entry.highlightCount = sidebar.spaceHighlightCount := by
  obtain ⟨entry, found, -, agrees⟩ := railEntry_agrees_iff plainText
    (openSpace ["!a"] [{ listedRoom "!a" 3 none with highlightCount := 2 }])
    ⟨"!space", none, "Space", none, none, none, ["!a"], ["!a"]⟩ rfl (by decide) (by decide)
  exact ⟨entry, found, agrees.mpr (by decide +kernel)⟩

/-- One unread mention in a thread: the section counts it and the rail does not. -/
theorem thread_mention_missing_on_rail :
    let sidebar := composeSidebarForState plainText
      (openSpace ["!a"] [{ listedRoom "!a" 0 none with threadUnreadCount := 1, threadHighlightCount := 1 }])
    (sidebar.railEntry "!space").map (fun entry => (entry.unreadCount, entry.highlightCount)) = some (1, 0) ∧
      (sidebar.spaceUnreadCount, sidebar.spaceHighlightCount) = (1, 1) := by
  decide +kernel

end Koushi.Rooms
