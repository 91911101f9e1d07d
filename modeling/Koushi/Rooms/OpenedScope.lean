import Koushi.Rooms.ScopeInvariant

namespace Koushi.Rooms

open Collections RoomListItem Machine List AppState

/-!
# The scope in which a room opens

With the two relations of `ScopeInvariant` together, the scope that a room's parents
give is one whose sidebar lists the room.
-/

section Listed

variable {text : TextRules} {state : AppState}

theorem collect_of_absent {β : Type} {pairs : List (String × β)} {key : String}
    (absent : key ∉ pairs.map Prod.fst) (map : OrdMap String β) :
    (pairs.foldl (fun map pair => map.insert pair.1 pair.2) map)[key]? = map[key]? := by
  induction pairs generalizing map with
  | nil => rfl
  | cons pair rest ih =>
    simp only [map_cons, mem_cons, not_or] at absent
    rw [foldl_cons, ih absent.2, OrdMap.getElem?_insert_of_ne (Ne.symm absent.1)]

variable {room : RoomSummary}

/-- With distinct ids a room is found under its id. -/
theorem roomsById_of_mem {rooms : List RoomSummary}
    (distinct : (keysBy RoomSummary.roomId rooms).Nodup) (listed : room ∈ rooms) :
    (roomsById rooms)[room.roomId]? = some room := by
  unfold roomsById collect
  generalize (∅ : OrdMap String RoomSummary) = map
  induction rooms generalizing map with
  | nil => cases listed
  | cons first rest ih =>
    simp only [keysBy, map_cons, nodup_cons] at distinct
    rw [map_cons, foldl_cons]
    rcases mem_cons.mp listed with rfl | later
    · rw [collect_of_absent, Std.ExtTreeMap.getElem?_insert_self]
      rw [map_map]
      exact distinct.1
    · exact ih distinct.2 later _

/-- A room of the scope is in one of the two sections. -/
theorem listed_of_scopeRooms
    (inScope : room ∈ scopeRooms state.navigation.activeSpaceId state.spaces state.rooms) :
    room.roomId ∈ keysBy roomId (composeSidebarForState text state.toSidebarState).sections.rooms ∨
      room.roomId ∈ keysBy roomId
        (composeSidebarForState text state.toSidebarState).sections.lowPriority := by
  simp only [composeSidebarForState, composeSidebarWithPreferences, composeSections, keysBy, mem_map,
    mem_filter]
  cases lowPriority : room.tags.lowPriority with
  | none =>
    refine Or.inl ⟨_, ⟨⟨room, ?_, rfl⟩, ?_⟩, rfl⟩
    · exact mem_sortBy.mpr inScope
    · change room.tags.lowPriority.isNone = true
      rw [lowPriority]
      rfl
  | some info =>
    refine Or.inr ⟨_, ⟨room, ?_, rfl⟩, rfl⟩
    refine mem_sortBy.mpr (mem_filter.mpr ⟨mem_append_left _ (mem_sortBy.mpr inScope), ?_⟩)
    rw [lowPriority]
    rfl

/-- With the two relations together, a room is in the scope in which it opens. -/
theorem Scoped.mem_scopeRooms (fits : Scoped state) (listed : room ∈ state.rooms) (notDm : room.isDm = false) :
    room ∈ scopeRooms (scopeForRoom state.core room.core) state.spaces state.rooms := by
  have coreIn : room.core ∈ state.rooms.map RoomSummary.core := mem_map_of_mem listed
  unfold scopeRooms
  cases scope : scopeForRoom state.core room.core with
  | none =>
    -- No joined space is among the parents, so no space lists the room.
    have noParent : ∀ spaceId ∈ room.parentSpaceIds, ¬ Koushi.spaceExists state.core spaceId = true := by
      unfold scopeForRoom at scope
      rw [show room.core.isDm = false from notDm, if_neg Bool.false_ne_true] at scope
      split at scope
      · next active =>
        rw [scope] at active
        cases active
      · exact find?_eq_none.mp scope
    have atHome : roomListedAtHome room state.spaces = true := by
      rw [roomListedAtHome, notDm, Bool.false_or, Bool.not_eq_true', any_eq_false]
      intro space spaceIn lists
      have names := (fits.agree space.core (mem_map_of_mem spaceIn) room.core coreIn).mpr
        (contains_iff_mem.mp lists)
      refine noParent space.spaceId names ?_
      rw [Koushi.spaceExists, hasKey_iff]
      exact mem_map_of_mem (mem_map_of_mem spaceIn)
    refine mem_filter.mpr ⟨listed, ?_⟩
    rw [notDm, atHome]
    rfl
  | some spaceId =>
    have isParent : spaceId ∈ room.parentSpaceIds := by
      unfold scopeForRoom at scope
      rw [show room.core.isDm = false from notDm, if_neg Bool.false_ne_true] at scope
      split at scope
      · next active =>
        rw [scope] at active
        exact of_decide_eq_true active
      · exact mem_of_find?_eq_some scope
    obtain ⟨space, spaceIn, same⟩ := mem_map.mp (fits.joined_scopeForRoom room.core scope)
    have found := find?_of_mem fits.distinctSpaces spaceIn
    rw [same] at found
    rw [Option.bind_some, found]
    have lists := (fits.agree space.core (mem_map_of_mem spaceIn) room.core coreIn).mp
      (by rw [show space.core.spaceId = spaceId from same]; exact isParent)
    refine mem_filter.mpr ⟨mem_filterMap.mpr ⟨room.roomId, lists, ?_⟩, ?_⟩
    · exact roomsById_of_mem fits.distinctRooms listed
    · rw [notDm]
      rfl

/-- In every run whose steps meet the condition, a joined room that is not a direct
message is in the rooms or in the low-priority section of the scope in which it opens. -/
theorem opened_room_listed {settings : SettingsValues} {actions : List AppAction}
    (kept : Machine.EveryStep (step text) (keepsScope text) (empty settings .signedOut) actions)
    {room : RoomSummary} :
    let state := Machine.run (step text) (empty settings .signedOut) actions
    state.isSessionReady = true -> room ∈ state.rooms -> room.isDm = false ->
    let sections := (composeSidebarForState text
      (step text state (.selectRoom room.roomId)).toSidebarState).sections
    room.roomId ∈ keysBy roomId sections.rooms ∨
      room.roomId ∈ keysBy roomId sections.lowPriority := by
  intro state ready listed notDm
  have fits : Scoped state := run_invariant_of_everyStep Scoped
    (fun _ _ kept fits => scoped_step kept fits) kept (scoped_empty settings .signedOut)
  have found : findRoom state room.roomId = some room := find?_of_mem fits.distinctRooms listed
  obtain ⟨rooms, spaces, scope⟩ := handleSelectRoom_lists text ready found
  apply listed_of_scopeRooms
  change room ∈ scopeRooms (handleSelectRoom text state room.roomId).navigation.activeSpaceId
    (handleSelectRoom text state room.roomId).spaces (handleSelectRoom text state room.roomId).rooms
  rw [rooms, spaces, scope]
  exact fits.mem_scopeRooms listed notDm

/-! ### An instance -/

def sampleSpace (childRoomIds : List String) : MatrixRoomListSpace :=
  ⟨"!space", none, "Space", none, .invite, none, childRoomIds, []⟩

def sampleRoom (parentSpaceIds : List String) : MatrixRoomListRoom :=
  ⟨"!room", "Room", none, none, false, [], .default, 0, 0, 0, false, none, none, none, parentSpaceIds,
    false, 2⟩

/-- The lists of a snapshot, as a snapshot of the first live generation. -/
def sampleSnapshot (spaces : List MatrixRoomListSpace) (rooms : List MatrixRoomListRoom) : RoomListSnapshot :=
  let snapshot : MatrixRoomListSnapshot := ⟨spaces, ∅, rooms⟩
  ⟨1, .live, normalizeSpaces snapshot, normalizeRoomsWithPrevious plainText snapshot [], []⟩

/-- A ready session whose live list is loading. -/
def liveListLoading : List AppAction :=
  [.sessionStepped (.ready ⟨"https://example.invalid", "@me:example.invalid", "DEVICE"⟩),
    .roomListBootstrapStarted 1 .live]

theorem opened_room_listed_inSpace :
    let state := Machine.run (step plainText) (empty defaultSettings .signedOut)
      (liveListLoading ++ [.roomListInstalled (.authoritative (sampleSnapshot [sampleSpace []]
        [sampleRoom ["!space"]]))])
    ∃ room ∈ state.rooms, room.roomId = "!room" ∧
      let sections := (composeSidebarForState plainText
        (step plainText state (.selectRoom room.roomId)).toSidebarState).sections
      room.roomId ∈ keysBy roomId sections.rooms ∨
        room.roomId ∈ keysBy roomId sections.lowPriority := by
  intro state
  have kept : EveryStep (step plainText) (keepsScope plainText)
      (empty defaultSettings .signedOut) (liveListLoading ++ [.roomListInstalled
        (.authoritative (sampleSnapshot [sampleSpace []] [sampleRoom ["!space"]]))]) :=
    ⟨trivial, trivial, fun _ => ⟨⟨[sampleSpace []], ∅, [sampleRoom ["!space"]]⟩, [],
      nodup_singleton _, nodup_singleton _, rfl, rfl⟩, trivial⟩
  have listed : (findRoom state "!room").isSome = true ∧ state.isSessionReady = true ∧
      (findRoom state "!room").any (fun room => !room.isDm) = true := by
    decide +kernel
  obtain ⟨room, found⟩ := Option.isSome_iff_exists.mp listed.1
  have matched := find?_some found
  have sameId : room.roomId = "!room" := of_decide_eq_true matched
  have member : room ∈ state.rooms := mem_of_find?_eq_some found
  have notDm : room.isDm = false := by
    have all := listed.2.2
    rw [found] at all
    simpa using all
  exact ⟨room, member, sameId, opened_room_listed kept listed.2.1 member notDm⟩

/-- A merge that brings a room of a space it does not bring: the room opens under the
space, and the space does not list it. -/
theorem merged_room_opens_unlisted :
    let state := Machine.run (step plainText) (empty defaultSettings .signedOut)
      (liveListLoading ++ [
        .roomListInstalled (.authoritative (sampleSnapshot [sampleSpace []] [])),
        .roomListInstalled (.provisional (sampleSnapshot [] [sampleRoom ["!space"]]))])
    let opened := step plainText state (.selectRoom "!room")
    let sections := (composeSidebarForState plainText opened.toSidebarState).sections
    state.isSessionReady = true ∧ (findRoom state "!room").map (fun room => room.isDm) = some false ∧
      opened.navigation.activeSpaceId = some "!space" ∧
      keysBy roomId sections.rooms = [] ∧
      keysBy roomId sections.lowPriority = [] := by
  decide +kernel

end Listed

end Koushi.Rooms
