import Koushi.Reducer.NavigationCoherence
import Koushi.Rooms.Normalization
import Koushi.Rooms.Freshness

namespace Koushi.Rooms

open Collections RoomListUpdate List SpaceSummary Koushi

/-!
# Parents and children stay together

Opening a room picks the scope from the parents that the room names, and the sidebar
lists a scope from the children that the space lists.  `Scoped` says that the two
relations agree and that the active space is joined.

Within one normalized list they agree.  A merge does not look at relations between
what it brings and what it keeps, a restored selection may name a space that is not
joined, and a settled link writes one side only.  `keepsScope` asks of these steps
what they do not check themselves; every other step keeps `Scoped` as it is.
-/

/-! ## The selection of the reducer model -/

section Selection

theorem openRestoredRoom_keeps (state : Koushi.AppState) (targetRoomId : Option String) :
    KeepsLists state (openRestoredRoom state targetRoomId).1 := by
  unfold openRestoredRoom
  split
  · exact KeepsLists.refl
  split
  · exact selectActiveRoomForNavigation_keeps
  · exact ⟨rfl, rfl, rfl, rfl, rfl, rfl, rfl, rfl, rfl⟩
  · exact KeepsLists.refl

theorem scopeForRoom_of_keeps {before after : Koushi.AppState} (keeps : KeepsLists before after)
    (room : Koushi.RoomSummary) : scopeForRoom after room = scopeForRoom before room := by
  unfold scopeForRoom
  rw [keeps.activeSpaceId, show Koushi.spaceExists after = Koushi.spaceExists before from
    funext keeps.spaceExists]

theorem activeSpaceId_handleSelectSpace {state : Koushi.AppState}
    (ready : isSessionReady state = true) (spaceId : Option String) :
    (Koushi.handleSelectSpace state spaceId).1.navigation.activeSpaceId =
      spaceId.filter (Koushi.spaceExists state) := by
  have keeps := rememberActiveRoomForCurrentSpace_keeps state
  have same : Koushi.spaceExists (rememberActiveRoomForCurrentSpace state) = Koushi.spaceExists state :=
    funext keeps.spaceExists
  unfold Koushi.handleSelectSpace
  rw [ready, Bool.not_true, if_neg Bool.false_ne_true]
  dsimp only
  split
  · next closed =>
    rw [Outcome.andThen_state, ← same]
    split <;> rfl
  · next selected open_ =>
    rw [← same]
    refine (rememberActiveRoomForCurrentSpace_keeps _).activeSpaceId.trans ?_
    refine (openRestoredRoom_keeps _ _).activeSpaceId.trans ?_
    dsimp only
    unfold restoreFilter
    split <;> rfl

theorem activeSpaceId_handleSelectRoom {state : Koushi.AppState} {room : Koushi.RoomSummary}
    (ready : isSessionReady state = true) {roomId : String}
    (found : Koushi.findRoom state roomId = some room) :
    (Koushi.handleSelectRoom state roomId).1.navigation.activeSpaceId = scopeForRoom state room := by
  unfold Koushi.handleSelectRoom
  rw [ready, Bool.not_true, if_neg Bool.false_ne_true, found]
  refine (rememberActiveRoomForCurrentSpace_keeps _).activeSpaceId.trans ?_
  split <;> exact scopeForRoom_of_keeps (rememberActiveRoomForCurrentSpace_keeps state) room

end Selection

/-! ## Agreement -/

structure Scoped (state : AppState) : Prop where
  agree : Agree (state.spaces.map SpaceSummary.core) (state.rooms.map RoomSummary.core)
  joined : ∀ spaceId, state.navigation.activeSpaceId = some spaceId ->
    spaceId ∈ keysBy SpaceSummary.spaceId state.spaces
  distinctRooms : (keysBy RoomSummary.roomId state.rooms).Nodup
  distinctSpaces : (keysBy SpaceSummary.spaceId state.spaces).Nodup

theorem keysBy_core_rooms (rooms : List RoomSummary) :
    keysBy Koushi.RoomSummary.roomId (rooms.map RoomSummary.core) = keysBy RoomSummary.roomId rooms := by
  rw [keysBy, map_map]
  rfl

theorem keysBy_core_spaces (spaces : List SpaceSummary) :
    keysBy Koushi.SpaceSummary.spaceId (spaces.map core) = keysBy SpaceSummary.spaceId spaces := by
  rw [keysBy, map_map]
  rfl

theorem perm_spaceIds {spaces spaces' : List SpaceSummary} (perm : (spaces.map core).Perm (spaces'.map core)) :
    (keysBy SpaceSummary.spaceId spaces).Perm (keysBy SpaceSummary.spaceId spaces') := by
  rw [← keysBy_core_spaces, ← keysBy_core_spaces]
  exact perm.map _

theorem Agree.mono {spaces spaces' : List Koushi.SpaceSummary} {rooms rooms' : List Koushi.RoomSummary}
    (agree : Agree spaces rooms) (fewerSpaces : spaces' ⊆ spaces) (fewerRooms : rooms' ⊆ rooms) :
    Agree spaces' rooms' :=
  fun space spaceIn room roomIn => agree space (fewerSpaces spaceIn) room (fewerRooms roomIn)

section Frames

variable {state next : AppState}

/-- What navigation reads of the lists, and the scope, are as before. -/
structure ScopeFrame (next state : AppState) : Prop where
  rooms : next.rooms.map RoomSummary.core = state.rooms.map RoomSummary.core
  spaces : (next.spaces.map SpaceSummary.core).Perm (state.spaces.map SpaceSummary.core)
  scope : next.navigation.activeSpaceId = state.navigation.activeSpaceId

section

variable (fits : Scoped state)
include fits

theorem Scoped.lists (rooms : next.rooms.map RoomSummary.core = state.rooms.map RoomSummary.core)
    (spaces : (next.spaces.map core).Perm (state.spaces.map core))
    (joined : ∀ spaceId, next.navigation.activeSpaceId = some spaceId ->
      spaceId ∈ keysBy SpaceSummary.spaceId state.spaces) : Scoped next := by
  have spaceIds := perm_spaceIds spaces
  refine ⟨?_, ?_, ?_, ?_⟩
  · rw [rooms]
    exact fits.agree.mono spaces.subset (Subset.refl _)
  · intro spaceId active
    exact spaceIds.mem_iff.mpr (joined spaceId active)
  · rw [← keysBy_core_rooms, rooms, keysBy_core_rooms]
    exact fits.distinctRooms
  · exact spaceIds.nodup_iff.mpr fits.distinctSpaces

theorem Scoped.frame (frame : ScopeFrame next state) : Scoped next :=
  fits.lists frame.rooms frame.spaces (fun spaceId active => fits.joined spaceId (frame.scope ▸ active))

/-- The rooms are rewritten, each with the same part that navigation reads. -/
theorem Scoped.rewritten {change : RoomSummary -> RoomSummary}
    (rooms : next.rooms = state.rooms.map change) (sameCore : ∀ room, (change room).core = room.core)
    (spaces : next.spaces = state.spaces)
    (scope : next.navigation.activeSpaceId = state.navigation.activeSpaceId) : Scoped next := by
  refine fits.frame ⟨?_, by rw [spaces], scope⟩
  rw [rooms, map_map]
  exact map_congr_left (fun room _ => sameCore room)

theorem Scoped.modified {change : RoomSummary -> RoomSummary} {roomId : String}
    (rooms : next.rooms = modifyBy RoomSummary.roomId roomId change state.rooms)
    (sameCore : ∀ room, (change room).core = room.core) (spaces : next.spaces = state.spaces)
    (scope : next.navigation.activeSpaceId = state.navigation.activeSpaceId) : Scoped next := by
  refine fits.frame ⟨?_, by rw [spaces], scope⟩
  rw [rooms]
  exact map_modifyBy (fun room _ => sameCore room)

end

end Frames

/-! ## Installed lists -/

section Installed

variable {text : TextRules} {state : AppState}

theorem map_core_installedRooms (rooms : List RoomSummary) (authoritative : Bool) :
    (installedRooms text state rooms authoritative).map RoomSummary.core =
      (keptRooms state rooms).map RoomSummary.core := by
  rw [installedRooms_eq_map, map_map]
  exact map_congr_left (fun room _ => core_installRoom _ room)

theorem perm_core_applySpaceOrderPreference (spaces : List SpaceSummary) (spaceOrder : List String) :
    ((applySpaceOrderPreference spaces spaceOrder).map core).Perm (spaces.map core) :=
  (perm_insertionSort _ spaces).map _

theorem perm_core_installedSpaces (spaces : List SpaceSummary) :
    ((installedSpaces state spaces).map core).Perm ((keptSpaces state spaces).map core) := by
  refine (perm_core_applySpaceOrderPreference _ _).trans ?_
  rw [map_map]
  exact Perm.refl _

variable {spaces : List SpaceSummary} {rooms : List RoomSummary}

/-- The active space after an installation is one of the installed spaces. -/
theorem activeSpace_installed {authoritative : Bool} (ready : state.isSessionReady = true) {spaceId : String}
    (active : (Koushi.handleRoomListUpdatedWithCrawler state.core (spaces.map core)
    (rooms.map RoomSummary.core) authoritative authoritative).1.navigation.activeSpaceId = some spaceId) :
    spaceId ∈ keysBy SpaceSummary.spaceId (keptSpaces state spaces) := by
  have isReady : isSessionReady state.core = true := ready
  rw [Koushi.handleRoomListUpdatedWithCrawler, isReady, Bool.not_true, if_neg Bool.false_ne_true,
    Outcome.andThen_state] at active
  have keeps := resolveActiveRoom_keeps state.core.navigation.activeRoomId.isSome
    (closeVanishedSpace (installRoomList state.core (spaces.map core)
      (rooms.map RoomSummary.core) authoritative))
  have listed := closeVanishedSpace_activeSpaceListed spaceId (keeps.activeSpaceId.symm.trans active)
  have memberOf : ∀ (kept : List Koushi.SpaceSummary) (order : List String),
      hasKey Koushi.SpaceSummary.spaceId (Koushi.applySpaceOrderPreference kept order) spaceId = true ->
        spaceId ∈ keysBy Koushi.SpaceSummary.spaceId kept := by
    intro kept order has
    exact ((perm_insertionSort _ kept).map _).mem_iff.mp (hasKey_iff.mp has)
  have member : spaceId ∈ keysBy Koushi.SpaceSummary.spaceId
      (Koushi.keptSpaces state.core (spaces.map core)) := by
    apply memberOf _ _
    cases authoritative <;> exact listed
  have sameKept : Koushi.keptSpaces state.core (spaces.map core) =
      (keptSpaces state spaces).map core := by
    rw [Koushi.keptSpaces, keptSpaces, filter_map]
    rfl
  rwa [sameKept, keysBy_core_spaces] at member

theorem scoped_handleRoomListUpdatedWithCrawler (ready : state.isSessionReady = true) (authoritative : Bool)
    (agree : Agree (spaces.map SpaceSummary.core) (rooms.map RoomSummary.core))
    (distinctRooms : (keysBy RoomSummary.roomId rooms).Nodup)
    (distinctSpaces : (keysBy SpaceSummary.spaceId spaces).Nodup) :
    Scoped (handleRoomListUpdatedWithCrawler text state spaces rooms authoritative) := by
  obtain ⟨resolved, equation, installed⟩ :=
    handleRoomListUpdatedWithCrawler_of_ready text ready spaces rooms authoritative
  have spacesPerm : (resolved.spaces.map SpaceSummary.core).Perm
      ((keptSpaces state spaces).map SpaceSummary.core) := by
    rw [installed.spaces_eq]
    exact perm_core_installedSpaces spaces
  have spaceIds := perm_spaceIds spacesPerm
  have fits : Scoped resolved := by
    refine ⟨?_, ?_, ?_, ?_⟩
    · rw [installed.rooms_eq, map_core_installedRooms]
      apply agree.mono
      · exact fun space member =>
          (filter_sublist.map SpaceSummary.core).subset (spacesPerm.subset member)
      · exact (filter_sublist.map RoomSummary.core).subset
    · intro spaceId active
      have scope : resolved.navigation.activeSpaceId = _ :=
        congrArg Koushi.NavigationState.activeSpaceId installed.navigation
      exact spaceIds.mem_iff.mpr (activeSpace_installed ready (scope.symm.trans active))
    · rw [installed.rooms_eq]
      exact nodup_installedRooms distinctRooms
    · exact spaceIds.nodup_iff.mpr (distinctSpaces.sublist (filter_sublist.map _))
  rw [equation]
  exact { fits with }

/-! ## Merged lists -/

theorem mem_mergedSpaces (distinct : (keysBy SpaceSummary.spaceId state.spaces).Nodup)
    {space : SpaceSummary} (member : space ∈ mergedSpaces state spaces) :
    space ∈ spaces ∨ space ∈ state.spaces ∧ space.spaceId ∉ keysBy SpaceSummary.spaceId spaces :=
  mem_foldl_write nodup_keysBy_upsertBy mem_upsertBy distinct member

theorem mem_mergedRooms (distinct : (keysBy RoomSummary.roomId state.rooms).Nodup) {room : RoomSummary}
    (member : room ∈ mergedRooms state spaces rooms) :
    room ∈ rooms ∨ room ∈ state.rooms ∧ room.roomId ∉ keysBy RoomSummary.roomId rooms := by
  have kept : (keysBy RoomSummary.roomId
      (state.rooms.filter (fun room => !hasKey SpaceSummary.spaceId spaces room.roomId))).Nodup :=
    distinct.sublist (filter_sublist.map _)
  have writes : ∀ {merged : List RoomSummary} {room other : RoomSummary},
      (keysBy RoomSummary.roomId merged).Nodup -> other ∈ mergeRoom spaces merged room ->
        other = room ∨ other ∈ merged ∧ other.roomId ≠ room.roomId := by
    intro merged room other distinct written
    unfold mergeRoom at written
    split at written
    · have both := mem_filter.mp written
      exact .inr ⟨both.1, of_decide_eq_true both.2⟩
    · exact mem_upsertBy distinct written
  rcases mem_foldl_write (nodup_mergeRoom _) writes kept member with fresh | ⟨before, absent⟩
  · exact .inl fresh
  · exact .inr ⟨(mem_filter.mp before).1, absent⟩

/-- What a merge keeps agrees with what it brings. -/
def agreesAcross (state : AppState) (snapshot : RoomListSnapshot) : Prop :=
  Agree ((state.spaces.filter (fun space =>
      !hasKey SpaceSummary.spaceId snapshot.spaces space.spaceId)).map SpaceSummary.core)
    (snapshot.rooms.map RoomSummary.core) ∧
  Agree (snapshot.spaces.map SpaceSummary.core)
    ((state.rooms.filter (fun room =>
      !hasKey RoomSummary.roomId snapshot.rooms room.roomId)).map RoomSummary.core)

theorem agree_merged (fits : Scoped state) {snapshot : RoomListSnapshot}
    (fresh : Agree (snapshot.spaces.map core) (snapshot.rooms.map RoomSummary.core))
    (across : agreesAcross state snapshot) : Agree ((mergedSpaces state snapshot.spaces).map core)
      ((mergedRooms state spaces snapshot.rooms).map RoomSummary.core) := by
  intro coreSpace spaceIn coreRoom roomIn
  obtain ⟨space, space_in, rfl⟩ := mem_map.mp spaceIn
  obtain ⟨room, room_in, rfl⟩ := mem_map.mp roomIn
  rcases mem_mergedSpaces fits.distinctSpaces space_in with newSpace | ⟨oldSpace, absentSpace⟩
  · rcases mem_mergedRooms fits.distinctRooms room_in with newRoom | ⟨oldRoom, absentRoom⟩
    · exact fresh _ (mem_map_of_mem newSpace) _ (mem_map_of_mem newRoom)
    · refine across.2 _ (mem_map_of_mem newSpace) _ (mem_map_of_mem ?_)
      refine mem_filter.mpr ⟨oldRoom, ?_⟩
      rw [Bool.not_eq_true', ← Bool.not_eq_true, hasKey_iff]
      exact absentRoom
  · rcases mem_mergedRooms fits.distinctRooms room_in with newRoom | ⟨oldRoom, absentRoom⟩
    · refine across.1 _ (mem_map_of_mem ?_) _ (mem_map_of_mem newRoom)
      refine mem_filter.mpr ⟨oldSpace, ?_⟩
      rw [Bool.not_eq_true', ← Bool.not_eq_true, hasKey_iff]
      exact absentSpace
    · exact fits.agree _ (mem_map_of_mem oldSpace) _ (mem_map_of_mem oldRoom)

/-- The lists are the summaries of one snapshot of the service. -/
def Normalized (text : TextRules) (spaces : List SpaceSummary) (rooms : List RoomSummary) : Prop :=
  ∃ (snapshot : MatrixRoomListSnapshot) (previousRooms : List RoomSummary),
    (keysBy MatrixRoomListSpace.spaceId snapshot.spaces).Nodup ∧
    (keysBy MatrixRoomListRoom.roomId snapshot.rooms).Nodup ∧
    spaces = normalizeSpaces snapshot ∧ rooms = normalizeRoomsWithPrevious text snapshot previousRooms

theorem Normalized.facts (normalized : Normalized text spaces rooms) :
    Agree (spaces.map core) (rooms.map RoomSummary.core) ∧
      (keysBy RoomSummary.roomId rooms).Nodup ∧ (keysBy SpaceSummary.spaceId spaces).Nodup := by
  obtain ⟨snapshot, previousRooms, distinctSpaces, distinctRooms, rfl, rfl⟩ := normalized
  refine ⟨agree_normalized distinctSpaces distinctRooms, ?_, ?_⟩
  · rw [keysBy_normalizeRooms]
    exact distinctRooms
  · rw [keysBy_normalizeSpaces]
    exact distinctSpaces

/-- The lists of an update come from the service, and a merge agrees with what it
keeps. -/
def RoomListUpdate.keepsScope (text : TextRules) (state : AppState) : RoomListUpdate -> Prop
  | .updated spaces rooms => Normalized text spaces rooms
  | .provisional snapshot => Normalized text snapshot.spaces snapshot.rooms ∧ agreesAcross state snapshot
  | .authoritative snapshot => Normalized text snapshot.spaces snapshot.rooms

theorem Scoped.install (fits : Scoped state) {update : RoomListUpdate}
    (kept : update.isIgnored state = false -> update.keepsScope text state) :
    Scoped (update.install text state) := by
  cases ignored : update.isIgnored state with
  | true =>
    rw [install_of_ignored ignored]
    exact fits
  | false =>
    have ready : (update.base state).isSessionReady = true := by
      rw [isSessionReady_base]
      exact ready_of_accepted ignored
    have kept := kept ignored
    rw [install_of_accepted ignored]
    cases update with
    | updated | authoritative =>
      obtain ⟨agree, distinctRooms, distinctSpaces⟩ := Normalized.facts kept
      exact scoped_handleRoomListUpdatedWithCrawler ready _ agree distinctRooms distinctSpaces
    | provisional snapshot =>
      obtain ⟨agree, -, -⟩ := Normalized.facts kept.1
      exact scoped_handleRoomListUpdatedWithCrawler ready _ (agree_merged fits agree kept.2)
        (nodup_mergedRooms fits.distinctRooms)
        (nodup_keysBy_mergeBy snapshot.spaces fits.distinctSpaces)

theorem Scoped.handleRoomLeftLocally (fits : Scoped state) (roomId : String) :
    Scoped (handleRoomLeftLocally text state roomId) := by
  unfold Rooms.handleRoomLeftLocally
  dsimp only
  split
  · exact fits
  next accepted =>
  rw [Bool.or_eq_true, not_or, Bool.not_eq_true', Bool.not_eq_false] at accepted
  refine Scoped.frame (scoped_handleRoomListUpdatedWithCrawler ?_ false ?_ ?_ ?_) ⟨rfl, .refl _, rfl⟩
  · exact accepted.1
  · exact fits.agree.mono (Subset.refl _) (filter_sublist.map RoomSummary.core).subset
  · exact fits.distinctRooms.sublist (filter_sublist.map _)
  · exact fits.distinctSpaces

end Installed

/-! ## Every step -/

section Steps

variable {text : TextRules} {state : AppState}

section

variable (fits : Scoped state)
include fits

theorem Scoped.changeRoomTags (roomId : String) (change : RoomTags -> RoomTags) :
    Scoped (changeRoomTags state roomId change) := by
  unfold Rooms.changeRoomTags
  split
  · exact fits
  split
  · exact fits
  split
  · exact fits
  · exact fits.modified rfl (fun _ => rfl) rfl rfl

theorem Scoped.changeProfile (profile : ProfileState) : Scoped (changeProfile text state profile) :=
  fits.rewritten rfl (core_refreshRoomDisplayProjection profile state.sessionUserId) rfl rfl

theorem Scoped.handleThreadUnreadObserved (roomId rootEventId : String) (unread highlight : Nat) :
    Scoped (handleThreadUnreadObserved text state roomId rootEventId unread highlight) := by
  unfold Rooms.handleThreadUnreadObserved
  dsimp only
  split
  · exact fits
  generalize (if ThreadRootAttention.isEmpty ⟨unread, highlight⟩ = true then
      NestedMap.removeAt state.threadUnread roomId rootEventId
    else NestedMap.insertAt state.threadUnread roomId rootEventId ⟨unread, highlight⟩) = threadUnread
  have sameCore : ∀ room, (applyRoomThreadBadgeTotals threadUnread room).core = room.core := fun _ => rfl
  split <;> exact fits.modified rfl sameCore rfl rfl

theorem Scoped.handleRoomNotificationModesObserved (generation : Nat)
    (source : RoomListSource) (modes : OrdMap String RoomNotificationMode) :
    Scoped (handleRoomNotificationModesObserved text state generation source modes) := by
  unfold Rooms.handleRoomNotificationModesObserved
  dsimp only
  split
  · exact fits
  · split <;> exact { fits with }

theorem Scoped.handleAvatarThumbnailUpdated (mxcUri : String) (thumbnail : AvatarThumbnailState) :
    Scoped (handleAvatarThumbnailUpdated text state mxcUri thumbnail) := by
  unfold Rooms.handleAvatarThumbnailUpdated
  dsimp only
  split
  · exact fits
  have rooms : (state.rooms.map (fun room =>
      { room with avatar := room.avatar.map (updateAvatarThumbnail mxcUri thumbnail) })).map
        RoomSummary.core = state.rooms.map RoomSummary.core := by
    rw [map_map]
    rfl
  have spaces : ((state.spaces.map (fun space =>
      { space with avatar := space.avatar.map (updateAvatarThumbnail mxcUri thumbnail) })).map
        core).Perm (state.spaces.map core) := by
    rw [map_map]
    exact Perm.refl _
  split <;> exact fits.frame ⟨rooms, spaces, rfl⟩

/-! ### Selection -/

theorem Scoped.handleSelectSpace (spaceId : Option String) :
    Scoped (handleSelectSpace text state spaceId) := by
  unfold Rooms.handleSelectSpace
  dsimp only
  split
  · exact fits
  next ready =>
  have ready : state.isSessionReady = true := by simpa using ready
  have joined : ∀ selected,
      (Koushi.handleSelectSpace state.core spaceId).1.navigation.activeSpaceId = some selected ->
        selected ∈ keysBy SpaceSummary.spaceId state.spaces := by
    intro selected active
    rw [activeSpaceId_handleSelectSpace ready] at active
    rw [← keysBy_core_spaces]
    exact hasKey_iff.mp (Option.filter_eq_some_iff.mp active).2
  split <;> exact fits.lists rfl (Perm.refl _) joined

/-- The scope in which a joined room opens is joined. -/
theorem Scoped.joined_scopeForRoom (room : Koushi.RoomSummary) {spaceId : String}
    (scope : scopeForRoom state.core room = some spaceId) :
    spaceId ∈ keysBy SpaceSummary.spaceId state.spaces := by
  unfold scopeForRoom at scope
  split at scope
  · exact fits.joined spaceId scope
  split at scope
  · exact fits.joined spaceId scope
  rw [← keysBy_core_spaces]
  exact hasKey_iff.mp (find?_some scope)

end

theorem find?_core {room : RoomSummary} {roomId : String} (found : findRoom state roomId = some room) :
    Koushi.findRoom state.core roomId = some room.core := by
  change (state.rooms.map RoomSummary.core).find? _ = _
  rw [find?_map]
  exact congrArg (Option.map RoomSummary.core) found

/-- What opening a room leaves: the lists, and the scope that its parents give. -/
theorem handleSelectRoom_lists (text : TextRules) {room : RoomSummary} {roomId : String}
    (ready : state.isSessionReady = true) (found : findRoom state roomId = some room) :
    (handleSelectRoom text state roomId).rooms = state.rooms ∧
      (handleSelectRoom text state roomId).spaces = state.spaces ∧
      (handleSelectRoom text state roomId).navigation.activeSpaceId =
        scopeForRoom state.core room.core := by
  have listed : roomExists state roomId = true := by
    rw [roomExists, hasKey_iff]
    have id := find?_some found
    exact mem_map.mpr ⟨room, mem_of_find?_eq_some found, of_decide_eq_true id⟩
  have scope := activeSpaceId_handleSelectRoom ready (find?_core found)
  unfold Rooms.handleSelectRoom
  dsimp only
  rw [ready, listed, Bool.not_true, Bool.or_false, if_neg Bool.false_ne_true]
  split <;> exact ⟨rfl, rfl, scope⟩

theorem Scoped.handleSelectRoom (fits : Scoped state) (roomId : String) :
    Scoped (handleSelectRoom text state roomId) := by
  cases ready : state.isSessionReady with
  | false =>
    rw [Rooms.handleSelectRoom, ready]
    exact fits
  | true =>
    cases found : findRoom state roomId with
    | none =>
      have absent : roomExists state roomId = false := by
        rw [roomExists, hasKey, any_eq_false]
        exact fun room listed => find?_eq_none.mp found room listed
      rw [Rooms.handleSelectRoom, absent, ready]
      exact fits
    | some room =>
      obtain ⟨rooms, spaces, scope⟩ := handleSelectRoom_lists text ready found
      refine fits.lists (by rw [rooms]) (by rw [spaces]) ?_
      intro spaceId active
      exact fits.joined_scopeForRoom room.core (scope.symm.trans active)

/-- A restored selection names a joined space. -/
def restoresJoinedSpace (state : AppState) (navigation : NavigationState) : Prop :=
  ∀ spaceId, navigation.activeSpaceId = some spaceId -> spaceId ∈ keysBy SpaceSummary.spaceId state.spaces

theorem Scoped.handleNavigationLoaded (fits : Scoped state) {navigation : NavigationState}
    (joined : restoresJoinedSpace state navigation) :
    Scoped (handleNavigationLoaded text state navigation) := by
  unfold Rooms.handleNavigationLoaded
  dsimp only
  split
  · exact fits
  next ready =>
  have ready : state.isSessionReady = true := by simpa using ready
  have scope : (Koushi.handleNavigationLoaded state.core navigation.toNavigationState).1.navigation.activeSpaceId
      = navigation.activeSpaceId := by
    rw [Koushi.handleNavigationLoaded, show isSessionReady state.core = true from ready]
    rfl
  have stays : ∀ spaceId,
      (Koushi.handleNavigationLoaded state.core navigation.toNavigationState).1.navigation.activeSpaceId =
        some spaceId -> spaceId ∈ keysBy SpaceSummary.spaceId state.spaces :=
    fun spaceId active => joined spaceId (scope.symm.trans active)
  split <;> exact fits.lists rfl (perm_core_applySpaceOrderPreference _ _) stays

theorem Scoped.setSpaceOrder (fits : Scoped state) (spaceOrder : List String) :
    Scoped (setSpaceOrder state spaceOrder) :=
  fits.frame ⟨rfl, perm_core_applySpaceOrderPreference _ _, rfl⟩

theorem Scoped.handleDirectoryJoinSucceeded (fits : Scoped state) (requestId : Nat) (roomId : String) :
    Scoped (handleDirectoryJoinSucceeded state requestId roomId) := by
  unfold Rooms.handleDirectoryJoinSucceeded
  split
  · exact fits
  next joining =>
  have isJoin : isJoining state.core requestId = true := by simpa using joining
  have scope : (Koushi.handleDirectoryJoinSucceeded state.core requestId roomId).1.navigation.activeSpaceId
      = none := by
    rw [Koushi.handleDirectoryJoinSucceeded, isJoin]
    rfl
  refine fits.lists rfl (Perm.refl _) ?_
  intro spaceId active
  cases scope.symm.trans active

/-! ### Links -/

/-- The linked room, if it is joined, names the space already. -/
def linkIsNamed (state : AppState) (requestId : Nat) (spaceId childRoomId : String)
    (outcome : SpaceChildLinkOutcome) : Prop :=
  state.basicOperation.requestId = some requestId -> outcome = .linked ->
    ∀ room ∈ state.rooms, room.roomId = childRoomId -> spaceId ∈ room.parentSpaceIds

theorem mem_childRoomIds_withChild {space : SpaceSummary} {childRoomId roomId : String} :
    roomId ∈ (space.withChild childRoomId).childRoomIds ↔
      roomId ∈ space.childRoomIds ∨ roomId = childRoomId := by
  simp only [withChild]
  split
  · next present =>
    refine ⟨Or.inl, ?_⟩
    rintro (listed | rfl)
    · exact listed
    · exact contains_iff_mem.mp present
  · rw [(perm_insertionSort _ _).mem_iff, mem_append, mem_singleton]

theorem Scoped.handleSpaceChildLinkSettled (fits : Scoped state) {requestId : Nat}
    {spaceId childRoomId : String} {outcome : SpaceChildLinkOutcome}
    (named : linkIsNamed state requestId spaceId childRoomId outcome) :
    Scoped (handleSpaceChildLinkSettled state requestId spaceId childRoomId outcome) := by
  unfold Rooms.handleSpaceChildLinkSettled
  split
  · exact fits
  next current =>
  by_cases linked : outcome = .linked
  · have named := named (not_not.mp current) linked
    have sameIds : keysBy SpaceSummary.spaceId (modifyBy SpaceSummary.spaceId spaceId
        (fun space => space.withChild childRoomId) state.spaces) =
        keysBy SpaceSummary.spaceId state.spaces := by
      apply map_modifyBy
      exact fun _ _ => rfl
    rw [if_pos linked]
    refine ⟨?_, ?_, fits.distinctRooms, ?_⟩
    · intro coreSpace spaceIn coreRoom roomIn
      obtain ⟨space, listed, rfl⟩ := mem_map.mp spaceIn
      rcases mem_modifyBy listed with unchanged | ⟨old, oldIn, sameId, rfl⟩
      · exact fits.agree _ (mem_map_of_mem unchanged) coreRoom roomIn
      · have before := fits.agree old.core (mem_map_of_mem oldIn) coreRoom roomIn
        obtain ⟨room, room_in, rfl⟩ := mem_map.mp roomIn
        change old.spaceId ∈ room.parentSpaceIds ↔
          room.roomId ∈ (old.withChild childRoomId).childRoomIds
        rw [mem_childRoomIds_withChild]
        refine ⟨fun names => Or.inl (before.mp names), ?_⟩
        rintro (listed | isChild)
        · exact before.mpr listed
        · rw [sameId]
          exact named room room_in isChild
    · intro activeId active
      rw [sameIds]
      exact fits.joined activeId active
    · rw [sameIds]
      exact fits.distinctSpaces
  · rw [if_neg linked]
    exact { fits with }

/-! ### The condition -/

/-- When an action keeps the two relations together.  Every other action does. -/
def keepsScope (text : TextRules) (state : AppState) : AppAction -> Prop
  | .roomListInstalled update => update.isIgnored state = false -> update.keepsScope text state
  | .navigationLoaded navigation => restoresJoinedSpace state navigation
  | .spaceChildLinkSettled requestId spaceId childRoomId outcome =>
    linkIsNamed state requestId spaceId childRoomId outcome
  | _ => True

theorem scoped_empty (settings : SettingsValues) (session : SessionState) :
    Scoped (AppState.empty settings session) := by
  refine ⟨fun _ spaceIn => absurd spaceIn not_mem_nil, ?_, nodup_nil, nodup_nil⟩
  intro spaceId active
  cases active

theorem scoped_step {action : AppAction} (kept : keepsScope text state action) (fits : Scoped state) :
    Scoped (step text state action) := by
  cases action with
  | sessionViewsCleared next => exact { scoped_empty state.settings next with }
  | appStateReset => exact scoped_empty state.settings .signedOut
  | roomListInstalled => exact fits.install kept
  | roomLeftLocally => exact fits.handleRoomLeftLocally _
  | roomActivityLoaded activity =>
    simp only [step, handleRoomActivityLoaded]
    split
    · exact fits.rewritten rfl (core_mergeInto activity) rfl rfl
    · exact { fits with }
  | roomTagsUpdated | roomTagSet | roomTagRemoved =>
    simp only [step, handleRoomTagsUpdated, handleRoomTagSet, handleRoomTagRemoved]
    exact fits.changeRoomTags _ _
  | roomMarkedAsReadSucceeded roomId =>
    simp only [step, handleRoomMarkedAsReadSucceeded]
    split
    · exact fits
    split
    · exact fits
    · exact fits.modified rfl (fun _ => rfl) rfl rfl
  | roomMarkedAsUnreadSucceeded roomId unread =>
    simp only [step, handleRoomMarkedAsUnreadSucceeded]
    split
    · exact fits
    · exact fits.modified rfl (fun _ => rfl) rfl rfl
  | threadUnreadObserved => exact fits.handleThreadUnreadObserved ..
  | roomNotificationModesObserved => exact fits.handleRoomNotificationModesObserved ..
  | roomNotificationModeConfirmed requestId roomId mode =>
    simp only [step, handleRoomNotificationModeConfirmed]
    split
    · exact fits
    refine (Scoped.handleRoomNotificationModesObserved ?_ _ _ _).frame ⟨rfl, .refl _, rfl⟩
    exact { fits with }
  | selectSpace => exact fits.handleSelectSpace _
  | selectRoom => exact fits.handleSelectRoom _
  | navigationLoaded => exact fits.handleNavigationLoaded kept
  | reorderSpaces | spaceOrderPreferenceRemoved =>
    simp only [step, handleReorderSpaces, handleSpaceOrderPreferenceRemoved]
    split
    · exact fits
    split
    · exact fits
    · exact fits.setSpaceOrder _
  | directoryJoinSucceeded => exact fits.handleDirectoryJoinSucceeded ..
  | spaceChildLinkSettled => exact fits.handleSpaceChildLinkSettled kept
  | ownProfileUpdated | userProfilesUpdated | localUserAliasesLoaded | localUserAliasUpdateRequested
  | profileUpdateSucceeded =>
    simp only [step, handleOwnProfileUpdated, handleUserProfilesUpdated, handleLocalUserAliasesLoaded,
      handleLocalUserAliasUpdateRequested, handleProfileUpdateSucceeded]
    split
    · exact fits
    · exact fits.changeProfile _
  | avatarThumbnailUpdated => exact fits.handleAvatarThumbnailUpdated ..
  | sessionStepped | roomJoinedLocally | settingsLoaded | directoryJoinRequested | directoryJoinFailed
  | othersChanged => exact { fits with }
  | roomListBootstrapStarted | roomListBootstrapFailed | roomListFilterSelected | inviteListUpdated
  | roomPreferencesLoaded | roomNotificationModeSet | roomNotificationModeCompleted
  | roomNotificationModeFailed | roomNotificationPolicySynced | accountSettingsLoaded
  | appSettingsSynchronized | settingsUpdateRequested | localUserAliasUpdateSettled | profileUpdateRequested
  | profileUpdateFailed | ignoredUsersLoaded | ignoredUserUpdateRequested | ignoredUserUpdateSucceeded
  | ignoredUserUpdateFailed | nativeWindowFocusChanged =>
    -- These touch neither a list nor the scope, in whichever branch they end.
    simp only [step, handleRoomListBootstrapStarted, handleRoomListBootstrapFailed,
      handleRoomListFilterSelected, handleInviteListUpdated, handleRoomPreferencesLoaded,
      handleRoomNotificationModeSet, handleRoomNotificationModeCompleted, handleRoomNotificationModeFailed,
      handleRoomNotificationPolicySynced, handleAccountSettingsLoaded, handleAppSettingsSynchronized,
      handleSettingsUpdateRequested, handleLocalUserAliasUpdateSettled, handleProfileUpdateRequested,
      handleProfileUpdateFailed, handleIgnoredUsersLoaded, handleIgnoredUserUpdateRequested,
      handleIgnoredUserUpdateSucceeded, handleIgnoredUserUpdateFailed, handleNativeWindowFocusChanged,
      recomputeIfInvitesShown]
    (repeat' split) <;> exact { fits with }

end Steps

end Koushi.Rooms
