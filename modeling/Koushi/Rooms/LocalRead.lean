import Koushi.Rooms.InstallLaws
import Koushi.Rooms.Handlers

namespace Koushi.Rooms

open Collections RoomActivityState RoomReadActivity RoomListUpdate Option

/-!
# A local read against a repeated list

Marking a room as read clears its counts at once.  A list that the service sent
before it knew of the read still has the old counts, and the installation
suppresses them as long as the list shows the activity that the read has cleared.

The activity is recorded from the installed room, with the remembered activity merged
into it, and it is compared with the room of the list, before the merge.  So the
suppression works exactly for the rooms whose remembered activity is not newer than
the list's.
-/

variable {text : TextRules}

/-! ## The counts and the fingerprint of an installed room -/

variable (state : AppState)

theorem isStaleUnread_avatar (known : OrdMap String AvatarThumbnailState) (room : RoomSummary) :
    isStaleUnread state (preserveRoomAvatarThumbnail known room) = isStaleUnread state room := rfl

theorem roomHasUnreadMetrics_refresh (profiles : ProfileState) (ownUserId : Option String)
    (room : RoomSummary) :
    roomHasUnreadMetrics (refreshRoomDisplayProjection text profiles ownUserId room) =
      roomHasUnreadMetrics room := by
  unfold refreshRoomDisplayProjection
  split <;> rfl

variable (remembered : RoomActivityState) (room : RoomSummary)

theorem roomHasUnreadMetrics_mergeInto :
    roomHasUnreadMetrics (mergeInto remembered room) = roomHasUnreadMetrics room := by
  unfold mergeInto
  split <;> rfl

/-- Only the suppression takes counts away. -/
theorem roomHasUnreadMetrics_installRoom : roomHasUnreadMetrics (installRoom text state room) =
      (roomHasUnreadMetrics room && !isStaleUnread state room) := by
  rw [installRoom, roomHasUnreadMetrics_mergeInto, roomHasUnreadMetrics_refresh]
  rw [withoutStaleUnread, isStaleUnread_avatar]
  cases isStaleUnread state room
  · rw [if_neg Bool.false_ne_true, Bool.not_false, Bool.and_true]
    rfl
  · rw [if_pos rfl, Bool.not_true, Bool.and_false]
    rfl

theorem conversationActivity_mergeInto : (mergeInto remembered room).conversationActivity =
      (newerThan remembered room).or room.conversationActivity := by
  unfold mergeInto
  split
  · next absent => rw [absent, none_or]
  · next activity found => rw [found, some_or]

/-- The merge changes the activity wherever it applies. -/
theorem merged_activity_eq_iff : (newerThan remembered room).or room.conversationActivity =
        room.conversationActivity ↔ newerThan remembered room = none := by
  cases newer : newerThan remembered room with
  | none => simp
  | some activity =>
    have later := (filter_eq_some_iff.mp newer).2
    simp only [some_or, reduceCtorEq, iff_false]
    intro same
    rw [← same] at later
    simp at later

/-- The fingerprint of an installed room: that of the listed room, but for the merged
activity. -/
theorem readActivity_installRoom : of (installRoom text state room) = { of room with
        conversationActivity :=
          (newerThan state.roomActivity room).or room.conversationActivity } := by
  have passed : ∀ room' : RoomSummary,
      (refreshRoomDisplayProjection text state.profile state.sessionUserId room').roomId = room'.roomId ∧
      of (refreshRoomDisplayProjection text state.profile state.sessionUserId room') =
        of room' := by
    intro room'
    unfold refreshRoomDisplayProjection
    split <;> exact ⟨rfl, rfl⟩
  have cleared : ∀ room' : RoomSummary, (withoutStaleUnread state room').roomId = room'.roomId ∧
      of (withoutStaleUnread state room') = of room' := by
    intro room'
    unfold withoutStaleUnread
    split <;> exact ⟨rfl, rfl⟩
  have merged : ∀ room' : RoomSummary, room'.roomId = room.roomId ->
      of room' = of room ->
      of (mergeInto state.roomActivity room') =
        { of room with
          conversationActivity :=
            (newerThan state.roomActivity room).or room.conversationActivity } := by
    intro room' sameId sameActivity
    have activity : room'.conversationActivity = room.conversationActivity :=
      congrArg conversationActivity sameActivity
    have newer : newerThan state.roomActivity room' =
        newerThan state.roomActivity room := by
      rw [newerThan, newerThan, sameId, activity]
    have kept : of (mergeInto state.roomActivity room') =
        { of room' with
          conversationActivity :=
            (mergeInto state.roomActivity room').conversationActivity } := by
      unfold mergeInto
      split <;> rfl
    rw [kept, conversationActivity_mergeInto, newer, activity, sameActivity]
  apply merged
  · exact (passed _).1.trans (cleared _).1
  · exact (passed _).2.trans (cleared (preserveRoomAvatarThumbnail _ room)).2

theorem readActivity_installRoom_eq_iff : of (installRoom text state room) = of room ↔
      newerThan state.roomActivity room = none := by
  rw [readActivity_installRoom, ← merged_activity_eq_iff]
  constructor
  · intro same
    exact congrArg conversationActivity same
  · intro same
    rw [same]
    rfl

/-! ## A room through an installation and a local read -/

variable {state : AppState} {roomId : String} {room : RoomSummary} {rooms : List RoomSummary}
  {update : RoomListUpdate}

theorem find?_keptRooms (notLeft : isLocallyLeft state roomId = false) :
    (keptRooms state rooms).find? (fun room => room.roomId = roomId) =
      rooms.find? (fun room => room.roomId = roomId) :=
  find?_filter_of_kept (fun id => !isLocallyLeft state id) (by rw [notLeft]; rfl)

/-- An installation finds a room of the list as `installRoom` makes it. -/
theorem findRoom_installed {spaces : List SpaceSummary}
    {authoritative : Bool} (ready : state.isSessionReady = true) (notLeft : isLocallyLeft state roomId = false)
    (found : rooms.find? (fun room => room.roomId = roomId) = some room) :
    findRoom (handleRoomListUpdatedWithCrawler text state spaces rooms authoritative) roomId =
      some (installRoom text (retainRoomMemory state rooms authoritative) room) := by
  obtain ⟨resolved, computed, installed⟩ :=
    handleRoomListUpdatedWithCrawler_of_ready text ready spaces rooms authoritative
  rw [computed]
  change resolved.rooms.find? _ = _
  rw [installed.rooms_eq, installedRooms_eq_map, find?_map_of_key (roomId_installRoom _), find?_keptRooms notLeft,
    found, map_some]

theorem keepsMemory_of_listed (notLeft : isLocallyLeft state roomId = false)
    (found : rooms.find? (fun room => room.roomId = roomId) = some room) (authoritative : Bool) :
    keepsMemory state rooms authoritative roomId = true := by
  have listed : roomId ∈ keysBy RoomSummary.roomId (keptRooms state rooms) := by
    have kept : (keptRooms state rooms).find? (fun room => room.roomId = roomId) = some room := by
      rw [find?_keptRooms notLeft, found]
    have sameId := List.find?_some kept
    simp only [decide_eq_true_eq] at sameId
    exact List.mem_map.mpr ⟨room, List.mem_of_find?_eq_some kept, sameId⟩
  cases authoritative
  · rw [keepsMemory, if_neg Bool.false_ne_true, notLeft]
    rfl
  · rw [keepsMemory, if_pos rfl, List.contains_iff_mem]
    exact listed

theorem hasSessionProjectionContext_of_ready (ready : state.isSessionReady = true) :
    state.hasSessionProjectionContext = true := by
  have core : Koushi.isSessionReady state.core = true := ready
  rw [AppState.hasSessionProjectionContext]
  simp only [Koushi.isSessionReady, AppState.core] at core
  split at core
  · next info isReady => rw [isReady]
  · cases core

/-- A room has been read here: it is in the list without counts, and its activity is
recorded. -/
structure ReadHere (state : AppState) (room : RoomSummary) : Prop where
  found : findRoom state room.roomId = some (clearUnreadMetrics room)
  recorded : state.locallyReadActivity[room.roomId]? = some (RoomReadActivity.of room)

theorem readHere_handleRoomMarkedAsReadSucceeded
    (ready : state.isSessionReady = true) (found : findRoom state room.roomId = some room) :
    ReadHere (handleRoomMarkedAsReadSucceeded text state room.roomId) room := by
  rw [handleRoomMarkedAsReadSucceeded, hasSessionProjectionContext_of_ready ready, Bool.not_true,
    if_neg Bool.false_ne_true, found]
  constructor
  · change (modifyBy RoomSummary.roomId room.roomId clearUnreadMetrics state.rooms).find? _ = _
    have kept : ∀ item : RoomSummary, (clearUnreadMetrics item).roomId = item.roomId := fun _ => rfl
    rw [find?_modifyBy kept, if_pos rfl]
    exact congrArg (Option.map clearUnreadMetrics) found
  · exact Std.ExtTreeMap.getElem?_insert_self

/-- A local read touches no other slice that an installation reads. -/
theorem handleRoomMarkedAsReadSucceeded_frame (text : TextRules) (state : AppState) (roomId : String) :
    (handleRoomMarkedAsReadSucceeded text state roomId).fullyReadEventIds = state.fullyReadEventIds ∧
      (handleRoomMarkedAsReadSucceeded text state roomId).roomList.locallyLeftRoomIds =
        state.roomList.locallyLeftRoomIds ∧
      (handleRoomMarkedAsReadSucceeded text state roomId).roomList.readiness = state.roomList.readiness ∧
      (handleRoomMarkedAsReadSucceeded text state roomId).session = state.session ∧
      (handleRoomMarkedAsReadSucceeded text state roomId).spaces = state.spaces := by
  unfold handleRoomMarkedAsReadSucceeded
  split
  · exact ⟨rfl, rfl, rfl, rfl, rfl⟩
  · split <;> exact ⟨rfl, rfl, rfl, rfl, rfl⟩

/-- A listed room that was read here is installed again without counts exactly if the
list shows the recorded activity. -/
theorem roomHasUnreadMetrics_repeated {authoritative : Bool}
    {room read : RoomSummary} (notLeft : isLocallyLeft state room.roomId = false)
    (found : rooms.find? (fun other => other.roomId = room.roomId) = some room)
    (unread : roomHasUnreadMetrics room = true) (marker : state.fullyReadEventIds.contains room.roomId = true)
    (sameId : read.roomId = room.roomId) (readHere : ReadHere state read) :
    roomHasUnreadMetrics (installRoom text (retainRoomMemory state rooms authoritative) room) = false ↔
      of read = of room := by
  have existing : findRoom (retainRoomMemory state rooms authoritative) room.roomId =
      some (clearUnreadMetrics read) := by
    rw [← sameId]
    exact readHere.found
  have recorded : (retainRoomMemory state rooms authoritative).locallyReadActivity[room.roomId]? =
      some (of read) := by
    change (state.locallyReadActivity.filter _)[room.roomId]? = _
    rw [OrdMap.getElem?_filter_key, keepsMemory_of_listed notLeft found, if_pos rfl, ← sameId]
    exact readHere.recorded
  have stale : isStaleUnread (retainRoomMemory state rooms authoritative) room =
      decide (of read = of room) := by
    rw [isStaleUnread, unread, existing, recorded]
    change (true && true && state.fullyReadEventIds.contains room.roomId && _) = _
    rw [marker]
    simp only [Bool.and_self, Bool.true_and, Option.some.injEq]
  rw [roomHasUnreadMetrics_installRoom, unread, stale]
  simp

/-! ## The same list again -/

/-- The state after a list, a local read of one of its rooms, and the same list again. -/
def repeatedAfterRead (text : TextRules) (state : AppState) (update : RoomListUpdate) (roomId : String) :
    AppState :=
  update.install text (handleRoomMarkedAsReadSucceeded text (update.install text state) roomId)

theorem isIgnored_again {state after : AppState}
    (accepted : update.isIgnored state = false) (session : after.session = state.session)
    (readiness : after.roomList.readiness = (update.base state).roomList.readiness) :
    update.isIgnored after = false := by
  have ready : after.isSessionReady = true := by
    rw [← ready_of_accepted accepted]
    simp only [AppState.isSessionReady, Koushi.isSessionReady, AppState.core, session]
  cases update with
  | updated spaces rooms => simp only [isIgnored, ready, Bool.not_true]
  | provisional snapshot =>
    simp only [isIgnored, provisionalIsIgnored, Bool.or_eq_false_iff] at accepted ⊢
    rw [readiness, ready]
    exact ⟨⟨rfl, accepted.1.2⟩, accepted.2⟩
  | authoritative snapshot =>
    simp only [isIgnored, authoritativeIsIgnored, readiness, ready]
    simp [base, roomListAuthoritativeMatchesCurrent]

/-- A room that is in the list after an update was neither left here nor taken for a
space, so the update hands it on as it came. -/
theorem find?_roomsIn (distinct : (keysBy RoomSummary.roomId update.rooms).Nodup) (listed : room ∈ update.rooms)
    (shown : room.roomId ∈ keysBy RoomSummary.roomId (update.roomsIn state)) :
    (update.roomsIn state).find? (fun other => other.roomId = room.roomId) = some room := by
  cases update with
  | updated | authoritative => exact find?_of_mem distinct listed
  | provisional => exact find?_mergedRooms distinct listed (noSpace_mergedRooms shown)

/-- A repeated provisional list merges into spaces that it has merged into before. -/
theorem shown_again {state after : AppState}
    (distinct : (keysBy RoomSummary.roomId update.rooms).Nodup) (listed : room ∈ update.rooms)
    (spaces : after.spaces = installedSpaces (update.base state) (update.spacesIn state))
    (shown : room.roomId ∈ keysBy RoomSummary.roomId (update.roomsIn state)) :
    (update.roomsIn after).find? (fun other => other.roomId = room.roomId) = some room := by
  cases update with
  | updated | authoritative => exact find?_of_mem distinct listed
  | provisional snapshot =>
    apply find?_mergedRooms distinct listed
    have before := noSpace_mergedRooms shown
    rw [Bool.eq_false_iff, Ne, hasKey_iff] at before ⊢
    intro isSpace
    apply before
    rcases mem_keysBy_mergeBy.mp isSpace with old | new
    · rw [spaces] at old
      exact (mem_keysBy_installedSpaces.mp old).1
    · exact mem_keysBy_mergeBy.mpr (Or.inr new)

/-- What the first installation of a list leaves for the second. -/
structure InstalledOnce (text : TextRules) (state after : AppState) (update : RoomListUpdate)
    (room : RoomSummary) : Prop where
  found : findRoom after room.roomId = some (installRoom text
    (retainRoomMemory (update.base state) (update.roomsIn state) update.isAuthoritative) room)
  inList : room.roomId ∈ keysBy RoomSummary.roomId (update.roomsIn state)
  notLeft : isLocallyLeft state room.roomId = false
  markers : after.fullyReadEventIds = state.fullyReadEventIds
  left : after.roomList.locallyLeftRoomIds = state.roomList.locallyLeftRoomIds
  readiness : after.roomList.readiness = (update.base state).roomList.readiness
  session : after.session = state.session
  spaces : after.spaces = installedSpaces (update.base state) (update.spacesIn state)

theorem installedOnce (accepted : update.isIgnored state = false)
    (distinct : (keysBy RoomSummary.roomId update.rooms).Nodup) (listed : room ∈ update.rooms)
    (shown : roomExists (update.install text state) room.roomId = true) :
    InstalledOnce text state (update.install text state) update room := by
  have ready : (update.base state).isSessionReady = true := by
    rw [isSessionReady_base]
    exact ready_of_accepted accepted
  obtain ⟨sameRooms, sameSpaces, session, activity, readActivity, markers, left, -⟩ :=
    update.base_frame state
  obtain ⟨resolved, computed, installed⟩ := handleRoomListUpdatedWithCrawler_of_ready text ready
    (update.spacesIn state) (update.roomsIn state) update.isAuthoritative
  rw [install_of_accepted accepted] at shown ⊢
  have inList : room.roomId ∈ keysBy RoomSummary.roomId (update.roomsIn state) ∧
      isLocallyLeft (update.base state) room.roomId = false := by
    rw [roomExists, computed] at shown
    change hasKey RoomSummary.roomId resolved.rooms room.roomId = true at shown
    rw [hasKey_iff, installed.rooms_eq] at shown
    exact mem_keysBy_installedRooms.mp shown
  refine ⟨?_, inList.1, ?_, ?_, ?_, ?_, ?_, ?_⟩
  · exact findRoom_installed ready inList.2 (find?_roomsIn distinct listed inList.1)
  · rw [← isLocallyLeft_base]
    exact inList.2
  · rw [computed, ← markers]
    exact installed.markers
  · rw [computed, ← left]
    exact congrArg (·.locallyLeftRoomIds) installed.roomList
  · rw [computed]
    exact congrArg (·.readiness) installed.roomList
  · rw [computed, ← session]
    exact installed.session
  · rw [computed]
    exact installed.spaces_eq

theorem isSessionReady_of_session {before after : AppState} (same : after.session = before.session) :
    after.isSessionReady = before.isSessionReady := by
  simp only [AppState.isSessionReady, Koushi.isSessionReady, AppState.core, same]

/-- A room that was read here stays read under the same list exactly if no activity was
remembered for it that is newer than the list's. -/
theorem read_survives_repeat_iff {state : AppState} {update : RoomListUpdate} {room : RoomSummary}
    (accepted : update.isIgnored state = false)
    (distinct : (keysBy RoomSummary.roomId update.rooms).Nodup) (listed : room ∈ update.rooms)
    (unread : roomHasUnreadMetrics room = true)
    (shown : roomExists (update.install text state) room.roomId = true)
    (marker : state.fullyReadEventIds.contains room.roomId = true) :
    ∃ again, findRoom (repeatedAfterRead text state update room.roomId) room.roomId = some again ∧
      (roomHasUnreadMetrics again = false ↔
        RoomActivityState.newerThan state.roomActivity room = none) := by
  have once : InstalledOnce text state _ update room := installedOnce accepted distinct listed shown
  -- The local read of the installed room.
  let read := installRoom text
    (retainRoomMemory (update.base state) (update.roomsIn state) update.isAuthoritative) room
  have sameId : read.roomId = room.roomId := roomId_installRoom _ room
  have readHere : ReadHere
      (handleRoomMarkedAsReadSucceeded text (update.install text state) room.roomId) read := by
    rw [← sameId]
    apply readHere_handleRoomMarkedAsReadSucceeded
    · rw [isSessionReady_of_session once.session]
      exact ready_of_accepted accepted
    · rw [sameId]
      exact once.found
  obtain ⟨markers, left, readiness, session, spaces⟩ :=
    handleRoomMarkedAsReadSucceeded_frame text (update.install text state) room.roomId
  -- The second installation starts from that state.
  have again : update.isIgnored
      (handleRoomMarkedAsReadSucceeded text (update.install text state) room.roomId) = false :=
    isIgnored_again accepted (session.trans once.session) (readiness.trans once.readiness)
  rw [repeatedAfterRead, install_of_accepted again]
  generalize handleRoomMarkedAsReadSucceeded text (update.install text state) room.roomId = after at *
  obtain ⟨baseRooms, -, -, -, baseRead, baseMarkers, -, -⟩ := update.base_frame after
  have found := shown_again distinct listed (spaces.trans once.spaces) once.inList
  have notLeft : isLocallyLeft (update.base after) room.roomId = false := by
    rw [isLocallyLeft_base, isLocallyLeft, left, once.left]
    exact once.notLeft
  have readyAgain : (update.base after).isSessionReady = true := by
    rw [isSessionReady_base]
    exact ready_of_accepted again
  refine ⟨_, findRoom_installed readyAgain notLeft found, ?_⟩
  have readInBase : ReadHere (update.base after) read := by
    constructor
    · rw [findRoom, baseRooms]
      exact readHere.found
    · rw [baseRead]
      exact readHere.recorded
  have markerAgain : (update.base after).fullyReadEventIds.contains room.roomId = true := by
    rw [baseMarkers, markers, once.markers]
    exact marker
  rw [roomHasUnreadMetrics_repeated notLeft found unread markerAgain sameId readInBase]
  have remembered : (update.base state).roomActivity = state.roomActivity := (update.base_frame state).2.2.2.1
  rw [← remembered]
  exact readActivity_installRoom_eq_iff
    (retainRoomMemory (update.base state) (update.roomsIn state) update.isAuthoritative) room

/-! ## An instance -/

/-- A ready session with a read marker, and what it remembers of the room. -/
def remembering (activity : RoomActivityState) : AppState :=
  { AppState.empty defaultSettings (.ready ⟨"https://example.invalid", "@me:example.invalid", "DEVICE"⟩) with
    roomActivity := activity
    fullyReadEventIds := (∅ : OrdMap String String).insert "!room" "$event" }

/-- One unread room whose newest event the list does not take for conversation. -/
def stickerRoom : RoomSummary := listedRoom "!room" 3 none

def stickerList : RoomListUpdate := .updated [] [stickerRoom]

theorem read_survives_repeat_unremembered :
    ∃ again, findRoom (repeatedAfterRead plainText (remembering ∅) stickerList stickerRoom.roomId)
        stickerRoom.roomId = some again ∧ (roomHasUnreadMetrics again = false ↔
        RoomActivityState.newerThan (remembering ∅).roomActivity stickerRoom = none) :=
  read_survives_repeat_iff (by decide +kernel) (by decide +kernel) (by decide +kernel)
    (by decide +kernel) (by decide +kernel) (by decide +kernel)

/-- A remembered message brings the counts back: the read records it, and the list does
not have it. -/
theorem repeat_resurrects_remembered_room :
    let state := remembering ((∅ : OrdMap String ConversationActivity).insert "!room" ⟨10, .message⟩)
    stickerList.isIgnored state = false ∧ roomHasUnreadMetrics stickerRoom = true ∧
      state.fullyReadEventIds.contains "!room" = true ∧
      (findRoom (handleRoomMarkedAsReadSucceeded plainText (stickerList.install plainText state) "!room")
        "!room").map (fun room => room.unreadCount) = some 0 ∧
      (findRoom (repeatedAfterRead plainText state stickerList "!room") "!room").map
        (fun room => room.unreadCount) = some 3 := by
  decide +kernel

end Koushi.Rooms
