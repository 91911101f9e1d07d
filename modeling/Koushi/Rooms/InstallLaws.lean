import Koushi.Rooms.Install

namespace Koushi.Rooms

open Collections RoomActivityState List

/-!
# What an installed list is

The passes over the rooms of a list are one function of a room, `installRoom`, and
none of them touches what the reducer model has of a room.  The rest of this module
says what an installation leaves in each slice of the state, so that no later proof
unfolds it.
-/

section Text

variable (text : TextRules)

/-! ## One room -/

variable (state : AppState) (room : RoomSummary)

/-- The counts of a room with what a local read has cleared taken out. -/
def withoutStaleUnread : RoomSummary :=
  if isStaleUnread state room then clearUnreadMetrics room else room

/-- What becomes of one room of a list.  The state is the one whose memory has been
pruned already. -/
def installRoom : RoomSummary :=
  let room := preserveRoomAvatarThumbnail (collectKnownAvatarThumbnails state false) room
  let room := applyRoomThreadBadgeTotals state.threadUnread (withoutStaleUnread state room)
  RoomActivityState.mergeInto state.roomActivity
    (refreshRoomDisplayProjection text state.profile state.sessionUserId room)

theorem installedRooms_eq_map (rooms : List RoomSummary) (authoritative : Bool) :
    installedRooms text state rooms authoritative =
      (keptRooms state rooms).map (installRoom text (retainRoomMemory state rooms authoritative)) := by
  simp only [installedRooms, suppressStaleUnreadAfterLocalRead, applyThreadBadgeTotals,
    refreshRoomSummaryDisplayProjection, mergeIntoRooms, map_map]
  rfl

variable {text}

@[simp] theorem core_withoutStaleUnread : (withoutStaleUnread state room).core = room.core := by
  unfold withoutStaleUnread
  split <;> rfl

@[simp] theorem core_refreshRoomDisplayProjection (profiles : ProfileState) (ownUserId : Option String)
    (room : RoomSummary) :
    (refreshRoomDisplayProjection text profiles ownUserId room).core = room.core := by
  unfold refreshRoomDisplayProjection
  split <;> rfl

@[simp] theorem core_mergeInto (remembered : RoomActivityState) (room : RoomSummary) :
    (mergeInto remembered room).core = room.core := by
  unfold mergeInto
  split <;> rfl

@[simp] theorem core_installRoom : (installRoom text state room).core = room.core := by
  rw [installRoom, core_mergeInto, core_refreshRoomDisplayProjection]
  exact core_withoutStaleUnread state _

@[simp] theorem roomId_installRoom : (installRoom text state room).roomId = room.roomId :=
  congrArg Koushi.RoomSummary.roomId (core_installRoom state room)

/-! ## The slices of the state -/

/-- What an installation has put in place when it computes the two values again, which
it does at its end. -/
structure Installed (text : TextRules) (state resolved : AppState) (spaces : List SpaceSummary)
    (rooms : List RoomSummary) (authoritative : Bool) : Prop where
  rooms_eq : resolved.rooms = installedRooms text state rooms authoritative
  spaces_eq : resolved.spaces = installedSpaces state spaces
  invites : resolved.invites = state.invites
  readActivity :
    resolved.locallyReadActivity = (retainRoomMemory state rooms authoritative).locallyReadActivity
  markers : resolved.fullyReadEventIds = state.fullyReadEventIds
  session : resolved.session = state.session
  roomList : resolved.roomList = state.roomList
  settings : resolved.settings = state.settings
  navigation : resolved.navigation.toNavigationState =
    (Koushi.handleRoomListUpdatedWithCrawler state.core (spaces.map SpaceSummary.core)
      (rooms.map RoomSummary.core) authoritative authoritative).1.navigation

theorem handleRoomListUpdatedWithCrawler_of_ready (text : TextRules) {state : AppState}
    (ready : state.isSessionReady = true) (spaces : List SpaceSummary) (rooms : List RoomSummary)
    (authoritative : Bool) : ∃ resolved : AppState,
      handleRoomListUpdatedWithCrawler text state spaces rooms authoritative =
        recomputeRoomListProjection text (recomputeNativeAttentionFromRooms resolved) ∧
      Installed text state resolved spaces rooms authoritative := by
  rw [handleRoomListUpdatedWithCrawler, ready, Bool.not_true, if_neg Bool.false_ne_true]
  refine ⟨_, rfl, ?_⟩
  split <;> exact ⟨rfl, rfl, rfl, rfl, rfl, rfl, rfl, rfl, rfl⟩

/-! ## The ids of the installed lists -/

variable {rooms : List RoomSummary} {roomId : String} {spaces : List SpaceSummary}

theorem mem_keysBy_installedRooms {state : AppState} {authoritative : Bool} :
    roomId ∈ keysBy RoomSummary.roomId (installedRooms text state rooms authoritative) ↔
      roomId ∈ keysBy RoomSummary.roomId rooms ∧ isLocallyLeft state roomId = false := by
  have kept : roomId ∈ keysBy RoomSummary.roomId (keptRooms state rooms) ↔ _ :=
    mem_keysBy_filter (fun id => !isLocallyLeft state id)
  rw [installedRooms_eq_map, keysBy, map_map]
  have sameId : RoomSummary.roomId ∘ installRoom text (retainRoomMemory state rooms authoritative) =
      RoomSummary.roomId := funext (roomId_installRoom _)
  rw [sameId, ← Bool.not_eq_true']
  exact kept

theorem mem_keysBy_installedSpaces {state : AppState} {spaceId : String} :
    spaceId ∈ keysBy SpaceSummary.spaceId (installedSpaces state spaces) ↔
      spaceId ∈ keysBy SpaceSummary.spaceId spaces ∧ isLocallyLeft state spaceId = false := by
  have kept : spaceId ∈ keysBy SpaceSummary.spaceId (keptSpaces state spaces) ↔ _ :=
    mem_keysBy_filter (fun id => !isLocallyLeft state id)
  have sorted : ∀ (unsorted : List SpaceSummary) (order : List String),
      (keysBy SpaceSummary.spaceId (applySpaceOrderPreference unsorted order)).Perm
        (keysBy SpaceSummary.spaceId unsorted) :=
    fun unsorted _ => (perm_insertionSort _ unsorted).map _
  rw [installedSpaces, (sorted _ _).mem_iff, keysBy, map_map, ← Bool.not_eq_true']
  exact kept

/-! ## The three lists of the service -/

namespace RoomListUpdate

/-- The state that an update installs its lists into. -/
def base : RoomListUpdate -> AppState
  | updated _ _ =>
    { state with
      roomList.readiness :=
        if state.roomList.readiness = .uninitialized then RoomListReadiness.ready .cache 0
        else state.roomList.readiness }
  | provisional snapshot =>
    { state with
      invites := mergedInvites state (preserveKnownInviteAvatarThumbnails state snapshot.invites) }
  | authoritative snapshot =>
    { state with
      roomList.readiness := .ready snapshot.source snapshot.generation
      invites := preserveKnownInviteAvatarThumbnails state snapshot.invites }

def spacesIn : RoomListUpdate -> List SpaceSummary
  | updated spaces _ => spaces
  | provisional snapshot => mergedSpaces state snapshot.spaces
  | authoritative snapshot => snapshot.spaces

def roomsIn : RoomListUpdate -> List RoomSummary
  | updated _ rooms => rooms
  | provisional snapshot => mergedRooms state (mergedSpaces state snapshot.spaces) snapshot.rooms
  | authoritative snapshot => snapshot.rooms

def isAuthoritative : RoomListUpdate -> Bool
  | provisional _ => false
  | _ => true

variable {state : AppState} {update : RoomListUpdate}

theorem install_eq : update.install text state = if update.isIgnored state then state
    else handleRoomListUpdatedWithCrawler text (update.base state) (update.spacesIn state)
      (update.roomsIn state) update.isAuthoritative := by
  cases update with
  | updated spaces rooms | provisional snapshot | authoritative snapshot => rfl

theorem install_of_accepted (accepted : update.isIgnored state = false) : update.install text state =
      handleRoomListUpdatedWithCrawler text (update.base state) (update.spacesIn state)
        (update.roomsIn state) update.isAuthoritative := by
  rw [install_eq, accepted]
  exact if_neg Bool.false_ne_true

theorem install_of_ignored (ignored : update.isIgnored state = true) :
    update.install text state = state := by
  rw [install_eq, if_pos ignored]

theorem ready_of_accepted (accepted : update.isIgnored state = false) : state.isSessionReady = true := by
  cases update with
  | updated spaces rooms => simpa [isIgnored] using accepted
  | provisional snapshot =>
    simp only [isIgnored, provisionalIsIgnored, Bool.or_eq_false_iff] at accepted
    simpa using accepted.1.1
  | authoritative snapshot =>
    simp only [isIgnored, authoritativeIsIgnored, Bool.or_eq_false_iff] at accepted
    simpa using accepted.1

/-- An update changes of the state only the invites and the readiness before it
installs its lists. -/
theorem base_frame (update : RoomListUpdate) (state : AppState) :
    (update.base state).rooms = state.rooms ∧ (update.base state).spaces = state.spaces ∧
      (update.base state).session = state.session ∧
      (update.base state).roomActivity = state.roomActivity ∧
      (update.base state).locallyReadActivity = state.locallyReadActivity ∧
      (update.base state).fullyReadEventIds = state.fullyReadEventIds ∧
      (update.base state).roomList.locallyLeftRoomIds = state.roomList.locallyLeftRoomIds ∧
      (update.base state).navigation = state.navigation := by
  cases update <;> exact ⟨rfl, rfl, rfl, rfl, rfl, rfl, rfl, rfl⟩

theorem isSessionReady_base : (update.base state).isSessionReady = state.isSessionReady := by
  cases update <;> rfl

theorem isLocallyLeft_base : isLocallyLeft (update.base state) roomId = isLocallyLeft state roomId := by
  cases update <;> rfl

end RoomListUpdate

/-! ## The rooms of a provisional merge -/

theorem mem_keysBy_mergeRoom {merged : List RoomSummary} {room : RoomSummary}
    (noSpace : ∀ id ∈ keysBy RoomSummary.roomId merged, hasKey SpaceSummary.spaceId spaces id = false)
    (listed : roomId ∈ keysBy RoomSummary.roomId (mergeRoom spaces merged room)) :
    hasKey SpaceSummary.spaceId spaces roomId = false := by
  unfold mergeRoom at listed
  split at listed
  · exact noSpace roomId ((mem_keysBy_filter (fun id => decide (id ≠ room.roomId))).mp listed).1
  · next isRoom =>
    rcases mem_keysBy_upsertBy.mp listed with rfl | before
    · exact Bool.eq_false_iff.mpr isRoom
    · exact noSpace roomId before

/-- An id that is a space is no room after a merge. -/
theorem noSpace_mergedRooms {state : AppState}
    (listed : roomId ∈ keysBy RoomSummary.roomId (mergedRooms state spaces rooms)) :
    hasKey SpaceSummary.spaceId spaces roomId = false := by
  have start : ∀ id ∈ keysBy RoomSummary.roomId
      (state.rooms.filter (fun room => !hasKey SpaceSummary.spaceId spaces room.roomId)),
      hasKey SpaceSummary.spaceId spaces id = false := by
    intro id member
    have kept := (mem_keysBy_filter (fun id => !hasKey SpaceSummary.spaceId spaces id)).mp member
    rw [← Bool.not_eq_true']
    exact kept.2
  have merge := foldlRecOn (motive := fun merged => ∀ id ∈ keysBy RoomSummary.roomId merged,
      hasKey SpaceSummary.spaceId spaces id = false) rooms (mergeRoom spaces) start
    (fun _ noSpace _ _ _ member => mem_keysBy_mergeRoom noSpace member)
  exact merge roomId listed

/-- A merge leaves the rooms that the snapshot does not have. -/
theorem find?_foldl_mergeRoom_of_absent
    (updates merged : List RoomSummary) (absent : roomId ∉ keysBy RoomSummary.roomId updates) :
    (updates.foldl (mergeRoom spaces) merged).find? (fun room => room.roomId = roomId) =
      merged.find? (fun room => room.roomId = roomId) := by
  induction updates generalizing merged with
  | nil => rfl
  | cons room rest ih =>
    simp only [keysBy, map_cons, mem_cons, not_or] at absent
    rw [foldl_cons, ih _ absent.2]
    unfold mergeRoom
    split
    · exact find?_filter_of_kept (fun id => decide (id ≠ room.roomId)) (decide_eq_true absent.1)
    · rw [find?_upsertBy, if_neg (fun same => absent.1 same.symm)]

/-- A merge finds a room of the snapshot as the snapshot has it. -/
theorem find?_mergedRooms {state : AppState}
    {room : RoomSummary} (distinct : (keysBy RoomSummary.roomId rooms).Nodup) (listed : room ∈ rooms)
    (noSpace : hasKey SpaceSummary.spaceId spaces room.roomId = false) :
    (mergedRooms state spaces rooms).find? (fun other => other.roomId = room.roomId) = some room := by
  rw [mergedRooms]
  generalize state.rooms.filter _ = merged
  induction rooms generalizing merged with
  | nil => cases listed
  | cons head rest ih =>
    simp only [keysBy, map_cons, nodup_cons] at distinct
    rcases mem_cons.mp listed with rfl | later
    · rw [foldl_cons, find?_foldl_mergeRoom_of_absent rest _ distinct.1, mergeRoom,
        if_neg (Bool.eq_false_iff.mp noSpace), find?_upsertBy, if_pos rfl]
    · exact ih distinct.2 later _

end Text

end Koushi.Rooms
