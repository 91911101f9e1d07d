import Koushi.Reducer.RoomList

namespace Koushi

open Collections Option

/-!
# What a change of the active room can do

Selections and room-list updates move the active room through a handful of
helpers.  Whatever they do is one of three things: nothing, opening a listed room
in a pane read from the stores, or clearing the pane.  `PaneChange` says so, and
`KeepsLists` says what none of them touches.  The results about navigation,
submissions and composers are read off these two.
-/

/-- The slices that a change of the active room leaves alone. -/
structure KeepsLists (before after : AppState) : Prop where
  session : after.session = before.session
  activeSpaceId : after.navigation.activeSpaceId = before.navigation.activeSpaceId
  spaces : after.spaces = before.spaces
  rooms : after.rooms = before.rooms
  roomList : after.roomList = before.roomList
  composerDrafts : after.composerDrafts = before.composerDrafts
  scheduledSends : after.scheduledSends = before.scheduledSends
  uploadStaging : after.uploadStaging = before.uploadStaging
  mediaGallery : after.mediaGallery = before.mediaGallery

/-- How the active room and the two panes change. -/
inductive PaneChange (before after : AppState) : Prop where
  | kept (active : after.navigation.activeRoomId = before.navigation.activeRoomId)
      (timeline : after.timeline = before.timeline) (thread : after.thread = before.thread)
  | opened (roomId : String) (listed : roomExists before roomId = true)
      (active : after.navigation.activeRoomId = some roomId)
      (timeline : after.timeline = timelineForRoom before roomId)
      (thread : after.thread = .closed ∨
        before.navigation.activeRoomId = none ∧ after.thread = before.thread)
  | cleared (active : after.navigation.activeRoomId = none)
      (timeline : after.timeline = Inhabited.default) (thread : after.thread = .closed)

variable {state : AppState} {roomId : String}

theorem KeepsLists.refl : KeepsLists state state :=
  ⟨rfl, rfl, rfl, rfl, rfl, rfl, rfl, rfl, rfl⟩

theorem KeepsLists.trans {first second third : AppState} (left : KeepsLists first second)
    (right : KeepsLists second third) : KeepsLists first third where
  session := right.session.trans left.session
  activeSpaceId := right.activeSpaceId.trans left.activeSpaceId
  spaces := right.spaces.trans left.spaces
  rooms := right.rooms.trans left.rooms
  roomList := right.roomList.trans left.roomList
  composerDrafts := right.composerDrafts.trans left.composerDrafts
  scheduledSends := right.scheduledSends.trans left.scheduledSends
  uploadStaging := right.uploadStaging.trans left.uploadStaging
  mediaGallery := right.mediaGallery.trans left.mediaGallery

theorem KeepsLists.roomExists {before after : AppState} (keeps : KeepsLists before after)
    (roomId : String) : roomExists after roomId = roomExists before roomId := by
  simp only [Koushi.roomExists, keeps.rooms]

theorem KeepsLists.spaceExists {before after : AppState} (keeps : KeepsLists before after)
    (spaceId : String) : spaceExists after spaceId = spaceExists before spaceId := by
  simp only [Koushi.spaceExists, keeps.spaces]

theorem PaneChange.refl : PaneChange state state := .kept rfl rfl rfl

/-- Remembering the active room touches neither the lists nor the panes. -/
theorem rememberActiveRoomForCurrentSpace_keeps (state : AppState) :
    KeepsLists state (rememberActiveRoomForCurrentSpace state) := by
  unfold rememberActiveRoomForCurrentSpace
  dsimp only
  (repeat' split) <;> constructor <;> rfl

theorem rememberActiveRoomForCurrentSpace_kept (state : AppState) :
    (rememberActiveRoomForCurrentSpace state).navigation.activeRoomId = state.navigation.activeRoomId ∧
      (rememberActiveRoomForCurrentSpace state).timeline = state.timeline ∧
      (rememberActiveRoomForCurrentSpace state).thread = state.thread := by
  unfold rememberActiveRoomForCurrentSpace
  dsimp only
  (repeat' split) <;> exact ⟨rfl, rfl, rfl⟩

/-! ## The rooms that are picked are listed -/

theorem roomExists_of_roomBelongsToSpace {roomId spaceId : String}
    (belongs : roomBelongsToSpace state roomId spaceId = true) : roomExists state roomId = true := by
  unfold roomBelongsToSpace at belongs
  split at belongs
  · cases belongs
  · next found => exact roomExists_of_findRoom found

theorem roomExists_of_find? {accepts : RoomSummary -> Bool}
    (found : (state.rooms.find? accepts).map RoomSummary.roomId = some roomId) :
    roomExists state roomId = true := by
  rcases map_eq_some_iff.mp found with ⟨room, picked, rfl⟩
  simp only [roomExists, hasKey, List.any_eq_true, decide_eq_true_eq]
  exact ⟨room, List.mem_of_find?_eq_some picked, rfl⟩

theorem roomExists_of_firstRoomIdInSpace {spaceId roomId : String}
    (first : firstRoomIdInSpace state spaceId = some roomId) : roomExists state roomId = true := by
  unfold firstRoomIdInSpace at first
  split at first
  · cases first
  rcases List.exists_of_findSome?_eq_some first with ⟨childRoomId, _, found⟩
  exact roomExists_of_find? found

theorem roomExists_of_firstDefaultRoomId
    (first : firstDefaultRoomId state = some roomId) : roomExists state roomId = true := by
  unfold firstDefaultRoomId at first
  cases found : state.rooms.find? (fun room => !room.isDm) with
  | some room =>
    rw [found] at first
    exact roomExists_of_find? (by rw [found]; exact first)
  | none =>
    rw [found, none_or] at first
    rcases map_eq_some_iff.mp first with ⟨room, head, rfl⟩
    simp only [roomExists, hasKey, List.any_eq_true, decide_eq_true_eq]
    exact ⟨room, List.mem_of_head? head, rfl⟩

theorem roomExists_of_legacySelection {spaceId roomId : String}
    (selected : (legacySelectionInSpace state spaceId).roomId = some roomId) :
    roomExists state roomId = true := by
  unfold legacySelectionInSpace at selected
  split at selected
  · next remembered kept =>
    cases selected
    have belongs := (filter_eq_some_iff.mp kept).2
    exact roomExists_of_roomBelongsToSpace belongs
  · exact roomExists_of_firstRoomIdInSpace selected

theorem roomExists_of_preferredSelection {spaceId roomId : String}
    (selected : (preferredSelectionInSpace state spaceId).roomId = some roomId) :
    roomExists state roomId = true := by
  unfold preferredSelectionInSpace at selected
  split at selected
  · exact roomExists_of_legacySelection selected
  next selection _ =>
  split at selected
  · next valid =>
    rw [selected] at valid
    exact roomExists_of_roomBelongsToSpace valid
  · split at selected
    · exact roomExists_of_find? selected
    · exact roomExists_of_legacySelection selected

theorem roomExists_of_preferredRoomIdInActiveSpace
    (preferred : preferredRoomIdInActiveSpace state = some roomId) : roomExists state roomId = true := by
  rcases bind_eq_some_iff.mp preferred with ⟨spaceId, _, selected⟩
  exact roomExists_of_preferredSelection selected

theorem roomExists_of_nextRoomId (next : nextRoomId state = some roomId) : roomExists state roomId = true := by
  unfold nextRoomId at next
  split at next
  · exact roomExists_of_preferredRoomIdInActiveSpace next
  · exact roomExists_of_firstDefaultRoomId next

/-! ## The helpers -/

theorem selectActiveRoomAfterRoomListUpdate_change (listed : roomExists state roomId = true) :
    KeepsLists state (selectActiveRoomAfterRoomListUpdate state roomId).1 ∧
      PaneChange state (selectActiveRoomAfterRoomListUpdate state roomId).1 :=
  ⟨by constructor <;> rfl, .opened roomId listed rfl rfl (.inl rfl)⟩

theorem selectActiveRoomForNavigation_change (listed : roomExists state roomId = true) :
    PaneChange state (selectActiveRoomForNavigation state roomId).1 :=
  .opened roomId listed rfl rfl (.inl rfl)

theorem selectActiveRoomForNavigation_keeps :
    KeepsLists state (selectActiveRoomForNavigation state roomId).1 := by
  constructor <;> rfl

/-- One stage of a selection or of a room-list update. -/
def IsStage (stage : AppState -> Outcome) : Prop :=
  forall state, KeepsLists state (stage state).1 ∧ PaneChange state (stage state).1

theorem closeVanishedRoom_isStage : IsStage closeVanishedRoom := by
  intro state
  unfold closeVanishedRoom
  split
  · exact ⟨.refl, .refl⟩
  split
  · exact ⟨.refl, .refl⟩
  · exact ⟨by constructor <;> rfl, .cleared rfl rfl rfl⟩

theorem replaceVanishedRoom_isStage (hadActiveRoom : Bool) : IsStage (replaceVanishedRoom hadActiveRoom) := by
  intro state
  unfold replaceVanishedRoom
  split
  · split
    · next preferred =>
      exact selectActiveRoomAfterRoomListUpdate_change (roomExists_of_preferredRoomIdInActiveSpace preferred)
    · exact ⟨.refl, .refl⟩
  · exact ⟨.refl, .refl⟩

theorem followSelectedSpace_isStage : IsStage followSelectedSpace := by
  intro state
  unfold followSelectedSpace
  split
  · exact ⟨.refl, .refl⟩
  split
  · unfold retargetActiveRoomForSelectedSpace
    split
    · next first =>
      rcases bind_eq_some_iff.mp first with ⟨spaceId, _, found⟩
      exact selectActiveRoomAfterRoomListUpdate_change (roomExists_of_firstRoomIdInSpace found)
    · exact ⟨by constructor <;> rfl, .cleared rfl rfl rfl⟩
  · exact ⟨.refl, .refl⟩

theorem reopenActiveRoom_isStage : IsStage reopenActiveRoom := by
  intro state
  unfold reopenActiveRoom
  split
  · exact ⟨.refl, .refl⟩
  split
  · next hidden =>
    simp only [Bool.and_eq_true] at hidden
    exact selectActiveRoomAfterRoomListUpdate_change hidden.2
  · exact ⟨.refl, .refl⟩

theorem openDefaultRoom_isStage (hadActiveRoom : Bool) : IsStage (openDefaultRoom hadActiveRoom) := by
  intro state
  unfold openDefaultRoom
  split
  · next closed =>
    split
    · exact ⟨.refl, .refl⟩
    next roomId picked =>
    rw [Bool.and_eq_true] at closed
    exact ⟨by constructor <;> rfl, .opened roomId (roomExists_of_nextRoomId picked) rfl rfl
        (.inr ⟨isNone_iff_eq_none.mp closed.2, rfl⟩)⟩
  · exact ⟨.refl, .refl⟩

/-- The stages of `resolveActiveRoom`, in order. -/
theorem resolveActiveRoom_keeps (hadActiveRoom : Bool) (state : AppState) :
    KeepsLists state (resolveActiveRoom hadActiveRoom state).1 :=
  ((((closeVanishedRoom_isStage state).1.trans
    (replaceVanishedRoom_isStage hadActiveRoom _).1).trans
      (followSelectedSpace_isStage _).1).trans
        (reopenActiveRoom_isStage _).1).trans (openDefaultRoom_isStage hadActiveRoom _).1

/-! ## Handlers that install lists -/

/-- Such a handler does nothing, or it changes the status of the list and the invites and
then installs lists. -/
inductive ListChange (state : AppState) : AppState -> Prop
  | ignored : ListChange state state
  | installed (roomList : RoomListProjection) (invites : List InvitePreview) (spaces : List SpaceSummary)
      (rooms : List RoomSummary) (admitCrawler authoritative : Bool) :
      ListChange state (handleRoomListUpdatedWithCrawler { state with roomList, invites } spaces rooms
        admitCrawler authoritative).1

theorem handleRoomListUpdated_change (spaces : List SpaceSummary)
    (rooms : List RoomSummary) : ListChange state (handleRoomListUpdated state spaces rooms).1 := by
  unfold handleRoomListUpdated
  split
  · exact .ignored
  · exact .installed ..

variable {snapshot : RoomListSnapshot}

theorem handleRoomListSnapshotProvisional_change :
    ListChange state (handleRoomListSnapshotProvisional state snapshot).1 := by
  unfold handleRoomListSnapshotProvisional
  split
  · exact .ignored
  · exact .installed ..

theorem handleRoomListSnapshotAuthoritative_change :
    ListChange state (handleRoomListSnapshotAuthoritative state snapshot).1 := by
  unfold handleRoomListSnapshotAuthoritative
  split
  · exact .ignored
  · exact .installed ..

theorem handleRoomLeftLocally_change : ListChange state (handleRoomLeftLocally state roomId).1 := by
  unfold handleRoomLeftLocally
  dsimp only
  split
  · exact .ignored
  · exact .installed ..

end Koushi
