import Koushi.Reducer.ActiveRoom
import Koushi.Reducer.Reduce

namespace Koushi

open Collections SpaceSummary

/-!
# Local work under room-list updates

`localWork` is what the four stores hold for one room: the drafts of the room and
of its threads with their revisions, the scheduled sends, the staged uploads and
the gallery.  A room-list update prunes all of it to the rooms of the new list,
whether the list is authoritative or not, so each room either keeps everything
or loses everything.

A provisional list is merged into the known one first.  A room therefore keeps
its work when either list has it and neither lists its id as a space; a room that
is in no list yet loses it.
-/

attribute [local instance] lexOrd

/-! ## The work of one room -/

/-- What the stores hold for one room. -/
@[ext] structure RoomWork where
  draft : Option ComposerDocument
  draftRevision : Option Nat
  lastAcceptedClearRevision : Option Nat
  assistantMarker : Option AssistantDraftMarker
  threadDrafts : String -> Option ComposerDocument
  threadRevisions : String -> Option Nat
  threadLastAcceptedClearRevisions : String -> Option Nat
  threadAssistantMarkers : String -> Option AssistantDraftMarker
  scheduledSends : String -> Option ScheduledSendItem
  stagedUploads : ComposerTarget × String -> Option StagedUploadItem
  mediaGallery : Option (List TimelineMediaGalleryItem)

/-- A room without drafts, sends, uploads or gallery. -/
def RoomWork.nothing : RoomWork where
  draft := none
  draftRevision := none
  lastAcceptedClearRevision := none
  assistantMarker := none
  threadDrafts := fun _ => none
  threadRevisions := fun _ => none
  threadLastAcceptedClearRevisions := fun _ => none
  threadAssistantMarkers := fun _ => none
  scheduledSends := fun _ => none
  stagedUploads := fun _ => none
  mediaGallery := none

def localWork (state : AppState) (roomId : String) : RoomWork where
  draft := state.composerDrafts.rooms[roomId]?
  draftRevision := state.composerDrafts.roomRevisions[roomId]?
  lastAcceptedClearRevision := state.composerDrafts.roomLastAcceptedClearRevisions[roomId]?
  assistantMarker := state.composerDrafts.roomAssistantMarkers[roomId]?
  threadDrafts := state.composerDrafts.threads.lookup roomId
  threadRevisions := state.composerDrafts.threadRevisions.lookup roomId
  threadLastAcceptedClearRevisions := state.composerDrafts.threadLastAcceptedClearRevisions.lookup roomId
  threadAssistantMarkers := state.composerDrafts.threadAssistantMarkers.lookup roomId
  scheduledSends := fun scheduledId =>
    state.scheduledSends.items[scheduledId]?.filter (fun item => item.roomId = roomId)
  stagedUploads := fun key => if key.1.roomId = roomId then state.uploadStaging.items[key]? else none
  mediaGallery := state.mediaGallery.rooms[roomId]?

/-- The stores hold something for the room. -/
def HasLocalWork (state : AppState) (roomId : String) : Prop := localWork state roomId ≠ .nothing

/-- The work of a room is read from the four stores only. -/
theorem localWork_congr {state other : AppState} (composerDrafts : other.composerDrafts = state.composerDrafts)
    (scheduledSends : other.scheduledSends = state.scheduledSends)
    (uploadStaging : other.uploadStaging = state.uploadStaging)
    (mediaGallery : other.mediaGallery = state.mediaGallery) (roomId : String) :
    localWork other roomId = localWork state roomId := by
  simp only [localWork, composerDrafts, scheduledSends, uploadStaging, mediaGallery]

/-! ## Pruning -/

theorem ScheduledSendStore.getElem?_retainRooms (store : ScheduledSendStore) (roomIds : OrdSet String)
    (roomId scheduledId : String) :
    (store.retainRooms roomIds).items[scheduledId]?.filter (fun item => item.roomId = roomId) =
      if roomIds.contains roomId then store.items[scheduledId]?.filter (fun item => item.roomId = roomId)
      else none := by
  rw [ScheduledSendStore.retainRooms, Std.ExtTreeMap.getElem?_filter', Option.filter_filter]
  split
  · next kept =>
    congr 1
    funext item
    by_cases same : item.roomId = roomId
    · simp [same, kept]
    · simp [same]
  · next dropped =>
    rw [Option.filter_eq_none_iff]
    intro item _
    by_cases same : item.roomId = roomId
    · simp [same, dropped]
    · simp [same]

theorem UploadStagingStore.getElem?_retainRooms (store : UploadStagingStore) (roomIds : OrdSet String)
    (roomId : String) (key : ComposerTarget × String) :
    (if key.1.roomId = roomId then (store.retainRooms roomIds).items[key]? else none) =
      if roomIds.contains roomId then (if key.1.roomId = roomId then store.items[key]? else none)
      else none := by
  rw [UploadStagingStore.retainRooms, OrdMap.getElem?_filter_key]
  split
  · next same => rw [same]
  · simp

variable (state : AppState)

/-- Pruning keeps all the work of a room in the set and none of any other. -/
theorem localWork_retainLocalWork (roomIds : OrdSet String) (roomId : String) :
    localWork (retainLocalWork state roomIds) roomId =
      if roomIds.contains roomId then localWork state roomId else .nothing := by
  have uploads := UploadStagingStore.getElem?_retainRooms state.uploadStaging roomIds roomId
  have sends := ScheduledSendStore.getElem?_retainRooms state.scheduledSends roomIds roomId
  have threads : forall {ν : Type} (map : NestedMap String String ν),
      (map.retainOuter roomIds.contains).lookup roomId =
        fun rootEventId => if roomIds.contains roomId then map.lookup roomId rootEventId else none :=
    fun map => funext (map.lookup_retainOuter roomIds.contains roomId)
  simp only [localWork, retainLocalWork, uploads, sends]
  simp only [ComposerDraftStore.retainRooms, MediaGalleryStore.retainRooms, OrdMap.getElem?_filter_key, threads]
  cases roomIds.contains roomId with
  | true | false => rfl

/-! ## Room-list updates -/

theorem retainNavigationRoomMemory_localWork (authoritative : Bool) (roomId : String) :
    localWork (retainNavigationRoomMemory state authoritative) roomId = localWork state roomId := by
  unfold retainNavigationRoomMemory
  split <;> rfl

/-- A room keeps its work exactly when the installed list has it. -/
theorem handleRoomListUpdatedWithCrawler_localWork (ready : isSessionReady state = true)
    (spaces : List SpaceSummary) (rooms : List RoomSummary) (admitCrawler authoritative : Bool)
    (roomId : String) :
    localWork (handleRoomListUpdatedWithCrawler state spaces rooms admitCrawler authoritative).1 roomId =
      if roomId ∈ keysBy RoomSummary.roomId rooms ∧ isLocallyLeft state roomId = false then
        localWork state roomId else .nothing := by
  have kept : (retainedRoomIds (keptRooms state rooms)).contains roomId = true ↔
      roomId ∈ keysBy RoomSummary.roomId rooms ∧ isLocallyLeft state roomId = false := by
    rw [retainedRoomIds, Std.ExtTreeSet.contains_iff_mem, OrdSet.mem_ofList, keptRooms,
      mem_keysBy_filter (fun roomId => !isLocallyLeft state roomId), Bool.not_eq_true']
  have resolved := resolveActiveRoom_keeps state.navigation.activeRoomId.isSome
    (closeVanishedSpace (installRoomList state spaces rooms authoritative))
  have unfolded : localWork
      (handleRoomListUpdatedWithCrawler state spaces rooms admitCrawler authoritative).1 roomId =
        localWork (installRoomList state spaces rooms authoritative) roomId := by
    rw [handleRoomListUpdatedWithCrawler, if_neg (by simp [ready])]
    exact localWork_congr resolved.composerDrafts resolved.scheduledSends resolved.uploadStaging
      resolved.mediaGallery roomId
  have installed : localWork (installRoomList state spaces rooms authoritative) roomId =
      if (retainedRoomIds (keptRooms state rooms)).contains roomId then localWork state roomId
      else .nothing := by
    refine (localWork_congr rfl rfl rfl rfl roomId).trans ((localWork_retainLocalWork _ _ roomId).trans ?_)
    rw [retainNavigationRoomMemory_localWork]
    rfl
  rw [unfolded, installed]
  simp only [kept]

/-! ## Provisional lists -/

variable {roomId : String}

theorem mem_keysBy_foldl_mergeRoom {spaces : List SpaceSummary} {rooms merged : List RoomSummary}
    (room : roomId ∉ keysBy spaceId spaces) :
    roomId ∈ keysBy RoomSummary.roomId (rooms.foldl (mergeRoom spaces) merged) ↔
      roomId ∈ keysBy RoomSummary.roomId merged ∨ roomId ∈ keysBy RoomSummary.roomId rooms := by
  induction rooms generalizing merged with
  | nil => simp [keysBy]
  | cons head rest ih =>
    rw [List.foldl_cons, ih]
    unfold mergeRoom
    split
    · next space =>
      -- the head is a space, so it is not the room asked about
      have different : roomId ≠ head.roomId := by
        rintro rfl
        exact room (hasKey_iff.mp space)
      rw [mem_keysBy_filter (fun id => decide (id ≠ head.roomId))]
      simp [keysBy, different]
    · rw [mem_keysBy_upsertBy]
      simp only [keysBy, List.map_cons, List.mem_cons]
      tauto

/-- Merging adds no room whose id is a space. -/
theorem not_mem_keysBy_foldl_mergeRoom {spaces : List SpaceSummary} (rooms : List RoomSummary)
    {merged : List RoomSummary} (space : roomId ∈ keysBy spaceId spaces)
    (absent : roomId ∉ keysBy RoomSummary.roomId merged) :
    roomId ∉ keysBy RoomSummary.roomId (rooms.foldl (mergeRoom spaces) merged) := by
  refine List.foldlRecOn (motive := fun merged => roomId ∉ keysBy RoomSummary.roomId merged) rooms _ absent ?_
  intro merged absent head _
  unfold mergeRoom
  split
  · rw [mem_keysBy_filter (fun id => decide (id ≠ head.roomId))]
    exact fun member => absent member.1
  · next room =>
    rw [mem_keysBy_upsertBy]
    rintro (rfl | member)
    · exact room (hasKey_iff.mpr space)
    · exact absent member

/-- The room is known here or in the snapshot, and neither knows it as a space. -/
def ListedAfterMerge (snapshot : RoomListSnapshot) (roomId : String) : Prop :=
  (roomId ∈ keysBy RoomSummary.roomId state.rooms ∨ roomId ∈ keysBy RoomSummary.roomId snapshot.rooms) ∧
    roomId ∉ keysBy SpaceSummary.spaceId state.spaces ∧
    roomId ∉ keysBy SpaceSummary.spaceId snapshot.spaces

theorem mem_keysBy_mergedRooms {state : AppState} {snapshot : RoomListSnapshot} :
    roomId ∈ keysBy RoomSummary.roomId
        (mergedRooms state (mergedSpaces state snapshot.spaces) snapshot.rooms) ↔
      ListedAfterMerge state snapshot roomId := by
  have spaces : roomId ∈ keysBy spaceId (mergedSpaces state snapshot.spaces) ↔
      roomId ∈ keysBy spaceId state.spaces ∨
        roomId ∈ keysBy spaceId snapshot.spaces := mem_keysBy_mergeBy
  have known : roomId ∈ keysBy RoomSummary.roomId (state.rooms.filter (fun room =>
        !hasKey spaceId (mergedSpaces state snapshot.spaces) room.roomId)) ↔
      roomId ∈ keysBy RoomSummary.roomId state.rooms ∧
        roomId ∉ keysBy spaceId (mergedSpaces state snapshot.spaces) := by
    rw [mem_keysBy_filter (fun id =>
      !hasKey spaceId (mergedSpaces state snapshot.spaces) id)]
    rw [Bool.not_eq_true', ← Bool.not_eq_true, hasKey_iff]
  unfold mergedRooms ListedAfterMerge
  by_cases isSpace : roomId ∈ keysBy spaceId (mergedSpaces state snapshot.spaces)
  · have absent := not_mem_keysBy_foldl_mergeRoom snapshot.rooms isSpace
      (fun member => (known.mp member).2 isSpace)
    tauto
  · rw [mem_keysBy_foldl_mergeRoom isSpace, known]
    tauto

theorem syncAssistantDraftMarkers_localWork :
    localWork (syncAssistantDraftMarkers state) roomId = localWork state roomId := by
  unfold syncAssistantDraftMarkers
  dsimp only
  split <;> rfl

/-- A provisional snapshot that is read prunes to the merged list. -/
theorem step_provisional_localWork {state : AppState} {snapshot : RoomListSnapshot}
    (ignored : provisionalIsIgnored state snapshot = false)
    [Decidable (ListedAfterMerge state snapshot roomId)] :
    localWork (step state (.roomListSnapshotProvisional snapshot)) roomId =
      if ListedAfterMerge state snapshot roomId ∧ isLocallyLeft state roomId = false then
        localWork state roomId else .nothing := by
  have ready : isSessionReady state = true := by
    simp only [provisionalIsIgnored, Bool.or_eq_false_iff, Bool.not_eq_false'] at ignored
    exact ignored.1.1
  rw [step_eq, syncAssistantDraftMarkers_localWork, reduceAction, handleRoomListSnapshotProvisional,
    if_neg (by simp [ignored])]
  refine (handleRoomListUpdatedWithCrawler_localWork
    { state with invites := mergedInvites state snapshot.invites } ready _ _ _ _ roomId).trans ?_
  simp only [mem_keysBy_mergedRooms]
  rfl

/-- A provisional snapshot leaves the work of every room that was not left here
as it was exactly when it is ignored, or every such room with work is listed
after the merge. -/
theorem provisional_keeps_localWork_iff (state : AppState) (snapshot : RoomListSnapshot) :
    (forall roomId, isLocallyLeft state roomId = false ->
        localWork (step state (.roomListSnapshotProvisional snapshot)) roomId = localWork state roomId) ↔
      provisionalIsIgnored state snapshot = true ∨
        forall roomId, isLocallyLeft state roomId = false -> HasLocalWork state roomId ->
          ListedAfterMerge state snapshot roomId := by
  classical
  cases ignored : provisionalIsIgnored state snapshot with
  | true =>
    refine iff_of_true (fun roomId _ => ?_) (.inl rfl)
    rw [step_eq, syncAssistantDraftMarkers_localWork, reduceAction, handleRoomListSnapshotProvisional,
      if_pos ignored]
  | false =>
    simp only [Bool.false_eq_true, false_or]
    refine forall_congr' fun roomId => forall_congr' fun stays => ?_
    rw [step_provisional_localWork ignored]
    constructor
    · intro same hasWork
      by_contra unlisted
      rw [if_neg (fun both => unlisted both.1)] at same
      exact hasWork same.symm
    · intro listed
      split
      · rfl
      · next pruned =>
        by_contra lost
        exact pruned ⟨listed (fun nothing => lost nothing.symm), stays⟩

/-- A started client with a draft from disk for a room that no list has yet. -/
def draftLoadedState : AppState :=
  Machine.run step AppState.default (coldStart ⟨"https://example.org", "@ada:example.org", "DEVICE"⟩ ++
    [.composerDraftsLoaded
      (ComposerDraftStore.default.applyRoomDraft "!attic" (ComposerDocument.fromPlainText "later") 1).2])

/-- The first cached list, which does not mention the room, drops its draft. -/
theorem provisional_drops_loaded_draft :
    isSessionReady draftLoadedState = true ∧ isLocallyLeft draftLoadedState "!attic" = false ∧
      (localWork draftLoadedState "!attic").draft = some (ComposerDocument.fromPlainText "later") ∧
      (localWork (step draftLoadedState (.roomListSnapshotProvisional
        ⟨0, .cache, [], [⟨"!lobby", false, [], []⟩], []⟩)) "!attic").draft = none := by
  decide +kernel

end Koushi
