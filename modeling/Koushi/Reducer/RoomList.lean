import Koushi.Reducer.Navigation

namespace Koushi

open Collections

/-!
# Room-list updates

The room-list service sends whole lists.  An authoritative list replaces the
rooms and spaces; a provisional one comes from a cache or from a sync that is
still loading, so it is merged into what is known.  A local leave removes one
room before the service notices.  All three end in
`handleRoomListUpdatedWithCrawler`, which installs the lists, prunes what is
kept per room, and re-resolves the active space and the active room.

The sorted room-list items, avatars, unread counts, activity and attention that
the source also derives here are outside the model.
-/

/-! ## Installing a list -/

variable (state : AppState)

def isLocallyLeft (roomId : String) : Bool :=
  state.roomList.locallyLeftRoomIds.contains roomId

/-- The rooms of a list that were not left here. -/
def keptRooms (rooms : List RoomSummary) : List RoomSummary :=
  rooms.filter (fun room => !isLocallyLeft state room.roomId)

variable (spaces : List SpaceSummary)

def keptSpaces : List SpaceSummary :=
  spaces.filter (fun space => !isLocallyLeft state space.spaceId)

/-- The ids that the per-room stores are pruned to. -/
def retainedRoomIds (rooms : List RoomSummary) : OrdSet String :=
  Std.ExtTreeSet.ofList (keysBy RoomSummary.roomId rooms)

/-- Prune the per-room stores. -/
def retainLocalWork (roomIds : OrdSet String) : AppState :=
  { state with
    composerDrafts := state.composerDrafts.retainRooms roomIds
    scheduledSends := state.scheduledSends.retainRooms roomIds
    uploadStaging := state.uploadStaging.retainRooms roomIds
    mediaGallery := state.mediaGallery.retainRooms roomIds }

/-- Replace the rooms and spaces and prune the stores by the new rooms. -/
def installRoomList (rooms : List RoomSummary) (authoritative : Bool) : AppState :=
  let rooms := keptRooms state rooms
  let spaces := keptSpaces state spaces
  let spaceOrder := mergeNewSpacesIntoPreference state.navigation.spaceOrder spaces
  let state := { state with
    navigation.spaceOrder := spaceOrder
    spaces := applySpaceOrderPreference spaces spaceOrder
    rooms := rooms }
  let state := retainNavigationRoomMemory state authoritative
  let state := retainLocalWork state (retainedRoomIds rooms)
  refreshTimelineMediaGallery (refreshTimelineUploadStaging (refreshTimelineScheduledSends state))

/-! ## Re-resolving the active space and room -/

def closeVanishedSpace : AppState :=
  { state with navigation.activeSpaceId := state.navigation.activeSpaceId.filter (spaceExists state) }

/-- The active room is gone: close it and everything scoped to it. -/
def closeVanishedRoom : Outcome :=
  match state.navigation.activeRoomId with
  | none => (state, [])
  | some activeRoomId =>
    if roomExists state activeRoomId then (state, [])
    else
      ({ state with
          navigation.activeRoomId := none
          navigation.eventNavigation := .idle
          timeline := Inhabited.default
          thread := .closed
          threadAttention := .closed
          threadsList := .closed },
        [.emitUiEvent (.timelineChanged (state.timeline.roomId.getD activeRoomId))] ++
          effectsIf (hadThread state) [.emitUiEvent .threadChanged] ++
          effectsIf (state.threadsList ≠ .closed) [.emitUiEvent .threadsListChanged])

/-- A selected space opens its preferred room in place of a vanished one. -/
def replaceVanishedRoom (hadActiveRoom : Bool) (state : AppState) : Outcome :=
  if hadActiveRoom && state.navigation.activeRoomId.isNone then
    match preferredRoomIdInActiveSpace state with
    | some roomId => selectActiveRoomAfterRoomListUpdate state roomId
    | none => (state, [])
  else (state, [])

/-- An active room that left the selected space is replaced by one of the space. -/
def followSelectedSpace : Outcome :=
  match state.navigation.activeRoomId with
  | none => (state, [])
  | some activeRoomId =>
    if activeRoomLeftSelectedSpace state activeRoomId then
      retargetActiveRoomForSelectedSpace state activeRoomId
    else (state, [])

/-- An active room that the pane does not show is opened. -/
def reopenActiveRoom : Outcome :=
  match state.navigation.activeRoomId with
  | none => (state, [])
  | some activeRoomId =>
    if state.timeline.roomId ≠ some activeRoomId && roomExists state activeRoomId then
      selectActiveRoomAfterRoomListUpdate state activeRoomId
    else (state, [])

/-- The room to open when none is: the preferred one of the selected space, or
the first of all. -/
def nextRoomId : Option String :=
  if state.navigation.activeSpaceId.isSome then preferredRoomIdInActiveSpace state
  else firstDefaultRoomId state

/-- Without an active room before the update, a default room is opened.  The
thread pane is left as it is. -/
def openDefaultRoom (hadActiveRoom : Bool) (state : AppState) : Outcome :=
  if !hadActiveRoom && state.navigation.activeRoomId.isNone then
    match nextRoomId state with
    | none => (state, [])
    | some roomId =>
      ({ state with
          navigation.activeRoomId := some roomId
          timeline := timelineForRoom state roomId },
        [.subscribeTimeline roomId, .emitUiEvent (.timelineChanged roomId)])
  else (state, [])

/-- Close, replace and open rooms until the active room is one of the list. -/
def resolveActiveRoom (hadActiveRoom : Bool) (state : AppState) : Outcome :=
  ((((closeVanishedRoom state).andThen (replaceVanishedRoom hadActiveRoom)).andThen
    followSelectedSpace).andThen reopenActiveRoom).andThen (openDefaultRoom hadActiveRoom)

def handleRoomListUpdatedWithCrawler
    (rooms : List RoomSummary) (admitCrawler authoritative : Bool) : Outcome :=
  if !isSessionReady state then (state, [])
  else
    let installed := closeVanishedSpace (installRoomList state spaces rooms authoritative)
    Outcome.andThen
      (installed, [.emitUiEvent .roomListChanged] ++
        effectsIf admitCrawler [.notifySearchCrawlerRoomsAvailable])
      (resolveActiveRoom state.navigation.activeRoomId.isSome)

/-! ## Snapshots -/

def roomListGeneration : RoomListReadiness -> Nat
  | .uninitialized => 0
  | .loading _ generation => generation
  | .ready _ generation => generation
  | .failed _ generation _ => generation

def roomListAuthoritativeMatchesCurrent (readiness : RoomListReadiness) (generation : Nat)
    (source : RoomListSource) : Bool :=
  match readiness with
  | .loading currentSource currentGeneration => currentGeneration = generation && currentSource = source
  | .ready currentSource currentGeneration => currentGeneration = generation && currentSource = source
  | _ => false

def roomListProvisionalMatchesCurrent (readiness : RoomListReadiness) (generation : Nat)
    (source : RoomListSource) : Bool :=
  (readiness = .uninitialized && source = .cache && generation = 0) ||
    roomListAuthoritativeMatchesCurrent readiness generation source

/-- The whole list of a room-list service: spaces, rooms and invites. -/
structure RoomListSnapshot where
  generation : Nat
  source : RoomListSource
  spaces : List SpaceSummary
  rooms : List RoomSummary
  invites : List InvitePreview
deriving DecidableEq, Repr

def RoomListSnapshot.isEmpty (snapshot : RoomListSnapshot) : Bool :=
  snapshot.spaces.isEmpty && snapshot.rooms.isEmpty && snapshot.invites.isEmpty

def mergedInvites (invites : List InvitePreview) : List InvitePreview :=
  mergeBy InvitePreview.roomId
    (state.invites.filter (fun invite => !isLocallyLeft state invite.roomId))
    (invites.filter (fun invite => !isLocallyLeft state invite.roomId))

def mergedSpaces : List SpaceSummary :=
  mergeBy SpaceSummary.spaceId state.spaces spaces

/-- Write one room of a snapshot.  An id that is a space is no room. -/
def mergeRoom (merged : List RoomSummary) (room : RoomSummary) : List RoomSummary :=
  if hasKey SpaceSummary.spaceId spaces room.roomId then
    merged.filter (fun existing => existing.roomId ≠ room.roomId)
  else upsertBy RoomSummary.roomId room merged

def mergedRooms (rooms : List RoomSummary) : List RoomSummary :=
  rooms.foldl (mergeRoom spaces)
    (state.rooms.filter (fun room => !hasKey SpaceSummary.spaceId spaces room.roomId))

/-- Whether a provisional snapshot is dropped without being read. -/
def provisionalIsIgnored (snapshot : RoomListSnapshot) : Bool :=
  !isSessionReady state ||
    !roomListProvisionalMatchesCurrent state.roomList.readiness snapshot.generation snapshot.source ||
    snapshot.isEmpty

def handleRoomListSnapshotProvisional (snapshot : RoomListSnapshot) : Outcome :=
  if provisionalIsIgnored state snapshot then (state, [])
  else
    let spaces := mergedSpaces state snapshot.spaces
    let rooms := mergedRooms state spaces snapshot.rooms
    handleRoomListUpdatedWithCrawler { state with invites := mergedInvites state snapshot.invites }
      spaces rooms false false

def handleRoomListSnapshotAuthoritative (snapshot : RoomListSnapshot) : Outcome :=
  if !isSessionReady state ||
      !roomListAuthoritativeMatchesCurrent state.roomList.readiness snapshot.generation snapshot.source then
    (state, [])
  else
    handleRoomListUpdatedWithCrawler
      { state with
        roomList.readiness := .ready snapshot.source snapshot.generation
        invites := snapshot.invites }
      snapshot.spaces snapshot.rooms true true

def handleRoomListUpdated (rooms : List RoomSummary) : Outcome :=
  if !isSessionReady state then (state, [])
  else
    let readiness :=
      if state.roomList.readiness = .uninitialized then RoomListReadiness.ready .cache 0
      else state.roomList.readiness
    handleRoomListUpdatedWithCrawler { state with roomList.readiness := readiness } spaces rooms true true

/-- A left room, or a declined invite, is removed before the service notices. -/
def handleRoomLeftLocally (roomId : String) : Outcome :=
  let declinedInvite := hasKey InvitePreview.roomId state.invites roomId
  if !isSessionReady state ||
      (!declinedInvite && !roomExists state roomId && !spaceExists state roomId) then (state, [])
  else
    let state := { state with
      roomList.locallyLeftRoomIds := state.roomList.locallyLeftRoomIds.insert roomId
      invites := if declinedInvite then state.invites.filter (fun invite => invite.roomId ≠ roomId)
        else state.invites }
    Outcome.andThen (state, effectsIf declinedInvite [.emitUiEvent .roomListChanged])
      (fun state =>
        handleRoomListUpdatedWithCrawler state state.spaces
          (state.rooms.filter (fun room => room.roomId ≠ roomId)) false false)

def handleRoomJoinedLocally (roomId : String) : Outcome :=
  ({ state with roomList.locallyLeftRoomIds := state.roomList.locallyLeftRoomIds.erase roomId }, [])

/-! ## The rest of the room list -/

def handleRoomListBootstrapStarted (generation : Nat) (source : RoomListSource) : Outcome :=
  if !isSessionReady state || generation ≤ roomListGeneration state.roomList.readiness then (state, [])
  else ({ state with roomList.readiness := .loading source generation }, [.emitUiEvent .roomListChanged])

def handleRoomListBootstrapFailed (generation : Nat) (source : RoomListSource)
    (kind : RoomListFailureKind) : Outcome :=
  if state.roomList.readiness = .loading source generation then
    ({ state with roomList.readiness := .failed source generation kind }, [.emitUiEvent .roomListChanged])
  else (state, [])

def handleRoomListFilterSelected (filter : RoomListFilter) : Outcome :=
  if !isSessionReady state || state.roomList.activeFilter = filter then (state, [])
  else ({ state with roomList.activeFilter := filter }, [.emitUiEvent .roomListChanged])

def handleRoomListFilterApplied (projection : RoomListProjection) : Outcome :=
  if !isSessionReady state || state.roomList = projection then (state, [])
  else ({ state with roomList := projection }, [.emitUiEvent .roomListChanged])

def handleInviteListUpdated (invites : List InvitePreview) : Outcome :=
  if !isSessionReady state then (state, [])
  else ({ state with invites := invites }, [.emitUiEvent .roomListChanged])

/-- A child that the homeserver accepted is shown in its space at once.  The
operation that asked for it is outside the model. -/
def handleSpaceChildLinkSettled (spaceId childRoomId : String) : Outcome :=
  let link := fun (space : SpaceSummary) =>
    if childRoomId ∈ space.childRoomIds then space
    else { space with childRoomIds := (space.childRoomIds ++ [childRoomId]).insertionSort (· ≤ ·) }
  match findSpace state spaceId with
  | none => (state, [.emitUiEvent .roomListChanged])
  | some space =>
    ({ state with spaces := upsertBy SpaceSummary.spaceId (link space) state.spaces },
      [.emitUiEvent .roomListChanged])

end Koushi
