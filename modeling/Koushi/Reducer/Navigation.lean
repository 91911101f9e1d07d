import Koushi.Reducer.State

namespace Koushi

open Collections

/-!
# Room and space selection

The active space scopes the sidebar, the active room is the one the main
timeline pane shows.  Each space remembers the conversation it was last on.
Opening a room rebuilds the timeline pane from the stores and carries the
submission registry over; clearing the active room resets the pane to its
default, registry included.

The side effects of a selection on search, on the members and children of a
space and on the sidebar's revealed section are outside the model.
-/

/-- Effects that are only asked for under a condition. -/
def effectsIf (condition : Bool) (effects : List AppEffect) : List AppEffect :=
  if condition then effects else []

/-! ## What a space can show -/

variable (state : AppState)

def roomBelongsToSpace (roomId spaceId : String) : Bool :=
  match findRoom state roomId with
  | none => false
  | some room =>
    if room.isDm then decide (spaceId ∈ room.dmSpaceIds)
    else
      match findSpace state spaceId with
      | none => false
      | some space => decide (roomId ∈ space.childRoomIds)

def firstRoomIdInSpace (spaceId : String) : Option String :=
  match findSpace state spaceId with
  | none => none
  | some space =>
    space.childRoomIds.findSome? (fun childRoomId =>
      (state.rooms.find? (fun room => room.roomId = childRoomId && !room.isDm)).map RoomSummary.roomId)

def firstRoomIdInActiveSpace : Option String :=
  state.navigation.activeSpaceId.bind (firstRoomIdInSpace state)

def firstDmRoomIdInSpace (spaceId : String) : Option String :=
  (state.rooms.find? (fun room => room.isDm && decide (spaceId ∈ room.dmSpaceIds))).map RoomSummary.roomId

def firstDefaultRoomId : Option String :=
  ((state.rooms.find? (fun room => !room.isDm)).or state.rooms.head?).map RoomSummary.roomId

/-- What a space falls back to without a usable selection: its remembered room
from before selections were kept, else its first room. -/
def legacySelectionInSpace (spaceId : String) : SpaceNavigationSelection :=
  match state.navigation.lastRoomBySpaceId[spaceId]?.filter (fun roomId => roomBelongsToSpace state roomId spaceId) with
  | some roomId => ⟨.rooms, some roomId⟩
  | none => ⟨.rooms, firstRoomIdInSpace state spaceId⟩

/-- The remembered selection of a space, checked against what it can show now. -/
def preferredSelectionInSpace (spaceId : String) : SpaceNavigationSelection :=
  match state.navigation.lastSelectionBySpaceId[spaceId]? with
  | none => legacySelectionInSpace state spaceId
  | some selection =>
    if selection.roomId.any (fun roomId => roomBelongsToSpace state roomId spaceId) then selection
    -- A lost direct message falls back inside the same surface.
    else if selection.surface = .dms then ⟨.dms, firstDmRoomIdInSpace state spaceId⟩
    else legacySelectionInSpace state spaceId

def preferredRoomIdInActiveSpace : Option String :=
  state.navigation.activeSpaceId.bind (fun spaceId => (preferredSelectionInSpace state spaceId).roomId)

def activeRoomLeftSelectedSpace (activeRoomId : String) : Bool :=
  match state.navigation.activeSpaceId, findRoom state activeRoomId with
  | some activeSpaceId, some activeRoom =>
    if activeRoom.isDm then false
    else
      match findSpace state activeSpaceId with
      | none => false
      | some space => decide (activeRoomId ∉ space.childRoomIds)
  | _, _ => false

/-! ## Memory -/

def rememberActiveRoomForCurrentSpace : AppState :=
  match state.navigation.activeSpaceId, state.navigation.activeRoomId with
  | some spaceId, some roomId =>
    if !roomBelongsToSpace state roomId spaceId then state
    else
      let isDm := state.rooms.any (fun room => room.roomId = roomId && room.isDm)
      let surface := if isDm then SpaceConversationSurface.dms else .rooms
      let state := { state with
        navigation.lastSelectionBySpaceId :=
          state.navigation.lastSelectionBySpaceId.insert spaceId ⟨surface, some roomId⟩ }
      if isDm then state
      else { state with
        navigation.lastRoomBySpaceId := state.navigation.lastRoomBySpaceId.insert spaceId roomId }
  | _, _ => state

/-- Only an authoritative list may make a space forget its conversation. -/
def retainNavigationRoomMemory (authoritative : Bool) : AppState :=
  if !authoritative then state
  else
    { state with
      navigation.lastRoomBySpaceId := state.navigation.lastRoomBySpaceId.filter
        (fun spaceId roomId => roomBelongsToSpace state roomId spaceId)
      navigation.lastSelectionBySpaceId := (state.navigation.lastSelectionBySpaceId.filter
        (fun spaceId _ => spaceExists state spaceId)).map (fun spaceId selection =>
          { selection with
            roomId := selection.roomId.filter (fun roomId => roomBelongsToSpace state roomId spaceId) }) }

/-! ## The order of spaces -/

variable (spaceOrder : List String)

def normalizeSpaceOrderPreference : List String := spaceOrder.eraseDups

def mergeNewSpacesIntoPreference (spaces : List SpaceSummary) : List String :=
  spaces.foldl (fun order space => if space.spaceId ∈ order then order else order ++ [space.spaceId])
    (normalizeSpaceOrderPreference spaceOrder)

/-- The position of a space; one that the preference does not name comes last. -/
def spacePosition (spaceId : String) : Nat :=
  ((spaceOrder.zipIdx.filter (fun entry => entry.1 = spaceId)).getLast?.map Prod.snd).getD U64_MAX

def applySpaceOrderPreference (spaces : List SpaceSummary) (spaceOrder : List String) : List SpaceSummary :=
  spaces.insertionSort (fun left right =>
    spacePosition spaceOrder left.spaceId ≤ spacePosition spaceOrder right.spaceId)

def isCompleteSpaceOrder (spaces : List SpaceSummary) (spaceIds : List String) : Bool :=
  spaces.length = spaceIds.length && decide spaceIds.Nodup &&
    spaces.all (fun space => decide (space.spaceId ∈ spaceIds)) &&
    spaceIds.all (fun spaceId => hasKey SpaceSummary.spaceId spaces spaceId)

/-- Write the requested ids over the visible ones, position by position. -/
def placeRequested (isVisible : String -> Bool) : List String -> List String -> List String
  | [], _ => []
  | spaceId :: rest, [] => spaceId :: placeRequested isVisible rest []
  | spaceId :: rest, requested :: more =>
    if isVisible spaceId then requested :: placeRequested isVisible rest more
    else spaceId :: placeRequested isVisible rest (requested :: more)

def reorderVisibleSpaceOrder (currentSpaces : List SpaceSummary)
    (requestedSpaceIds : List String) : Option (List String) :=
  if !isCompleteSpaceOrder currentSpaces requestedSpaceIds then none
  else
    some (placeRequested (hasKey SpaceSummary.spaceId currentSpaces)
      (mergeNewSpacesIntoPreference spaceOrder currentSpaces) requestedSpaceIds)

/-! ## The timeline pane -/

/-- The timeline pane of a newly opened room.  The registry of the previous pane
stays. -/
def timelineForRoom (roomId : String) : TimelinePaneState where
  roomId := some roomId
  isSubscribed := false
  isPaginatingBackwards := false
  composer := state.composerDrafts.composerForRoom roomId
  submissionRegistry := state.timeline.submissionRegistry
  scheduledSendCapability := state.scheduledSends.capability
  scheduledSends := state.scheduledSends.itemsForRoom roomId
  stagedUploads := state.uploadStaging.itemsForRoom roomId
  mediaGallery := state.mediaGallery.itemsForRoom roomId

def refreshTimelineScheduledSends : AppState :=
  { state with
    timeline.scheduledSendCapability := state.scheduledSends.capability
    timeline.scheduledSends := (state.timeline.roomId.map state.scheduledSends.itemsForRoom).getD [] }

def refreshTimelineUploadStaging : AppState :=
  { state with
    timeline.stagedUploads := (state.timeline.roomId.map state.uploadStaging.itemsForRoom).getD [] }

def refreshTimelineMediaGallery : AppState :=
  { state with
    timeline.mediaGallery := (state.timeline.roomId.map state.mediaGallery.itemsForRoom).getD [] }

def selectActiveRoomAfterRoomListUpdate (roomId : String) : Outcome :=
  ({ state with
      navigation.activeRoomId := some roomId
      timeline := timelineForRoom state roomId
      thread := .closed
      threadAttention := .closed },
    [.subscribeTimeline roomId, .emitUiEvent (.timelineChanged roomId)] ++
      effectsIf (hadThread state) [.emitUiEvent .threadChanged])

def selectActiveRoomForNavigation (roomId : String) : Outcome :=
  ({ state with
      navigation.activeRoomId := some roomId
      navigation.mainTimelineAnchor := none
      navigation.eventNavigation := .idle
      timeline := timelineForRoom state roomId
      thread := .closed
      threadAttention := .closed
      threadsList := .closed
      focusedContext := .closed },
    [.subscribeTimeline roomId, .emitUiEvent (.timelineChanged roomId)] ++
      effectsIf (hadThread state) [.emitUiEvent .threadChanged] ++
      effectsIf (state.threadsList ≠ .closed) [.emitUiEvent .threadsListChanged])

def clearActiveRoomForNavigation (previousRoomId : String) : Outcome :=
  ({ state with
      navigation.activeRoomId := none
      navigation.mainTimelineAnchor := none
      navigation.eventNavigation := .idle
      timeline := Inhabited.default
      thread := .closed
      threadAttention := .closed
      threadsList := .closed
      focusedContext := .closed },
    [.emitUiEvent (.timelineChanged previousRoomId)] ++
      effectsIf (hadThread state) [.emitUiEvent .threadChanged] ++
      effectsIf (state.threadsList ≠ .closed) [.emitUiEvent .threadsListChanged])

def retargetActiveRoomForSelectedSpace (previousRoomId : String) : Outcome :=
  match firstRoomIdInActiveSpace state with
  | some roomId => selectActiveRoomAfterRoomListUpdate state roomId
  | none =>
    ({ state with
        navigation.activeRoomId := none
        thread := .closed
        threadAttention := .closed
        timeline := Inhabited.default },
      [.emitUiEvent (.timelineChanged previousRoomId)] ++
        effectsIf (hadThread state) [.emitUiEvent .threadChanged])

/-! ## Handlers -/

/-- The room that a selected space opens with, and whether the space remembered it. -/
def restoredSelection (spaceId : String) : SpaceNavigationSelection × Bool :=
  (preferredSelectionInSpace state spaceId, state.navigation.lastSelectionBySpaceId.contains spaceId)

/-- A remembered surface also restores the filter of the room list. -/
def restoreFilter (restored : SpaceNavigationSelection × Bool) : AppState :=
  if restored.2 then
    { state with
      roomList.activeFilter :=
        match restored.1.surface with
        | .dms => .people
        | .rooms => .rooms }
  else state

/-- Open the conversation of the selected space, or none. -/
def openRestoredRoom (targetRoomId : Option String) : Outcome :=
  if targetRoomId = state.navigation.activeRoomId then (state, [])
  else
    match targetRoomId, state.navigation.activeRoomId with
    | some roomId, _ => selectActiveRoomForNavigation state roomId
    | none, some previousRoomId => clearActiveRoomForNavigation state previousRoomId
    | none, none => (state, [])

def handleSelectSpace (spaceId : Option String) : Outcome :=
  if !isSessionReady state then (state, [])
  else
    let state := rememberActiveRoomForCurrentSpace state
    let state := { state with navigation.activeSpaceId := spaceId.filter (spaceExists state) }
    match state.navigation.activeSpaceId with
    | none =>
      let cleared :=
        match state.navigation.activeRoomId with
        | some previousRoomId => clearActiveRoomForNavigation state previousRoomId
        | none => (state, [])
      Outcome.andThen (state, [.emitUiEvent .roomListChanged]) (fun _ => cleared)
    | some selectedSpaceId =>
      let restored := restoredSelection state selectedSpaceId
      let state := restoreFilter state restored
      (Outcome.andThen (state, [.emitUiEvent .roomListChanged])
        (fun state => openRestoredRoom state restored.1.roomId)).andThen
          (fun state => (rememberActiveRoomForCurrentSpace state, []))

/-- The scope under which a room is opened: the current one if it shows the room,
else the first of the room's parents that is joined.  A direct message keeps the
scope. -/
def scopeForRoom (room : RoomSummary) : Option String :=
  if room.isDm then state.navigation.activeSpaceId
  else if state.navigation.activeSpaceId.any (fun spaceId => decide (spaceId ∈ room.parentSpaceIds)) then
    state.navigation.activeSpaceId
  else room.parentSpaceIds.find? (spaceExists state)

def handleSelectRoom (roomId : String) : Outcome :=
  if !isSessionReady state then (state, [])
  else
    match findRoom state roomId with
    | none => (state, [])
    | some selectedRoom =>
      let state := rememberActiveRoomForCurrentSpace state
      let previousActiveSpaceId := state.navigation.activeSpaceId
      let state := { state with navigation.activeSpaceId := scopeForRoom state selectedRoom }
      let rescoped : Outcome :=
        (state, effectsIf (previousActiveSpaceId ≠ state.navigation.activeSpaceId)
          [.emitUiEvent .roomListChanged])
      let isOpen := state.navigation.activeRoomId = some roomId && state.timeline.roomId = some roomId
      (rescoped.andThen (fun state =>
        if isOpen then (state, []) else selectActiveRoomForNavigation state roomId)).andThen
          (fun state => (rememberActiveRoomForCurrentSpace state, []))

/-- Install a persisted navigation record.  The open timeline stays as it is. -/
def handleNavigationLoaded (navigation : NavigationState) : Outcome :=
  if !isSessionReady state then (state, [])
  else
    let spaceOrder := normalizeSpaceOrderPreference navigation.spaceOrder
    ({ state with
        navigation := { navigation with spaceOrder := spaceOrder, eventNavigation := .idle }
        spaces := applySpaceOrderPreference state.spaces spaceOrder },
      [.emitUiEvent .roomListChanged])

def handleReorderSpaces (spaceIds : List String) : Outcome :=
  if !isSessionReady state then (state, [])
  else
    match reorderVisibleSpaceOrder state.navigation.spaceOrder state.spaces spaceIds with
    | none => (state, [])
    | some spaceOrder =>
      ({ state with
          navigation.spaceOrder := spaceOrder
          spaces := applySpaceOrderPreference state.spaces spaceOrder },
        [.emitUiEvent .roomListChanged])

def handleSpaceOrderPreferenceRemoved (spaceId : String) : Outcome :=
  if !isSessionReady state then (state, [])
  else
    let spaceOrder := state.navigation.spaceOrder.filter (fun candidate => candidate ≠ spaceId)
    if spaceOrder.length = state.navigation.spaceOrder.length then (state, [])
    else
      ({ state with
          navigation.spaceOrder := spaceOrder
          spaces := applySpaceOrderPreference state.spaces spaceOrder },
        [.emitUiEvent .roomListChanged])

def handleDirectoryJoinRequested (requestId : Nat) (roomIdOrAlias : String)
    (viaServers : List String) : Outcome :=
  if !isSessionReady state then (state, [])
  else ({ state with directoryJoin := .joining requestId roomIdOrAlias viaServers },
    [.emitUiEvent .directoryChanged])

/-- Whether the join with this request is the one in progress. -/
def isJoining (requestId : Nat) : Bool :=
  match state.directoryJoin with
  | .joining current _ _ => current = requestId
  | _ => false

def handleDirectoryJoinSucceeded (requestId : Nat) (roomId : String) : Outcome :=
  if !isJoining state requestId then (state, [])
  else
    ({ state with
        directoryJoin := .idle
        navigation.activeSpaceId := none
        navigation.activeRoomId := some roomId
        timeline := timelineForRoom state roomId
        thread := .closed
        threadAttention := .closed
        threadsList := .closed
        focusedContext := .closed },
      [.emitUiEvent .directoryChanged] ++
        effectsIf state.navigation.activeSpaceId.isSome [.emitUiEvent .roomListChanged] ++
        [.subscribeTimeline roomId, .emitUiEvent (.timelineChanged roomId)] ++
        effectsIf (hadThread state) [.emitUiEvent .threadChanged] ++
        effectsIf (state.threadsList ≠ .closed) [.emitUiEvent .threadsListChanged])

def handleDirectoryJoinFailed (requestId : Nat) (roomIdOrAlias : String)
    (viaServers : List String) (kind : OperationFailureKind) : Outcome :=
  if state.directoryJoin = .joining requestId roomIdOrAlias viaServers then
    ({ state with directoryJoin := .failed requestId roomIdOrAlias viaServers kind },
      [.emitUiEvent .directoryChanged])
  else (state, [])

end Koushi
