import Koushi.Reducer.ActiveRoom
import Koushi.Reducer.Reduce

namespace Koushi

open Collections

/-!
# Navigation coherence

The active room is a listed room, the timeline pane shows it, and the active
space is a listed space.  Every room-list update and every selection keeps this.

A room-list update needs nothing of the state it starts from: it drops a space
and a room that are not listed, and opens whatever room is active and not shown.
A selection keeps the active space it does not replace, so it relies on the
state before.
-/

def ActiveRoomListed (state : AppState) : Prop :=
  forall roomId, state.navigation.activeRoomId = some roomId -> roomExists state roomId = true

def PaneShowsActiveRoom (state : AppState) : Prop :=
  forall roomId, state.navigation.activeRoomId = some roomId -> state.timeline.roomId = some roomId

def ActiveSpaceListed (state : AppState) : Prop :=
  forall spaceId, state.navigation.activeSpaceId = some spaceId -> spaceExists state spaceId = true

/-- The active room, the pane and the active space fit together. -/
structure Coherent (state : AppState) : Prop where
  activeRoomListed : ActiveRoomListed state
  paneShowsActiveRoom : PaneShowsActiveRoom state
  activeSpaceListed : ActiveSpaceListed state

/-! ## Changes of the active room -/

variable {before after state : AppState}

theorem PaneChange.activeRoomListed (change : PaneChange before after)
    (keeps : KeepsLists before after) (listed : ActiveRoomListed before) : ActiveRoomListed after := by
  intro roomId active
  rw [keeps.roomExists]
  cases change with
  | kept same _ _ => exact listed roomId (same ▸ active)
  | opened opened known same _ _ =>
    rw [same] at active
    cases active
    exact known
  | cleared same _ _ =>
    rw [same] at active
    cases active

theorem PaneChange.paneShowsActiveRoom (change : PaneChange before after)
    (shown : PaneShowsActiveRoom before) : PaneShowsActiveRoom after := by
  intro roomId active
  cases change with
  | kept same timeline _ =>
    rw [timeline]
    exact shown roomId (same ▸ active)
  | opened opened _ same timeline _ =>
    rw [same] at active
    cases active
    rw [timeline]
    rfl
  | cleared same _ _ =>
    rw [same] at active
    cases active

theorem KeepsLists.activeSpaceListed (keeps : KeepsLists before after)
    (listed : ActiveSpaceListed before) : ActiveSpaceListed after := by
  intro spaceId active
  rw [keeps.spaceExists]
  exact listed spaceId (keeps.activeSpaceId ▸ active)

/-- A coherent state stays coherent when its active room changes. -/
theorem Coherent.of_change (coherent : Coherent before)
    (keeps : KeepsLists before after) (change : PaneChange before after) : Coherent after where
  activeRoomListed := change.activeRoomListed keeps coherent.activeRoomListed
  paneShowsActiveRoom := change.paneShowsActiveRoom coherent.paneShowsActiveRoom
  activeSpaceListed := keeps.activeSpaceListed coherent.activeSpaceListed

/-! ## Room-list updates -/

theorem closeVanishedSpace_activeSpaceListed : ActiveSpaceListed (closeVanishedSpace state) := by
  intro spaceId active
  exact (Option.filter_eq_some_iff.mp active).2

theorem closeVanishedRoom_activeRoomListed (state : AppState) :
    ActiveRoomListed (closeVanishedRoom state).1 := by
  intro roomId active
  unfold closeVanishedRoom at active ⊢
  split at active
  · next none =>
    rw [none] at active
    cases active
  · next activeRoomId found =>
    split at active
    · next known =>
      rw [found] at active
      cases active
      rw [if_pos known]
      exact known
    · cases active

theorem reopenActiveRoom_paneShowsActiveRoom (listed : ActiveRoomListed state) :
    PaneShowsActiveRoom (reopenActiveRoom state).1 := by
  intro roomId active
  unfold reopenActiveRoom at active ⊢
  split at active
  · next none =>
    rw [none] at active
    cases active
  · next activeRoomId found =>
    split at active
    · next hidden =>
      cases active
      rw [if_pos hidden]
      rfl
    · next shown =>
      rw [found] at active
      cases active
      rw [if_neg shown]
      by_contra different
      exact shown (by simp [different, listed roomId found])

/-- Whatever the list was, the active room ends up listed and shown. -/
theorem resolveActiveRoom_coherent (hadActiveRoom : Bool)
    (spaceListed : ActiveSpaceListed state) : Coherent (resolveActiveRoom hadActiveRoom state).1 := by
  have closed := closeVanishedRoom_activeRoomListed state
  have replaced := (replaceVanishedRoom_isStage hadActiveRoom _).2.activeRoomListed
    (replaceVanishedRoom_isStage hadActiveRoom _).1 closed
  have followed := (followSelectedSpace_isStage _).2.activeRoomListed
    (followSelectedSpace_isStage _).1 replaced
  have reopened := (reopenActiveRoom_isStage _).2.activeRoomListed (reopenActiveRoom_isStage _).1 followed
  refine ⟨?_, ?_, (resolveActiveRoom_keeps hadActiveRoom state).activeSpaceListed spaceListed⟩
  · exact (openDefaultRoom_isStage hadActiveRoom _).2.activeRoomListed
      (openDefaultRoom_isStage hadActiveRoom _).1 reopened
  · exact (openDefaultRoom_isStage hadActiveRoom _).2.paneShowsActiveRoom
      (reopenActiveRoom_paneShowsActiveRoom followed)

section

variable {state : AppState} (coherent : Coherent state)
include coherent

theorem handleRoomListUpdatedWithCrawler_coherent
    (spaces : List SpaceSummary) (rooms : List RoomSummary) (admitCrawler authoritative : Bool) :
    Coherent (handleRoomListUpdatedWithCrawler state spaces rooms admitCrawler authoritative).1 := by
  unfold handleRoomListUpdatedWithCrawler
  split
  · exact coherent
  · exact resolveActiveRoom_coherent _ (closeVanishedSpace_activeSpaceListed)

theorem Coherent.of_listChange (change : ListChange state after) : Coherent after := by
  cases change with
  | ignored => exact coherent
  | installed =>
    apply handleRoomListUpdatedWithCrawler_coherent
    exact { coherent with }

/-! ## Selections -/

theorem rememberActiveRoomForCurrentSpace_coherent :
    Coherent (rememberActiveRoomForCurrentSpace state) := by
  rcases rememberActiveRoomForCurrentSpace_kept state with ⟨active, timeline, thread⟩
  exact coherent.of_change (rememberActiveRoomForCurrentSpace_keeps state) (.kept active timeline thread)

/-- A new scope that is listed keeps the state coherent. -/
theorem Coherent.withScope (spaceId : Option String)
    (listed : forall selected, spaceId = some selected -> spaceExists state selected = true) :
    Coherent { state with navigation.activeSpaceId := spaceId } where
  activeRoomListed := coherent.activeRoomListed
  paneShowsActiveRoom := coherent.paneShowsActiveRoom
  activeSpaceListed := listed

theorem clearActiveRoomForNavigation_coherent
    (previousRoomId : String) : Coherent (clearActiveRoomForNavigation state previousRoomId).1 :=
  coherent.of_change (by constructor <;> rfl) (.cleared rfl rfl rfl)

theorem selectActiveRoomForNavigation_coherent
    {roomId : String} (listed : roomExists state roomId = true) :
    Coherent (selectActiveRoomForNavigation state roomId).1 :=
  coherent.of_change selectActiveRoomForNavigation_keeps (selectActiveRoomForNavigation_change listed)

theorem openRestoredRoom_coherent {targetRoomId : Option String}
    (listed : forall roomId, targetRoomId = some roomId -> roomExists state roomId = true) :
    Coherent (openRestoredRoom state targetRoomId).1 := by
  unfold openRestoredRoom
  split
  · exact coherent
  split
  · exact selectActiveRoomForNavigation_coherent coherent (listed _ rfl)
  · exact clearActiveRoomForNavigation_coherent coherent _
  · exact coherent

theorem restoreFilter_coherent
    (restored : SpaceNavigationSelection × Bool) : Coherent (restoreFilter state restored) := by
  unfold restoreFilter
  split
  · exact { coherent with }
  · exact coherent

end

theorem restoreFilter_roomExists (restored : SpaceNavigationSelection × Bool)
    (roomId : String) : roomExists (restoreFilter state restored) roomId = roomExists state roomId := by
  unfold restoreFilter
  split <;> rfl

theorem handleSelectSpace_coherent (coherent : Coherent state) (spaceId : Option String) :
    Coherent (handleSelectSpace state spaceId).1 := by
  have remembered := rememberActiveRoomForCurrentSpace_coherent coherent
  have inScope := remembered.withScope
    (spaceId.filter (spaceExists (rememberActiveRoomForCurrentSpace state)))
    (fun _ selected => (Option.filter_eq_some_iff.mp selected).2)
  unfold handleSelectSpace
  split
  · exact coherent
  dsimp only
  split
  · simp only [Outcome.andThen_state]
    split
    · exact clearActiveRoomForNavigation_coherent inScope _
    · exact inScope
  · refine rememberActiveRoomForCurrentSpace_coherent (openRestoredRoom_coherent ?_ ?_)
    · exact restoreFilter_coherent inScope _
    · intro roomId selected
      rw [restoreFilter_roomExists]
      exact roomExists_of_preferredSelection selected

theorem scopeForRoom_listed (coherent : Coherent state) (room : RoomSummary) :
    forall selected, scopeForRoom state room = some selected -> spaceExists state selected = true := by
  intro selected found
  unfold scopeForRoom at found
  split at found
  · exact coherent.activeSpaceListed selected found
  split at found
  · exact coherent.activeSpaceListed selected found
  · exact List.find?_some found

theorem handleSelectRoom_coherent (coherent : Coherent state) (roomId : String) :
    Coherent (handleSelectRoom state roomId).1 := by
  have remembered := rememberActiveRoomForCurrentSpace_coherent coherent
  unfold handleSelectRoom
  split
  · exact coherent
  split
  · exact coherent
  next selectedRoom found =>
  have inScope := remembered.withScope _ (scopeForRoom_listed remembered selectedRoom)
  have listed : roomExists (rememberActiveRoomForCurrentSpace state) roomId = true := by
    rw [(rememberActiveRoomForCurrentSpace_keeps state).roomExists]
    exact roomExists_of_findRoom found
  refine rememberActiveRoomForCurrentSpace_coherent ?_
  split
  · exact inScope
  · exact selectActiveRoomForNavigation_coherent inScope listed

/-! ## The reducer -/

/-- The actions that update the room list or select a room or a space. -/
def AppAction.navigates : AppAction -> Bool
  | .roomListUpdated _ _ => true
  | .roomListSnapshotProvisional _ => true
  | .roomListSnapshotAuthoritative _ => true
  | .roomLeftLocally _ => true
  | .selectSpace _ => true
  | .selectRoom _ => true
  | _ => false

theorem syncAssistantDraftMarkers_coherent (coherent : Coherent state) :
    Coherent (syncAssistantDraftMarkers state) := by
  unfold syncAssistantDraftMarkers
  dsimp only
  split <;> exact { coherent with }

/-- After a room-list update or a selection the active room is none or listed,
the pane shows it, and the active space is none or listed. -/
theorem step_coherent {state : AppState} {action : AppAction} (coherent : Coherent state)
    (navigates : action.navigates = true) : Coherent (step state action) := by
  apply syncAssistantDraftMarkers_coherent
  cases action with
  | roomListUpdated => exact coherent.of_listChange (handleRoomListUpdated_change ..)
  | roomListSnapshotProvisional => exact coherent.of_listChange (handleRoomListSnapshotProvisional_change ..)
  | roomListSnapshotAuthoritative =>
    exact coherent.of_listChange (handleRoomListSnapshotAuthoritative_change ..)
  | roomLeftLocally => exact coherent.of_listChange (handleRoomLeftLocally_change ..)
  | selectSpace spaceId => exact handleSelectSpace_coherent coherent spaceId
  | selectRoom roomId => exact handleSelectRoom_coherent coherent roomId
  | _ => cases navigates

/-- A ready session with one listed room and nothing open. -/
def lobbyState : AppState :=
  { AppState.default with
    session := .ready ⟨"https://example.org", "@ada:example.org", "DEVICE"⟩
    rooms := [⟨"!lobby", false, [], []⟩] }

theorem step_coherent_lobby : Coherent (step lobbyState (.selectRoom "!lobby")) ∧
      (step lobbyState (.selectRoom "!lobby")).navigation.activeRoomId = some "!lobby" := by
  refine ⟨step_coherent ⟨?_, ?_, ?_⟩ rfl, by decide⟩
  · intro roomId active
    cases active
  · intro roomId active
    cases active
  · intro spaceId active
    cases active

end Koushi
