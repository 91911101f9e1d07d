import Koushi.Rooms.Handlers

namespace Koushi.Rooms

open Collections SidebarState SidebarSectionPatch

/-!
# When the sidebar is published

A state delta carries the sidebar only if one of the slices on a list has changed.
The list names what the projection reads, with one exception.  A scope without
settings of its own for the low-priority section falls back on the flag
`collapsed.lowPriority`, which is older than the scopes and which the list does not
have.  The sidebar of the next state is then the sidebar of the previous state with
this one flag in it, and the theorem below says exactly when that is a difference.
-/

/-- The comparison that decides whether the sidebar is composed again. -/
def sidebarInputsChanged (previous next : SidebarState) : Bool :=
  decide (previous.navigation.activeSpaceId ≠ next.navigation.activeSpaceId) ||
  decide (previous.navigation.activeRoomId ≠ next.navigation.activeRoomId) ||
  decide (previous.navigation.revealedSidebarSection ≠ next.navigation.revealedSidebarSection) ||
  decide (previous.navigation.spaceOrder ≠ next.navigation.spaceOrder) ||
  decide (previous.navigation.spaceLocalPresentations ≠ next.navigation.spaceLocalPresentations) ||
  decide (previous.settings.roomListSort ≠ next.settings.roomListSort) ||
  decide (previous.settings.sidebar.scopePreferences ≠ next.settings.sidebar.scopePreferences) ||
  decide (previous.spaces ≠ next.spaces) ||
  decide (previous.rooms ≠ next.rooms) ||
  decide (previous.invites ≠ next.invites) ||
  decide (previous.roomNotificationSettings ≠ next.roomNotificationSettings) ||
  decide (previous.roomAccess ≠ next.roomAccess) ||
  decide (previous.spaceChildren ≠ next.spaceChildren) ||
  decide (previous.basicOperation ≠ next.basicOperation) ||
  decide (previous.spaceChildLinks ≠ next.spaceChildLinks)

section Text

variable (text : TextRules)

/-- The sidebar that a delta carries, if it carries one. -/
def changedSidebar (previous next : SidebarState) : Option SidebarModel :=
  if sidebarInputsChanged previous next then
    if composeSidebarForState text previous ≠ composeSidebarForState text next then
      some (composeSidebarForState text next)
    else none
  else none

variable (state : SidebarState)

/-- The flag of a scope's own low-priority settings, if it has any. -/
def SidebarState.ownLowPriorityCollapse : Option Bool :=
  (state.settings.sidebar.scopePreferences[sidebarScopeKey state.navigation.activeSpaceId]?.bind
    (fun scope => scope.lowPriority)).map (fun own => own.collapsed)

/-- Whether the session shows the low-priority section open for the open room. -/
def SidebarState.lowPriorityRevealed : Bool :=
  sectionRevealed ⟨state.navigation.activeRoomId, state.navigation.revealedSidebarSection⟩
    (sidebarScopeKey state.navigation.activeSpaceId) .lowPriority
    (composeSidebarForState text state).sections.lowPriority

/-- The old flag decides what the section looks like. -/
def SidebarState.legacyFlagDecides : Bool :=
  state.ownLowPriorityCollapse.isNone && !state.lowPriorityRevealed text

/-- The same state with another value of the old flag. -/
def SidebarState.withLegacyFlag (flag : Bool) : SidebarState :=
  { state with
    settings.sidebar.collapsed.lowPriority := flag }

theorem scope_lowPriority (settings : SidebarSettings) (scope : Option String) (sort : RoomListSort)
    (flag : Bool) : { settings with collapsed.lowPriority := flag }.scope scope sort =
      { settings.scope scope sort with
        lowPriority := some
          { collapsed := ((settings.scopePreferences[sidebarScopeKey scope]?.bind
              (·.lowPriority)).map (·.collapsed)).getD flag
            sort := (settings.scope scope sort).rooms.sort
            expanded := ((settings.scope scope sort).lowPriority.getD default).expanded } } := by
  unfold SidebarSettings.scope
  cases settings.scopePreferences[sidebarScopeKey scope]? <;> rfl

/-- The old flag reaches one field of the sidebar. -/
theorem composeSidebarForState_withLegacyFlag (flag : Bool) :
    composeSidebarForState text (state.withLegacyFlag flag) = { composeSidebarForState text state with
        lowPriorityCollapsed :=
          state.ownLowPriorityCollapse.getD flag && !state.lowPriorityRevealed text } := by
  have sameScope := scope_lowPriority state.settings.sidebar state.navigation.activeSpaceId
    state.settings.roomListSort flag
  unfold composeSidebarForState
  dsimp only [withLegacyFlag]
  rw [sameScope]
  rfl

/-- Slices on the list that have not changed give the sidebar of the previous state,
with the old flag of the next one. -/
theorem composeSidebarForState_of_unchanged {previous next : SidebarState}
    (unchanged : sidebarInputsChanged previous next = false) :
    composeSidebarForState text next = composeSidebarForState text
      (previous.withLegacyFlag next.settings.sidebar.collapsed.lowPriority) := by
  simp only [sidebarInputsChanged, Bool.or_eq_false_iff, decide_eq_false_iff_not, not_not] at unchanged
  obtain ⟨⟨⟨⟨⟨⟨⟨⟨⟨⟨⟨⟨⟨⟨space, room⟩, reveal⟩, order⟩, presentations⟩, sort⟩, scopes⟩, spaces⟩, rooms⟩,
    invites⟩, notifications⟩, access⟩, children⟩, operation⟩, links⟩ := unchanged
  have sameScope : next.settings.sidebar.scope next.navigation.activeSpaceId next.settings.roomListSort =
      { previous.settings.sidebar with
        collapsed.lowPriority := next.settings.sidebar.collapsed.lowPriority }.scope
          previous.navigation.activeSpaceId previous.settings.roomListSort := by
    unfold SidebarSettings.scope
    rw [space, sort, scopes]
  unfold composeSidebarForState
  rw [sameScope]
  dsimp only [withLegacyFlag, spaceAddRoomsForState, createRoomDefaultsForState]
  rw [space, room, reveal, order, presentations, spaces, rooms, invites, notifications, access, children,
    operation, links]

/-- The guard is right exactly when the old flag does not decide or has not changed. -/
theorem composeSidebarForState_eq_iff (previous next : SidebarState)
    (unchanged : sidebarInputsChanged previous next = false) :
    composeSidebarForState text previous = composeSidebarForState text next ↔
      (previous.legacyFlagDecides text = true ->
        previous.settings.sidebar.collapsed.lowPriority = next.settings.sidebar.collapsed.lowPriority) := by
  have own : composeSidebarForState text previous =
      { composeSidebarForState text previous with
        lowPriorityCollapsed := previous.ownLowPriorityCollapse.getD
          previous.settings.sidebar.collapsed.lowPriority && !previous.lowPriorityRevealed text } :=
    composeSidebarForState_withLegacyFlag text previous previous.settings.sidebar.collapsed.lowPriority
  rw [composeSidebarForState_of_unchanged text unchanged, composeSidebarForState_withLegacyFlag]
  conv_lhs => lhs; rw [own]
  simp only [legacyFlagDecides]
  cases previous.ownLowPriorityCollapse <;> cases previous.lowPriorityRevealed text <;> simp

end Text

/-- An account without rooms, at Home, with the settings of a new device. -/
def SidebarState.empty : SidebarState where
  navigation := { toNavigationState := default, spaceLocalPresentations := ∅, revealedSidebarSection := none }
  settings := ⟨.recentFirst, ⟨⟨false, false, false⟩, ∅⟩, ⟨true⟩⟩
  spaces := []
  rooms := []
  invites := []
  roomNotificationSettings := ∅
  roomAccess := ∅
  spaceChildren := ⟨none, 0, []⟩
  basicOperation := .idle
  spaceChildLinks := ⟨[]⟩

/-- Another flag of the same record is read nowhere in the projection. -/
theorem composeSidebarForState_eq_not_joined_flag : composeSidebarForState ⟨id, id⟩ .empty =
      composeSidebarForState ⟨id, id⟩
        { empty with settings.sidebar.collapsed.notJoined := true } :=
  (composeSidebarForState_eq_iff ⟨id, id⟩ .empty
    { empty with settings.sidebar.collapsed.notJoined := true } (by decide +kernel)).mpr
    (fun _ => rfl)

/-- Settings that only collapse the low-priority section on the whole device change
the sidebar, and no sidebar is published. -/
theorem legacy_flag_leaves_sidebar_stale :
    let next := empty.withLegacyFlag true
    sidebarInputsChanged .empty next = false ∧ changedSidebar ⟨id, id⟩ .empty next = none ∧
      (composeSidebarForState ⟨id, id⟩ .empty).lowPriorityCollapsed = false ∧
      (composeSidebarForState ⟨id, id⟩ next).lowPriorityCollapsed = true ∧
      composeSidebarForState ⟨id, id⟩ .empty ≠ composeSidebarForState ⟨id, id⟩ next := by
  decide +kernel

/-! ## A patch of one section -/

/-- The low-priority section of a scope is collapsed as the old flag says, whatever it says. -/
def SidebarSettings.FollowsFlag (settings : SidebarSettings) (scope : Option String) : Prop :=
  ∀ flag sort, ({ settings with collapsed.lowPriority := flag }.scope scope sort).lowPriority.map
    SidebarSectionSettings.collapsed = some flag

/-- The settings of a scope with the patched fields of one section, and the low-priority
section in the order of the rooms. -/
def SidebarSectionPatch.view (patch : SidebarSectionPatch) (scope : SidebarScopeSettings) :
    SidebarScopeSettings :=
  match patch.sectionKind with
  | .rooms =>
    let rooms := patch.apply scope.rooms
    { scope with rooms, lowPriority := scope.lowPriority.map ({ · with sort := rooms.sort }) }
  | .dms => { scope with dms := patch.apply scope.dms }
  | .lowPriority =>
    { scope with lowPriority := scope.lowPriority.map ({ patch.apply · with sort := scope.rooms.sort }) }

/-- The scope is stored or its low-priority section is patched; and a stored scope without
low-priority settings gets a collapse choice with them, unless the old flag says open. -/
def SidebarSectionPatch.Fits (patch : SidebarSectionPatch) (settings : SidebarSettings) : Prop :=
  match settings.scopePreferences[patch.scope]? with
  | none => patch.sectionKind = .lowPriority
  | some own => patch.sectionKind = .lowPriority -> own.lowPriority = none -> patch.collapsed = none ->
    settings.collapsed.lowPriority = false

section Patch

variable {settings : SidebarSettings} {scope : Option String}

theorem followsFlag_iff : settings.FollowsFlag scope ↔
    settings.scopePreferences[sidebarScopeKey scope]?.bind (·.lowPriority) = none := by
  unfold SidebarSettings.FollowsFlag
  simp only [scope_lowPriority, Option.map_some, Option.some.injEq]
  cases settings.scopePreferences[sidebarScopeKey scope]?.bind (·.lowPriority) with
  | none => simp
  | some own =>
    -- its own settings do not say the negation of what they say
    refine iff_of_false (fun follows => ?_) (Option.some_ne_none own)
    exact Bool.not_ne_self own.collapsed (follows (!own.collapsed) .activity).symm

variable (settings) (patch : SidebarSectionPatch) (fallbackSort : RoomListSort)

theorem getElem?_applySectionPatch_of_ne {key : String} (different : key ≠ patch.scope) :
    (settings.applySectionPatch patch fallbackSort).scopePreferences[key]? = settings.scopePreferences[key]? :=
  OrdMap.getElem?_insert_of_ne (Ne.symm different)

/-- Only the scope of the patch can stop following the flag. -/
theorem applySectionPatch_followsFlag_iff : (∀ scope, settings.FollowsFlag scope ->
      ¬(sidebarScopeKey scope = patch.scope ∧ patch.sectionKind = .lowPriority) ->
        (settings.applySectionPatch patch fallbackSort).FollowsFlag scope) ↔
    (patch.sectionKind ≠ .lowPriority -> settings.FollowsFlag (some patch.scope) ->
      (settings.applySectionPatch patch fallbackSort).FollowsFlag (some patch.scope)) := by
  constructor
  · intro all other before
    exact all (some patch.scope) before (fun patched => other patched.2)
  · intro here scope before unpatched
    rw [followsFlag_iff] at before ⊢
    by_cases same : sidebarScopeKey scope = patch.scope
    · rw [same] at before ⊢
      exact followsFlag_iff.mp (here (fun kind => unpatched ⟨same, kind⟩) (followsFlag_iff.mpr before))
    · rwa [getElem?_applySectionPatch_of_ne settings patch fallbackSort same]

/-- A patch leaves every other scope, changes of its own scope the patched fields, and leaves
every scope whose low-priority section it does not patch to the old flag, if and only if
it fits. -/
theorem applySectionPatch_frame_iff :
    let after := settings.applySectionPatch patch fallbackSort
    ((∀ scope sort, sidebarScopeKey scope ≠ patch.scope -> after.scope scope sort = settings.scope scope sort) ∧
      after.scope (some patch.scope) fallbackSort = patch.view (settings.scope (some patch.scope) fallbackSort) ∧
      ∀ scope, settings.FollowsFlag scope ->
        ¬(sidebarScopeKey scope = patch.scope ∧ patch.sectionKind = .lowPriority) -> after.FollowsFlag scope) ↔
    patch.Fits settings := by
  intro after
  have unchanged : ∀ scope sort, sidebarScopeKey scope ≠ patch.scope ->
      after.scope scope sort = settings.scope scope sort := by
    intro scope sort different
    rw [SidebarSettings.scope, getElem?_applySectionPatch_of_ne settings patch fallbackSort different]
    rfl
  have closed : (default : SidebarSectionSettings).collapsed = false := rfl
  have folded : (default : SidebarSectionSettings).expanded = false := rfl
  rw [and_iff_right unchanged, applySectionPatch_followsFlag_iff, followsFlag_iff, followsFlag_iff]
  simp only [after, SidebarSettings.applySectionPatch, SidebarSectionPatch.Fits, SidebarSettings.scope,
    view, sidebarScopeKey, Option.getD_some, Std.ExtTreeMap.getElem?_insert_self]
  cases settings.scopePreferences[patch.scope]? with
  | none => cases patch.sectionKind <;> simp [apply]
  | some own =>
    rcases own with ⟨rooms, dms, lowPriority⟩
    cases patch.sectionKind <;> cases lowPriority <;> cases collapsed : patch.collapsed <;>
      simp [apply, collapsed, closed, folded]

/-- A patch of the rooms of a space cuts its low-priority section off from the flag; and a
section that the flag collapses opens when it is only expanded. -/
theorem section_patch_reaches_the_low_priority_section :
    let folded : SidebarSettings := ⟨⟨false, true, false⟩, ∅⟩
    let patched := folded.applySectionPatch ⟨"!a", .rooms, some true, none, none⟩ .activity
    let stored := { folded with scopePreferences := folded.scopePreferences.insert "!a" ⟨default, default, none⟩ }
    let collapse (settings : SidebarSettings) := (settings.scope (some "!a") .activity).lowPriority.map (·.collapsed)
    collapse folded = some true ∧ collapse { folded with collapsed.lowPriority := false } = some false ∧
      collapse { patched with collapsed.lowPriority := false } = some true ∧
      collapse stored = some true ∧
      collapse (stored.applySectionPatch ⟨"!a", .lowPriority, none, none, some true⟩ .activity) = some false := by
  decide +kernel

end Patch

end Koushi.Rooms
