import Koushi.Library.Run
import Koushi.Rooms.Handlers

namespace Koushi.Rooms

open Collections

/-!
# The reducer behind the room list

The actions of the source that write what the room list, the sidebar or the badge is
computed from, and a step for each.  Three actions stand for many: `sessionStepped`
for the steps of the session that leave the views alone, `sessionViewsCleared` for
those that empty them, and `othersChanged` for the features that write the remaining
slices.  The last may set its slices to anything, so every run of the source has a run
here.
-/

/-- The slices that other features write. -/
structure OtherSlices where
  roomAccess : OrdMap String RoomAccessCondition
  spaceChildren : SpaceChildrenState
  basicOperation : BasicOperationState
  spaceChildLinks : SpaceChildLinkResults
  spaceLocalPresentations : OrdMap String SpaceLocalPresentation
  activeRoomId : Option String
  mainTimelineAnchor : Option String
  eventNavigation : EventNavigationState
  timelineRoomId : Option String
  observedAvatars : List AvatarImage
  fullyReadEventIds : OrdMap String String

inductive AppAction where
  -- the session
  | sessionStepped (next : SessionState)
  | sessionViewsCleared (next : SessionState)
  | appStateReset
  -- lists
  | roomListInstalled (update : RoomListUpdate)
  | roomLeftLocally (roomId : String)
  | roomJoinedLocally (roomId : String)
  | roomListBootstrapStarted (generation : Nat) (source : RoomListSource)
  | roomListBootstrapFailed (generation : Nat) (source : RoomListSource) (kind : RoomListFailureKind)
  | roomListFilterSelected (filter : RoomListFilter)
  | inviteListUpdated (invites : List InvitePreview)
  | roomActivityLoaded (activity : RoomActivityState)
  -- one room
  | roomTagsUpdated (roomId : String) (tags : RoomTags)
  | roomTagSet (roomId : String) (tag : RoomTagKind) (info : RoomTagInfo)
  | roomTagRemoved (roomId : String) (tag : RoomTagKind)
  | roomMarkedAsReadSucceeded (roomId : String)
  | roomMarkedAsUnreadSucceeded (roomId : String) (unread : Bool)
  | threadUnreadObserved (roomId rootEventId : String) (unread highlight : Nat)
  -- notification modes
  | roomPreferencesLoaded (modes : OrdMap String RoomNotificationMode)
  | roomNotificationModeSet (requestId : Nat) (roomId : String) (mode : RoomNotificationMode)
  | roomNotificationModeCompleted (requestId : Nat) (roomId : String)
  | roomNotificationModeFailed (requestId : Nat) (roomId : String) (kind : OperationFailureKind)
  | roomNotificationModesObserved (generation : Nat) (source : RoomListSource)
      (modes : OrdMap String RoomNotificationMode)
  | roomNotificationPolicySynced (generation : Nat)
  | roomNotificationModeConfirmed (requestId : Nat) (roomId : String) (mode : RoomNotificationMode)
  -- settings
  | settingsLoaded (values : SettingsValues)
  | accountSettingsLoaded (values : SettingsValues) (otherChanged : Bool)
  | appSettingsSynchronized (changed : Bool)
  | settingsUpdateRequested (patch : SettingsPatch)
  -- selection
  | selectSpace (spaceId : Option String)
  | selectRoom (roomId : String)
  | navigationLoaded (navigation : NavigationState)
  | reorderSpaces (spaceIds : List String)
  | spaceOrderPreferenceRemoved (spaceId : String)
  | directoryJoinRequested (requestId : Nat) (roomIdOrAlias : String) (viaServers : List String)
  | directoryJoinSucceeded (requestId : Nat) (roomId : String)
  | directoryJoinFailed (requestId : Nat) (roomIdOrAlias : String) (viaServers : List String)
      (kind : OperationFailureKind)
  | spaceChildLinkSettled (requestId : Nat) (spaceId childRoomId : String)
      (outcome : SpaceChildLinkOutcome)
  -- the profile
  | ownProfileUpdated (own : OwnProfile)
  | userProfilesUpdated (profiles : List UserProfile)
  | localUserAliasesLoaded (aliases : OrdMap String String)
  | localUserAliasUpdateRequested (requestId : Nat) (userId : String) (name : Option String)
  | localUserAliasUpdateSettled (requestId : Nat)
  | profileUpdateRequested (requestId : Nat) (request : ProfileUpdateRequest)
  | profileUpdateSucceeded (requestId : Nat) (own : OwnProfile)
  | profileUpdateFailed (requestId : Nat)
  | ignoredUsersLoaded (userIds : OrdSet String)
  | ignoredUserUpdateRequested (requestId : Nat) (userId : String) (ignored : Bool)
  | ignoredUserUpdateSucceeded (requestId : Nat)
  | ignoredUserUpdateFailed (requestId : Nat) (userId : String) (ignored : Bool)
  | avatarThumbnailUpdated (mxcUri : String) (thumbnail : AvatarThumbnailState)
  -- attention and everything else
  | nativeWindowFocusChanged (focused : Bool) (observationGeneration : Nat)
  | othersChanged (others : OtherSlices)

/-- Empty every view.  The settings and the children's generation belong to the device,
and the window keeps its focus. -/
def clearSessionViews (state : AppState) (next : SessionState) : AppState :=
  { AppState.empty state.settings next with
    spaceChildren := state.spaceChildren
    nativeAttention := { (Inhabited.default : NativeAttentionState) with
      windowFocused := state.nativeAttention.windowFocused
      windowFocusObservationGeneration := state.nativeAttention.windowFocusObservationGeneration } }

def handleOthersChanged (state : AppState) (others : OtherSlices) : AppState :=
  { state with
    roomAccess := others.roomAccess
    spaceChildren := others.spaceChildren
    basicOperation := others.basicOperation
    spaceChildLinks := others.spaceChildLinks
    navigation.spaceLocalPresentations := others.spaceLocalPresentations
    navigation.activeRoomId := others.activeRoomId
    navigation.mainTimelineAnchor := others.mainTimelineAnchor
    navigation.eventNavigation := others.eventNavigation
    timelineRoomId := others.timelineRoomId
    observedAvatars := others.observedAvatars
    fullyReadEventIds := others.fullyReadEventIds }

def step (text : TextRules) (state : AppState) : AppAction -> AppState
  | .sessionStepped next => { state with session := next }
  | .sessionViewsCleared next => clearSessionViews state next
  | .appStateReset => AppState.empty state.settings .signedOut
  | .roomListInstalled update => update.install text state
  | .roomLeftLocally roomId => handleRoomLeftLocally text state roomId
  | .roomJoinedLocally roomId => handleRoomJoinedLocally state roomId
  | .roomListBootstrapStarted generation source =>
    handleRoomListBootstrapStarted text state generation source
  | .roomListBootstrapFailed generation source kind =>
    handleRoomListBootstrapFailed text state generation source kind
  | .roomListFilterSelected filter => handleRoomListFilterSelected text state filter
  | .inviteListUpdated invites => handleInviteListUpdated text state invites
  | .roomActivityLoaded activity => handleRoomActivityLoaded text state activity
  | .roomTagsUpdated roomId tags => handleRoomTagsUpdated state roomId tags
  | .roomTagSet roomId tag info => handleRoomTagSet state roomId tag info
  | .roomTagRemoved roomId tag => handleRoomTagRemoved state roomId tag
  | .roomMarkedAsReadSucceeded roomId => handleRoomMarkedAsReadSucceeded text state roomId
  | .roomMarkedAsUnreadSucceeded roomId unread =>
    handleRoomMarkedAsUnreadSucceeded text state roomId unread
  | .threadUnreadObserved roomId rootEventId unread highlight =>
    handleThreadUnreadObserved text state roomId rootEventId unread highlight
  | .roomPreferencesLoaded modes => handleRoomPreferencesLoaded text state modes
  | .roomNotificationModeSet requestId roomId mode =>
    handleRoomNotificationModeSet text state requestId roomId mode
  | .roomNotificationModeCompleted requestId roomId =>
    handleRoomNotificationModeCompleted state requestId roomId
  | .roomNotificationModeFailed requestId roomId kind =>
    handleRoomNotificationModeFailed state requestId roomId kind
  | .roomNotificationModesObserved generation source modes =>
    handleRoomNotificationModesObserved text state generation source modes
  | .roomNotificationPolicySynced generation => handleRoomNotificationPolicySynced state generation
  | .roomNotificationModeConfirmed requestId roomId mode =>
    handleRoomNotificationModeConfirmed text state requestId roomId mode
  | .settingsLoaded values => handleSettingsLoaded text state values
  | .accountSettingsLoaded values otherChanged =>
    handleAccountSettingsLoaded text state values otherChanged
  | .appSettingsSynchronized changed => handleAppSettingsSynchronized state changed
  | .settingsUpdateRequested patch => handleSettingsUpdateRequested text state patch
  | .selectSpace spaceId => handleSelectSpace text state spaceId
  | .selectRoom roomId => handleSelectRoom text state roomId
  | .navigationLoaded navigation => handleNavigationLoaded text state navigation
  | .reorderSpaces spaceIds => handleReorderSpaces state spaceIds
  | .spaceOrderPreferenceRemoved spaceId => handleSpaceOrderPreferenceRemoved state spaceId
  | .directoryJoinRequested requestId roomIdOrAlias viaServers =>
    handleDirectoryJoinRequested state requestId roomIdOrAlias viaServers
  | .directoryJoinSucceeded requestId roomId => handleDirectoryJoinSucceeded state requestId roomId
  | .directoryJoinFailed requestId roomIdOrAlias viaServers kind =>
    handleDirectoryJoinFailed state requestId roomIdOrAlias viaServers kind
  | .spaceChildLinkSettled requestId spaceId childRoomId outcome =>
    handleSpaceChildLinkSettled state requestId spaceId childRoomId outcome
  | .ownProfileUpdated own => handleOwnProfileUpdated text state own
  | .userProfilesUpdated profiles => handleUserProfilesUpdated text state profiles
  | .localUserAliasesLoaded aliases => handleLocalUserAliasesLoaded text state aliases
  | .localUserAliasUpdateRequested requestId userId name =>
    handleLocalUserAliasUpdateRequested text state requestId userId name
  | .localUserAliasUpdateSettled requestId => handleLocalUserAliasUpdateSettled state requestId
  | .profileUpdateRequested requestId request => handleProfileUpdateRequested state requestId request
  | .profileUpdateSucceeded requestId own => handleProfileUpdateSucceeded text state requestId own
  | .profileUpdateFailed requestId => handleProfileUpdateFailed state requestId
  | .ignoredUsersLoaded userIds => handleIgnoredUsersLoaded text state userIds
  | .ignoredUserUpdateRequested requestId userId ignored =>
    handleIgnoredUserUpdateRequested text state requestId userId ignored
  | .ignoredUserUpdateSucceeded requestId => handleIgnoredUserUpdateSucceeded state requestId
  | .ignoredUserUpdateFailed requestId userId ignored =>
    handleIgnoredUserUpdateFailed state requestId userId ignored
  | .avatarThumbnailUpdated mxcUri thumbnail =>
    handleAvatarThumbnailUpdated text state mxcUri thumbnail
  | .nativeWindowFocusChanged focused observationGeneration =>
    handleNativeWindowFocusChanged state focused observationGeneration
  | .othersChanged others => handleOthersChanged state others

end Koushi.Rooms
