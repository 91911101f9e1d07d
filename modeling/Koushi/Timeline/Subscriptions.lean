import Koushi.Timeline.Residency
import Koushi.Timeline.SendCompletion

namespace Koushi

open Collections Machine List

/-!
# Timelines of rooms that were left

Besides the rooms that it subscribes to, the manager has the timelines that are open and
the focused ones that are being built.  A request for a timeline subscribes its room, unless
the room has a leave state.  A leave closes every timeline of the room.  So a room that was
left has no timeline and is not subscribed before it is rejoined, or observed to be left and
then joined or invited.
-/

/-- What a request for a timeline meets: whether there is a session, whether the SDK covers
the room, whether an open timeline accepts the replay, and whether a new one can be built. -/
structure SubscribeAnswer where
  (session covered replayed built : Bool)
deriving DecidableEq, Repr

inductive ManagerMessage where
  | residency (message : ResidencyMessage)
  | subscribe (key : TimelineKey) (answer : SubscribeAnswer)
  | focusedBuildCompleted (key : TimelineKey) (installed : Bool)
  | unsubscribe (key : TimelineKey)
deriving DecidableEq, Repr

structure TimelineManager where
  rooms : TimelineManagerActor := {}
  timelines : List TimelineKey := []
  focusedBuilds : List TimelineKey := []

/-- The timelines that are open or being built. -/
def TimelineManager.keys (manager : TimelineManager) : List TimelineKey :=
  manager.timelines ++ manager.focusedBuilds

/-- The generation that an observation is for. -/
def ResidencyMessage.coreGeneration : ResidencyMessage -> Option Nat
  | .visibleRoomsObserved coreGeneration _ | .settingsRoomObserved coreGeneration _
  | .roomMembershipObserved coreGeneration _ => some coreGeneration
  | _ => none

namespace TimelineManager

variable (parse : String -> Option String) (manager : TimelineManager)

def subscribeRoom (key : TimelineKey) : TimelineManager :=
  { manager with
    rooms.sessionSubscribedRooms := manager.rooms.sessionSubscribedRooms.insertMany (parse key.roomId).toList }

def unsubscribe (closes : TimelineKey -> Bool) : TimelineManager :=
  { manager with
    timelines := manager.timelines.filter (!closes ·)
    focusedBuilds := manager.focusedBuilds.filter (!closes ·) }

def handleSubscribe (key : TimelineKey) (answer : SubscribeAnswer) : TimelineManager :=
  if !answer.session || (parse key.roomId).any (· ∈ manager.rooms.roomLeaveStates) then manager
  else if key ∈ manager.focusedBuilds then manager
  else
    let existing := key ∈ manager.timelines
    let manager := if existing && !answer.covered then manager.subscribeRoom parse key else manager
    if existing && answer.replayed then manager
    else
      let manager := manager.subscribeRoom parse key
      if !answer.built then manager
      else match key.kind with
        | .focused _ _ => { manager with focusedBuilds := key :: manager.focusedBuilds }
        | _ => { manager with timelines := key :: manager.timelines }

def handleFocusedBuildCompletion (key : TimelineKey) (installed : Bool) : TimelineManager :=
  if key ∉ manager.focusedBuilds then manager
  else { manager with
    focusedBuilds := manager.focusedBuilds.filter (· ≠ key)
    timelines := if installed then key :: manager.timelines else manager.timelines }

def step (manager : TimelineManager) : ManagerMessage -> TimelineManager
  | .residency message =>
    -- A message about a leave closes the timelines of the room.
    { manager with rooms := manager.rooms.handle parse message }.unsubscribe (fun key =>
      message = ResidencyMessage.roomLeft key.roomId || .left ∈ manager.rooms.observed key.roomId message)
  | .subscribe key answer => manager.handleSubscribe parse key answer
  | .focusedBuildCompleted key installed => manager.handleFocusedBuildCompletion key installed
  | .unsubscribe key => manager.unsubscribe (· = key)

/-- What a message observes of a room. -/
def observed (roomId : String) (manager : TimelineManager) : ManagerMessage -> List RoomMembershipTransitionKind
  | .residency message => manager.rooms.observed roomId message
  | _ => []

end TimelineManager

/-! ## What the manager keeps of one room -/

namespace TimelineManagerActor

variable {parse : String -> Option String} {manager : TimelineManagerActor} {roomId : String}

/-- A room with a leave state is not subscribed. -/
def Apart (held : Option RoomLeaveState × Bool) : Prop :=
  held.1.isSome -> held.2 = false

theorem apart_observe {held : Option RoomLeaveState × Bool} (apart : Apart held)
    (kind : RoomMembershipTransitionKind) : Apart (observe held kind) := by
  rcases held with ⟨_ | _ | _, _⟩ <;> cases kind <;> first | exact apart | simp [Apart, observe]

theorem apart_handle (apart : Apart (view roomId manager)) (message : ResidencyMessage) :
    Apart (view roomId (manager.handle parse message)) := by
  rcases view_handle parse manager roomId message with seen | ⟨_, seen⟩ | ⟨_, seen⟩ | ⟨_, seen⟩ <;> rw [seen]
  · exact foldlRecOn _ _ apart (fun _ apart kind _ => apart_observe apart kind)
  all_goals simp [Apart]

theorem left_of_foldl {kinds : List RoomMembershipTransitionKind} {held : Option RoomLeaveState × Bool}
    (left : (kinds.foldl observe held).1.isSome) : held.1.isSome ∨ .left ∈ kinds := by
  induction kinds generalizing held with
  | nil => exact .inl left
  | cons kind kinds ih =>
    rcases ih left with now | later
    · rcases held with ⟨_ | _, _⟩ <;> cases kind <;> simp_all [observe]
    · exact .inr (mem_cons_of_mem _ later)

/-- A room gets a leave state from a message about a leave. -/
theorem left_of_handle {message : ResidencyMessage} (left : roomId ∈ (manager.handle parse message).roomLeaveStates) :
    roomId ∈ manager.roomLeaveStates ∨ message = .roomLeft roomId ∨ .left ∈ manager.observed roomId message := by
  have left : (view roomId (manager.handle parse message)).1.isSome := by simpa [view] using left
  rcases view_handle parse manager roomId message with seen | ⟨named, _⟩ | ⟨_, seen⟩ | ⟨_, seen⟩
  · rw [seen] at left
    exact (left_of_foldl left).imp (by simp [view]) .inr
  · exact .inr (.inl named)
  all_goals simp [seen] at left

end TimelineManagerActor

/-- What has to be observed before a return counts. -/
def RoomLeaveState.awaits : RoomLeaveState -> List RoomMembershipTransitionKind
  | .pendingLeftObservation => [.left]
  | .leftObserved => []

namespace TimelineManager

open TimelineManagerActor

/-- The room is left, and the observations to come do not bring it back. -/
def Away (kinds : List RoomMembershipTransitionKind) (state : Option RoomLeaveState) : Prop :=
  ∃ leave, state = some leave ∧ ∀ kind, leave.awaits ++ [kind] <+ kinds -> kind = .left

variable {parse : String -> Option String} {manager : TimelineManager} {roomId : String}
  {kinds later : List RoomMembershipTransitionKind}

theorem Away.foldl {held : Option RoomLeaveState × Bool} (away : Away (kinds ++ later) held.1) :
    Away later (kinds.foldl observe held).1 := by
  induction kinds generalizing held with
  | nil => exact away
  | cons kind kinds ih =>
    apply ih
    rcases held with ⟨state, subscribed⟩
    rcases away with ⟨leave, rfl, stays⟩
    cases leave with
    | pendingLeftObservation =>
      cases kind with
      | left => exact ⟨.leftObserved, rfl, fun kind listed => stays kind (listed.cons_cons _)⟩
      | joined | invited => exact ⟨.pendingLeftObservation, rfl, fun kind listed => stays kind (listed.cons _)⟩
    | leftObserved =>
      cases stays kind (singleton_sublist.mpr mem_cons_self)
      exact ⟨.leftObserved, rfl, fun kind listed => stays kind (listed.cons _)⟩

theorem roomLeaveStates_handleSubscribe (key : TimelineKey) (answer : SubscribeAnswer) :
    (manager.handleSubscribe parse key answer).rooms.roomLeaveStates = manager.rooms.roomLeaveStates := by
  unfold handleSubscribe subscribeRoom
  cases key.kind <;> dsimp only <;> (repeat' split) <;> rfl

/-- A message that does not rejoin the room keeps it away. -/
theorem Away.step (message : ManagerMessage)
    (away : Away (manager.observed roomId message ++ later) manager.rooms.roomLeaveStates[roomId]?)
    (other : message ≠ .residency (.roomRejoined roomId)) :
    Away later (manager.step parse message).rooms.roomLeaveStates[roomId]? := by
  cases message with
  | subscribe =>
    dsimp only [TimelineManager.step]
    rw [roomLeaveStates_handleSubscribe]
    exact away
  | focusedBuildCompleted =>
    dsimp only [TimelineManager.step, handleFocusedBuildCompletion]
    split <;> exact away
  | unsubscribe => exact away
  | residency message =>
    show Away later (view roomId (manager.rooms.handle parse message)).1
    rcases view_handle parse manager.rooms roomId message with seen | ⟨_, seen⟩ | ⟨named, _⟩ | ⟨unleft, _⟩
    · rw [seen]
      exact Away.foldl away
    · rw [seen]
      rcases away with ⟨leave, _, stays⟩
      refine ⟨_, rfl, fun kind listed => stays kind ?_⟩
      have listed := listed.trans (sublist_append_right (manager.rooms.observed roomId message) _)
      cases leave with
      | pendingLeftObservation => exact listed
      | leftObserved => exact (sublist_cons_self ..).trans listed
    · exact absurd (congrArg _ named) other
    · rcases away with ⟨leave, held, _⟩
      cases unleft.symm.trans held

/-! ## Every run -/

/-- A room that was left is not subscribed, and no timeline of it is open or being built. -/
structure Sound (parse : String -> Option String) (manager : TimelineManager) : Prop where
  apart : ∀ roomId, Apart (view roomId manager.rooms)
  closed : ∀ roomId ∈ manager.rooms.roomLeaveStates, parse roomId = some roomId ->
    ∀ key ∈ manager.keys, key.roomId ≠ roomId

theorem keys_unsubscribe (closes : TimelineKey -> Bool) :
    (manager.unsubscribe closes).keys = manager.keys.filter (!closes ·) := by
  rw [keys, keys, filter_append]
  rfl

section

variable (sound : Sound parse manager)
include sound

/-- New keys are of rooms that were not left. -/
theorem Sound.withKeys {next : TimelineManager} (rooms : next.rooms = manager.rooms)
    (keys : ∀ key ∈ next.keys, key ∈ manager.keys ∨
      ∀ roomId ∈ parse key.roomId, roomId ∉ manager.rooms.roomLeaveStates) : Sound parse next := by
  refine ⟨fun roomId => rooms ▸ sound.apart roomId, ?_⟩
  intro roomId left named key listed
  rw [rooms] at left
  rcases keys key listed with before | unleft
  · exact sound.closed roomId left named key before
  · rintro rfl
    exact unleft _ named left

theorem Sound.handleSubscribe (key : TimelineKey) (answer : SubscribeAnswer) :
    Sound parse (manager.handleSubscribe parse key answer) := by
  unfold TimelineManager.handleSubscribe
  split
  · exact sound
  next unleft =>
  have unleft : ∀ roomId ∈ parse key.roomId, roomId ∉ manager.rooms.roomLeaveStates := by
    intro roomId named left
    simp_all
  have subscribed : ∀ {middle : TimelineManager}, Sound parse middle ->
      middle.rooms.roomLeaveStates = manager.rooms.roomLeaveStates -> Sound parse (middle.subscribeRoom parse key) := by
    intro middle sound same
    refine ⟨fun roomId left => ?_, sound.closed⟩
    have before := sound.apart roomId left
    simp_all [view, subscribeRoom, Std.ExtTreeSet.mem_insertMany_list]
    grind
  split
  · exact sound
  dsimp only
  generalize chosen : (if key ∈ manager.timelines && !answer.covered then manager.subscribeRoom parse key
    else manager) = middle
  have kept : Sound parse middle ∧ middle.rooms.roomLeaveStates = manager.rooms.roomLeaveStates := by
    rw [← chosen]
    split
    · exact ⟨subscribed sound rfl, rfl⟩
    · exact ⟨sound, rfl⟩
  split
  · exact kept.1
  have admitted := subscribed kept.1 kept.2
  split
  · exact admitted
  split
  all_goals
    refine admitted.withKeys rfl (fun other listed => ?_)
    by_cases same : other = key
    · rw [same]
      exact .inr (kept.2 ▸ unleft)
    · exact .inl (by simpa [keys, same] using listed)

theorem Sound.step (message : ManagerMessage) : Sound parse (manager.step parse message) := by
  cases message with
  | residency message =>
    refine ⟨fun roomId => apart_handle (sound.apart roomId) message, ?_⟩
    intro roomId left named key listed
    rw [TimelineManager.step, keys_unsubscribe, mem_filter] at listed
    rcases left_of_handle left with before | closes
    · exact sound.closed roomId before named key listed.1
    · rintro rfl
      simp_all
  | subscribe key answer => exact sound.handleSubscribe key answer
  | focusedBuildCompleted key installed =>
    dsimp only [TimelineManager.step, handleFocusedBuildCompletion]
    split
    · exact sound
    · next building =>
      refine sound.withKeys rfl (fun other listed => .inl ?_)
      grind [keys]
  | unsubscribe key =>
    refine sound.withKeys rfl (fun other listed => .inl ?_)
    rw [TimelineManager.step, keys_unsubscribe] at listed
    exact mem_of_mem_filter listed

end

theorem run_away {messages : List ManagerMessage} (unjoined : .residency (.roomRejoined roomId) ∉ messages)
    (away : Away (outputs (step parse) (observed roomId) manager messages) manager.rooms.roomLeaveStates[roomId]?) :
    Away [] (run (step parse) manager messages).rooms.roomLeaveStates[roomId]? := by
  induction messages generalizing manager with
  | nil => exact away
  | cons message rest ih =>
    rw [mem_cons, not_or] at unjoined
    exact ih unjoined.2 (away.step message (Ne.symm unjoined.1))

/-- In every run, no room with a leave state is subscribed.  Once a leave of a room was
acknowledged, the room is not subscribed and has no timeline as long as it is not rejoined
and the current generation does not observe it to be left and then joined or invited.  An
observation for another generation changes nothing. -/
theorem left_room_stays_unsubscribed (parse : String -> Option String) (first : List ManagerMessage) :
    let manager := run (step parse) {} first
    (∀ roomId ∈ manager.rooms.roomLeaveStates, roomId ∉ manager.rooms.sessionSubscribedRooms) ∧
    (∀ (roomId : String) (later : List ManagerMessage), parse roomId = some roomId ->
      let left := manager.step parse (.residency (.roomLeft roomId))
      let after := run (step parse) left later
      .residency (.roomRejoined roomId) ∉ later ->
      (∀ kind, [.left, kind] <+ outputs (step parse) (observed roomId) left later -> kind = .left) ->
      roomId ∉ after.rooms.sessionSubscribedRooms ∧
        ∀ key ∈ after.keys, key.roomId ≠ roomId) ∧
    ∀ (message : ResidencyMessage) (coreGeneration : Nat), message.coreGeneration = some coreGeneration ->
      manager.rooms.currentCoreGeneration ≠ some coreGeneration ->
      (manager.step parse (.residency message)).rooms = manager.rooms := by
  intro manager
  have start : Sound parse {} := ⟨fun _ _ => rfl, fun _ left => absurd left Std.ExtTreeMap.not_mem_empty⟩
  have reached : Sound parse manager :=
    run_invariant (Sound parse) (fun _ message sound => sound.step message) start
  have excluded : ∀ {manager : TimelineManager} {roomId : String}, Sound parse manager ->
      roomId ∈ manager.rooms.roomLeaveStates -> roomId ∉ manager.rooms.sessionSubscribedRooms := by
    intro manager roomId sound left
    have apart := sound.apart roomId
    simp_all [Apart, view]
  refine ⟨fun roomId => excluded reached, ?_, ?_⟩
  · intro roomId later named left after unjoined unreturned
    have sound : Sound parse after :=
      run_invariant (Sound parse) (fun _ message sound => sound.step message) (reached.step _)
    have away : Away [] after.rooms.roomLeaveStates[roomId]? :=
      run_away unjoined ⟨.pendingLeftObservation, by simp [left, step, unsubscribe, handle, handleRoomLeft], unreturned⟩
    rcases away with ⟨leave, held, _⟩
    have stays := OrdMap.mem_iff_exists.mpr ⟨leave, held⟩
    exact ⟨excluded sound stays, sound.closed roomId stays named⟩
  · intro message coreGeneration named stale
    cases message with
    | visibleRoomsObserved | settingsRoomObserved | roomMembershipObserved =>
      cases named
      exact if_pos stale
    | _ => cases named

theorem left_room_stays_unsubscribed_requested :
    let request : ManagerMessage := .subscribe ⟨"@me:hs", .room "!r"⟩ ⟨true, true, true, true⟩
    let after := run (step some) (run (step some) {} [.residency (.syncStarted 7 none), request])
      [.residency (.roomLeft "!r"), request, .residency (.roomMembershipObserved 7 [⟨"!r", .joined⟩])]
    "!r" ∉ after.rooms.sessionSubscribedRooms ∧
      ∀ key ∈ after.keys, key.roomId ≠ "!r" :=
  (left_room_stays_unsubscribed some _).2.1 "!r" _ rfl (by decide)
    (fun _ listed => absurd listed.length_le (by simp only [length_cons]; decide +kernel))

end TimelineManager

end Koushi
