import Koushi.Library.NestedMap
import Koushi.Library.Run

namespace Koushi

open Collections Machine List

/-!
# Rooms that are left and come back

The timeline manager keeps the rooms of the session that it subscribes to, and a leave
state for each room that was left.  Two sources report a leave: the acknowledgement of a
local leave, and the membership transitions that the SDK observes.  A left room is
subscribed again when the SDK observes that it was joined or invited, but only while its
leave state is `leftObserved`, or when a local rejoin is acknowledged.
-/

inductive RoomLeaveState where
  | pendingLeftObservation
  | leftObserved
deriving DecidableEq, Repr

inductive RoomMembershipTransitionKind where
  | left
  | joined
  | invited
deriving DecidableEq, Repr

@[ext] structure RoomMembershipTransition where
  roomId : String
  kind : RoomMembershipTransitionKind
deriving DecidableEq, Repr

/-- The rooms of a sync response, by what became of them. -/
structure RoomUpdates where
  left : OrdSet String := ∅
  joined : OrdSet String := ∅
  invited : OrdSet String := ∅

def roomMembershipTransitions (updates : RoomUpdates) : List RoomMembershipTransition :=
  updates.left.toList.map (fun roomId => ⟨roomId, .left⟩) ++
    updates.joined.toList.map (fun roomId => ⟨roomId, .joined⟩) ++
      updates.invited.toList.map (fun roomId => ⟨roomId, .invited⟩)

structure VisibleRoomObservation where
  roomId : String
  nonLeft : Bool
deriving DecidableEq, Repr

structure TimelineManagerActor where
  currentCoreGeneration : Option Nat := none
  roomLeaveStates : OrdMap String RoomLeaveState := ∅
  sessionSubscribedRooms : OrdSet String := ∅

namespace TimelineManagerActor

variable (manager : TimelineManagerActor)

def subscribeUnleft (roomIds : List String) : TimelineManagerActor :=
  { manager with
    sessionSubscribedRooms := manager.sessionSubscribedRooms.insertMany
      (roomIds.filter (fun roomId => roomId ∉ manager.roomLeaveStates)) }

/-- `restored` are the rooms of the SDK, if they were restored with their position. -/
def handleSyncStarted (coreGeneration : Nat) (restored : Option (List String)) : TimelineManagerActor :=
  { manager with currentCoreGeneration := some coreGeneration }.subscribeUnleft (restored.getD [])

/-- `parse` reads a room id from its text. -/
def handleMetadataRoomsObserved (parse : String -> Option String) (coreGeneration : Nat)
    (observations : List VisibleRoomObservation) : TimelineManagerActor :=
  if manager.currentCoreGeneration ≠ some coreGeneration then manager
  else manager.subscribeUnleft ((observations.filter (·.nonLeft)).filterMap (fun observation =>
    parse observation.roomId))

def handleSettingsRoomObserved (parse : String -> Option String) (coreGeneration : Nat) (roomId : String) :
    TimelineManagerActor :=
  manager.handleMetadataRoomsObserved parse coreGeneration [⟨roomId, true⟩]

def observeTransition (transition : RoomMembershipTransition) : TimelineManagerActor :=
  match transition.kind with
  | .left =>
    { manager with
      sessionSubscribedRooms := manager.sessionSubscribedRooms.erase transition.roomId
      roomLeaveStates := manager.roomLeaveStates.insert transition.roomId .leftObserved }
  | .joined | .invited =>
    if manager.roomLeaveStates[transition.roomId]? = some .leftObserved then
      { manager with
        roomLeaveStates := manager.roomLeaveStates.erase transition.roomId
        sessionSubscribedRooms := manager.sessionSubscribedRooms.insert transition.roomId }
    else manager

def handleRoomMembershipObserved (coreGeneration : Nat) (transitions : List RoomMembershipTransition) :
    TimelineManagerActor :=
  if manager.currentCoreGeneration ≠ some coreGeneration then manager
  else transitions.foldl observeTransition manager

def handleRoomLeft (roomId : String) : TimelineManagerActor :=
  { manager with
    roomLeaveStates := manager.roomLeaveStates.insert roomId .pendingLeftObservation
    sessionSubscribedRooms := manager.sessionSubscribedRooms.erase roomId }

def handleRoomRejoined (roomId : String) : TimelineManagerActor :=
  { manager with
    roomLeaveStates := manager.roomLeaveStates.erase roomId
    sessionSubscribedRooms := manager.sessionSubscribedRooms.insert roomId }

end TimelineManagerActor

/-- What the manager is told about rooms. -/
inductive ResidencyMessage where
  | syncStarted (coreGeneration : Nat) (restored : Option (List String))
  | visibleRoomsObserved (coreGeneration : Nat) (observations : List VisibleRoomObservation)
  | settingsRoomObserved (coreGeneration : Nat) (roomId : String)
  | roomMembershipObserved (coreGeneration : Nat) (transitions : List RoomMembershipTransition)
  | roomLeft (roomId : String)
  | roomRejoined (roomId : String)
deriving DecidableEq, Repr

namespace TimelineManagerActor

def handle (parse : String -> Option String) (manager : TimelineManagerActor) :
    ResidencyMessage -> TimelineManagerActor
  | .syncStarted coreGeneration restored => manager.handleSyncStarted coreGeneration restored
  | .visibleRoomsObserved coreGeneration observations =>
    manager.handleMetadataRoomsObserved parse coreGeneration observations
  | .settingsRoomObserved coreGeneration roomId =>
    manager.handleSettingsRoomObserved parse coreGeneration roomId
  | .roomMembershipObserved coreGeneration transitions =>
    manager.handleRoomMembershipObserved coreGeneration transitions
  | .roomLeft roomId => manager.handleRoomLeft roomId
  | .roomRejoined roomId => manager.handleRoomRejoined roomId

variable {parse : String -> Option String} {manager : TimelineManagerActor} {roomId : String}

/-! ## What a message does to one room -/

/-- The leave state of a room, and whether the room is subscribed. -/
def view (roomId : String) (manager : TimelineManagerActor) : Option RoomLeaveState × Bool :=
  (manager.roomLeaveStates[roomId]?, decide (roomId ∈ manager.sessionSubscribedRooms))

/-- The leave of the room waits for an observation of the SDK. -/
def Pending (roomId : String) (manager : TimelineManagerActor) : Prop :=
  (view roomId manager).1 = some .pendingLeftObservation

/-- The room is subscribed and not left. -/
def Resident (roomId : String) (manager : TimelineManagerActor) : Prop :=
  view roomId manager = (none, true)

/-- A room that a return makes resident. -/
def Settled (roomId : String) (manager : TimelineManagerActor) : Prop :=
  (view roomId manager).1 = some .leftObserved ∨ Resident roomId manager

theorem resident_iff :
    Resident roomId manager ↔ roomId ∉ manager.roomLeaveStates ∧ roomId ∈ manager.sessionSubscribedRooms := by
  simp [Resident, view]

theorem Settled.not_pending (settled : Settled roomId manager) : ¬ Pending roomId manager := by
  rw [Pending]
  rcases settled with observed | resident
  · rw [observed]
    simp
  · rw [resident]
    simp

/-- What a transition of a room does to what the manager keeps of it. -/
def observe : Option RoomLeaveState × Bool -> RoomMembershipTransitionKind -> Option RoomLeaveState × Bool
  | _, .left => (some .leftObserved, false)
  | (some .leftObserved, _), .joined | (some .leftObserved, _), .invited => (none, true)
  | kept, _ => kept

theorem view_observeTransition (transition : RoomMembershipTransition) :
    view roomId (manager.observeTransition transition) =
      if transition.roomId = roomId then observe (view roomId manager) transition.kind
      else view roomId manager := by
  rcases transition with ⟨changed, kind⟩
  by_cases same : changed = roomId
  · subst same
    rcases held : manager.roomLeaveStates[changed]? with _ | _ | _ <;> cases kind <;>
      simp [view, observeTransition, observe, held]
  · cases kind with
    | left => simp [view, observeTransition, OrdMap.getElem?_insert_ite, same]
    | joined | invited =>
      dsimp only [observeTransition]
      split <;> simp [view, OrdMap.getElem?_erase_ite, same]

/-- A batch acts on a room by the transitions that name it. -/
theorem view_foldl (transitions : List RoomMembershipTransition) :
    view roomId (transitions.foldl observeTransition manager) =
      ((transitions.filter (·.roomId = roomId)).map (·.kind)).foldl observe (view roomId manager) := by
  induction transitions generalizing manager with
  | nil => rfl
  | cons transition rest ih =>
    rw [foldl_cons, ih, view_observeTransition, filter_cons]
    by_cases same : transition.roomId = roomId <;> simp [same]

/-- What a message of the current generation observes of a room. -/
def observed (roomId : String) (manager : TimelineManagerActor) :
    ResidencyMessage -> List RoomMembershipTransitionKind
  | .roomMembershipObserved coreGeneration transitions =>
    if manager.currentCoreGeneration ≠ some coreGeneration then []
    else (transitions.filter (·.roomId = roomId)).map (·.kind)
  | _ => []

/-- A message observes a room, leaves it, rejoins it or subscribes to it. -/
theorem view_handle (parse : String -> Option String) (manager : TimelineManagerActor) (roomId : String)
    (message : ResidencyMessage) : view roomId (manager.handle parse message) =
        (manager.observed roomId message).foldl observe (view roomId manager) ∨
      message = .roomLeft roomId ∧
        view roomId (manager.handle parse message) = (some .pendingLeftObservation, false) ∨
      message = .roomRejoined roomId ∧ view roomId (manager.handle parse message) = (none, true) ∨
      (view roomId manager).1 = none ∧ view roomId (manager.handle parse message) = (none, true) := by
  have subscribed : ∀ roomIds, view roomId (manager.subscribeUnleft roomIds) = view roomId manager ∨
      (view roomId manager).1 = none ∧ view roomId (manager.subscribeUnleft roomIds) = (none, true) := by
    intro roomIds
    by_cases added : roomId ∈ roomIds <;> by_cases left : roomId ∈ manager.roomLeaveStates <;>
      simp_all [view, subscribeUnleft, Std.ExtTreeSet.mem_insertMany_list]
  cases message with
  | syncStarted => exact (subscribed _).imp_right (.inr ∘ .inr)
  | visibleRoomsObserved | settingsRoomObserved =>
    simp only [handle, handleSettingsRoomObserved, handleMetadataRoomsObserved]
    split
    · exact .inl rfl
    · exact (subscribed _).imp_right (.inr ∘ .inr)
  | roomMembershipObserved =>
    dsimp only [handle, handleRoomMembershipObserved, observed]
    split
    · exact .inl rfl
    · exact .inl (view_foldl _)
  | roomLeft other =>
    by_cases same : other = roomId <;>
      simp [same, view, handle, handleRoomLeft, observed, OrdMap.getElem?_insert_ite]
  | roomRejoined other =>
    by_cases same : other = roomId <;>
      simp [same, view, handle, handleRoomRejoined, observed, OrdMap.getElem?_erase_ite]

section Observed

variable {held : Option RoomLeaveState × Bool} {kinds : List RoomMembershipTransitionKind}

theorem pending_foldl (unchanged : .left ∉ kinds) (pending : held.1 = some .pendingLeftObservation) :
    (kinds.foldl observe held).1 = some .pendingLeftObservation := by
  refine foldlRecOn (motive := fun held => held.1 = _) kinds observe pending ?_
  rintro ⟨state, subscribed⟩ rfl kind member
  cases kind with
  | left => exact absurd member unchanged
  | joined | invited => rfl

theorem settled_foldl (settled : .left ∈ kinds ∨ held.1 = some .leftObserved ∨ held = (none, true)) :
    (kinds.foldl observe held).1 = some .leftObserved ∨ kinds.foldl observe held = (none, true) := by
  induction kinds generalizing held with
  | nil => exact settled.resolve_left not_mem_nil
  | cons kind rest ih =>
    apply ih
    rcases held with ⟨_ | _ | _, _⟩ <;> cases kind <;> simp_all [observe]

/-- A return makes a settled room resident, and keeps a resident one. -/
theorem resident_foldl (returns : .left ∉ kinds)
    (settled : kinds ≠ [] ∧ held.1 = some .leftObserved ∨ held = (none, true)) :
    kinds.foldl observe held = (none, true) := by
  induction kinds generalizing held with
  | nil => simpa using settled
  | cons kind rest ih =>
    rw [mem_cons, not_or] at returns
    refine ih returns.2 (.inr ?_)
    rcases held with ⟨_ | _ | _, _⟩ <;> cases kind <;> simp_all [observe]

end Observed

/-! ## Histories -/

/-- A message after which the room waits for nothing: a rejoin, or an observation of
this generation that brings the leave. -/
def Answers (roomId : String) (manager : TimelineManagerActor) : ResidencyMessage -> Prop
  | .roomRejoined rejoined => rejoined = roomId
  | .roomMembershipObserved coreGeneration transitions =>
    manager.currentCoreGeneration = some coreGeneration ∧ ⟨roomId, .left⟩ ∈ transitions
  | _ => False

/-- The last acknowledged leave of the room was answered. -/
def Answered (parse : String -> Option String) (roomId : String) (history : List ResidencyMessage) : Prop :=
  ∃ early message later, history = early ++ message :: later ∧ .roomLeft roomId ∉ later ∧
    Answers roomId (Machine.run (handle parse) {} early) message

theorem answered_concat {history : List ResidencyMessage} {last : ResidencyMessage} :
    Answered parse roomId (history ++ [last]) ↔ Answers roomId (run (handle parse) {} history) last ∨
        Answered parse roomId history ∧ last ≠ .roomLeft roomId := by
  constructor
  · rintro ⟨early, message, later, split, unleft, answers⟩
    rcases eq_nil_or_concat' later with rfl | ⟨middle, final, rfl⟩
    · rcases append_inj' split rfl with ⟨rfl, same⟩
      cases same
      exact .inl answers
    · rw [← cons_append, ← append_assoc] at split
      rcases append_inj' split rfl with ⟨rfl, same⟩
      cases same
      refine .inr ⟨⟨early, message, middle, rfl, ?_, answers⟩, ?_⟩
      · exact fun member => unleft (mem_append_left _ member)
      · rintro rfl
        exact unleft (by simp)
  · rintro (answers | ⟨⟨early, message, later, rfl, unleft, answers⟩, other⟩)
    · exact ⟨history, last, [], rfl, not_mem_nil, answers⟩
    · refine ⟨early, message, later ++ [last], by simp, ?_, answers⟩
      simpa using ⟨unleft, Ne.symm other⟩

theorem mem_kinds {transitions : List RoomMembershipTransition} {kind : RoomMembershipTransitionKind} :
    kind ∈ (transitions.filter (·.roomId = roomId)).map (·.kind) ↔ ⟨roomId, kind⟩ ∈ transitions := by
  rw [mem_map]
  constructor
  · rintro ⟨⟨changed, kind⟩, listed, rfl⟩
    rcases mem_filter.mp listed with ⟨member, same⟩
    cases of_decide_eq_true same
    exact member
  · intro member
    exact ⟨_, mem_filter.mpr ⟨member, decide_eq_true rfl⟩, rfl⟩

theorem settled_of_answers {message : ResidencyMessage} (answers : Answers roomId manager message) :
    Settled roomId (handle parse manager message) := by
  cases message with
  | roomRejoined rejoined =>
    have same : rejoined = roomId := answers
    subst same
    exact .inr (by simp [Resident, view, handle, handleRoomRejoined])
  | roomMembershipObserved coreGeneration transitions =>
    rcases answers with ⟨current, listed⟩
    rw [handle, handleRoomMembershipObserved, if_neg (not_not.mpr current), Settled, Resident, view_foldl]
    exact settled_foldl (.inl (mem_kinds.mpr listed))
  | _ => cases answers

/-- A message that neither acknowledges a leave of the room nor answers one. -/
theorem handle_view (parse : String -> Option String) {message : ResidencyMessage} (unleft : message ≠ .roomLeft roomId)
    (unanswered : ¬ Answers roomId manager message) :
    (Pending roomId manager -> Pending roomId (handle parse manager message)) ∧
      (Settled roomId manager -> Settled roomId (handle parse manager message)) := by
  have unchanged : .left ∉ manager.observed roomId message := by
    cases message with
    | roomMembershipObserved =>
      dsimp only [observed]
      split
      · exact not_mem_nil
      · next current => exact fun listed => unanswered ⟨not_not.mp current, mem_kinds.mp listed⟩
    | _ => exact not_mem_nil
  rcases view_handle parse manager roomId message with seen | ⟨named, _⟩ | ⟨named, _⟩ | ⟨unleft, seen⟩
  · simp only [Pending, Settled, Resident, seen]
    exact ⟨pending_foldl unchanged, fun settled => settled_foldl (.inr settled)⟩
  · exact absurd named unleft
  · rw [named] at unanswered
    exact absurd rfl unanswered
  · refine ⟨fun pending => ?_, fun _ => .inr seen⟩
    cases unleft.symm.trans pending

/-- Once a leave of the room was acknowledged, the room is settled or pending, as the
last acknowledgement was answered or not. -/
theorem run_view (parse : String -> Option String) {history : List ResidencyMessage} (acknowledged : .roomLeft roomId ∈ history) :
    (Answered parse roomId history -> Settled roomId (run (handle parse) {} history)) ∧
      (¬ Answered parse roomId history -> Pending roomId (run (handle parse) {} history)) := by
  induction history using reverseRecOn with
  | nil => cases acknowledged
  | append_singleton history last ih =>
    rw [run_concat, answered_concat]
    by_cases answers : Answers roomId (run (handle parse) {} history) last
    · exact ⟨fun _ => settled_of_answers answers, fun unanswered => absurd (.inl answers) unanswered⟩
    by_cases left : last = .roomLeft roomId
    · subst left
      refine ⟨?_, fun _ => by simp [handle, handleRoomLeft, Pending, view]⟩
      rintro (answers | ⟨_, other⟩)
      · exact absurd answers (by simp [Answers])
      · exact absurd rfl other
    · have before : .roomLeft roomId ∈ history := by simpa [Ne.symm left] using acknowledged
      have kept := handle_view parse left answers
      simp only [answers, false_or, ne_eq, left, not_false_eq_true, and_true]
      exact ⟨fun answered => kept.2 ((ih before).1 answered), fun unanswered => kept.1 ((ih before).2 unanswered)⟩

theorem mem_transitions {updates : RoomUpdates} :
    ⟨roomId, .left⟩ ∈ roomMembershipTransitions updates ↔ roomId ∈ updates.left := by
  simp [roomMembershipTransitions]

theorem resident_of_updates {updates : RoomUpdates} (settled : roomId ∈ updates.left ∨ Settled roomId manager)
    (returned : roomId ∈ updates.joined ∨ roomId ∈ updates.invited) :
    Resident roomId ((roomMembershipTransitions updates).foldl observeTransition manager) := by
  rw [roomMembershipTransitions, append_assoc, foldl_append, Resident, view_foldl]
  apply resident_foldl
  · intro listed
    simpa using mem_kinds.mp listed
  · rw [view_foldl]
    refine (settled_foldl ?_).imp_left (fun observed => ⟨?_, observed⟩)
    · exact settled.imp_left (fun left => mem_kinds.mpr (by simpa using left))
    · rcases returned with joined | invited
      · exact ne_nil_of_mem (mem_kinds.mpr (by simp [joined] : RoomMembershipTransition.mk roomId .joined ∈ _))
      · exact ne_nil_of_mem (mem_kinds.mpr (by simp [invited] : RoomMembershipTransition.mk roomId .invited ∈ _))

/-- After every history in which a leave of the room was acknowledged, an observation of
the current generation that the room was joined or invited makes it resident exactly if
it brings the leave as well, or the last acknowledgement was answered. -/
theorem left_room_returns_iff (parse : String -> Option String) (history : List ResidencyMessage) (roomId : String)
    (updates : RoomUpdates) (coreGeneration : Nat) (acknowledged : .roomLeft roomId ∈ history)
    (current : (Machine.run (handle parse) {} history).currentCoreGeneration = some coreGeneration)
    (returned : roomId ∈ updates.joined ∨ roomId ∈ updates.invited) :
    let manager := handle parse (Machine.run (handle parse) {} history)
      (.roomMembershipObserved coreGeneration (roomMembershipTransitions updates))
    roomId ∉ manager.roomLeaveStates ∧ roomId ∈ manager.sessionSubscribedRooms ↔
      roomId ∈ updates.left ∨ Answered parse roomId history := by
  have kept := run_view parse acknowledged
  dsimp only
  rw [handle, handleRoomMembershipObserved, if_neg (not_not.mpr current), ← resident_iff]
  constructor
  · intro resident
    by_contra unanswered
    rw [not_or] at unanswered
    refine Settled.not_pending (.inr resident) ?_
    rw [Pending, view_foldl]
    exact pending_foldl (fun listed => unanswered.1 (mem_transitions.mp (mem_kinds.mp listed))) (kept.2 unanswered.2)
  · intro answered
    exact resident_of_updates (answered.imp_right kept.1) returned

theorem left_room_returns_observed :
    let history : List ResidencyMessage :=
      [.syncStarted 7 none, .roomLeft "!r", .roomMembershipObserved 7 [⟨"!r", .left⟩]]
    Resident "!r" (handle some (run (handle some) {} history)
      (.roomMembershipObserved 7 (roomMembershipTransitions { joined := {"!r"} }))) := by
  rw [resident_iff]
  apply (left_room_returns_iff some _ "!r" { joined := {"!r"} } 7 (by simp) (by decide +kernel) (by simp)).mpr
  exact .inr ⟨[.syncStarted 7 none, .roomLeft "!r"], _, [], rfl, not_mem_nil, by decide +kernel,
    mem_singleton_self _⟩

/-- An acknowledgement that comes after the observed leave hides the room from its return. -/
theorem acknowledged_after_observation :
    let manager := Machine.run (handle some) {}
      [.syncStarted 7 none, .roomMembershipObserved 7 (roomMembershipTransitions { left := {"!r"} }),
        .roomLeft "!r", .roomMembershipObserved 7 (roomMembershipTransitions { joined := {"!r"} })]
    manager.roomLeaveStates["!r"]? = some .pendingLeftObservation ∧ "!r" ∉ manager.sessionSubscribedRooms := by
  decide +kernel

end TimelineManagerActor

end Koushi
