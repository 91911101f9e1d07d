import Koushi.Reducer.Exhaustion
import Koushi.Rooms.LocalRead
import Koushi.Rooms.Reduce

namespace Koushi.Rooms

open Collections RoomActivityState List

/-!
# Stored facts that load late

The stored activity of the rooms and the stored scheduled sends are read while the
session is already at work, and both loads replace what the state has.  What the
rooms show is merged with the loaded activity, so it never goes back.  What is
remembered, and the scheduled sends, are those of the store from then on.
-/

/-! ## Activity -/

/-- What was seen is still known, or something at least as recent. -/
def NotOlder (before after : Option ConversationActivity) : Prop :=
  ∀ seen ∈ before, ∃ later ∈ after, seen.timestampMs ≤ later.timestampMs

theorem NotOlder.refl (activity : Option ConversationActivity) : NotOlder activity activity :=
  fun seen known => ⟨seen, known, le_rfl⟩

theorem notOlder_mergeInto (remembered : RoomActivityState) (room : RoomSummary) :
    NotOlder room.conversationActivity (mergeInto remembered room).conversationActivity := by
  rw [conversationActivity_mergeInto]
  cases newer : newerThan remembered room with
  | none => exact .refl _
  | some activity =>
    intro live shown
    have later := (Option.filter_eq_some_iff.mp newer).2
    rw [Option.mem_def.mp shown, Option.any_some, Bool.not_eq_true', decide_eq_false_iff_not] at later
    exact ⟨activity, rfl, le_of_not_ge later⟩

variable {activity : RoomActivityState}

/-- The handler skips the merge when it would change nothing. -/
theorem rooms_handleRoomActivityLoaded (text : TextRules) (state : AppState) :
    (handleRoomActivityLoaded text state activity).rooms = mergeIntoRooms activity state.rooms := by
  unfold handleRoomActivityLoaded
  dsimp only
  split
  · rfl
  · next unchanged =>
    have kept : ∀ room ∈ state.rooms, mergeInto activity room = room := by
      intro room listed
      unfold mergeInto
      cases newer : newerThan activity room with
      | none => rfl
      | some later => exact absurd (any_eq_true.mpr ⟨room, listed, by rw [newer]; rfl⟩) unchanged
    exact ((map_congr_left kept).trans (map_id _)).symm

theorem roomActivity_handleRoomActivityLoaded (text : TextRules) (state : AppState) :
    (handleRoomActivityLoaded text state activity).roomActivity = activity := by
  unfold handleRoomActivityLoaded
  dsimp only
  split <;> rfl

/-! ## Scheduled sends -/

/-- The run scheduled a message, and neither cancelled nor dispatched it afterwards. -/
def StillScheduled (start : Koushi.AppState) (actions : List Koushi.AppAction) (scheduledId : String) :
    Prop :=
  ∃ before item revision after,
    (actions = before ++ .scheduledSendCreated item :: after ∨
      actions = before ++ .scheduledSendCreatedAtRevision item revision :: after) ∧
    Koushi.isSessionReady (Machine.run Koushi.step start before) = true ∧
    Koushi.roomExists (Machine.run Koushi.step start before) item.roomId = true ∧
    item.scheduledId = scheduledId ∧ .scheduledSendCancelledOrDispatched scheduledId ∉ after

theorem scheduledSends_step_loaded {state : Koushi.AppState} (ready : Koushi.isSessionReady state = true)
    (stored : ScheduledSendStore) :
    (Koushi.step state (.scheduledSendsLoaded stored)).scheduledSends = stored := by
  have synced := congrArg (fun records => records.2.2.2)
    (sendRecords_sync (handleScheduledSendsLoaded state stored).1)
  refine synced.trans ?_
  simp only [sendRecords, handleScheduledSendsLoaded, ready, Bool.not_true, Bool.false_or]
  split
  · next same => exact of_decide_eq_true same
  · split <;> rfl

/-- Nothing is lost by the two loads exactly when the stored activity is at least as
recent as the remembered one and the store has the messages that the session still
has scheduled.  What the rooms show never goes back. -/
theorem late_loads_lose_nothing_iff (text : TextRules) (state : AppState) (activity : RoomActivityState)
    (start : Koushi.AppState) (actions : List Koushi.AppAction) (stored : ScheduledSendStore)
    (ready : Koushi.isSessionReady (Machine.run Koushi.step start actions) = true) :
    let loaded := step text state (.roomActivityLoaded activity)
    let session := Koushi.step (Machine.run Koushi.step start actions) (.scheduledSendsLoaded stored)
    List.Forall₂ (fun room shown => shown.roomId = room.roomId ∧
        NotOlder room.conversationActivity shown.conversationActivity) state.rooms loaded.rooms ∧
      (((∀ roomId : String, NotOlder state.roomActivity[roomId]? loaded.roomActivity[roomId]? ∧
            NotOlder activity[roomId]? loaded.roomActivity[roomId]?) ∧
          ∀ scheduledId, StillScheduled start actions scheduledId ->
            scheduledId ∈ session.scheduledSends.items) ↔
        (∀ roomId : String, NotOlder state.roomActivity[roomId]? activity[roomId]?) ∧
          ∀ scheduledId, StillScheduled start actions scheduledId -> scheduledId ∈ stored.items) := by
  intro loaded session
  have rooms : loaded.rooms = mergeIntoRooms activity state.rooms := rooms_handleRoomActivityLoaded ..
  have remembered : loaded.roomActivity = activity := roomActivity_handleRoomActivityLoaded ..
  constructor
  · rw [rooms, mergeIntoRooms, forall₂_map_right_iff]
    apply forall₂_same.mpr
    intro room _
    exact ⟨congrArg (fun core => core.roomId) (core_mergeInto activity room), notOlder_mergeInto activity room⟩
  · rw [remembered, scheduledSends_step_loaded ready]
    simp only [NotOlder.refl, and_true]

theorem late_loads_lose_nothing_iff_held :
    let start := scheduledState heldItem
    let session := Machine.run Koushi.step start [.scheduledSendCreated heldItem]
    Koushi.isSessionReady session = true ∧
      ∀ scheduledId, StillScheduled start [.scheduledSendCreated heldItem] scheduledId ->
        scheduledId ∈
          (Koushi.step session (.scheduledSendsLoaded session.scheduledSends)).scheduledSends.items := by
  refine ⟨by decide +kernel, ((late_loads_lose_nothing_iff plainText
    (AppState.empty defaultSettings .signedOut) ∅ _ _ _ (by decide +kernel)).2.mpr ⟨?_, ?_⟩).2⟩
  · exact fun _ => .refl _
  · rintro _ ⟨before, item, revision, after, made, -, -, rfl, -⟩
    rcases before with _ | ⟨action, before⟩
    · simp only [nil_append, cons.injEq, AppAction.scheduledSendCreated.injEq, reduceCtorEq,
        false_and, or_false] at made
      rw [← made.1]
      decide +kernel
    · simp at made

/-- The session has seen newer activity and has scheduled a message.  Both are gone
after the loads. -/
theorem late_loads_replace_newer_facts :
    let state := { AppState.empty defaultSettings
        (.ready ⟨"https://example.invalid", "@me:example.invalid", "DEVICE"⟩) with
      roomActivity := (∅ : RoomActivityState).insert "!room" ⟨20, .message⟩ }
    let loaded := step plainText state
      (.roomActivityLoaded ((∅ : RoomActivityState).insert "!room" ⟨10, .message⟩))
    let session := Koushi.step (scheduledState heldItem) (.scheduledSendCreated heldItem)
    loaded.roomActivity["!room"]? = some ⟨10, .message⟩ ∧
      "held" ∈ session.scheduledSends.items ∧
      "held" ∉ (Koushi.step session (.scheduledSendsLoaded .default)).scheduledSends.items := by
  decide +kernel

end Koushi.Rooms
