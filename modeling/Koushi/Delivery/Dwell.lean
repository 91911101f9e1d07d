import Koushi.Library.History
import Koushi.Library.Run
import Koushi.Delivery.ChannelLaws

namespace Koushi.Delivery

open Collections NotificationDeliveryChannel Machine OrdSet Option NotificationDeliveryLane
open Std.ExtTreeMap

/-!
# Nothing is sent before its dwell

A room may be sent when it has been in the qualifying set of its sink in every observation
for as long as the dwell.  The tracker keeps this for the rooms it releases, and held rooms
and an armed retry lose a room that leaves the set.  An attempt in flight does not: its
rooms are checked against the newest observation only when its retry is sent.  A room that
was read meanwhile and is unread again is in that observation, so the retry names it before
its new dwell is over (`retry_names_reread_room`).  `sent_after_dwell` says that this is the
only way: as long as no covered room comes back into the set, nothing is sent too early.
-/

/-! ## The tracker -/

namespace DwellTracker

theorem firstEntries_spec (qualifying : List QualifyingRoom) (roomId : String) :
    (roomId ∈ firstEntries qualifying ↔ roomId ∈ qualifying.map QualifyingRoom.roomId) ∧
      ∀ room, (firstEntries qualifying)[roomId]? = some room -> room.roomId = roomId := by
  -- The same for an observation that is read into entries made before.
  suffices general : ∀ entries : OrdMap String QualifyingRoom,
      (∀ room, entries[roomId]? = some room -> room.roomId = roomId) ->
      (roomId ∈ qualifying.foldl (fun observed room => observed.insertIfNew room.roomId room) entries ↔
          roomId ∈ entries ∨ roomId ∈ qualifying.map QualifyingRoom.roomId) ∧
        ∀ room, (qualifying.foldl (fun observed room => observed.insertIfNew room.roomId room) entries)[roomId]? =
          some room -> room.roomId = roomId by
    simpa [firstEntries] using general ∅ (by simp)
  induction qualifying with
  | nil =>
    intro entries named
    exact ⟨by simp, named⟩
  | cons head rest ih =>
    intro entries named
    have step := ih (entries.insertIfNew head.roomId head) (by
      intro room found
      rw [getElem?_insertIfNew] at found
      split at found
      · next inserted =>
        rw [some_inj] at found
        rw [← found]
        exact Std.compare_eq_iff_eq.mp inserted.1
      · exact named room found)
    refine ⟨?_, step.2⟩
    rw [List.foldl_cons, step.1, mem_insertIfNew, Std.compare_eq_iff_eq, List.map_cons,
      List.mem_cons]
    tauto

/-- What a tracker knows of the rooms: since when a pending one is there, and that a
delivered one was released. -/
structure Tracks (anchored : String -> Nat -> Prop) (released : String -> Prop)
    (tracker : DwellTracker) : Prop where
  pending : ∀ roomId anchor, tracker.pending[roomId]? = some anchor -> anchored roomId anchor
  delivered : ∀ roomId ∈ tracker.delivered, released roomId

section Observe

variable {anchored : String -> Nat -> Prop} {released : String -> Prop} {now : Nat}

/-- One room of an observation. -/
theorem observeRoom_spec {tracker : DwellTracker} {due : List QualifyingRoom} {entry : String × QualifyingRoom}
    (fresh : anchored entry.1 now)
    (release : ∀ anchor, anchored entry.1 anchor -> anchor + tracker.dwell ≤ now -> released entry.1)
    (named : entry.2.roomId = entry.1) (tracks : tracker.Tracks anchored released)
    (marked : ∀ room ∈ due, room.roomId ∈ tracker.delivered) :
    let next := observeRoom now (tracker, due) entry
    next.1.dwell = tracker.dwell ∧ next.1.Tracks anchored released ∧
      (∀ room ∈ next.2, room.roomId ∈ next.1.delivered) ∧
      ∀ roomId ∈ tracker.delivered, roomId ∈ next.1.delivered := by
  dsimp only [observeRoom]
  split
  · exact ⟨rfl, tracks, marked, fun roomId member => member⟩
  have anchor : anchored entry.1 (tracker.pending[entry.1]?.getD now) := by
    cases found : tracker.pending[entry.1]? with
    | none => exact fresh
    | some anchor => exact tracks.pending entry.1 anchor found
  -- Arming the room keeps what is known of the pending rooms.
  have armed : ∀ roomId start,
      (if tracker.pending.contains entry.1 = true then tracker.pending
        else tracker.pending.insert entry.1 now)[roomId]? = some start -> anchored roomId start := by
    intro roomId start found
    split at found
    · exact tracks.pending roomId start found
    rcases OrdMap.getElem?_insert_cases found with ⟨rfl, rfl⟩ | ⟨_, before⟩
    · exact fresh
    · exact tracks.pending roomId start before
  split
  · next elapsed =>
    have overdue : tracker.pending[entry.1]?.getD now + tracker.dwell ≤ now := by
      omega
    refine ⟨rfl, ⟨?_, ?_⟩, ?_, ?_⟩
    · intro roomId start found
      exact armed roomId start (OrdMap.getElem?_erase_cases found).2
    · intro roomId member
      rcases mem_insert_iff.mp member with rfl | before
      · exact release _ anchor overdue
      · exact tracks.delivered roomId before
    · intro room member
      rw [mem_insert_iff]
      rcases List.mem_append.mp member with before | last
      · exact .inr (marked room before)
      · rw [List.mem_singleton.mp last]
        exact .inl named
    · intro roomId member
      exact mem_insert_iff.mpr (Or.inr member)
  · exact ⟨rfl, ⟨armed, tracks.delivered⟩, marked, fun roomId member => member⟩

/-- An observation keeps what is known of the rooms that are in it, and every room that
comes due is marked as delivered. -/
theorem observe_spec (anchored : String -> Nat -> Prop) (released : String -> Prop)
    {tracker : DwellTracker} {qualifying : List QualifyingRoom}
    (fresh : ∀ roomId ∈ qualifying.map QualifyingRoom.roomId, anchored roomId now)
    (release : ∀ roomId anchor, anchored roomId anchor -> anchor + tracker.dwell ≤ now -> released roomId)
    (pending : ∀ roomId ∈ qualifying.map QualifyingRoom.roomId, ∀ anchor,
      tracker.pending[roomId]? = some anchor -> anchored roomId anchor)
    (delivered : ∀ roomId ∈ qualifying.map QualifyingRoom.roomId, roomId ∈ tracker.delivered ->
      released roomId) :
    let next := tracker.observe now qualifying
    next.1.dwell = tracker.dwell ∧ next.1.Tracks anchored released ∧
      (∀ room ∈ next.2, room.roomId ∈ next.1.delivered) ∧
      ∀ roomId ∈ qualifying.map QualifyingRoom.roomId, roomId ∈ tracker.delivered ->
        roomId ∈ next.1.delivered := by
  have observed : ∀ roomId, (firstEntries qualifying).contains roomId = true ↔
      roomId ∈ qualifying.map QualifyingRoom.roomId := by
    intro roomId
    exact (firstEntries_spec qualifying roomId).1
  -- Dropping the rooms that left the set, before any room is visited.
  have kept : (tracker.retain (firstEntries qualifying)).Tracks anchored released := by
    constructor
    · intro roomId anchor found
      rw [retain, OrdMap.getElem?_filter_key] at found
      split at found
      · next present => exact pending roomId ((observed roomId).mp present) anchor found
      · cases found
    · intro roomId member
      obtain ⟨before, present⟩ := mem_filter_iff.mp member
      exact delivered roomId ((observed roomId).mp present) before
  -- What holds after some visits.
  let visited := fun next : DwellTracker × List QualifyingRoom => next.1.dwell = tracker.dwell ∧
    next.1.Tracks anchored released ∧ (∀ room ∈ next.2, room.roomId ∈ next.1.delivered) ∧
    ∀ roomId ∈ (tracker.retain (firstEntries qualifying)).delivered, roomId ∈ next.1.delivered
  have visits : visited (tracker.observe now qualifying) := by
    refine List.foldlRecOn (motive := visited) _ _ ⟨rfl, kept, by simp, fun roomId member => member⟩ ?_
    rintro ⟨start, due⟩ ⟨sameDwell, tracks, marked, keeps⟩ entry member
    have found : (firstEntries qualifying)[entry.1]? = some entry.2 :=
      mem_toList_iff_getElem?_eq_some.mp member
    have present := (observed entry.1).mp (OrdMap.mem_iff_exists.mpr ⟨entry.2, found⟩)
    obtain ⟨nextDwell, nextTracks, nextMarked, nextKeeps⟩ :=
      observeRoom_spec (fresh entry.1 present)
        (fun anchor since elapsed => release entry.1 anchor since (sameDwell ▸ elapsed))
        ((firstEntries_spec qualifying entry.1).2 entry.2 found) tracks marked
    exact ⟨nextDwell.trans sameDwell, nextTracks, nextMarked,
      fun roomId member => nextKeeps roomId (keeps roomId member)⟩
  obtain ⟨lastDwell, lastTracks, lastMarked, lastKeeps⟩ := visits
  refine ⟨lastDwell, lastTracks, lastMarked, ?_⟩
  intro roomId present before
  exact lastKeeps roomId (mem_filter_iff.mpr ⟨before, (observed roomId).mpr present⟩)

end Observe

end DwellTracker

/-! ## What has dwelled -/

/-- One call of `observe`: when it was made, and the qualifying set it gave each sink. -/
structure Observation where
  instant : Nat
  qualifying : NotificationSinkSettings -> List QualifyingRoom

/-- A room is in the qualifying set of a sink. -/
def Observation.Shows (sink : NotificationSinkSettings) (roomId : String) (observation : Observation) : Prop :=
  roomId ∈ (observation.qualifying sink).map QualifyingRoom.roomId

/-- The room has been in the sink's qualifying set in every observation since one at or
before an instant that is the sink's dwell in the past. -/
def Dwelled (observations : List Observation) (sink : NotificationSinkSettings) (roomId : String)
    (now : Nat) : Prop :=
  ∃ start, start + fromSecs sink.timing.dwellSecs ≤ now ∧
    History.Since Observation.instant (Observation.Shows sink roomId) observations start

theorem Dwelled.mono {observations : List Observation} {sink : NotificationSinkSettings} {roomId : String}
    {now later : Nat} (dwelled : Dwelled observations sink roomId now) (ordered : now ≤ later) :
    Dwelled observations sink roomId later := by
  obtain ⟨start, elapsed, since⟩ := dwelled
  exact ⟨start, elapsed.trans ordered, since⟩

/-! ## One lane -/

namespace NotificationDeliveryLane

/-- The rooms of the attempt in flight and of the armed retry. -/
def Covers (lane : NotificationDeliveryLane) (roomId : String) : Prop :=
  (∃ attempt, lane.inflight = some attempt ∧ roomId ∈ attempt.roomIds) ∨
    ∃ retry, lane.retry = some retry ∧ roomId ∈ retry.attempt.roomIds

instance (lane : NotificationDeliveryLane) (roomId : String) : Decidable (lane.Covers roomId) :=
  inferInstanceAs (Decidable
    ((∃ attempt ∈ lane.inflight, roomId ∈ attempt.roomIds) ∨
      ∃ retry ∈ lane.retry, roomId ∈ retry.attempt.roomIds))

/-- What a lane knows of the rooms it may send. -/
structure Kept (observations : List Observation) (clock : Nat) (sink : NotificationSinkSettings)
    (lane : NotificationDeliveryLane) : Prop where
  dwell : lane.dwell = fromSecs sink.timing.dwellSecs
  trackerDwell : lane.tracker.dwell = fromSecs sink.timing.dwellSecs
  tracks : lane.tracker.Tracks
    (fun roomId => History.Since Observation.instant (Observation.Shows sink roomId) observations)
    (fun roomId => Dwelled observations sink roomId clock)
  held : ∀ roomId ∈ lane.held, roomId ∈ lane.tracker.delivered
  covered : ∀ roomId, lane.Covers roomId -> roomId ∈ lane.current.map QualifyingRoom.roomId ->
    roomId ∈ lane.tracker.delivered

variable {observations : List Observation} {clock now : Nat} {sink : NotificationSinkSettings}
  {lane : NotificationDeliveryLane}

theorem kept_new (sink : NotificationSinkSettings) :
    (new (fromSecs sink.timing.dwellSecs)).Kept observations clock sink where
  dwell := rfl
  trackerDwell := rfl
  tracks := ⟨fun roomId anchor found => by simp [new, DwellTracker.new] at found,
    fun roomId member => by simp [new, DwellTracker.new] at member⟩
  held := fun roomId member => by simp [new] at member
  covered := fun roomId covers => by simp [Covers, new] at covers

variable (kept : lane.Kept observations clock sink)

include kept in
theorem Kept.mono {later : Nat} (ordered : clock ≤ later) : lane.Kept observations later sink :=
  { kept with
    tracks := ⟨kept.tracks.pending, fun roomId member => (kept.tracks.delivered roomId member).mono ordered⟩ }

theorem Fades.covers {lane' : NotificationDeliveryLane} (fades : lane.Fades lane') {roomId : String}
    (covers : lane'.Covers roomId) : lane.Covers roomId := by
  cases fades <;> grind [Covers]

include kept in
theorem Kept.fades {lane' : NotificationDeliveryLane} (fades : lane.Fades lane') :
    lane'.Kept observations clock sink := by
  have covered := fun roomId (covers : lane'.Covers roomId) => kept.covered roomId (fades.covers covers)
  cases fades with
  | dropped fewer =>
    exact { kept with covered, held := fun roomId member => kept.held roomId (fewer roomId member) }
  | stays | ended | armed | pruned => exact { kept with covered }

include kept in
/-- An observation in which no covered room comes back keeps what the lane knows. -/
theorem Kept.observe (ordered : clock ≤ now) {newest : Observation} (instant : newest.instant = now)
    (stays : ∀ roomId ∈ (newest.qualifying sink).map QualifyingRoom.roomId, lane.Covers roomId -> roomId ∈ lane.current.map QualifyingRoom.roomId) :
    (lane.observe sink now (newest.qualifying sink)).Kept (newest :: observations) now sink := by
  have sameLane : lane.withDwell (fromSecs sink.timing.dwellSecs) = lane := by
    rw [withDwell, if_pos kept.dwell.symm]
  obtain ⟨sameDwell, tracks, marked, keeps⟩ := DwellTracker.observe_spec
    (fun roomId => History.Since Observation.instant (Observation.Shows sink roomId) (newest :: observations))
    (fun roomId => Dwelled (newest :: observations) sink roomId now)
    (by
      intro roomId present
      rw [← instant]
      apply History.since_newest
      exact present)
    (fun roomId anchor since elapsed => ⟨anchor, kept.trackerDwell ▸ elapsed, since⟩)
    (fun roomId present anchor found => (kept.tracks.pending roomId anchor found).observe present)
    (by
      intro roomId present member
      obtain ⟨start, elapsed, since⟩ := kept.tracks.delivered roomId member
      exact ⟨start, elapsed.trans ordered, since.observe present⟩)
  have pruned := lane.fades_pruneRetry (roomIdsOf (newest.qualifying sink))
  rw [NotificationDeliveryLane.observe, sameLane]
  refine ⟨(kept.fades pruned).dwell, sameDwell.trans kept.trackerDwell, tracks, ?_, ?_⟩
  · intro roomId member
    rcases mem_holdDue member with before | ⟨room, due, rfl⟩
    · obtain ⟨earlier, live⟩ := mem_filter_iff.mp before
      rw [Std.ExtTreeSet.contains_iff_mem, mem_roomIdsOf] at live
      exact keeps roomId live (kept.held roomId earlier)
    · exact marked room due
  · intro roomId covers present
    have before : lane.Covers roomId := pruned.covers covers
    exact keeps roomId present (kept.covered roomId before (stays roomId present before))

/-- The lane has an attempt in flight with this intent, which was rendered from the rooms
that the attempt covers, and all of them have dwelled. -/
def SentDwelled (W : Wording) (locale : CatalogLocale) (observations : List Observation) (now : Nat)
    (sink : NotificationSinkSettings) (lane : NotificationDeliveryLane)
    (intent : NotificationDeliveryIntent) : Prop :=
  ∃ rooms windowId,
    lane.inflight = some ⟨roomIdsOf rooms, intent⟩ ∧
      renderIntent W sink rooms windowId locale =
        some { intent with idempotencyKey := idempotencyKey sink.id windowId } ∧
      ∀ room ∈ rooms, Dwelled observations sink room.roomId now

include kept in
/-- The rooms of a new window have been delivered by the tracker. -/
theorem Kept.delivered_windowRoomIds {roomId : String} (listed : roomId ∈ lane.windowRoomIds)
    (present : roomId ∈ lane.current.map QualifyingRoom.roomId) : roomId ∈ lane.tracker.delivered := by
  unfold windowRoomIds at listed
  split at listed
  · exact kept.held roomId listed
  next retry armed =>
  rw [Std.ExtTreeSet.mem_insertMany_list, List.contains_iff_mem, Std.ExtTreeSet.mem_toList] at listed
  rcases listed with held | retried
  · exact kept.held roomId held
  · exact kept.covered roomId (Or.inr ⟨retry, armed, retried⟩) present

include kept in
/-- A visit sends only rooms that have been delivered by the tracker. -/
theorem Kept.takes {W : Wording} {nonce : String} {locale : CatalogLocale} (ordered : clock ≤ now)
    {visit : NotificationDeliveryLane × Option NotificationDeliveryIntent}
    (takes : lane.Takes W nonce sink now locale visit) : visit.1.Kept observations clock sink ∧
      ∀ intent ∈ visit.2, visit.1.SentDwelled W locale observations now sink intent := by
  cases takes with
  | quiet fades => exact ⟨kept.fades fades, fun intent none => absurd none (not_mem_none intent)⟩
  | @sends _ _ _ roomIds _ _ fewer known rendered =>
    have delivered : ∀ room ∈ lane.currentRooms roomIds, room.roomId ∈ lane.tracker.delivered := by
      intro room member
      obtain ⟨listed, present⟩ := mem_currentRooms member
      exact kept.delivered_windowRoomIds (known room.roomId listed) present
    constructor
    · refine { kept with covered := ?_, held := fun roomId member => kept.held roomId (fewer roomId member) }
      rintro roomId (⟨attempt, same, member⟩ | ⟨retry, missing, _⟩) _
      · rw [← some_inj.mp same, mem_roomIdsOf] at member
        obtain ⟨room, listed, rfl⟩ := List.mem_map.mp member
        exact delivered room listed
      · cases missing
    · intro other same
      obtain rfl := mem_some_iff.mp same
      refine ⟨_, _, rfl, rendered, ?_⟩
      exact fun room member => (kept.tracks.delivered _ (delivered room member)).mono ordered

end NotificationDeliveryLane

/-! ## Runs -/

/-- The channel, the instant of the last call, and the observations, the newest first. -/
structure Watch where
  channel : NotificationDeliveryChannel
  clock : Nat
  observations : List Observation

def Call.instant : Call -> Option Nat
  | .observe _ now _ _ | .takeSendJobs _ now _ | .takeDueRetries _ now _ | .recordOutcome _ now _ _ _ _ =>
    some now
  | _ => none

def Call.settings : Call -> Option NotificationDeliverySettings
  | .observe settings _ _ _ | .takeSendJobs settings _ _ | .takeDueRetries settings _ _
  | .recordOutcome settings _ _ _ _ _ | .retainSinks settings => some settings
  | _ => none

namespace Watch

def start (nonce : String) : Watch := ⟨.withNonce nonce, 0, []⟩

def step (W : Wording) (watch : Watch) (call : Call) : Watch :=
  { channel := (watch.channel.call W call).1
    clock := call.instant.getD watch.clock
    observations :=
      match call with
      | .observe _ now candidates focused =>
        ⟨now, fun sink => watch.channel.observedRooms sink candidates focused⟩ :: watch.observations
      | _ => watch.observations }

/-- The settings are the same in every call, and the instants do not decrease. -/
def Steady (settings : NotificationDeliverySettings) (watch : Watch) (call : Call) : Prop :=
  (∀ now ∈ call.instant, watch.clock ≤ now) ∧ ∀ given ∈ call.settings, given = settings

/-- No room comes back into the qualifying set of a lane while an attempt in flight or a
retry of the lane covers it. -/
def NoCoveredReentry (watch : Watch) (call : Call) : Prop :=
  match call with
  | .observe settings _ candidates focused =>
    ∀ sink ∈ settings.sinks, ∀ lane, watch.channel.lanes[sink.id]? = some lane ->
      ∀ room ∈ watch.channel.observedRooms sink candidates focused, lane.Covers room.roomId ->
        room.roomId ∈ lane.current.map QualifyingRoom.roomId
  | _ => True

instance (settings : NotificationDeliverySettings) (watch : Watch) (call : Call) :
    Decidable (watch.Steady settings call) :=
  inferInstanceAs (Decidable
    ((∀ now ∈ call.instant, watch.clock ≤ now) ∧ ∀ given ∈ call.settings, given = settings))

instance (watch : Watch) (call : Call) : Decidable (watch.NoCoveredReentry call) :=
  match call with
  | .observe settings _ candidates focused =>
    inferInstanceAs (Decidable
      (∀ sink ∈ settings.sinks, ∀ lane ∈ watch.channel.lanes[sink.id]?,
        ∀ room ∈ watch.channel.observedRooms sink candidates focused, lane.Covers room.roomId ->
          room.roomId ∈ lane.current.map QualifyingRoom.roomId))
  | .recordCredential .. | .takeSendJobs .. | .takeDueRetries .. | .recordOutcome .. | .abandonInflight ..
  | .nextTestWindowId .. | .recordTestOutcome .. | .retainSinks .. | .markCredentialRetired ..
  | .clearCredentialRetired .. => isTrue trivial

/-- What every lane of the settings' sinks knows. -/
def LanesKept (settings : NotificationDeliverySettings) (watch : Watch) : Prop :=
  ∀ sink ∈ settings.sinks, ∀ lane, watch.channel.lanes[sink.id]? = some lane ->
    lane.Kept watch.observations watch.clock sink

variable {W : Wording} {settings : NotificationDeliverySettings} {watch : Watch} {call : Call}

theorem LanesKept.start (settings : NotificationDeliverySettings) (nonce : String) :
    (start nonce).LanesKept settings := by
  intro sink _ lane found
  simp [Watch.start, withNonce] at found

variable (kept : watch.LanesKept settings)

include kept in
/-- Lanes that go on without sending, seen later. -/
theorem LanesKept.quietens {watch' : Watch} (sameObservations : watch'.observations = watch.observations)
    (ordered : watch.clock ≤ watch'.clock) (quiet : watch.channel.Quietens watch'.channel) :
    watch'.LanesKept settings := by
  intro sink member lane' found
  obtain ⟨lane, before, fades⟩ := quiet.2 sink.id lane' found
  rw [sameObservations]
  exact ((kept sink member lane before).fades fades).mono ordered

variable (distinct : (keysBy NotificationSinkSettings.id settings.sinks).Nodup)

include distinct in
theorem lanesKept_observe (kept : watch.LanesKept settings) {now : Nat}
    {candidates : List RoomAttentionCandidate} {focused : Bool} (ordered : watch.clock ≤ now)
    (stays : watch.NoCoveredReentry (.observe settings now candidates focused)) :
    (watch.step W (.observe settings now candidates focused)).LanesKept settings := by
  intro sink member lane' found
  obtain ⟨lane, rfl, before | ⟨_, rfl, _⟩⟩ :=
    lanes_foldl_observeSink distinct member watch.channel found
  · apply (kept sink member lane before).observe ordered rfl
    intro roomId present covers
    obtain ⟨room, listed, rfl⟩ := List.mem_map.mp present
    exact stays sink member lane before room listed covers
  · apply (kept_new sink).observe ordered rfl
    intro roomId _ covers
    simp [Covers, new] at covers

/-- Every job of a call is the attempt in flight of its sink's lane after the call, and the
rooms it was rendered from have dwelled at the instant of the call. -/
def SendsDwelled (W : Wording) (settings : NotificationDeliverySettings) (watch : Watch) (call : Call) : Prop :=
  ∀ job ∈ (watch.channel.call W call).2, ∃ sink ∈ settings.sinks, sink.id = job.sinkId ∧
    ∃ lane locale, (watch.step W call).channel.lanes[sink.id]? = some lane ∧
      lane.SentDwelled W locale watch.observations (watch.step W call).clock sink job.intent

/-- A call that sends nothing. -/
theorem SendsDwelled.of_nil (nothing : (watch.channel.call W call).2 = []) : watch.SendsDwelled W settings call := by
  intro job member
  rw [nothing] at member
  cases member

include distinct in
/-- A call that visits the lanes of all sinks. -/
theorem sends_visit (kept : watch.LanesKept settings) {now : Nat} (locale : CatalogLocale)
    (ordered : watch.clock ≤ now)
    {visit : NotificationDeliveryChannel -> NotificationSinkSettings -> NotificationDeliveryLane -> NotificationDeliveryLane × Option NotificationDeliveryIntent}
    (visits : ∀ channel sink lane, lane.Kept watch.observations watch.clock sink -> (visit channel sink lane).1.Kept watch.observations watch.clock sink ∧ ∀ intent ∈ (visit channel sink lane).2, (visit channel sink lane).1.SentDwelled W locale watch.observations now sink intent)
    (called : watch.channel.call W call = visitSinks visit settings.sinks watch.channel)
    (stepped : watch.step W call = ⟨(watch.channel.call W call).1, now, watch.observations⟩) :
    (watch.step W call).LanesKept settings ∧ watch.SendsDwelled W settings call := by
  obtain ⟨good, sent⟩ := visitSinks_spec visits distinct watch.channel kept
  rw [← called] at good sent
  constructor
  · intro sink member lane found
    rw [stepped] at found ⊢
    exact (good sink member lane found).mono ordered
  · intro job member
    obtain ⟨sink, listed, same, lane, found, dwelled⟩ := sent job member
    rw [stepped]
    exact ⟨sink, listed, same, lane, locale, found, dwelled⟩

include distinct in
/-- Every call of a steady run keeps what the lanes know, and sends only rooms that have
dwelled. -/
theorem step_spec (steady : watch.Steady settings call) (stays : watch.NoCoveredReentry call)
    (kept : watch.LanesKept settings) :
    (watch.step W call).LanesKept settings ∧ watch.SendsDwelled W settings call := by
  obtain ⟨ordered, sameSettings⟩ := steady
  have quiet := quietens_call W watch.channel call
  cases call with
  | observe given now candidates focused =>
    obtain rfl : given = settings := sameSettings given rfl
    exact ⟨lanesKept_observe distinct kept (ordered now rfl) stays, SendsDwelled.of_nil rfl⟩
  | takeSendJobs given now locale =>
    obtain rfl : given = settings := sameSettings given rfl
    refine sends_visit distinct kept locale (ordered now rfl) ?_ rfl rfl
    intro channel sink lane good
    split
    · exact good.takes (ordered now rfl) takes_takeSend
    · exact ⟨good, fun intent missing => absurd missing (not_mem_none intent)⟩
  | takeDueRetries given now locale =>
    obtain rfl : given = settings := sameSettings given rfl
    exact sends_visit distinct kept locale (ordered now rfl)
      (fun channel sink lane good => good.takes (ordered now rfl) (takes_takeRetry (channel.isConfigured sink)))
      rfl rfl
  | recordOutcome => exact ⟨kept.quietens rfl (ordered _ rfl) quiet.1, SendsDwelled.of_nil quiet.2⟩
  | recordCredential | abandonInflight | nextTestWindowId | recordTestOutcome | retainSinks
  | markCredentialRetired | clearCredentialRetired =>
    exact ⟨kept.quietens rfl (le_refl _) quiet.1, SendsDwelled.of_nil quiet.2⟩

/-- In a run with fixed settings and a clock that does not go back, every room that a call
sends has been in its sink's qualifying set in every observation since the sink's dwell, as
long as no room comes back into the set while an attempt or a retry covers it. -/
theorem sent_after_dwell (W : Wording) (settings : NotificationDeliverySettings)
    (canonical : settings.canonicalize = settings) (nonce : String) (calls : List Call) (call : Call)
    (guarded : Machine.EveryStep (step W)
      (fun watch call => watch.Steady settings call ∧ watch.NoCoveredReentry call) (start nonce)
      (calls ++ [call])) : (Machine.run (step W) (start nonce) calls).SendsDwelled W settings call := by
  have distinct : (keysBy NotificationSinkSettings.id settings.sinks).Nodup := by
    rw [← canonical]
    exact settings.nodup_ids_canonicalize
  obtain ⟨earlier, last, _⟩ := everyStep_append.mp guarded
  have kept : (run (step W) (start nonce) calls).LanesKept settings := by
    refine run_invariant_of_everyStep (fun watch => watch.LanesKept settings) ?_ earlier
      (LanesKept.start settings nonce)
    intro watch call guard kept
    exact (step_spec distinct guard.1 guard.2 kept).1
  exact (step_spec distinct last.1 last.2 kept).2

end Watch

/-! ## A room that was read while its notice was in flight -/

/-- The room stays unread until its dwell is over. -/
def dwellCalls : List Call :=
  [.recordCredential promptSink true,
    .observe promptSettings (fromSecs 0) [mentionIn "!r"] false,
    .observe promptSettings (fromSecs 300) [mentionIn "!r"] false]

theorem sent_after_dwell_prompt :
    ((Machine.run (Watch.step plainWording) (Watch.start "n") dwellCalls).channel.call plainWording
        (.takeSendJobs promptSettings (fromSecs 300) .en)).2.length = 1 ∧
      (Machine.run (Watch.step plainWording) (Watch.start "n") dwellCalls).SendsDwelled plainWording
        promptSettings (.takeSendJobs promptSettings (fromSecs 300) .en) :=
  ⟨by decide +kernel,
    Watch.sent_after_dwell plainWording promptSettings (by decide +kernel) "n" dwellCalls
      (.takeSendJobs promptSettings (fromSecs 300) .en) (by decide +kernel)⟩

/-- After that the room is sent, read at 310 s and unread again at 320 s, while the attempt
is in flight; the attempt fails at 330 s. -/
def rereadCalls : List Call :=
  dwellCalls ++
    [.takeSendJobs promptSettings (fromSecs 300) .en,
      .observe promptSettings (fromSecs 310) [] false,
      .observe promptSettings (fromSecs 320) [mentionIn "!r"] false,
      .recordOutcome promptSettings (fromSecs 330) "mail" "koushi-notification/mail/n-1"
        (.failed .transport) 0]

/-- The retry at 360 s names the room, forty seconds after it became unread again. -/
theorem retry_names_reread_room : promptSettings.canonicalize = promptSettings ∧
      Machine.EveryStep (Watch.step plainWording) (Watch.Steady promptSettings) (Watch.start "n")
        (rereadCalls ++ [.takeDueRetries promptSettings (fromSecs 360) .en]) ∧
      let before := Machine.run (Watch.step plainWording) (Watch.start "n") rereadCalls
      let sent := before.channel.call plainWording (.takeDueRetries promptSettings (fromSecs 360) .en)
      (sent.1.lanes["mail"]?.bind NotificationDeliveryLane.inflight).map
            (fun attempt => (attempt.roomIds.toList, [NotificationDeliveryJob.mk "mail" attempt.intent])) =
          some (["!r"], sent.2) ∧
        ¬ Dwelled before.observations promptSink "!r" (fromSecs 360) := by
  refine ⟨by decide +kernel, by decide +kernel, by decide +kernel, ?_⟩
  rintro ⟨start, elapsed, since⟩
  have late : fromSecs 320 ≤ start := by
    apply since.instant_le_of_gap
    intro shown
    dsimp only [Observation.Shows] at shown
    cases shown
  have tooEarly : fromSecs 320 + fromSecs 300 ≤ fromSecs 360 := (Nat.add_le_add_right late _).trans elapsed
  exact absurd tooEarly (by decide)

end Koushi.Delivery
