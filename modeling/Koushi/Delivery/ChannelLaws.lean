import Koushi.Delivery.Channel

namespace Koushi.Delivery

open Collections Option List NotificationDeliveryLane

/-!
# What the operations of the channel do to its lanes

The calls visit the lanes of the sinks one after the other.  A visit writes the lane of its
sink and no other lane, so with distinct sink ids each lane is visited once
(`visitSinks_spec` and `lanes_foldl_observeSink`).
-/

/-! ## The intent of a window -/

variable {sink : NotificationSinkSettings} {rooms : List QualifyingRoom}

/-- The window of an intent changes its key and nothing else. -/
theorem renderIntent_window {W : Wording} {windowId : String}
    {locale : CatalogLocale} {intent : NotificationDeliveryIntent}
    (rendered : renderIntent W sink rooms windowId locale = some intent) (other : String) :
    renderIntent W sink rooms other locale =
      some { intent with idempotencyKey := idempotencyKey sink.id other } := by
  unfold renderIntent at rendered ⊢
  split at rendered
  · cases rendered
  next deliverable =>
  rw [if_neg deliverable]
  split at rendered
  · cases rendered
  rw [some_inj] at rendered
  rw [← rendered]

/-- The key of a rendered intent is that of its sink and window. -/
theorem idempotencyKey_renderIntent {W : Wording} {windowId : String}
    {locale : CatalogLocale} {intent : NotificationDeliveryIntent}
    (rendered : renderIntent W sink rooms windowId locale = some intent) :
    intent.idempotencyKey = idempotencyKey sink.id windowId := by
  have again := renderIntent_window rendered windowId
  rw [rendered, some_inj] at again
  exact congrArg NotificationDeliveryIntent.idempotencyKey again

/-! ## The rooms of a lane -/

namespace NotificationDeliveryLane

theorem mem_roomIdsOf {roomId : String} :
    roomId ∈ roomIdsOf rooms ↔ roomId ∈ rooms.map QualifyingRoom.roomId :=
  OrdSet.mem_ofList

/-- The rooms that come due are held, as far as they fit. -/
theorem mem_holdDue {held : OrdSet String} {due : List QualifyingRoom} {roomId : String}
    (member : roomId ∈ holdDue held due) : roomId ∈ held ∨ ∃ room ∈ due, room.roomId = roomId := by
  induction due generalizing held with
  | nil => exact .inl member
  | cons room rest ih =>
    unfold holdDue at member
    split at member
    · exact .inl member
    rcases ih member with before | ⟨other, listed, same⟩
    · rcases OrdSet.mem_insert_iff.mp before with rfl | earlier
      · exact .inr ⟨room, mem_cons_self, rfl⟩
      · exact .inl earlier
    · exact .inr ⟨other, mem_cons_of_mem room listed, same⟩

theorem mem_currentRooms {lane : NotificationDeliveryLane} {roomIds : OrdSet String} {room : QualifyingRoom}
    (member : room ∈ lane.currentRooms roomIds) :
    room.roomId ∈ roomIds ∧ room.roomId ∈ lane.current.map QualifyingRoom.roomId := by
  obtain ⟨present, listed⟩ := mem_filter.mp member
  exact ⟨Std.ExtTreeSet.contains_iff_mem.mp listed, mem_map_of_mem present⟩

/-! ## What an operation does to a lane -/

/-- A lane goes on without sending. -/
inductive Fades (lane : NotificationDeliveryLane) : NotificationDeliveryLane -> Prop
  | stays : Fades lane lane
  | ended : Fades lane { lane with inflight := none, attempts := 0 }
  | armed {attempt : LaneAttempt} (flying : lane.inflight = some attempt) (attempts notBefore : Nat) :
      Fades lane { lane with inflight := none, attempts := attempts, retry := some ⟨attempt, notBefore⟩ }
  | pruned {retry : LaneRetry} (armed : lane.retry = some retry) {roomIds : OrdSet String}
      (fewer : ∀ roomId ∈ roomIds, roomId ∈ retry.attempt.roomIds) :
      Fades lane { lane with retry := some { retry with attempt := { retry.attempt with roomIds := roomIds } } }
  | dropped {held : OrdSet String} (fewer : ∀ roomId ∈ held, roomId ∈ lane.held) {sequence : Nat}
      (grows : lane.windowSequence ≤ sequence) :
      Fades lane { lane with held := held, retry := none, windowSequence := sequence, attempts := 0 }

theorem fades_pruneRetry (lane : NotificationDeliveryLane) (live : OrdSet String) :
    lane.Fades (lane.pruneRetry live) := by
  unfold pruneRetry
  split
  · exact .stays
  next retry armed =>
  dsimp only
  split
  · exact .dropped (fun _ member => member) (le_refl _)
  · exact .pruned armed (fun roomId member => (OrdSet.mem_filter_iff.mp member).1)

/-- Taking the attempt in flight and settling it. -/
theorem fades_settle {lane : NotificationDeliveryLane} {key : String} {attempt : LaneAttempt} {idle : NotificationDeliveryLane}
    (taken : lane.takeInflight key = some (attempt, idle)) :
    lane.Fades { idle with attempts := 0 } ∧
      ∀ (sink : NotificationSinkSettings) (now : Nat) (outcome : NotificationDeliveryOutcome),
        lane.Fades (idle.settle sink now attempt outcome) := by
  unfold takeInflight at taken
  split at taken
  · cases taken
  next inflight flying =>
  split at taken
  · rw [some_inj, Prod.mk.injEq] at taken
    obtain ⟨rfl, rfl⟩ := taken
    refine ⟨.ended, ?_⟩
    intro sink now outcome
    unfold settle
    split
    · exact .ended
    split
    · exact .armed flying _ _
    · exact .ended
  · cases taken

/-- A visit of a lane sends nothing, or sends the current view of rooms it holds or is to
retry; under a new key, or under the key of the retry and with its message. -/
inductive Takes (W : Wording) (nonce : String) (sink : NotificationSinkSettings) (now : Nat)
    (locale : CatalogLocale) (lane : NotificationDeliveryLane) :
    NotificationDeliveryLane × Option NotificationDeliveryIntent -> Prop
  | quiet {lane' : NotificationDeliveryLane} (fades : lane.Fades lane') : Takes W nonce sink now locale lane (lane', none)
  | sends {held : OrdSet String} {sequence attempts : Nat} {roomIds : OrdSet String} {windowId : String}
      {intent : NotificationDeliveryIntent}
      (fewer : ∀ roomId ∈ held, roomId ∈ lane.held)
      (known : ∀ roomId ∈ roomIds, roomId ∈ lane.windowRoomIds)
      (rendered : renderIntent W sink (lane.currentRooms roomIds) windowId locale =
        some { intent with idempotencyKey := idempotencyKey sink.id windowId })
      (keyed : sequence = lane.windowSequence + 1 ∧
          intent.idempotencyKey = idempotencyKey sink.id (nonce ++ "-" ++ sequence.repr) ∨
        sequence = lane.windowSequence ∧ ∃ retry, lane.retry = some retry ∧
          intent.idempotencyKey = retry.attempt.intent.idempotencyKey ∧
          intent.destination = retry.attempt.intent.destination ∧
          intent.subject = retry.attempt.intent.subject ∧ intent.body = retry.attempt.intent.body) :
      Takes W nonce sink now locale lane
        ({ lane with
            held := held, retry := none, windowSequence := sequence, lastAttemptAt := some now
            attempts := attempts, inflight := some ⟨roomIdsOf (lane.currentRooms roomIds), intent⟩ },
          some intent)

section Visits

variable {W : Wording} {nonce : String} {sink : NotificationSinkSettings} {now : Nat} {locale : CatalogLocale}
  {lane : NotificationDeliveryLane}

theorem takes_takeSend : lane.Takes W nonce sink now locale (lane.takeSend W nonce sink now locale) := by
  unfold takeSend
  split
  · exact .quiet .stays
  dsimp only
  split
  · exact .quiet (.dropped (fun _ member => absurd member Std.ExtTreeSet.not_mem_empty) (Nat.le_succ _))
  next intent rendered =>
  refine .sends (fun _ member => absurd member Std.ExtTreeSet.not_mem_empty) (fun _ member => member)
    (rendered.trans ?_) (.inl ⟨rfl, idempotencyKey_renderIntent rendered⟩)
  rw [← idempotencyKey_renderIntent rendered]

theorem takes_takeRetry (configured : Bool) :
    lane.Takes W nonce sink now locale (lane.takeRetry W nonce sink now locale configured) := by
  unfold takeRetry
  split
  · exact .quiet .stays
  next retry armed =>
  have known : ∀ roomId ∈ retry.attempt.roomIds, roomId ∈ lane.windowRoomIds := by
    intro roomId member
    simp only [windowRoomIds, armed]
    rw [Std.ExtTreeSet.mem_insertMany_list, contains_iff_mem, Std.ExtTreeSet.mem_toList]
    exact .inr member
  split
  · exact .quiet .stays
  dsimp only
  split
  · exact .quiet (.dropped (fun _ member => member) (le_refl _))
  split
  · exact .quiet (.dropped (fun _ member => member) (le_refl _))
  next intent rendered =>
  -- The same message goes out under its key again, a new one under a new key.
  by_cases same : (intent.subject == retry.attempt.intent.subject &&
    intent.body == retry.attempt.intent.body &&
    intent.destination == retry.attempt.intent.destination) = true
  · simp only [if_pos same]
    refine .sends (fun _ member => member) known (renderIntent_window rendered "retry") (.inr ⟨rfl, retry, armed, rfl, ?_⟩)
    simp only [Bool.and_eq_true, beq_iff_eq] at same
    exact ⟨same.2, same.1.1, same.1.2⟩
  · simp only [if_neg same, renderIntent_window rendered, getD_some]
    exact .sends (fun _ member => member) known (renderIntent_window rendered "retry") (.inl ⟨rfl, rfl⟩)

end Visits

end NotificationDeliveryLane

/-! ## The lanes of a channel -/

namespace NotificationDeliveryChannel

theorem lanes_setLane (channel : NotificationDeliveryChannel) (sinkId : String) (lane : NotificationDeliveryLane)
    (other : String) :
    (channel.setLane sinkId lane).lanes[other]? = if sinkId = other then some lane else channel.lanes[other]? :=
  OrdMap.getElem?_insert_ite channel.lanes sinkId lane other

section Visits

variable {visit : NotificationDeliveryChannel -> NotificationSinkSettings ->
  NotificationDeliveryLane -> NotificationDeliveryLane × Option NotificationDeliveryIntent}

variable {sinks : List NotificationSinkSettings}

theorem lanes_visitSinks_of_not_mem {sinkId : String}
    (absent : sinkId ∉ keysBy NotificationSinkSettings.id sinks) (channel : NotificationDeliveryChannel) :
    (visitSinks visit sinks channel).1.lanes[sinkId]? = channel.lanes[sinkId]? := by
  induction sinks generalizing channel with
  | nil => rfl
  | cons sink rest ih =>
    rw [keysBy, map_cons, mem_cons, not_or] at absent
    unfold visitSinks
    split
    · exact ih absent.2 channel
    · rw [ih absent.2, lanes_setLane, if_neg (Ne.symm absent.1)]

/-- What every visit keeps of a lane holds of all lanes afterwards, and every job comes
from the lane of its sink. -/
theorem visitSinks_spec {good : NotificationSinkSettings -> NotificationDeliveryLane -> Prop}
    {sent : NotificationSinkSettings -> NotificationDeliveryLane -> NotificationDeliveryIntent -> Prop}
    (visits : ∀ channel sink lane, good sink lane -> good sink (visit channel sink lane).1 ∧
        ∀ intent ∈ (visit channel sink lane).2, sent sink (visit channel sink lane).1 intent)
    (distinct : (keysBy NotificationSinkSettings.id sinks).Nodup) (channel : NotificationDeliveryChannel)
    (before : ∀ sink ∈ sinks, ∀ lane, channel.lanes[sink.id]? = some lane -> good sink lane) :
    (∀ sink ∈ sinks, ∀ lane, (visitSinks visit sinks channel).1.lanes[sink.id]? = some lane -> good sink lane) ∧
      ∀ job ∈ (visitSinks visit sinks channel).2, ∃ sink ∈ sinks, sink.id = job.sinkId ∧
        ∃ lane, (visitSinks visit sinks channel).1.lanes[sink.id]? = some lane ∧ sent sink lane job.intent := by
  induction sinks generalizing channel with
  | nil => exact ⟨before, fun job member => absurd member not_mem_nil⟩
  | cons sink rest ih =>
    rw [keysBy, map_cons, nodup_cons] at distinct
    have others : ∀ other ∈ rest, sink.id ≠ other.id := by
      intro other member same
      exact distinct.1 (same ▸ mem_map_of_mem member)
    unfold visitSinks
    split
    · next missing =>
      obtain ⟨good, jobs⟩ := ih distinct.2 channel (fun other member => before other (mem_cons_of_mem _ member))
      constructor
      · intro other member lane found
        rcases mem_cons.mp member with rfl | later
        · rw [lanes_visitSinks_of_not_mem distinct.1, missing] at found
          cases found
        · exact good other later lane found
      · intro job member
        obtain ⟨other, listed, rest⟩ := jobs job member
        exact ⟨other, mem_cons_of_mem _ listed, rest⟩
    · next lane found =>
      have visited := visits channel sink lane (before sink mem_cons_self lane found)
      have here : (visitSinks visit rest
          (channel.setLane sink.id (visit channel sink lane).1)).1.lanes[sink.id]? =
            some (visit channel sink lane).1 := by
        rw [lanes_visitSinks_of_not_mem distinct.1, lanes_setLane, if_pos rfl]
      obtain ⟨good, jobs⟩ := ih distinct.2 (channel.setLane sink.id (visit channel sink lane).1) (by
        intro other member lane found
        rw [lanes_setLane, if_neg (others other member)] at found
        exact before other (mem_cons_of_mem _ member) lane found)
      constructor
      · intro other member lane' found'
        rcases mem_cons.mp member with rfl | later
        · rw [here, some_inj] at found'
          exact found' ▸ visited.1
        · exact good other later lane' found'
      · intro job member
        rcases mem_append.mp member with own | later
        · rw [mem_toList, map_eq_some_iff] at own
          obtain ⟨intent, isSent, rfl⟩ := own
          exact ⟨sink, mem_cons_self, rfl, _, here, visited.2 intent isSent⟩
        · obtain ⟨other, listed, rest⟩ := jobs job later
          exact ⟨other, mem_cons_of_mem _ listed, rest⟩

end Visits

section Observing

variable {now : Nat} {candidates : List RoomAttentionCandidate} {focused : Bool}

variable (channel : NotificationDeliveryChannel)

variable (sink : NotificationSinkSettings)

theorem configured_observeSink :
    (channel.observeSink now candidates focused sink).configured = channel.configured := by
  unfold observeSink
  dsimp only
  split
  · rfl
  · split <;> rfl

theorem observedRooms_observeSink (sink other : NotificationSinkSettings) :
    (channel.observeSink now candidates focused sink).observedRooms other candidates focused =
      channel.observedRooms other candidates focused := by
  unfold observedRooms isConfigured
  rw [configured_observeSink]

/-- The lane of a sink after its observation comes from the lane before it, or from a new
one. -/
theorem lanes_observeSink {lane' : NotificationDeliveryLane}
    (found : (channel.observeSink now candidates focused sink).lanes[sink.id]? = some lane') :
    ∃ lane, lane' = lane.observe sink now (channel.observedRooms sink candidates focused) ∧
      (channel.lanes[sink.id]? = some lane ∨
        channel.lanes[sink.id]? = none ∧ lane = .new (fromSecs sink.timing.dwellSecs) ∧
          channel.observedRooms sink candidates focused ≠ []) := by
  unfold observeSink at found
  dsimp only at found
  split at found
  · next lane before =>
    rw [lanes_setLane, if_pos rfl, some_inj] at found
    exact ⟨lane, found.symm, Or.inl before⟩
  · next missing =>
    split at found
    · rw [missing] at found
      cases found
    · next rooms =>
      rw [lanes_setLane, if_pos rfl, some_inj] at found
      exact ⟨_, found.symm, Or.inr ⟨missing, rfl, by simpa using rooms⟩⟩

variable {sink : NotificationSinkSettings} {sinkId : String}

/-- An observation drops no lane. -/
theorem lanes_of_observeSink_none {channel : NotificationDeliveryChannel}
    (missing : (channel.observeSink now candidates focused sink).lanes[sinkId]? = none) :
    channel.lanes[sinkId]? = none := by
  unfold observeSink at missing
  dsimp only at missing
  split at missing
  · rw [lanes_setLane] at missing
    split at missing
    · cases missing
    · exact missing
  · split at missing
    · exact missing
    · rw [lanes_setLane] at missing
      split at missing
      · cases missing
      · exact missing

theorem nonce_foldl_observeSink (sinks : List NotificationSinkSettings) (channel : NotificationDeliveryChannel) :
    (sinks.foldl (observeSink now candidates focused) channel).nonce = channel.nonce := by
  induction sinks generalizing channel with
  | nil => rfl
  | cons sink rest ih =>
    rw [foldl_cons, ih]
    unfold observeSink
    dsimp only
    split
    · rfl
    · split <;> rfl

theorem lanes_observeSink_of_ne (other : sink.id ≠ sinkId) :
    (channel.observeSink now candidates focused sink).lanes[sinkId]? = channel.lanes[sinkId]? := by
  unfold observeSink
  dsimp only
  split
  · rw [lanes_setLane, if_neg other]
  split
  · rfl
  · rw [lanes_setLane, if_neg other]

variable {sinks : List NotificationSinkSettings}

theorem lanes_foldl_observeSink_of_not_mem
    (absent : sinkId ∉ keysBy NotificationSinkSettings.id sinks) (channel : NotificationDeliveryChannel) :
    (sinks.foldl (observeSink now candidates focused) channel).lanes[sinkId]? = channel.lanes[sinkId]? := by
  induction sinks generalizing channel with
  | nil => rfl
  | cons sink rest ih =>
    rw [keysBy, map_cons, mem_cons, not_or] at absent
    rw [foldl_cons, ih absent.2, lanes_observeSink_of_ne channel (Ne.symm absent.1)]

/-- The same for the observation of all sinks: each lane is visited once. -/
theorem lanes_foldl_observeSink (distinct : (keysBy NotificationSinkSettings.id sinks).Nodup)
    (member : sink ∈ sinks) (channel : NotificationDeliveryChannel) {lane' : NotificationDeliveryLane}
    (found : (sinks.foldl (observeSink now candidates focused) channel).lanes[sink.id]? = some lane') :
    ∃ lane, lane' = lane.observe sink now (channel.observedRooms sink candidates focused) ∧
      (channel.lanes[sink.id]? = some lane ∨
        channel.lanes[sink.id]? = none ∧ lane = .new (fromSecs sink.timing.dwellSecs) ∧
          channel.observedRooms sink candidates focused ≠ []) := by
  induction sinks generalizing channel with
  | nil => cases member
  | cons first rest ih =>
    rw [keysBy, map_cons, nodup_cons] at distinct
    rw [foldl_cons] at found
    rcases mem_cons.mp member with rfl | later
    · rw [lanes_foldl_observeSink_of_not_mem distinct.1] at found
      exact lanes_observeSink channel sink found
    · have other : first.id ≠ sink.id := by
        intro same
        exact distinct.1 (same ▸ mem_map_of_mem later)
      have shown := ih distinct.2 later _ found
      rwa [observedRooms_observeSink, lanes_observeSink_of_ne channel other] at shown

end Observing

/-! ## The other calls -/

/-- The lanes of a channel go on without sending, or are gone. -/
def Quietens (channel channel' : NotificationDeliveryChannel) : Prop :=
  channel'.nonce = channel.nonce ∧ ∀ (sinkId : String) (lane' : NotificationDeliveryLane),
    channel'.lanes[sinkId]? = some lane' -> ∃ lane, channel.lanes[sinkId]? = some lane ∧ lane.Fades lane'

variable {channel channel' : NotificationDeliveryChannel} {sinkId key : String}

theorem Quietens.of_lanes (sameNonce : channel'.nonce = channel.nonce)
    (lanes : ∀ (sinkId : String) (lane : NotificationDeliveryLane),
      channel'.lanes[sinkId]? = some lane -> channel.lanes[sinkId]? = some lane) : channel.Quietens channel' :=
  ⟨sameNonce, fun sinkId lane' found => ⟨lane', lanes sinkId lane' found, .stays⟩⟩

theorem Quietens.of_eq (sameNonce : channel'.nonce = channel.nonce) (sameLanes : channel'.lanes = channel.lanes) :
    channel.Quietens channel' :=
  .of_lanes sameNonce (fun _ _ found => sameLanes ▸ found)

/-- A lane that is written goes on. -/
theorem quietens_setLane {lane lane' : NotificationDeliveryLane} (found : channel.lanes[sinkId]? = some lane)
    (fades : lane.Fades lane') : channel.Quietens (channel.setLane sinkId lane') := by
  refine ⟨rfl, ?_⟩
  intro other after isLane
  rcases OrdMap.getElem?_insert_cases isLane with ⟨rfl, rfl⟩ | ⟨_, before⟩
  · exact ⟨lane, found, fades⟩
  · exact ⟨after, before, .stays⟩

theorem quietens_recordCredential (configured : Bool) :
    channel.Quietens (channel.recordCredential sink configured) := by
  unfold recordCredential
  dsimp only
  split
  · exact .of_lanes rfl (fun sinkId lane found => (OrdMap.getElem?_erase_cases found).2)
  · exact .of_eq rfl rfl

/-- Settling a test leaves the lanes alone. -/
theorem takePendingTest_spec {tested : NotificationDeliveryChannel}
    (taken : channel.takePendingTest sinkId key = some tested) :
    tested.nonce = channel.nonce ∧ tested.lanes = channel.lanes := by
  unfold takePendingTest at taken
  split at taken
  · rw [some_inj] at taken
    rw [← taken]
    exact ⟨rfl, rfl⟩
  · cases taken

variable {settings : NotificationDeliverySettings}

theorem quietens_recordOutcome (now : Nat) (outcome : NotificationDeliveryOutcome) (atMs : Nat) :
    channel.Quietens (channel.recordOutcome settings now sinkId key outcome atMs) := by
  unfold recordOutcome
  split
  · exact .of_eq rfl rfl
  next sink listed =>
  split
  · next tested taken => exact .of_eq (takePendingTest_spec taken).1 (takePendingTest_spec taken).2
  split
  · exact .of_eq rfl rfl
  next attempt idle taken =>
  obtain ⟨lane, found, inflight⟩ := bind_eq_some_iff.mp taken
  have written : (channel.recordTestOutcome sinkId outcome atMs).Quietens _ :=
    quietens_setLane found ((fades_settle inflight).2 sink now outcome)
  exact written

theorem quietens_abandonInflight : channel.Quietens (channel.abandonInflight sinkId key) := by
  unfold abandonInflight
  split
  · next tested taken => exact .of_eq (takePendingTest_spec taken).1 (takePendingTest_spec taken).2
  split
  · exact .of_eq rfl rfl
  next attempt idle taken =>
  obtain ⟨lane, found, inflight⟩ := bind_eq_some_iff.mp taken
  exact quietens_setLane found (fades_settle inflight).1

theorem quietens_retainSinks : channel.Quietens (channel.retainSinks settings) := by
  refine .of_lanes rfl ?_
  intro sinkId lane found
  dsimp only [retainSinks] at found
  rw [OrdMap.getElem?_filter_key] at found
  split at found
  · exact found
  · cases found

/-- The calls that neither observe nor visit the lanes send nothing. -/
theorem quietens_call (W : Wording) (channel : NotificationDeliveryChannel) (call : Call) :
    match call with
    | .observe .. | .takeSendJobs .. | .takeDueRetries .. => True
    | _ => channel.Quietens (channel.call W call).1 ∧ (channel.call W call).2 = [] := by
  cases call with
  | observe | takeSendJobs | takeDueRetries => trivial
  | recordCredential sink configured => exact ⟨quietens_recordCredential configured, rfl⟩
  | recordOutcome => exact ⟨quietens_recordOutcome .., rfl⟩
  | abandonInflight => exact ⟨quietens_abandonInflight, rfl⟩
  | retainSinks settings => exact ⟨quietens_retainSinks, rfl⟩
  | nextTestWindowId | recordTestOutcome | markCredentialRetired | clearCredentialRetired =>
    exact ⟨.of_eq rfl rfl, rfl⟩

end NotificationDeliveryChannel

end Koushi.Delivery
