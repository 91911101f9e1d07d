import Koushi.Library.Run
import Koushi.Delivery.ChannelLaws

namespace Koushi.Delivery

open Collections NotificationDeliveryChannel NotificationDeliveryLane Machine Option List

/-!
# What an idempotency key names

A key is made of the sink, the nonce of the channel and the window counter of the lane.  The
counter only grows, so within the life of a lane a key is used again for the same message
only, by a retry that rebuilt it unchanged.  But the counter goes with the lane: a lane that
is dropped, because the binding changed or the sink was removed, and created again starts
with the first key again (`key_reused_after_new_credential`).  `key_names_one_message` says
that everything is as it should be as long as no lane is created for a sink whose lane has
sent something and was dropped.
-/

/-! ## Keys -/

/-- The key of a window of a lane. -/
def windowKey (nonce sinkId : String) (sequence : Nat) : String :=
  idempotencyKey sinkId (nonce ++ "-" ++ sequence.repr)

/-- The counter has no `-` in it, so it and then the sink can be read back from the key. -/
theorem windowKey_inj {nonce sinkId sinkId' : String} {sequence sequence' : Nat}
    (same : windowKey nonce sinkId sequence = windowKey nonce sinkId' sequence') :
    sinkId = sinkId' ∧ sequence = sequence' := by
  have dash : "-".toList = ['-'] := by decide
  have digits : ∀ number : Nat, '-' ∉ number.repr.toList :=
    fun number => Text.not_mem_toList_repr (by decide) number
  unfold windowKey idempotencyKey at same
  generalize "koushi-notification/" = lead at same
  have chars : (lead.toList ++ sinkId.toList ++ "/".toList ++ nonce.toList) ++ '-' :: sequence.repr.toList =
      (lead.toList ++ sinkId'.toList ++ "/".toList ++ nonce.toList) ++ '-' :: sequence'.repr.toList := by
    simpa [dash] using congrArg String.toList same
  obtain ⟨front, back⟩ := (Text.append_delimited_inj (digits sequence) (digits sequence')).mp chars
  rw [append_cancel_right_eq, append_cancel_right_eq, append_cancel_left_eq] at front
  exact ⟨String.toList_inj.mp front, Nat.repr_inj.mp (String.toList_inj.mp back)⟩

/-- Two jobs that say the same to the same recipient. -/
def SameMessage (job job' : NotificationDeliveryJob) : Prop :=
  job.intent.destination = job'.intent.destination ∧ job.intent.subject = job'.intent.subject ∧
    job.intent.body = job'.intent.body

theorem SameMessage.symm {job job' : NotificationDeliveryJob} (same : SameMessage job job') :
    SameMessage job' job :=
  ⟨same.1.symm, same.2.1.symm, same.2.2.symm⟩

theorem SameMessage.trans {job job' job'' : NotificationDeliveryJob} (same : SameMessage job job')
    (same' : SameMessage job' job'') : SameMessage job job'' :=
  ⟨same.1.trans same'.1, same.2.1.trans same'.2.1, same.2.2.trans same'.2.2⟩

/-! ## One lane -/

namespace NotificationDeliveryLane

/-- The intent of the attempt in flight or of the armed retry. -/
def Holds (lane : NotificationDeliveryLane) (intent : NotificationDeliveryIntent) : Prop :=
  (∃ attempt, lane.inflight = some attempt ∧ attempt.intent = intent) ∨
    ∃ retry, lane.retry = some retry ∧ retry.attempt.intent = intent

/-- A lane that goes on without sending: it counts on, and holds nothing new. -/
def Continues (lane lane' : NotificationDeliveryLane) : Prop :=
  lane.windowSequence ≤ lane'.windowSequence ∧ ∀ intent, lane'.Holds intent -> lane.Holds intent

theorem Continues.refl (lane : NotificationDeliveryLane) : lane.Continues lane :=
  ⟨le_refl _, fun _ holds => holds⟩

theorem Continues.trans {lane lane' lane'' : NotificationDeliveryLane} (first : lane.Continues lane')
    (second : lane'.Continues lane'') : lane.Continues lane'' :=
  ⟨first.1.trans second.1, fun intent holds => first.2 intent (second.2 intent holds)⟩

variable {lane lane' : NotificationDeliveryLane}

/-- What a visit of a lane may send: a message under a new key, or the message of the retry
under its key. -/
def Issues (nonce sinkId : String) (lane lane' : NotificationDeliveryLane)
    (intent : NotificationDeliveryIntent) : Prop :=
  (lane.windowSequence < lane'.windowSequence ∧
      intent.idempotencyKey = windowKey nonce sinkId lane'.windowSequence) ∨
    ∃ previous, lane.Holds previous ∧ intent.idempotencyKey = previous.idempotencyKey ∧
      intent.destination = previous.destination ∧ intent.subject = previous.subject ∧
      intent.body = previous.body

/-- A visit of a lane: it counts on, holds nothing new but what it sent, and sends under a
key that fits. -/
structure Visited (nonce sinkId : String) (lane lane' : NotificationDeliveryLane)
    (sent : Option NotificationDeliveryIntent) : Prop where
  grows : lane.windowSequence ≤ lane'.windowSequence
  holds : ∀ intent, lane'.Holds intent -> lane.Holds intent ∨ sent = some intent
  issues : ∀ intent, sent = some intent -> lane.Issues nonce sinkId lane' intent

theorem Visited.of_continues {nonce sinkId : String}
    (continues : lane.Continues lane') : Visited nonce sinkId lane lane' none where
  grows := continues.1
  holds := fun intent holds => Or.inl (continues.2 intent holds)
  issues := fun intent sent => absurd sent.symm (some_ne_none intent)

/-- A send leaves only the sent intent with the lane. -/
theorem Visited.of_send {nonce sinkId : String} {roomIds : OrdSet String}
    {sent : NotificationDeliveryIntent} (grows : lane.windowSequence ≤ lane'.windowSequence)
    (flying : lane'.inflight = some ⟨roomIds, sent⟩) (noRetry : lane'.retry = none)
    (issues : lane.Issues nonce sinkId lane' sent) : Visited nonce sinkId lane lane' (some sent) := by
  refine ⟨grows, ?_, ?_⟩
  · rintro intent (⟨attempt, found, rfl⟩ | ⟨retry, found, _⟩)
    · rw [flying, some_inj] at found
      exact .inr (by rw [← found])
    · rw [noRetry] at found
      cases found
  · intro intent isSent
    rw [some_inj] at isSent
    exact isSent ▸ issues

theorem Fades.continues (fades : lane.Fades lane') : lane.Continues lane' := by
  cases fades <;> grind [Continues, Holds]

theorem Takes.visited {W : Wording} {nonce : String} {sink : NotificationSinkSettings} {now : Nat}
    {locale : CatalogLocale} {visit : NotificationDeliveryLane × Option NotificationDeliveryIntent}
    (takes : lane.Takes W nonce sink now locale visit) : Visited nonce sink.id lane visit.1 visit.2 := by
  cases takes with
  | quiet fades => exact .of_continues fades.continues
  | sends fewer known rendered keyed =>
    rcases keyed with ⟨rfl, key⟩ | ⟨rfl, retry, armed, key, message⟩
    · exact .of_send (Nat.le_succ _) rfl rfl (.inl ⟨Nat.lt_succ_self _, key⟩)
    · exact .of_send (le_refl _) rfl rfl (.inr ⟨_, .inr ⟨retry, armed, rfl⟩, key, message⟩)

theorem continues_withDwell (lane : NotificationDeliveryLane) (dwell : Nat) :
    lane.Continues (lane.withDwell dwell) := by
  unfold withDwell
  split <;> exact Continues.refl lane

theorem continues_rooms (tracker : DwellTracker) (held : OrdSet String) (current : List QualifyingRoom) :
    lane.Continues { lane with tracker := tracker, held := held, current := current } :=
  Continues.refl lane

theorem continues_observe (lane : NotificationDeliveryLane) (sink : NotificationSinkSettings) (now : Nat)
    (qualifying : List QualifyingRoom) : lane.Continues (lane.observe sink now qualifying) := by
  have sameDwell := lane.continues_withDwell (fromSecs sink.timing.dwellSecs)
  have pruned := (lane.withDwell (fromSecs sink.timing.dwellSecs)).fades_pruneRetry (roomIdsOf qualifying)
  exact (sameDwell.trans pruned.continues).trans (continues_rooms _ _ _)

end NotificationDeliveryLane

/-! ## The jobs of a run -/

/-- The channel, and the jobs that its lanes have sent: those of the lanes that are there,
and those of lanes that were dropped since. -/
structure SentJobs where
  channel : NotificationDeliveryChannel
  live : List NotificationDeliveryJob
  past : List NotificationDeliveryJob

namespace SentJobs

def start (nonce : String) : SentJobs := ⟨.withNonce nonce, [], []⟩

def step (W : Wording) (sent : SentJobs) (call : Call) : SentJobs :=
  let called := sent.channel.call W call
  let jobs := sent.live ++ called.2
  { channel := called.1
    live := jobs.filter (fun job => called.1.lanes.contains job.sinkId)
    past := sent.past ++ jobs.filter (fun job => !called.1.lanes.contains job.sinkId) }

/-- No lane is created for a sink whose lane has sent something and was dropped. -/
def NoLaneAgain (sent : SentJobs) (call : Call) : Prop :=
  match call with
  | .observe settings _ candidates focused =>
    ∀ sink ∈ settings.sinks, sent.channel.lanes.contains sink.id = false ->
      sent.channel.observedRooms sink candidates focused ≠ [] -> ∀ job ∈ sent.past, job.sinkId ≠ sink.id
  | _ => True

instance (sent : SentJobs) (call : Call) : Decidable (sent.NoLaneAgain call) :=
  match call with
  | .observe settings _ candidates focused =>
    inferInstanceAs (Decidable
      (∀ sink ∈ settings.sinks, sent.channel.lanes.contains sink.id = false ->
        sent.channel.observedRooms sink candidates focused ≠ [] -> ∀ job ∈ sent.past, job.sinkId ≠ sink.id))
  | .recordCredential .. | .takeSendJobs .. | .takeDueRetries .. | .recordOutcome .. | .abandonInflight ..
  | .nextTestWindowId .. | .recordTestOutcome .. | .retainSinks .. | .markCredentialRetired ..
  | .clearCredentialRetired .. => isTrue trivial

/-- What holds of the jobs of a run.  The keys of a lane that is there are bounded by its
counter, and a lane that has sent and was dropped is not there. -/
structure Keyed (nonce : String) (channel : NotificationDeliveryChannel)
    (live past : List NotificationDeliveryJob) : Prop where
  sameNonce : channel.nonce = nonce
  ofLive : ∀ job ∈ live, ∃ lane, channel.lanes[job.sinkId]? = some lane ∧
    ∃ sequence ≤ lane.windowSequence, job.intent.idempotencyKey = windowKey nonce job.sinkId sequence
  ofPast : ∀ job ∈ past, channel.lanes[job.sinkId]? = none ∧
    ∃ sequence, job.intent.idempotencyKey = windowKey nonce job.sinkId sequence
  ofLanes : ∀ (sinkId : String) (lane : NotificationDeliveryLane) (intent : NotificationDeliveryIntent),
    channel.lanes[sinkId]? = some lane -> lane.Holds intent -> ⟨sinkId, intent⟩ ∈ live
  once : ∀ job ∈ live ++ past, ∀ job' ∈ live ++ past,
    job.intent.idempotencyKey = job'.intent.idempotencyKey -> SameMessage job job'

variable {nonce : String} {channel : NotificationDeliveryChannel} {live past : List NotificationDeliveryJob}

/-- A visit of one lane. -/
theorem Keyed.visit (keyed : Keyed nonce channel live past) {sinkId : String}
    {lane lane' : NotificationDeliveryLane} {sent : Option NotificationDeliveryIntent}
    (found : channel.lanes[sinkId]? = some lane) (visited : Visited nonce sinkId lane lane' sent) :
    Keyed nonce (channel.setLane sinkId lane') (live ++ (sent.map (fun intent => ⟨sinkId, intent⟩)).toList)
      past := by
  -- A job of the lane before, seen in the lane after.
  have stays : ∀ job ∈ live, ∃ after, (channel.setLane sinkId lane').lanes[job.sinkId]? = some after ∧
      ∃ sequence ≤ after.windowSequence, job.intent.idempotencyKey = windowKey nonce job.sinkId sequence := by
    intro job member
    obtain ⟨before, isLane, sequence, bound, key⟩ := keyed.ofLive job member
    rw [lanes_setLane]
    split
    · next same =>
      rw [← same, found, some_inj] at isLane
      exact ⟨lane', rfl, sequence, bound.trans (isLane ▸ visited.grows), key⟩
    · exact ⟨before, isLane, sequence, bound, key⟩
  -- The sent job has a key of its own, or the key and the message of a job of the lane.
  have fits : ∀ intent, sent = some intent ->
      (∃ sequence ≤ lane'.windowSequence, intent.idempotencyKey = windowKey nonce sinkId sequence) ∧
        ∀ job ∈ live ++ past, job.intent.idempotencyKey = intent.idempotencyKey ->
          SameMessage job ⟨sinkId, intent⟩ := by
    intro intent isSent
    rcases visited.issues intent isSent with ⟨grows, key⟩ | ⟨previous, holds, sameKey, message⟩
    · refine ⟨⟨_, le_refl _, key⟩, ?_⟩
      intro job member sameKey
      rw [key] at sameKey
      rcases mem_append.mp member with isLive | isPast
      · obtain ⟨before, isLane, sequence, bound, jobKey⟩ := keyed.ofLive job isLive
        obtain ⟨sameSink, sameSequence⟩ := windowKey_inj (jobKey.symm.trans sameKey)
        rw [sameSink, found, some_inj] at isLane
        rw [← isLane, sameSequence] at bound
        exact absurd grows (Nat.not_lt.mpr bound)
      · obtain ⟨missing, sequence, jobKey⟩ := keyed.ofPast job isPast
        obtain ⟨sameSink, _⟩ := windowKey_inj (jobKey.symm.trans sameKey)
        rw [sameSink, found] at missing
        cases missing
    · have previousJob := keyed.ofLanes sinkId lane previous found holds
      obtain ⟨before, isLane, sequence, bound, key⟩ := keyed.ofLive _ previousJob
      rw [found, some_inj] at isLane
      refine ⟨⟨sequence, bound.trans (isLane ▸ visited.grows), sameKey.trans key⟩, ?_⟩
      intro job member jobKey
      refine (keyed.once job member _ (mem_append_left past previousJob) (jobKey.trans sameKey)).trans ?_
      exact ⟨message.1.symm, message.2.1.symm, message.2.2.symm⟩
  have isNew : ∀ job, job ∈ (sent.map (fun intent => (⟨sinkId, intent⟩ : NotificationDeliveryJob))).toList ->
      ∃ intent, sent = some intent ∧ job = ⟨sinkId, intent⟩ := by
    intro job member
    rw [mem_toList, map_eq_some_iff] at member
    obtain ⟨intent, isSent, same⟩ := member
    exact ⟨intent, isSent, same.symm⟩
  refine ⟨keyed.sameNonce, ?_, ?_, ?_, ?_⟩
  · intro job member
    rcases mem_append.mp member with before | last
    · exact stays job before
    · obtain ⟨intent, isSent, rfl⟩ := isNew job last
      rw [lanes_setLane, if_pos rfl]
      exact ⟨lane', rfl, (fits intent isSent).1⟩
  · intro job member
    obtain ⟨missing, key⟩ := keyed.ofPast job member
    rw [lanes_setLane]
    split
    · next same =>
      rw [← same, found] at missing
      cases missing
    · exact ⟨missing, key⟩
  · intro other after intent isLane holds
    rw [lanes_setLane] at isLane
    rw [mem_append]
    split at isLane
    · next same =>
      subst same
      rw [some_inj] at isLane
      subst isLane
      rcases visited.holds intent holds with before | isSent
      · exact .inl (keyed.ofLanes sinkId lane intent found before)
      · exact .inr (by rw [isSent]; exact mem_singleton_self _)
    · exact .inl (keyed.ofLanes other after intent isLane holds)
  · -- Both jobs are old, or one is the sent one.
    have old : ∀ job, job ∈ live ++ (sent.map (fun intent => ⟨sinkId, intent⟩)).toList ++ past ->
        job ∈ live ++ past ∨ ∃ intent, sent = some intent ∧ job = ⟨sinkId, intent⟩ := by
      intro job member
      rw [mem_append, mem_append] at member
      rcases member with (before | last) | gone
      · exact .inl (mem_append_left past before)
      · exact .inr (isNew job last)
      · exact .inl (mem_append_right live gone)
    intro job member job' member' sameKey
    rcases old job member with before | ⟨intent, isSent, rfl⟩
    · rcases old job' member' with before' | ⟨intent', isSent', rfl⟩
      · exact keyed.once job before job' before' sameKey
      · exact (fits intent' isSent').2 job before sameKey
    · rcases old job' member' with before' | ⟨intent', isSent', rfl⟩
      · exact ((fits intent isSent).2 job' before' sameKey.symm).symm
      · rw [isSent, some_inj] at isSent'
        rw [isSent']
        exact ⟨rfl, rfl, rfl⟩

/-- The lanes of a channel go on in another one, disappear, or are new and nothing was
sent for their sink. -/
def Follows (past : List NotificationDeliveryJob) (channel channel' : NotificationDeliveryChannel) : Prop :=
  channel'.nonce = channel.nonce ∧
    ∀ (sinkId : String) (lane' : NotificationDeliveryLane), channel'.lanes[sinkId]? = some lane' ->
      (∃ lane, channel.lanes[sinkId]? = some lane ∧ lane.Continues lane') ∨
        channel.lanes[sinkId]? = none ∧ (∀ job ∈ past, job.sinkId ≠ sinkId) ∧ ∀ intent, ¬ lane'.Holds intent

theorem Follows.refl (past : List NotificationDeliveryJob) (channel : NotificationDeliveryChannel) :
    Follows past channel channel :=
  ⟨rfl, fun _ lane' found => Or.inl ⟨lane', found, Continues.refl lane'⟩⟩

variable {channel' : NotificationDeliveryChannel}

/-- Jobs whose lane is gone become past jobs. -/
theorem Keyed.follow (keyed : Keyed nonce channel live past) (follows : Follows past channel channel') :
    Keyed nonce channel' (live.filter (fun job => channel'.lanes.contains job.sinkId))
      (past ++ live.filter (fun job => !channel'.lanes.contains job.sinkId)) := by
  have known : ∀ job, job ∈ live.filter (fun job => channel'.lanes.contains job.sinkId) ++
      (past ++ live.filter (fun job => !channel'.lanes.contains job.sinkId)) -> job ∈ live ++ past := by
    intro job member
    simp only [mem_append, mem_filter] at member ⊢
    tauto
  refine ⟨follows.1.trans keyed.sameNonce, ?_, ?_, ?_, ?_⟩
  · intro job member
    obtain ⟨isLive, present⟩ := mem_filter.mp member
    obtain ⟨lane', found'⟩ := OrdMap.mem_iff_exists.mp (Std.ExtTreeMap.contains_iff_mem.mp present)
    obtain ⟨lane, found, sequence, bound, key⟩ := keyed.ofLive job isLive
    rcases follows.2 job.sinkId lane' found' with ⟨before, isLane, continues⟩ | ⟨missing, _⟩
    · rw [found, some_inj] at isLane
      subst isLane
      exact ⟨lane', found', sequence, bound.trans continues.1, key⟩
    · rw [found] at missing
      cases missing
  · intro job member
    rcases mem_append.mp member with gone | dropped
    · obtain ⟨missing, key⟩ := keyed.ofPast job gone
      refine ⟨?_, key⟩
      by_contra present
      obtain ⟨lane', found'⟩ := ne_none_iff_exists'.mp present
      rcases follows.2 job.sinkId lane' found' with ⟨before, isLane, _⟩ | ⟨_, fresh, _⟩
      · rw [missing] at isLane
        cases isLane
      · exact fresh job gone rfl
    · obtain ⟨isLive, absent⟩ := mem_filter.mp dropped
      obtain ⟨lane, found, sequence, bound, key⟩ := keyed.ofLive job isLive
      rw [Bool.not_eq_true', ← Bool.not_eq_true, Std.ExtTreeMap.contains_iff_mem, OrdMap.not_mem_iff] at absent
      exact ⟨absent, sequence, key⟩
  · intro sinkId lane' intent found' holds
    rcases follows.2 sinkId lane' found' with ⟨lane, found, continues⟩ | ⟨_, _, nothing⟩
    · refine mem_filter.mpr ⟨keyed.ofLanes sinkId lane intent found (continues.2 intent holds), ?_⟩
      exact Std.ExtTreeMap.contains_iff_mem.mpr (OrdMap.mem_iff_exists.mpr ⟨lane', found'⟩)
    · exact absurd holds (nothing intent)
  · intro job member job' member' sameKey
    exact keyed.once job (known job member) job' (known job' member') sameKey

/-- The visits of all sinks; an id may be visited more than once. -/
theorem Keyed.visitSinks {visit : NotificationDeliveryChannel -> NotificationSinkSettings ->
      NotificationDeliveryLane -> NotificationDeliveryLane × Option NotificationDeliveryIntent}
    (visits : ∀ (channel : NotificationDeliveryChannel) (sink : NotificationSinkSettings)
      (lane : NotificationDeliveryLane), channel.nonce = nonce ->
        Visited nonce sink.id lane (visit channel sink lane).1 (visit channel sink lane).2)
    (sinks : List NotificationSinkSettings) (keyed : Keyed nonce channel live past) :
    Keyed nonce (visitSinks visit sinks channel).1
      (live ++ (visitSinks visit sinks channel).2) past := by
  induction sinks generalizing channel live with
  | nil => simpa [visitSinks] using keyed
  | cons sink rest ih =>
    unfold visitSinks
    split
    · exact ih keyed
    next lane found =>
    have after := ih (keyed.visit found (visits channel sink lane keyed.sameNonce))
    rw [append_assoc] at after
    exact after

section Following

variable {now : Nat} {candidates : List RoomAttentionCandidate} {focused : Bool}

theorem lanes_observeSink_cases {sink : NotificationSinkSettings}
    {sinkId : String} {lane' : NotificationDeliveryLane}
    (found' : (channel.observeSink now candidates focused sink).lanes[sinkId]? = some lane') :
    (∃ lane, channel.lanes[sinkId]? = some lane ∧ lane.Continues lane') ∨
      channel.lanes[sinkId]? = none ∧ sink.id = sinkId ∧
        channel.observedRooms sink candidates focused ≠ [] ∧ ∀ intent, ¬ lane'.Holds intent := by
  by_cases own : sink.id = sinkId
  · subst own
    obtain ⟨lane, rfl, found | ⟨missing, rfl, rooms⟩⟩ :=
      lanes_observeSink channel sink found'
    · exact .inl ⟨lane, found, lane.continues_observe sink now _⟩
    · refine Or.inr ⟨missing, rfl, rooms, ?_⟩
      intro intent holds
      have inNew := (continues_observe _ sink now _).2 intent holds
      simp [Holds, new] at inNew
  · rw [lanes_observeSink_of_ne channel own] at found'
    exact .inl ⟨lane', found', Continues.refl lane'⟩

/-- The lanes after an observation: the old ones go on, and the new ones belong to sinks
that observe a room. -/
theorem lanes_observe_cases (sinks : List NotificationSinkSettings) (channel : NotificationDeliveryChannel)
    {sinkId : String} {lane' : NotificationDeliveryLane}
    (found' : (sinks.foldl (observeSink now candidates focused) channel).lanes[sinkId]? = some lane') :
    (∃ lane, channel.lanes[sinkId]? = some lane ∧ lane.Continues lane') ∨ channel.lanes[sinkId]? = none ∧
        (∃ sink ∈ sinks, sink.id = sinkId ∧ channel.observedRooms sink candidates focused ≠ []) ∧
        ∀ intent, ¬ lane'.Holds intent := by
  induction sinks generalizing channel with
  | nil => exact .inl ⟨lane', found', Continues.refl lane'⟩
  | cons sink rest ih =>
    rw [foldl_cons] at found'
    rcases ih (channel.observeSink now candidates focused sink) found' with
      ⟨lane₁, found₁, later⟩ | ⟨missing₁, ⟨other, member, same, rooms⟩, nothing⟩
    · rcases lanes_observeSink_cases found₁ with ⟨lane, found, continues⟩ | ⟨missing, isSink, rooms, nothing⟩
      · exact .inl ⟨lane, found, continues.trans later⟩
      · exact .inr ⟨missing, ⟨sink, mem_cons_self, isSink, rooms⟩,
          fun intent holds => nothing intent (later.2 intent holds)⟩
    · rw [observedRooms_observeSink] at rooms
      refine Or.inr ⟨?_, ⟨other, mem_cons_of_mem sink member, same, rooms⟩, nothing⟩
      exact lanes_of_observeSink_none missing₁

theorem follows_observe {settings : NotificationDeliverySettings}
    (fresh : ∀ sink ∈ settings.sinks, channel.lanes.contains sink.id = false ->
      channel.observedRooms sink candidates focused ≠ [] -> ∀ job ∈ past, job.sinkId ≠ sink.id) :
    Follows past channel (channel.observe settings now candidates focused) := by
  refine ⟨nonce_foldl_observeSink settings.sinks channel, ?_⟩
  intro sinkId lane' found'
  rcases lanes_observe_cases settings.sinks channel found' with
    before | ⟨missing, ⟨sink, member, rfl, rooms⟩, nothing⟩
  · exact .inl before
  · refine Or.inr ⟨missing, fresh sink member ?_ rooms, nothing⟩
    rw [← Bool.not_eq_true, Std.ExtTreeMap.contains_iff_mem, OrdMap.not_mem_iff]
    exact missing

end Following

theorem Follows.of_quietens (quiet : channel.Quietens channel') : Follows past channel channel' := by
  refine ⟨quiet.1, ?_⟩
  intro sinkId lane' found'
  obtain ⟨lane, found, fades⟩ := quiet.2 sinkId lane' found'
  exact .inl ⟨lane, found, fades.continues⟩

variable {W : Wording} {sent : SentJobs} {call : Call}

/-- Every call keeps the jobs keyed, as long as no lane is created again. -/
theorem keyed_step (fresh : sent.NoLaneAgain call) (keyed : Keyed nonce sent.channel sent.live sent.past) :
    Keyed nonce (sent.step W call).channel (sent.step W call).live (sent.step W call).past := by
  -- A call that sends nothing.
  have quiet : (sent.channel.call W call).2 = [] ->
      Follows sent.past sent.channel (sent.channel.call W call).1 ->
      Keyed nonce (sent.step W call).channel (sent.step W call).live (sent.step W call).past := by
    intro nothing follows
    unfold step
    dsimp only
    rw [nothing, append_nil]
    exact keyed.follow follows
  have quietly := quietens_call W sent.channel call
  -- A call that visits the lanes: afterwards the lanes follow themselves.
  have sends : Keyed nonce (sent.channel.call W call).1 (sent.live ++ (sent.channel.call W call).2) sent.past ->
      Keyed nonce (sent.step W call).channel (sent.step W call).live (sent.step W call).past :=
    fun visited => visited.follow (Follows.refl sent.past _)
  cases call with
  | observe => exact quiet rfl (follows_observe fresh)
  | takeSendJobs settings now locale =>
    refine sends (keyed.visitSinks ?_ settings.sinks)
    intro channel sink lane sameNonce
    split
    · rw [sameNonce]
      exact takes_takeSend.visited
    · exact .of_continues (.refl lane)
  | takeDueRetries settings now locale =>
    refine sends (keyed.visitSinks ?_ settings.sinks)
    intro channel sink lane sameNonce
    rw [sameNonce]
    exact (takes_takeRetry (channel.isConfigured sink)).visited
  | recordCredential | recordOutcome | abandonInflight | nextTestWindowId | recordTestOutcome | retainSinks
  | markCredentialRetired | clearCredentialRetired => exact quiet quietly.2 (.of_quietens quietly.1)

end SentJobs

/-- The key with which a call settles an attempt. -/
def Call.settledKey : Call -> Option String
  | .recordOutcome _ _ _ key _ _ | .abandonInflight _ key => some key
  | _ => none

namespace SentJobs

variable {nonce : String} {channel : NotificationDeliveryChannel} {live past : List NotificationDeliveryJob}

/-- No lane has an attempt in flight with the key of a past job. -/
theorem Keyed.takeInflight_eq_none (keyed : Keyed nonce channel live past) {job : NotificationDeliveryJob}
    (member : job ∈ past) (sinkId : String) :
    channel.lanes[sinkId]?.bind (fun lane => lane.takeInflight job.intent.idempotencyKey) = none := by
  rw [bind_eq_none_iff]
  intro lane found
  unfold takeInflight
  split
  · rfl
  next attempt flying =>
  refine if_neg ?_
  intro sameKey
  have isLive := keyed.ofLanes sinkId lane attempt.intent found (Or.inl ⟨attempt, flying, rfl⟩)
  obtain ⟨_, _, sequence, _, key⟩ := keyed.ofLive _ isLive
  obtain ⟨missing, sequence', pastKey⟩ := keyed.ofPast job member
  obtain ⟨sameSink, _⟩ := windowKey_inj (key.symm.trans (sameKey.trans pastKey))
  rw [← sameSink] at missing
  cases found.symm.trans missing

theorem Keyed.lanes_call (keyed : Keyed nonce channel live past) {W : Wording} {job : NotificationDeliveryJob}
    (member : job ∈ past) {call : Call} (settles : call.settledKey = some job.intent.idempotencyKey) :
    (channel.call W call).1.lanes = channel.lanes := by
  cases call with
  | recordOutcome settings now sinkId key outcome atMs =>
    obtain rfl : key = job.intent.idempotencyKey := some_inj.mp settles
    dsimp only [call]
    unfold recordOutcome
    rw [keyed.takeInflight_eq_none member]
    split
    · rfl
    split
    · next tested taken => exact (takePendingTest_spec taken).2
    · rfl
  | abandonInflight sinkId key =>
    obtain rfl : key = job.intent.idempotencyKey := some_inj.mp settles
    dsimp only [call]
    unfold abandonInflight
    rw [keyed.takeInflight_eq_none member]
    split
    · next tested taken => exact (takePendingTest_spec taken).2
    · rfl
  | recordCredential | observe | takeSendJobs | takeDueRetries | nextTestWindowId | recordTestOutcome
  | retainSinks | markCredentialRetired | clearCredentialRetired =>
    cases settles

/-- In every run in which no lane is created again for a sink that has sent, two jobs with
the same key have the same recipient, subject and body, and the key of an attempt whose lane
was dropped settles nothing. -/
theorem key_names_one_message (W : Wording) (nonce : String) (calls : List Call)
    (fresh : Machine.EveryStep (step W) NoLaneAgain (start nonce) calls) :
    let sent := Machine.run (step W) (start nonce) calls
    (∀ job ∈ sent.live ++ sent.past, ∀ job' ∈ sent.live ++ sent.past,
        job.intent.idempotencyKey = job'.intent.idempotencyKey -> SameMessage job job') ∧
      ∀ call : Call, ∀ job ∈ sent.past, call.settledKey = some job.intent.idempotencyKey ->
        (sent.channel.call W call).1.lanes = sent.channel.lanes := by
  have initially : Keyed nonce (start nonce).channel (start nonce).live (start nonce).past := by
    refine ⟨rfl, ?_, ?_, ?_, ?_⟩ <;> simp [start, withNonce]
  have keyed := run_invariant_of_everyStep
    (fun sent : SentJobs => Keyed nonce sent.channel sent.live sent.past)
    (fun sent call guard => keyed_step guard) fresh initially
  exact ⟨keyed.once, fun call job member settles => keyed.lanes_call member settles⟩

end SentJobs

/-- A mention is sent, and the send fails. -/
def failedCalls : List Call :=
  [.recordCredential promptSink true,
    .observe promptSettings (fromSecs 0) [mentionIn "!a"] false,
    .observe promptSettings (fromSecs 300) [mentionIn "!a"] false,
    .takeSendJobs promptSettings (fromSecs 300) .en,
    .recordOutcome promptSettings (fromSecs 301) "mail" "koushi-notification/mail/n-1"
      (.failed .transport) 0]

/-- The retry sends the same message under the same key. -/
theorem key_names_one_message_retry : (Machine.run (SentJobs.step plainWording) (SentJobs.start "n")
        (failedCalls ++ [.takeDueRetries promptSettings (fromSecs 331) .en])).live.map
          (fun job => job.intent.idempotencyKey) =
        ["koushi-notification/mail/n-1", "koushi-notification/mail/n-1"] ∧
      let sent := Machine.run (SentJobs.step plainWording) (SentJobs.start "n")
        (failedCalls ++ [.takeDueRetries promptSettings (fromSecs 331) .en])
      ∀ job ∈ sent.live ++ sent.past, ∀ job' ∈ sent.live ++ sent.past,
        job.intent.idempotencyKey = job'.intent.idempotencyKey -> SameMessage job job' :=
  ⟨by decide +kernel,
    (SentJobs.key_names_one_message plainWording "n"
      (failedCalls ++ [.takeDueRetries promptSettings (fromSecs 331) .en]) (by decide +kernel)).1⟩

/-- The sink after its password was saved again. -/
def reboundSink : NotificationSinkSettings :=
  { promptSink with secretBinding := some (promptSink.credentialBinding "ab") }

/-- The password is saved again while the first attempt is in flight, and another room is
mentioned. -/
def reboundCalls : List Call :=
  [.recordCredential promptSink true,
    .observe promptSettings (fromSecs 0) [mentionIn "!a"] false,
    .observe promptSettings (fromSecs 300) [mentionIn "!a"] false,
    .takeSendJobs promptSettings (fromSecs 300) .en,
    .recordCredential reboundSink true,
    .observe ⟨[reboundSink]⟩ (fromSecs 400) [mentionIn "!b"] false,
    .observe ⟨[reboundSink]⟩ (fromSecs 700) [mentionIn "!b"] false,
    .takeSendJobs ⟨[reboundSink]⟩ (fromSecs 700) .en]

/-- Both messages have the same key, and what becomes of the first attempt settles the
second one. -/
theorem key_reused_after_new_credential :
    let sent := Machine.run (SentJobs.step plainWording) (SentJobs.start "n") reboundCalls
    let late := sent.channel.call plainWording (.abandonInflight "mail" "koushi-notification/mail/n-1")
    sent.past.map (fun job => (job.intent.idempotencyKey, job.intent.subject)) =
        [("koushi-notification/mail/n-1", "Mention in !a")] ∧
      sent.live.map (fun job => (job.intent.idempotencyKey, job.intent.subject)) =
        [("koushi-notification/mail/n-1", "Mention in !b")] ∧
      sent.channel.lanes["mail"]?.map (fun lane => lane.inflight.isSome) = some true ∧
      late.1.lanes["mail"]?.map (fun lane => lane.inflight.isSome) = some false := by
  decide +kernel

end Koushi.Delivery
