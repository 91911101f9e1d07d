import Koushi.Library.NestedMap
import Koushi.Delivery.Digest

namespace Koushi.Delivery

open Collections

/-!
# The delivery channel

Every destination is a lane of its own: a dwell tracker, the rooms that came due and wait
for the coalescing window, the attempt in flight and the armed retry.  A lane holds room
ids and renders at send time from its newest observation.  The channel reads no clock and
no network; the caller passes the instant, performs the sends and reports the outcomes.

Instants and durations are counted in nanoseconds.
-/

def fromSecs (secs : Nat) : Nat := secs * 1000000000

def maxHeldNotificationRooms : Nat := 128
def maxNotificationDeliveryAttempts : Nat := 3
def notificationDeliveryRetryFloor : Nat := fromSecs 30
def maxNotificationDeliveryRetry : Nat := fromSecs (60 * 60)

/-! ## Which rooms qualify -/

structure RoomAttentionCandidate where
  roomId : String
  displayLabel : String
  kind : RoomAttentionKind
  unread : Nat
  mentions : Nat
  parentSpaceIds : List String
  parentSpaceLabels : List String
  newestMessageText : Option BoundedNotificationDeliveryText
  directPartner : Option DirectPartner
deriving DecidableEq, Repr

def qualifiesByTrigger (sink : NotificationSinkSettings) (candidate : RoomAttentionCandidate) : Bool :=
  sink.targets.watchesRoom candidate.roomId ||
    candidate.parentSpaceIds.any sink.targets.watchesSpace ||
    match candidate.kind with
    | .mention => sink.targets.mentions || sink.targets.keywords
    | .dm => sink.targets.directMessages
    | .message => false

/-- The rooms one destination may deliver, in the order of the candidates. -/
def qualifyingRooms (sink : NotificationSinkSettings) (candidates : List RoomAttentionCandidate)
    (focused : Bool) : List QualifyingRoom :=
  if !sink.targets.hasAny then []
  else if sink.timing.onlyWhenUnfocused && focused then []
  else
    (candidates.filter (qualifiesByTrigger sink)).map (fun candidate =>
      { roomId := candidate.roomId
        displayLabel := candidate.displayLabel
        spaceLabels := candidate.parentSpaceLabels
        kind := candidate.kind
        directPartner := candidate.directPartner
        unread := candidate.unread
        mentions := candidate.mentions
        messageText :=
          if sink.effectiveContent.carriesText then candidate.newestMessageText else none })

/-! ## The dwell -/

/-- The armed timers and the rooms released in their current episode. -/
structure DwellTracker where
  dwell : Nat
  pending : OrdMap String Nat
  delivered : OrdSet String

namespace DwellTracker

def new (dwell : Nat) : DwellTracker := ⟨dwell, ∅, ∅⟩

/-- One entry for each room id, the first one of the observation, in the order of the ids. -/
def firstEntries (qualifying : List QualifyingRoom) : OrdMap String QualifyingRoom :=
  qualifying.foldl (fun observed room => observed.insertIfNew room.roomId room) ∅

/-- One room of an observation: it keeps its anchor or gets `now`, and is released when the
dwell has elapsed since then. -/
def observeRoom (now : Nat) (state : DwellTracker × List QualifyingRoom)
    (entry : String × QualifyingRoom) : DwellTracker × List QualifyingRoom :=
  let tracker := state.1
  if tracker.delivered.contains entry.1 then state
  else
    let anchor := tracker.pending[entry.1]?.getD now
    let armed := if tracker.pending.contains entry.1 then tracker.pending
      else tracker.pending.insert entry.1 now
    if anchor ≤ now ∧ tracker.dwell ≤ now - anchor then
      ({ tracker with pending := armed.erase entry.1, delivered := tracker.delivered.insert entry.1 },
        state.2 ++ [entry.2])
    else ({ tracker with pending := armed }, state.2)

/-- Forget the rooms that are no longer observed. -/
def retain (tracker : DwellTracker) (observed : OrdMap String QualifyingRoom) : DwellTracker :=
  { tracker with
    pending := tracker.pending.filter (fun roomId _ => observed.contains roomId)
    delivered := tracker.delivered.filter observed.contains }

/-- The tracker after an observation, and the rooms whose dwell has elapsed. -/
def observe (tracker : DwellTracker) (now : Nat) (qualifying : List QualifyingRoom) :
    DwellTracker × List QualifyingRoom :=
  let observed := firstEntries qualifying
  observed.toList.foldl (observeRoom now) (tracker.retain observed, [])

end DwellTracker

/-! ## A lane -/

/-- An attempt: the rooms it covers and what it sent. -/
structure LaneAttempt where
  roomIds : OrdSet String
  intent : NotificationDeliveryIntent

structure LaneRetry where
  attempt : LaneAttempt
  notBefore : Nat

structure NotificationDeliveryLane where
  dwell : Nat
  tracker : DwellTracker
  current : List QualifyingRoom
  held : OrdSet String
  lastAttemptAt : Option Nat
  windowSequence : Nat
  attempts : Nat
  inflight : Option LaneAttempt
  retry : Option LaneRetry

def roomIdsOf (rooms : List QualifyingRoom) : OrdSet String :=
  Std.ExtTreeSet.ofList (rooms.map QualifyingRoom.roomId)

/-- Whether the destination's minimum interval has elapsed since its last attempt. -/
def coalesceWindow (minInterval : Nat) (lastAttemptAt : Option Nat) (now : Nat) : Bool :=
  match lastAttemptAt with
  | none => true
  | some last => decide (last ≤ now ∧ minInterval ≤ now - last)

namespace NotificationDeliveryLane

def new (dwell : Nat) : NotificationDeliveryLane :=
  { dwell := dwell
    tracker := DwellTracker.new dwell
    current := []
    held := ∅
    lastAttemptAt := none
    windowSequence := 0
    attempts := 0
    inflight := none
    retry := none }

variable (lane : NotificationDeliveryLane)

/-- A changed dwell starts a new tracker. -/
def withDwell (dwell : Nat) : NotificationDeliveryLane :=
  if dwell = lane.dwell then lane else { lane with dwell := dwell, tracker := DwellTracker.new dwell }

/-- Hold the rooms that came due, as long as there is room for them. -/
def holdDue (held : OrdSet String) : List QualifyingRoom -> OrdSet String
  | [] => held
  | room :: rest =>
    if maxHeldNotificationRooms ≤ held.size then held else holdDue (held.insert room.roomId) rest

/-- The armed retry covers only live rooms, and goes with the last of them. -/
def pruneRetry (live : OrdSet String) : NotificationDeliveryLane :=
  match lane.retry with
  | none => lane
  | some retry =>
    let roomIds := retry.attempt.roomIds.filter live.contains
    if roomIds.isEmpty then { lane with retry := none, attempts := 0 }
    else { lane with retry := some { retry with attempt := { retry.attempt with roomIds := roomIds } } }

def observe (lane : NotificationDeliveryLane) (sink : NotificationSinkSettings) (now : Nat)
    (qualifying : List QualifyingRoom) : NotificationDeliveryLane :=
  let lane := lane.withDwell (fromSecs sink.timing.dwellSecs)
  let observed := lane.tracker.observe now qualifying
  let live := roomIdsOf qualifying
  let pruned := lane.pruneRetry live
  { pruned with
    tracker := observed.1
    held := holdDue (lane.held.filter live.contains) observed.2
    current := qualifying }

/-- The newest observation of these rooms. -/
def currentRooms (roomIds : OrdSet String) : List QualifyingRoom :=
  lane.current.filter (fun room => roomIds.contains room.roomId)

/-- The window half of a key; the counter has been raised before. -/
def windowId (nonce : String) : String :=
  nonce ++ "-" ++ lane.windowSequence.repr

/-- The rooms of a new window: the held ones and those an armed retry still covers. -/
def windowRoomIds : OrdSet String :=
  match lane.retry with
  | none => lane.held
  | some retry => lane.held.insertMany retry.attempt.roomIds.toList

section Sending

variable (W : Wording) (nonce : String) (sink : NotificationSinkSettings) (now : Nat)
  (locale : CatalogLocale)

/-- Start a new window for this lane, when it may send now. -/
def takeSend (lane : NotificationDeliveryLane) :
    NotificationDeliveryLane × Option NotificationDeliveryIntent :=
  if lane.held.isEmpty || lane.inflight.isSome ||
      !coalesceWindow (fromSecs sink.timing.minIntervalSecs) lane.lastAttemptAt now then (lane, none)
  else
    let rooms := lane.currentRooms lane.windowRoomIds
    let opened := { lane with held := ∅, retry := none, windowSequence := lane.windowSequence + 1 }
    match renderIntent W sink rooms (opened.windowId nonce) locale with
    | none => ({ opened with attempts := 0 }, none)
    | some intent =>
      ({ opened with
          lastAttemptAt := some now
          attempts := 1
          inflight := some ⟨roomIdsOf rooms, intent⟩ }, some intent)

/-- Rebuild the armed retry from the newest observation, when it is due.  The key is used
again only for the same message. -/
def takeRetry (configured : Bool) (lane : NotificationDeliveryLane) :
    NotificationDeliveryLane × Option NotificationDeliveryIntent :=
  match lane.retry with
  | none => (lane, none)
  | some retry =>
    if now < retry.notBefore || lane.inflight.isSome then (lane, none)
    else
      let idle := { lane with retry := none }
      if !configured then ({ idle with attempts := 0 }, none)
      else
        let rooms := lane.currentRooms retry.attempt.roomIds
        let previous := retry.attempt.intent
        match renderIntent W sink rooms "retry" locale with
        | none => ({ idle with attempts := 0 }, none)
        | some intent =>
          let same := intent.subject == previous.subject && intent.body == previous.body &&
            intent.destination == previous.destination
          let lane' := if same then idle else { idle with windowSequence := idle.windowSequence + 1 }
          let intent' :=
            if same then { intent with idempotencyKey := previous.idempotencyKey }
            else (renderIntent W sink rooms (lane'.windowId nonce) locale).getD intent
          ({ lane' with lastAttemptAt := some now, inflight := some ⟨roomIdsOf rooms, intent'⟩ },
            some intent')

end Sending

/-- Take the attempt in flight when it has this key. -/
def takeInflight (key : String) : Option (LaneAttempt × NotificationDeliveryLane) :=
  match lane.inflight with
  | none => none
  | some attempt =>
    if attempt.intent.idempotencyKey = key then some (attempt, { lane with inflight := none }) else none

end NotificationDeliveryLane

/-! ## Outcomes -/

inductive NotificationDeliveryFailure where
  | invalidSecret
  | notPermitted
  | rejected
  | rateLimited (retryAfterSecs : Option Nat)
  | transport
deriving DecidableEq, Repr

inductive NotificationDeliveryOutcome where
  | accepted
  | failed (failure : NotificationDeliveryFailure)
deriving DecidableEq, Repr

def NotificationDeliveryOutcome.failure : NotificationDeliveryOutcome -> Option NotificationDeliveryFailure
  | .accepted => none
  | .failed failure => some failure

/-- The outcome as the product shows it. -/
inductive NotificationDeliveryOutcomeState where
  | accepted (atMs : Nat)
  | invalidSecret (atMs : Nat)
  | notPermitted (atMs : Nat)
  | rejected (atMs : Nat)
  | rateLimited (atMs : Nat) (retryAfterSecs : Option Nat)
  | transport (atMs : Nat)
deriving DecidableEq, Repr

def outcomeState (outcome : NotificationDeliveryOutcome) (atMs : Nat) : NotificationDeliveryOutcomeState :=
  match outcome.failure with
  | none => .accepted atMs
  | some .invalidSecret => .invalidSecret atMs
  | some .notPermitted => .notPermitted atMs
  | some .rejected => .rejected atMs
  | some (.rateLimited retryAfterSecs) => .rateLimited atMs retryAfterSecs
  | some .transport => .transport atMs

/-- How long to wait before a failure is tried again, or none when it never is. -/
def boundedRetryDelay (sink : NotificationSinkSettings) (failure : NotificationDeliveryFailure) : Option Nat :=
  let bounded := fun provider =>
    min (max (max provider (fromSecs sink.timing.minIntervalSecs)) notificationDeliveryRetryFloor)
      maxNotificationDeliveryRetry
  match failure with
  | .rateLimited retryAfterSecs => some (bounded (fromSecs (retryAfterSecs.getD 0)))
  | .transport => some (bounded notificationDeliveryRetryFloor)
  | .invalidSecret | .notPermitted | .rejected => none

/-- The lane after the outcome of an attempt: a retry is armed, or the window is over. -/
def NotificationDeliveryLane.settle (lane : NotificationDeliveryLane) (sink : NotificationSinkSettings)
    (now : Nat) (attempt : LaneAttempt) (outcome : NotificationDeliveryOutcome) :
    NotificationDeliveryLane :=
  match outcome.failure.bind (boundedRetryDelay sink) with
  | none => { lane with attempts := 0 }
  | some delay =>
    if lane.attempts < maxNotificationDeliveryAttempts then
      { lane with attempts := lane.attempts + 1, retry := some ⟨attempt, now + delay⟩ }
    else { lane with attempts := 0 }

/-! ## The channel -/

structure SinkCredential where
  binding : Option String
  configured : Bool
deriving DecidableEq, Repr

/-- One send the caller has to perform. -/
structure NotificationDeliveryJob where
  sinkId : String
  intent : NotificationDeliveryIntent
deriving DecidableEq, Repr

structure NotificationDeliveryChannel where
  nonce : String
  testSequence : Nat
  pendingTests : OrdMap String String
  lanes : OrdMap String NotificationDeliveryLane
  configured : OrdMap String SinkCredential
  retired : OrdSet String
  outcomes : OrdMap String NotificationDeliveryOutcomeState

namespace NotificationDeliveryChannel

def withNonce (nonce : String) : NotificationDeliveryChannel :=
  { nonce := nonce
    testSequence := 0
    pendingTests := ∅
    lanes := ∅
    configured := ∅
    retired := ∅
    outcomes := ∅ }

variable (channel : NotificationDeliveryChannel)

def setLane (sinkId : String) (lane : NotificationDeliveryLane) : NotificationDeliveryChannel :=
  { channel with lanes := channel.lanes.insert sinkId lane }

/-- Whether another binding was recorded for the sink before. -/
def bindingChanged (sink : NotificationSinkSettings) : Bool :=
  match channel.configured[sink.id]? with
  | some credential => credential.binding != sink.secretBinding
  | none => false

/-- Record the credential of a sink.  A changed binding drops the sink's lane, since its
rooms, its retry and its attempt belong to the previous credential. -/
def recordCredential (sink : NotificationSinkSettings)
    (configured : Bool) : NotificationDeliveryChannel :=
  let kept :=
    if channel.bindingChanged sink then
      { channel with
        lanes := channel.lanes.erase sink.id
        pendingTests := channel.pendingTests.erase sink.id }
    else channel
  { kept with configured := kept.configured.insert sink.id ⟨sink.secretBinding, configured⟩ }

/-- Whether the store confirmed a credential for the binding the sink carries now. -/
def isConfigured (sink : NotificationSinkSettings) : Bool :=
  match channel.configured[sink.id]? with
  | some credential => credential.configured && credential.binding == sink.secretBinding
  | none => false

/-- What a sink observes: nothing while it is not configured. -/
def observedRooms (sink : NotificationSinkSettings)
    (candidates : List RoomAttentionCandidate) (focused : Bool) : List QualifyingRoom :=
  if channel.isConfigured sink then qualifyingRooms sink candidates focused else []

/-- The observation of one sink.  Its lane is created with its first room. -/
def observeSink (now : Nat) (candidates : List RoomAttentionCandidate) (focused : Bool)
    (channel : NotificationDeliveryChannel) (sink : NotificationSinkSettings) :
    NotificationDeliveryChannel :=
  let qualifying := channel.observedRooms sink candidates focused
  match channel.lanes[sink.id]? with
  | some lane => channel.setLane sink.id (lane.observe sink now qualifying)
  | none =>
    if qualifying.isEmpty then channel
    else
      let created := NotificationDeliveryLane.new (fromSecs sink.timing.dwellSecs)
      channel.setLane sink.id (created.observe sink now qualifying)

def observe (settings : NotificationDeliverySettings)
    (now : Nat) (candidates : List RoomAttentionCandidate) (focused : Bool) :
    NotificationDeliveryChannel :=
  settings.sinks.foldl (observeSink now candidates focused) channel

/-- Visit the lane of one sink after the other, and collect the jobs. -/
def visitSinks (visit : NotificationDeliveryChannel -> NotificationSinkSettings ->
      NotificationDeliveryLane -> NotificationDeliveryLane × Option NotificationDeliveryIntent) :
    List NotificationSinkSettings -> NotificationDeliveryChannel ->
      NotificationDeliveryChannel × List NotificationDeliveryJob
  | [], channel => (channel, [])
  | sink :: rest, channel =>
    match channel.lanes[sink.id]? with
    | none => visitSinks visit rest channel
    | some lane =>
      let visited := visit channel sink lane
      let later := visitSinks visit rest (channel.setLane sink.id visited.1)
      (later.1, (visited.2.map (fun intent => ⟨sink.id, intent⟩)).toList ++ later.2)

section Sending

variable (W : Wording)

/-- Start a new window for every lane whose held rooms may be sent now. -/
def takeSendJobs (channel : NotificationDeliveryChannel) (settings : NotificationDeliverySettings)
    (now : Nat) (locale : CatalogLocale) :
    NotificationDeliveryChannel × List NotificationDeliveryJob :=
  visitSinks
    (fun channel sink lane =>
      if channel.isConfigured sink then lane.takeSend W channel.nonce sink now locale else (lane, none))
    settings.sinks channel

/-- The retries whose wait has elapsed. -/
def takeDueRetries (channel : NotificationDeliveryChannel) (settings : NotificationDeliverySettings)
    (now : Nat) (locale : CatalogLocale) :
    NotificationDeliveryChannel × List NotificationDeliveryJob :=
  visitSinks
    (fun channel sink lane =>
      lane.takeRetry W channel.nonce sink now locale (channel.isConfigured sink))
    settings.sinks channel

end Sending

def recordTestOutcome (sinkId : String)
    (outcome : NotificationDeliveryOutcome) (atMs : Nat) : NotificationDeliveryChannel :=
  { channel with outcomes := channel.outcomes.insert sinkId (outcomeState outcome atMs) }

/-- Settle the pending test of a sink, when the key is its key. -/
def takePendingTest (sinkId key : String) : Option NotificationDeliveryChannel :=
  if channel.pendingTests[sinkId]? = some key then
    some { channel with pendingTests := channel.pendingTests.erase sinkId }
  else none

/-- Record the outcome of a send.  Only the attempt in flight is settled by it. -/
def recordOutcome (settings : NotificationDeliverySettings)
    (now : Nat) (sinkId key : String) (outcome : NotificationDeliveryOutcome) (atMs : Nat) :
    NotificationDeliveryChannel :=
  match settings.sink sinkId with
  | none => channel
  | some sink =>
    match channel.takePendingTest sinkId key with
    | some tested => tested.recordTestOutcome sinkId outcome atMs
    | none =>
      match channel.lanes[sinkId]?.bind (fun lane => lane.takeInflight key) with
      | none => channel
      | some (attempt, lane) =>
        (channel.recordTestOutcome sinkId outcome atMs).setLane sinkId
          (lane.settle sink now attempt outcome)

/-- Settle an attempt that never reached a sink. -/
def abandonInflight (sinkId key : String) : NotificationDeliveryChannel :=
  match channel.takePendingTest sinkId key with
  | some tested => tested
  | none =>
    match channel.lanes[sinkId]?.bind (fun lane => lane.takeInflight key) with
    | none => channel
    | some (_, lane) => channel.setLane sinkId { lane with attempts := 0 }

/-- The channel after a press on the test button, and the window id of the test. -/
def nextTestWindowId (sinkId : String) : NotificationDeliveryChannel × String :=
  let sequence := channel.testSequence + 1
  let windowId := "test-" ++ channel.nonce ++ "-" ++ sequence.repr
  ({ channel with
      testSequence := sequence
      pendingTests := channel.pendingTests.insert sinkId (idempotencyKey sinkId windowId) }, windowId)

/-- Drop what was observed for sinks that the settings no longer hold. -/
def retainSinks (settings : NotificationDeliverySettings) : NotificationDeliveryChannel :=
  let known : OrdSet String := Std.ExtTreeSet.ofList (settings.sinks.map NotificationSinkSettings.id)
  { channel with
    outcomes := channel.outcomes.filter (fun sinkId _ => known.contains sinkId)
    configured := channel.configured.filter (fun sinkId _ => known.contains sinkId)
    lanes := channel.lanes.filter (fun sinkId _ => known.contains sinkId)
    pendingTests := channel.pendingTests.filter (fun sinkId _ => known.contains sinkId)
    retired := channel.retired.filter known.contains }

def markCredentialRetired (sinkId : String) : NotificationDeliveryChannel :=
  { channel with retired := channel.retired.insert sinkId }

def clearCredentialRetired (sinkId : String) : NotificationDeliveryChannel :=
  { channel with retired := channel.retired.erase sinkId }

end NotificationDeliveryChannel

/-! ## Calls of the channel -/

/-- The operations of the channel, with their arguments. -/
inductive Call where
  | recordCredential (sink : NotificationSinkSettings) (configured : Bool)
  | observe (settings : NotificationDeliverySettings) (now : Nat)
      (candidates : List RoomAttentionCandidate) (focused : Bool)
  | takeSendJobs (settings : NotificationDeliverySettings) (now : Nat) (locale : CatalogLocale)
  | takeDueRetries (settings : NotificationDeliverySettings) (now : Nat) (locale : CatalogLocale)
  | recordOutcome (settings : NotificationDeliverySettings) (now : Nat) (sinkId key : String)
      (outcome : NotificationDeliveryOutcome) (atMs : Nat)
  | abandonInflight (sinkId key : String)
  | nextTestWindowId (sinkId : String)
  | recordTestOutcome (sinkId : String) (outcome : NotificationDeliveryOutcome) (atMs : Nat)
  | retainSinks (settings : NotificationDeliverySettings)
  | markCredentialRetired (sinkId : String)
  | clearCredentialRetired (sinkId : String)

/-- The channel after a call, and the jobs it hands to the caller. -/
def NotificationDeliveryChannel.call (W : Wording) (channel : NotificationDeliveryChannel) :
    Call -> NotificationDeliveryChannel × List NotificationDeliveryJob
  | .recordCredential sink configured => (channel.recordCredential sink configured, [])
  | .observe settings now candidates focused => (channel.observe settings now candidates focused, [])
  | .takeSendJobs settings now locale => channel.takeSendJobs W settings now locale
  | .takeDueRetries settings now locale => channel.takeDueRetries W settings now locale
  | .recordOutcome settings now sinkId key outcome atMs =>
    (channel.recordOutcome settings now sinkId key outcome atMs, [])
  | .abandonInflight sinkId key => (channel.abandonInflight sinkId key, [])
  | .nextTestWindowId sinkId => ((channel.nextTestWindowId sinkId).1, [])
  | .recordTestOutcome sinkId outcome atMs => (channel.recordTestOutcome sinkId outcome atMs, [])
  | .retainSinks settings => (channel.retainSinks settings, [])
  | .markCredentialRetired sinkId => (channel.markCredentialRetired sinkId, [])
  | .clearCredentialRetired sinkId => (channel.clearCredentialRetired sinkId, [])

/-! ## Values for examples -/

/-- A sink that sends five minutes after a mention, as often as it can. -/
def promptSink : NotificationSinkSettings :=
  { relaySink "relay" 465 "me" with timing := ⟨300, 0, true⟩ }

def mentionIn (roomId : String) : RoomAttentionCandidate :=
  { roomId := roomId, displayLabel := roomId, kind := .mention, unread := 1, mentions := 1
    parentSpaceIds := [], parentSpaceLabels := [], newestMessageText := none, directPartner := none }

/-- The settings of these examples. -/
def promptSettings : NotificationDeliverySettings := ⟨[promptSink]⟩

end Koushi.Delivery
