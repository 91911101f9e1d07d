import Koushi.Reducer.Reduce

namespace Koushi

open Collections

/-!
# The send completion coordinator

A send is registered before it is handed to the SDK, becomes active when it is
handed over, and is bound to the SDK's transaction id once the SDK has returned
it.  The SDK reports terminals on a stream of its own, so a terminal may come
before the bind.  It is then kept in a buffer that has one entry for every active
registration of the room; when the buffer overflows, every send of the room is
reported as lost.

Every handoff is paired with the id of the registration it is for; the source
names the registration by its request id.  Traces and interactive-work guards are
left out.
-/

inductive TimelineKind where
  | room (roomId : String)
  | thread (roomId rootEventId : String)
  | focused (roomId eventId : String)
deriving DecidableEq, Repr

structure TimelineKey where
  accountKey : String
  kind : TimelineKind
deriving DecidableEq, Repr

def TimelineKey.roomId (key : TimelineKey) : String :=
  match key.kind with
  | .room roomId => roomId
  | .thread roomId _ => roomId
  | .focused roomId _ => roomId

structure RequestId where
  connectionId : Nat
  sequence : Nat
deriving DecidableEq, Repr

structure SendCorrelationKey where
  roomId : String
  sdkTransactionId : String
deriving DecidableEq, Repr

namespace SendCorrelationKey

def orderKey (key : SendCorrelationKey) : String × String := (key.roomId, key.sdkTransactionId)

theorem orderKey_injective : Function.Injective orderKey := by
  rintro ⟨_, _⟩ ⟨_, _⟩ equal
  simp_all [orderKey]

end SendCorrelationKey

attribute [local instance] lexOrd

instance : Ord SendCorrelationKey := ⟨fun left right => compare left.orderKey right.orderKey⟩

instance : Std.TransOrd SendCorrelationKey :=
  inferInstanceAs (Std.TransCmp (compareOn SendCorrelationKey.orderKey))

instance : Std.LawfulEqOrd SendCorrelationKey where
  eq_of_compare {_ _} equal :=
    SendCorrelationKey.orderKey_injective (Std.LawfulEqOrd.eq_of_compare equal)

/-! ## Sends -/

inductive TimelineItemId where
  | event (eventId : String)
  | transaction (transactionId : String)
  | synthetic (syntheticId : String)
deriving DecidableEq, Repr

inductive TimelineSendFailureReason where
  | recoverable
  | unrecoverable
deriving DecidableEq, Repr

inductive TimelineSendState where
  | sending
  | notSent (reason : TimelineSendFailureReason)
  | cancelled
  | sent
deriving DecidableEq, Repr

inductive PendingSendPhase where
  | pending
  | failedRecoverable
  | sentAwaitingRemote
  | hydratedSent
deriving DecidableEq, Repr

/-- The row that stands for a send until the SDK shows it.  Of its item only the
id and the send state are kept; a handle is a number. -/
structure PendingSendProjection where
  key : TimelineKey
  sequence : Nat
  clientTxnId : String
  itemId : TimelineItemId
  sendState : Option TimelineSendState
  sdkTransactionId : Option String
  handle : Option Nat
  terminalEventId : Option String
  phase : PendingSendPhase
deriving DecidableEq, Repr

structure RetainedPendingProjection where
  projection : PendingSendProjection
  submissionId : Option SubmissionId
  hydrationInFlight : Bool
deriving DecidableEq, Repr

structure CoordinatedPendingSend where
  registrationId : Nat
  active : Bool
  key : TimelineKey
  clientTxnId : String
  submissionId : Option SubmissionId
  requestId : RequestId
  settlesComposer : Bool
  failureReported : Bool
  localEchoObserved : Bool
  projection : Option PendingSendProjection
deriving DecidableEq, Repr

structure SendFailureDiagnostic where
  reason : String
  recoverable : Bool
deriving DecidableEq, Repr

inductive ObservedSendTerminal where
  | sent (eventId : String)
  | sendError (diagnostic : SendFailureDiagnostic)
  | cancelled
deriving DecidableEq, Repr

inductive SendCompletionObservation where
  | sent (sdkTransactionId eventId : String)
  | sendError (sdkTransactionId : String) (diagnostic : SendFailureDiagnostic)
  | cancelled (sdkTransactionId : String)
deriving DecidableEq, Repr

namespace SendCompletionObservation

def sdkTransactionId : SendCompletionObservation -> String
  | .sent sdkTransactionId _ => sdkTransactionId
  | .sendError sdkTransactionId _ => sdkTransactionId
  | .cancelled sdkTransactionId => sdkTransactionId

def terminal : SendCompletionObservation -> ObservedSendTerminal
  | .sent _ eventId => .sent eventId
  | .sendError _ diagnostic => .sendError diagnostic
  | .cancelled _ => .cancelled

end SendCompletionObservation

/-! ## Handoffs -/

inductive TimelineFailureKind where
  | invalidDirection
  | invalidReactionTarget
  | invalidReactionState
  | invalidSendTarget
  | invalidSendState
  | secureBackupRequired
  | composerRevisionExhausted
  | unsupportedSlashCommand
  | notSubscribed
  | forbidden
  | notFound
  | network
  | timeout
  | sdk
  | queueOverflow
deriving DecidableEq, Repr

structure TimelineSendCompletionDelivery where
  requestId : RequestId
  key : TimelineKey
  transactionId : String
  eventId : String
deriving DecidableEq, Repr

structure TimelineSendFailureDelivery where
  requestId : RequestId
  kind : TimelineFailureKind
deriving DecidableEq, Repr

structure PendingSendHydration where
  correlation : SendCorrelationKey
  key : TimelineKey
  eventId : String
deriving DecidableEq, Repr

structure TimelineSendTerminalHandoff where
  key : Option TimelineKey
  hydration : Option PendingSendHydration
  submissionId : Option SubmissionId
  action : Option AppAction
  completion : Option TimelineSendCompletionDelivery
  failure : Option TimelineSendFailureDelivery
deriving DecidableEq

/-- A handoff with the registration it is for. -/
abbrev RegistrationHandoff := Nat × TimelineSendTerminalHandoff

inductive SendCompletionTerminal where
  | succeeded (requestId : RequestId) (eventId : String) (settlesComposer : Bool)
  | failed (settlesComposer : Bool)
  | cancelled (settlesComposer : Bool)
deriving DecidableEq, Repr

inductive SendComposerProjection where
  | room
  | threadReply
  | none
deriving DecidableEq, Repr

def sendFinishedAction (key : TimelineKey) (transactionId : String) : Option AppAction :=
  match key.kind with
  | .room roomId => some (.sendTextFinished roomId transactionId)
  | .thread roomId rootEventId => some (.threadReplyFinished roomId rootEventId transactionId)
  | .focused _ _ => none

def submissionTarget (key : TimelineKey) : Option ComposerTarget :=
  match key.kind with
  | .room roomId => some (.main roomId)
  | .thread roomId rootEventId => some (.thread roomId rootEventId)
  | .focused _ _ => none

def sendFailedAction (key : TimelineKey) (projection : SendComposerProjection)
    (transactionId message : String) : Option AppAction :=
  match projection, key.kind with
  | .room, .room roomId => some (.sendTextFailed roomId transactionId message)
  | .threadReply, .thread roomId rootEventId =>
    some (.threadReplyFailed roomId rootEventId transactionId message)
  | _, _ => none

def SendCompletionTerminal.settlesComposer : SendCompletionTerminal -> Bool
  | .succeeded _ _ settlesComposer => settlesComposer
  | .failed settlesComposer => settlesComposer
  | .cancelled settlesComposer => settlesComposer

def SendCompletionTerminal.outcome : SendCompletionTerminal -> ComposerSubmissionTerminalOutcome
  | .succeeded _ _ _ => .succeeded
  | .failed _ => .failed "send failed"
  | .cancelled _ => .cancelled

def sendTerminalAction (key : TimelineKey) (clientTransactionId : String)
    (submissionId : Option SubmissionId) (terminal : SendCompletionTerminal) : Option AppAction :=
  if !terminal.settlesComposer then none
  else
    match submissionId, submissionTarget key with
    | some submissionId, some target =>
      some (.composerSubmissionSettled submissionId clientTransactionId target terminal.outcome)
    | _, _ =>
      match terminal with
      | .succeeded _ _ _ | .cancelled _ => sendFinishedAction key clientTransactionId
      | .failed _ =>
        let projection :=
          match key.kind with
          | .room _ => SendComposerProjection.room
          | .thread _ _ => .threadReply
          | .focused _ _ => .none
        sendFailedAction key projection clientTransactionId "send failed"

def timelineSendTerminalHandoff (key : TimelineKey) (clientTransactionId : String)
    (submissionId : Option SubmissionId) (terminal : SendCompletionTerminal) :
    TimelineSendTerminalHandoff :=
  let action := sendTerminalAction key clientTransactionId submissionId terminal
  { key := some key
    hydration := none
    submissionId := if action.isSome then submissionId else none
    action := action
    completion :=
      match terminal with
      | .succeeded requestId eventId _ => some ⟨requestId, key, clientTransactionId, eventId⟩
      | .failed _ | .cancelled _ => none
    failure := none }

def timelineSendFailureHandoff (pending : CoordinatedPendingSend) (kind : TimelineFailureKind) :
    TimelineSendTerminalHandoff :=
  { timelineSendTerminalHandoff pending.key pending.clientTxnId pending.submissionId
      (.failed pending.settlesComposer) with
    failure := some ⟨pending.requestId, kind⟩ }

def timelineSendObservationLossHandoff (pending : CoordinatedPendingSend) :
    TimelineSendTerminalHandoff :=
  timelineSendFailureHandoff pending .queueOverflow

/-! ## The coordinator -/

/-- How many settled sends are remembered. -/
def MAX_SETTLED_SEND_TOMBSTONES : Nat := 128

structure SendCompletionCoordinator where
  nextRegistrationId : Nat
  registrations : OrdMap Nat CoordinatedPendingSend
  pendingSends : OrdMap SendCorrelationKey CoordinatedPendingSend
  retainedProjections : OrdMap SendCorrelationKey RetainedPendingProjection
  unmatchedTerminals : OrdMap SendCorrelationKey (List ObservedSendTerminal)
  settledSendTombstones : OrdSet SendCorrelationKey
  settledSendEventIds : OrdMap SendCorrelationKey String
  settledSendOrder : List SendCorrelationKey
deriving DecidableEq

namespace SendCompletionCoordinator

def default : SendCompletionCoordinator := ⟨0, ∅, ∅, ∅, ∅, ∅, ∅, []⟩

variable (coordinator : SendCompletionCoordinator)

/-- Register a send; it is not active yet. -/
def beginRegistration (key : TimelineKey) (clientTxnId : String) (submissionId : Option SubmissionId)
    (requestId : RequestId) (settlesComposer : Bool) (projection : Option PendingSendProjection) :
    SendCompletionCoordinator :=
  let registrationId := coordinator.nextRegistrationId + 1
  { coordinator with
    nextRegistrationId := registrationId
    registrations := coordinator.registrations.insert registrationId
      { registrationId := registrationId
        active := false
        key := key
        clientTxnId := clientTxnId
        submissionId := submissionId
        requestId := requestId
        settlesComposer := settlesComposer
        failureReported := false
        localEchoObserved := false
        projection := projection.map (fun projection => { projection with sequence := registrationId }) } }

def activateRegistration (registrationId : Nat) : Bool × SendCompletionCoordinator :=
  match coordinator.registrations[registrationId]? with
  | none => (false, coordinator)
  | some registration =>
    (true,
      { coordinator with
        registrations := coordinator.registrations.insert registrationId { registration with active := true } })

def roomHasActiveRegistration (roomId : String) : Bool :=
  coordinator.registrations.toList.any (fun entry => entry.2.active && entry.2.key.roomId = roomId) ||
    coordinator.pendingSends.toList.any (fun entry => entry.2.key.roomId = roomId)

/-- How many early terminals a room may buffer. -/
def roomUnboundCapacity (roomId : String) : Nat :=
  coordinator.registrations.toList.countP (fun entry => entry.2.active && entry.2.key.roomId = roomId)

def purgeUnmatchedForInactiveRoom (roomId : String) : SendCompletionCoordinator :=
  if coordinator.roomHasActiveRegistration roomId then coordinator
  else
    { coordinator with
      unmatchedTerminals :=
        coordinator.unmatchedTerminals.filter (fun correlation _ => correlation.roomId ≠ roomId) }

/-- Take a registration out and purge what its room does not wait for any more. -/
def dropRegistration (registrationId : Nat) (registration : CoordinatedPendingSend) :
    SendCompletionCoordinator :=
  { coordinator with
    registrations := coordinator.registrations.erase registrationId }.purgeUnmatchedForInactiveRoom
      registration.key.roomId

def cancelRegistration (registrationId : Nat) : SendCompletionCoordinator :=
  match coordinator.registrations[registrationId]? with
  | none => coordinator
  | some registration => coordinator.dropRegistration registrationId registration

def failRegistration (registrationId : Nat) (kind : TimelineFailureKind) :
    Option RegistrationHandoff × SendCompletionCoordinator :=
  match coordinator.registrations[registrationId]? with
  | none => (none, coordinator)
  | some registration =>
    (if !registration.failureReported then
        some (registrationId, timelineSendFailureHandoff registration kind)
      else none,
      coordinator.dropRegistration registrationId registration)

def abandonRegistration (registrationId : Nat) :
    Option RegistrationHandoff × SendCompletionCoordinator :=
  match coordinator.registrations[registrationId]? with
  | none => (none, coordinator)
  | some registration =>
    (if registration.active && !registration.failureReported then
        some (registrationId, timelineSendObservationLossHandoff registration)
      else none,
      coordinator.dropRegistration registrationId registration)

variable (correlation : SendCorrelationKey)

/-- Remember a settled send; the oldest ones are forgotten. -/
def rememberSettled : SendCompletionCoordinator :=
  if correlation ∈ coordinator.settledSendTombstones then coordinator
  else
    let order := coordinator.settledSendOrder ++ [correlation]
    let expired := order.take (order.length - MAX_SETTLED_SEND_TOMBSTONES)
    { coordinator with
      settledSendTombstones :=
        expired.foldl (fun kept key => kept.erase key) (coordinator.settledSendTombstones.insert correlation)
      settledSendEventIds := expired.foldl (fun kept key => kept.erase key) coordinator.settledSendEventIds
      settledSendOrder := order.drop (order.length - MAX_SETTLED_SEND_TOMBSTONES) }

/-- The row of a send that was delivered. -/
def PendingSendProjection.sent (projection : PendingSendProjection) (eventId : String) :
    PendingSendProjection :=
  { projection with
    terminalEventId := some eventId
    phase := .sentAwaitingRemote
    itemId := .event eventId
    sendState := some .sent
    handle := none }

/-- Keep the row of a delivered send that the timeline does not show yet. -/
def retainProjection (pending : CoordinatedPendingSend) (eventId : String) : SendCompletionCoordinator :=
  match pending.projection with
  | none => coordinator
  | some projection =>
    if pending.submissionId.isSome || !pending.localEchoObserved then
      { coordinator with
        retainedProjections := coordinator.retainedProjections.insert correlation
          ⟨PendingSendProjection.sent projection eventId, pending.submissionId, false⟩ }
    else coordinator

/-- Take a settled send out of the pending ones. -/
def settlePending : SendCompletionCoordinator :=
  { coordinator with pendingSends := coordinator.pendingSends.erase correlation }.rememberSettled correlation

def applySent (pending : CoordinatedPendingSend) (eventId : String) :
    RegistrationHandoff × SendCompletionCoordinator :=
  let settled := (coordinator.retainProjection correlation pending eventId).settlePending correlation
  let after :=
    { settled with
      settledSendEventIds := settled.settledSendEventIds.insert correlation eventId
      }.purgeUnmatchedForInactiveRoom correlation.roomId
  let handoff := timelineSendTerminalHandoff pending.key pending.clientTxnId pending.submissionId
    (.succeeded pending.requestId eventId (pending.settlesComposer && !pending.failureReported))
  ((pending.registrationId,
    { handoff with
      hydration :=
        if after.retainedProjections.contains correlation then some ⟨correlation, pending.key, eventId⟩
        else none }),
    after)

/-- What a failed send shows: a recoverable one stays, another one goes. -/
def failedProjection (projection : Option PendingSendProjection) (recoverable : Bool) :
    Option PendingSendProjection :=
  if recoverable then
    projection.map (fun projection =>
      { projection with phase := .failedRecoverable, sendState := some (.notSent .recoverable) })
  else none

def applySendError (pending : CoordinatedPendingSend)
    (diagnostic : SendFailureDiagnostic) : Option RegistrationHandoff × SendCompletionCoordinator :=
  if pending.failureReported then (none, coordinator)
  else
    (some (pending.registrationId,
      timelineSendTerminalHandoff pending.key pending.clientTxnId pending.submissionId
        (.failed pending.settlesComposer)),
      { coordinator with
        pendingSends := coordinator.pendingSends.insert correlation
          { pending with
            failureReported := true
            projection := failedProjection pending.projection diagnostic.recoverable } })

def applyCancelled (pending : CoordinatedPendingSend) :
    RegistrationHandoff × SendCompletionCoordinator :=
  ((pending.registrationId,
    timelineSendTerminalHandoff pending.key pending.clientTxnId pending.submissionId
      (.cancelled (pending.settlesComposer && !pending.failureReported))),
    (coordinator.settlePending correlation).purgeUnmatchedForInactiveRoom correlation.roomId)

def applyTerminal (terminal : ObservedSendTerminal) :
    Option RegistrationHandoff × SendCompletionCoordinator :=
  match coordinator.pendingSends[correlation]? with
  | none => (none, coordinator)
  | some pending =>
    match terminal with
    | .sent eventId =>
      let (handoff, after) := coordinator.applySent correlation pending eventId
      (some handoff, after)
    | .sendError diagnostic => coordinator.applySendError correlation pending diagnostic
    | .cancelled =>
      let (handoff, after) := coordinator.applyCancelled correlation pending
      (some handoff, after)

/-- Apply the terminals that came before the bind, oldest first. -/
def applyTerminals (correlation : SendCorrelationKey) :
    SendCompletionCoordinator -> List ObservedSendTerminal ->
      List RegistrationHandoff × SendCompletionCoordinator
  | coordinator, [] => ([], coordinator)
  | coordinator, terminal :: rest =>
    let (handoff, coordinator) := coordinator.applyTerminal correlation terminal
    let (handoffs, coordinator) := applyTerminals correlation coordinator rest
    (handoff.toList ++ handoffs, coordinator)

/-- The row of a send whose transaction is known. -/
def boundProjection (projection : Option PendingSendProjection) (sdkTransactionId : String)
    (handle : Option Nat) : Option PendingSendProjection :=
  projection.map (fun projection =>
    { projection with
      sdkTransactionId := some sdkTransactionId
      itemId := .transaction sdkTransactionId
      handle := handle })

/-- A registration becomes a pending send and takes the terminals that wait for it. -/
def moveToPending (registrationId : Nat) (correlation : SendCorrelationKey)
    (send : CoordinatedPendingSend) : SendCompletionCoordinator :=
  { coordinator with
    registrations := coordinator.registrations.erase registrationId
    pendingSends := coordinator.pendingSends.insert correlation send
    unmatchedTerminals := coordinator.unmatchedTerminals.erase correlation }

def bindRegistration (registrationId : Nat) (sdkTransactionId : String) (handle : Option Nat) :
    (Option TimelineKey × List RegistrationHandoff) × SendCompletionCoordinator :=
  match coordinator.registrations[registrationId]? with
  | none => ((none, []), coordinator)
  | some registration =>
    if !registration.active then
      ((none, []), coordinator.dropRegistration registrationId registration)
    else
      let correlation : SendCorrelationKey := ⟨registration.key.roomId, sdkTransactionId⟩
      if correlation ∈ coordinator.settledSendTombstones || correlation ∈ coordinator.pendingSends then
        ((some registration.key,
          if !registration.failureReported then
            [(registrationId, timelineSendObservationLossHandoff registration)]
          else []),
          coordinator.dropRegistration registrationId registration)
      else
        let (handoffs, after) := applyTerminals correlation
          (coordinator.moveToPending registrationId correlation
            { registration with
              projection := boundProjection registration.projection sdkTransactionId handle })
          (coordinator.unmatchedTerminals[correlation]?.getD [])
        ((some registration.key, handoffs), after)

/-- Report one send as lost, unless a failure of it was reported before. -/
def reportLoss (registrationId : Nat) : List RegistrationHandoff × SendCompletionCoordinator :=
  match coordinator.registrations[registrationId]? with
  | some registration =>
    if registration.failureReported then ([], coordinator)
    else
      ([(registrationId, timelineSendObservationLossHandoff registration)],
        { coordinator with
          registrations :=
            coordinator.registrations.insert registrationId { registration with failureReported := true } })
  | none =>
    match coordinator.pendingSends.toList.find? (fun entry => entry.2.registrationId = registrationId) with
    | none => ([], coordinator)
    | some (correlation, pending) =>
      if pending.failureReported then ([], coordinator)
      else
        ([(registrationId, timelineSendObservationLossHandoff pending)],
          { coordinator with
            pendingSends :=
              coordinator.pendingSends.insert correlation { pending with failureReported := true } })

def reportLosses :
    SendCompletionCoordinator -> List Nat -> List RegistrationHandoff × SendCompletionCoordinator
  | coordinator, [] => ([], coordinator)
  | coordinator, registrationId :: rest =>
    let (handoff, coordinator) := coordinator.reportLoss registrationId
    let (handoffs, coordinator) := reportLosses coordinator rest
    (handoff ++ handoffs, coordinator)

/-- The sends that a lost observation may be about. -/
def affectedRegistrationIds (roomId : Option String) : List Nat :=
  let inRoom := fun (send : CoordinatedPendingSend) => roomId.all (fun roomId => send.key.roomId = roomId)
  (((coordinator.registrations.toList.filter (fun entry => entry.2.active && inRoom entry.2)).map
      (fun entry => entry.2.registrationId)) ++
    ((coordinator.pendingSends.toList.filter (fun entry => inRoom entry.2)).map
      (fun entry => entry.2.registrationId))).mergeSort

def observationLost (roomId : Option String) : List RegistrationHandoff × SendCompletionCoordinator :=
  reportLosses coordinator (coordinator.affectedRegistrationIds roomId)

def retainedForRoom (roomId : String) : Nat :=
  coordinator.unmatchedTerminals.keys.countP (fun candidate => candidate.roomId = roomId)

def bufferTerminal (terminal : ObservedSendTerminal) : SendCompletionCoordinator :=
  { coordinator with
    unmatchedTerminals := coordinator.unmatchedTerminals.insert correlation
      (coordinator.unmatchedTerminals[correlation]?.getD [] ++ [terminal]) }

def observe (roomId : String) (observation : SendCompletionObservation) :
    List RegistrationHandoff × SendCompletionCoordinator :=
  let correlation : SendCorrelationKey := ⟨roomId, observation.sdkTransactionId⟩
  if correlation ∈ coordinator.settledSendTombstones then ([], coordinator)
  else if correlation ∈ coordinator.pendingSends then
    let (handoff, after) := coordinator.applyTerminal correlation observation.terminal
    (handoff.toList, after)
  else
    let capacity := coordinator.roomUnboundCapacity roomId
    if capacity = 0 then ([], coordinator)
    else
      match coordinator.unmatchedTerminals[correlation]? with
      | some observed =>
        if observed.length < 2 then ([], coordinator.bufferTerminal correlation observation.terminal)
        else coordinator.observationLost (some roomId)
      | none =>
        if capacity ≤ coordinator.retainedForRoom roomId then coordinator.observationLost (some roomId)
        else ([], coordinator.bufferTerminal correlation observation.terminal)

def reconcileLocalEcho (roomId sdkTransactionId : String) :
    Option TimelineKey × SendCompletionCoordinator :=
  let correlation : SendCorrelationKey := ⟨roomId, sdkTransactionId⟩
  match coordinator.pendingSends[correlation]? with
  | none => (none, coordinator)
  | some pending =>
    (if pending.projection.isSome then some pending.key else none,
      { coordinator with
        pendingSends := coordinator.pendingSends.insert correlation { pending with projection := none } })

def reconcileCanonicalLocalEcho (roomId sdkTransactionId : String) :
    Option TimelineKey × SendCompletionCoordinator :=
  let correlation : SendCorrelationKey := ⟨roomId, sdkTransactionId⟩
  match coordinator.pendingSends[correlation]? with
  | none => (none, coordinator)
  | some pending =>
    if pending.submissionId.isNone && pending.projection.isSome then
      (some pending.key,
        { coordinator with
          pendingSends :=
            coordinator.pendingSends.insert correlation { pending with localEchoObserved := true } })
    else coordinator.reconcileLocalEcho roomId sdkTransactionId

/-! ## The machine -/

inductive Action where
  | beginRegistration (key : TimelineKey) (clientTxnId : String) (submissionId : Option SubmissionId)
      (requestId : RequestId) (settlesComposer : Bool) (projection : Option PendingSendProjection)
  | activateRegistration (registrationId : Nat)
  | cancelRegistration (registrationId : Nat)
  | failRegistration (registrationId : Nat) (kind : TimelineFailureKind)
  | abandonRegistration (registrationId : Nat)
  | bindRegistration (registrationId : Nat) (sdkTransactionId : String) (handle : Option Nat)
  | observe (roomId : String) (observation : SendCompletionObservation)
  | observationLost (roomId : Option String)
  | reconcileCanonicalLocalEcho (roomId sdkTransactionId : String)
deriving DecidableEq, Repr

/-- One call: the handoffs it yields and the coordinator after it. -/
def call : Action -> List RegistrationHandoff × SendCompletionCoordinator
  | .beginRegistration key clientTxnId submissionId requestId settlesComposer projection =>
    ([], coordinator.beginRegistration key clientTxnId submissionId requestId settlesComposer projection)
  | .activateRegistration registrationId => ([], (coordinator.activateRegistration registrationId).2)
  | .cancelRegistration registrationId => ([], coordinator.cancelRegistration registrationId)
  | .failRegistration registrationId kind =>
    let (handoff, after) := coordinator.failRegistration registrationId kind
    (handoff.toList, after)
  | .abandonRegistration registrationId =>
    let (handoff, after) := coordinator.abandonRegistration registrationId
    (handoff.toList, after)
  | .bindRegistration registrationId sdkTransactionId handle =>
    let ((_, handoffs), after) := coordinator.bindRegistration registrationId sdkTransactionId handle
    (handoffs, after)
  | .observe roomId observation => coordinator.observe roomId observation
  | .observationLost roomId => coordinator.observationLost roomId
  | .reconcileCanonicalLocalEcho roomId sdkTransactionId =>
    ([], (coordinator.reconcileCanonicalLocalEcho roomId sdkTransactionId).2)

def step (action : Action) : SendCompletionCoordinator := (coordinator.call action).2

def handoffs (action : Action) : List RegistrationHandoff := (coordinator.call action).1

end SendCompletionCoordinator

end Koushi
