import Koushi.Library.Rendezvous
import Koushi.Timeline.SendFrames

namespace Koushi

open Collections Machine Rendezvous Ledger List OrdMap Std.ExtTreeMap SendCompletionCoordinator

/-!
# A delivered send is reported as delivered

For one registration and the transaction it is bound to, the coordinator is a
rendezvous of the bind and the `Sent` observation: whichever comes second yields
the success handoff.  `Follows` relates the coordinator to the rendezvous.  It is
kept by every call that does not disturb the send; what disturbs it is a terminal
of another kind for its transaction, the end of its registration by its owner, a
second registration bound to its transaction, and a loss of observations in its
room, by an overflow of the buffer or from outside.
-/

namespace SendCompletionCoordinator

variable {coordinator : SendCompletionCoordinator} {id : Nat} {correlation : SendCorrelationKey}
  {registration : CoordinatedPendingSend} {eventId : String}

/-- The parts of a send that a handoff names. -/
structure SameSend (send other : CoordinatedPendingSend) : Prop where
  registrationId : send.registrationId = other.registrationId
  key : send.key = other.key
  clientTxnId : send.clientTxnId = other.clientTxnId
  submissionId : send.submissionId = other.submissionId
  requestId : send.requestId = other.requestId
  settlesComposer : send.settlesComposer = other.settlesComposer

/-- The registration is active, nothing was reported for it, and only `Sent` is
buffered for its transaction. -/
structure AwaitsBind (id : Nat) (correlation : SendCorrelationKey) (registration : CoordinatedPendingSend)
    (eventId : String) (observed : Bool) (coordinator : SendCompletionCoordinator) : Prop where
  row : coordinator.row id = (some registration, fun _ => none)
  unsettled : correlation ∉ coordinator.settledSendTombstones
  unbound : coordinator.pendingSends[correlation]? = none
  buffered : ∃ count, coordinator.unmatchedTerminals[correlation]?.getD [] = List.replicate count (.sent eventId) ∧
    (observed = true ↔ 0 < count)

/-- The send is bound and its terminal has not come. -/
structure AwaitsTerminal (id : Nat) (correlation : SendCorrelationKey) (registration : CoordinatedPendingSend)
    (coordinator : SendCompletionCoordinator) (pending : CoordinatedPendingSend) : Prop where
  row : coordinator.row id = (none, Function.update (fun _ => none) correlation (some pending))
  unsettled : correlation ∉ coordinator.settledSendTombstones
  same : SameSend pending registration
  unreported : pending.failureReported = false

/-- Where a registration is when a bind and a terminal have been seen. -/
def Follows (id : Nat) (correlation : SendCorrelationKey) (registration : CoordinatedPendingSend)
    (eventId : String) (coordinator : SendCompletionCoordinator) : Rendezvous -> Prop
  | ⟨false, observed⟩ => AwaitsBind id correlation registration eventId observed coordinator
  | ⟨true, false⟩ => ∃ pending, AwaitsTerminal id correlation registration coordinator pending
  | ⟨true, true⟩ => coordinator.Gone id

/-- A call that leaves a send and its transaction to run their course. -/
def Undisturbed (id : Nat) (correlation : SendCorrelationKey) (eventId : String)
    (coordinator : SendCompletionCoordinator) : Action -> Prop
  | .cancelRegistration other | .failRegistration other _ | .abandonRegistration other => other ≠ id
  | .bindRegistration other sdkTransactionId _ =>
    if other = id then sdkTransactionId = correlation.sdkTransactionId
    else forall registration, coordinator.registrations[other]? = some registration ->
      (⟨registration.key.roomId, sdkTransactionId⟩ : SendCorrelationKey) ≠ correlation
  | .observe roomId observation =>
    ((⟨roomId, observation.sdkTransactionId⟩ : SendCorrelationKey) = correlation ->
      observation.terminal = .sent eventId) ∧
    (roomId = correlation.roomId -> coordinator.overflows roomId observation = false)
  | .observationLost roomId => ∃ other, roomId = some other ∧ other ≠ correlation.roomId
  | .beginRegistration .. | .activateRegistration _ | .reconcileCanonicalLocalEcho _ _ => True

def isBindOf (id : Nat) : Action -> Bool
  | .bindRegistration other _ _ => other = id
  | _ => false

def isObservationOf (correlation : SendCorrelationKey) : Action -> Bool
  | .observe roomId observation => (⟨roomId, observation.sdkTransactionId⟩ : SendCorrelationKey) = correlation
  | _ => false

/-- The handoffs of a registration, without the rows they ask to hydrate. -/
def outcomeOf (id : Nat) (handoff : RegistrationHandoff) : Option TimelineSendTerminalHandoff :=
  if handoff.1 = id then some { handoff.2 with hydration := none } else none

def successHandoff (send : CoordinatedPendingSend) (eventId : String) : TimelineSendTerminalHandoff :=
  timelineSendTerminalHandoff send.key send.clientTxnId send.submissionId
    (.succeeded send.requestId eventId send.settlesComposer)

theorem filterMap_outcomeOf_eq_nil {handoffs : List RegistrationHandoff}
    (silent : ∀ handoff ∈ handoffs, handoff.1 ≠ id) : handoffs.filterMap (outcomeOf id) = [] := by
  rw [filterMap_eq_nil_iff]
  intro handoff member
  exact if_neg (silent handoff member)

/-! ## Calls about other sends -/

/-- A call that is not about a registration. -/
def Spares (id : Nat) (coordinator : SendCompletionCoordinator) : Action -> Prop
  | .beginRegistration .. => True
  | .activateRegistration other =>
    other = id -> forall registration, (coordinator.row id).1 = some registration -> registration.active = true
  | .cancelRegistration other | .failRegistration other _ | .abandonRegistration other
  | .bindRegistration other _ _ => other = id -> (coordinator.row id).1 = none
  | .observe roomId observation =>
    (coordinator.row id).2 ⟨roomId, observation.sdkTransactionId⟩ = none ∧
      (coordinator.overflows roomId observation = true ->
        id ∉ coordinator.affectedRegistrationIds (some roomId) ∨ coordinator.Gone id)
  | .observationLost roomId => id ∉ coordinator.affectedRegistrationIds roomId ∨ coordinator.Gone id
  | .reconcileCanonicalLocalEcho roomId sdkTransactionId =>
    (coordinator.row id).2 ⟨roomId, sdkTransactionId⟩ = none

theorem registrations_of_row (nowhere : (coordinator.row id).1 = none) :
    coordinator.registrations[id]? = none :=
  nowhere

theorem ne_of_spared {other : Nat} (spared : other = id -> (coordinator.row id).1 = none)
    (held : coordinator.registrations[other]? = some registration) : other ≠ id := by
  intro same
  have nowhere := registrations_of_row (spared same)
  rw [← same, held] at nowhere
  cases nowhere

/-- Activating a registration again changes nothing. -/
theorem elsewhere_activate_active
    (active : forall registration, (coordinator.row id).1 = some registration -> registration.active = true) :
    Elsewhere id coordinator [] (coordinator.activateRegistration id).2 := by
  cases held : coordinator.registrations[id]? with
  | none =>
    apply elsewhere_of_ledger_eq
    rw [activateRegistration, held]
  | some registration =>
    have isActive := active registration held
    have same : { registration with active := true } = registration := by rw [← isActive]
    refine ⟨by simp, ?_, le_of_eq (congrArg issued (ledger_activateRegistration held)).symm⟩
    rw [row, ledger_activateRegistration held, same]
    apply row_eq
    · show (coordinator.registrations.insert id registration)[id]? = coordinator.registrations[id]?
      rw [getElem?_insert_self, held]
    · intro key
      rfl

variable {action : Action} {roomId : String} {observed : Bool} {pending : CoordinatedPendingSend}

variable (wellFormed : coordinator.WellFormed) (issued : id ≤ coordinator.nextRegistrationId)

include wellFormed issued in
theorem elsewhere_of_spares (spares : Spares id coordinator action) :
    Elsewhere id coordinator (coordinator.handoffs action) (coordinator.step action) := by
  have entries := entries_call wellFormed action
  by_cases gone : coordinator.Gone id
  · exact entries.elsewhere_of_gone issued gone
  cases action with
  | beginRegistration =>
    apply entries.elsewhere
    rintro rfl
    exact Nat.not_succ_le_self _ issued
  | activateRegistration other =>
    by_cases same : other = id
    · subst same
      exact elsewhere_activate_active (spares rfl)
    · exact entries.elsewhere (Ne.symm same)
  | cancelRegistration | failRegistration | abandonRegistration | bindRegistration =>
    apply entries.elsewhere
    rintro ⟨rfl, present⟩
    rw [registrations_of_row (spares rfl)] at present
    cases present
  | observe roomId observation =>
    apply entries.elsewhere
    rintro (⟨pending, held, same⟩ | ⟨overflow, affected⟩)
    · exact number_ne_of_row spares.1 held same.symm
    · exact ((spares.2 overflow).resolve_right gone) affected
  | observationLost => exact entries.elsewhere (spares.resolve_right gone)
  | reconcileCanonicalLocalEcho =>
    apply entries.elsewhere
    rintro ⟨pending, held, same⟩
    exact number_ne_of_row spares held same.symm

/-- A call that is not about a transaction. -/
def OtherTransaction (correlation : SendCorrelationKey) (coordinator : SendCompletionCoordinator) :
    Action -> Prop
  | .bindRegistration other sdkTransactionId _ =>
    forall registration, coordinator.registrations[other]? = some registration ->
      (⟨registration.key.roomId, sdkTransactionId⟩ : SendCorrelationKey) ≠ correlation
  | .observe roomId observation => (⟨roomId, observation.sdkTransactionId⟩ : SendCorrelationKey) ≠ correlation
  | .reconcileCanonicalLocalEcho roomId sdkTransactionId =>
    (⟨roomId, sdkTransactionId⟩ : SendCorrelationKey) = correlation ->
      coordinator.pendingSends[correlation]? = none
  | _ => True

theorem calm_of_spares (spares : Spares id coordinator action) (present : ¬ coordinator.Gone id)
    (owned : forall pending, coordinator.pendingSends[correlation]? = some pending -> pending.registrationId = id)
    (different : OtherTransaction correlation coordinator action) :
    Calm id correlation coordinator (coordinator.step action) := by
  cases action with
  | beginRegistration key clientTxnId submissionId requestId settlesComposer projection =>
    exact ⟨fun fresh => fresh, rfl, fun _ => rfl⟩
  | activateRegistration other =>
    show Calm id correlation coordinator (coordinator.activateRegistration other).2
    unfold activateRegistration
    split
    · exact still_refl.toCalm
    · exact ⟨fun fresh => fresh, rfl, fun _ => rfl⟩
  | cancelRegistration other | failRegistration other | abandonRegistration other =>
    simp only [step, call, cancelRegistration, failRegistration, abandonRegistration]
    split
    · exact still_refl.toCalm
    · next registration held => exact (still_dropRegistration (ne_of_spared spares held) registration).toCalm
  | bindRegistration other sdkTransactionId handle =>
    show Calm id correlation coordinator (coordinator.bindRegistration other sdkTransactionId handle).2
    cases held : coordinator.registrations[other]? with
    | none =>
      rw [bindRegistration, held]
      exact still_refl.toCalm
    | some registration => exact (still_bindRegistration (ne_of_spared spares held) different).toCalm
  | observe roomId observation =>
    show Calm id correlation coordinator (coordinator.observe roomId observation).2
    rcases observe_cases coordinator roomId observation with
      ⟨ignored, _⟩ | ⟨_, applied⟩ | stored | ⟨overflow, lost⟩
    · rw [ignored]
      exact still_refl.toCalm
    · rw [applied]
      exact (still_applyTerminal different observation.terminal).toCalm
    · rw [stored]
      exact (still_bufferTerminal different observation.terminal).toCalm
    · rw [lost]
      exact (still_reportLosses owned ((spares.2 overflow).resolve_right present)).toCalm
  | observationLost => exact (still_reportLosses owned (spares.resolve_right present)).toCalm
  | reconcileCanonicalLocalEcho roomId sdkTransactionId =>
    by_cases same : (⟨roomId, sdkTransactionId⟩ : SendCorrelationKey) = correlation
    · have unbound := different same
      rw [← same] at unbound
      show Calm id correlation coordinator (coordinator.reconcileCanonicalLocalEcho roomId sdkTransactionId).2
      rw [reconcileCanonicalLocalEcho, unbound]
      exact still_refl.toCalm
    · exact (still_reconcileCanonicalLocalEcho same).toCalm

/-! ## The three stages -/

/-- An active registration without a reported failure, in the room of its transaction. -/
structure ActiveSend (id : Nat) (correlation : SendCorrelationKey) (registration : CoordinatedPendingSend) :
    Prop where
  registrationId : registration.registrationId = id
  active : registration.active = true
  roomId : registration.key.roomId = correlation.roomId
  unreported : registration.failureReported = false

/-- Where a send is while it awaits its bind or its terminal: in the room of its
transaction, and bound to no other one. -/
structure HeldSend (id : Nat) (correlation : SendCorrelationKey) (coordinator : SendCompletionCoordinator) :
    Prop where
  present : ¬ coordinator.Gone id
  waiting : forall found, (coordinator.row id).1 = some found ->
    found.active = true ∧ found.key.roomId = correlation.roomId
  placed : forall key found, (coordinator.row id).2 key = some found ->
    key = correlation ∧ found.key.roomId = correlation.roomId
  owned : forall pending, coordinator.pendingSends[correlation]? = some pending -> pending.registrationId = id

variable (send : ActiveSend id correlation registration)
  (early : AwaitsBind id correlation registration eventId observed coordinator)
  (awaits : AwaitsTerminal id correlation registration coordinator pending)
  (undisturbed : Undisturbed id correlation eventId coordinator action)
  (notObserved : isObservationOf correlation action = false)

include awaits in
theorem AwaitsTerminal.held :
    coordinator.pendingSends[correlation]? = some pending ∧ pending.registrationId = id := by
  have lookup : (coordinator.row id).2 correlation = some pending := by
    rw [awaits.row]
    simp
  have found := Option.filter_eq_some_iff.mp lookup
  exact ⟨found.1, by simpa using found.2⟩

include send early in
theorem AwaitsBind.heldSend : HeldSend id correlation coordinator where
  present := by
    intro gone
    rw [Gone, early.row] at gone
    cases gone
  waiting := by
    intro found lookup
    rw [early.row] at lookup
    cases lookup
    exact ⟨send.active, send.roomId⟩
  placed := by
    intro key found lookup
    rw [early.row] at lookup
    cases lookup
  owned := by simp [early.unbound]

include send awaits in
theorem AwaitsTerminal.heldSend : HeldSend id correlation coordinator where
  present := by
    intro gone
    have lookup := congrFun (congrArg Prod.snd (awaits.row.symm.trans gone)) correlation
    simp at lookup
  waiting := by
    intro found lookup
    rw [awaits.row] at lookup
    cases lookup
  placed := by
    intro key found lookup
    rw [awaits.row] at lookup
    by_cases same : key = correlation
    · have isPending : pending = found := by simpa [same] using lookup
      rw [← isPending, awaits.same.key, send.roomId]
      exact ⟨same, rfl⟩
    · simp [Function.update_of_ne same] at lookup
  owned := by
    intro found lookup
    rw [awaits.held.1] at lookup
    cases lookup
    exact awaits.held.2

section Held

variable (heldSend : HeldSend id correlation coordinator)
  (bindFree : isBindOf id action = true -> (coordinator.row id).1 = none)
  (echoFree : action = .reconcileCanonicalLocalEcho correlation.roomId correlation.sdkTransactionId ->
    coordinator.pendingSends[correlation]? = none)

include wellFormed heldSend in
theorem HeldSend.not_affected (otherRoom : roomId ≠ correlation.roomId) :
    id ∉ coordinator.affectedRegistrationIds (some roomId) := by
  apply not_mem_affected wellFormed
  · intro found lookup
    simpa [(heldSend.waiting found lookup).2] using Ne.symm otherRoom
  · intro key found lookup
    simpa [(heldSend.placed key found lookup).2] using Ne.symm otherRoom

include heldSend in
theorem HeldSend.unplaced {key : SendCorrelationKey}
    (free : key = correlation -> coordinator.pendingSends[correlation]? = none) :
    (coordinator.row id).2 key = none := by
  cases lookup : (coordinator.row id).2 key with
  | none => rfl
  | some found =>
    have same := (heldSend.placed key found lookup).1
    rw [same, row_of_not_pending (not_mem_iff.mpr (free same))] at lookup
    cases lookup

include wellFormed heldSend undisturbed notObserved bindFree echoFree in
theorem HeldSend.spares : Spares id coordinator action := by
  cases action with
  | beginRegistration => trivial
  | activateRegistration => exact fun _ found lookup => (heldSend.waiting found lookup).1
  | cancelRegistration other | failRegistration other | abandonRegistration other =>
    exact fun same => absurd same undisturbed
  | bindRegistration => exact fun same => bindFree (decide_eq_true same)
  | observe roomId observation =>
    refine ⟨heldSend.unplaced (fun same => absurd same (of_decide_eq_false notObserved)), ?_⟩
    intro overflow
    refine .inl (heldSend.not_affected wellFormed ?_)
    intro inRoom
    rw [undisturbed.2 inRoom] at overflow
    cases overflow
  | observationLost roomId =>
    rcases undisturbed with ⟨other, rfl, otherRoom⟩
    exact .inl (heldSend.not_affected wellFormed otherRoom)
  | reconcileCanonicalLocalEcho roomId sdkTransactionId =>
    apply heldSend.unplaced
    rintro rfl
    exact echoFree rfl

include undisturbed notObserved bindFree echoFree in
theorem otherTransaction_of_undisturbed : OtherTransaction correlation coordinator action := by
  cases action with
  | bindRegistration other sdkTransactionId handle =>
    by_cases same : other = id
    · intro found lookup
      have nowhere : coordinator.registrations[id]? = none := bindFree (decide_eq_true same)
      rw [same, nowhere] at lookup
      cases lookup
    · rw [Undisturbed, if_neg same] at undisturbed
      exact undisturbed
  | observe => exact of_decide_eq_false notObserved
  | reconcileCanonicalLocalEcho roomId sdkTransactionId =>
    rintro rfl
    exact echoFree rfl
  | beginRegistration | activateRegistration | cancelRegistration | failRegistration | abandonRegistration
  | observationLost => trivial

include wellFormed issued heldSend undisturbed notObserved bindFree echoFree in
theorem HeldSend.unchanged : Elsewhere id coordinator (coordinator.handoffs action) (coordinator.step action) ∧
    Calm id correlation coordinator (coordinator.step action) := by
  have spares := heldSend.spares wellFormed undisturbed notObserved bindFree echoFree
  have different := otherTransaction_of_undisturbed undisturbed notObserved bindFree echoFree
  exact ⟨elsewhere_of_spares wellFormed issued spares,
    calm_of_spares spares heldSend.present heldSend.owned different⟩

end Held

include wellFormed issued send early undisturbed notObserved in
/-- Nothing about the send happens: it still awaits its bind. -/
theorem AwaitsBind.unchanged (notBind : isBindOf id action = false) :
    AwaitsBind id correlation registration eventId observed (coordinator.step action) ∧
      (coordinator.handoffs action).filterMap (outcomeOf id) = [] := by
  rcases (early.heldSend send).unchanged wellFormed issued undisturbed notObserved (by simp [notBind])
    (fun _ => early.unbound) with ⟨elsewhere, calm⟩
  have waits : coordinator.Waits id correlation := ⟨registration, by rw [early.row], send.active, send.roomId⟩
  refine ⟨⟨elsewhere.row.trans early.row, calm.unsettled early.unsettled, calm.pending.trans early.unbound, ?_⟩,
    filterMap_outcomeOf_eq_nil elsewhere.silent⟩
  rw [calm.buffered waits]
  exact early.buffered

theorem Waits.capacity_pos (waits : coordinator.Waits id correlation) :
    coordinator.roomUnboundCapacity correlation.roomId ≠ 0 := by
  obtain ⟨found, held, active, inRoom⟩ := waits
  have listed : (id, found) ∈ coordinator.registrations.toList :=
    mem_toList_iff_getElem?_eq_some.mpr held
  have counted : 0 < coordinator.roomUnboundCapacity correlation.roomId := by
    rw [roomUnboundCapacity, countP_pos_iff]
    exact ⟨(id, found), listed, by simp [active, inRoom]⟩
  omega

/-- An observation of the transaction is its `Sent`. -/
theorem eq_sent_of_observes (undisturbed : Undisturbed id correlation eventId coordinator action)
    (observes : isObservationOf correlation action = true) :
    action = .observe correlation.roomId (.sent correlation.sdkTransactionId eventId) := by
  cases action with
  | observe roomId observation =>
    have same := of_decide_eq_true observes
    have terminal := undisturbed.1 same
    subst same
    cases observation with
    | sent =>
      cases terminal
      rfl
    | _ => cases terminal
  | _ => cases observes

include send early undisturbed in
/-- A `Sent` that comes before the bind is buffered. -/
theorem AwaitsBind.observe (observes : isObservationOf correlation action = true) :
    AwaitsBind id correlation registration eventId true (coordinator.step action) ∧
      (coordinator.handoffs action).filterMap (outcomeOf id) = [] := by
  cases eq_sent_of_observes undisturbed observes
  have waits : coordinator.Waits id correlation := ⟨registration, by rw [early.row], send.active, send.roomId⟩
  have stored : coordinator.observe correlation.roomId (.sent correlation.sdkTransactionId eventId) =
      ([], coordinator.bufferTerminal correlation (.sent eventId)) := by
    rcases observe_cases coordinator correlation.roomId (.sent correlation.sdkTransactionId eventId) with
      ⟨_, settled | empty⟩ | ⟨pending, _⟩ | stored | ⟨overflow, _⟩
    · exact absurd settled early.unsettled
    · exact absurd empty waits.capacity_pos
    · exact absurd pending (not_mem_iff.mpr early.unbound)
    · exact stored
    · rw [undisturbed.2 rfl] at overflow
      cases overflow
  obtain ⟨count, buffered, _⟩ := early.buffered
  rw [step, handoffs, call, stored]
  refine ⟨⟨early.row, early.unsettled, early.unbound, count + 1, ?_, by simp⟩, rfl⟩
  rw [bufferTerminal, getElem?_insert_self, buffered, Option.getD_some]
  exact (replicate_succ' ..).symm

/-! ## The terminal -/

include awaits in
/-- `Sent` reports a bound send as delivered and ends it. -/
theorem AwaitsTerminal.sent (eventId : String) :
    (coordinator.applyTerminal correlation (.sent eventId)).2.Gone id ∧
      (coordinator.applyTerminal correlation (.sent eventId)).1.toList.filterMap (outcomeOf id) =
        [successHandoff registration eventId] := by
  rcases awaits.held with ⟨held, named⟩
  rw [applyTerminal, held]
  constructor
  · show (coordinator.applySent correlation pending eventId).2.row id = _
    rw [SendCompletionCoordinator.row, ledger_applySent]
    exact row_dropPlaced_self awaits.row
  · have same := awaits.same
    simp only [Option.toList_some, filterMap_cons, filterMap_nil, outcomeOf, applySent, named, if_true,
      successHandoff, timelineSendTerminalHandoff, same.key, same.clientTxnId, same.submissionId, same.requestId,
      same.settlesComposer, awaits.unreported, Bool.not_false, Bool.and_true]

theorem applyTerminals_of_gone (correlation : SendCorrelationKey) (gone : coordinator.Gone id) (terminals : List ObservedSendTerminal) :
    (applyTerminals correlation coordinator terminals).2.Gone id ∧
      (applyTerminals correlation coordinator terminals).1.filterMap (outcomeOf id) = [] := by
  have free : (coordinator.row id).2 correlation = none := by rw [gone]
  have elsewhere := elsewhere_applyTerminals free terminals
  exact ⟨elsewhere.row.trans gone, filterMap_outcomeOf_eq_nil elsewhere.silent⟩

include wellFormed send early in
/-- Binding reports a send whose `Sent` came before, and otherwise waits for it. -/
theorem AwaitsBind.bind (handle : Option Nat) : Follows id correlation registration eventId
        (coordinator.step (.bindRegistration id correlation.sdkTransactionId handle)) ⟨true, observed⟩ ∧
      (coordinator.handoffs (.bindRegistration id correlation.sdkTransactionId handle)).filterMap (outcomeOf id) =
        if observed then [successHandoff registration eventId] else [] := by
  have held : coordinator.registrations[id]? = some registration := congrArg Prod.fst early.row
  have here : (⟨registration.key.roomId, correlation.sdkTransactionId⟩ : SendCorrelationKey) = correlation := by
    rw [send.roomId]
  obtain ⟨count, buffered, seen⟩ := early.buffered
  have absent : ¬ (correlation ∈ coordinator.settledSendTombstones || correlation ∈ coordinator.pendingSends)
      = true := by
    simp [early.unsettled, not_mem_iff.mpr early.unbound]
  let pending := { registration with
    projection := boundProjection registration.projection correlation.sdkTransactionId handle }
  have bound : coordinator.call (.bindRegistration id correlation.sdkTransactionId handle) =
      applyTerminals correlation (coordinator.moveToPending id correlation pending)
        (replicate count (.sent eventId)) := by
    simp only [call, bindRegistration, held, send.active, Bool.not_true, Bool.false_eq_true, if_false, here,
      absent, buffered, pending]
  have moved : AwaitsTerminal id correlation registration
      (coordinator.moveToPending id correlation pending) pending :=
    ⟨WellFormed.row_place_self wellFormed held send.registrationId, early.unsettled,
      ⟨rfl, rfl, rfl, rfl, rfl, rfl⟩, send.unreported⟩
  rw [step, handoffs, bound]
  cases count with
  | zero =>
    have unseen : observed = false := by simpa using seen
    subst unseen
    exact ⟨⟨_, moved⟩, rfl⟩
  | succ count =>
    have isSeen : observed = true := by simpa using seen
    subst isSeen
    have delivered := moved.sent eventId
    have after := applyTerminals_of_gone correlation delivered.1 (replicate count (.sent eventId))
    rw [replicate_succ, applyTerminals]
    refine ⟨after.1, ?_⟩
    rw [filterMap_append, delivered.2, after.2]
    rfl

include awaits in
/-- The timeline shows the echo of a bound send: its row changes and nothing else. -/
theorem AwaitsTerminal.echo : ∃ echoed, AwaitsTerminal id correlation registration
      (coordinator.reconcileCanonicalLocalEcho correlation.roomId correlation.sdkTransactionId).2 echoed := by
  rcases awaits.held with ⟨held, named⟩
  have amended : forall send : CoordinatedPendingSend, SameSend send pending -> send.failureReported = false ->
      AwaitsTerminal id correlation registration
        { coordinator with pendingSends := coordinator.pendingSends.insert correlation send } send := by
    intro send same unreported
    have hasNumber : send.registrationId = id := same.registrationId.trans named
    refine ⟨row_amendPlaced_self awaits.row hasNumber, awaits.unsettled, ?_, unreported⟩
    exact ⟨same.registrationId.trans awaits.same.registrationId, same.key.trans awaits.same.key,
      same.clientTxnId.trans awaits.same.clientTxnId, same.submissionId.trans awaits.same.submissionId,
      same.requestId.trans awaits.same.requestId, same.settlesComposer.trans awaits.same.settlesComposer⟩
  simp only [reconcileCanonicalLocalEcho, reconcileLocalEcho, held]
  split <;> exact ⟨_, amended _ ⟨rfl, rfl, rfl, rfl, rfl, rfl⟩ awaits.unreported⟩

include wellFormed issued send awaits undisturbed notObserved in
theorem AwaitsTerminal.unchanged :
    (∃ after, AwaitsTerminal id correlation registration (coordinator.step action) after) ∧
      (coordinator.handoffs action).filterMap (outcomeOf id) = [] := by
  by_cases echo : action = .reconcileCanonicalLocalEcho correlation.roomId correlation.sdkTransactionId
  · subst echo
    exact ⟨awaits.echo, rfl⟩
  · rcases (awaits.heldSend send).unchanged wellFormed issued undisturbed notObserved
      (fun _ => congrArg Prod.fst awaits.row) (fun echoed => absurd echoed echo) with ⟨elsewhere, calm⟩
    exact ⟨⟨pending, elsewhere.row.trans awaits.row, calm.unsettled awaits.unsettled, awaits.same,
      awaits.unreported⟩, filterMap_outcomeOf_eq_nil elsewhere.silent⟩

include awaits undisturbed in
theorem AwaitsTerminal.observe (observes : isObservationOf correlation action = true) :
    (coordinator.step action).Gone id ∧
      (coordinator.handoffs action).filterMap (outcomeOf id) = [successHandoff registration eventId] := by
  cases eq_sent_of_observes undisturbed observes
  have isPending : correlation ∈ coordinator.pendingSends := mem_iff_exists.mpr ⟨pending, awaits.held.1⟩
  rw [step, handoffs, call, observe]
  rw [show (⟨_, SendCompletionObservation.sdkTransactionId _⟩ : SendCorrelationKey) = correlation from rfl,
    if_neg awaits.unsettled, if_pos isPending]
  exact awaits.sent eventId

/-! ## The rendezvous -/

include wellFormed issued in
theorem Gone.unchanged (gone : coordinator.Gone id) (action : Action) :
    (coordinator.step action).Gone id ∧ (coordinator.handoffs action).filterMap (outcomeOf id) = [] := by
  have elsewhere := (entries_call wellFormed action).elsewhere_of_gone issued gone
  exact ⟨elsewhere.row.trans gone, filterMap_outcomeOf_eq_nil elsewhere.silent⟩

theorem bind_not_observation (binds : isBindOf id action = true) :
    isObservationOf correlation action = false := by
  cases action with
  | bindRegistration => rfl
  | _ => cases binds

/-- The call of an action of a rendezvous, with what it yields. -/
def Meets (id : Nat) (correlation : SendCorrelationKey) (registration : CoordinatedPendingSend)
    (eventId : String) (coordinator : SendCompletionCoordinator) (action : Action) (seen : Rendezvous) : Prop :=
  Follows id correlation registration eventId (coordinator.step action)
      (seen.note (isBindOf id) (isObservationOf correlation) action) ∧
    (coordinator.handoffs action).filterMap (outcomeOf id) =
      seen.yields (isBindOf id) (isObservationOf correlation) (successHandoff registration eventId) action

include wellFormed issued send early undisturbed in
theorem AwaitsBind.meets :
    Meets id correlation registration eventId coordinator action ⟨false, observed⟩ := by
  rw [Meets, yields, note]
  cases binds : isBindOf id action with
  | true =>
    rw [bind_not_observation binds, Bool.or_false]
    cases action with
    | bindRegistration other sdkTransactionId handle =>
      have same : other = id := of_decide_eq_true binds
      rw [Undisturbed, if_pos same] at undisturbed
      subst same undisturbed
      have result := early.bind wellFormed send handle
      exact result
    | _ => cases binds
  | false =>
    cases observes : isObservationOf correlation action with
    | true =>
      rw [Bool.or_true]
      exact early.observe send undisturbed observes
    | false =>
      simp only [Bool.or_false]
      exact early.unchanged wellFormed issued send undisturbed observes binds

include wellFormed issued send awaits undisturbed in
theorem AwaitsTerminal.meets :
    Meets id correlation registration eventId coordinator action ⟨true, false⟩ := by
  rw [Meets, yields, note]
  cases observes : isObservationOf correlation action with
  | true => exact awaits.observe undisturbed observes
  | false => exact awaits.unchanged wellFormed issued send undisturbed observes

include wellFormed issued send in
theorem meets_of_follows {seen : Rendezvous}
    (follows : Follows id correlation registration eventId coordinator seen)
    (undisturbed : ¬ coordinator.Gone id -> Undisturbed id correlation eventId coordinator action) :
    Meets id correlation registration eventId coordinator action seen := by
  rcases seen with ⟨_ | _, observed⟩
  · have early : AwaitsBind id correlation registration eventId observed coordinator := follows
    exact early.meets wellFormed issued send (undisturbed (early.heldSend send).present)
  · cases observed with
    | false =>
      obtain ⟨pending, awaits⟩ := follows
      exact awaits.meets wellFormed issued send (undisturbed (awaits.heldSend send).present)
    | true =>
      have gone : coordinator.Gone id := follows
      exact gone.unchanged wellFormed issued action

/-- The coordinator with a registration that was issued follows the rendezvous. -/
def Tracks (id : Nat) (correlation : SendCorrelationKey) (registration : CoordinatedPendingSend)
    (eventId : String) (coordinator : SendCompletionCoordinator) (seen : Rendezvous) : Prop :=
  coordinator.WellFormed ∧ id ≤ coordinator.nextRegistrationId ∧
    Follows id correlation registration eventId coordinator seen

/-- In every run a registration settles its composer at most once.  And take a run
after which a registration is active with nothing reported for it, and a
transaction that is neither bound nor settled then and for which only `Sent` is
buffered.  However the run goes on, as long as it does not disturb the send while
it is held, the whole run hands off for the registration exactly one success with
the event id if the registration is bound and `Sent` is observed, in either order,
and nothing otherwise. -/
theorem run_reports_delivery (first : List Action) : (forall registrationId,
      (outputs step handoffs default first).countP (settlesFor registrationId) ≤ 1) ∧
    forall (later : List Action) (registrationId : Nat) (registration : CoordinatedPendingSend)
      (sdkTransactionId eventId : String),
      let start := run step default first
      let correlation : SendCorrelationKey := ⟨registration.key.roomId, sdkTransactionId⟩
      start.registrations[registrationId]? = some registration ->
      registration.active = true -> registration.failureReported = false ->
      correlation ∉ start.settledSendTombstones -> correlation ∉ start.pendingSends ->
      (∀ terminal ∈ start.unmatchedTerminals[correlation]?.getD [], terminal = .sent eventId) ->
      EveryStep step (fun coordinator action => ¬ coordinator.Gone registrationId ->
        Undisturbed registrationId correlation eventId coordinator action) start later ->
      (outputs step handoffs default (first ++ later)).filterMap (outcomeOf registrationId) =
        if later.any (isBindOf registrationId) &&
            (!(start.unmatchedTerminals[correlation]?.getD []).isEmpty || later.any (isObservationOf correlation)) then
          [timelineSendTerminalHandoff registration.key registration.clientTxnId registration.submissionId
            (.succeeded registration.requestId eventId registration.settlesComposer)]
        else [] := by
  refine ⟨fun registrationId => run_settles_at_most_once, ?_⟩
  intro later registrationId registration sdkTransactionId eventId start correlation held active unreported
    unsettled unbound buffered undisturbed
  have wellFormed : start.WellFormed := run_wellFormed_sends
  have named := wellFormed.waiting registrationId registration held
  have send : ActiveSend registrationId correlation registration := ⟨named.1, active, rfl, unreported⟩
  have owes : start.Owes registrationId := owed_of_waiting held unreported
  have early : (outputs step handoffs default first).filterMap (outcomeOf registrationId) = [] :=
    filterMap_outcomeOf_eq_nil (outputs_silent_of_owes default_wellFormed owes).1
  have tracks : Tracks registrationId correlation registration eventId start
      ⟨false, !(start.unmatchedTerminals[correlation]?.getD []).isEmpty⟩ := by
    refine ⟨wellFormed, named.2, WellFormed.row_of_waiting wellFormed held, unsettled,
      not_mem_iff.mp unbound, _, eq_replicate_of_mem buffered, ?_⟩
    cases start.unmatchedTerminals[correlation]?.getD [] <;> simp
  have followed : (outputs step handoffs start later).filterMap (outcomeOf registrationId) =
      outputs (note (isBindOf registrationId) (isObservationOf correlation))
        (yields (isBindOf registrationId) (isObservationOf correlation)
          (successHandoff registration eventId))
        ⟨false, !(start.unmatchedTerminals[correlation]?.getD []).isEmpty⟩ later := by
    apply filterMap_outputs_of_simulation (Tracks registrationId correlation registration eventId)
      (outcomeOf registrationId) _ undisturbed tracks
    rintro coordinator seen action calm ⟨wellFormed, issued, follows⟩
    have met := meets_of_follows wellFormed issued send follows calm
    have stillIssued := issued.trans (entries_call wellFormed action).issued_le
    exact ⟨⟨step_wellFormed wellFormed action, stillIssued, met.1⟩, met.2⟩
  rw [outputs_append, filterMap_append, early, nil_append, followed,
    outputs_eq _ _ _ rfl, run_note]
  rfl

/-- A send of `!lobby` that settles the composer. -/
def lobbySend : Action :=
  .beginRegistration ⟨"@me:hs", .room "!lobby"⟩ "client-1" none ⟨1, 7⟩ true none

theorem run_reports_delivery_early : (outputs step handoffs default
      ([lobbySend, .activateRegistration 1] ++
        [.observe "!lobby" (.sent "sdk-1" "$1"), .bindRegistration 1 "sdk-1" none])).filterMap (outcomeOf 1) =
      [timelineSendTerminalHandoff ⟨"@me:hs", .room "!lobby"⟩ "client-1" none (.succeeded ⟨1, 7⟩ "$1" true)] :=
  (run_reports_delivery [lobbySend, .activateRegistration 1]).2
    [.observe "!lobby" (.sent "sdk-1" "$1"), .bindRegistration 1 "sdk-1" none] 1
    ⟨1, true, ⟨"@me:hs", .room "!lobby"⟩, "client-1", none, ⟨1, 7⟩, true, false, false, none⟩ "sdk-1" "$1"
    (by decide +kernel) rfl rfl (by decide +kernel) (by decide +kernel) (by decide +kernel)
    ⟨fun _ => ⟨fun _ => rfl, fun _ => by decide +kernel⟩, fun _ => rfl, trivial⟩

/-- The SDK reports the send as delivered and nothing else about it.  Two terminals
of transactions that belong to no registration come first, and the send is reported
as lost before it is reported as delivered. -/
theorem foreign_terminals_fail_send : ((outputs step handoffs default
      [lobbySend, .activateRegistration 1, .observe "!lobby" (.sent "foreign-1" "$8"),
        .observe "!lobby" (.sent "foreign-2" "$9"), .bindRegistration 1 "sdk-1" none,
        .observe "!lobby" (.sent "sdk-1" "$1")]).filterMap (outcomeOf 1)).map
        (fun handoff => (handoff.action, handoff.completion, handoff.failure)) =
      [(some (.sendTextFailed "!lobby" "client-1" "send failed"), none, some ⟨⟨1, 7⟩, .queueOverflow⟩),
        (none, some ⟨⟨1, 7⟩, ⟨"@me:hs", .room "!lobby"⟩, "client-1", "$1"⟩, none)] := by
  decide +kernel

end SendCompletionCoordinator

end Koushi
