import Koushi.Library.Ledger
import Koushi.Timeline.SendCompletion

namespace Koushi

open Collections Ledger Machine List CoordinatedPendingSend Std.ExtTreeMap

/-!
# Every send settles its composer at most once

Registrations and pending sends are a ledger: a registration waits under its id
and a bound send is placed under its transaction.  A registration is owed its
settlement until a failure of it is reported or it leaves the ledger.  A call is a
sequence of `Entries` in the ledger.  `Accounts` says that a call keeps the ledger in
order and yields a settling handoff for a registration only in exchange for what it
was owed: every entry does, and entries compose.
-/

namespace SendCompletionCoordinator

variable {coordinator before middle after : SendCompletionCoordinator}

def ledger (coordinator : SendCompletionCoordinator) : Ledger SendCorrelationKey CoordinatedPendingSend :=
  ⟨coordinator.nextRegistrationId, coordinator.registrations, coordinator.pendingSends⟩

def WellFormed (coordinator : SendCompletionCoordinator) : Prop :=
  coordinator.ledger.WellFormed CoordinatedPendingSend.registrationId

/-- A registration that may still settle its composer. -/
def Owes (coordinator : SendCompletionCoordinator) (registrationId : Nat) : Prop :=
  Ledger.Owed CoordinatedPendingSend.registrationId failureReported registrationId
    coordinator.ledger

/-- A handoff that settles the composer of a registration. -/
def settlesFor (registrationId : Nat) (handoff : RegistrationHandoff) : Bool :=
  handoff.1 = registrationId && handoff.2.action.isSome

open Classical in
noncomputable def credit (registrationId : Nat) (coordinator : SendCompletionCoordinator) : Nat :=
  if coordinator.Owes registrationId then 1 else 0

def Accounts (before : SendCompletionCoordinator) (handoffs : List RegistrationHandoff)
    (after : SendCompletionCoordinator) : Prop :=
  before.WellFormed -> after.WellFormed ∧
    (forall registrationId,
      handoffs.countP (settlesFor registrationId) + credit registrationId after ≤
        credit registrationId before) ∧
    ∀ handoff ∈ handoffs, ¬ after.Owes handoff.1

variable {registrationId : Nat} {registration : CoordinatedPendingSend} {correlation : SendCorrelationKey}

theorem owes_of_credit_le (paid : credit registrationId after ≤ credit registrationId before)
    (owes : after.Owes registrationId) : before.Owes registrationId := by
  by_contra closed
  rw [credit, credit, if_pos owes, if_neg closed] at paid
  omega

theorem Accounts.trans {first second : List RegistrationHandoff} (left : Accounts before first middle)
    (right : Accounts middle second after) : Accounts before (first ++ second) after := by
  intro wellFormed
  rcases left wellFormed with ⟨wellFormedMiddle, paidLeft, closedLeft⟩
  rcases right wellFormedMiddle with ⟨wellFormedAfter, paidRight, closedRight⟩
  refine ⟨wellFormedAfter, ?_, ?_⟩
  · intro registrationId
    have one := paidLeft registrationId
    have two := paidRight registrationId
    rw [countP_append]
    omega
  · intro handoff member
    rcases mem_append.mp member with early | late
    · intro owes
      exact closedLeft handoff early (owes_of_credit_le (by have := paidRight handoff.1; omega) owes)
    · exact closedRight handoff late

theorem credit_le (monotone : forall id, after.Owes id -> before.Owes id) (registrationId : Nat) :
    credit registrationId after ≤ credit registrationId before := by
  unfold credit
  by_cases owes : after.Owes registrationId
  · rw [if_pos owes, if_pos (monotone registrationId owes)]
  · rw [if_neg owes]
    exact Nat.zero_le _

/-- A call accounts when its handoff closes a registration, one that was open if the
handoff settles. -/
theorem accounts_handoff (handoff : Option RegistrationHandoff) (keeps : before.WellFormed -> after.WellFormed)
    (monotone : forall id, after.Owes id -> before.Owes id)
    (closes : before.WellFormed -> forall registrationId settled, handoff = some (registrationId, settled) ->
      ¬ after.Owes registrationId ∧ (settled.action.isSome = true -> before.Owes registrationId)) :
    Accounts before handoff.toList after := by
  intro wellFormed
  cases handoff with
  | none =>
    refine ⟨keeps wellFormed, ?_, by simp⟩
    intro registrationId
    simpa using credit_le monotone registrationId
  | some handoff =>
    rcases closes wellFormed handoff.1 handoff.2 rfl with ⟨paid, wasOpen⟩
    refine ⟨keeps wellFormed, ?_, by simpa using paid⟩
    intro registrationId
    have below := credit_le monotone registrationId
    rw [Option.toList_some, countP_singleton]
    by_cases settles : settlesFor registrationId handoff = true
    · have facts : handoff.1 = registrationId ∧ handoff.2.action.isSome = true := by
        simpa [settlesFor] using settles
      have owed := wasOpen facts.2
      rw [facts.1] at owed paid
      rw [if_pos settles, credit, credit, if_neg paid, if_pos owed]
    · rw [if_neg settles]
      omega

theorem accounts_of_ledger_eq (same : after.ledger = before.ledger) : Accounts before [] after := by
  refine accounts_handoff none ?_ ?_ (by simp)
  · intro wellFormed
    rwa [WellFormed, same]
  · intro id owes
    rwa [Owes, same] at owes

/-! ## The ledger of each operation -/

@[simp] theorem ledger_purge (roomId : String) :
    (coordinator.purgeUnmatchedForInactiveRoom roomId).ledger = coordinator.ledger := by
  unfold purgeUnmatchedForInactiveRoom
  split <;> rfl

@[simp] theorem ledger_dropRegistration :
    (coordinator.dropRegistration registrationId registration).ledger =
      coordinator.ledger.dropWaiting registrationId := by
  rw [dropRegistration, ledger_purge]
  rfl

section

variable (correlation)

@[simp] theorem ledger_rememberSettled :
    (coordinator.rememberSettled correlation).ledger = coordinator.ledger := by
  unfold rememberSettled
  split
  · rfl
  · simp only [ledger]

variable (pending : CoordinatedPendingSend)

@[simp] theorem ledger_retainProjection (eventId : String) :
    (coordinator.retainProjection correlation pending eventId).ledger = coordinator.ledger := by
  unfold retainProjection
  cases pending.projection with
  | none => rfl
  | some projection =>
    dsimp only
    split <;> rfl

@[simp] theorem ledger_settlePending :
    (coordinator.settlePending correlation).ledger = coordinator.ledger.dropPlaced correlation := by
  rw [settlePending, ledger_rememberSettled]
  rfl

theorem ledger_applySent (eventId : String) : (coordinator.applySent correlation pending eventId).2.ledger =
      coordinator.ledger.dropPlaced correlation := by
  rw [applySent, ledger_purge]
  exact (ledger_settlePending correlation).trans (by rw [ledger_retainProjection])

theorem ledger_applyCancelled :
    (coordinator.applyCancelled correlation pending).2.ledger = coordinator.ledger.dropPlaced correlation := by
  rw [applyCancelled, ledger_purge, ledger_settlePending]

end

theorem ledger_activateRegistration (held : coordinator.registrations[registrationId]? = some registration) :
    (coordinator.activateRegistration registrationId).2.ledger =
      coordinator.ledger.amendWaiting registrationId { registration with active := true } := by
  rw [activateRegistration, held]
  rfl

/-! ## What settles -/

theorem settles_of_action {key : TimelineKey} {clientTransactionId : String}
    {submissionId : Option SubmissionId} {terminal : SendCompletionTerminal}
    (settles : (timelineSendTerminalHandoff key clientTransactionId submissionId terminal).action.isSome = true) :
    terminal.settlesComposer = true := by
  by_contra silent
  have isFalse : terminal.settlesComposer = false := by simpa using silent
  simp [timelineSendTerminalHandoff, sendTerminalAction, isFalse] at settles

/-- A terminal that keeps quiet after a failure only settles when none was reported. -/
theorem unreported_of_settles {key : TimelineKey} {clientTransactionId : String}
    {submissionId : Option SubmissionId} {terminal : SendCompletionTerminal} {settlesComposer reported : Bool}
    (quiet : terminal.settlesComposer = (settlesComposer && !reported))
    (settles : (timelineSendTerminalHandoff key clientTransactionId submissionId terminal).action.isSome = true) :
    reported = false := by
  have both := settles_of_action settles
  rw [quiet, Bool.and_eq_true, Bool.not_eq_true'] at both
  exact both.2

/-! ## Entries -/

abbrev SendLedger := Ledger SendCorrelationKey CoordinatedPendingSend

/-- A rewritten send is reported as failed with the handoff, or is as before in this. -/
def Reports (old new : CoordinatedPendingSend) (handoff : Option TimelineSendTerminalHandoff) : Prop :=
  handoff = none ∧ new.failureReported = old.failureReported ∨
    old.failureReported = false ∧ new.failureReported = true

/-- One change of the ledger, with the registration it is about and what it hands off. -/
inductive Entry (ledger : SendLedger) : Nat -> Option TimelineSendTerminalHandoff -> SendLedger -> Prop
  | register (registration : CoordinatedPendingSend)
      (named : registration.registrationId = ledger.issued + 1) :
      Entry ledger (ledger.issued + 1) none (ledger.register registration)
  | amendWaiting {id : Nat} {old new : CoordinatedPendingSend} {handoff : Option TimelineSendTerminalHandoff}
      (held : ledger.waiting[id]? = some old) (named : new.registrationId = old.registrationId)
      (reports : Reports old new handoff) : Entry ledger id handoff (ledger.amendWaiting id new)
  | drop {id : Nat} {old : CoordinatedPendingSend} {handoff : Option TimelineSendTerminalHandoff}
      (held : ledger.waiting[id]? = some old) (unreported : handoff ≠ none -> old.failureReported = false) :
      Entry ledger id handoff (ledger.dropWaiting id)
  | place {id : Nat} {key : SendCorrelationKey} {old new : CoordinatedPendingSend}
      (held : ledger.waiting[id]? = some old) (free : ledger.placed[key]? = none)
      (named : new.registrationId = id) (reported : new.failureReported = old.failureReported) :
      Entry ledger id none (ledger.place id key new)
  | amendPlaced {key : SendCorrelationKey} {old new : CoordinatedPendingSend}
      {handoff : Option TimelineSendTerminalHandoff} (held : ledger.placed[key]? = some old)
      (named : new.registrationId = old.registrationId) (reports : Reports old new handoff) :
      Entry ledger old.registrationId handoff (ledger.amendPlaced key new)
  | settle {key : SendCorrelationKey} {old : CoordinatedPendingSend} {handoff : TimelineSendTerminalHandoff}
      (held : ledger.placed[key]? = some old)
      (unreported : handoff.action.isSome = true -> old.failureReported = false) :
      Entry ledger old.registrationId (some handoff) (ledger.dropPlaced key)

/-- A sequence of entries about registrations that satisfy `touches`. -/
inductive Entries (touches : Nat -> Prop) :
    SendCompletionCoordinator -> List RegistrationHandoff -> SendCompletionCoordinator -> Prop
  | silent {before after : SendCompletionCoordinator} (same : after.ledger = before.ledger) :
      Entries touches before [] after
  | entry {before after : SendCompletionCoordinator} {number : Nat}
      (handoff : Option TimelineSendTerminalHandoff)
      (entry : Entry before.ledger number handoff after.ledger) (about : touches number) :
      Entries touches before (handoff.map (fun handoff => (number, handoff))).toList after
  | trans {before middle after : SendCompletionCoordinator} {first second : List RegistrationHandoff}
      (left : Entries touches before first middle) (right : Entries touches middle second after) :
      Entries touches before (first ++ second) after

section Entry

variable {ledger next : SendLedger} {number : Nat} {handoff : Option TimelineSendTerminalHandoff}

theorem Reports.keeps {old new : CoordinatedPendingSend} (reports : Reports old new handoff)
    (reported : old.failureReported = true) : new.failureReported = true := by
  rcases reports with ⟨_, same⟩ | ⟨_, reported⟩
  · rwa [same]
  · exact reported

theorem Entry.wellFormed (entry : Entry ledger number handoff next)
    (wellFormed : ledger.WellFormed CoordinatedPendingSend.registrationId) :
    next.WellFormed CoordinatedPendingSend.registrationId := by
  cases entry with
  | register registration named => exact wellFormed.register named
  | amendWaiting held named => exact wellFormed.amendWaiting held (named.trans (wellFormed.waiting _ _ held).1)
  | drop => exact wellFormed.dropWaiting _
  | place held _ named => exact wellFormed.place held named
  | amendPlaced held named => exact wellFormed.amendPlaced held named
  | settle => exact wellFormed.dropPlaced _

/-- Nothing becomes owed. -/
theorem Entry.owed_before (entry : Entry ledger number handoff next) {id : Nat}
    (owed : Owed CoordinatedPendingSend.registrationId failureReported id next) :
    Owed CoordinatedPendingSend.registrationId failureReported id ledger := by
  cases entry with
  | register => exact owed.of_register
  | amendWaiting held _ reports => exact owed.of_amendWaiting held reports.keeps
  | drop => exact owed.of_dropWaiting
  | place held _ named reported => exact owed.of_place held named reported.trans
  | amendPlaced held named reports => exact owed.of_amendPlaced held named reports.keeps
  | settle => exact owed.of_dropPlaced

/-- A handoff closes its registration, one that was open if the handoff settles. -/
theorem Entry.closes {settled : TimelineSendTerminalHandoff} (entry : Entry ledger number (some settled) next)
    (wellFormed : ledger.WellFormed CoordinatedPendingSend.registrationId) :
    ¬ Owed CoordinatedPendingSend.registrationId failureReported number next ∧
      (settled.action.isSome = true ->
        Owed CoordinatedPendingSend.registrationId failureReported number
          ledger) := by
  cases entry with
  | amendWaiting held _ reports =>
    rcases reports with ⟨impossible, _⟩ | ⟨unreported, reported⟩
    · cases impossible
    · exact ⟨wellFormed.not_owed_amendWaiting held reported, fun _ => owed_of_waiting held unreported⟩
  | drop held unreported =>
    exact ⟨wellFormed.not_owed_dropWaiting held, fun _ => owed_of_waiting held (unreported (by simp))⟩
  | amendPlaced held _ reports =>
    rcases reports with ⟨impossible, _⟩ | ⟨unreported, reported⟩
    · cases impossible
    · exact ⟨wellFormed.not_owed_amendPlaced held reported, fun _ => owed_of_placed held unreported⟩
  | settle held unreported =>
    exact ⟨wellFormed.not_owed_dropPlaced held, fun settles => owed_of_placed held (unreported settles)⟩

theorem Entry.issued_le (entry : Entry ledger number handoff next) : ledger.issued ≤ next.issued := by
  cases entry with
  | register => exact Nat.le_succ _
  | _ => exact Nat.le_refl _

end Entry

variable {touches : Nat -> Prop}

theorem Entries.accounts {handoffs : List RegistrationHandoff} (entries : Entries touches before handoffs after) :
    Accounts before handoffs after := by
  induction entries with
  | silent same => exact accounts_of_ledger_eq same
  | entry handoff entry about =>
    intro wellFormed
    refine accounts_handoff _ entry.wellFormed (fun _ => entry.owed_before) ?_ wellFormed
    intro _ registrationId settled yielded
    rcases Option.map_eq_some_iff.mp yielded with ⟨_, rfl, same⟩
    cases same
    exact entry.closes wellFormed
  | trans _ _ left right => exact left.trans right

theorem Entries.issued_le {handoffs : List RegistrationHandoff} (entries : Entries touches before handoffs after) :
    before.nextRegistrationId ≤ after.nextRegistrationId := by
  induction entries with
  | silent same => exact le_of_eq (congrArg issued same).symm
  | entry handoff entry about => exact entry.issued_le
  | trans _ _ left right => exact left.trans right

/-! ## Every call is a sequence of entries -/

variable (held : before.registrations[registrationId]? = some registration)
  (about : touches registrationId)

include held about in
theorem entries_dropRegistration (handoff : Option TimelineSendTerminalHandoff)
    (unreported : handoff ≠ none -> registration.failureReported = false) :
    Entries touches before (handoff.map (fun handoff => (registrationId, handoff))).toList
      (before.dropRegistration registrationId registration) := by
  refine .entry handoff ?_ about
  rw [ledger_dropRegistration]
  exact .drop held unreported

include held about in
/-- Dropping a registration without a handoff. -/
theorem entries_dropSilently
    : Entries touches before [] (before.dropRegistration registrationId registration) :=
  entries_dropRegistration held about none (fun yielded => absurd rfl yielded)

include held about in
theorem entries_dropReported
    (handoff : TimelineSendTerminalHandoff) (unreported : registration.failureReported = false) :
    Entries touches before [(registrationId, handoff)] (before.dropRegistration registrationId registration) :=
  entries_dropRegistration held about (some handoff) (fun _ => unreported)

theorem entries_applyTerminal
    (about : forall pending, before.pendingSends[correlation]? = some pending -> touches pending.registrationId)
    (terminal : ObservedSendTerminal) :
    Entries touches before (before.applyTerminal correlation terminal).1.toList
      (before.applyTerminal correlation terminal).2 := by
  unfold applyTerminal
  split
  · exact .silent rfl
  next pending held =>
  have placed : before.ledger.placed[correlation]? = some pending := held
  cases terminal with
  | sent eventId =>
    refine .entry (some _) ?_ (about pending held)
    rw [ledger_applySent]
    exact .settle placed (unreported_of_settles rfl)
  | sendError diagnostic =>
    dsimp only [applySendError]
    split
    · exact .silent rfl
    next unreported =>
    exact .entry (some _)
      (.amendPlaced placed rfl (.inr ⟨by simpa using unreported, rfl⟩)) (about pending held)
  | cancelled =>
    refine .entry (some _) ?_ (about pending held)
    rw [ledger_applyCancelled]
    exact .settle placed (unreported_of_settles rfl)

/-- A terminal leaves under its transaction at most the send that was there. -/
theorem pending_applyTerminal {terminal : ObservedSendTerminal} {pending : CoordinatedPendingSend}
    (held : (before.applyTerminal correlation terminal).2.pendingSends[correlation]? = some pending) :
    ∃ old, before.pendingSends[correlation]? = some old ∧ pending.registrationId = old.registrationId := by
  unfold applyTerminal at held
  split at held
  · exact ⟨pending, held, rfl⟩
  next old was =>
  refine ⟨old, was, ?_⟩
  have gone : (before.ledger.dropPlaced correlation).placed[correlation]? = none := by
    simp [dropPlaced]
  cases terminal with
  | sent eventId =>
    rw [← ledger_applySent correlation old eventId] at gone
    exact absurd (held.symm.trans gone) (by simp)
  | sendError diagnostic =>
    dsimp only [applySendError] at held
    split at held
    · rw [was] at held
      cases held
      rfl
    · rw [getElem?_insert_self] at held
      cases held
      rfl
  | cancelled =>
    rw [← ledger_applyCancelled correlation old] at gone
    exact absurd (held.symm.trans gone) (by simp)

theorem entries_applyTerminals
    (about : forall pending, before.pendingSends[correlation]? = some pending -> touches pending.registrationId)
    (terminals : List ObservedSendTerminal) :
    Entries touches before (applyTerminals correlation before terminals).1
      (applyTerminals correlation before terminals).2 := by
  induction terminals generalizing before with
  | nil => exact .silent rfl
  | cons terminal rest ih =>
    rw [applyTerminals]
    refine (entries_applyTerminal about terminal).trans (ih ?_)
    intro pending held
    obtain ⟨old, was, named⟩ := pending_applyTerminal held
    rw [named]
    exact about old was

theorem entries_bindRegistration (wellFormed : before.WellFormed)
    (about : before.registrations[registrationId]?.isSome = true -> touches registrationId)
    (sdkTransactionId : String) (handle : Option Nat) :
    Entries touches before (before.bindRegistration registrationId sdkTransactionId handle).1.2
      (before.bindRegistration registrationId sdkTransactionId handle).2 := by
  unfold bindRegistration
  split
  · exact .silent rfl
  next registration held =>
  have isAbout : touches registrationId := about (by rw [held]; rfl)
  have named : registration.registrationId = registrationId := (wellFormed.waiting _ _ held).1
  split
  · exact entries_dropSilently held isAbout
  dsimp only
  split
  · split
    · next unreported => exact entries_dropReported held isAbout _ (by simpa using unreported)
    · exact entries_dropSilently held isAbout
  next absent =>
  -- the registration is placed, then the terminals that waited for it are applied
  simp only [Bool.or_eq_true, decide_eq_true_eq, not_or] at absent
  have free : before.ledger.placed[(⟨registration.key.roomId, sdkTransactionId⟩ : SendCorrelationKey)]? =
      none := OrdMap.not_mem_iff.mp absent.2
  refine Entries.trans (.entry none (.place held free ?_ ?_) isAbout) (entries_applyTerminals ?_ _)
  · exact named
  · rfl
  intro pending placed
  rw [moveToPending, getElem?_insert_self] at placed
  cases placed
  rwa [named]

include about in
theorem entries_reportLoss :
    Entries touches before (before.reportLoss registrationId).1 (before.reportLoss registrationId).2 := by
  unfold reportLoss
  cases held : before.registrations[registrationId]? with
  | some registration =>
    dsimp only
    split
    · exact .silent rfl
    next unreported =>
    exact .entry (some _)
      (.amendWaiting held rfl (.inr ⟨by simpa using unreported, rfl⟩)) about
  | none =>
    dsimp only
    split
    · exact .silent rfl
    next correlation pending found =>
    have named : pending.registrationId = registrationId := by
      simpa using find?_some found
    have placed : before.ledger.placed[correlation]? = some pending :=
      mem_toList_iff_getElem?_eq_some.mp (mem_of_find?_eq_some found)
    split
    · exact .silent rfl
    next unreported =>
    subst named
    exact .entry (some _)
      (.amendPlaced placed rfl (.inr ⟨by simpa using unreported, rfl⟩)) about

theorem entries_reportLosses {registrationIds : List Nat} (about : ∀ id ∈ registrationIds, touches id) :
    Entries touches before (reportLosses before registrationIds).1 (reportLosses before registrationIds).2 := by
  induction registrationIds generalizing before with
  | nil => exact .silent rfl
  | cons registrationId rest ih =>
    rw [reportLosses]
    exact (entries_reportLoss (about registrationId (by simp))).trans
      (ih (fun id listed => about id (mem_cons_of_mem _ listed)))

/-- An observation that no buffer has room for. -/
def overflows (coordinator : SendCompletionCoordinator) (roomId : String)
    (observation : SendCompletionObservation) : Bool :=
  let correlation : SendCorrelationKey := ⟨roomId, observation.sdkTransactionId⟩
  let capacity := coordinator.roomUnboundCapacity roomId
  correlation ∉ coordinator.settledSendTombstones && correlation ∉ coordinator.pendingSends &&
    capacity ≠ 0 &&
      match coordinator.unmatchedTerminals[correlation]? with
      | some observed => 2 ≤ observed.length
      | none => capacity ≤ coordinator.retainedForRoom roomId

/-- What an observation does: a settled one is ignored, a pending one applied, and
another one is buffered, ignored or lost. -/
theorem observe_cases (coordinator : SendCompletionCoordinator) (roomId : String)
    (observation : SendCompletionObservation) :
    (coordinator.observe roomId observation = ([], coordinator) ∧
      ((⟨roomId, observation.sdkTransactionId⟩ : SendCorrelationKey) ∈ coordinator.settledSendTombstones ∨
        coordinator.roomUnboundCapacity roomId = 0)) ∨
    ((⟨roomId, observation.sdkTransactionId⟩ : SendCorrelationKey) ∈ coordinator.pendingSends ∧
      coordinator.observe roomId observation =
        ((coordinator.applyTerminal ⟨roomId, observation.sdkTransactionId⟩ observation.terminal).1.toList,
          (coordinator.applyTerminal ⟨roomId, observation.sdkTransactionId⟩ observation.terminal).2)) ∨
    coordinator.observe roomId observation =
      ([], coordinator.bufferTerminal ⟨roomId, observation.sdkTransactionId⟩ observation.terminal) ∨
    (coordinator.overflows roomId observation = true ∧
      coordinator.observe roomId observation = coordinator.observationLost (some roomId)) := by
  unfold observe overflows
  dsimp only
  by_cases settled : (⟨roomId, observation.sdkTransactionId⟩ : SendCorrelationKey) ∈
      coordinator.settledSendTombstones
  · exact .inl ⟨if_pos settled, .inl settled⟩
  rw [if_neg settled]
  by_cases pending : (⟨roomId, observation.sdkTransactionId⟩ : SendCorrelationKey) ∈ coordinator.pendingSends
  · exact .inr (.inl ⟨pending, if_pos pending⟩)
  rw [if_neg pending]
  by_cases empty : coordinator.roomUnboundCapacity roomId = 0
  · exact .inl ⟨if_pos empty, .inr empty⟩
  rw [if_neg empty]
  cases coordinator.unmatchedTerminals[(⟨roomId, observation.sdkTransactionId⟩ : SendCorrelationKey)]? with
  | some observed =>
    dsimp only
    by_cases short : observed.length < 2
    · exact .inr (.inr (.inl (if_pos short)))
    · exact .inr (.inr (.inr ⟨by simp [settled, pending, empty]; omega, if_neg short⟩))
  | none =>
    dsimp only
    by_cases full : coordinator.roomUnboundCapacity roomId ≤ coordinator.retainedForRoom roomId
    · exact .inr (.inr (.inr ⟨by simp [settled, pending, empty, full], if_pos full⟩))
    · exact .inr (.inr (.inl (if_neg full)))

/-- The registrations that a call may be about. -/
def Touches (coordinator : SendCompletionCoordinator) : Action -> Nat -> Prop
  | .beginRegistration .., number => number = coordinator.nextRegistrationId + 1
  | .activateRegistration registrationId, number => number = registrationId
  | .cancelRegistration registrationId, number | .failRegistration registrationId _, number
  | .abandonRegistration registrationId, number | .bindRegistration registrationId _ _, number =>
    number = registrationId ∧ coordinator.registrations[registrationId]?.isSome = true
  | .observe roomId observation, number =>
    (∃ pending, coordinator.pendingSends[(⟨roomId, observation.sdkTransactionId⟩ : SendCorrelationKey)]? =
      some pending ∧ number = pending.registrationId) ∨
    coordinator.overflows roomId observation = true ∧
      number ∈ coordinator.affectedRegistrationIds (some roomId)
  | .observationLost roomId, number => number ∈ coordinator.affectedRegistrationIds roomId
  | .reconcileCanonicalLocalEcho roomId sdkTransactionId, number =>
    ∃ pending, coordinator.pendingSends[(⟨roomId, sdkTransactionId⟩ : SendCorrelationKey)]? = some pending ∧
      number = pending.registrationId

theorem entries_call (wellFormed : coordinator.WellFormed) (action : Action) :
    Entries (coordinator.Touches action) coordinator (coordinator.handoffs action) (coordinator.step action) := by
  cases action with
  | beginRegistration key clientTxnId submissionId requestId settlesComposer projection =>
    exact .entry none (.register _ rfl) rfl
  | activateRegistration registrationId =>
    rw [handoffs, step, call, activateRegistration]
    split
    · exact .silent rfl
    · next held => exact .entry none (.amendWaiting held rfl (.inl ⟨rfl, rfl⟩)) rfl
  | cancelRegistration registrationId =>
    rw [handoffs, step, call, cancelRegistration]
    split
    · exact .silent rfl
    · next held => exact entries_dropSilently held ⟨rfl, by rw [held]; rfl⟩
  | failRegistration registrationId kind =>
    rw [handoffs, step, call, failRegistration]
    cases held : coordinator.registrations[registrationId]? with
    | none => exact .silent rfl
    | some registration =>
      dsimp only
      split
      · next unreported =>
        exact entries_dropReported held ⟨rfl, by rw [held]; rfl⟩ _ (by simpa using unreported)
      · exact entries_dropSilently held ⟨rfl, by rw [held]; rfl⟩
  | abandonRegistration registrationId =>
    rw [handoffs, step, call, abandonRegistration]
    cases held : coordinator.registrations[registrationId]? with
    | none => exact .silent rfl
    | some registration =>
      dsimp only
      split
      · next unreported =>
        rw [Bool.and_eq_true, Bool.not_eq_true'] at unreported
        exact entries_dropReported held ⟨rfl, by rw [held]; rfl⟩ _ unreported.2
      · exact entries_dropSilently held ⟨rfl, by rw [held]; rfl⟩
  | bindRegistration registrationId sdkTransactionId handle =>
    exact entries_bindRegistration wellFormed (fun present => ⟨rfl, present⟩) sdkTransactionId handle
  | observe roomId observation =>
    rw [handoffs, step, call]
    rcases observe_cases coordinator roomId observation with
      ⟨ignored, _⟩ | ⟨_, applied⟩ | stored | ⟨overflow, lost⟩
    · rw [ignored]
      exact .silent rfl
    · rw [applied]
      exact entries_applyTerminal (fun pending held => .inl ⟨pending, held, rfl⟩) observation.terminal
    · rw [stored]
      exact .silent rfl
    · rw [lost]
      exact entries_reportLosses (fun id affected => .inr ⟨overflow, affected⟩)
  | observationLost roomId => exact entries_reportLosses (fun id affected => affected)
  | reconcileCanonicalLocalEcho roomId sdkTransactionId =>
    rw [handoffs, step, call, reconcileCanonicalLocalEcho, reconcileLocalEcho]
    split
    · exact .silent rfl
    next pending held =>
    dsimp only
    split <;> exact .entry none (.amendPlaced held rfl (.inl ⟨rfl, rfl⟩)) ⟨pending, held, rfl⟩

theorem accounts_call (coordinator : SendCompletionCoordinator) (action : Action) :
    Accounts coordinator (coordinator.handoffs action) (coordinator.step action) :=
  fun wellFormed => (entries_call wellFormed action).accounts wellFormed

theorem step_wellFormed (wellFormed : coordinator.WellFormed) (action : Action) :
    (coordinator.step action).WellFormed :=
  (accounts_call coordinator action wellFormed).1

theorem default_wellFormed : default.WellFormed := wellFormed_empty

variable {actions : List Action}

theorem run_wellFormed_sends : (run step default actions).WellFormed :=
  run_invariant WellFormed (fun _ action wellFormed => step_wellFormed wellFormed action)
    default_wellFormed

/-- In every run a registration settles its composer at most once. -/
theorem run_settles_at_most_once :
    (outputs step handoffs default actions).countP (settlesFor registrationId) ≤ 1 := by
  have paid := countP_outputs_add_le WellFormed (credit registrationId) (settlesFor registrationId)
    (fun _ action wellFormed => step_wellFormed wellFormed action)
    (fun coordinator action wellFormed => (accounts_call coordinator action wellFormed).2.1 registrationId)
    default_wellFormed actions
  have start : credit registrationId default ≤ 1 := by
    unfold credit
    split <;> omega
  omega

/-- A registration that is still owed at the end of a run was handed off nothing. -/
theorem outputs_silent_of_owes
    (wellFormed : coordinator.WellFormed) (owes : (run step coordinator actions).Owes registrationId) :
    (∀ handoff ∈ outputs step handoffs coordinator actions, handoff.1 ≠ registrationId) ∧
      coordinator.Owes registrationId := by
  induction actions generalizing coordinator with
  | nil => exact ⟨by simp [outputs], owes⟩
  | cons action rest ih =>
    rcases accounts_call coordinator action wellFormed with ⟨wellFormedNext, paid, closed⟩
    rcases ih wellFormedNext owes with ⟨silent, owesNext⟩
    refine ⟨?_, owes_of_credit_le (by have := paid registrationId; omega) owesNext⟩
    intro handoff member
    rw [outputs, mem_append] at member
    rcases member with now | later
    · rintro rfl
      exact closed handoff now owesNext
    · exact silent handoff later

end SendCompletionCoordinator

end Koushi
