import Koushi.Timeline.SendAccounting

namespace Koushi

open Collections CoordinatedPendingSend List Ledger OrdMap SendCompletionCoordinator Std.ExtTreeMap

/-!
# What a call leaves alone

`Elsewhere` says that a call is about other registrations: it yields no handoff
for this one and leaves its row of the ledger.  `Calm` says that a call is about
other transactions: this one is neither bound nor settled by it, and the terminals
buffered for it stay, as long as the registration that waits for it keeps its room
active.
-/

namespace SendCompletionCoordinator

variable {coordinator before middle after : SendCompletionCoordinator} {id : Nat}
  {correlation : SendCorrelationKey}

def row (coordinator : SendCompletionCoordinator) (registrationId : Nat) :
    Option CoordinatedPendingSend × (SendCorrelationKey -> Option CoordinatedPendingSend) :=
  coordinator.ledger.row CoordinatedPendingSend.registrationId registrationId

structure Elsewhere (id : Nat) (before : SendCompletionCoordinator) (handoffs : List RegistrationHandoff)
    (after : SendCompletionCoordinator) : Prop where
  silent : ∀ handoff ∈ handoffs, handoff.1 ≠ id
  row : after.row id = before.row id
  issued : before.nextRegistrationId ≤ after.nextRegistrationId

theorem Elsewhere.trans {first second : List RegistrationHandoff} (left : Elsewhere id before first middle)
    (right : Elsewhere id middle second after) : Elsewhere id before (first ++ second) after where
  silent := by
    intro handoff member
    rcases mem_append.mp member with early | late
    · exact left.silent handoff early
    · exact right.silent handoff late
  row := right.row.trans left.row
  issued := left.issued.trans right.issued

theorem elsewhere_of_ledger_eq (same : after.ledger = before.ledger) : Elsewhere id before [] after where
  silent := by simp
  row := by rw [row, same, row]
  issued := le_of_eq (congrArg issued same).symm

section Entry

variable {ledger next : SendLedger} {number : Nat} {handoff : Option TimelineSendTerminalHandoff}

/-- An entry leaves the rows of other registrations. -/
theorem Entry.row_eq (entry : Entry ledger number handoff next) (different : number ≠ id) :
    next.row registrationId id = ledger.row registrationId id := by
  cases entry with
  | register registration => exact row_register different
  | amendWaiting => exact row_amendWaiting different
  | drop => exact row_dropWaiting different
  | place _ free named =>
    refine row_place different ?_ (by rwa [named])
    simp [Ledger.row, free]
  | amendPlaced held named =>
    exact row_amendPlaced (row_of_number_ne held different) (by rwa [named])
  | settle held => exact row_dropPlaced (row_of_number_ne held different)

/-- No entry is about a registration that was issued and is in no map. -/
theorem Entry.number_ne (entry : Entry ledger number handoff next) (issued : id ≤ ledger.issued)
    (gone : ledger.row registrationId id = (none, fun _ => none)) : number ≠ id := by
  have nowhere : ledger.waiting[id]? = none := congrArg Prod.fst gone
  cases entry with
  | register => omega
  | amendWaiting held | drop held | place held =>
    rintro rfl
    rw [nowhere] at held
    cases held
  | amendPlaced held | settle held => exact number_ne_of_row (by rw [gone]) held

end Entry

theorem elsewhere_of_entry {number : Nat} {handoff : Option TimelineSendTerminalHandoff}
    (entry : Entry before.ledger number handoff after.ledger) (different : number ≠ id) :
    Elsewhere id before (handoff.map (fun handoff => (number, handoff))).toList after where
  silent := by
    intro handed member
    rcases Option.map_eq_some_iff.mp (Option.mem_toList.mp member) with ⟨_, _, rfl⟩
    exact different
  row := entry.row_eq different
  issued := entry.issued_le

variable {handoffs : List RegistrationHandoff} {other : SendCorrelationKey}

theorem Entries.elsewhere {touches : Nat -> Prop}
    (entries : Entries touches before handoffs after) (untouched : ¬ touches id) :
    Elsewhere id before handoffs after := by
  induction entries with
  | silent same => exact elsewhere_of_ledger_eq same
  | entry handoff entry about =>
    refine elsewhere_of_entry entry ?_
    rintro rfl
    exact untouched about
  | trans _ _ left right => exact left.trans right

theorem Entries.elsewhere_of_ne
    (entries : Entries (fun number => number ≠ id) before handoffs after) : Elsewhere id before handoffs after :=
  entries.elsewhere (fun other => other rfl)

/-- A registration that is in no map. -/
def Gone (coordinator : SendCompletionCoordinator) (id : Nat) : Prop :=
  coordinator.row id = (none, fun _ => none)

theorem Entries.elsewhere_of_gone {touches : Nat -> Prop}
    (entries : Entries touches before handoffs after) (issued : id ≤ before.nextRegistrationId)
    (gone : before.Gone id) : Elsewhere id before handoffs after := by
  induction entries with
  | silent same => exact elsewhere_of_ledger_eq same
  | entry handoff entry about => exact elsewhere_of_entry entry (entry.number_ne issued gone)
  | trans _ _ left right =>
    have first := left issued gone
    exact first.trans (right (issued.trans first.issued) (first.row.trans gone))

theorem elsewhere_applyTerminals (free : (before.row id).2 correlation = none)
    (terminals : List ObservedSendTerminal) :
    Elsewhere id before (applyTerminals correlation before terminals).1
      (applyTerminals correlation before terminals).2 := by
  apply Entries.elsewhere_of_ne
  apply entries_applyTerminals
  intro pending held
  exact number_ne_of_row free held

theorem row_of_not_pending (notPending : correlation ∉ before.pendingSends) :
    (before.row id).2 correlation = none := by
  have lookup : before.ledger.placed[correlation]? = none := not_mem_iff.mp notPending
  simp [row, Ledger.row, lookup]

theorem pending_of_find {entry : SendCorrelationKey × CoordinatedPendingSend}
    (found : before.pendingSends.toList.find? (fun entry => entry.2.registrationId = id) = some entry) :
    before.pendingSends[entry.1]? = some entry.2 ∧ entry.2.registrationId = id := by
  refine ⟨mem_toList_iff_getElem?_eq_some.mp (mem_of_find?_eq_some found), ?_⟩
  simpa using find?_some found

/-- A loss in one room does not affect a send of another room. -/
theorem not_mem_affected (wellFormed : before.WellFormed) {roomId : Option String}
    (waiting : forall registration, (before.row id).1 = some registration ->
      roomId.all (fun roomId => registration.key.roomId = roomId) = false)
    (placed : forall key pending, (before.row id).2 key = some pending ->
      roomId.all (fun roomId => pending.key.roomId = roomId) = false) :
    id ∉ before.affectedRegistrationIds roomId := by
  unfold affectedRegistrationIds
  rw [mem_mergeSort, mem_append, mem_map, mem_map]
  rintro (⟨⟨key, registration⟩, member, named⟩ | ⟨⟨key, pending⟩, member, named⟩)
  · rw [mem_filter] at member
    have held : before.registrations[key]? = some registration :=
      mem_toList_iff_getElem?_eq_some.mp member.1
    have sameKey : registration.registrationId = key := (wellFormed.waiting key registration held).1
    have here : (before.row id).1 = some registration := by
      rw [← named, sameKey]
      exact held
    simp_all
  · rw [mem_filter] at member
    have held : before.pendingSends[key]? = some pending :=
      mem_toList_iff_getElem?_eq_some.mp member.1
    have hasNumber : pending.registrationId = id := named
    have here : (before.row id).2 key = some pending := by
      simp [row, Ledger.row, show before.ledger.placed[key]? = some pending from held, hasNumber]
    have outside := placed key pending here
    simp_all

/-! ## Other transactions -/

/-- An active registration that keeps the room of a transaction. -/
def Waits (coordinator : SendCompletionCoordinator) (id : Nat) (correlation : SendCorrelationKey) : Prop :=
  ∃ registration, (coordinator.row id).1 = some registration ∧ registration.active = true ∧
    registration.key.roomId = correlation.roomId

structure Calm (id : Nat) (correlation : SendCorrelationKey) (before after : SendCompletionCoordinator) :
    Prop where
  unsettled : correlation ∉ before.settledSendTombstones -> correlation ∉ after.settledSendTombstones
  pending : after.pendingSends[correlation]? = before.pendingSends[correlation]?
  buffered : before.Waits id correlation ->
    after.unmatchedTerminals[correlation]? = before.unmatchedTerminals[correlation]?

/-- `Calm`, and the registration stays as it is. -/
structure Still (id : Nat) (correlation : SendCorrelationKey) (before after : SendCompletionCoordinator) :
    Prop extends Calm id correlation before after where
  registration : after.registrations[id]? = before.registrations[id]?

theorem Still.trans (left : Still id correlation before middle) (right : Still id correlation middle after) :
    Still id correlation before after where
  unsettled := fun fresh => right.unsettled (left.unsettled fresh)
  pending := right.pending.trans left.pending
  buffered := by
    intro waits
    have still : middle.Waits id correlation := by
      rcases waits with ⟨registration, held, kept⟩
      exact ⟨registration, left.registration.trans held, kept⟩
    rw [right.buffered still, left.buffered waits]
  registration := right.registration.trans left.registration

theorem still_refl : Still id correlation before before := ⟨⟨fun fresh => fresh, rfl, fun _ => rfl⟩, rfl⟩

theorem Waits.roomHasActiveRegistration (waits : coordinator.Waits id correlation) :
    coordinator.roomHasActiveRegistration correlation.roomId = true := by
  obtain ⟨registration, held, active, inRoom⟩ := waits
  have listed : (id, registration) ∈ coordinator.registrations.toList :=
    mem_toList_iff_getElem?_eq_some.mpr held
  rw [SendCompletionCoordinator.roomHasActiveRegistration, Bool.or_eq_true, any_eq_true]
  exact .inl ⟨(id, registration), listed, by simp [active, inRoom]⟩

/-- A purge spares the room of a waiting registration. -/
theorem still_purge (roomId : String) :
    Still id correlation coordinator (coordinator.purgeUnmatchedForInactiveRoom roomId) := by
  unfold purgeUnmatchedForInactiveRoom
  split
  · exact still_refl
  next inactive =>
  refine ⟨⟨fun fresh => fresh, rfl, ?_⟩, rfl⟩
  intro waits
  have otherRoom : correlation.roomId ≠ roomId := by
    rintro rfl
    exact inactive waits.roomHasActiveRegistration
  rw [getElem?_filter_key, if_pos (by simpa using otherRoom)]

theorem still_dropRegistration {other : Nat} (different : other ≠ id) (registration : CoordinatedPendingSend) :
    Still id correlation before (before.dropRegistration other registration) := by
  have dropped : Still id correlation before
      { before with registrations := before.registrations.erase other } :=
    ⟨⟨fun fresh => fresh, rfl, fun _ => rfl⟩, getElem?_erase_of_ne different⟩
  exact dropped.trans (still_purge _)

theorem mem_foldl_erase {keys : List SendCorrelationKey} {kept : OrdSet SendCorrelationKey}
    (member : correlation ∈ keys.foldl (fun kept key => kept.erase key) kept) : correlation ∈ kept := by
  induction keys generalizing kept with
  | nil => exact member
  | cons key rest ih => exact Std.ExtTreeSet.mem_of_mem_erase (ih member)

variable (different : other ≠ correlation)

include different in
theorem rememberSettled_unsettled (fresh : correlation ∉ before.settledSendTombstones) :
    correlation ∉ (before.rememberSettled other).settledSendTombstones := by
  unfold rememberSettled
  split
  · exact fresh
  intro member
  dsimp only at member
  have inserted := mem_foldl_erase member
  rw [Std.ExtTreeSet.mem_insert] at inserted
  rcases inserted with same | old
  · exact different (Std.LawfulEqOrd.eq_of_compare same)
  · exact fresh old

theorem rememberSettled_sends (other : SendCorrelationKey) :
    (coordinator.rememberSettled other).unmatchedTerminals = coordinator.unmatchedTerminals ∧
      (coordinator.rememberSettled other).pendingSends = coordinator.pendingSends := by
  unfold rememberSettled
  split <;> exact ⟨rfl, rfl⟩

include different in
theorem still_settlePending : Still id correlation before (before.settlePending other) where
  unsettled := fun fresh => rememberSettled_unsettled different fresh
  pending := by
    have settled : (before.settlePending other).pendingSends = before.pendingSends.erase other :=
      congrArg placed (ledger_settlePending other)
    rw [settled, getElem?_erase_of_ne different]
  buffered := fun _ => congrArg (fun buffer => buffer[correlation]?) (rememberSettled_sends other).1
  registration := congrArg (fun ledger => ledger.waiting[id]?) (ledger_settlePending other)

variable {send : CoordinatedPendingSend}

include different in
/-- Writing another pending send. -/
theorem still_writePending :
    Still id correlation before { before with pendingSends := before.pendingSends.insert other send } :=
  ⟨⟨fun fresh => fresh, getElem?_insert_of_ne different, fun _ => rfl⟩, rfl⟩

include different in
theorem still_moveToPending {number : Nat} (differentId : number ≠ id) :
    Still id correlation before (before.moveToPending number other send) :=
  ⟨⟨fun fresh => fresh, getElem?_insert_of_ne different, fun _ => getElem?_erase_of_ne different⟩,
    getElem?_erase_of_ne differentId⟩

variable {pending : CoordinatedPendingSend}

theorem still_retainProjection (eventId : String) :
    Still id correlation before (before.retainProjection other pending eventId) := by
  unfold retainProjection
  cases pending.projection with
  | none => exact still_refl
  | some projection =>
    dsimp only
    split
    · exact ⟨⟨fun fresh => fresh, rfl, fun _ => rfl⟩, rfl⟩
    · exact still_refl

include different in
theorem still_applySent (eventId : String) :
    Still id correlation before (before.applySent other pending eventId).2 := by
  have settled : Still id correlation before
      ((before.retainProjection other pending eventId).settlePending other) :=
    (still_retainProjection eventId).trans (still_settlePending different)
  have recorded : Still id correlation ((before.retainProjection other pending eventId).settlePending other)
      { (before.retainProjection other pending eventId).settlePending other with
        settledSendEventIds :=
          ((before.retainProjection other pending eventId).settlePending other).settledSendEventIds.insert
            other eventId } :=
    ⟨⟨fun fresh => fresh, rfl, fun _ => rfl⟩, rfl⟩
  exact settled.trans (recorded.trans (still_purge other.roomId))

include different in
theorem still_applyTerminal (terminal : ObservedSendTerminal) :
    Still id correlation before (before.applyTerminal other terminal).2 := by
  unfold applyTerminal
  cases before.pendingSends[other]? with
  | none => exact still_refl
  | some pending =>
    cases terminal with
    | sent eventId => exact still_applySent different eventId
    | sendError diagnostic =>
      dsimp only [applySendError]
      split
      · exact still_refl
      · exact still_writePending different
    | cancelled => exact (still_settlePending different).trans (still_purge other.roomId)

include different in
theorem still_applyTerminals (terminals : List ObservedSendTerminal) :
    Still id correlation before (applyTerminals other before terminals).2 := by
  induction terminals generalizing before with
  | nil => exact still_refl
  | cons terminal rest ih => exact (still_applyTerminal different terminal).trans ih

theorem still_bindRegistration {other : Nat} (differentId : other ≠ id)
    {sdkTransactionId : String} {handle : Option Nat}
    (different : forall registration, before.registrations[other]? = some registration ->
      (⟨registration.key.roomId, sdkTransactionId⟩ : SendCorrelationKey) ≠ correlation) :
    Still id correlation before (before.bindRegistration other sdkTransactionId handle).2 := by
  unfold bindRegistration
  cases held : before.registrations[other]? with
  | none => exact still_refl
  | some registration =>
    have otherTransaction := different registration held
    dsimp only
    split
    · exact still_dropRegistration differentId registration
    split
    · exact still_dropRegistration differentId registration
    · exact (still_moveToPending otherTransaction differentId).trans (still_applyTerminals otherTransaction _)

section Losses

variable (held : forall pending, before.pendingSends[correlation]? = some pending -> pending.registrationId = id)
include held

theorem still_reportLoss {other : Nat} (different : other ≠ id) :
    Still id correlation before (before.reportLoss other).2 := by
  unfold reportLoss
  split
  · split
    · exact still_refl
    · exact ⟨⟨fun fresh => fresh, rfl, fun _ => rfl⟩, getElem?_insert_of_ne different⟩
  · split
    · exact still_refl
    · next place pending found =>
      rcases pending_of_find found with ⟨placed, named⟩
      split
      · exact still_refl
      apply still_writePending
      rintro rfl
      exact different (named.symm.trans (held pending placed))

theorem still_reportLosses {others : List Nat} (different : id ∉ others) :
    Still id correlation before (reportLosses before others).2 := by
  induction others generalizing before with
  | nil => exact still_refl
  | cons other rest ih =>
    have still := still_reportLoss held (fun same : other = id => different (same ▸ mem_cons_self))
    apply still.trans
    apply ih
    · rw [still.pending]
      exact held
    · exact fun member => different (mem_cons_of_mem other member)

end Losses

include different in
theorem still_bufferTerminal
    (terminal : ObservedSendTerminal) : Still id correlation before (before.bufferTerminal other terminal) :=
  ⟨⟨fun fresh => fresh, rfl, fun _ => getElem?_insert_of_ne different⟩, rfl⟩

theorem still_reconcileCanonicalLocalEcho {roomId sdkTransactionId : String}
    (different : (⟨roomId, sdkTransactionId⟩ : SendCorrelationKey) ≠ correlation) :
    Still id correlation before (before.reconcileCanonicalLocalEcho roomId sdkTransactionId).2 := by
  unfold reconcileCanonicalLocalEcho reconcileLocalEcho
  dsimp only
  split
  · exact still_refl
  split
  · exact still_writePending different
  split
  · exact still_refl
  · exact still_writePending different

end SendCompletionCoordinator

end Koushi
