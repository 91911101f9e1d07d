import Koushi.Library.Run
import Koushi.Search.Rows

namespace Koushi

open Collections SearchRow SearchDocumentStore List Function

/-!
# The representation invariant of the store

`SearchRow.Valid` says what a row may look like.  Each row operation keeps it,
every store operation is a row operation, and so every store that is built from
the empty one has valid rows only.
-/

structure SearchRow.Valid (eventId : String) (row : SearchRow) : Prop where
  /-- A document is filed under its own id and holds no text. -/
  document : forall event, row.document = some event ->
    event.eventId = eventId ∧ event.body = none ∧ event.attachmentFilename = none
  applied : row.applied.isSome = true -> row.document.isSome = true
  /-- Edits wait only where there is no document. -/
  pending : row.pending.isSome = true -> row.document = none ∧ row.pending ≠ some []
  waiting : ∀ edit ∈ row.pending.getD [], edit.edit.targetEventId = eventId
  appliedLive : forall applied, row.applied = some applied -> applied.editEventId ∉ row.retired.getD []
  pendingLive : ∀ edit ∈ row.pending.getD [], edit.edit.editEventId ∉ row.retired.getD []
  retired : (row.retired.getD []).Nodup ∧ (row.retired.getD []).length ≤ RETIRED_EDITS_PER_ROW

namespace SearchRow

variable {eventId : String} {row : SearchRow}

theorem valid_empty : Valid eventId .empty := by
  constructor <;> simp [empty]

variable {editEventId : String}

theorem not_mem_of_isRetired (live : ¬row.isRetired editEventId = true) :
    editEventId ∉ row.retired.getD [] := by
  unfold isRetired at live
  cases found : row.retired <;> simp_all

/-! ## Edits -/

/-- An edit that is not retired may be absorbed. -/
theorem Valid.absorb (valid : row.Valid eventId) {pending : PendingEdit}
    (live : pending.edit.editEventId ∉ row.retired.getD []) : (row.absorb pending).Valid eventId := by
  unfold SearchRow.absorb
  cases found : row.document with
  | none => exact valid
  | some event =>
    dsimp only
    split
    · exact valid
    split
    · exact valid
    refine ⟨?_, fun _ => rfl, ?_, valid.waiting, ?_, valid.pendingLive, valid.retired⟩
    · intro edited same
      cases same
      exact valid.document event found
    · intro waits
      have absent := (valid.pending waits).1
      rw [found] at absent
      cases absent
    · intro applied same
      cases same
      exact live

theorem absorb_retired (pending : PendingEdit) : (row.absorb pending).retired = row.retired := by
  unfold absorb
  (repeat' split) <;> rfl

section

variable (valid : row.Valid eventId)
include valid

theorem Valid.foldl_absorb {waiting : List PendingEdit}
    (live : ∀ edit ∈ waiting, edit.edit.editEventId ∉ row.retired.getD []) :
    (waiting.foldl SearchRow.absorb row).Valid eventId := by
  induction waiting generalizing row with
  | nil => exact valid
  | cons edit rest ih =>
    refine ih (valid.absorb (live edit mem_cons_self)) ?_
    intro other member
    rw [absorb_retired]
    exact live other (mem_cons_of_mem edit member)

theorem Valid.upsertEdit {edit : SearchEdit} (target : edit.targetEventId = eventId) (canonical : Bool) :
    (row.upsertEdit edit canonical).Valid eventId := by
  unfold SearchRow.upsertEdit
  dsimp only
  split
  · exact valid
  next live =>
  have unretired := not_mem_of_isRetired live
  split
  · exact valid.absorb unretired
  next absent =>
  split
  · have noDocument : row.document = none := by simpa using absent
    refine ⟨valid.document, valid.applied, ?_, ?_, valid.appliedLive, ?_, valid.retired⟩
    · intro _
      exact ⟨noDocument, by simp⟩
    · intro other member
      rcases mem_append.mp member with before | new
      · exact valid.waiting other before
      · rw [mem_singleton.mp new]
        exact target
    · intro other member
      rcases mem_append.mp member with before | new
      · exact valid.pendingLive other before
      · rw [mem_singleton.mp new]
        exact unretired
  · exact valid

/-! ## Messages -/

/-- Handing the waiting edits to a row that has just been written. -/
theorem Valid.write_release {event : SearchableEvent}
    (own : event.eventId = eventId) (canonical : Bool) {edit : Option SearchEditKey}
    (live : ∀ key ∈ edit, key.editEventId ∉ row.retired.getD []) :
    ((row.write event canonical edit).release).Valid eventId := by
  have written : Valid eventId { row.write event canonical edit with pending := none } := by
    refine ⟨?_, fun _ => rfl, by simp, by simp, ?_, by simp, valid.retired⟩
    · intro stored same
      cases same
      exact ⟨own, rfl, rfl⟩
    · intro applied same
      cases edit with
      | none => exact valid.appliedLive applied same
      | some key =>
        cases same
        exact live key rfl
  unfold SearchRow.release
  have sameWaiting : (row.write event canonical edit).pending = row.pending := rfl
  rw [sameWaiting]
  cases found : row.pending with
  | none =>
    have unchanged : row.write event canonical edit =
        { row.write event canonical edit with pending := none } := by
      rw [← found]
      rfl
    rw [unchanged]
    exact written
  | some waiting =>
    refine written.foldl_absorb ?_
    intro other member
    refine valid.pendingLive other ?_
    rw [found]
    exact member

theorem Valid.upsertMessage {event : SearchableEvent}
    (own : event.eventId = eventId) (canonical : Bool) (edit : Option SearchEditKey) :
    (row.upsertMessage event canonical edit).Valid eventId := by
  unfold SearchRow.upsertMessage
  split
  · exact valid
  split
  · exact valid
  split
  · exact valid
  next unretired =>
  refine valid.write_release own canonical ?_
  intro key carried
  refine not_mem_of_isRetired ?_
  intro isRetired
  rw [Option.mem_def.mp carried] at unretired
  exact unretired isRetired

end

/-! ## Redactions -/

theorem pushRetired_bounded {retired : List String}
    (bounded : retired.Nodup ∧ retired.length ≤ RETIRED_EDITS_PER_ROW) :
    (pushRetired retired editEventId).Nodup ∧
      (pushRetired retired editEventId).length ≤ RETIRED_EDITS_PER_ROW := by
  unfold pushRetired
  split
  · exact bounded
  next fresh =>
  have nodup : (retired ++ [editEventId]).Nodup := by
    rw [← concat_eq_append]
    exact bounded.1.concat fresh
  dsimp only
  split
  · refine ⟨nodup.sublist (tail_sublist _), ?_⟩
    simp only [length_tail, length_append, length_singleton]
    omega
  · next fits => exact ⟨nodup, Nat.not_lt.mp fits⟩

/-- Whatever is retired now was retired before or is the edit just redacted. -/
theorem mem_pushRetired {retired : List String} {editEventId id : String}
    (member : id ∈ pushRetired retired editEventId) : id ∈ retired ∨ id = editEventId := by
  unfold pushRetired at member
  split at member
  · exact .inl member
  dsimp only at member
  have appended : id ∈ retired ++ [editEventId] := by
    split at member
    · exact mem_of_mem_tail member
    · exact member
  simpa using appended

theorem dropPending_getD : (row.dropPending editEventId).pending.getD [] =
      (row.pending.getD []).filter (fun pending => pending.edit.editEventId ≠ editEventId) := by
  unfold dropPending
  cases found : row.pending with
  | none => simp [found]
  | some waiting =>
    dsimp only
    split
    · next none => simpa using (isEmpty_iff.mp none).symm
    · rfl

theorem dropPending_rest (row : SearchRow) (editEventId : String) :
    (row.dropPending editEventId).document = row.document ∧
      (row.dropPending editEventId).applied = row.applied ∧
      (row.dropPending editEventId).retired = row.retired := by
  unfold dropPending
  split <;> exact ⟨rfl, rfl, rfl⟩

/-- No waiting edit is left as an empty list. -/
theorem dropPending_pending (waits : (row.dropPending editEventId).pending.isSome = true) :
    row.pending.isSome = true ∧ (row.dropPending editEventId).pending ≠ some [] := by
  unfold dropPending at waits ⊢
  cases found : row.pending with
  | none => simp [found] at waits
  | some waiting =>
    refine ⟨rfl, ?_⟩
    dsimp only
    split
    · simp
    next remains =>
    intro same
    rw [Option.some.injEq] at same
    exact remains (isEmpty_iff.mpr same)

theorem Valid.dropApplied (valid : row.Valid eventId) (editEventId : String) :
    (row.dropApplied editEventId).Valid eventId := by
  unfold SearchRow.dropApplied
  split
  · refine ⟨by simp, by simp, ?_, valid.waiting, by simp, valid.pendingLive, valid.retired⟩
    intro waits
    exact ⟨rfl, (valid.pending waits).2⟩
  · exact valid

theorem dropApplied_applied {applied : AppliedEdit}
    (held : (row.dropApplied editEventId).applied = some applied) : applied.editEventId ≠ editEventId := by
  unfold dropApplied at held
  split at held
  · cases held
  next other =>
  rw [held] at other
  simpa using other

theorem Valid.dropPending (valid : row.Valid eventId) (editEventId : String) :
    (row.dropPending editEventId).Valid eventId := by
  have rest := dropPending_rest row editEventId
  have subset : ∀ edit ∈ (row.dropPending editEventId).pending.getD [], edit ∈ row.pending.getD [] := by
    intro edit member
    rw [dropPending_getD] at member
    exact (mem_filter.mp member).1
  refine ⟨?_, ?_, ?_, ?_, ?_, ?_, ?_⟩
  · rw [rest.1]
    exact valid.document
  · rw [rest.1, rest.2.1]
    exact valid.applied
  · intro waits
    rw [rest.1]
    have waited := dropPending_pending waits
    exact ⟨(valid.pending waited.1).1, waited.2⟩
  · intro edit member
    exact valid.waiting edit (subset edit member)
  · rw [rest.2.1, rest.2.2]
    exact valid.appliedLive
  · intro edit member
    rw [rest.2.2]
    exact valid.pendingLive edit (subset edit member)
  · rw [rest.2.2]
    exact valid.retired

theorem rememberRetired_dropApplied : (row.rememberRetired editEventId).dropApplied editEventId =
      (row.dropApplied editEventId).rememberRetired editEventId := by
  have sameApplied : (row.rememberRetired editEventId).applied = row.applied := rfl
  unfold dropApplied
  rw [sameApplied]
  split <;> rfl

theorem rememberRetired_dropPending : (row.rememberRetired editEventId).dropPending editEventId =
      (row.dropPending editEventId).rememberRetired editEventId := by
  have samePending : (row.rememberRetired editEventId).pending = row.pending := rfl
  unfold dropPending
  rw [samePending]
  cases row.pending <;> rfl

/-- The edit may be taken out of the row before it goes on the retired list. -/
theorem retire_eq : row.retire editEventId =
      ((row.dropApplied editEventId).dropPending editEventId).rememberRetired editEventId := by
  rw [retire, rememberRetired_dropApplied, rememberRetired_dropPending]

theorem Valid.rememberRetired (valid : row.Valid eventId)
    (notApplied : forall applied, row.applied = some applied -> applied.editEventId ≠ editEventId)
    (notPending : ∀ edit ∈ row.pending.getD [], edit.edit.editEventId ≠ editEventId) :
    (row.rememberRetired editEventId).Valid eventId := by
  refine ⟨valid.document, valid.applied, valid.pending, valid.waiting, ?_, ?_,
    pushRetired_bounded valid.retired⟩
  · intro applied held member
    rcases mem_pushRetired member with before | redacted
    · exact valid.appliedLive applied held before
    · exact notApplied applied held redacted
  · intro edit waits member
    rcases mem_pushRetired member with before | redacted
    · exact valid.pendingLive edit waits before
    · exact notPending edit waits redacted

theorem Valid.retire (valid : row.Valid eventId) (editEventId : String) :
    (row.retire editEventId).Valid eventId := by
  rw [retire_eq]
  refine ((valid.dropApplied editEventId).dropPending editEventId).rememberRetired ?_ ?_
  · intro applied held
    rw [(dropPending_rest _ editEventId).2.1] at held
    exact dropApplied_applied held
  · intro edit waits
    rw [dropPending_getD] at waits
    simpa using (mem_filter.mp waits).2

end SearchRow

/-! ## The whole store -/

namespace SearchDocumentStore

def WellFormed (store : SearchDocumentStore) : Prop :=
  forall eventId, (store.row eventId).Valid eventId

variable {store : SearchDocumentStore}

theorem wellFormed_default : WellFormed default := by
  intro eventId
  exact valid_empty

section

variable (wellFormed : store.WellFormed)
include wellFormed

/-- A row operation that keeps its row valid keeps the store well formed. -/
theorem WellFormed.of_update {after : SearchDocumentStore}
    {target : String} {value : SearchRow} (updated : after.row = update store.row target value)
    (valid : value.Valid target) : after.WellFormed := by
  intro eventId
  rw [updated]
  by_cases same : eventId = target
  · rw [same, update_self]
    exact valid
  · rw [update_of_ne same]
    exact wellFormed eventId

/-- In a well-formed store the edits that wait for a message are its own. -/
theorem WellFormed.row_upsertMessage (event : SearchableEvent)
    (canonical : Bool) (edit : Option SearchEditKey) : (store.upsertMessage event canonical edit).row =
      update store.row event.eventId
        ((store.row event.eventId).upsertMessage event canonical edit) := by
  refine SearchDocumentStore.row_upsertMessage store canonical edit ?_
  intro pending found
  have waiting := (wellFormed event.eventId).waiting
  have sameRow : (store.row event.eventId).pending = some pending := found
  rw [sameRow] at waiting
  exact waiting

theorem WellFormed.upsertMessage (event : SearchableEvent)
    (canonical : Bool) (edit : Option SearchEditKey) :
    (store.upsertMessage event canonical edit).WellFormed :=
  wellFormed.of_update (wellFormed.row_upsertMessage event canonical edit)
    ((wellFormed event.eventId).upsertMessage rfl canonical edit)

theorem WellFormed.retireEdit (targetEventId editEventId : String) :
    (store.retireEdit targetEventId editEventId).WellFormed :=
  wellFormed.of_update (store.row_retireEdit targetEventId editEventId)
    ((wellFormed targetEventId).retire editEventId)

/-- Every affected row retires the edit, then the row of the event itself goes. -/
theorem WellFormed.redact (eventId : String) : (store.redact eventId).WellFormed := by
  have retired := foldlRecOn (motive := WellFormed) (store.affectedTargets eventId)
    (fun store target => store.retireEdit target eventId) wellFormed
    (fun before kept target _ => kept.retireEdit target eventId)
  exact retired.of_update (row_forget _ eventId) (valid_empty)

theorem WellFormed.apply (operation : SearchOperation) : (store.apply operation).WellFormed := by
  cases operation with
  | upsertMessage event canonical edit => exact wellFormed.upsertMessage event canonical edit
  | upsertEdit edit canonical =>
    exact wellFormed.of_update (store.row_upsertEdit edit canonical)
      ((wellFormed edit.targetEventId).upsertEdit rfl canonical)
  | redact eventId => exact wellFormed.redact eventId
  | retireEdit targetEventId editEventId => exact wellFormed.retireEdit targetEventId editEventId
  | clear => exact wellFormed_default

/-- No message text is resident, however much history the store has seen. -/
theorem WellFormed.residentBodyBytes : store.residentBodyBytes = 0 := by
  unfold SearchDocumentStore.residentBodyBytes
  rw [sum_eq_zero_iff]
  intro bytes member
  rcases mem_map.mp member with ⟨entry, listed, rfl⟩
  have found := Std.ExtTreeMap.mem_toList_iff_getElem?_eq_some.mp listed
  rw [((wellFormed entry.1).document entry.2 found).2.1]
  rfl

end

/-- Every store that a sequence of operations builds from the empty one is well
formed. -/
theorem run_wellFormed (operations : List SearchOperation) :
    (Machine.run SearchDocumentStore.apply default operations).WellFormed :=
  Machine.run_invariant WellFormed (fun _ operation wellFormed => wellFormed.apply operation)
    wellFormed_default

end SearchDocumentStore

end Koushi
