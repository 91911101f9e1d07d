import Koushi.Search.DocumentStore

namespace Koushi

open Collections Std Function ExtTreeMap

/-!
# The store row by row

The four maps of the store are read together, one row per event id.  Every
operation touches the row of one target, so it is a function on rows: the lemmas
`row_*` say which one.  A redaction touches the rows that hold the redacted edit,
one `retire` each, and then empties the row of the redacted event.
-/

/-- What the store has about one event id. -/
@[ext] structure SearchRow where
  document : Option SearchableEvent
  applied : Option AppliedEdit
  retired : Option (List String)
  pending : Option (List PendingEdit)
deriving DecidableEq, Repr

def SearchDocumentStore.row (store : SearchDocumentStore) (eventId : String) : SearchRow where
  document := store.documents[eventId]?
  applied := store.appliedEdits[eventId]?
  retired := store.retiredEdits[eventId]?
  pending := store.pendingEdits[eventId]?

namespace SearchRow

def empty : SearchRow := ⟨none, none, none, none⟩

variable (row : SearchRow)

def affectsAttachment : Bool := row.document.isSome || row.pending.isSome || row.retired.isSome

def isRetired (editEventId : String) : Bool :=
  row.retired.any (fun retired => retired.any (fun id => id = editEventId))

def holdsAtLeast (incoming : AppliedEdit) : Bool :=
  row.applied.any (fun applied => decide (incoming.orderKey ≤ applied.orderKey))

/-- Apply one edit unless the row already holds the same or a newer one. -/
def absorb (pending : PendingEdit) : SearchRow :=
  match row.document with
  | none => row
  | some event =>
    if SearchDocumentStore.refusesEdit event pending.edit then row
    else if row.holdsAtLeast pending.incoming then row
    else { row with document := some (applyEdit event pending.edit), applied := some pending.incoming }

def upsertIsStale (canonical : Bool) (edit : Option SearchEditKey) : Bool :=
  match edit, row.applied with
  | none, some _ => true
  | some key, some applied => decide ((AppliedEdit.fromKey key canonical).orderKey ≤ applied.orderKey)
  | _, none => false

def write (event : SearchableEvent) (canonical : Bool) (edit : Option SearchEditKey) : SearchRow :=
  { row with
    document := some (retainAttachmentMetadata event)
    applied :=
      match edit with
      | some key => some (AppliedEdit.fromKey key canonical)
      | none => row.applied }

def release : SearchRow :=
  match row.pending with
  | none => row
  | some pending => pending.foldl absorb { row with pending := none }

def upsertMessage (event : SearchableEvent) (canonical : Bool) (edit : Option SearchEditKey) : SearchRow :=
  if event.attachment.isNone && !row.affectsAttachment then row
  else if row.upsertIsStale canonical edit then row
  else if edit.any (fun key => row.isRetired key.editEventId) then row
  else (row.write event canonical edit).release

def keepsPending (edit : SearchEdit) : Bool :=
  edit.attachment.isSome || edit.attachmentFilename.isSome || row.pending.isSome || row.retired.isSome

def upsertEdit (edit : SearchEdit) (canonical : Bool) : SearchRow :=
  let edit := { edit with body := none }
  if row.isRetired edit.editEventId then row
  else if row.document.isSome then row.absorb ⟨edit, canonical⟩
  else if row.keepsPending edit then
    { row with pending := some (row.pending.getD [] ++ [⟨edit, canonical⟩]) }
  else row

def rememberRetired (editEventId : String) : SearchRow :=
  { row with retired := some (SearchDocumentStore.pushRetired (row.retired.getD []) editEventId) }

def dropApplied (editEventId : String) : SearchRow :=
  if row.applied.any (fun applied => applied.editEventId = editEventId) then
    { row with document := none, applied := none }
  else row

def dropPending (editEventId : String) : SearchRow :=
  match row.pending with
  | none => row
  | some pending =>
    let remaining := pending.filter (fun pending => pending.edit.editEventId ≠ editEventId)
    { row with pending := if remaining.isEmpty then none else some remaining }

def retire (editEventId : String) : SearchRow :=
  ((row.rememberRetired editEventId).dropApplied editEventId).dropPending editEventId

end SearchRow

/-! ## Operations as row operations -/

namespace SearchDocumentStore

variable (store : SearchDocumentStore)

theorem row_default (eventId : String) : default.row eventId = .empty := by
  simp [row, default, SearchRow.empty]

/-- An operation that touches one row. -/
theorem row_eq_update {store after : SearchDocumentStore} {target : String} {value : SearchRow}
    (here : after.row target = value)
    (elsewhere : forall other, target ≠ other -> after.row other = store.row other) :
    after.row = update store.row target value := by
  funext other
  by_cases same : other = target
  · rw [same, here, update_self]
  · rw [elsewhere other (Ne.symm same), update_of_ne same]

theorem row_applyEditIfNewer (pending : PendingEdit) : (store.applyEditIfNewer pending).row =
      update store.row pending.edit.targetEventId
        ((store.row pending.edit.targetEventId).absorb pending) := by
  apply row_eq_update
  · unfold applyEditIfNewer SearchRow.absorb
    have held : (store.row pending.edit.targetEventId).holdsAtLeast pending.incoming =
        store.holdsAtLeast pending.edit.targetEventId pending.incoming := rfl
    have shown : (store.row pending.edit.targetEventId).document =
        store.documents[pending.edit.targetEventId]? := rfl
    dsimp only
    rw [held, shown]
    cases found : store.documents[pending.edit.targetEventId]? with
    | none => rfl
    | some event =>
      dsimp only
      split
      · rfl
      split
      · rfl
      · simp [row]
  · intro other apart
    unfold applyEditIfNewer
    dsimp only
    (repeat' split) <;> simp [row, getElem?_insert, apart]

/-- Edits that all wait for one row are handed to that row. -/
theorem row_foldl_applyEditIfNewer {target : String} (pending : List PendingEdit)
    (waiting : ∀ edit ∈ pending, edit.edit.targetEventId = target) :
    (pending.foldl applyEditIfNewer store).row =
      update store.row target (pending.foldl SearchRow.absorb (store.row target)) := by
  induction pending generalizing store with
  | nil => simp
  | cons edit rest ih =>
    have sameTarget := waiting edit List.mem_cons_self
    have later := ih (store.applyEditIfNewer edit)
      (fun other member => waiting other (List.mem_cons_of_mem edit member))
    rw [List.foldl_cons, later, row_applyEditIfNewer, sameTarget, update_idem,
      update_self]
    rfl

theorem row_writeRow (event : SearchableEvent) (canonical : Bool) (edit : Option SearchEditKey) :
    (store.writeRow event canonical edit).row =
      update store.row event.eventId ((store.row event.eventId).write event canonical edit) := by
  apply row_eq_update
  · cases edit <;> simp [row, writeRow, SearchRow.write]
  · intro other apart
    cases edit <;> simp [row, writeRow, getElem?_insert, apart]

theorem row_releasePending {eventId : String}
    (waiting : forall pending, store.pendingEdits[eventId]? = some pending ->
      ∀ edit ∈ pending, edit.edit.targetEventId = eventId) : (store.releasePending eventId).row =
      update store.row eventId (store.row eventId).release := by
  unfold releasePending SearchRow.release
  cases found : store.pendingEdits[eventId]? with
  | none => simp [row, found]
  | some pending =>
    have erased : ({ store with pendingEdits := store.pendingEdits.erase eventId } :
        SearchDocumentStore).row =
          update store.row eventId { store.row eventId with pending := none } := by
      apply row_eq_update
      · simp [row]
      · intro other apart
        simp [row, getElem?_erase, apart]
    have sameRow : (store.row eventId).pending = some pending := found
    rw [row_foldl_applyEditIfNewer _ pending (waiting pending found), erased, update_idem,
      update_self, sameRow]

/-- The row that a message writes; every waiting edit waits for it. -/
theorem row_upsertMessage {event : SearchableEvent} (canonical : Bool) (edit : Option SearchEditKey)
    (waiting : forall pending, store.pendingEdits[event.eventId]? = some pending ->
      ∀ edit ∈ pending, edit.edit.targetEventId = event.eventId) :
    (store.upsertMessage event canonical edit).row = update store.row event.eventId
        ((store.row event.eventId).upsertMessage event canonical edit) := by
  have affects : (store.row event.eventId).affectsAttachment = store.affectsAttachment event.eventId := by
    simp only [SearchRow.affectsAttachment, affectsAttachment, row,
      contains_eq_isSome_getElem?]
  have stale : (store.row event.eventId).upsertIsStale canonical edit =
      store.upsertIsStale event.eventId canonical edit := rfl
  have retired : (fun key : SearchEditKey => (store.row event.eventId).isRetired key.editEventId) =
      fun key => store.isRetiredEdit event.eventId key.editEventId := rfl
  unfold upsertMessage SearchRow.upsertMessage
  rw [affects, stale, retired]
  split
  · exact (update_eq_self _ _).symm
  split
  · exact (update_eq_self _ _).symm
  split
  · exact (update_eq_self _ _).symm
  · rw [row_releasePending (store.writeRow event canonical edit) waiting, row_writeRow, update_idem, update_self]

theorem row_upsertEdit (edit : SearchEdit) (canonical : Bool) : (store.upsertEdit edit canonical).row =
      update store.row edit.targetEventId
        ((store.row edit.targetEventId).upsertEdit edit canonical) := by
  have retired : (store.row edit.targetEventId).isRetired edit.editEventId =
      store.isRetiredEdit edit.targetEventId edit.editEventId := rfl
  have present : (store.row edit.targetEventId).document.isSome =
      store.documents.contains edit.targetEventId := by
    simp only [row, contains_eq_isSome_getElem?]
  have keeps : (store.row edit.targetEventId).keepsPending { edit with body := none } =
      store.keepsPending { edit with body := none } := by
    simp only [SearchRow.keepsPending, keepsPending, row, contains_eq_isSome_getElem?]
  unfold upsertEdit SearchRow.upsertEdit
  dsimp only
  rw [retired, present, keeps]
  split
  · exact (update_eq_self _ _).symm
  split
  · exact row_applyEditIfNewer store ⟨{ edit with body := none }, canonical⟩
  split
  · apply row_eq_update
    · simp [row]
    · intro other apart
      simp [row, getElem?_insert, apart]
  · exact (update_eq_self _ _).symm

variable (targetEventId editEventId : String)

theorem row_rememberRetired : (store.rememberRetired targetEventId editEventId).row =
      update store.row targetEventId
        ((store.row targetEventId).rememberRetired editEventId) := by
  apply row_eq_update
  · simp [row, rememberRetired, SearchRow.rememberRetired]
  · intro other apart
    simp [row, rememberRetired, getElem?_insert, apart]

theorem row_dropApplied : (store.dropApplied targetEventId editEventId).row =
      update store.row targetEventId ((store.row targetEventId).dropApplied editEventId) := by
  have shown : (store.row targetEventId).applied = store.appliedEdits[targetEventId]? := rfl
  apply row_eq_update
  · unfold dropApplied SearchRow.dropApplied
    rw [shown]
    split
    · simp [row]
    · rfl
  · intro other apart
    unfold dropApplied
    split
    · simp [row, getElem?_erase, apart]
    · rfl

theorem row_dropPending : (store.dropPending targetEventId editEventId).row =
      update store.row targetEventId ((store.row targetEventId).dropPending editEventId) := by
  have shown : (store.row targetEventId).pending = store.pendingEdits[targetEventId]? := rfl
  apply row_eq_update
  · unfold dropPending SearchRow.dropPending
    rw [shown]
    cases found : store.pendingEdits[targetEventId]? with
    | none => rfl
    | some pending =>
      dsimp only
      split <;> simp [row]
  · intro other apart
    unfold dropPending
    dsimp only
    (repeat' split) <;> simp [row, getElem?_insert, getElem?_erase, apart]

theorem row_retireEdit : (store.retireEdit targetEventId editEventId).row =
      update store.row targetEventId ((store.row targetEventId).retire editEventId) := by
  unfold retireEdit SearchRow.retire
  rw [row_dropPending, row_dropApplied, row_rememberRetired]
  simp only [update_idem, update_self]

theorem row_forget (eventId : String) :
    (store.forget eventId).row = update store.row eventId .empty := by
  apply row_eq_update
  · simp [row, forget, SearchRow.empty]
  · intro other apart
    simp [row, forget, getElem?_erase, apart]

end SearchDocumentStore

end Koushi
