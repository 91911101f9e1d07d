import Koushi.Library.NestedMap

namespace Koushi

open Collections

/-!
# The attachment store of search

The store keeps attachment metadata for the Files view and nothing of a message's
text.  Messages, edits and redactions reach it from the timeline and from a
history crawl, in any order.  Each row remembers which edit it holds, so that an
older observation cannot undo a newer edit; edits that arrive before their
message wait, and the ids of a few redacted edits are kept so that a replay of
one is refused.

Texts that the source wraps as sensitive are plain strings here.  The query side
of the Files view is outside the model.
-/

inductive AttachmentKind where
  | image
  | video
  | audio
  | file
  | sticker
deriving DecidableEq, Repr

structure AttachmentDocument where
  kind : AttachmentKind
  msgtype : String
  mimetype : Option String
  size : Option Nat
  sourceMxc : String
  thumbnailMxc : Option String
  filename : String
  threadRoot : Option String
  encrypted : Bool
  encryptionVersion : Option String
  width : Option Nat
  height : Option Nat
  isEdited : Bool
deriving DecidableEq, Repr

structure SearchableEvent where
  roomId : String
  eventId : String
  sender : String
  timestampMs : Nat
  body : Option String
  attachmentFilename : Option String
  attachment : Option AttachmentDocument
deriving DecidableEq, Repr

structure SearchEdit where
  roomId : String
  editEventId : String
  targetEventId : String
  sender : String
  timestampMs : Nat
  body : Option String
  attachmentFilename : Option String
  attachment : Option AttachmentDocument
deriving DecidableEq, Repr

/-- Identity of the edit whose content a message carries. -/
structure SearchEditKey where
  editEventId : String
  timestampMs : Nat
deriving DecidableEq, Repr

/-- The edit whose content a row currently holds. -/
structure AppliedEdit where
  timestampMs : Nat
  editEventId : String
  canonical : Bool
deriving DecidableEq, Repr

namespace AppliedEdit

def fromKey (key : SearchEditKey) (canonical : Bool) : AppliedEdit where
  timestampMs := key.timestampMs
  editEventId := key.editEventId
  canonical := canonical

/-- Time decides, then the edit's id, then whether the timeline reported it. -/
def orderKey (applied : AppliedEdit) : Nat ×ₗ (String ×ₗ Bool) :=
  toLex (applied.timestampMs, toLex (applied.editEventId, applied.canonical))

end AppliedEdit

/-- An edit waiting for its original message. -/
structure PendingEdit where
  edit : SearchEdit
  canonical : Bool
deriving DecidableEq, Repr

/-- The order entry that an edit would leave in its row. -/
def PendingEdit.incoming (pending : PendingEdit) : AppliedEdit where
  timestampMs := pending.edit.timestampMs
  editEventId := pending.edit.editEventId
  canonical := pending.canonical

def RETIRED_EDITS_PER_ROW : Nat := 8

structure SearchDocumentStore where
  documents : OrdMap String SearchableEvent
  appliedEdits : OrdMap String AppliedEdit
  retiredEdits : OrdMap String (List String)
  pendingEdits : OrdMap String (List PendingEdit)
deriving DecidableEq

variable (event : SearchableEvent)

/-- Drop everything the Files view does not need. -/
def retainAttachmentMetadata : SearchableEvent :=
  let attachment :=
    match event.attachment, event.attachmentFilename with
    | some attachment, some filename =>
      if attachment.filename.isEmpty then some { attachment with filename := filename }
      else some attachment
    | attachment, _ => attachment
  { event with attachment := attachment, body := none, attachmentFilename := none }

/-- The attachment that an edit leaves, before it is renamed and marked. -/
def replacedAttachment (edit : SearchEdit) : Option AttachmentDocument :=
  match edit.attachment, edit.attachmentFilename with
  | some replacement, _ => some replacement
  -- A text replacement no longer carries media.
  | none, none => none
  | none, some _ => event.attachment

def markEdited (edit : SearchEdit) (attachment : AttachmentDocument) : AttachmentDocument :=
  { attachment with
    filename := edit.attachmentFilename.getD attachment.filename
    isEdited := true }

/-- Apply an edit to the attachment metadata it can affect. -/
def applyEdit (edit : SearchEdit) : SearchableEvent :=
  { event with attachment := (replacedAttachment event edit).map (markEdited edit) }

namespace SearchDocumentStore

def default : SearchDocumentStore := ⟨∅, ∅, ∅, ∅⟩

instance : Inhabited SearchDocumentStore := ⟨default⟩

def clear (_ : SearchDocumentStore) : SearchDocumentStore := default

variable (store : SearchDocumentStore)

/-! ## Readers -/

def affectsAttachment (target : String) : Bool :=
  store.documents.contains target || store.pendingEdits.contains target ||
    store.retiredEdits.contains target

def isRetiredEdit (targetEventId editEventId : String) : Bool :=
  store.retiredEdits[targetEventId]?.any (fun retired => retired.any (fun id => id = editEventId))

/-- Bytes of message text this store currently retains. -/
def residentBodyBytes : Nat :=
  (store.documents.toList.map (fun entry => (entry.2.body.map String.utf8ByteSize).getD 0)).sum

/-! ## Messages and edits -/

/-- Matrix replacements must preserve sender, room and root event type. -/
def refusesEdit (edit : SearchEdit) : Bool :=
  event.sender ≠ edit.sender || event.roomId ≠ edit.roomId ||
    event.attachment.any (fun attachment => attachment.kind = .sticker)

/-- Whether the row of a target already holds the same edit or a newer one. -/
def holdsAtLeast (targetEventId : String) (incoming : AppliedEdit) : Bool :=
  store.appliedEdits[targetEventId]?.any (fun applied => decide (incoming.orderKey ≤ applied.orderKey))

/-- Apply one edit unless the row already holds the same or a newer one. -/
def applyEditIfNewer (pending : PendingEdit) : SearchDocumentStore :=
  let target := pending.edit.targetEventId
  match store.documents[target]? with
  | none => store
  | some event =>
    if refusesEdit event pending.edit then store
    else if store.holdsAtLeast target pending.incoming then store
    else
      { store with
        documents := store.documents.insert target (applyEdit event pending.edit)
        appliedEdits := store.appliedEdits.insert target pending.incoming }

/-- Whether an observed message says nothing that the row does not already hold. -/
def upsertIsStale (eventId : String) (canonical : Bool) (edit : Option SearchEditKey) : Bool :=
  match edit, store.appliedEdits[eventId]? with
  | none, some _ => true
  | some key, some applied => decide ((AppliedEdit.fromKey key canonical).orderKey ≤ applied.orderKey)
  | _, none => false

/-- Write the row of a message, with the edit that produced its content. -/
def writeRow (event : SearchableEvent) (canonical : Bool) (edit : Option SearchEditKey) :
    SearchDocumentStore :=
  { store with
    documents := store.documents.insert event.eventId (retainAttachmentMetadata event)
    appliedEdits :=
      match edit with
      | some key => store.appliedEdits.insert event.eventId (AppliedEdit.fromKey key canonical)
      | none => store.appliedEdits }

/-- Hand the edits that waited for a message to its row. -/
def releasePending (eventId : String) : SearchDocumentStore :=
  match store.pendingEdits[eventId]? with
  | none => store
  | some pending =>
    pending.foldl applyEditIfNewer { store with pendingEdits := store.pendingEdits.erase eventId }

def upsertMessage (event : SearchableEvent) (canonical : Bool) (edit : Option SearchEditKey) :
    SearchDocumentStore :=
  if event.attachment.isNone && !store.affectsAttachment event.eventId then store
  else if store.upsertIsStale event.eventId canonical edit then store
  else if edit.any (fun key => store.isRetiredEdit event.eventId key.editEventId) then store
  else (store.writeRow event canonical edit).releasePending event.eventId

/-- Edits that can matter for a row that is not there yet. -/
def keepsPending (edit : SearchEdit) : Bool :=
  edit.attachment.isSome || edit.attachmentFilename.isSome ||
    store.pendingEdits.contains edit.targetEventId || store.retiredEdits.contains edit.targetEventId

def upsertEdit (edit : SearchEdit) (canonical : Bool) : SearchDocumentStore :=
  let edit := { edit with body := none }
  if store.isRetiredEdit edit.targetEventId edit.editEventId then store
  else if store.documents.contains edit.targetEventId then store.applyEditIfNewer ⟨edit, canonical⟩
  else if store.keepsPending edit then
    { store with
      pendingEdits := store.pendingEdits.insert edit.targetEventId
        (store.pendingEdits[edit.targetEventId]?.getD [] ++ [⟨edit, canonical⟩]) }
  else store

/-! ## Redactions -/

/-- Remember a redacted edit; the oldest one makes room. -/
def pushRetired (retired : List String) (editEventId : String) : List String :=
  if editEventId ∈ retired then retired
  else
    let retired := retired ++ [editEventId]
    if RETIRED_EDITS_PER_ROW < retired.length then retired.tail else retired

def rememberRetired (targetEventId editEventId : String) : SearchDocumentStore :=
  { store with
    retiredEdits := store.retiredEdits.insert targetEventId
      (pushRetired (store.retiredEdits[targetEventId]?.getD []) editEventId) }

/-- A row that holds the redacted edit is dropped with it. -/
def dropApplied (targetEventId editEventId : String) : SearchDocumentStore :=
  if store.appliedEdits[targetEventId]?.any (fun applied => applied.editEventId = editEventId) then
    { store with
      documents := store.documents.erase targetEventId
      appliedEdits := store.appliedEdits.erase targetEventId }
  else store

def dropPending (targetEventId editEventId : String) : SearchDocumentStore :=
  match store.pendingEdits[targetEventId]? with
  | none => store
  | some pending =>
    let remaining := pending.filter (fun pending => pending.edit.editEventId ≠ editEventId)
    { store with
      pendingEdits :=
        if remaining.isEmpty then store.pendingEdits.erase targetEventId
        else store.pendingEdits.insert targetEventId remaining }

/-- Retire one explicitly redacted edit, preserving other surviving versions. -/
def retireEdit (targetEventId editEventId : String) : SearchDocumentStore :=
  ((store.rememberRetired targetEventId editEventId).dropApplied targetEventId editEventId).dropPending
    targetEventId editEventId

/-- The rows that hold an edit, then those it waits for. -/
def affectedTargets (eventId : String) : List String :=
  (store.appliedEdits.toList.filter (fun entry => entry.2.editEventId = eventId)).map Prod.fst ++
    (store.pendingEdits.toList.filter (fun entry =>
      entry.2.any (fun pending => pending.edit.editEventId = eventId))).map Prod.fst

/-- Drop everything about one message. -/
def forget (eventId : String) : SearchDocumentStore where
  documents := store.documents.erase eventId
  appliedEdits := store.appliedEdits.erase eventId
  retiredEdits := store.retiredEdits.erase eventId
  pendingEdits := store.pendingEdits.erase eventId

/-- Remove a message, or retire a redacted edit. -/
def redact (eventId : String) : SearchDocumentStore :=
  ((store.affectedTargets eventId).foldl (fun store target => store.retireEdit target eventId)
    store).forget eventId

end SearchDocumentStore

/-! ## Operations -/

inductive SearchOperation where
  | upsertMessage (event : SearchableEvent) (canonical : Bool) (edit : Option SearchEditKey)
  | upsertEdit (edit : SearchEdit) (canonical : Bool)
  | redact (eventId : String)
  | retireEdit (targetEventId editEventId : String)
  | clear
deriving DecidableEq, Repr

def SearchDocumentStore.apply (store : SearchDocumentStore) : SearchOperation -> SearchDocumentStore
  | .upsertMessage event canonical edit => store.upsertMessage event canonical edit
  | .upsertEdit edit canonical => store.upsertEdit edit canonical
  | .redact eventId => store.redact eventId
  | .retireEdit targetEventId editEventId => store.retireEdit targetEventId editEventId
  | .clear => store.clear

end Koushi
