import Koushi.Composer.Document
import Koushi.Composer.Target

namespace Koushi

open Collections

/-!
# Scheduled sends, staged uploads and media galleries

Three stores sit beside the composer drafts and are keyed by room as they are:
the messages scheduled for later, the attachments staged in a composer, and the
galleries of a room's media.  Each has a reader for one room that sorts what it
returns, a few mutators, and `retainRooms`, which drops every entry whose room is
not in a set.

A mutator that can find nothing to change returns `none`.  The source also
returns the changed item; no caller modelled here uses more of it than its room.
-/

attribute [local instance] lexOrd

/-! ## Scheduled sends -/

inductive ScheduledSendHandle where
  | «local»
  | server (delayId : String)
deriving DecidableEq, Repr

inductive ScheduledSendCapability where
  | unknown
  | serverDelayedEvents
  | localFallback
deriving DecidableEq, Repr

structure ScheduledSendItem where
  scheduledId : String
  roomId : String
  threadRootEventId : Option String
  body : String
  sendAtMs : Nat
  handle : ScheduledSendHandle
  isDispatching : Bool
deriving DecidableEq, Repr

/-- The shared scheduled-send ordering: `sendAtMs`, then `scheduledId`. -/
def scheduledSendOrder (left right : ScheduledSendItem) : Bool :=
  (compare (left.sendAtMs, left.scheduledId) (right.sendAtMs, right.scheduledId)).isLE

structure ScheduledSendStore where
  capability : ScheduledSendCapability
  items : OrdMap String ScheduledSendItem
deriving DecidableEq

namespace ScheduledSendStore

def default : ScheduledSendStore := ⟨.unknown, ∅⟩

instance : Inhabited ScheduledSendStore := ⟨default⟩

variable (store : ScheduledSendStore)

def itemsForRoom (roomId : String) : List ScheduledSendItem :=
  (store.items.values.filter (fun item => item.roomId = roomId)).insertionSort
    (fun left right => scheduledSendOrder left right = true)

def insert (store : ScheduledSendStore) (item : ScheduledSendItem) : ScheduledSendStore :=
  { store with items := store.items.insert item.scheduledId item }

def remove (scheduledId : String) : Option (ScheduledSendItem × ScheduledSendStore) :=
  store.items[scheduledId]?.map (fun item => (item, { store with items := store.items.erase scheduledId }))

/-- Rewrite an item in place. -/
def replace (scheduledId : String) (item : ScheduledSendItem) : ScheduledSendItem × ScheduledSendStore :=
  (item, { store with items := store.items.insert scheduledId item })

def reschedule (scheduledId body : String) (sendAtMs : Nat)
    (handle : ScheduledSendHandle) : Option (ScheduledSendItem × ScheduledSendStore) :=
  store.items[scheduledId]?.map (fun item => store.replace scheduledId { item with
    body := body
    sendAtMs := sendAtMs
    handle := handle
    isDispatching := false })

def startLocalDispatch (scheduledId : String) : Option (ScheduledSendItem × ScheduledSendStore) :=
  match store.items[scheduledId]? with
  | none => none
  | some item =>
    if item.handle = .local then some (store.replace scheduledId { item with isDispatching := true })
    else none

def retryLocalDispatch (scheduledId : String) (retryAtMs : Nat) :
    Option (ScheduledSendItem × ScheduledSendStore) :=
  match store.items[scheduledId]? with
  | none => none
  | some item =>
    if item.handle = .local then
      some (store.replace scheduledId { item with isDispatching := false, sendAtMs := retryAtMs })
    else none

def retainRooms (roomIds : OrdSet String) : ScheduledSendStore :=
  { store with items := store.items.filter (fun _ item => roomIds.contains item.roomId) }

end ScheduledSendStore

/-! ## Staged uploads -/

inductive StagedUploadKind where
  | image (width height : Option Nat)
  | file
deriving DecidableEq, Repr

inductive ImageUploadCompressionMode where
  | always
  | ask
  | never
deriving DecidableEq, Repr

inductive StagedUploadCompressionChoice where
  | notApplicable
  | ask
  | original
  | compressed (mode : ImageUploadCompressionMode)
deriving DecidableEq, Repr

inductive StagedUploadResizeChoice where
  | original
  | half
  | quarter
  | eighth
deriving DecidableEq, Repr

inductive StagedUploadFormatChoice where
  | keep
  | png
  | jpeg
  | webp
deriving DecidableEq, Repr

inductive PreparedUploadFormat where
  | original
  | png
  | jpeg
  | webp
deriving DecidableEq, Repr

inductive MediaPreparationFailureKind where
  | empty
  | unsupported
  | decode
  | encode
  | missingPreparedBytes
deriving DecidableEq, Repr

/-- The two independent axes that identify one prepared output. -/
structure StagedUploadOutputSelection where
  resize : StagedUploadResizeChoice
  format : StagedUploadFormatChoice
deriving DecidableEq, Repr

structure PreparedUploadVariant where
  variantId : String
  resize : StagedUploadResizeChoice
  formatChoice : StagedUploadFormatChoice
  filename : String
  mimeType : String
  byteCount : Nat
  width : Option Nat
  height : Option Nat
  format : PreparedUploadFormat
  savingsPercent : Int
  metadataStripped : Bool
  thumbnailRefreshed : Bool
deriving DecidableEq, Repr

inductive StagedUploadPreparation where
  | preparing
  | ready (variants : List PreparedUploadVariant) (selected : StagedUploadOutputSelection)
      (pending : Option StagedUploadOutputSelection) (generation : Nat)
  | failed (failureKind : MediaPreparationFailureKind) (canUseOriginal : Bool)
deriving DecidableEq, Repr

structure StagedUploadItem where
  stagedId : String
  roomId : String
  position : Nat
  filename : String
  mimeType : String
  byteCount : Nat
  kind : StagedUploadKind
  caption : Option ComposerDocument
  compressionChoice : StagedUploadCompressionChoice
  preparation : StagedUploadPreparation
deriving DecidableEq, Repr

/-- The largest value of the 64-bit counters. -/
def U64_MAX : Nat := 2 ^ 64 - 1

structure UploadStagingStore where
  items : OrdMap (ComposerTarget × String) StagedUploadItem
deriving DecidableEq

namespace UploadStagingStore

def default : UploadStagingStore := ⟨∅⟩

instance : Inhabited UploadStagingStore := ⟨default⟩

variable (store : UploadStagingStore) (target : ComposerTarget)

def itemsForTarget : List StagedUploadItem :=
  ((store.items.toList.filter (fun entry => entry.1.1 = target)).map Prod.snd).insertionSort
    (fun left right =>
      (compare (left.position, left.stagedId) (right.position, right.stagedId)).isLE = true)

def itemsForRoom (roomId : String) : List StagedUploadItem :=
  store.itemsForTarget (.main roomId)

def replaceTargetItems (items : List StagedUploadItem) : UploadStagingStore :=
  let others := store.items.filter (fun key _ => key.1 ≠ target)
  let admitted := items.filter (fun item => item.roomId = target.roomId)
  ⟨admitted.foldl (fun items item => items.insert (target, item.stagedId) item) others⟩

/-- Rewrite one staged item in place. -/
def replace (stagedId : String) (item : StagedUploadItem) : UploadStagingStore :=
  ⟨store.items.insert (target, stagedId) item⟩

def updateCaption (stagedId : String) (caption : Option ComposerDocument) : Option UploadStagingStore :=
  store.items[(target, stagedId)]?.map (fun item =>
    store.replace target stagedId { item with caption := caption })

def updateCompressionChoice (stagedId : String)
    (compressionChoice : StagedUploadCompressionChoice) : Option UploadStagingStore :=
  store.items[(target, stagedId)]?.map (fun item =>
    store.replace target stagedId { item with compressionChoice := compressionChoice })

/-- Choose one output by its resize and format.  A prepared pair is adopted at
once; another one becomes pending under a new generation. -/
def selectOutput (stagedId : String)
    (selection : StagedUploadOutputSelection) : Option UploadStagingStore :=
  match store.items[(target, stagedId)]? with
  | none => none
  | some item =>
    match item.preparation with
    | .preparing => none
    | .failed _ _ => none
    | .ready variants _ _ generation =>
      let isChosen := fun (variant : PreparedUploadVariant) =>
        decide (variant.resize = selection.resize ∧ variant.formatChoice = selection.format)
      match variants.find? isChosen with
      | some prepared =>
        some (store.replace target stagedId { item with
          filename := prepared.filename
          mimeType := prepared.mimeType
          byteCount := prepared.byteCount
          kind := .image prepared.width prepared.height
          preparation := .ready variants selection none generation })
      | none =>
        -- The counter saturates.
        some (store.replace target stagedId { item with
          preparation := .ready variants selection (some selection) (min (generation + 1) U64_MAX) })

/-- Drop the items of a target; the flag says whether there were any. -/
def clearTarget : Bool × UploadStagingStore :=
  let kept := store.items.filter (fun key _ => key.1 ≠ target)
  (kept.size != store.items.size, ⟨kept⟩)

def clearThreadTargetsForRoom (roomId : String) : UploadStagingStore :=
  ⟨store.items.filter (fun key _ =>
    match key.1 with
    | .main _ => true
    | .thread targetRoomId _ => targetRoomId ≠ roomId)⟩

def retainRooms (roomIds : OrdSet String) : UploadStagingStore :=
  ⟨store.items.filter (fun key _ => roomIds.contains key.1.roomId)⟩

end UploadStagingStore

/-! ## Media galleries -/

structure TimelineMediaGalleryItem where
  eventId : String
  roomId : String
  timestampMs : Nat
deriving DecidableEq, Repr

/-- Newest first; items of one time are ordered by their event. -/
def mediaGalleryOrder (left right : TimelineMediaGalleryItem) : Bool :=
  (compare (right.timestampMs, left.eventId) (left.timestampMs, right.eventId)).isLE

structure MediaGalleryStore where
  rooms : OrdMap String (List TimelineMediaGalleryItem)
deriving DecidableEq

namespace MediaGalleryStore

def default : MediaGalleryStore := ⟨∅⟩

instance : Inhabited MediaGalleryStore := ⟨default⟩

def itemsForRoom (store : MediaGalleryStore) (roomId : String) : List TimelineMediaGalleryItem :=
  (store.rooms[roomId]?.getD []).insertionSort (fun left right => mediaGalleryOrder left right = true)

def replaceRoomItems (store : MediaGalleryStore) (roomId : String)
    (items : List TimelineMediaGalleryItem) : MediaGalleryStore :=
  let items := (items.filter (fun item => item.roomId = roomId)).insertionSort
    (fun left right => mediaGalleryOrder left right = true)
  if items.isEmpty then ⟨store.rooms.erase roomId⟩ else ⟨store.rooms.insert roomId items⟩

def retainRooms (store : MediaGalleryStore) (roomIds : OrdSet String) : MediaGalleryStore :=
  ⟨store.rooms.filter (fun roomId _ => roomIds.contains roomId)⟩

end MediaGalleryStore

end Koushi
