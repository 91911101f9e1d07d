import Koushi.Library.Quota
import Koushi.Composer.Document
import Koushi.Composer.Target

namespace Koushi

open Collections ComposerDraftRevision

/-!
# The composer draft store

The store keeps the drafts of all composers of one account.  Room composers and
thread composers have parallel tables: contents, revisions, revisions of the last
accepted clear, assistant markers, and a recency list of the revision-only
targets.  Thread tables have one inner map per room.

Every mutator is written here as the source has it, with the store passed in and
returned.  A mutator that can fail returns `Except`, and nothing changes when it
does.  `applyRoomDraft` and `applyThreadDraft` return a `Result` in the source
that is never an error, so here they only return whether the write was accepted.
-/

/-- The mark of a draft that an assistant staged. -/
structure AssistantDraftMarker where
  clientName : String
  revision : Nat
deriving DecidableEq, Repr

inductive PendingComposerSendKind where
  | plain
  | reply (inReplyToEventId : String)
deriving DecidableEq, Repr

inductive ComposerMode where
  | plain
  | reply (inReplyToEventId : String)
deriving DecidableEq, Repr

/-- The composer of a pane, as the user sees it. -/
structure ComposerState where
  acceptedSubmissionIds : List SubmissionId
  pendingSubmissionId : Option SubmissionId
  pendingTransactionId : Option String
  pendingSendKind : Option PendingComposerSendKind
  draftRevision : Nat
  lastAcceptedClearRevision : Nat
  draft : String
  document : ComposerDocument
  mode : ComposerMode
  assistantDraft : Option AssistantDraftMarker
deriving DecidableEq, Repr

namespace ComposerState

def default : ComposerState where
  acceptedSubmissionIds := []
  pendingSubmissionId := none
  pendingTransactionId := none
  pendingSendKind := none
  draftRevision := 0
  lastAcceptedClearRevision := 0
  draft := ""
  document := ComposerDocument.default
  mode := .plain
  assistantDraft := none

instance : Inhabited ComposerState := ⟨default⟩

end ComposerState

structure ComposerDraftStore where
  rooms : OrdMap String ComposerDocument
  threads : NestedMap String String ComposerDocument
  roomRevisions : OrdMap String Nat
  threadRevisions : NestedMap String String Nat
  roomLastAcceptedClearRevisions : OrdMap String Nat
  threadLastAcceptedClearRevisions : NestedMap String String Nat
  quiescentRoomLru : List String
  quiescentThreadLru : List (String × String)
  roomAssistantMarkers : OrdMap String AssistantDraftMarker
  threadAssistantMarkers : NestedMap String String AssistantDraftMarker
deriving DecidableEq

namespace ComposerDraftStore

def default : ComposerDraftStore := ⟨∅, ∅, ∅, ∅, ∅, ∅, [], [], ∅, ∅⟩

instance : Inhabited ComposerDraftStore := ⟨default⟩

/-! ## Reading -/

variable (store : ComposerDraftStore)

def roomRevision (roomId : String) : Nat :=
  store.roomRevisions[roomId]?.getD 0

variable (roomId rootEventId : String)

def threadRevision : Nat :=
  (store.threadRevisions.lookup roomId rootEventId).getD 0

def roomAssistantMarker (roomId : String) : Option AssistantDraftMarker :=
  if store.rooms.contains roomId then store.roomAssistantMarkers[roomId]? else none

def threadAssistantMarker : Option AssistantDraftMarker :=
  if (store.threads.lookup roomId rootEventId).isSome then
    store.threadAssistantMarkers.lookup roomId rootEventId
  else none

def composerForRoom (roomId : String) : ComposerState :=
  let composer := ComposerState.default
  let composer :=
    match store.rooms[roomId]? with
    | some document => { composer with document := document, draft := document.plainBody }
    | none => composer
  { composer with
    draftRevision := store.roomRevision roomId
    lastAcceptedClearRevision := store.roomLastAcceptedClearRevisions[roomId]?.getD 0
    assistantDraft := store.roomAssistantMarker roomId }

def composerForThread : ComposerState :=
  let composer := ComposerState.default
  let composer :=
    match store.threads.lookup roomId rootEventId with
    | some document => { composer with document := document, draft := document.plainBody }
    | none => composer
  { composer with
    draftRevision := store.threadRevision roomId rootEventId
    lastAcceptedClearRevision := (store.threadLastAcceptedClearRevisions.lookup roomId rootEventId).getD 0
    assistantDraft := store.threadAssistantMarker roomId rootEventId }

def targetIsEmpty : ComposerTarget -> Bool
  | .main roomId => !store.rooms.contains roomId
  | .thread roomId rootEventId => !(store.threads.lookup roomId rootEventId).isSome

/-! ## Writing a draft -/

def touchQuiescentRoom (roomId : String) : ComposerDraftStore :=
  { store with quiescentRoomLru := touchNewest roomId store.quiescentRoomLru }

def removeRoomFromLru (roomId : String) : ComposerDraftStore :=
  { store with quiescentRoomLru := dropKey roomId store.quiescentRoomLru }

def touchQuiescentThread : ComposerDraftStore :=
  { store with quiescentThreadLru := touchNewest (roomId, rootEventId) store.quiescentThreadLru }

def removeThreadFromLru : ComposerDraftStore :=
  { store with quiescentThreadLru := dropKey (roomId, rootEventId) store.quiescentThreadLru }

def applyRoomDraft (roomId : String) (document : ComposerDocument)
    (revision : Nat) : Bool × ComposerDraftStore :=
  if revision ≤ store.roomRevision roomId then (false, store)
  else
    let store := { store with roomRevisions := store.roomRevisions.insert roomId revision }
    if document.isEmpty then
      let store := { store with
        rooms := store.rooms.erase roomId
        roomAssistantMarkers := store.roomAssistantMarkers.erase roomId }
      (true, store.touchQuiescentRoom roomId)
    else
      let store := { store with rooms := store.rooms.insert roomId document }
      (true, store.removeRoomFromLru roomId)

def setRoomDraft (roomId : String) (document : ComposerDocument) : ComposerDraftStore :=
  match checkedSuccessor (store.roomRevision roomId) ComposerDraftRevision.ZERO with
  | .error _ => store
  | .ok revision => (store.applyRoomDraft roomId document revision).2

/-- Drop the marker of a thread; the flag says whether there was one. -/
def removeThreadAssistantMarker : Bool × ComposerDraftStore :=
  match store.threadAssistantMarkers[roomId]? with
  | none => (false, store)
  | some markers =>
    (markers.contains rootEventId,
      { store with
        threadAssistantMarkers := store.threadAssistantMarkers.removeAt roomId rootEventId })

def removeThreadContent : ComposerDraftStore :=
  let store := (store.removeThreadAssistantMarker roomId rootEventId).2
  { store with threads := store.threads.removeAt roomId rootEventId }

def applyThreadDraft (document : ComposerDocument) (revision : Nat) : Bool × ComposerDraftStore :=
  if revision ≤ store.threadRevision roomId rootEventId then (false, store)
  else
    let store := { store with
      threadRevisions := store.threadRevisions.insertAt roomId rootEventId revision }
    if document.isEmpty then
      let store := store.removeThreadContent roomId rootEventId
      (true, store.touchQuiescentThread roomId rootEventId)
    else
      let store := { store with threads := store.threads.insertAt roomId rootEventId document }
      (true, store.removeThreadFromLru roomId rootEventId)

def setThreadDraft (document : ComposerDocument) : ComposerDraftStore :=
  match checkedSuccessor (store.threadRevision roomId rootEventId)
      ComposerDraftRevision.ZERO with
  | .error _ => store
  | .ok revision => (store.applyThreadDraft roomId rootEventId document revision).2

/-- Stage an assistant's draft in an empty target, at the successor of its revision. -/
def stageAssistantDraft (target : ComposerTarget)
    (document : ComposerDocument) (clientName : String) : Option Nat × ComposerDraftStore :=
  if document.isEmpty || !store.targetIsEmpty target then (none, store)
  else
    let current :=
      match target with
      | .main roomId => store.roomRevision roomId
      | .thread roomId rootEventId => store.threadRevision roomId rootEventId
    match checkedSuccessor current ComposerDraftRevision.ZERO with
    | .error _ => (none, store)
    | .ok revision =>
      let marker : AssistantDraftMarker := { clientName := clientName, revision := revision }
      match target with
      | .main roomId =>
        let (accepted, store) := store.applyRoomDraft roomId document revision
        if !accepted then (none, store)
        else (some revision, { store with
          roomAssistantMarkers := store.roomAssistantMarkers.insert roomId marker })
      | .thread roomId rootEventId =>
        let (accepted, store) := store.applyThreadDraft roomId rootEventId document revision
        if !accepted then (none, store)
        else (some revision, { store with
          threadAssistantMarkers := store.threadAssistantMarkers.insertAt roomId rootEventId marker })

def dismissAssistantMarker : ComposerTarget -> Bool × ComposerDraftStore
  | .main roomId =>
    (store.roomAssistantMarkers.contains roomId,
      { store with roomAssistantMarkers := store.roomAssistantMarkers.erase roomId })
  | .thread roomId rootEventId => store.removeThreadAssistantMarker roomId rootEventId

/-! ## Accepted submissions -/

/-- List or unlist a room after its revision moved, by whether it has content. -/
def relistRoom (roomId : String) : ComposerDraftStore :=
  if store.rooms.contains roomId then store.removeRoomFromLru roomId
  else store.touchQuiescentRoom roomId

def relistThread : ComposerDraftStore :=
  if (store.threads.lookup roomId rootEventId).isSome then store.removeThreadFromLru roomId rootEventId
  else store.touchQuiescentThread roomId rootEventId

/-- The store of an accepted room submission.  A draft that is not newer than the
submission is cleared; a newer one is kept at the new revision. -/
def advanceRoomTo (roomId : String) (submittedRevision revision : Nat) : ComposerDraftStore :=
  let cleared :=
    if store.roomRevision roomId ≤ submittedRevision then
      { store with
        rooms := store.rooms.erase roomId
        roomAssistantMarkers := store.roomAssistantMarkers.erase roomId
        roomLastAcceptedClearRevisions := store.roomLastAcceptedClearRevisions.insert roomId revision }
    else store
  relistRoom { cleared with roomRevisions := cleared.roomRevisions.insert roomId revision } roomId

def advanceRoomRevision (roomId : String) (submittedRevision : Nat) :
    Except ComposerDraftRevisionError (Nat × ComposerDraftStore) :=
  match checkedSuccessor (store.roomRevision roomId) submittedRevision with
  | .error failure => .error failure
  | .ok revision => .ok (revision, store.advanceRoomTo roomId submittedRevision revision)

/-- Settle a room's revision without clearing its content. -/
def settleRoomRevision (roomId : String) (submittedRevision : Nat) :
    Except ComposerDraftRevisionError (Nat × ComposerDraftStore) :=
  match checkedSuccessor (store.roomRevision roomId) submittedRevision with
  | .error failure => .error failure
  | .ok revision =>
    .ok (revision,
      relistRoom { store with roomRevisions := store.roomRevisions.insert roomId revision } roomId)

def advanceThreadTo (submittedRevision revision : Nat) : ComposerDraftStore :=
  let cleared :=
    if store.threadRevision roomId rootEventId ≤ submittedRevision then
      let emptied := store.removeThreadContent roomId rootEventId
      { emptied with
        threadLastAcceptedClearRevisions :=
          emptied.threadLastAcceptedClearRevisions.insertAt roomId rootEventId revision }
    else store
  relistThread
    { cleared with threadRevisions := cleared.threadRevisions.insertAt roomId rootEventId revision }
    roomId rootEventId

def advanceThreadRevision
    (submittedRevision : Nat) : Except ComposerDraftRevisionError (Nat × ComposerDraftStore) :=
  match checkedSuccessor (store.threadRevision roomId rootEventId)
      submittedRevision with
  | .error failure => .error failure
  | .ok revision => .ok (revision, store.advanceThreadTo roomId rootEventId submittedRevision revision)

def settleThreadRevision
    (submittedRevision : Nat) : Except ComposerDraftRevisionError (Nat × ComposerDraftStore) :=
  match checkedSuccessor (store.threadRevision roomId rootEventId)
      submittedRevision with
  | .error failure => .error failure
  | .ok revision =>
    .ok (revision,
      relistThread
        { store with
          threadRevisions := store.threadRevisions.insertAt roomId rootEventId revision }
        roomId rootEventId)

/-! ## Removing targets -/

def clearRoomDraft (roomId : String) : ComposerDraftStore :=
  let store := { store with
    rooms := store.rooms.erase roomId
    roomAssistantMarkers := store.roomAssistantMarkers.erase roomId
    roomRevisions := store.roomRevisions.erase roomId
    roomLastAcceptedClearRevisions := store.roomLastAcceptedClearRevisions.erase roomId }
  store.removeRoomFromLru roomId

def clearThreadDraft : ComposerDraftStore :=
  let store := store.removeThreadContent roomId rootEventId
  let store := { store with
    threadRevisions := store.threadRevisions.removeAt roomId rootEventId
    threadLastAcceptedClearRevisions :=
      store.threadLastAcceptedClearRevisions.removeAt roomId rootEventId }
  store.removeThreadFromLru roomId rootEventId

def retainRooms (roomIds : OrdSet String) : ComposerDraftStore where
  rooms := store.rooms.filter (fun roomId _ => roomIds.contains roomId)
  threads := store.threads.retainOuter roomIds.contains
  roomRevisions := store.roomRevisions.filter (fun roomId _ => roomIds.contains roomId)
  threadRevisions := store.threadRevisions.retainOuter roomIds.contains
  roomLastAcceptedClearRevisions :=
    store.roomLastAcceptedClearRevisions.filter (fun roomId _ => roomIds.contains roomId)
  threadLastAcceptedClearRevisions :=
    store.threadLastAcceptedClearRevisions.retainOuter roomIds.contains
  quiescentRoomLru := store.quiescentRoomLru.filter (fun roomId => roomIds.contains roomId)
  quiescentThreadLru := store.quiescentThreadLru.filter (fun target => roomIds.contains target.1)
  roomAssistantMarkers := store.roomAssistantMarkers.filter (fun roomId _ => roomIds.contains roomId)
  threadAssistantMarkers := store.threadAssistantMarkers.retainOuter roomIds.contains

/-! ## Lifecycle reconciliation -/

def MAX_LIVE_COMPOSER_ROOM_TOMBSTONES : Nat := 128

def MAX_LIVE_COMPOSER_THREAD_TOMBSTONES : Nat := 256

variable (protection : ComposerDraftProtection)

/-- Rooms with a revision and no content that the recency list should hold. -/
def roomIsListable (roomId : String) : Bool :=
  store.roomRevisions.contains roomId && !store.rooms.contains roomId &&
    !targetIsTouchProtected protection (.main roomId)

def threadIsListable (target : String × String) : Bool :=
  (store.threadRevisions.lookup target.1 target.2).isSome &&
    !(store.threads.lookup target.1 target.2).isSome &&
    !targetIsTouchProtected protection (.thread target.1 target.2)

/-- Relist the room tombstones: stale entries go, missing ones come last in id order. -/
def relistRoomTombstones : ComposerDraftStore :=
  let listed := store.quiescentRoomLru.filter (store.roomIsListable protection)
  let missing := store.roomRevisions.keys.filter (fun roomId =>
    !store.rooms.contains roomId && !decide (roomId ∈ listed) &&
      !targetIsTouchProtected protection (.main roomId))
  { store with quiescentRoomLru := listed ++ missing }

def relistThreadTombstones : ComposerDraftStore :=
  let listed := store.quiescentThreadLru.filter (store.threadIsListable protection)
  let missing := store.threadRevisions.pairs.filter (fun target =>
    !(store.threads.lookup target.1 target.2).isSome && !decide (target ∈ listed) &&
      !targetIsTouchProtected protection (.thread target.1 target.2))
  { store with quiescentThreadLru := listed ++ missing }

/-- Drop the tombstone of a room that the recency list lost. -/
def forgetRoomTombstone (roomId : String) (store : ComposerDraftStore) : ComposerDraftStore :=
  if store.rooms.contains roomId then store
  else
    { store with
      roomRevisions := store.roomRevisions.erase roomId
      roomLastAcceptedClearRevisions := store.roomLastAcceptedClearRevisions.erase roomId }

def forgetThreadTombstone (target : String × String) (store : ComposerDraftStore) : ComposerDraftStore :=
  if (store.threads.lookup target.1 target.2).isSome then store
  else
    { store with
      threadRevisions := store.threadRevisions.removeAt target.1 target.2
      threadLastAcceptedClearRevisions :=
        store.threadLastAcceptedClearRevisions.removeAt target.1 target.2 }

def evictRoomTombstones : ComposerDraftStore :=
  let (lru, store) :=
    evictWhile (fun roomId => targetIsProtected protection (.main roomId))
      MAX_LIVE_COMPOSER_ROOM_TOMBSTONES forgetRoomTombstone store.quiescentRoomLru.length
      store.quiescentRoomLru store
  { store with quiescentRoomLru := lru }

def evictThreadTombstones : ComposerDraftStore :=
  let (lru, store) :=
    evictWhile (fun target => targetIsProtected protection (.thread target.1 target.2))
      MAX_LIVE_COMPOSER_THREAD_TOMBSTONES forgetThreadTombstone store.quiescentThreadLru.length
      store.quiescentThreadLru store
  { store with quiescentThreadLru := lru }

def reconcileLifecycle : ComposerDraftStore :=
  let store := store.relistRoomTombstones protection
  let store := store.relistThreadTombstones protection
  let store := store.evictRoomTombstones protection
  store.evictThreadTombstones protection

end ComposerDraftStore

end Koushi
