import Koushi.Composer.DraftStore

namespace Koushi

open Collections Std.ExtTreeSet

attribute [local instance] lexOrd

/-!
# Persisting and loading drafts

`persistedProjection` writes the part of a store that survives a restart.  Content
is truncated to the persisted limit and always kept.  Tombstones are ordered: the
recency list first, then the unlisted ones in id order.  Tombstones of active or
leased targets are kept in a separate group, outside the quota.

`fromPersistedProjection` validates such a projection and builds a store from it.
It appends the protected group to the order and applies the quota to the result,
so a tombstone that the writer protected can still be dropped by the loader.

The room half and the thread half of both functions differ only in their keys.
The shared parts are written once, over the type of keys.
-/

structure ComposerDraftPersistenceEntry where
  content : Option ComposerDocument
  revision : Nat
  lastAcceptedClearRevision : Nat
  assistant : Option AssistantDraftMarker
deriving DecidableEq, Repr

structure ComposerDraftPersistenceProjection where
  rooms : OrdMap String ComposerDraftPersistenceEntry
  threads : NestedMap String String ComposerDraftPersistenceEntry
  quiescentRoomOrder : List String
  quiescentThreadOrder : List (String × String)
  protectedEmptyRooms : List String
  protectedEmptyThreads : List (String × String)
deriving DecidableEq

inductive ComposerDraftPersistenceImportError where
  | invalidProjection
deriving DecidableEq, Repr

def MAX_PERSISTED_COMPOSER_DRAFT_BYTES : Nat := 16 * 1024

def MAX_PERSISTED_COMPOSER_DRAFT_ROOM_COUNT : Nat := 128

def MAX_PERSISTED_COMPOSER_DRAFT_THREAD_COUNT : Nat := 256

def retainNewestEligible {κ : Type} (items : List κ) (maximum : Nat) (isProtected : κ -> Bool) : List κ :=
  (evictWhile isProtected maximum (fun _ (nothing : Unit) => nothing) items.length items ()).1

/-! ## The writer -/

section Lane

variable {κ : Type} [Ord κ] [Std.TransOrd κ] [Std.LawfulEqOrd κ] [DecidableEq κ]

/-- Append the eligible keys that are not listed yet.  The source keeps the listed
keys in a second set; here the list itself is asked. -/
def pushUnseen (eligible : κ -> Bool) (order keys : List κ) : List κ :=
  keys.foldl (fun order key => if eligible key && !decide (key ∈ order) then order ++ [key] else order) order

/-- The tombstones of one kind of target, oldest first. -/
def quiescentOrder (all : OrdSet κ) (hasContent : κ -> Bool) (touchProtected storePending : OrdSet κ)
    (lru : List κ) (maximum : Nat) : List κ :=
  let listed := pushUnseen
    (fun key => all.contains key && !hasContent key && !touchProtected.contains key) [] lru
  let order := pushUnseen
    (fun key => !hasContent key && !touchProtected.contains key) listed all.toList
  retainNewestEligible order maximum storePending.contains

/-- The protected targets without content, in id order. -/
def protectedEmpty (hasContent : κ -> Bool) (touchProtected : OrdSet κ) : List κ :=
  touchProtected.toList.filter (fun key => !hasContent key)

/-- The targets that get an entry, in id order. -/
def retainedKeys (contentKeys order guarded : List κ) : List κ :=
  (ofList (contentKeys ++ order ++ guarded) : OrdSet κ).toList

end Lane

def mainRoomOf : ComposerTarget -> Option String
  | .main roomId => some roomId
  | .thread _ _ => none

def threadOf : ComposerTarget -> Option (String × String)
  | .main _ => none
  | .thread roomId rootEventId => some (roomId, rootEventId)

namespace ComposerDraftProtection

/-- The targets of one kind among the active and leased ones. -/
def touchProtectedKeys {κ : Type} [Ord κ] (protection : ComposerDraftProtection)
    (keyOf : ComposerTarget -> Option κ) : OrdSet κ :=
  ofList ((protection.active.toList ++ protection.leased.toList).filterMap keyOf)

def storePendingKeys {κ : Type} [Ord κ] (protection : ComposerDraftProtection)
    (keyOf : ComposerTarget -> Option κ) : OrdSet κ :=
  ofList (protection.storePending.toList.filterMap keyOf)

end ComposerDraftProtection

namespace ComposerDraftStore

variable (store : ComposerDraftStore)

def roomHasContent (roomId : String) : Bool :=
  store.rooms[roomId]?.any (fun content => !content.isEmpty)

def threadHasContent (target : String × String) : Bool :=
  (store.threads.lookup target.1 target.2).any (fun content => !content.isEmpty)

def roomEntry (roomId : String) : ComposerDraftPersistenceEntry where
  content := (store.rooms[roomId]?.filter (fun content => !content.isEmpty)).map
    (fun content => content.truncatedToPlainBytes MAX_PERSISTED_COMPOSER_DRAFT_BYTES)
  revision := store.roomRevision roomId
  lastAcceptedClearRevision := store.roomLastAcceptedClearRevisions[roomId]?.getD 0
  assistant := store.roomAssistantMarker roomId

def threadEntry (target : String × String) : ComposerDraftPersistenceEntry where
  content := ((store.threads.lookup target.1 target.2).filter (fun content => !content.isEmpty)).map
    (fun content => content.truncatedToPlainBytes MAX_PERSISTED_COMPOSER_DRAFT_BYTES)
  revision := store.threadRevision target.1 target.2
  lastAcceptedClearRevision := (store.threadLastAcceptedClearRevisions.lookup target.1 target.2).getD 0
  assistant := store.threadAssistantMarker target.1 target.2

variable (protection : ComposerDraftProtection)

/-- Every room the projection has to consider. -/
def allRoomIds : OrdSet String :=
  ofList (store.rooms.keys ++ store.roomRevisions.keys ++
    store.roomLastAcceptedClearRevisions.keys ++ (protection.touchProtectedKeys mainRoomOf).toList ++
    (protection.storePendingKeys mainRoomOf).toList)

def allThreadTargets : OrdSet (String × String) :=
  ofList (store.threads.pairs ++ store.threadRevisions.pairs ++
    store.threadLastAcceptedClearRevisions.pairs ++ (protection.touchProtectedKeys threadOf).toList ++
    (protection.storePendingKeys threadOf).toList)

def persistedRoomOrder : List String :=
  quiescentOrder (store.allRoomIds protection) store.roomHasContent
    (protection.touchProtectedKeys mainRoomOf) (protection.storePendingKeys mainRoomOf)
    store.quiescentRoomLru MAX_PERSISTED_COMPOSER_DRAFT_ROOM_COUNT

def persistedThreadOrder : List (String × String) :=
  quiescentOrder (store.allThreadTargets protection) store.threadHasContent
    (protection.touchProtectedKeys threadOf) (protection.storePendingKeys threadOf)
    store.quiescentThreadLru MAX_PERSISTED_COMPOSER_DRAFT_THREAD_COUNT

def persistedProjection : ComposerDraftPersistenceProjection :=
  let quiescentRoomOrder := store.persistedRoomOrder protection
  let protectedEmptyRooms := protectedEmpty store.roomHasContent (protection.touchProtectedKeys mainRoomOf)
  let quiescentThreadOrder := store.persistedThreadOrder protection
  let protectedEmptyThreads := protectedEmpty store.threadHasContent (protection.touchProtectedKeys threadOf)
  { rooms := OrdMap.ofKeys
      (retainedKeys (store.rooms.keys.filter store.roomHasContent) quiescentRoomOrder protectedEmptyRooms)
      store.roomEntry
    threads := NestedMap.ofPairs
      (retainedKeys (store.threads.pairs.filter store.threadHasContent) quiescentThreadOrder
        protectedEmptyThreads)
      store.threadEntry
    quiescentRoomOrder := quiescentRoomOrder
    quiescentThreadOrder := quiescentThreadOrder
    protectedEmptyRooms := protectedEmptyRooms
    protectedEmptyThreads := protectedEmptyThreads }

end ComposerDraftStore

/-! ## The loader -/

namespace ComposerDraftPersistenceEntry

/-- An entry the loader refuses: a clear after the revision, or an empty document. -/
def isInvalid (entry : ComposerDraftPersistenceEntry) : Bool :=
  decide (entry.revision < entry.lastAcceptedClearRevision) ||
    entry.content.any ComposerDocument.isEmpty

end ComposerDraftPersistenceEntry

section Lane

variable {κ : Type} [Ord κ] [Std.TransOrd κ] [Std.LawfulEqOrd κ] [DecidableEq κ]

/-- The order and the protected group must split the empty entries without repetition. -/
def laneIsInvalid (order guarded : List κ) (emptyKeys : OrdSet κ) : Bool :=
  let quiescent : OrdSet κ := ofList order
  let guardedSet : OrdSet κ := ofList guarded
  decide (quiescent.size ≠ order.length) || decide (guardedSet.size ≠ guarded.length) ||
    !(quiescent ∩ guardedSet).isEmpty || decide (quiescent ∪ guardedSet ≠ emptyKeys)

/-- Whether the loader retains the tombstone of a key. -/
def isRetained (listing : List κ) (key : κ) : Bool :=
  decide (key ∈ listing)

/-- The order of the loaded tombstones. -/
def loadedOrder (order guarded : List κ) (maximum : Nat) : List κ :=
  retainNewest maximum
    (order ++ guarded.insertionSort (fun left right => (compare left right).isLE = true))

end Lane

variable (projection : ComposerDraftPersistenceProjection)

def emptyRoomsOf : OrdSet String :=
  ofList ((projection.rooms.toList.filter (fun room =>
    !room.2.isInvalid && room.2.content.isNone)).map Prod.fst)

def emptyThreadsOf : OrdSet (String × String) :=
  ofList (projection.threads.pairs.filter (fun target =>
    (projection.threads.lookup target.1 target.2).any (fun entry => entry.content.isNone)))

def validatePersistedProjection : Except ComposerDraftPersistenceImportError Unit :=
  if projection.rooms.toList.any (fun room => room.2.isInvalid) then .error .invalidProjection
  else if laneIsInvalid projection.quiescentRoomOrder projection.protectedEmptyRooms
      (emptyRoomsOf projection) then .error .invalidProjection
  else if projection.threads.toList.any (fun room =>
      room.2.isEmpty || room.2.toList.any (fun thread => thread.2.isInvalid)) then
    .error .invalidProjection
  else if laneIsInvalid projection.quiescentThreadOrder projection.protectedEmptyThreads
      (emptyThreadsOf projection) then .error .invalidProjection
  else .ok ()

variable (entry : ComposerDraftPersistenceEntry)

/-- An entry is loaded when it has content or its tombstone is within the quota. -/
def loadsEntry (retained : Bool) : Bool :=
  entry.content.isSome || retained

def loadedContent : Option ComposerDocument :=
  entry.content.map (fun content => content.truncatedToPlainBytes MAX_PERSISTED_COMPOSER_DRAFT_BYTES)

/-- A marker is loaded only with its content. -/
def loadedMarker : Option AssistantDraftMarker :=
  if entry.content.isSome then entry.assistant else none

def loadedRevision (retained : Bool) : Option Nat :=
  if loadsEntry entry retained then some entry.revision else none

def loadedClear (retained : Bool) : Option Nat :=
  if loadsEntry entry retained && decide (entry.lastAcceptedClearRevision ≠ 0) then
    some entry.lastAcceptedClearRevision
  else none

namespace ComposerDraftStore

/-- Build the store of a projection that passed validation. -/
def ofProjection : ComposerDraftStore :=
  let roomOrder := loadedOrder projection.quiescentRoomOrder projection.protectedEmptyRooms
    MAX_PERSISTED_COMPOSER_DRAFT_ROOM_COUNT
  let threadOrder := loadedOrder projection.quiescentThreadOrder projection.protectedEmptyThreads
    MAX_PERSISTED_COMPOSER_DRAFT_THREAD_COUNT
  { rooms := projection.rooms.filterMap (fun _ entry => loadedContent entry)
    threads := projection.threads.filterMapInner (fun _ _ entry => loadedContent entry)
    roomRevisions := projection.rooms.filterMap (fun roomId entry =>
      loadedRevision entry (isRetained roomOrder roomId))
    threadRevisions := projection.threads.filterMapInner (fun roomId rootEventId entry =>
      loadedRevision entry (isRetained threadOrder (roomId, rootEventId)))
    roomLastAcceptedClearRevisions := projection.rooms.filterMap (fun roomId entry =>
      loadedClear entry (isRetained roomOrder roomId))
    threadLastAcceptedClearRevisions := projection.threads.filterMapInner (fun roomId rootEventId entry =>
      loadedClear entry (isRetained threadOrder (roomId, rootEventId)))
    quiescentRoomLru := roomOrder
    quiescentThreadLru := threadOrder
    roomAssistantMarkers := projection.rooms.filterMap (fun _ entry => loadedMarker entry)
    threadAssistantMarkers := projection.threads.filterMapInner (fun _ _ entry => loadedMarker entry) }

def fromPersistedProjection : Except ComposerDraftPersistenceImportError ComposerDraftStore := do
  validatePersistedProjection projection
  return ofProjection projection

end ComposerDraftStore

end Koushi
