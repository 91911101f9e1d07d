import Koushi.Library.Run
import Koushi.Composer.DraftLoading

namespace Koushi

open Collections Relation.ReflTransGen NestedMap ComposerDraftRevision Option

attribute [local instance] lexOrd

/-!
# The representation invariant of the draft store

An operation is one call of a public mutator, or a restart: the store is
persisted under some protection and loaded again.  A restart whose projection is
refused leaves the old store in place.

Every operation is a sequence of slot steps on each of the two families, which may
remove only the targets that `Removes` names.  Coherence of both families, and
that no room keeps an empty thread table, then hold after every run.
-/

inductive ComposerDraftOperation where
  | stageAssistantDraft (target : ComposerTarget) (document : ComposerDocument) (clientName : String)
  | dismissAssistantMarker (target : ComposerTarget)
  | setRoomDraft (roomId : String) (document : ComposerDocument)
  | applyRoomDraft (roomId : String) (document : ComposerDocument) (revision : Nat)
  | advanceRoomRevision (roomId : String) (submittedRevision : Nat)
  | settleRoomRevision (roomId : String) (submittedRevision : Nat)
  | clearRoomDraft (roomId : String)
  | setThreadDraft (roomId rootEventId : String) (document : ComposerDocument)
  | applyThreadDraft (roomId rootEventId : String) (document : ComposerDocument) (revision : Nat)
  | advanceThreadRevision (roomId rootEventId : String) (submittedRevision : Nat)
  | settleThreadRevision (roomId rootEventId : String) (submittedRevision : Nat)
  | clearThreadDraft (roomId rootEventId : String)
  | reconcileLifecycle (protection : ComposerDraftProtection)
  | retainRooms (roomIds : OrdSet String)
  | restart (protection : ComposerDraftProtection)

namespace ComposerDraftStore

variable (store : ComposerDraftStore)

/-- The store a fallible mutator leaves: the old one when it failed. -/
def orKeep {ε : Type} : Except ε (Nat × ComposerDraftStore) -> ComposerDraftStore
  | .error _ => store
  | .ok (_, next) => next

def restart (protection : ComposerDraftProtection) : ComposerDraftStore :=
  match fromPersistedProjection (store.persistedProjection protection) with
  | .error _ => store
  | .ok loaded => loaded

def perform : ComposerDraftOperation -> ComposerDraftStore
  | .stageAssistantDraft target document clientName => (store.stageAssistantDraft target document clientName).2
  | .dismissAssistantMarker target => (store.dismissAssistantMarker target).2
  | .setRoomDraft roomId document => store.setRoomDraft roomId document
  | .applyRoomDraft roomId document revision => (store.applyRoomDraft roomId document revision).2
  | .advanceRoomRevision roomId submittedRevision =>
    store.orKeep (store.advanceRoomRevision roomId submittedRevision)
  | .settleRoomRevision roomId submittedRevision =>
    store.orKeep (store.settleRoomRevision roomId submittedRevision)
  | .clearRoomDraft roomId => store.clearRoomDraft roomId
  | .setThreadDraft roomId rootEventId document => store.setThreadDraft roomId rootEventId document
  | .applyThreadDraft roomId rootEventId document revision =>
    (store.applyThreadDraft roomId rootEventId document revision).2
  | .advanceThreadRevision roomId rootEventId submittedRevision =>
    store.orKeep (store.advanceThreadRevision roomId rootEventId submittedRevision)
  | .settleThreadRevision roomId rootEventId submittedRevision =>
    store.orKeep (store.settleThreadRevision roomId rootEventId submittedRevision)
  | .clearThreadDraft roomId rootEventId => store.clearThreadDraft roomId rootEventId
  | .reconcileLifecycle protection => store.reconcileLifecycle protection
  | .retainRooms roomIds => store.retainRooms roomIds
  | .restart protection => store.restart protection

/-- Whether the loader keeps the revision of a target that the writer saw: its
content is kept, or its tombstone is within the loader's quota. -/
def LoaderKeeps (protection : ComposerDraftProtection) : ComposerTarget -> Prop
  | .main roomId => (store.rooms[roomId]?).isSome = true ∨
      roomId ∈ loadedOrder (store.persistedRoomOrder protection)
        (protectedEmpty store.roomHasContent (protection.touchProtectedKeys mainRoomOf))
        MAX_PERSISTED_COMPOSER_DRAFT_ROOM_COUNT
  | .thread roomId rootEventId => (store.threads.lookup roomId rootEventId).isSome = true ∨
      (roomId, rootEventId) ∈ loadedOrder (store.persistedThreadOrder protection)
        (protectedEmpty store.threadHasContent (protection.touchProtectedKeys threadOf))
        MAX_PERSISTED_COMPOSER_DRAFT_THREAD_COUNT

/-- The targets whose revision an operation may drop. -/
def Removes : ComposerDraftOperation -> ComposerTarget -> Prop
  | .clearRoomDraft roomId, target => target = .main roomId
  | .clearThreadDraft roomId rootEventId, target => target = .thread roomId rootEventId
  | .reconcileLifecycle protection, target => targetIsProtected protection target = false
  | .retainRooms roomIds, target => roomIds.contains target.roomId = false
  | .restart protection, target => ¬store.LoaderKeeps protection target
  | _, _ => False

end ComposerDraftStore

/-! ## One restart of a lane -/

section Lane

open FencedSlots

variable {κ : Type} [Ord κ] [Std.TransOrd κ] [Std.LawfulEqOrd κ] [DecidableEq κ] {slots : DraftSlots κ}

/-- An accepted lane that was written from slots has no content that truncates to nothing. -/
theorem survives_of_accepted {retained order guarded : List κ}
    (accepted : LaneAccepted (writtenEntry slots retained) order guarded) (key : κ)
    (entry : ComposerDraftPersistenceEntry) (content : ComposerDocument)
    (written : writtenEntry slots retained key = some entry) (present : entry.content = some content) :
    IsContent (content.truncatedToPlainBytes MAX_PERSISTED_COMPOSER_DRAFT_BYTES) := by
  have valid := accepted.valid key entry written
  unfold writtenEntry at written
  split at written
  · cases written
    rw [slotEntry_content_truncated present]
    simp only [ComposerDraftPersistenceEntry.isInvalid, present, any_some, Bool.or_eq_false_iff] at valid
    exact valid.2
  · cases written

omit [Ord κ] [Std.TransOrd κ] [Std.LawfulEqOrd κ] in
theorem loadsEntry_of_kept {listing : List κ} {key : κ}
    (kept : (slotEntry slots key).content.isSome = true ∨ key ∈ listing) :
    loadsEntry (slotEntry slots key) (isRetained listing key) = true := by
  rcases kept with content | listed
  · simp only [loadsEntry, content, Bool.true_or]
  · simp only [loadsEntry, isRetained, listed, decide_true, Bool.or_true]

omit [Ord κ] [Std.TransOrd κ] [Std.LawfulEqOrd κ] in
/-- The loader gives back the revision of every key it keeps. -/
theorem revisionOf_loadedSlots {retained listing : List κ} {key : κ} (written : key ∈ retained)
    (kept : (slotEntry slots key).content.isSome = true ∨ key ∈ listing) :
    (loadedSlots (writtenEntry slots retained) listing).revisionOf key = slots.revisionOf key := by
  have loads := loadsEntry_of_kept kept
  have entry : writtenEntry slots retained key = some (slotEntry slots key) := if_pos written
  simp only [revisionOf, loadedSlots, entry, bind_some, loadedRevision, loads, if_true, getD_some]
  rfl

/-- A key that the loader keeps was written. -/
theorem mem_retainedKeys_of_kept {contentKeys order guarded : List κ} {maximum : Nat}
    (contents : forall key, key ∈ contentKeys ↔ (slots.content key).isSome = true) (key : κ)
    (kept : (slots.content key).isSome = true ∨ key ∈ loadedOrder order guarded maximum) :
    key ∈ retainedKeys contentKeys order guarded := by
  rcases kept with content | listed
  · exact mem_retainedKeys.mpr (Or.inl ((contents key).mpr content))
  · exact mem_retainedKeys.mpr (Or.inr (mem_loadedOrder listed))

theorem slotEntry_content_isSome (coherent : Coherent IsContent slots) (key : κ) :
    (slotEntry slots key).content.isSome = (slots.content key).isSome := by
  rw [slotEntry_content coherent, isSome_map]

/-- A restart rebuilds a lane; it may drop the keys that the loader does not keep. -/
theorem step_reload (coherent : Coherent IsContent slots) {contentKeys order guarded : List κ} {maximum : Nat}
    {removes : κ -> Prop} (contents : forall key, key ∈ contentKeys ↔ (slots.content key).isSome = true)
    (accepted : LaneAccepted (writtenEntry slots (retainedKeys contentKeys order guarded)) order guarded)
    (kept : forall key, ¬removes key ->
      (slots.content key).isSome = true ∨ key ∈ loadedOrder order guarded maximum) :
    Step IsContent removes slots
      (loadedSlots (writtenEntry slots (retainedKeys contentKeys order guarded))
        (loadedOrder order guarded maximum)) := by
  apply Step.rebuild
  · exact accepted.coherent maximum (survives_of_accepted accepted)
  · intro key stays
    apply revisionOf_loadedSlots (mem_retainedKeys_of_kept contents key (kept key stays))
    rw [slotEntry_content_isSome coherent]
    exact kept key stays

end Lane

namespace ComposerDraftStore

open FencedSlots

variable {store loaded : ComposerDraftStore} (protection : ComposerDraftProtection)

/-! ## Restarts -/

/-- A successful load is the store of an accepted projection. -/
theorem fromPersistedProjection_ok_iff {projection : ComposerDraftPersistenceProjection} :
    fromPersistedProjection projection = .ok loaded ↔
      validatePersistedProjection projection = .ok () ∧ loaded = ofProjection projection := by
  unfold fromPersistedProjection
  cases validated : validatePersistedProjection projection with
  | error failure => simp
  | ok accepted => simp [eq_comm]

/-- A restart keeps the store, or loads an accepted projection of it. -/
theorem restart_cases (store : ComposerDraftStore) (protection : ComposerDraftProtection) :
    store.restart protection = store ∨
      validatePersistedProjection (store.persistedProjection protection) = .ok () ∧
        store.restart protection = ofProjection (store.persistedProjection protection) := by
  unfold restart
  cases outcome : fromPersistedProjection (store.persistedProjection protection) with
  | error => exact .inl rfl
  | ok => exact .inr (fromPersistedProjection_ok_iff.mp outcome)

theorem mem_contentRooms (coherent : Coherent IsContent store.roomSlots) (roomId : String) :
    roomId ∈ store.rooms.keys.filter store.roomHasContent ↔ (store.roomSlots.content roomId).isSome = true := by
  rw [List.mem_filter, Std.ExtTreeMap.mem_keys, roomHasContent_eq, slotHasContent_eq coherent,
    ← Std.ExtTreeMap.contains_iff_mem, Std.ExtTreeMap.contains_eq_isSome_getElem?]
  exact and_self_iff

theorem mem_contentThreads (coherent : Coherent IsContent store.threadSlots) (target : String × String) :
    target ∈ store.threads.pairs.filter store.threadHasContent ↔
      (store.threadSlots.content target).isSome = true := by
  rw [List.mem_filter, mem_pairs, threadHasContent_eq, slotHasContent_eq coherent]
  exact and_self_iff

/-- The entries of a projection, as functions of the store's slots. -/
theorem roomEntries_persistedProjection :
    (fun roomId : String => (store.persistedProjection protection).rooms[roomId]?) =
      writtenEntry store.roomSlots (store.retainedRooms protection) :=
  funext (persistedProjection_rooms store protection)

theorem threadEntries_persistedProjection :
    (fun target => (store.persistedProjection protection).threads.lookup target.1 target.2) =
      writtenEntry store.threadSlots (store.retainedThreads protection) :=
  funext (persistedProjection_threads store protection)

/-! ## What a fallible mutator can do -/

/-- What a staged draft leaves at its target: the content, and a marker on it. -/
inductive Staged (store : ComposerDraftStore) (document : ComposerDocument) :
    ComposerTarget -> ComposerDraftStore -> Prop
  | room (roomId : String) (marker : AssistantDraftMarker)
      (newer : store.roomRevision roomId < marker.revision) (inhabited : document.isEmpty = false) :
      Staged store document (.main roomId)
        { (store.applyRoomDraft roomId document marker.revision).2 with
          roomAssistantMarkers := (store.applyRoomDraft roomId document
            marker.revision).2.roomAssistantMarkers.insert roomId marker }
  | thread (roomId rootEventId : String) (marker : AssistantDraftMarker)
      (newer : store.threadRevision roomId rootEventId < marker.revision)
      (inhabited : document.isEmpty = false) :
      Staged store document (.thread roomId rootEventId)
        { (store.applyThreadDraft roomId rootEventId document marker.revision).2 with
          threadAssistantMarkers := (store.applyThreadDraft roomId rootEventId document
            marker.revision).2.threadAssistantMarkers.insertAt roomId rootEventId marker }

theorem stageAssistantDraft_cases (store : ComposerDraftStore) (target : ComposerTarget)
    (document : ComposerDocument) (clientName : String) :
    (store.stageAssistantDraft target document clientName).2 = store ∨
      Staged store document target (store.stageAssistantDraft target document clientName).2 := by
  unfold stageAssistantDraft
  split
  · exact .inl rfl
  next staged =>
  have inhabited : document.isEmpty = false := by
    cases empty : document.isEmpty <;> simp_all
  cases target with
  | main roomId =>
    dsimp only
    split
    · exact .inl rfl
    next revision successor =>
    have newer := (lt_of_checkedSuccessor successor).1
    rw [(applyRoomDraft_accepted_iff store roomId document revision).mpr newer]
    exact .inr (Staged.room roomId ⟨clientName, revision⟩ newer inhabited)
  | thread roomId rootEventId =>
    dsimp only
    split
    · exact .inl rfl
    next revision successor =>
    have newer := (lt_of_checkedSuccessor successor).1
    rw [(applyThreadDraft_accepted_iff store roomId rootEventId document revision).mpr newer]
    exact .inr (Staged.thread roomId rootEventId ⟨clientName, revision⟩ newer inhabited)

/-- A mutator that may refuse leaves the store, or writes one target.  A submission
moves its target to a newer revision. -/
inductive Write (store : ComposerDraftStore) : ComposerDraftStore -> Prop
  | refused : Write store store
  | applyRoom (roomId : String) (document : ComposerDocument) (revision : Nat) :
      Write store (store.applyRoomDraft roomId document revision).2
  | applyThread (roomId rootEventId : String) (document : ComposerDocument) (revision : Nat) :
      Write store (store.applyThreadDraft roomId rootEventId document revision).2
  | advanceRoom (roomId : String) (submittedRevision : Nat) {revision : Nat}
      (newer : store.roomRevision roomId < revision) :
      Write store (store.advanceRoomTo roomId submittedRevision revision)
  | advanceThread (roomId rootEventId : String) (submittedRevision : Nat) {revision : Nat}
      (newer : store.threadRevision roomId rootEventId < revision) :
      Write store (store.advanceThreadTo roomId rootEventId submittedRevision revision)
  | settleRoom (roomId : String) {revision : Nat} (newer : store.roomRevision roomId < revision) :
      Write store (relistRoom { store with roomRevisions := store.roomRevisions.insert roomId revision } roomId)
  | settleThread (roomId rootEventId : String) {revision : Nat}
      (newer : store.threadRevision roomId rootEventId < revision) :
      Write store (relistThread
        { store with threadRevisions := store.threadRevisions.insertAt roomId rootEventId revision }
        roomId rootEventId)
  | staged {document : ComposerDocument} {target : ComposerTarget} {next : ComposerDraftStore}
      (how : Staged store document target next) : Write store next

def IsWrite : ComposerDraftOperation -> Prop
  | .stageAssistantDraft .. | .setRoomDraft .. | .applyRoomDraft .. | .advanceRoomRevision ..
  | .settleRoomRevision .. | .setThreadDraft .. | .applyThreadDraft .. | .advanceThreadRevision ..
  | .settleThreadRevision .. => True
  | _ => False

theorem perform_write {operation : ComposerDraftOperation} (isWrite : IsWrite operation) :
    Write store (store.perform operation) := by
  cases operation with
  | stageAssistantDraft target document clientName =>
    rcases stageAssistantDraft_cases store target document clientName with same | staged
    · rw [perform, same]
      exact .refused
    · exact .staged staged
  | setRoomDraft roomId document =>
    rw [perform, setRoomDraft]
    split
    · exact .refused
    · exact .applyRoom ..
  | applyRoomDraft => exact .applyRoom ..
  | advanceRoomRevision roomId submittedRevision =>
    rw [perform, advanceRoomRevision]
    split
    · exact .refused
    · next successor => exact .advanceRoom _ _ (lt_of_checkedSuccessor successor).1
  | settleRoomRevision roomId submittedRevision =>
    rw [perform, settleRoomRevision]
    split
    · exact .refused
    · next successor => exact .settleRoom _ (lt_of_checkedSuccessor successor).1
  | setThreadDraft roomId rootEventId document =>
    rw [perform, setThreadDraft]
    split
    · exact .refused
    · exact .applyThread ..
  | applyThreadDraft => exact .applyThread ..
  | advanceThreadRevision roomId rootEventId submittedRevision =>
    rw [perform, advanceThreadRevision]
    split
    · exact .refused
    · next successor => exact .advanceThread _ _ _ (lt_of_checkedSuccessor successor).1
  | settleThreadRevision roomId rootEventId submittedRevision =>
    rw [perform, settleThreadRevision]
    split
    · exact .refused
    · next successor => exact .settleThread _ _ (lt_of_checkedSuccessor successor).1
  | _ => cases isWrite

/-! ## Every operation is a sequence of slot steps -/

/-- The slot steps between two stores, on both families.  They may remove only the
targets that `removes` names. -/
structure SlotSteps (removes : ComposerTarget -> Prop) (store after : ComposerDraftStore) : Prop where
  rooms : Steps IsContent (fun roomId => removes (.main roomId)) store.roomSlots after.roomSlots
  threads : Steps IsContent (fun target => removes (.thread target.1 target.2)) store.threadSlots
    after.threadSlots

variable {after : ComposerDraftStore} {removes : ComposerTarget -> Prop}

theorem slotSteps_ofRooms
    (rooms : Steps IsContent (fun roomId => removes (.main roomId)) store.roomSlots after.roomSlots)
    (same : after.threadSlots = store.threadSlots) : SlotSteps removes store after :=
  ⟨rooms, same ▸ refl⟩

theorem slotSteps_ofThreads
    (threads : Steps IsContent (fun target => removes (.thread target.1 target.2)) store.threadSlots
      after.threadSlots) (same : after.roomSlots = store.roomSlots) : SlotSteps removes store after :=
  ⟨same ▸ refl, threads⟩

theorem Staged.steps {document : ComposerDocument} {target : ComposerTarget}
    (how : Staged store document target after) : SlotSteps removes store after := by
  cases how with
  | room roomId marker newer inhabited =>
    have visible : visibleContent document = some document := by simp [visibleContent, inhabited]
    apply slotSteps_ofRooms
    · rw [roomSlots_setRoomMarker, roomSlots_applyRoomDraft, visible]
      exact steps_writeMarked roomId (visibleContent_isContent visible) marker newer
    · exact threadSlots_applyRoomDraft store roomId document marker.revision
  | thread roomId rootEventId marker newer inhabited =>
    have visible : visibleContent document = some document := by simp [visibleContent, inhabited]
    apply slotSteps_ofThreads
    · rw [threadSlots_setThreadMarker, threadSlots_applyThreadDraft, visible]
      exact steps_writeMarked (roomId, rootEventId) (visibleContent_isContent visible) marker newer
    · exact roomSlots_applyThreadDraft store roomId rootEventId document marker.revision

theorem Write.steps (write : Write store after) : SlotSteps removes store after := by
  cases write with
  | refused => exact ⟨refl, refl⟩
  | applyRoom roomId document revision =>
    refine slotSteps_ofRooms ?_ (threadSlots_applyRoomDraft ..)
    rw [roomSlots_applyRoomDraft]
    exact single (Step.write roomId _ revision (fun _ => visibleContent_isContent))
  | applyThread roomId rootEventId document revision =>
    refine slotSteps_ofThreads ?_ (roomSlots_applyThreadDraft ..)
    rw [threadSlots_applyThreadDraft]
    exact single (Step.write (roomId, rootEventId) _ revision (fun _ => visibleContent_isContent))
  | advanceRoom roomId submittedRevision newer =>
    refine slotSteps_ofRooms ?_ (threadSlots_advanceRoomTo ..)
    rw [roomSlots_advanceRoomTo]
    split
    · exact single (Step.clear roomId _ (newer.le))
    · exact single (Step.settle roomId _ (newer.le))
  | advanceThread roomId rootEventId submittedRevision newer =>
    refine slotSteps_ofThreads ?_ (roomSlots_advanceThreadTo ..)
    rw [threadSlots_advanceThreadTo]
    split
    · exact single (Step.clear (roomId, rootEventId) _ (newer.le))
    · exact single (Step.settle (roomId, rootEventId) _ (newer.le))
  | settleRoom roomId newer =>
    refine slotSteps_ofRooms ?_ (threadSlots_relistRoom ..)
    rw [roomSlots_settleRoom]
    exact single (Step.settle roomId _ (newer.le))
  | settleThread roomId rootEventId newer =>
    refine slotSteps_ofThreads ?_ (roomSlots_relistThread ..)
    rw [threadSlots_settleThread]
    exact single (Step.settle (roomId, rootEventId) _ (newer.le))
  | staged how => exact how.steps

section Perform

variable (rooms : Coherent IsContent store.roomSlots) (threads : Coherent IsContent store.threadSlots)
include rooms threads

theorem steps_restart : SlotSteps (store.Removes (.restart protection)) store (store.restart protection) := by
  rcases restart_cases store protection with same | ⟨accepted, loaded⟩
  · rw [same]
    exact ⟨refl, refl⟩
  · rcases (validatePersistedProjection_ok_iff _).mp accepted with ⟨roomLane, _, threadLane⟩
    rw [loaded]
    constructor
    · rw [roomSlots_ofProjection]
      rw [roomEntries_persistedProjection] at roomLane ⊢
      exact single
        (step_reload rooms (mem_contentRooms rooms) roomLane (fun roomId stays => not_not.mp stays))
    · rw [threadSlots_ofProjection]
      rw [threadEntries_persistedProjection] at threadLane ⊢
      exact single
        (step_reload threads (mem_contentThreads threads) threadLane (fun target stays => not_not.mp stays))

theorem steps_perform (operation : ComposerDraftOperation) :
    SlotSteps (store.Removes operation) store (store.perform operation) := by
  cases operation with
  | dismissAssistantMarker target =>
    cases target with
    | main roomId =>
      refine slotSteps_ofRooms (single ?_) rfl
      simp only [perform, dismissAssistantMarker, roomSlots_dropRoomMarker]
      exact Step.setMark roomId none (by simp)
    | thread roomId rootEventId =>
      refine slotSteps_ofThreads (single ?_) (roomSlots_removeThreadAssistantMarker ..)
      rw [perform, dismissAssistantMarker, threadSlots_removeThreadAssistantMarker]
      exact Step.setMark (roomId, rootEventId) none (by simp)
  | clearRoomDraft roomId =>
    refine slotSteps_ofRooms ?_ rfl
    rw [perform, roomSlots_clearRoomDraft]
    exact single (Step.forget roomId rfl)
  | clearThreadDraft roomId rootEventId =>
    refine slotSteps_ofThreads ?_ (roomSlots_clearThreadDraft ..)
    rw [perform, threadSlots_clearThreadDraft]
    exact single (Step.forget (roomId, rootEventId) rfl)
  | reconcileLifecycle protection =>
    exact ⟨roomSteps_reconcileLifecycle store protection rooms,
      threadSteps_reconcileLifecycle store protection threads⟩
  | retainRooms roomIds =>
    constructor
    · rw [perform, roomSlots_retainRooms]
      exact single (Step.restrict roomIds.contains (fun _ dropped => dropped))
    · rw [perform, threadSlots_retainRooms]
      exact single
        (Step.restrict (fun target : String × String => roomIds.contains target.1) (fun _ dropped => dropped))
  | restart protection => exact steps_restart protection rooms threads
  | _ => exact (perform_write (by trivial)).steps

end Perform

/-! ## No room keeps an empty thread table -/

structure ThreadTablesInhabited (store : ComposerDraftStore) : Prop where
  threads : store.threads.NoEmptyInner
  threadRevisions : store.threadRevisions.NoEmptyInner
  threadLastAcceptedClearRevisions : store.threadLastAcceptedClearRevisions.NoEmptyInner
  threadAssistantMarkers : store.threadAssistantMarkers.NoEmptyInner

namespace ThreadTablesInhabited

variable (inhabited : ThreadTablesInhabited store)

include inhabited

theorem applyRoomDraft (roomId : String) (document : ComposerDocument) (revision : Nat) :
    ThreadTablesInhabited (store.applyRoomDraft roomId document revision).2 := by
  unfold ComposerDraftStore.applyRoomDraft
  split
  · exact inhabited
  · split <;> exact { inhabited with }

variable (roomId rootEventId : String)

theorem removeThreadContent : ThreadTablesInhabited (store.removeThreadContent roomId rootEventId) := by
  rw [removeThreadContent_eq]
  exact ⟨noEmptyInner_removeAt inhabited.threads, inhabited.threadRevisions,
    inhabited.threadLastAcceptedClearRevisions,
    noEmptyInner_removeAt inhabited.threadAssistantMarkers⟩

theorem insertRevision (revision : Nat) : ThreadTablesInhabited
      { store with threadRevisions := store.threadRevisions.insertAt roomId rootEventId revision } :=
  { inhabited with
    threadRevisions := noEmptyInner_insertAt inhabited.threadRevisions revision }

theorem applyThreadDraft (document : ComposerDocument) (revision : Nat) :
    ThreadTablesInhabited (store.applyThreadDraft roomId rootEventId document revision).2 := by
  have revised := inhabited.insertRevision roomId rootEventId revision
  unfold ComposerDraftStore.applyThreadDraft
  split
  · exact inhabited
  · split
    · exact { revised.removeThreadContent roomId rootEventId with }
    · exact { revised with
        threads := noEmptyInner_insertAt inhabited.threads document }

theorem staged {document : ComposerDocument} {target : ComposerTarget} {next : ComposerDraftStore}
    (how : Staged store document target next) : ThreadTablesInhabited next := by
  cases how with
  | room roomId marker _ _ =>
    exact { inhabited.applyRoomDraft roomId document marker.revision with }
  | thread roomId rootEventId marker _ _ =>
    have applied := inhabited.applyThreadDraft roomId rootEventId document marker.revision
    exact { applied with
      threadAssistantMarkers :=
        noEmptyInner_insertAt applied.threadAssistantMarkers marker }

theorem relistRoom : ThreadTablesInhabited (store.relistRoom roomId) := by
  unfold ComposerDraftStore.relistRoom
  split <;> exact { inhabited with }

theorem relistThread : ThreadTablesInhabited (store.relistThread roomId rootEventId) := by
  unfold ComposerDraftStore.relistThread
  split <;> exact { inhabited with }

theorem advanceRoomTo (submittedRevision revision : Nat) :
    ThreadTablesInhabited (store.advanceRoomTo roomId submittedRevision revision) := by
  apply relistRoom
  split <;> exact { inhabited with }

theorem advanceThreadTo (submittedRevision revision : Nat) :
    ThreadTablesInhabited (store.advanceThreadTo roomId rootEventId submittedRevision revision) := by
  apply relistThread
  split
  · have emptied := inhabited.removeThreadContent roomId rootEventId
    apply insertRevision
    exact { emptied with
      threadLastAcceptedClearRevisions := noEmptyInner_insertAt
        emptied.threadLastAcceptedClearRevisions revision }
  · exact inhabited.insertRevision roomId rootEventId revision

theorem clearThreadDraft : ThreadTablesInhabited (store.clearThreadDraft roomId rootEventId) := by
  have emptied := inhabited.removeThreadContent roomId rootEventId
  exact ⟨emptied.threads, noEmptyInner_removeAt emptied.threadRevisions,
    noEmptyInner_removeAt emptied.threadLastAcceptedClearRevisions,
    emptied.threadAssistantMarkers⟩

theorem dismissAssistantMarker (target : ComposerTarget) :
    ThreadTablesInhabited (store.dismissAssistantMarker target).2 := by
  cases target with
  | main => exact { inhabited with }
  | thread roomId rootEventId =>
    rw [ComposerDraftStore.dismissAssistantMarker, removeThreadAssistantMarker_eq]
    exact { inhabited with
      threadAssistantMarkers :=
        noEmptyInner_removeAt inhabited.threadAssistantMarkers }

variable (protection : ComposerDraftProtection)

theorem evictRoomTombstones : ThreadTablesInhabited (store.evictRoomTombstones protection) := by
  refine { evictWhile_preserves (fun roomId => targetIsProtected protection (.main roomId))
    MAX_LIVE_COMPOSER_ROOM_TOMBSTONES forgetRoomTombstone ThreadTablesInhabited ?_
    store.quiescentRoomLru.length store.quiescentRoomLru inhabited with }
  intro roomId current held
  unfold forgetRoomTombstone
  split
  · exact held
  · exact { held with }

theorem evictThreadTombstones : ThreadTablesInhabited (store.evictThreadTombstones protection) := by
  refine { evictWhile_preserves
    (fun target : String × String => targetIsProtected protection (.thread target.1 target.2))
    MAX_LIVE_COMPOSER_THREAD_TOMBSTONES forgetThreadTombstone ThreadTablesInhabited ?_
    store.quiescentThreadLru.length store.quiescentThreadLru inhabited with }
  intro target current held
  unfold forgetThreadTombstone
  split
  · exact held
  · exact { held with
      threadRevisions := noEmptyInner_removeAt held.threadRevisions
      threadLastAcceptedClearRevisions :=
        noEmptyInner_removeAt held.threadLastAcceptedClearRevisions }

theorem reconcileLifecycle : ThreadTablesInhabited (store.reconcileLifecycle protection) := by
  have relisted : ThreadTablesInhabited
      ((store.relistRoomTombstones protection).relistThreadTombstones protection) :=
    { inhabited with }
  exact (relisted.evictRoomTombstones protection).evictThreadTombstones protection

end ThreadTablesInhabited

theorem threadTablesInhabited_ofProjection (projection : ComposerDraftPersistenceProjection) :
    ThreadTablesInhabited (ofProjection projection) :=
  ⟨noEmptyInner_filterMapInner _, noEmptyInner_filterMapInner _,
    noEmptyInner_filterMapInner _, noEmptyInner_filterMapInner _⟩

theorem threadTablesInhabited_retainRooms (roomIds : OrdSet String) :
    ThreadTablesInhabited (store.retainRooms roomIds) :=
  ⟨noEmptyInner_retainOuter _, noEmptyInner_retainOuter _,
    noEmptyInner_retainOuter _, noEmptyInner_retainOuter _⟩

theorem ThreadTablesInhabited.write (inhabited : ThreadTablesInhabited store)
    (write : Write store after) : ThreadTablesInhabited after := by
  cases write with
  | refused => exact inhabited
  | applyRoom => exact inhabited.applyRoomDraft ..
  | applyThread => exact inhabited.applyThreadDraft ..
  | advanceRoom => exact inhabited.advanceRoomTo ..
  | advanceThread => exact inhabited.advanceThreadTo ..
  | settleRoom =>
    apply ThreadTablesInhabited.relistRoom
    exact { inhabited with }
  | settleThread => exact (inhabited.insertRevision ..).relistThread ..
  | staged how => exact inhabited.staged how

theorem threadTablesInhabited_perform (inhabited : ThreadTablesInhabited store)
    (operation : ComposerDraftOperation) : ThreadTablesInhabited (store.perform operation) := by
  cases operation with
  | dismissAssistantMarker target => exact inhabited.dismissAssistantMarker target
  | clearRoomDraft => exact { inhabited with }
  | clearThreadDraft => exact inhabited.clearThreadDraft ..
  | reconcileLifecycle protection => exact inhabited.reconcileLifecycle protection
  | retainRooms roomIds => exact threadTablesInhabited_retainRooms roomIds
  | restart protection =>
    rw [perform]
    rcases restart_cases store protection with same | ⟨_, loaded⟩
    · rw [same]
      exact inhabited
    · rw [loaded]
      exact threadTablesInhabited_ofProjection _
  | _ => exact inhabited.write (perform_write (by trivial))

/-! ## Runs -/

structure WellFormed (store : ComposerDraftStore) : Prop where
  rooms : Coherent IsContent store.roomSlots
  threads : Coherent IsContent store.threadSlots
  inhabited : ThreadTablesInhabited store

theorem wellFormed_default : WellFormed default where
  rooms := coherent_empty
  threads := coherent_empty
  inhabited := ⟨noEmptyInner_empty, noEmptyInner_empty, noEmptyInner_empty,
    noEmptyInner_empty⟩

theorem WellFormed.perform (wellFormed : WellFormed store) (operation : ComposerDraftOperation) :
    WellFormed (store.perform operation) where
  rooms := (steps_perform wellFormed.rooms wellFormed.threads operation).rooms.coherent wellFormed.rooms
  threads := (steps_perform wellFormed.rooms wellFormed.threads operation).threads.coherent wellFormed.threads
  inhabited := threadTablesInhabited_perform wellFormed.inhabited operation

theorem wellFormed_run (operations : List ComposerDraftOperation) :
    WellFormed (Machine.run perform default operations) :=
  Machine.run_invariant WellFormed (fun _ operation wellFormed => wellFormed.perform operation)
    wellFormed_default

/-! ## The invariant, target by target -/

def contentAt (store : ComposerDraftStore) : ComposerTarget -> Option ComposerDocument
  | .main roomId => store.rooms[roomId]?
  | .thread roomId rootEventId => store.threads.lookup roomId rootEventId

def revisionEntry (store : ComposerDraftStore) : ComposerTarget -> Option Nat
  | .main roomId => store.roomRevisions[roomId]?
  | .thread roomId rootEventId => store.threadRevisions.lookup roomId rootEventId

def clearEntry (store : ComposerDraftStore) : ComposerTarget -> Option Nat
  | .main roomId => store.roomLastAcceptedClearRevisions[roomId]?
  | .thread roomId rootEventId => store.threadLastAcceptedClearRevisions.lookup roomId rootEventId

def markerEntry (store : ComposerDraftStore) : ComposerTarget -> Option AssistantDraftMarker
  | .main roomId => store.roomAssistantMarkers[roomId]?
  | .thread roomId rootEventId => store.threadAssistantMarkers.lookup roomId rootEventId

/-- Whether a target is in its recency list. -/
def IsListed (store : ComposerDraftStore) : ComposerTarget -> Prop
  | .main roomId => roomId ∈ store.quiescentRoomLru
  | .thread roomId rootEventId => (roomId, rootEventId) ∈ store.quiescentThreadLru

structure RepresentationInvariant (store : ComposerDraftStore) : Prop where
  content_has_revision : forall target,
    (store.contentAt target).isSome = true -> (store.revisionEntry target).isSome = true
  clear_le_revision : forall target cleared, store.clearEntry target = some cleared ->
    ∃ revision, store.revisionEntry target = some revision ∧ cleared ≤ revision
  marker_has_content : forall target,
    (store.markerEntry target).isSome = true -> (store.contentAt target).isSome = true
  content_not_empty : forall target document,
    store.contentAt target = some document -> document.isEmpty = false
  room_lru_nodup : store.quiescentRoomLru.Nodup
  thread_lru_nodup : store.quiescentThreadLru.Nodup
  listed_revision_only : forall target, store.IsListed target ->
    store.contentAt target = none ∧ (store.revisionEntry target).isSome = true
  thread_tables_inhabited : ThreadTablesInhabited store

/-- A fact of both families of slots holds of every target. -/
theorem forall_target {holds : ComposerTarget -> Prop} (rooms : forall roomId, holds (.main roomId))
    (threads : forall target : String × String, holds (.thread target.1 target.2)) :
    forall target, holds target
  | .main roomId => rooms roomId
  | .thread roomId rootEventId => threads (roomId, rootEventId)

theorem holds_of_isSome {κ α : Type} {table : κ -> Option α} {holds : κ -> Prop}
    (each : forall key value, table key = some value -> holds key) (key : κ)
    (present : (table key).isSome = true) : holds key := by
  rcases isSome_iff_exists.mp present with ⟨value, found⟩
  exact each key value found

theorem WellFormed.representationInvariant (wellFormed : WellFormed store) :
    RepresentationInvariant store where
  content_has_revision := forall_target (holds_of_isSome wellFormed.rooms.content_revision)
    (holds_of_isSome wellFormed.threads.content_revision)
  clear_le_revision := forall_target wellFormed.rooms.cleared_le wellFormed.threads.cleared_le
  marker_has_content := forall_target (holds_of_isSome wellFormed.rooms.mark_content)
    (holds_of_isSome wellFormed.threads.mark_content)
  content_not_empty := forall_target wellFormed.rooms.content_valid wellFormed.threads.content_valid
  room_lru_nodup := wellFormed.rooms.recency_nodup
  thread_lru_nodup := wellFormed.threads.recency_nodup
  listed_revision_only :=
    forall_target wellFormed.rooms.recency_tombstone wellFormed.threads.recency_tombstone
  thread_tables_inhabited := wellFormed.inhabited

/-- Every run of operations from the empty store keeps the invariant. -/
theorem run_representationInvariant (operations : List ComposerDraftOperation) :
    RepresentationInvariant (Machine.run perform default operations) :=
  (wellFormed_run operations).representationInvariant

end ComposerDraftStore

end Koushi
