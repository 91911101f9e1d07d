import Koushi.Library.FencedSlots
import Koushi.Composer.DraftStore

namespace Koushi

open Collections NestedMap FencedSlots OrdMap

/-!
# The draft store refines two families of fenced slots

The room tables of a store are one family of fenced slots, keyed by room; the
thread tables are another, keyed by room and thread root.  Each mutator is
one slot operation on its own family and leaves the other family alone.  These
equations are all that later modules use of the tables' layout.
-/

abbrev DraftSlots (κ : Type) := FencedSlots κ ComposerDocument AssistantDraftMarker

/-- The content a write leaves behind; an empty document leaves none. -/
def visibleContent (document : ComposerDocument) : Option ComposerDocument :=
  if document.isEmpty then none else some document

/-- What the store keeps as content: a document with at least one inline. -/
def IsContent (document : ComposerDocument) : Prop :=
  document.isEmpty = false

theorem visibleContent_isContent {document content : ComposerDocument}
    (visible : visibleContent document = some content) : IsContent content := by
  unfold visibleContent at visible
  split at visible
  · cases visible
  next inhabited =>
  cases visible
  exact Bool.eq_false_iff.mpr inhabited

namespace ComposerDraftStore

def roomSlots (store : ComposerDraftStore) : DraftSlots String where
  content := fun roomId => store.rooms[roomId]?
  revision := fun roomId => store.roomRevisions[roomId]?
  cleared := fun roomId => store.roomLastAcceptedClearRevisions[roomId]?
  mark := fun roomId => store.roomAssistantMarkers[roomId]?
  recency := store.quiescentRoomLru

def threadSlots (store : ComposerDraftStore) : DraftSlots (String × String) where
  content := fun target => store.threads.lookup target.1 target.2
  revision := fun target => store.threadRevisions.lookup target.1 target.2
  cleared := fun target => store.threadLastAcceptedClearRevisions.lookup target.1 target.2
  mark := fun target => store.threadAssistantMarkers.lookup target.1 target.2
  recency := store.quiescentThreadLru

variable (store : ComposerDraftStore)

variable (protection : ComposerDraftProtection) (roomId rootEventId : String) (document : ComposerDocument)
  (submittedRevision revision : Nat)

theorem roomSlots_revisionOf : store.roomSlots.revisionOf roomId = store.roomRevision roomId := rfl

theorem roomSlots_recency : store.roomSlots.recency = store.quiescentRoomLru := rfl

theorem threadSlots_recency : store.threadSlots.recency = store.quiescentThreadLru := rfl

variable {target : String × String}

theorem threadSlots_revisionOf :
    store.threadSlots.revisionOf target = store.threadRevision target.1 target.2 := rfl

/-! ## Room mutators -/

theorem roomSlots_applyRoomDraft : (store.applyRoomDraft roomId document revision).2.roomSlots =
      store.roomSlots.write roomId (visibleContent document) revision := by
  unfold applyRoomDraft write
  rw [roomSlots_revisionOf]
  split
  · rfl
  cases empty : document.isEmpty with
  | true =>
    apply ext <;> intros <;>
      simp [roomSlots, visibleContent, empty, touchQuiescentRoom, getElem?_erase_update,
        getElem?_insert_update]
  | false =>
    apply ext <;> intros <;>
      simp [roomSlots, visibleContent, empty, removeRoomFromLru, getElem?_insert_update]

theorem applyRoomDraft_accepted_iff :
    (store.applyRoomDraft roomId document revision).1 = true ↔ store.roomRevision roomId < revision := by
  unfold applyRoomDraft
  split
  · next stale => simpa using stale
  · next newer => split <;> simpa using newer

theorem threadSlots_applyRoomDraft :
    (store.applyRoomDraft roomId document revision).2.threadSlots = store.threadSlots := by
  unfold applyRoomDraft
  split
  · rfl
  · split <;> rfl

theorem roomSlots_relistRoom : (store.relistRoom roomId).roomSlots = { store.roomSlots with
        recency :=
          if (store.roomSlots.content roomId).isSome then dropKey roomId store.quiescentRoomLru
          else touchNewest roomId store.quiescentRoomLru } := by
  unfold relistRoom
  split <;> simp_all [roomSlots, removeRoomFromLru, touchQuiescentRoom]

theorem threadSlots_relistRoom : (store.relistRoom roomId).threadSlots = store.threadSlots := by
  unfold relistRoom
  split <;> rfl

/-- An accepted submission clears the draft it consumed, or settles a newer one. -/
theorem roomSlots_advanceRoomTo : (store.advanceRoomTo roomId submittedRevision revision).roomSlots =
      if store.roomRevision roomId ≤ submittedRevision then store.roomSlots.clear roomId revision
      else store.roomSlots.settle roomId revision := by
  unfold advanceRoomTo
  rw [roomSlots_relistRoom]
  split
  · apply ext <;> intros <;>
      simp [roomSlots, clear, getElem?_erase_update, getElem?_insert_update]
  · apply ext <;> intros <;> simp [roomSlots, settle, getElem?_insert_update]

theorem threadSlots_advanceRoomTo :
    (store.advanceRoomTo roomId submittedRevision revision).threadSlots = store.threadSlots := by
  unfold advanceRoomTo
  rw [threadSlots_relistRoom]
  split <;> rfl

theorem roomSlots_settleRoom :
    (relistRoom { store with roomRevisions := store.roomRevisions.insert roomId revision } roomId).roomSlots =
      store.roomSlots.settle roomId revision := by
  rw [roomSlots_relistRoom]
  apply ext <;> intros <;> simp [roomSlots, settle, getElem?_insert_update]

theorem roomSlots_clearRoomDraft :
    (store.clearRoomDraft roomId).roomSlots = store.roomSlots.forget roomId := by
  apply ext <;> intros <;>
    simp [clearRoomDraft, removeRoomFromLru, roomSlots, forget, getElem?_erase_update]

variable {marker : AssistantDraftMarker}

theorem roomSlots_setRoomMarker :
    { store with roomAssistantMarkers := store.roomAssistantMarkers.insert roomId marker }.roomSlots =
      store.roomSlots.setMark roomId (some marker) := by
  apply ext <;> intros <;> simp [roomSlots, setMark, getElem?_insert_update]

theorem roomSlots_dropRoomMarker :
    { store with roomAssistantMarkers := store.roomAssistantMarkers.erase roomId }.roomSlots =
      store.roomSlots.setMark roomId none := by
  apply ext <;> intros <;> simp [roomSlots, setMark, getElem?_erase_update]

/-! ## Thread mutators -/

/-- The marker table after a removal, whether or not the room had one. -/
theorem removeThreadAssistantMarker_eq : (store.removeThreadAssistantMarker roomId rootEventId).2 =
      { store with
        threadAssistantMarkers := store.threadAssistantMarkers.removeAt roomId rootEventId } := by
  unfold removeThreadAssistantMarker
  split
  · next absent => simp [removeAt, absent]
  · rfl

theorem threadSlots_removeThreadAssistantMarker :
    (store.removeThreadAssistantMarker roomId rootEventId).2.threadSlots =
      store.threadSlots.setMark (roomId, rootEventId) none := by
  rw [removeThreadAssistantMarker_eq]
  apply ext <;> intros <;> simp [threadSlots, setMark, lookup_removeAt_update]

theorem roomSlots_removeThreadAssistantMarker :
    (store.removeThreadAssistantMarker roomId rootEventId).2.roomSlots = store.roomSlots := by
  rw [removeThreadAssistantMarker_eq]
  rfl

theorem removeThreadContent_eq : store.removeThreadContent roomId rootEventId = { store with
        threads := store.threads.removeAt roomId rootEventId
        threadAssistantMarkers := store.threadAssistantMarkers.removeAt roomId rootEventId } := by
  simp [removeThreadContent, removeThreadAssistantMarker_eq]

theorem threadSlots_applyThreadDraft :
    (store.applyThreadDraft roomId rootEventId document revision).2.threadSlots =
      store.threadSlots.write (roomId, rootEventId) (visibleContent document) revision := by
  unfold applyThreadDraft write
  rw [threadSlots_revisionOf]
  split
  · rfl
  cases empty : document.isEmpty with
  | true =>
    apply ext <;> intros <;>
      simp [threadSlots, visibleContent, empty, touchQuiescentThread, removeThreadContent_eq,
        lookup_removeAt_update, lookup_insertAt_update]
  | false =>
    apply ext <;> intros <;>
      simp [threadSlots, visibleContent, empty, removeThreadFromLru, lookup_insertAt_update]

theorem applyThreadDraft_accepted_iff :
    (store.applyThreadDraft roomId rootEventId document revision).1 = true ↔
      store.threadRevision roomId rootEventId < revision := by
  unfold applyThreadDraft
  split
  · next stale => simpa using stale
  · next newer => split <;> simpa using newer

theorem roomSlots_applyThreadDraft :
    (store.applyThreadDraft roomId rootEventId document revision).2.roomSlots = store.roomSlots := by
  unfold applyThreadDraft
  split
  · rfl
  split
  · simp only [removeThreadContent_eq]
    rfl
  · rfl

theorem threadSlots_relistThread : (store.relistThread roomId rootEventId).threadSlots =
      { store.threadSlots with
        recency :=
          if (store.threadSlots.content (roomId, rootEventId)).isSome then
            dropKey (roomId, rootEventId) store.quiescentThreadLru
          else touchNewest (roomId, rootEventId) store.quiescentThreadLru } := by
  unfold relistThread
  split <;> simp_all [threadSlots, removeThreadFromLru, touchQuiescentThread]

theorem roomSlots_relistThread :
    (store.relistThread roomId rootEventId).roomSlots = store.roomSlots := by
  unfold relistThread
  split <;> rfl

theorem threadSlots_advanceThreadTo :
    (store.advanceThreadTo roomId rootEventId submittedRevision revision).threadSlots =
      if store.threadRevision roomId rootEventId ≤ submittedRevision then
        store.threadSlots.clear (roomId, rootEventId) revision
      else store.threadSlots.settle (roomId, rootEventId) revision := by
  unfold advanceThreadTo
  rw [threadSlots_relistThread]
  split
  · rw [removeThreadContent_eq]
    apply ext <;> intros <;>
      simp [threadSlots, clear, lookup_removeAt_update,
        lookup_insertAt_update]
  · apply ext <;> intros <;> simp [threadSlots, settle, lookup_insertAt_update]
    rfl

theorem roomSlots_advanceThreadTo :
    (store.advanceThreadTo roomId rootEventId submittedRevision revision).roomSlots = store.roomSlots := by
  unfold advanceThreadTo
  rw [roomSlots_relistThread]
  split
  · rw [removeThreadContent_eq]
    rfl
  · rfl

theorem threadSlots_settleThread : (relistThread
        { store with threadRevisions := store.threadRevisions.insertAt roomId rootEventId revision }
        roomId rootEventId).threadSlots =
      store.threadSlots.settle (roomId, rootEventId) revision := by
  rw [threadSlots_relistThread]
  apply ext <;> intros <;> simp [threadSlots, settle, lookup_insertAt_update]
  rfl

theorem threadSlots_clearThreadDraft : (store.clearThreadDraft roomId rootEventId).threadSlots =
      store.threadSlots.forget (roomId, rootEventId) := by
  unfold clearThreadDraft
  rw [removeThreadContent_eq]
  apply ext <;> intros <;>
    simp [removeThreadFromLru, threadSlots, forget, lookup_removeAt_update]

theorem roomSlots_clearThreadDraft :
    (store.clearThreadDraft roomId rootEventId).roomSlots = store.roomSlots := by
  unfold clearThreadDraft
  rw [removeThreadContent_eq]
  rfl

theorem threadSlots_setThreadMarker : { store with
        threadAssistantMarkers :=
          store.threadAssistantMarkers.insertAt roomId rootEventId marker }.threadSlots =
      store.threadSlots.setMark (roomId, rootEventId) (some marker) := by
  apply ext <;> intros <;> simp [threadSlots, setMark, lookup_insertAt_update]

/-! ## Retention -/

theorem roomSlots_retainRooms (roomIds : OrdSet String) :
    (store.retainRooms roomIds).roomSlots = store.roomSlots.restrict roomIds.contains := by
  apply ext <;> intros <;> simp only [retainRooms, roomSlots, restrict, getElem?_filter_key]

theorem threadSlots_retainRooms (roomIds : OrdSet String) : (store.retainRooms roomIds).threadSlots =
      store.threadSlots.restrict (fun target => roomIds.contains target.1) := by
  apply ext <;> intros <;> simp only [retainRooms, threadSlots, restrict, lookup_retainOuter]

/-! ## Lifecycle reconciliation -/

theorem roomIsListable_iff : store.roomIsListable protection roomId = true ↔
      (store.roomSlots.revision roomId).isSome = true ∧ store.roomSlots.content roomId = none ∧
        targetIsTouchProtected protection (.main roomId) = false := by
  simp [roomIsListable, roomSlots, and_assoc, ← Std.ExtTreeMap.contains_iff_mem]

theorem threadIsListable_iff (target : String × String) :
    store.threadIsListable protection target = true ↔
      (store.threadSlots.revision target).isSome = true ∧ store.threadSlots.content target = none ∧
        targetIsTouchProtected protection (.thread target.1 target.2) = false := by
  simp [threadIsListable, threadSlots, and_assoc]

/-- The relisted rooms are exactly the tombstones nobody has open. -/
theorem mem_relistRoomTombstones : roomId ∈ (store.relistRoomTombstones protection).quiescentRoomLru ↔
      store.roomIsListable protection roomId = true := by
  by_cases listed : roomId ∈ store.quiescentRoomLru <;>
    simp [relistRoomTombstones, roomIsListable, listed] <;> tauto

theorem mem_relistThreadTombstones (target : String × String) :
    target ∈ (store.relistThreadTombstones protection).quiescentThreadLru ↔
      store.threadIsListable protection target = true := by
  have revised : target ∈ store.threadRevisions.pairs ↔
      (store.threadRevisions.lookup target.1 target.2).isSome = true := mem_pairs
  by_cases listed : target ∈ store.quiescentThreadLru <;>
    simp [relistThreadTombstones, threadIsListable, listed, revised] <;> tauto

/-- Relisting repeats no room that was not repeated before. -/
theorem nodup_relistRoomTombstones (nodup : store.quiescentRoomLru.Nodup) :
    (store.relistRoomTombstones protection).quiescentRoomLru.Nodup := by
  apply nodup_append_unlisted (nodup.filter _) store.roomRevisions.nodup_keys
  intro roomId missing
  simp only [Bool.and_eq_true, Bool.not_eq_true', decide_eq_false_iff_not] at missing
  exact missing.1.2

theorem nodup_relistThreadTombstones (nodup : store.quiescentThreadLru.Nodup) :
    (store.relistThreadTombstones protection).quiescentThreadLru.Nodup := by
  apply nodup_append_unlisted (nodup.filter _) (nodup_pairs)
  intro target missing
  simp only [Bool.and_eq_true, Bool.not_eq_true', decide_eq_false_iff_not] at missing
  exact missing.1.2

theorem roomSlots_forgetRoomTombstone (absent : store.roomSlots.content roomId = none) :
    (forgetRoomTombstone roomId store).roomSlots =
      store.roomSlots.evict [roomId] store.roomSlots.recency := by
  have empty : store.rooms.contains roomId = false := by
    rw [Std.ExtTreeMap.contains_eq_isSome_getElem?, Option.isSome_eq_false_iff, Option.isNone_iff_eq_none]
    exact absent
  apply ext <;> intros <;>
    simp [forgetRoomTombstone, empty, roomSlots, evict, getElem?_erase_update, Function.update_apply]

theorem threadSlots_forgetThreadTombstone (absent : store.threadSlots.content target = none) :
    (forgetThreadTombstone target store).threadSlots =
      store.threadSlots.evict [target] store.threadSlots.recency := by
  have empty : store.threads.lookup target.1 target.2 = none := absent
  apply ext <;> intros <;>
    simp [forgetThreadTombstone, empty, threadSlots, evict, lookup_removeAt_update, Function.update_apply]

/-- The listed keys that go when only `maximum` unprotected ones may stay, and those that stay. -/
def splitToQuota {κ : Type} (isProtected : κ -> Bool) (maximum : Nat) (listing : List κ) : List κ × List κ :=
  splitOldest isProtected (listing.countP (fun key => !isProtected key) - maximum) listing

/-- The eviction loop on rooms, as one slot operation. -/
theorem roomSlots_evictRoomTombstones
    (tombstones : forall roomId, roomId ∈ store.quiescentRoomLru -> store.roomSlots.content roomId = none) :
    let split := splitToQuota (fun roomId => targetIsProtected protection (.main roomId))
      MAX_LIVE_COMPOSER_ROOM_TOMBSTONES store.quiescentRoomLru
    (store.evictRoomTombstones protection).roomSlots = store.roomSlots.evict split.1 split.2 := by
  intro split
  unfold evictRoomTombstones
  rw [evictWhile_eq _ _ _ _ _ _ (Nat.le_refl _)]
  have forgotten := foldl_evict (fun roomId store => roomSlots_forgetRoomTombstone store roomId) split.1 store
    (fun roomId evicted => tombstones roomId ((mem_splitOldest _ _).mpr (Or.inl evicted)))
  simp only [roomSlots, FencedSlots.evict, FencedSlots.mk.injEq] at forgotten ⊢
  exact ⟨forgotten.1, forgotten.2.1, forgotten.2.2.1, forgotten.2.2.2.1, rfl⟩

theorem threadSlots_evictThreadTombstones
    (tombstones : forall target, target ∈ store.quiescentThreadLru -> store.threadSlots.content target = none) :
    let split := splitToQuota (fun target => targetIsProtected protection (.thread target.1 target.2))
      MAX_LIVE_COMPOSER_THREAD_TOMBSTONES store.quiescentThreadLru
    (store.evictThreadTombstones protection).threadSlots = store.threadSlots.evict split.1 split.2 := by
  intro split
  unfold evictThreadTombstones
  rw [evictWhile_eq _ _ _ _ _ _ (Nat.le_refl _)]
  have forgotten := foldl_evict (fun target store => threadSlots_forgetThreadTombstone store) split.1 store
    (fun target evicted => tombstones target ((mem_splitOldest _ _).mpr (Or.inl evicted)))
  simp only [threadSlots, FencedSlots.evict, FencedSlots.mk.injEq] at forgotten ⊢
  exact ⟨forgotten.1, forgotten.2.1, forgotten.2.2.1, forgotten.2.2.2.1, rfl⟩

theorem threadSlots_evictRoomTombstones :
    (store.evictRoomTombstones protection).threadSlots = store.threadSlots := by
  have kept := evictWhile_preserves (fun roomId => targetIsProtected protection (.main roomId))
    MAX_LIVE_COMPOSER_ROOM_TOMBSTONES forgetRoomTombstone
    (fun current => current.threadSlots = store.threadSlots)
    (by
      intro roomId current same
      rw [← same, forgetRoomTombstone]
      split <;> rfl)
    store.quiescentRoomLru.length store.quiescentRoomLru rfl
  exact kept

theorem roomSlots_evictThreadTombstones :
    (store.evictThreadTombstones protection).roomSlots = store.roomSlots := by
  have kept := evictWhile_preserves (fun target => targetIsProtected protection (.thread target.1 target.2))
    MAX_LIVE_COMPOSER_THREAD_TOMBSTONES forgetThreadTombstone
    (fun current => current.roomSlots = store.roomSlots)
    (by
      intro target current same
      rw [← same, forgetThreadTombstone]
      split <;> rfl)
    store.quiescentThreadLru.length store.quiescentThreadLru rfl
  exact kept

open FencedSlots in
/-- Relisting and then evicting unprotected tombstones, as slot operations. -/
theorem steps_relist_evict {κ : Type} [DecidableEq κ] {slots : DraftSlots κ} {isProtected : κ -> Bool}
    {listing : List κ} (nodup : listing.Nodup)
    (tombstones : forall key, key ∈ listing -> slots.content key = none ∧ (slots.revision key).isSome = true)
    (excess : Nat) : Steps IsContent (fun key => isProtected key = false) slots
      ((slots.evict [] listing).evict (splitOldest isProtected excess listing).1
        (splitOldest isProtected excess listing).2) := by
  have relisted : Step IsContent (fun key => isProtected key = false) slots (slots.evict [] listing) :=
    Step.evict [] listing (by simp) (by simp) nodup (fun key listed => ⟨by simp, tombstones key listed⟩)
  refine (Relation.ReflTransGen.single relisted).tail ?_
  apply Step.evict
  · intro key evicted
    exact splitOldest_evicted_unprotected isProtected evicted
  · intro key evicted
    exact (tombstones key ((mem_splitOldest isProtected excess).mpr (Or.inl evicted))).1
  · exact nodup.sublist (splitOldest_kept_sublist isProtected excess listing)
  · intro key kept
    have listed := (splitOldest_kept_sublist isProtected excess listing).subset kept
    refine ⟨fun evicted => splitOldest_disjoint isProtected nodup evicted kept, (tombstones key listed).1, ?_⟩
    simpa [evict] using (tombstones key listed).2

/-- Reconciliation on the rooms: relist, then keep what fits the quota. -/
theorem roomSlots_reconcileLifecycle :
    let split := splitToQuota (fun roomId => targetIsProtected protection (.main roomId))
      MAX_LIVE_COMPOSER_ROOM_TOMBSTONES (store.relistRoomTombstones protection).quiescentRoomLru
    (store.reconcileLifecycle protection).roomSlots = store.roomSlots.evict split.1 split.2 := by
  have evicted := roomSlots_evictRoomTombstones
    ((store.relistRoomTombstones protection).relistThreadTombstones protection) protection (by
      intro roomId listed
      have listable := (mem_relistRoomTombstones store protection roomId).mp listed
      exact ((roomIsListable_iff store protection roomId).mp listable).2.1)
  exact (roomSlots_evictThreadTombstones _ protection).trans evicted

theorem threadSlots_reconcileLifecycle :
    let split := splitToQuota (fun target => targetIsProtected protection (.thread target.1 target.2))
      MAX_LIVE_COMPOSER_THREAD_TOMBSTONES (store.relistThreadTombstones protection).quiescentThreadLru
    (store.reconcileLifecycle protection).threadSlots = store.threadSlots.evict split.1 split.2 := by
  let listing := (store.relistRoomTombstones protection).relistThreadTombstones protection
  have sameThreads := threadSlots_evictRoomTombstones listing protection
  have sameRecency : (listing.evictRoomTombstones protection).quiescentThreadLru =
      (store.relistThreadTombstones protection).quiescentThreadLru := congrArg recency sameThreads
  have evicted := threadSlots_evictThreadTombstones (listing.evictRoomTombstones protection) protection (by
    intro target listed
    rw [sameRecency, mem_relistThreadTombstones] at listed
    rw [sameThreads]
    exact ((threadIsListable_iff store protection target).mp listed).2.1)
  rw [sameRecency, sameThreads] at evicted
  exact evicted

open FencedSlots in
/-- Reconciliation may remove unprotected rooms and nothing else. -/
theorem roomSteps_reconcileLifecycle (coherent : Coherent IsContent store.roomSlots) :
    Steps IsContent (fun roomId => targetIsProtected protection (.main roomId) = false)
      store.roomSlots (store.reconcileLifecycle protection).roomSlots := by
  rw [roomSlots_reconcileLifecycle store protection]
  refine steps_relist_evict (nodup_relistRoomTombstones store protection coherent.recency_nodup) ?_ _
  intro roomId listed
  rw [mem_relistRoomTombstones, roomIsListable_iff] at listed
  exact ⟨listed.2.1, listed.1⟩

open FencedSlots in
theorem threadSteps_reconcileLifecycle (coherent : Coherent IsContent store.threadSlots) :
    Steps IsContent (fun target => targetIsProtected protection (.thread target.1 target.2) = false)
      store.threadSlots (store.reconcileLifecycle protection).threadSlots := by
  rw [threadSlots_reconcileLifecycle store protection]
  refine steps_relist_evict (nodup_relistThreadTombstones store protection coherent.recency_nodup) ?_ _
  intro target listed
  rw [mem_relistThreadTombstones, threadIsListable_iff] at listed
  exact ⟨listed.2.1, listed.1⟩

end ComposerDraftStore

end Koushi
