import Koushi.Composer.DraftInvariant

namespace Koushi

open Collections Machine Std List

attribute [local instance] lexOrd

/-!
# What a restart gives back

The writer keeps every content and a bounded number of tombstones.  The loader
lists the tombstones of active and leased targets last, whatever place they had in
the recency list, and then applies the quota once more.  So the order of a
recency list is not kept as a whole: it is kept among the targets that were
not active or leased when the projection was written.

A stored document may truncate to nothing, when it starts with an oversized
mention.  The writer then writes an empty content, which the loader refuses.
Nothing is said about the loaded store in that case, because there is none.
-/

section Lane

open FencedSlots

variable {κ : Type} [Ord κ] [TransOrd κ] [LawfulEqOrd κ] [DecidableEq κ] {slots : DraftSlots κ}

/-! ## The order of a loaded lane -/

omit [DecidableEq κ] in
/-- The protected group is already in key order when it is loaded. -/
theorem loadedOrder_protectedEmpty (order : List κ) (hasContent : κ -> Bool) (touchProtected : OrdSet κ)
    (maximum : Nat) : loadedOrder order (protectedEmpty hasContent touchProtected) maximum =
      retainNewest maximum (order ++ protectedEmpty hasContent touchProtected) := by
  unfold loadedOrder
  have sorted : (protectedEmpty hasContent touchProtected).Pairwise
      (fun left right => (compare left right).isLE = true) :=
    (OrdSet.sorted_toList touchProtected).filter _
  rw [sorted.insertionSort_eq]

variable {all touchProtected : OrdSet κ} {order : List κ}

open List in
/-- Recency keys that were not protected come back in their old order. -/
theorem loadedOrder_sublist_recency
    (written : order.Sublist (quiescentCandidates slots all touchProtected)) (maximum : Nat) :
    ((loadedOrder order (protectedEmpty (slotHasContent slots) touchProtected) maximum).filter (fun key =>
      decide (key ∈ slots.recency) && !touchProtected.contains key)).Sublist slots.recency := by
  let recurs : κ -> Bool := fun key => decide (key ∈ slots.recency) && !touchProtected.contains key
  have noneGuarded : (protectedEmpty (slotHasContent slots) touchProtected).filter recurs = [] := by
    rw [filter_eq_nil_iff]
    intro key guarded recurring
    have touched := ((mem_protectedEmpty touchProtected).mp guarded).1
    simp [recurs, ExtTreeSet.contains_iff_mem.mpr touched] at recurring
  -- A recency key that the writer lists later than the recency list was skipped there,
  -- so it has content or is protected, and then it is not listed at all.
  have noneAppended : (all.toList.filter (fun key =>
      !slotHasContent slots key && !touchProtected.contains key &&
        !decide (key ∈ slots.recency.filter (fun key =>
          all.contains key && !slotHasContent slots key && !touchProtected.contains key)))).filter recurs = [] := by
    rw [filter_eq_nil_iff]
    intro key appended recurring
    have parts := mem_filter.mp appended
    have known := ExtTreeSet.contains_iff_mem.mpr (ExtTreeSet.mem_toList.mp parts.1)
    simp only [recurs, Bool.and_eq_true, decide_eq_true_eq, Bool.not_eq_true'] at recurring
    simp [known, recurring.1, recurring.2] at parts
  rw [loadedOrder_protectedEmpty]
  calc (retainNewest maximum _).filter recurs
    _ <+ (order ++ protectedEmpty (slotHasContent slots) touchProtected).filter recurs :=
        (retainNewest_sublist maximum _).filter recurs
    _ = order.filter recurs := by rw [filter_append, noneGuarded, append_nil]
    _ <+ ((quiescentCandidates slots all touchProtected).filter recurs) := written.filter recurs
    _ = (slots.recency.filter (fun key =>
          all.contains key && !slotHasContent slots key && !touchProtected.contains key)).filter recurs := by
        rw [quiescentCandidates, filter_append, noneAppended, append_nil]
    _ <+ slots.recency := filter_sublist.trans filter_sublist

/-- Two recency keys that were not protected come back in their old order. -/
theorem pair_sublist_recency (written : order.Sublist (quiescentCandidates slots all touchProtected))
    {maximum : Nat} {first second : κ} (loaded : [first, second].Sublist
      (loadedOrder order (protectedEmpty (slotHasContent slots) touchProtected) maximum))
    (firstListed : first ∈ slots.recency) (secondListed : second ∈ slots.recency)
    (firstFree : touchProtected.contains first = false) (secondFree : touchProtected.contains second = false) :
    [first, second].Sublist slots.recency := by
  have both : [first, second].filter (fun key =>
      decide (key ∈ slots.recency) && !touchProtected.contains key) = [first, second] := by
    simp [firstListed, secondListed, firstFree, secondFree]
  rw [← both]
  exact (loaded.filter _).trans (loadedOrder_sublist_recency written maximum)

/-! ## The entries of a loaded lane -/

/-- Content comes back truncated, and no other content appears. -/
theorem content_loadedSlots (coherent : Coherent IsContent slots) {contentKeys order guarded listing : List κ}
    (contents : forall key, key ∈ contentKeys ↔ (slots.content key).isSome = true) (key : κ) :
    (loadedSlots (writtenEntry slots (retainedKeys contentKeys order guarded)) listing).content key =
      (slots.content key).map
        (fun content => content.truncatedToPlainBytes MAX_PERSISTED_COMPOSER_DRAFT_BYTES) := by
  cases held : slots.content key with
  | none =>
    simp only [loadedSlots, writtenEntry]
    split
    · simp [loadedContent, slotEntry_content coherent, held]
    · rfl
  | some content =>
    have retained : key ∈ retainedKeys contentKeys order guarded :=
      mem_retainedKeys.mpr (Or.inl ((contents key).mpr (by rw [held]; rfl)))
    simp [loadedSlots, writtenEntry, retained, loadedContent, slotEntry_content coherent, held,
      ComposerDocument.truncatedToPlainBytes_idem]

omit [Ord κ] [TransOrd κ] [LawfulEqOrd κ] in
/-- The loader gives back the clear revision of every key it keeps. -/
theorem cleared_loadedSlots {retained listing : List κ} {key : κ} (written : key ∈ retained)
    (kept : (slotEntry slots key).content.isSome = true ∨ key ∈ listing) :
    ((loadedSlots (writtenEntry slots retained) listing).cleared key).getD 0 = (slots.cleared key).getD 0 := by
  have loads : loadsEntry (slotEntry slots key) (isRetained listing key) = true :=
    loadsEntry_of_kept kept
  have entry : writtenEntry slots retained key = some (slotEntry slots key) := if_pos written
  simp only [loadedSlots, entry, Option.bind_some, loadedClear, loads, Bool.true_and, decide_eq_true_eq]
  split
  · rfl
  · next unset => exact (not_not.mp unset).symm

/-- No content of an accepted lane truncates to nothing. -/
theorem isContent_truncated (coherent : Coherent IsContent slots) {contentKeys order guarded : List κ}
    (contents : forall key, key ∈ contentKeys ↔ (slots.content key).isSome = true)
    (accepted : LaneAccepted (writtenEntry slots (retainedKeys contentKeys order guarded)) order guarded)
    {key : κ} {content : ComposerDocument} (held : slots.content key = some content) :
    IsContent (content.truncatedToPlainBytes MAX_PERSISTED_COMPOSER_DRAFT_BYTES) := by
  have retained : key ∈ retainedKeys contentKeys order guarded :=
    mem_retainedKeys.mpr (Or.inl ((contents key).mpr (by rw [held]; rfl)))
  have present : (slotEntry slots key).content =
      some (content.truncatedToPlainBytes MAX_PERSISTED_COMPOSER_DRAFT_BYTES) := by
    rw [slotEntry_content coherent, held, Option.map_some]
  have survives := survives_of_accepted accepted key _ _ (if_pos retained) present
  rwa [ComposerDocument.truncatedToPlainBytes_idem] at survives

/-- Within the quota the loader keeps every key that was written. -/
theorem kept_of_fits {contentKeys order guarded : List κ} {maximum : Nat}
    (contents : forall key, key ∈ contentKeys ↔ (slots.content key).isSome = true)
    (fits : order.length + guarded.length ≤ maximum) {key : κ} {entry : ComposerDraftPersistenceEntry}
    (written : writtenEntry slots (retainedKeys contentKeys order guarded) key = some entry) :
    (slots.content key).isSome = true ∨ key ∈ loadedOrder order guarded maximum := by
  have retained : key ∈ retainedKeys contentKeys order guarded := by
    by_contra absent
    rw [writtenEntry, if_neg absent] at written
    cases written
  have all : loadedOrder order guarded maximum =
      order ++ guarded.insertionSort (fun left right => (compare left right).isLE = true) :=
    retainNewest_of_length_le (by rwa [length_append, length_insertionSort])
  rw [all, mem_append, mem_insertionSort]
  rcases mem_retainedKeys.mp retained with content | rest
  · exact .inl ((contents key).mp content)
  · exact .inr rest

end Lane

namespace ComposerDraftStore

open FencedSlots

variable {store loaded : ComposerDraftStore} (protection : ComposerDraftProtection)

/-! ## The loaded store -/

def revisionAt (store : ComposerDraftStore) (target : ComposerTarget) : Nat :=
  (store.revisionEntry target).getD 0

def clearAt (store : ComposerDraftStore) (target : ComposerTarget) : Nat :=
  (store.clearEntry target).getD 0

/-- The content a restart gives back for a stored one. -/
def persistedContent (document : ComposerDocument) : ComposerDocument :=
  document.truncatedToPlainBytes MAX_PERSISTED_COMPOSER_DRAFT_BYTES

/-- No stored document truncates to nothing. -/
def Survives (store : ComposerDraftStore) : Prop :=
  forall target document, store.contentAt target = some document ->
    (persistedContent document).isEmpty = false

/-- What a loaded store has in common with the store it was written from. -/
structure RestoredFrom (store : ComposerDraftStore) (protection : ComposerDraftProtection)
    (loaded : ComposerDraftStore) : Prop where
  content : forall target, loaded.contentAt target = (store.contentAt target).map persistedContent
  revision : forall target, (store.contentAt target).isSome = true ∨ loaded.IsListed target ->
    loaded.revisionAt target = store.revisionAt target
  cleared : forall target, (store.contentAt target).isSome = true ∨ loaded.IsListed target ->
    loaded.clearAt target = store.clearAt target
  room_lru : loaded.quiescentRoomLru = retainNewest MAX_PERSISTED_COMPOSER_DRAFT_ROOM_COUNT
    ((store.persistedProjection protection).quiescentRoomOrder ++
      (store.persistedProjection protection).protectedEmptyRooms)
  thread_lru : loaded.quiescentThreadLru = retainNewest MAX_PERSISTED_COMPOSER_DRAFT_THREAD_COUNT
    ((store.persistedProjection protection).quiescentThreadOrder ++
      (store.persistedProjection protection).protectedEmptyThreads)
  room_kept : (store.persistedProjection protection).quiescentRoomOrder.length +
      (store.persistedProjection protection).protectedEmptyRooms.length ≤ MAX_PERSISTED_COMPOSER_DRAFT_ROOM_COUNT ->
    forall (roomId : String) (entry : ComposerDraftPersistenceEntry),
      (store.persistedProjection protection).rooms[roomId]? = some entry ->
        (store.contentAt (.main roomId)).isSome = true ∨ loaded.IsListed (.main roomId)
  thread_kept : (store.persistedProjection protection).quiescentThreadOrder.length +
      (store.persistedProjection protection).protectedEmptyThreads.length ≤
        MAX_PERSISTED_COMPOSER_DRAFT_THREAD_COUNT ->
    forall roomId rootEventId entry,
      (store.persistedProjection protection).threads.lookup roomId rootEventId = some entry ->
        (store.contentAt (.thread roomId rootEventId)).isSome = true ∨
          loaded.IsListed (.thread roomId rootEventId)
  room_order : forall first second, [first, second].Sublist loaded.quiescentRoomLru ->
    first ∈ store.quiescentRoomLru -> second ∈ store.quiescentRoomLru ->
    targetIsTouchProtected protection (.main first) = false ->
    targetIsTouchProtected protection (.main second) = false ->
      [first, second].Sublist store.quiescentRoomLru
  thread_order : forall first second : String × String, [first, second].Sublist loaded.quiescentThreadLru ->
    first ∈ store.quiescentThreadLru -> second ∈ store.quiescentThreadLru ->
    targetIsTouchProtected protection (.thread first.1 first.2) = false ->
    targetIsTouchProtected protection (.thread second.1 second.2) = false ->
      [first, second].Sublist store.quiescentThreadLru

/-- A key is touch protected when the one target that has it is. -/
theorem contains_touchProtectedKeys {κ : Type} [Ord κ] [Std.TransOrd κ] [Std.LawfulEqOrd κ]
    [DecidableEq κ] {keyOf : ComposerTarget -> Option κ} {key : κ} {target : ComposerTarget}
    (names : ∀ other, keyOf other = some key ↔ other = target) :
    (protection.touchProtectedKeys keyOf).contains key = targetIsTouchProtected protection target := by
  rw [Bool.eq_iff_iff, ExtTreeSet.contains_iff_mem, ComposerDraftProtection.touchProtectedKeys,
    OrdSet.mem_ofList, mem_filterMap]
  simp [names, targetIsTouchProtected]

theorem contains_touchProtectedKeys_main (roomId : String) :
    (protection.touchProtectedKeys mainRoomOf).contains roomId =
      targetIsTouchProtected protection (.main roomId) := by
  apply contains_touchProtectedKeys
  intro other
  cases other <;> simp [mainRoomOf]

theorem contains_touchProtectedKeys_thread (target : String × String) :
    (protection.touchProtectedKeys threadOf).contains target =
      targetIsTouchProtected protection (.thread target.1 target.2) := by
  apply contains_touchProtectedKeys
  intro other
  cases other <;> simp [threadOf, Prod.ext_iff]

/-- The two families of slots of a loaded store. -/
theorem roomSlots_restored (store : ComposerDraftStore) (protection : ComposerDraftProtection) :
    (ofProjection (store.persistedProjection protection)).roomSlots =
      loadedSlots (writtenEntry store.roomSlots (store.retainedRooms protection))
        (loadedOrder (store.persistedRoomOrder protection)
          (protectedEmpty store.roomHasContent (protection.touchProtectedKeys mainRoomOf))
          MAX_PERSISTED_COMPOSER_DRAFT_ROOM_COUNT) := by
  rw [roomSlots_ofProjection, roomEntries_persistedProjection]
  rfl

theorem threadSlots_restored (store : ComposerDraftStore) (protection : ComposerDraftProtection) :
    (ofProjection (store.persistedProjection protection)).threadSlots =
      loadedSlots (writtenEntry store.threadSlots (store.retainedThreads protection))
        (loadedOrder (store.persistedThreadOrder protection)
          (protectedEmpty store.threadHasContent (protection.touchProtectedKeys threadOf))
          MAX_PERSISTED_COMPOSER_DRAFT_THREAD_COUNT) := by
  rw [threadSlots_ofProjection, threadEntries_persistedProjection]
  rfl

theorem quiescentRoomLru_restored :
    (ofProjection (store.persistedProjection protection)).quiescentRoomLru =
      loadedOrder (store.persistedRoomOrder protection)
        (protectedEmpty store.roomHasContent (protection.touchProtectedKeys mainRoomOf))
        MAX_PERSISTED_COMPOSER_DRAFT_ROOM_COUNT := by
  rw [← roomSlots_recency, roomSlots_restored, recency_loadedSlots]

theorem quiescentThreadLru_restored :
    (ofProjection (store.persistedProjection protection)).quiescentThreadLru =
      loadedOrder (store.persistedThreadOrder protection)
        (protectedEmpty store.threadHasContent (protection.touchProtectedKeys threadOf))
        MAX_PERSISTED_COMPOSER_DRAFT_THREAD_COUNT := by
  rw [← threadSlots_recency, threadSlots_restored, recency_loadedSlots]

/-- A loaded target is one that the loader keeps. -/
theorem loaderKeeps_iff (target : ComposerTarget) : store.LoaderKeeps protection target ↔
      (store.contentAt target).isSome = true ∨
        (ofProjection (store.persistedProjection protection)).IsListed target := by
  cases target with
  | main roomId => rw [IsListed, quiescentRoomLru_restored, LoaderKeeps, contentAt]
  | thread roomId rootEventId => rw [IsListed, quiescentThreadLru_restored, LoaderKeeps, contentAt]

section Restored

variable (wellFormed : WellFormed store)

include wellFormed

theorem contentAt_restored (target : ComposerTarget) :
    (ofProjection (store.persistedProjection protection)).contentAt target =
      (store.contentAt target).map persistedContent := by
  revert target
  apply forall_target
  · intro roomId
    have loaded := congrArg (fun slots => slots.content roomId) (roomSlots_restored store protection)
    exact loaded.trans (content_loadedSlots wellFormed.rooms (mem_contentRooms wellFormed.rooms) roomId)
  · intro target
    have loaded := congrArg (fun slots => slots.content target) (threadSlots_restored store protection)
    exact loaded.trans (content_loadedSlots wellFormed.threads (mem_contentThreads wellFormed.threads) target)

/-- The loader gives back the two revisions of every target it keeps. -/
theorem revisions_restored (target : ComposerTarget) (kept : store.LoaderKeeps protection target) :
    (ofProjection (store.persistedProjection protection)).revisionAt target = store.revisionAt target ∧
      (ofProjection (store.persistedProjection protection)).clearAt target = store.clearAt target := by
  cases target with
  | main roomId =>
    have written := mem_retainedKeys_of_kept (mem_contentRooms wellFormed.rooms) roomId kept
    have loaded := roomSlots_restored store protection
    have kept := Or.imp_left (slotEntry_content_isSome wellFormed.rooms roomId).trans kept
    exact ⟨(congrArg (fun slots => slots.revisionOf roomId) loaded).trans (revisionOf_loadedSlots written kept),
      (congrArg (fun slots => (slots.cleared roomId).getD 0) loaded).trans (cleared_loadedSlots written kept)⟩
  | thread roomId rootEventId =>
    have written := mem_retainedKeys_of_kept (mem_contentThreads wellFormed.threads)
      (roomId, rootEventId) kept
    have loaded := threadSlots_restored store protection
    have kept := Or.imp_left (slotEntry_content_isSome wellFormed.threads (roomId, rootEventId)).trans kept
    exact ⟨(congrArg (fun slots => slots.revisionOf (roomId, rootEventId)) loaded).trans
        (revisionOf_loadedSlots written kept),
      (congrArg (fun slots => (slots.cleared (roomId, rootEventId)).getD 0) loaded).trans
        (cleared_loadedSlots written kept)⟩

/-- What is loaded from a store's own projection, whether or not it would be accepted. -/
theorem restoredFrom_ofProjection :
    RestoredFrom store protection (ofProjection (store.persistedProjection protection)) where
  content := contentAt_restored protection wellFormed
  revision := by
    intro target kept
    exact (revisions_restored protection wellFormed target ((loaderKeeps_iff protection target).mpr kept)).1
  cleared := by
    intro target kept
    exact (revisions_restored protection wellFormed target ((loaderKeeps_iff protection target).mpr kept)).2
  room_lru := by
    rw [quiescentRoomLru_restored, loadedOrder_protectedEmpty]
    rfl
  thread_lru := by
    rw [quiescentThreadLru_restored, loadedOrder_protectedEmpty]
    rfl
  room_kept := by
    intro fits roomId entry written
    rw [persistedProjection_rooms] at written
    exact (loaderKeeps_iff protection (.main roomId)).mp
      (kept_of_fits (mem_contentRooms wellFormed.rooms) fits written)
  thread_kept := by
    intro fits roomId rootEventId entry written
    have kept := kept_of_fits (mem_contentThreads wellFormed.threads) fits
      ((persistedProjection_threads store protection (roomId, rootEventId)).symm.trans written)
    exact (loaderKeeps_iff protection (.thread roomId rootEventId)).mp kept
  room_order := by
    intro first second loaded firstListed secondListed firstFree secondFree
    rw [← contains_touchProtectedKeys_main] at firstFree secondFree
    exact pair_sublist_recency (quiescentOrder_sublist _ _ _ _ wellFormed.rooms.recency_nodup) loaded
      firstListed secondListed firstFree secondFree
  thread_order := by
    intro first second loaded firstListed secondListed firstFree secondFree
    rw [quiescentThreadLru_restored] at loaded
    rw [← contains_touchProtectedKeys_thread] at firstFree secondFree
    exact pair_sublist_recency (quiescentOrder_sublist _ _ _ _ wellFormed.threads.recency_nodup) loaded
      firstListed secondListed firstFree secondFree

/-- The loader accepts a store's own projection when no document truncates to nothing. -/
theorem fromPersistedProjection_persistedProjection (survives : Survives store) :
    fromPersistedProjection (store.persistedProjection protection) =
      .ok (ofProjection (store.persistedProjection protection)) := by
  refine fromPersistedProjection_ok_iff.mpr ⟨(validatePersistedProjection_ok_iff _).mpr ⟨?_, ?_, ?_⟩, rfl⟩
  · rw [roomEntries_persistedProjection]
    exact laneAccepted_written wellFormed.rooms _ _
      (quiescentOrder_sublist _ _ _ _ wellFormed.rooms.recency_nodup) (mem_contentRooms wellFormed.rooms)
      (fun roomId => survives (.main roomId))
  · exact NestedMap.noEmptyInner_ofPairs _ _
  · rw [threadEntries_persistedProjection]
    exact laneAccepted_written wellFormed.threads _ _
      (quiescentOrder_sublist _ _ _ _ wellFormed.threads.recency_nodup) (mem_contentThreads wellFormed.threads)
      (fun target => survives (.thread target.1 target.2))

/-- A document that truncates to nothing makes the loader refuse the whole projection. -/
theorem fromPersistedProjection_ok_iff_survives :
    (∃ loaded, fromPersistedProjection (store.persistedProjection protection) = .ok loaded) ↔ Survives store := by
  constructor
  · rintro ⟨loaded, accepted⟩
    have lanes := (validatePersistedProjection_ok_iff _).mp (fromPersistedProjection_ok_iff.mp accepted).1
    rw [roomEntries_persistedProjection, threadEntries_persistedProjection] at lanes
    apply forall_target
    · intro roomId document held
      exact isContent_truncated wellFormed.rooms (mem_contentRooms wellFormed.rooms) lanes.1 held
    · intro target document held
      exact isContent_truncated wellFormed.threads (mem_contentThreads wellFormed.threads) lanes.2.2 held
  · intro survives
    exact ⟨_, fromPersistedProjection_persistedProjection protection wellFormed survives⟩

end Restored

/-! ## Reachable stores -/

/-- A reachable store comes back from its own projection. -/
theorem run_restoredFrom (operations : List ComposerDraftOperation) (protection : ComposerDraftProtection)
    (survives : Survives (run perform default operations)) : ∃ loaded,
      fromPersistedProjection ((run perform default operations).persistedProjection protection) =
        .ok loaded ∧ RestoredFrom (run perform default operations) protection loaded :=
  ⟨_, fromPersistedProjection_persistedProjection protection (wellFormed_run operations) survives,
    restoredFrom_ofProjection protection (wellFormed_run operations)⟩

theorem run_reloads_iff (operations : List ComposerDraftOperation) (protection : ComposerDraftProtection) :
    let store := run perform default operations
    (∃ loaded, fromPersistedProjection (store.persistedProjection protection) = .ok loaded) ↔ Survives store :=
  fromPersistedProjection_ok_iff_survives protection (wellFormed_run operations)

/-- Two rooms are emptied one after the other, and a third gets a draft. -/
def threeRooms : List ComposerDraftOperation :=
  [.applyRoomDraft "a" ComposerDocument.default 1, .applyRoomDraft "b" ComposerDocument.default 1,
    .applyRoomDraft "c" (ComposerDocument.fromPlainText "hi") 1]

def firstActive : ComposerDraftProtection :=
  ⟨Std.ExtTreeSet.ofList [ComposerTarget.main "a"], ∅, ∅⟩

theorem survives_threeRooms : Survives (run perform default threeRooms) := by
  have rooms : (run perform default threeRooms).rooms =
      (∅ : OrdMap String ComposerDocument).insert "c" (ComposerDocument.fromPlainText "hi") := by
    decide
  have threads : (run perform default threeRooms).threads = ∅ := by
    decide
  intro target document held
  cases target with
  | main roomId =>
    rw [contentAt, rooms] at held
    rcases OrdMap.getElem?_insert_cases held with ⟨_, rfl⟩ | ⟨_, nothing⟩
    · decide
    · simp at nothing
  | thread roomId rootEventId =>
    rw [contentAt, threads, NestedMap.lookup_empty] at held
    cases held

theorem run_restoredFrom_threeRooms : Survives (run perform default threeRooms) ∧ ∃ loaded,
        fromPersistedProjection ((run perform default threeRooms).persistedProjection firstActive) =
          .ok loaded ∧ RestoredFrom (run perform default threeRooms) firstActive loaded :=
  ⟨survives_threeRooms, run_restoredFrom threeRooms firstActive survives_threeRooms⟩

/-- The active room was the older one and is loaded as the newer one. -/
theorem restored_order_changes : (run perform default threeRooms).quiescentRoomLru = ["a", "b"] ∧
      ∃ loaded,
        fromPersistedProjection ((run perform default threeRooms).persistedProjection firstActive) =
          .ok loaded ∧ loaded.quiescentRoomLru = ["b", "a"] := by
  refine ⟨by decide, _, fromPersistedProjection_persistedProjection firstActive (wellFormed_run threeRooms)
    survives_threeRooms, ?_⟩
  decide

end ComposerDraftStore

end Koushi
