import Koushi.Composer.DraftPersistence
import Koushi.Composer.DraftRefinement

namespace Koushi

open Collections Std NestedMap OrdSet List
open Option (bind_eq_some_iff map_eq_some_iff)

attribute [local instance] lexOrd

/-!
# What the writer writes and what the loader accepts

Both halves of a projection are lanes: a table of entries, an order of
tombstones and a protected group.  `LaneAccepted` is the loader's validation of a
lane, read off the source's checks.  A lane that passes loads into coherent slots
as long as no content truncates to nothing.  A lane written from coherent slots
passes, under the same proviso.

The proviso is not idle.  A mention is truncated as a whole, so a document that
starts with an oversized mention is written as an empty document, and the loader
refuses the entire projection.
-/

set_option linter.unusedSectionVars false

section Lane

variable {κ : Type} [Ord κ] [TransOrd κ] [LawfulEqOrd κ] [DecidableEq κ]

/-! ## Validation -/

structure LaneAccepted (entryAt : κ -> Option ComposerDraftPersistenceEntry) (order guarded : List κ) :
    Prop where
  valid : forall key entry, entryAt key = some entry -> entry.isInvalid = false
  order_nodup : order.Nodup
  guarded_nodup : guarded.Nodup
  disjoint : forall key, key ∈ order -> key ∉ guarded
  empties : forall key, key ∈ order ∨ key ∈ guarded ↔ ∃ entry, entryAt key = some entry ∧ entry.content = none

variable {order guarded : List κ} {key : κ}

theorem laneIsInvalid_eq_false_iff {emptyKeys : OrdSet κ} :
    laneIsInvalid order guarded emptyKeys = false ↔
      order.Nodup ∧ guarded.Nodup ∧ (forall key, key ∈ order -> key ∉ guarded) ∧
        forall key, key ∈ order ∨ key ∈ guarded ↔ key ∈ emptyKeys := by
  have apart : ((ExtTreeSet.ofList order : OrdSet κ) ∩ ExtTreeSet.ofList guarded).isEmpty = true ↔
      forall key, key ∈ order -> key ∉ guarded := by
    rw [ExtTreeSet.isEmpty_iff, ExtTreeSet.eq_empty_iff_forall_not_mem]
    simp only [ExtTreeSet.mem_inter_iff, mem_ofList, not_and]
  have covers : ((ExtTreeSet.ofList order : OrdSet κ) ∪ ExtTreeSet.ofList guarded) = emptyKeys ↔
      forall key, key ∈ order ∨ key ∈ guarded ↔ key ∈ emptyKeys := by
    rw [ExtTreeSet.ext_mem_iff]
    simp only [ExtTreeSet.mem_union_iff, mem_ofList]
  simp only [laneIsInvalid, Bool.or_eq_false_iff, decide_eq_false_iff_not, not_not, Bool.not_eq_false',
    size_ofList_eq_length_iff, apart, covers, and_assoc]

/-- The source's two checks of a lane: its entries, and its order against the keys of
the empty ones. -/
theorem laneAccepted_iff {entryAt : κ -> Option ComposerDraftPersistenceEntry} {emptyKeys : OrdSet κ}
    (empties : (forall key entry, entryAt key = some entry -> entry.isInvalid = false) -> forall key,
      key ∈ emptyKeys ↔ ∃ entry, entryAt key = some entry ∧ entry.content = none) :
    LaneAccepted entryAt order guarded ↔
      (forall key entry, entryAt key = some entry -> entry.isInvalid = false) ∧
        laneIsInvalid order guarded emptyKeys = false := by
  rw [laneIsInvalid_eq_false_iff]
  constructor
  · rintro ⟨valid, orderNodup, guardedNodup, disjoint, covered⟩
    exact ⟨valid, orderNodup, guardedNodup, disjoint, fun key => (covered key).trans (empties valid key).symm⟩
  · rintro ⟨valid, orderNodup, guardedNodup, disjoint, covered⟩
    exact ⟨valid, orderNodup, guardedNodup, disjoint, fun key => (covered key).trans (empties valid key)⟩

/-! ## Loading a lane -/

/-- The slots the loader builds from one lane. -/
def loadedSlots (entryAt : κ -> Option ComposerDraftPersistenceEntry) (listing : List κ) : DraftSlots κ where
  content := fun key => (entryAt key).bind loadedContent
  revision := fun key => (entryAt key).bind (fun entry => loadedRevision entry (isRetained listing key))
  cleared := fun key => (entryAt key).bind (fun entry => loadedClear entry (isRetained listing key))
  mark := fun key => (entryAt key).bind loadedMarker
  recency := listing

theorem recency_loadedSlots (entryAt : κ -> Option ComposerDraftPersistenceEntry) (listing : List κ) :
    (loadedSlots entryAt listing).recency = listing := rfl

theorem mem_loadedOrder {maximum : Nat}
    (listed : key ∈ loadedOrder order guarded maximum) : key ∈ order ∨ key ∈ guarded := by
  have member := (retainNewest_sublist maximum _).subset listed
  rcases mem_append.mp member with quiescent | sorted
  · exact .inl quiescent
  · exact .inr ((mem_insertionSort _).mp sorted)

theorem nodup_loadedOrder (orderNodup : order.Nodup) (guardedNodup : guarded.Nodup)
    (disjoint : forall key, key ∈ order -> key ∉ guarded) (maximum : Nat) :
    (loadedOrder order guarded maximum).Nodup := by
  refine List.Nodup.sublist (retainNewest_sublist maximum _) ?_
  rw [nodup_append]
  refine ⟨orderNodup, (perm_insertionSort _ guarded).nodup_iff.mpr guardedNodup, ?_⟩
  intro left quiescent right sorted same
  exact disjoint left quiescent (same ▸ (mem_insertionSort _).mp sorted)

open FencedSlots in
/-- An accepted lane loads into coherent slots. -/
theorem LaneAccepted.coherent {entryAt : κ -> Option ComposerDraftPersistenceEntry}
    (accepted : LaneAccepted entryAt order guarded) (maximum : Nat)
    (survives : forall key entry content, entryAt key = some entry -> entry.content = some content ->
    IsContent (content.truncatedToPlainBytes MAX_PERSISTED_COMPOSER_DRAFT_BYTES)) :
    Coherent IsContent (loadedSlots entryAt (loadedOrder order guarded maximum)) where
  content_revision := by
    intro key content held
    rcases bind_eq_some_iff.mp held with ⟨entry, found, loaded⟩
    rcases map_eq_some_iff.mp loaded with ⟨source, present, _⟩
    simp [loadedSlots, found, loadedRevision, loadsEntry, present]
  cleared_le := by
    intro key cleared recorded
    rcases bind_eq_some_iff.mp recorded with ⟨entry, found, loaded⟩
    have wellFormed := accepted.valid key entry found
    simp only [ComposerDraftPersistenceEntry.isInvalid, Bool.or_eq_false_iff, decide_eq_false_iff_not,
      Nat.not_lt] at wellFormed
    simp only [loadedClear, Bool.and_eq_true] at loaded
    split at loaded
    · next kept =>
      cases loaded
      exact ⟨entry.revision, by simp [loadedSlots, found, loadedRevision, kept.1], wellFormed.1⟩
    · cases loaded
  mark_content := by
    intro key mark marked
    rcases bind_eq_some_iff.mp marked with ⟨entry, found, loaded⟩
    simp only [loadedMarker] at loaded
    split at loaded
    · next present => simpa [loadedSlots, found, loadedContent] using present
    · cases loaded
  content_valid := by
    intro key content held
    rcases bind_eq_some_iff.mp held with ⟨entry, found, loaded⟩
    rcases map_eq_some_iff.mp loaded with ⟨source, present, rfl⟩
    exact survives key entry source found present
  recency_nodup := nodup_loadedOrder accepted.order_nodup accepted.guarded_nodup accepted.disjoint maximum
  recency_tombstone := by
    intro key listed
    rcases (accepted.empties key).mp (mem_loadedOrder listed) with ⟨entry, found, absent⟩
    have retained : key ∈ loadedOrder order guarded maximum := listed
    simp [loadedSlots, found, loadedContent, absent, loadedRevision, loadsEntry, isRetained, retained]

/-! ## Writing a lane -/

theorem pushUnseen_eq {eligible : κ -> Bool} {order keys : List κ} (nodup : keys.Nodup) :
    pushUnseen eligible order keys =
      order ++ keys.filter (fun key => eligible key && !decide (key ∈ order)) := by
  induction keys generalizing order with
  | nil => simp [pushUnseen]
  | cons head rest ih =>
    have parts := nodup_cons.mp nodup
    have unfolded : pushUnseen eligible order (head :: rest) =
        pushUnseen eligible
          (if eligible head && !decide (head ∈ order) then order ++ [head] else order) rest := rfl
    rw [unfolded]
    split
    · next pushed =>
      have others : rest.filter (fun key => eligible key && !decide (key ∈ order ++ [head])) =
          rest.filter (fun key => eligible key && !decide (key ∈ order)) := by
        apply filter_congr
        intro key inRest
        have different : key ≠ head := fun same => parts.1 (same ▸ inRest)
        simp [different]
      rw [ih parts.2, others, filter_cons, if_pos pushed, append_assoc, singleton_append]
    · next skipped => rw [ih parts.2, filter_cons, if_neg skipped]

/-- Whether a slot holds content worth writing. -/
def slotHasContent (slots : DraftSlots κ) (key : κ) : Bool :=
  (slots.content key).any (fun content => !content.isEmpty)

/-- The entry written for a slot. -/
def slotEntry (slots : DraftSlots κ) (key : κ) : ComposerDraftPersistenceEntry where
  content := ((slots.content key).filter (fun content => !content.isEmpty)).map
    (fun content => content.truncatedToPlainBytes MAX_PERSISTED_COMPOSER_DRAFT_BYTES)
  revision := slots.revisionOf key
  lastAcceptedClearRevision := (slots.cleared key).getD 0
  assistant := if (slots.content key).isSome then slots.mark key else none

open FencedSlots

variable {slots : DraftSlots κ} (coherent : Coherent IsContent slots)

section Coherent

include coherent

theorem slotHasContent_eq : slotHasContent slots key = (slots.content key).isSome := by
  unfold slotHasContent
  cases held : slots.content key with
  | none => rfl
  | some content => simp [show content.isEmpty = false from coherent.content_valid key content held]

theorem slotEntry_content : (slotEntry slots key).content = (slots.content key).map
      (fun content => content.truncatedToPlainBytes MAX_PERSISTED_COMPOSER_DRAFT_BYTES) := by
  unfold slotEntry
  cases held : slots.content key with
  | none => rfl
  | some content => simp [show content.isEmpty = false from coherent.content_valid key content held]

end Coherent

/-- The keys listed by the writer before the quota is applied: the recency list
first, then the unlisted tombstones in key order. -/
def quiescentCandidates (slots : DraftSlots κ) (all touchProtected : OrdSet κ) : List κ :=
  slots.recency.filter (fun key =>
    all.contains key && !slotHasContent slots key && !touchProtected.contains key) ++
  all.toList.filter (fun key =>
    !slotHasContent slots key && !touchProtected.contains key && !decide (key ∈ slots.recency.filter (fun key =>
      all.contains key && !slotHasContent slots key && !touchProtected.contains key)))

variable (all touchProtected storePending : OrdSet κ) (maximum : Nat)

/-- The writer lists candidates only, in their order. -/
theorem quiescentOrder_sublist (nodup : slots.recency.Nodup) :
    (quiescentOrder all (slotHasContent slots) touchProtected storePending slots.recency maximum).Sublist
      (quiescentCandidates slots all touchProtected) := by
  have candidates : pushUnseen (fun key => !slotHasContent slots key && !touchProtected.contains key)
      (pushUnseen (fun key => all.contains key && !slotHasContent slots key && !touchProtected.contains key)
        [] slots.recency) all.toList = quiescentCandidates slots all touchProtected := by
    rw [pushUnseen_eq nodup, pushUnseen_eq (nodup_toList all)]
    simp [quiescentCandidates]
  simp only [quiescentOrder, retainNewestEligible, candidates, evictWhile_eq _ _ _ _ _ _ (Nat.le_refl _)]
  exact splitOldest_kept_sublist ..

theorem nodup_quiescentCandidates (nodup : slots.recency.Nodup) :
    (quiescentCandidates slots all touchProtected).Nodup := by
  apply nodup_append_unlisted (nodup.filter _) (nodup_toList all)
  intro key missing
  simp only [Bool.and_eq_true, Bool.not_eq_true', decide_eq_false_iff_not] at missing
  exact missing.2

theorem mem_quiescentCandidates : key ∈ quiescentCandidates slots all touchProtected ↔
      key ∈ all ∧ slotHasContent slots key = false ∧ key ∉ touchProtected := by
  simp only [quiescentCandidates, mem_append, mem_filter, Bool.and_eq_true, Bool.not_eq_true',
    ExtTreeSet.mem_toList, ExtTreeSet.contains_iff_mem, ← Bool.not_eq_true, decide_eq_true_eq]
  constructor
  · rintro (⟨_, ⟨known, empty⟩, free⟩ | ⟨known, ⟨empty, free⟩, _⟩)
    · exact ⟨known, empty, free⟩
    · exact ⟨known, empty, free⟩
  · rintro ⟨known, empty, free⟩
    by_cases listed : key ∈ slots.recency
    · exact .inl ⟨listed, ⟨known, empty⟩, free⟩
    · exact .inr ⟨known, ⟨empty, free⟩, fun member => listed member.1⟩

theorem mem_protectedEmpty : key ∈ protectedEmpty (slotHasContent slots) touchProtected ↔
      key ∈ touchProtected ∧ slotHasContent slots key = false := by
  simp [protectedEmpty]

/-! ## A written lane is accepted -/

/-- The entries written for a lane. -/
def writtenEntry (slots : DraftSlots κ) (retained : List κ) (key : κ) : Option ComposerDraftPersistenceEntry :=
  if key ∈ retained then some (slotEntry slots key) else none

theorem mem_retainedKeys {contentKeys order guarded : List κ} :
    key ∈ retainedKeys contentKeys order guarded ↔ key ∈ contentKeys ∨ key ∈ order ∨ key ∈ guarded := by
  rw [retainedKeys, ExtTreeSet.mem_toList, mem_ofList]
  simp only [mem_append, or_assoc]

include coherent in
/-- A lane written from coherent slots passes validation when no content
truncates to nothing. -/
theorem laneAccepted_written {contentKeys order : List κ}
    (written : order.Sublist (quiescentCandidates slots all touchProtected))
    (contents : forall key, key ∈ contentKeys ↔ (slots.content key).isSome = true)
    (survives : forall key content, slots.content key = some content ->
      IsContent (content.truncatedToPlainBytes MAX_PERSISTED_COMPOSER_DRAFT_BYTES)) : LaneAccepted
      (writtenEntry slots (retainedKeys contentKeys order (protectedEmpty (slotHasContent slots) touchProtected)))
      order (protectedEmpty (slotHasContent slots) touchProtected) := by
  have listed : forall key, key ∈ order -> slotHasContent slots key = false ∧ key ∉ touchProtected := by
    intro key member
    exact ((mem_quiescentCandidates all touchProtected).mp (written.subset member)).2
  refine ⟨?_, ?_, ?_, ?_, ?_⟩
  · intro key entry written
    unfold writtenEntry at written
    split at written
    · cases written
      have notEmpty : (slotEntry slots key).content.any ComposerDocument.isEmpty = false := by
        rw [slotEntry_content coherent]
        cases held : slots.content key with
        | none => rfl
        | some content => exact survives key content held
      have bounded := coherent.cleared_le_revisionOf key
      simp only [ComposerDraftPersistenceEntry.isInvalid, notEmpty, Bool.or_false, decide_eq_false_iff_not,
        Nat.not_lt]
      exact bounded
    · cases written
  · exact (nodup_quiescentCandidates all touchProtected coherent.recency_nodup).sublist written
  · exact (nodup_toList touchProtected).filter _
  · intro key quiescent guarded
    exact (listed key quiescent).2 ((mem_protectedEmpty touchProtected).mp guarded).1
  · intro key
    have emptyIff : (slotEntry slots key).content = none ↔ slotHasContent slots key = false := by
      rw [slotEntry_content coherent, slotHasContent_eq coherent, Option.map_eq_none_iff,
        Option.isSome_eq_false_iff, Option.isNone_iff_eq_none]
    constructor
    · intro member
      have retained : key ∈ retainedKeys contentKeys _ _ := mem_retainedKeys.mpr (Or.inr member)
      refine ⟨slotEntry slots key, if_pos retained, emptyIff.mpr ?_⟩
      rcases member with quiescent | guarded
      · exact (listed key quiescent).1
      · exact ((mem_protectedEmpty touchProtected).mp guarded).2
    · rintro ⟨entry, written, absent⟩
      unfold writtenEntry at written
      split at written
      · next retained =>
        cases written
        rcases mem_retainedKeys.mp retained with content | rest
        · have empty := emptyIff.mp absent
          rw [slotHasContent_eq coherent, (contents key).mp content] at empty
          cases empty
        · exact rest
      · cases written

/-- A written content is its own truncation. -/
theorem slotEntry_content_truncated {content : ComposerDocument}
    (written : (slotEntry slots key).content = some content) :
    content.truncatedToPlainBytes MAX_PERSISTED_COMPOSER_DRAFT_BYTES = content := by
  rcases map_eq_some_iff.mp written with ⟨source, _, rfl⟩
  exact source.truncatedToPlainBytes_idem MAX_PERSISTED_COMPOSER_DRAFT_BYTES

end Lane

/-! ## The two lanes of a store -/

namespace ComposerDraftStore

variable (store : ComposerDraftStore) (protection : ComposerDraftProtection)

theorem roomEntry_eq : store.roomEntry = slotEntry store.roomSlots := by
  funext roomId
  simp only [roomEntry, slotEntry, roomSlots, roomRevision, FencedSlots.revisionOf, roomAssistantMarker,
    ExtTreeMap.contains_eq_isSome_getElem?]
  rfl

theorem threadEntry_eq : store.threadEntry = slotEntry store.threadSlots := rfl

theorem roomHasContent_eq : store.roomHasContent = slotHasContent store.roomSlots := rfl

theorem threadHasContent_eq : store.threadHasContent = slotHasContent store.threadSlots := rfl

/-- The rooms with an entry. -/
def retainedRooms : List String :=
  retainedKeys (store.rooms.keys.filter store.roomHasContent) (store.persistedRoomOrder protection)
    (protectedEmpty store.roomHasContent (protection.touchProtectedKeys mainRoomOf))

def retainedThreads : List (String × String) :=
  retainedKeys (store.threads.pairs.filter store.threadHasContent) (store.persistedThreadOrder protection)
    (protectedEmpty store.threadHasContent (protection.touchProtectedKeys threadOf))

theorem persistedProjection_rooms (roomId : String) :
    (store.persistedProjection protection).rooms[roomId]? =
      writtenEntry store.roomSlots (store.retainedRooms protection) roomId := by
  rw [writtenEntry, ← roomEntry_eq]
  exact OrdMap.getElem?_ofKeys _ _ _

theorem persistedProjection_threads (target : String × String) :
    (store.persistedProjection protection).threads.lookup target.1 target.2 =
      writtenEntry store.threadSlots (store.retainedThreads protection) target := by
  have looked := lookup_ofPairs (store.retainedThreads protection) store.threadEntry target.1 target.2
  rw [writtenEntry, ← threadEntry_eq]
  by_cases retained : target ∈ store.retainedThreads protection
  · rw [if_pos retained]
    exact looked.trans (if_pos retained)
  · rw [if_neg retained]
    exact looked.trans (if_neg retained)

variable {projection : ComposerDraftPersistenceProjection}

theorem roomSlots_ofProjection : (ofProjection projection).roomSlots =
      loadedSlots (fun roomId : String => projection.rooms[roomId]?)
        (loadedOrder projection.quiescentRoomOrder projection.protectedEmptyRooms
          MAX_PERSISTED_COMPOSER_DRAFT_ROOM_COUNT) := by
  apply FencedSlots.ext <;> intros <;>
    simp only [ofProjection, roomSlots, loadedSlots, ExtTreeMap.getElem?_filterMap']

theorem threadSlots_ofProjection : (ofProjection projection).threadSlots =
      loadedSlots (fun target => projection.threads.lookup target.1 target.2)
        (loadedOrder projection.quiescentThreadOrder projection.protectedEmptyThreads
          MAX_PERSISTED_COMPOSER_DRAFT_THREAD_COUNT) := by
  -- Each of the four tables is filtered from the entries, with the same lookup.
  apply FencedSlots.ext
  case recency => rfl
  all_goals exact fun target => lookup_filterMapInner projection.threads _ target.1 target.2

end ComposerDraftStore

theorem mem_emptyRoomsOf {projection : ComposerDraftPersistenceProjection}
    (valid : forall (roomId : String) (entry : ComposerDraftPersistenceEntry), projection.rooms[roomId]? = some entry -> entry.isInvalid = false)
    (roomId : String) : roomId ∈ emptyRoomsOf projection ↔
      ∃ entry, projection.rooms[roomId]? = some entry ∧ entry.content = none := by
  rw [emptyRoomsOf, mem_ofList, mem_map]
  constructor
  · rintro ⟨⟨key, entry⟩, listed, rfl⟩
    have parts := mem_filter.mp listed
    refine ⟨entry, ExtTreeMap.mem_toList_iff_getElem?_eq_some.mp parts.1, ?_⟩
    simpa using (Bool.and_eq_true_iff.mp parts.2).2
  · rintro ⟨entry, found, absent⟩
    refine ⟨(roomId, entry), mem_filter.mpr ⟨?_, ?_⟩, rfl⟩
    · exact ExtTreeMap.mem_toList_iff_getElem?_eq_some.mpr found
    · simp [valid roomId entry found, absent]

theorem mem_emptyThreadsOf {projection : ComposerDraftPersistenceProjection} (target : String × String) :
    target ∈ emptyThreadsOf projection ↔
      ∃ entry, projection.threads.lookup target.1 target.2 = some entry ∧ entry.content = none := by
  rw [emptyThreadsOf, mem_ofList, mem_filter, mem_pairs]
  cases found : projection.threads.lookup target.1 target.2 <;> simp

variable (projection : ComposerDraftPersistenceProjection)

/-- No listed room entry is invalid exactly when no looked-up one is. -/
theorem any_rooms_invalid_iff : projection.rooms.toList.any (fun room => room.2.isInvalid) = false ↔
      forall (roomId : String) (entry : ComposerDraftPersistenceEntry), projection.rooms[roomId]? = some entry -> entry.isInvalid = false := by
  rw [any_eq_false]
  constructor
  · intro none roomId entry found
    exact Bool.eq_false_iff.mpr
      (none (roomId, entry) (ExtTreeMap.mem_toList_iff_getElem?_eq_some.mpr found))
  · rintro valid ⟨roomId, entry⟩ listed
    simpa using valid roomId entry (ExtTreeMap.mem_toList_iff_getElem?_eq_some.mp listed)

theorem any_threads_invalid_iff : projection.threads.toList.any (fun room =>
        room.2.isEmpty || room.2.toList.any (fun thread => thread.2.isInvalid)) = false ↔
      projection.threads.NoEmptyInner ∧ forall target : String × String, forall entry,
        projection.threads.lookup target.1 target.2 = some entry -> entry.isInvalid = false := by
  rw [any_eq_false]
  constructor
  · intro none
    constructor
    · intro roomId entries found empty
      exact none (roomId, entries) (ExtTreeMap.mem_toList_iff_getElem?_eq_some.mpr found)
        (by simp [empty])
    · rintro ⟨roomId, rootEventId⟩ entry found
      rcases bind_eq_some_iff.mp found with ⟨entries, inRoom, inThread⟩
      have fine := none (roomId, entries) (ExtTreeMap.mem_toList_iff_getElem?_eq_some.mpr inRoom)
      simp only [Bool.or_eq_true, not_or, any_eq_true, not_exists, not_and] at fine
      exact Bool.eq_false_iff.mpr
        (fine.2 (rootEventId, entry) (ExtTreeMap.mem_toList_iff_getElem?_eq_some.mpr inThread))
  · rintro ⟨inhabited, valid⟩ ⟨roomId, entries⟩ listed
    have found := ExtTreeMap.mem_toList_iff_getElem?_eq_some.mp listed
    simp only [Bool.or_eq_true, not_or, any_eq_true, not_exists, not_and]
    refine ⟨fun empty => inhabited roomId entries found (ExtTreeMap.isEmpty_iff.mp empty), ?_⟩
    rintro ⟨rootEventId, entry⟩ inner
    have inThread := ExtTreeMap.mem_toList_iff_getElem?_eq_some.mp inner
    simpa using valid (roomId, rootEventId) entry (by simp [NestedMap.lookup, found, inThread])

/-- Validation is acceptance of both lanes, with no empty room of threads. -/
theorem validatePersistedProjection_ok_iff : validatePersistedProjection projection = .ok () ↔
      LaneAccepted (fun roomId : String => projection.rooms[roomId]?) projection.quiescentRoomOrder
        projection.protectedEmptyRooms ∧ projection.threads.NoEmptyInner ∧
      LaneAccepted (fun target => projection.threads.lookup target.1 target.2)
        projection.quiescentThreadOrder projection.protectedEmptyThreads := by
  rw [laneAccepted_iff mem_emptyRoomsOf, laneAccepted_iff (fun _ => mem_emptyThreadsOf),
    ← any_rooms_invalid_iff, ← and_assoc (a := NoEmptyInner _), ← any_threads_invalid_iff, and_assoc]
  unfold validatePersistedProjection
  grind

end Koushi
