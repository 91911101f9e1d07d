import Koushi.Composer.DraftRoundTrip

namespace Koushi

open Collections Machine FencedSlots List ComposerDraftRevision Nat

attribute [local instance] lexOrd

/-!
# The draft fence

The revision of a target fences off late writes: a write is accepted only above
it.  A target keeps its fence as long as no operation of `Removes` names it.  For
reconciliation that means the target is protected.  For a restart protection is
not enough: the loader counts protected tombstones against its quota, so the
target must have content or be among the newest tombstones of the projection.
-/

namespace ComposerDraftStore

open FencedSlots

variable {store : ComposerDraftStore} {protection : ComposerDraftProtection}

/-- The operation does not remove the target: it is no clear or retention that
drops it, a reconciliation protects it, and a restart keeps it. -/
def Keeps (target : ComposerTarget) (store : ComposerDraftStore) (operation : ComposerDraftOperation) : Prop :=
  ¬store.Removes operation target

/-- A content write that carries its revision. -/
def writeAt (store : ComposerDraftStore) (target : ComposerTarget) (document : ComposerDocument)
    (revision : Nat) : Bool × ComposerDraftStore :=
  match target with
  | .main roomId => store.applyRoomDraft roomId document revision
  | .thread roomId rootEventId => store.applyThreadDraft roomId rootEventId document revision

/-- The operation clears a target, and the clear is accepted at a revision: an
empty draft is written there, or a submission consumes the draft. -/
inductive AcceptsClear (store : ComposerDraftStore) : ComposerDraftOperation -> ComposerTarget -> Nat -> Prop
  | emptyRoom (roomId : String) (document : ComposerDocument) (revision : Nat)
      (empty : document.isEmpty = true)
      (accepted : (store.applyRoomDraft roomId document revision).1 = true) :
      AcceptsClear store (.applyRoomDraft roomId document revision) (.main roomId) revision
  | emptyThread (roomId rootEventId : String) (document : ComposerDocument) (revision : Nat)
      (empty : document.isEmpty = true)
      (accepted : (store.applyThreadDraft roomId rootEventId document revision).1 = true) :
      AcceptsClear store (.applyThreadDraft roomId rootEventId document revision)
        (.thread roomId rootEventId) revision
  | resetRoom (roomId : String) (document : ComposerDocument) (revision : Nat)
      (empty : document.isEmpty = true)
      (successor : checkedSuccessor (store.roomRevision roomId)
        ComposerDraftRevision.ZERO = .ok revision) :
      AcceptsClear store (.setRoomDraft roomId document) (.main roomId) revision
  | resetThread (roomId rootEventId : String) (document : ComposerDocument) (revision : Nat)
      (empty : document.isEmpty = true)
      (successor : checkedSuccessor (store.threadRevision roomId rootEventId)
        ComposerDraftRevision.ZERO = .ok revision) :
      AcceptsClear store (.setThreadDraft roomId rootEventId document) (.thread roomId rootEventId) revision
  | submitRoom (roomId : String) (submittedRevision revision : Nat) (next : ComposerDraftStore)
      (consumed : store.roomRevision roomId ≤ submittedRevision)
      (accepted : store.advanceRoomRevision roomId submittedRevision = .ok (revision, next)) :
      AcceptsClear store (.advanceRoomRevision roomId submittedRevision) (.main roomId) revision
  | submitThread (roomId rootEventId : String) (submittedRevision revision : Nat) (next : ComposerDraftStore)
      (consumed : store.threadRevision roomId rootEventId ≤ submittedRevision)
      (accepted : store.advanceThreadRevision roomId rootEventId submittedRevision = .ok (revision, next)) :
      AcceptsClear store (.advanceThreadRevision roomId rootEventId submittedRevision)
        (.thread roomId rootEventId) revision

/-! ## One operation -/

variable {roomId : String}

theorem revisionAt_main : store.revisionAt (.main roomId) = store.roomSlots.revisionOf roomId := rfl

variable {roomId rootEventId : String}

theorem revisionAt_thread :
    store.revisionAt (.thread roomId rootEventId) = store.threadSlots.revisionOf (roomId, rootEventId) := rfl

variable {target : ComposerTarget} {revision : Nat}

variable {document : ComposerDocument}

/-- A stale write changes nothing. -/
theorem writeAt_stale (stale : revision ≤ store.revisionAt target) : store.writeAt target document revision = (false, store) := by
  cases target with
  | main roomId => exact if_pos stale
  | thread roomId rootEventId => exact if_pos stale

/-- A newer write is accepted. -/
theorem writeAt_newer (newer : store.revisionAt target < revision) : (store.writeAt target document revision).1 = true := by
  cases target with
  | main roomId => exact (applyRoomDraft_accepted_iff store roomId document revision).mpr newer
  | thread roomId rootEventId =>
    exact (applyThreadDraft_accepted_iff store roomId rootEventId document revision).mpr newer

theorem revisionAt_perform_le (wellFormed : WellFormed store)
    {operation : ComposerDraftOperation} (kept : Keeps target store operation) :
    store.revisionAt target ≤ (store.perform operation).revisionAt target := by
  have steps := steps_perform wellFormed.rooms wellFormed.threads operation
  cases target with
  | main roomId => exact steps.rooms.revisionOf_le kept
  | thread roomId rootEventId =>
    exact steps.threads.revisionOf_le
      (show ¬store.Removes operation (.thread (roomId, rootEventId).1 (roomId, rootEventId).2) from kept)

/-- An accepted write leaves its revision at the target. -/
theorem roomRevision_applyRoomDraft {roomId : String} (newer : store.roomRevision roomId < revision) :
    (store.applyRoomDraft roomId document revision).2.revisionAt (.main roomId) = revision := by
  rw [revisionAt_main, roomSlots_applyRoomDraft, revisionOf_write, if_pos rfl]
  exact max_eq_left (le_of_lt newer)

theorem threadRevision_applyThreadDraft {roomId rootEventId : String}
    (newer : store.threadRevision roomId rootEventId < revision) :
    (store.applyThreadDraft roomId rootEventId document revision).2.revisionAt (.thread roomId rootEventId) =
      revision := by
  rw [revisionAt_thread, threadSlots_applyThreadDraft, revisionOf_write, if_pos rfl]
  exact max_eq_left (le_of_lt newer)

variable {submittedRevision : Nat}

theorem roomRevision_advanceRoomTo :
    (store.advanceRoomTo roomId submittedRevision revision).revisionAt (.main roomId) = revision := by
  rw [revisionAt_main, roomSlots_advanceRoomTo]
  split <;> simp [revisionOf, clear, settle]

theorem threadRevision_advanceThreadTo :
    (store.advanceThreadTo roomId rootEventId submittedRevision revision).revisionAt
      (.thread roomId rootEventId) = revision := by
  rw [revisionAt_thread, threadSlots_advanceThreadTo]
  split <;> simp [revisionOf, clear, settle]

/-- A clear accepted at a revision raises the fence to it. -/
theorem AcceptsClear.revisionAt_perform {operation : ComposerDraftOperation}
    (clears : AcceptsClear store operation target revision) :
    (store.perform operation).revisionAt target = revision := by
  cases clears with
  | emptyRoom roomId document _ empty accepted =>
    exact roomRevision_applyRoomDraft
      ((applyRoomDraft_accepted_iff store roomId document revision).mp accepted)
  | emptyThread roomId rootEventId document _ empty accepted =>
    exact threadRevision_applyThreadDraft
      ((applyThreadDraft_accepted_iff store roomId rootEventId document revision).mp accepted)
  | resetRoom roomId document _ empty successor =>
    have newer := (lt_of_checkedSuccessor successor).1
    rw [perform, setRoomDraft, successor]
    exact roomRevision_applyRoomDraft newer
  | resetThread roomId rootEventId document _ empty successor =>
    have newer := (lt_of_checkedSuccessor successor).1
    rw [perform, setThreadDraft, successor]
    exact threadRevision_applyThreadDraft newer
  | submitRoom roomId submittedRevision _ next consumed accepted =>
    rw [perform, accepted, orKeep]
    unfold advanceRoomRevision at accepted
    split at accepted
    · cases accepted
    · cases accepted
      exact roomRevision_advanceRoomTo
  | submitThread roomId rootEventId submittedRevision _ next consumed accepted =>
    rw [perform, accepted, orKeep]
    unfold advanceThreadRevision at accepted
    split at accepted
    · cases accepted
    · cases accepted
      exact threadRevision_advanceThreadTo

/-! ## Runs -/

/-- A run that keeps a target never lowers its revision. -/
theorem revisionAt_run_le {operations : List ComposerDraftOperation}
    (wellFormed : WellFormed store) (kept : EveryStep perform (Keeps target) store operations) :
    store.revisionAt target ≤ (run perform store operations).revisionAt target := by
  have fenced := run_invariant_of_everyStep
    (fun current => WellFormed current ∧ store.revisionAt target ≤ current.revisionAt target)
    (by
      rintro current operation stays ⟨currentWellFormed, above⟩
      exact ⟨currentWellFormed.perform operation,
        le_trans above (revisionAt_perform_le currentWellFormed stays)⟩)
    kept ⟨wellFormed, le_refl _⟩
  exact fenced.2

def drafted : List ComposerDraftOperation :=
  [.applyRoomDraft "a" (ComposerDocument.fromPlainText "hi") 1]

/-- The draft is sent, and the active room goes through a reconciliation and a restart. -/
def submitted : List ComposerDraftOperation :=
  [.advanceRoomRevision "a" 1, .reconcileLifecycle firstActive, .restart firstActive]

theorem keeps_submitted :
    EveryStep perform (Keeps (.main "a")) (run perform default drafted) submitted := by
  refine ⟨fun removed => removed, ?_, ?_, trivial⟩
  · intro removed
    have active : targetIsProtected firstActive (.main "a") = true := by decide
    exact absurd (active.symm.trans removed) (by decide)
  · intro removed
    exact removed (Or.inr (by decide))

/-- A target that the loader does not keep comes back at revision zero. -/
theorem revisionAt_restored_of_dropped (wellFormed : WellFormed store) {roomId : String}
    (dropped : ¬store.LoaderKeeps protection (.main roomId)) :
    (ofProjection (store.persistedProjection protection)).revisionAt (.main roomId) = 0 := by
  rw [revisionAt_main, roomSlots_restored]
  have parts := not_or.mp dropped
  have noContent : (slotEntry store.roomSlots roomId).content.isSome = false := by
    rw [slotEntry_content_isSome wellFormed.rooms]
    exact Bool.eq_false_iff.mpr parts.1
  simp only [revisionOf, loadedSlots, writtenEntry]
  split
  · simp [loadedRevision, loadsEntry, noContent, isRetained, parts.2]
  · rfl

theorem restart_of_survives (wellFormed : WellFormed store) (survives : Survives store) :
    store.restart protection = ofProjection (store.persistedProjection protection) := by
  unfold restart
  rw [fromPersistedProjection_persistedProjection protection wellFormed survives]

/-- One hundred and twenty-eight active rooms, and one room with a save pending. -/
def otherRooms : List String :=
  (range 128).map (fun index => String.ofList (replicate (index + 2) 'r'))

def crowdedProtection : ComposerDraftProtection :=
  ⟨Std.ExtTreeSet.ofList (otherRooms.map ComposerTarget.main), ∅, Std.ExtTreeSet.ofList [ComposerTarget.main "r"]⟩

theorem nodup_otherRooms : otherRooms.Nodup := by
  refine List.Nodup.map_on ?_ nodup_range
  intro left _ right _ same
  have lengths := congrArg String.length same
  simpa using lengths

theorem targetIsTouchProtected_crowded :
    targetIsTouchProtected crowdedProtection (.main roomId) = true ↔ roomId ∈ otherRooms := by
  simp [targetIsTouchProtected, crowdedProtection]

theorem targetIsProtected_crowded : targetIsProtected crowdedProtection (.main "r") = true := by
  have pending : crowdedProtection.storePending.contains (.main "r") = true :=
    Std.ExtTreeSet.contains_iff_mem.mpr (OrdSet.mem_ofList.mpr (mem_singleton.mpr rfl))
  rw [targetIsProtected, pending, Bool.or_true]

theorem not_mem_otherRooms : "r" ∉ otherRooms := by
  intro member
  rcases mem_map.mp member with ⟨index, _, same⟩
  have lengths := congrArg String.length same
  rw [String.length_ofList, length_replicate, show "r".length = 1 from rfl] at lengths
  omega

/-- The active rooms fill the quota, whatever else is listed. -/
theorem crowded_drops (noContent : store.rooms = ∅) :
    ¬store.LoaderKeeps crowdedProtection (.main "r") := by
  have absent : forall roomId, store.roomHasContent roomId = false := by
    intro roomId
    simp [roomHasContent, noContent]
  have members : forall roomId, roomId ∈ protectedEmpty store.roomHasContent
      (crowdedProtection.touchProtectedKeys mainRoomOf) ↔ roomId ∈ otherRooms := by
    intro roomId
    rw [protectedEmpty, mem_filter, Std.ExtTreeSet.mem_toList, ← Std.ExtTreeSet.contains_iff_mem,
      contains_touchProtectedKeys_main, targetIsTouchProtected_crowded]
    simp [absent]
  have full : (protectedEmpty store.roomHasContent
      (crowdedProtection.touchProtectedKeys mainRoomOf)).length = otherRooms.length := by
    have nodup : (protectedEmpty store.roomHasContent
        (crowdedProtection.touchProtectedKeys mainRoomOf)).Nodup := (OrdSet.nodup_toList _).filter _
    exact ((perm_ext_iff_of_nodup nodup nodup_otherRooms).mpr members).length_eq
  rw [otherRooms, length_map, length_range] at full
  rintro (content | listed)
  · simp [noContent] at content
  · rw [loadedOrder_protectedEmpty, MAX_PERSISTED_COMPOSER_DRAFT_ROOM_COUNT,
      retainNewest_append (le_of_eq full.symm)] at listed
    exact not_mem_otherRooms ((members "r").mp ((retainNewest_sublist _ _).subset listed))

/-- A clear accepted at revision one. -/
def clearedOnce : List ComposerDraftOperation :=
  [.applyRoomDraft "r" ComposerDocument.default 1]

theorem clearedOnce_rooms : (run perform default clearedOnce).rooms = ∅ := by
  decide

theorem survives_clearedOnce : Survives (run perform default clearedOnce) := by
  have threads : (run perform default clearedOnce).threads = ∅ := by
    decide
  intro target document held
  cases target with
  | main roomId => simp [contentAt, clearedOnce_rooms] at held
  | thread roomId rootEventId => simp [contentAt, threads] at held

end ComposerDraftStore

end Koushi
