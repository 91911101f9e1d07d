import Koushi.Library.MirroredPanes
import Koushi.Composer.DraftRefinement
import Koushi.Reducer.Frames

namespace Koushi

open Collections FencedSlots ComposerDraftStore Function MirroredPanes Option

/-!
# The composers as panes over the draft store

A composer shows four things of a draft: its text, its document, its revision
and the revision of its last accepted clear.  `panes` reads the state as two
panes over the slots of the draft store: the timeline pane over the rooms, the
thread pane over the threads, and the active room as the selection.  What the
other fields of a composer do is invisible here.

The lemmas say how each mutator of the draft store moves the slots, and when a
change of state is one pane operation.
-/

/-- What a composer shows of a draft. -/
structure DraftView where
  draft : String
  document : ComposerDocument
  draftRevision : Nat
  lastAcceptedClearRevision : Nat
deriving DecidableEq, Repr

/-- The view of a target that was never written. -/
def DraftView.unwritten : DraftView := ⟨"", .default, 0, 0⟩

def ComposerState.view (composer : ComposerState) : DraftView where
  draft := composer.draft
  document := composer.document
  draftRevision := composer.draftRevision
  lastAcceptedClearRevision := composer.lastAcceptedClearRevision

/-- The view of one slot of the store. -/
def slotView {κ : Type} (slots : DraftSlots κ) (key : κ) : DraftView where
  draft := ((slots.content key).map ComposerDocument.plainBody).getD ""
  document := (slots.content key).getD .default
  draftRevision := slots.revisionOf key
  lastAcceptedClearRevision := (slots.cleared key).getD 0

theorem composerForRoom_view (store : ComposerDraftStore) (roomId : String) :
    (store.composerForRoom roomId).view = slotView store.roomSlots roomId := by
  unfold composerForRoom
  cases found : store.rooms[roomId]? <;>
    simp [ComposerState.view, slotView, roomSlots, found, revisionOf,
      roomRevision, ComposerState.default]

theorem composerForThread_view (store : ComposerDraftStore) (roomId rootEventId : String) :
    (store.composerForThread roomId rootEventId).view = slotView store.threadSlots (roomId, rootEventId) := by
  unfold composerForThread
  cases found : store.threads.lookup roomId rootEventId <;>
    simp [ComposerState.view, slotView, threadSlots, found, revisionOf,
      threadRevision, ComposerState.default]

/-! ## Slot operations -/

section Slots

variable {κ : Type} [DecidableEq κ] (slots : DraftSlots κ)

/-- An operation that touches one key moves the view of that key only. -/
theorem slotView_eq_update {slots after : DraftSlots κ} {key : κ} {value : DraftView}
    (here : slotView after key = value)
    (content : forall other, other ≠ key -> after.content other = slots.content other)
    (revision : forall other, other ≠ key -> after.revision other = slots.revision other)
    (cleared : forall other, other ≠ key -> after.cleared other = slots.cleared other) :
    slotView after = update (slotView slots) key value := by
  funext other
  by_cases same : other = key
  · rw [same, here, update_self]
  · rw [update_of_ne same]
    simp only [slotView, revisionOf, content other same, revision other same,
      cleared other same]

theorem slotView_setMark (key : κ) (mark : Option AssistantDraftMarker) :
    slotView (slots.setMark key mark) = slotView slots := rfl

theorem slotView_clear (key : κ) (revision : Nat) : slotView (slots.clear key revision) =
      update (slotView slots) key ⟨"", .default, revision, revision⟩ := by
  apply slotView_eq_update
  · simp [slotView, clear, revisionOf]
  all_goals
    intro other different
    simp [clear, different]

theorem slotView_settle (key : κ) (revision : Nat) : slotView (slots.settle key revision) =
      update (slotView slots) key { slotView slots key with draftRevision := revision } := by
  apply slotView_eq_update
  · simp [slotView, settle, revisionOf]
  all_goals
    intro other different
    simp [settle, different]

omit [DecidableEq κ] in
theorem slotView_restrict (keep : κ -> Bool) (key : κ) :
    slotView (slots.restrict keep) key = if keep key then slotView slots key else .unwritten := by
  cases kept : keep key <;>
    simp [slotView, restrict, revisionOf, kept, DraftView.unwritten]

/-- An empty document is the one that every constructor writes. -/
def EmptyIsDefault (document : ComposerDocument) : Prop := document.isEmpty = true -> document = .default

variable {document : ComposerDocument}

theorem EmptyIsDefault.of_content (content : document.isEmpty = false) : EmptyIsDefault document := by
  intro empty
  rw [content] at empty
  cases empty

/-- The view of a document that was just written. -/
def writtenView (document : ComposerDocument) (revision : Nat) (before : DraftView) : DraftView :=
  ⟨document.plainBody, document, revision, before.lastAcceptedClearRevision⟩

/-- An empty document is what an absent one reads as. -/
theorem visibleContent_view (readsBack : EmptyIsDefault document) :
    ((visibleContent document).map ComposerDocument.plainBody).getD "" = document.plainBody ∧
      (visibleContent document).getD .default = document := by
  unfold visibleContent
  split
  · next empty =>
    rw [readsBack empty]
    exact ⟨rfl, rfl⟩
  · exact ⟨rfl, rfl⟩

theorem slotView_write (readsBack : EmptyIsDefault document) {key : κ}
    {revision : Nat} (newer : slots.revisionOf key < revision) :
    slotView (slots.write key (visibleContent document) revision) =
      update (slotView slots) key (writtenView document revision (slotView slots key)) := by
  unfold write
  rw [if_neg (Nat.not_le.mpr newer)]
  apply slotView_eq_update
  · have visible := visibleContent_view readsBack
    simp only [slotView, update_self, revisionOf, getD_some, visible.1,
      visible.2, writtenView]
  all_goals
    intro other different
    simp [different]

end Slots

/-! ## Mutators of the draft store -/

namespace ComposerDraftStore

/-- The slots after a mutator of one room. -/
structure MovesRoom (store after : ComposerDraftStore) (roomId : String) (value : DraftView) : Prop where
  rooms : slotView after.roomSlots = update (slotView store.roomSlots) roomId value
  threads : slotView after.threadSlots = slotView store.threadSlots

/-- The slots after a mutator of one thread. -/
structure MovesThread (store after : ComposerDraftStore) (target : String × String) (value : DraftView) :
    Prop where
  rooms : slotView after.roomSlots = slotView store.roomSlots
  threads : slotView after.threadSlots = update (slotView store.threadSlots) target value

variable (store : ComposerDraftStore)

variable {value : DraftView} {roomId : String}

/-- What a mutator of a room leaves for its composer. -/
theorem MovesRoom.here {store after : ComposerDraftStore}
    (moves : MovesRoom store after roomId value) : (after.composerForRoom roomId).view = value := by
  rw [composerForRoom_view, moves.rooms, update_self]

theorem MovesThread.here {store after : ComposerDraftStore} {roomId rootEventId : String}
    (moves : MovesThread store after (roomId, rootEventId) value) :
    (after.composerForThread roomId rootEventId).view = value := by
  rw [composerForThread_view, moves.threads, update_self]

variable {document : ComposerDocument} {roomId rootEventId : String} {drafts : ComposerDraftStore}
  {submittedRevision revision : Nat}

theorem applyRoomDraft_moves (readsBack : EmptyIsDefault document)
    (accepted : (store.applyRoomDraft roomId document revision).1 = true) :
    MovesRoom store (store.applyRoomDraft roomId document revision).2 roomId
      (writtenView document revision (slotView store.roomSlots roomId)) where
  rooms := by
    rw [roomSlots_applyRoomDraft]
    exact slotView_write _ readsBack ((applyRoomDraft_accepted_iff ..).mp accepted)
  threads := by rw [threadSlots_applyRoomDraft]

theorem applyThreadDraft_moves (readsBack : EmptyIsDefault document)
    (accepted : (store.applyThreadDraft roomId rootEventId document revision).1 = true) :
    MovesThread store (store.applyThreadDraft roomId rootEventId document revision).2 (roomId, rootEventId)
      (writtenView document revision (slotView store.threadSlots (roomId, rootEventId))) where
  rooms := by rw [roomSlots_applyThreadDraft]
  threads := by
    rw [threadSlots_applyThreadDraft]
    exact slotView_write _ readsBack ((applyThreadDraft_accepted_iff ..).mp accepted)

/-- Staging writes an empty target at a new revision. -/
theorem stageAssistantDraft_moves {target : ComposerTarget} {clientName : String}
    (staged : store.stageAssistantDraft target document clientName = (some revision, drafts)) :
    match target with
    | .main roomId => store.roomSlots.content roomId = none ∧
        MovesRoom store drafts roomId (writtenView document revision (slotView store.roomSlots roomId))
    | .thread roomId rootEventId => store.threadSlots.content (roomId, rootEventId) = none ∧
        MovesThread store drafts (roomId, rootEventId)
          (writtenView document revision (slotView store.threadSlots (roomId, rootEventId))) := by
  unfold stageAssistantDraft at staged
  split at staged
  · cases staged
  next admitted =>
  simp only [Bool.or_eq_true, Bool.not_eq_true', not_or, Bool.not_eq_true, Bool.not_eq_false] at admitted
  have readsBack : EmptyIsDefault document := EmptyIsDefault.of_content admitted.1
  have absent := admitted.2
  dsimp only at staged
  split at staged
  · cases staged
  next written _ =>
  cases target with
  | main roomId =>
    rw [targetIsEmpty, Bool.not_eq_true', Std.ExtTreeMap.contains_eq_isSome_getElem?] at absent
    refine ⟨isNone_iff_eq_none.mp (isSome_eq_false_iff.mp absent), ?_⟩
    dsimp only at staged
    split at staged
    · cases staged
    next accepted =>
    rw [Bool.not_eq_true, Bool.not_eq_false'] at accepted
    cases staged
    have moves := store.applyRoomDraft_moves readsBack accepted
    exact ⟨moves.rooms, moves.threads⟩
  | thread roomId rootEventId =>
    rw [targetIsEmpty, Bool.not_eq_true'] at absent
    refine ⟨isNone_iff_eq_none.mp (isSome_eq_false_iff.mp absent), ?_⟩
    dsimp only at staged
    split at staged
    · cases staged
    next accepted =>
    rw [Bool.not_eq_true, Bool.not_eq_false'] at accepted
    cases staged
    have moves := store.applyThreadDraft_moves readsBack accepted
    refine ⟨moves.rooms, ?_⟩
    exact moves.threads

/-- An accepted submission moves its room to the returned revision. -/
theorem advanceRoomRevision_moves
    (advanced : store.advanceRoomRevision roomId submittedRevision = .ok (revision, drafts)) :
    ∃ value, value.draftRevision = revision ∧ MovesRoom store drafts roomId value := by
  unfold advanceRoomRevision at advanced
  split at advanced
  · cases advanced
  cases advanced
  have slots := roomSlots_advanceRoomTo store roomId submittedRevision revision
  split at slots
  · exact ⟨_, rfl, by rw [slots, slotView_clear], by rw [threadSlots_advanceRoomTo]⟩
  · exact ⟨_, rfl, by rw [slots, slotView_settle], by rw [threadSlots_advanceRoomTo]⟩

theorem advanceThreadRevision_moves
    (advanced : store.advanceThreadRevision roomId rootEventId submittedRevision = .ok (revision, drafts)) :
    ∃ value, value.draftRevision = revision ∧ MovesThread store drafts (roomId, rootEventId) value := by
  unfold advanceThreadRevision at advanced
  split at advanced
  · cases advanced
  cases advanced
  have slots := threadSlots_advanceThreadTo store roomId rootEventId submittedRevision revision
  split at slots
  · exact ⟨_, rfl, by rw [roomSlots_advanceThreadTo], by rw [slots, slotView_clear]⟩
  · exact ⟨_, rfl, by rw [roomSlots_advanceThreadTo], by rw [slots, slotView_settle]⟩

theorem settleRoomRevision_moves
    (settled : store.settleRoomRevision roomId submittedRevision = .ok (revision, drafts)) :
    ∃ value, value.draftRevision = revision ∧ MovesRoom store drafts roomId value := by
  unfold settleRoomRevision at settled
  split at settled
  · cases settled
  cases settled
  exact ⟨_, rfl, by rw [roomSlots_settleRoom, slotView_settle], by rw [threadSlots_relistRoom]; rfl⟩

theorem settleThreadRevision_moves
    (settled : store.settleThreadRevision roomId rootEventId submittedRevision = .ok (revision, drafts)) :
    ∃ value, value.draftRevision = revision ∧ MovesThread store drafts (roomId, rootEventId) value := by
  unfold settleThreadRevision at settled
  split at settled
  · cases settled
  cases settled
  exact ⟨_, rfl, by rw [roomSlots_relistThread]; rfl, by rw [threadSlots_settleThread, slotView_settle]⟩

/-- Dismissing a marker leaves the draft. -/
theorem dismissAssistantMarker_views (target : ComposerTarget) :
    slotView (store.dismissAssistantMarker target).2.roomSlots = slotView store.roomSlots ∧
      slotView (store.dismissAssistantMarker target).2.threadSlots = slotView store.threadSlots := by
  cases target with
  | main => exact ⟨rfl, rfl⟩
  | thread roomId rootEventId =>
    constructor
    · rw [dismissAssistantMarker, roomSlots_removeThreadAssistantMarker]
    · rw [dismissAssistantMarker, threadSlots_removeThreadAssistantMarker, slotView_setMark]

/-- Retention keeps the views of the retained rooms and forgets the others. -/
theorem retainRooms_views (roomIds : OrdSet String) :
    (forall roomId, slotView (store.retainRooms roomIds).roomSlots roomId =
        if roomIds.contains roomId then slotView store.roomSlots roomId else .unwritten) ∧
      forall target, slotView (store.retainRooms roomIds).threadSlots target =
        if roomIds.contains target.1 then slotView store.threadSlots target else .unwritten := by
  rw [roomSlots_retainRooms, threadSlots_retainRooms]
  exact ⟨slotView_restrict _ _, slotView_restrict _ _⟩

end ComposerDraftStore

/-! ## The panes -/

/-- What the thread pane shows, as a side pane. -/
def threadShape (thread : ThreadPaneState) : Option (String × Option (String × DraftView)) :=
  (threadView thread).map (fun attached =>
    (attached.1, attached.2.map (fun shown => (shown.1, shown.2.view))))

def panes (state : AppState) : MirroredPanes String String DraftView where
  mainSlots := slotView state.composerDrafts.roomSlots
  sideSlots := slotView state.composerDrafts.threadSlots
  selected := state.navigation.activeRoomId
  main := state.timeline.roomId.map (fun roomId => (roomId, state.timeline.composer.view))
  side := threadShape state.thread

variable {before after state : AppState} {roomId rootEventId : String} {value : DraftView}

theorem Untouched.panes_eq (untouched : Untouched before after) : panes after = panes before := by
  simp only [panes, threadShape, untouched.composerDrafts, untouched.activeRoomId, untouched.roomId,
    untouched.composer, untouched.thread]

/-- The open timeline pane. -/
theorem panes_main_eq_some {shown : DraftView} : (panes state).main = some (roomId, shown) ↔
      state.timeline.roomId = some roomId ∧ state.timeline.composer.view = shown := by
  simp [panes, map_eq_some_iff, Prod.mk.injEq]

theorem timelineShows_iff : timelineShows state roomId = true ↔ state.timeline.roomId = some roomId := by
  simp [timelineShows]

theorem threadShowing_eq_some {pane : OpenThread} : threadShowing state roomId rootEventId = some pane ↔
      state.thread = .opened pane ∧ pane.roomId = roomId ∧ pane.rootEventId = rootEventId := by
  unfold threadShowing
  split <;> grind

/-- A change of the timeline composer that shows the same draft. -/
theorem panes_setTimelineComposer {composer : ComposerState}
    (same : composer.view = state.timeline.composer.view) :
    panes (setTimelineComposer state composer) = panes state := by
  simp only [panes, setTimelineComposer, same]

theorem threadShape_opened (pane : OpenThread) :
    threadShape (.opened pane) = some (pane.roomId, some (pane.rootEventId, pane.composer.view)) := rfl

theorem panes_setThreadComposer {pane : OpenThread} {composer : ComposerState}
    (opened : state.thread = .opened pane) (same : composer.view = pane.composer.view) :
    panes (setThreadComposer state pane composer) = panes state := by
  simp only [panes, setThreadComposer, opened, threadShape_opened, same]

/-- A change that writes one room and refreshes the timeline pane if it shows it. -/
theorem panes_eq_writeMain (moves : MovesRoom before.composerDrafts after.composerDrafts roomId value)
    (selected : after.navigation.activeRoomId = before.navigation.activeRoomId)
    (sameRoom : after.timeline.roomId = before.timeline.roomId)
    (sameThread : threadShape after.thread = threadShape before.thread)
    (shown : before.timeline.roomId = some roomId -> after.timeline.composer.view = value)
    (hidden : before.timeline.roomId ≠ some roomId ->
    after.timeline.composer.view = before.timeline.composer.view) :
    panes after = (panes before).writeMain roomId value := by
  apply MirroredPanes.ext
  · intro other
    exact congrFun moves.rooms other
  · intro other
    exact congrFun moves.threads other
  · exact selected
  · cases opened : before.timeline.roomId with
    | none => simp [panes, writeMain, sameRoom, opened]
    | some openRoomId =>
      by_cases same : openRoomId = roomId
      · have view := shown (by rw [opened, same])
        simp [panes, writeMain, sameRoom, opened, same, view]
      · have view := hidden (by rw [opened]; simpa using same)
        simp [panes, writeMain, sameRoom, opened, same, view]
  · exact sameThread

/-- A change that writes one thread and refreshes the thread pane if it shows it. -/
theorem panes_eq_writeSide (moves : MovesThread before.composerDrafts after.composerDrafts
    (roomId, rootEventId) value) (selected : after.navigation.activeRoomId = before.navigation.activeRoomId)
    (sameTimeline : after.timeline.roomId = before.timeline.roomId ∧
    after.timeline.composer.view = before.timeline.composer.view)
    (shown : forall pane, threadShowing before roomId rootEventId = some pane ->
    threadShape after.thread = some (roomId, some (rootEventId, value)))
    (hidden : threadShowing before roomId rootEventId = none ->
    threadShape after.thread = threadShape before.thread) :
    panes after = (panes before).writeSide (roomId, rootEventId) value := by
  apply MirroredPanes.ext
  · intro other
    exact congrFun moves.rooms other
  · intro other
    exact congrFun moves.threads other
  · exact selected
  · simp only [panes, writeSide, sameTimeline.1, sameTimeline.2]
  · simp only [panes, writeSide]
    cases showing : threadShowing before roomId rootEventId with
    | some pane =>
      rcases threadShowing_eq_some.mp showing with ⟨opened, rfl, rfl⟩
      rw [shown pane showing, opened, threadShape_opened]
      simp
    | none =>
      rw [hidden showing]
      cases opened : before.thread with
      | closed | opening | failed => rfl
      | opened pane =>
        have other : ¬(pane.roomId = roomId ∧ pane.rootEventId = rootEventId) := by
          rintro ⟨sameRoom, sameRoot⟩
          have found := threadShowing_eq_some.mpr ⟨opened, sameRoom, sameRoot⟩
          rw [showing] at found
          cases found
        simp [threadShape_opened, other]

end Koushi
