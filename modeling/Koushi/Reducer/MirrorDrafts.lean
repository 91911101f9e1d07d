import Koushi.Reducer.ComposerPanes

namespace Koushi

open Collections ComposerState ComposerDraftStore MirroredPanes

/-!
# Drafts and submissions keep the composers up to date

Each handler of the draft store is one pane operation: a write that reaches the
slot and the composer that shows it.  Three kinds of action can miss the composer
and carry a condition.  Loading the store, seeding and staging only fill a
composer that is idle and empty.  A queued submission takes the draft out of the
store, but refreshes the composer only if the composer still waits for that
submission.
-/

/-- The composers show what the draft store holds. -/
def Mirrored (state : AppState) : Prop := (panes state).Faithful

variable {before after : AppState} {document : ComposerDocument}

theorem Mirrored.of_panes_eq (mirrored : Mirrored before)
    (same : panes after = panes before) : Mirrored after := by
  rw [Mirrored, same]
  exact mirrored

theorem Mirrored.of_writeMain (mirrored : Mirrored before) {roomId : String}
    {value : DraftView} (written : panes after = (panes before).writeMain roomId value) :
    Mirrored after := by
  rw [Mirrored, written]
  exact mirrored.writeMain roomId value

theorem Mirrored.of_writeSide (mirrored : Mirrored before) {target : String × String} {value : DraftView}
    (written : panes after = (panes before).writeSide target value) : Mirrored after := by
  rw [Mirrored, written]
  exact mirrored.writeSide target value

variable {state : AppState} (mirrored : Mirrored state)

include mirrored in
/-- The timeline composer shows the slot of its room. -/
theorem Mirrored.timeline {roomId : String} (opened : state.timeline.roomId = some roomId) :
    state.timeline.composer.view = slotView state.composerDrafts.roomSlots roomId :=
  mirrored.main roomId _ (panes_main_eq_some.mpr ⟨opened, rfl⟩)

include mirrored in
/-- The thread composer shows the slot of its thread. -/
theorem Mirrored.thread {pane : OpenThread} (opened : state.thread = .opened pane) :
    pane.composer.view = slotView state.composerDrafts.threadSlots (pane.roomId, pane.rootEventId) := by
  refine mirrored.side pane.roomId pane.rootEventId _ ?_
  simp only [panes, opened, threadShape_opened]

/-! ## Composer steps that show the same draft -/

variable (composer : ComposerState)

theorem ComposerState.settleReplyMode_view
    (pendingKind : Option PendingComposerSendKind) : (composer.settleReplyMode pendingKind).view = composer.view := by
  unfold settleReplyMode
  split
  · split <;> rfl
  · rfl

theorem ComposerState.finishSend_view : composer.finishSend.view = composer.view :=
  settleReplyMode_view _ _

theorem ComposerState.release_view (finished : Bool) :
    (composer.release finished).view = composer.view := by
  unfold release
  split
  · exact settleReplyMode_view _ _
  · rfl

theorem ComposerState.withStored_view (composer stored : ComposerState) :
    (composer.withStored stored).view = stored.view := rfl

theorem returnMainPaneToLiveForAcceptedSend_panes (roomId : String) :
    panes (returnMainPaneToLiveForAcceptedSend state roomId).1 = panes state := by
  unfold returnMainPaneToLiveForAcceptedSend
  (repeat' split) <;> rfl

/-- Returning to the live timeline touches neither the drafts nor the pane. -/
theorem returnMainPaneToLiveForAcceptedSend_kept (roomId : String) :
    (returnMainPaneToLiveForAcceptedSend state roomId).1.composerDrafts = state.composerDrafts ∧
      (returnMainPaneToLiveForAcceptedSend state roomId).1.timeline = state.timeline := by
  unfold returnMainPaneToLiveForAcceptedSend
  (repeat' split) <;> exact ⟨rfl, rfl⟩

theorem panes_setTimelineComposer_returned (roomId : String) (composer : ComposerState) :
    panes (setTimelineComposer (returnMainPaneToLiveForAcceptedSend state roomId).1 composer) =
      panes (setTimelineComposer state composer) := by
  unfold returnMainPaneToLiveForAcceptedSend
  (repeat' split) <;> rfl

/-! ## Loading -/

/-- An open composer takes its draft from the loaded store, or already shows it. -/
structure LoadAgrees (state : AppState) (drafts : ComposerDraftStore) : Prop where
  timeline : forall roomId, state.timeline.roomId = some roomId ->
    state.timeline.composer.acceptsHydration = true ∨
      state.timeline.composer.view = (drafts.composerForRoom roomId).view
  thread : forall pane, state.thread = .opened pane ->
    pane.composer.acceptsHydration = true ∨
      pane.composer.view = (drafts.composerForThread pane.roomId pane.rootEventId).view

theorem hydrateTimelineComposer_main (state : AppState)
    (agrees : forall roomId, state.timeline.roomId = some roomId ->
      state.timeline.composer.acceptsHydration = true ∨
        state.timeline.composer.view = (state.composerDrafts.composerForRoom roomId).view) :
    (panes (hydrateTimelineComposer state).1).main =
      state.timeline.roomId.map (fun roomId => (roomId, slotView state.composerDrafts.roomSlots roomId)) := by
  unfold hydrateTimelineComposer
  cases opened : state.timeline.roomId with
  | none => simp [panes, opened]
  | some roomId =>
    dsimp only
    split
    · simp [panes, setTimelineComposer, opened, composerForRoom_view]
    next refused =>
    have view : state.timeline.composer.view = slotView state.composerDrafts.roomSlots roomId := by
      rw [← composerForRoom_view]
      rcases agrees roomId opened with accepts | same
      · simp only [accepts, Bool.true_and, decide_eq_true_eq, ne_eq, not_not] at refused
        rw [refused]
      · exact same
    simp [panes, opened, view]

/-- Filling the timeline composer leaves everything else. -/
theorem hydrateTimelineComposer_rest (state : AppState) :
    (hydrateTimelineComposer state).1.composerDrafts = state.composerDrafts ∧
      (hydrateTimelineComposer state).1.navigation = state.navigation ∧
      (hydrateTimelineComposer state).1.thread = state.thread := by
  unfold hydrateTimelineComposer
  dsimp only
  (repeat' split) <;> exact ⟨rfl, rfl, rfl⟩

theorem hydrateThreadComposer_side (state : AppState)
    (agrees : forall pane, state.thread = .opened pane -> pane.composer.acceptsHydration = true ∨
      pane.composer.view = (state.composerDrafts.composerForThread pane.roomId pane.rootEventId).view) :
    threadShape (hydrateThreadComposer state).1.thread = (threadShape state.thread).map (fun attached =>
      (attached.1, attached.2.map (fun shown =>
        (shown.1, slotView state.composerDrafts.threadSlots (attached.1, shown.1))))) := by
  unfold hydrateThreadComposer
  cases opened : state.thread with
  | closed | opening | failed => simp [opened, threadShape, threadView]
  | opened pane =>
    dsimp only
    split
    · simp [setThreadComposer, threadShape_opened, composerForThread_view]
    next refused =>
    have view : pane.composer.view =
        slotView state.composerDrafts.threadSlots (pane.roomId, pane.rootEventId) := by
      rw [← composerForThread_view]
      rcases agrees pane opened with accepts | same
      · simp only [accepts, Bool.true_and, decide_eq_true_eq, ne_eq, not_not] at refused
        rw [← refused]
      · exact same
    simp [opened, threadShape_opened, view]

theorem hydrateThreadComposer_rest (state : AppState) :
    (hydrateThreadComposer state).1.composerDrafts = state.composerDrafts ∧
      (hydrateThreadComposer state).1.navigation = state.navigation ∧
      (hydrateThreadComposer state).1.timeline = state.timeline := by
  unfold hydrateThreadComposer
  dsimp only
  (repeat' split) <;> exact ⟨rfl, rfl, rfl⟩

include mirrored in
/-- Loading is the load of the panes. -/
theorem handleComposerDraftsLoaded_mirrored {drafts : ComposerDraftStore} (agrees : LoadAgrees state drafts) :
    Mirrored (handleComposerDraftsLoaded state drafts).1 := by
  unfold handleComposerDraftsLoaded
  split
  · exact mirrored
  have rest := hydrateTimelineComposer_rest { state with composerDrafts := drafts }
  have main := hydrateTimelineComposer_main { state with composerDrafts := drafts } agrees.timeline
  have later := hydrateThreadComposer_rest (hydrateTimelineComposer { state with composerDrafts := drafts }).1
  have side := hydrateThreadComposer_side
    (hydrateTimelineComposer { state with composerDrafts := drafts }).1 (by
      intro pane opened
      rw [rest.2.2] at opened
      rw [rest.1]
      exact agrees.thread pane opened)
  have loaded : panes ((hydrateTimelineComposer { state with composerDrafts := drafts }).andThen
      hydrateThreadComposer).1 =
        (panes state).load (slotView drafts.roomSlots) (slotView drafts.threadSlots) := by
    apply ext
    · intro roomId
      simp only [panes, Outcome.andThen_state, later.1, rest.1, load]
    · intro target
      simp only [panes, Outcome.andThen_state, later.1, rest.1, load]
    · simp only [panes, Outcome.andThen_state, later.2.1, rest.2.1, load]
    · refine Eq.trans ?_ (main.trans ?_)
      · simp only [panes, Outcome.andThen_state, later.2.2]
      · simp only [panes, load, Option.map_map]
        rfl
    · refine Eq.trans side ?_
      rw [rest.1, rest.2.2]
      rfl
  rw [Mirrored, loaded]
  exact mirrored.load _ _

/-! ## Moving one draft -/

section Moved

variable {drafts : ComposerDraftStore} {roomId rootEventId : String} {value : DraftView}

include mirrored

/-- A room that no pane shows moves in the store alone. -/
theorem Mirrored.withRoomMoved (moves : MovesRoom state.composerDrafts drafts roomId value)
    (hides : ¬timelineShows state roomId = true) : Mirrored { state with composerDrafts := drafts } := by
  refine mirrored.of_writeMain (panes_eq_writeMain moves rfl rfl rfl ?_ (fun _ => rfl))
  intro opened
  exact absurd (timelineShows_iff.mpr opened) hides

/-- A room that the timeline pane shows moves in the store and in the composer. -/
theorem Mirrored.withRoomShown (moves : MovesRoom state.composerDrafts drafts roomId value)
    (shown : timelineShows state roomId = true) {composer : ComposerState} (view : composer.view = value) :
    Mirrored (setTimelineComposer { state with composerDrafts := drafts } composer) := by
  refine mirrored.of_writeMain (panes_eq_writeMain moves rfl rfl rfl (fun _ => view) ?_)
  intro hidden
  exact absurd (timelineShows_iff.mp shown) hidden

theorem Mirrored.withThreadMoved
    (moves : MovesThread state.composerDrafts drafts (roomId, rootEventId) value)
    (hides : threadShowing state roomId rootEventId = none) :
    Mirrored { state with composerDrafts := drafts } := by
  refine mirrored.of_writeSide (panes_eq_writeSide moves rfl ⟨rfl, rfl⟩ ?_ (fun _ => rfl))
  intro pane showing
  rw [hides] at showing
  cases showing

theorem Mirrored.withThreadShown {pane : OpenThread}
    (moves : MovesThread state.composerDrafts drafts (pane.roomId, pane.rootEventId) value)
    (opened : state.thread = .opened pane) {composer : ComposerState} (view : composer.view = value) :
    Mirrored (setThreadComposer { state with composerDrafts := drafts } pane composer) := by
  have showing : threadShowing state pane.roomId pane.rootEventId = some pane :=
    threadShowing_eq_some.mpr ⟨opened, rfl, rfl⟩
  refine mirrored.of_writeSide (panes_eq_writeSide moves rfl ⟨rfl, rfl⟩ ?_ ?_)
  · intro _ _
    simp only [setThreadComposer, threadShape_opened, view]
  · intro hidden
    rw [showing] at hidden
    cases hidden

end Moved

/-! ## Writing -/

section

include mirrored

theorem handleComposerDraftChanged_mirrored (roomId : String)
    (readsBack : EmptyIsDefault document) (revision : Nat) :
    Mirrored (handleComposerDraftChanged state roomId document revision).1 := by
  unfold handleComposerDraftChanged
  split
  · exact mirrored
  dsimp only
  split
  · exact mirrored
  next accepted =>
  rw [Bool.not_eq_true, Bool.not_eq_false'] at accepted
  have moves := state.composerDrafts.applyRoomDraft_moves readsBack accepted
  split
  · next shown =>
    exact mirrored.withRoomShown moves shown
      (congrArg (writtenView document revision) (mirrored.timeline (timelineShows_iff.mp shown)))
  · next hides => exact mirrored.withRoomMoved moves hides

variable {roomId rootEventId : String}

theorem handleThreadComposerDraftChanged_mirrored
    (readsBack : EmptyIsDefault document) (revision : Nat) :
    Mirrored (handleThreadComposerDraftChanged state roomId rootEventId document revision).1 := by
  unfold handleThreadComposerDraftChanged
  split
  · exact mirrored
  dsimp only
  split
  · exact mirrored
  next accepted =>
  rw [Bool.not_eq_true, Bool.not_eq_false'] at accepted
  have moves := state.composerDrafts.applyThreadDraft_moves readsBack accepted
  split
  · next pane showing =>
    rcases threadShowing_eq_some.mp showing with ⟨opened, rfl, rfl⟩
    exact mirrored.withThreadShown moves opened
      (congrArg (writtenView document revision) (mirrored.thread opened))
  · next hides => exact mirrored.withThreadMoved moves hides

theorem handleComposerDraftChangedNow_mirrored (readsBack : EmptyIsDefault document) :
    Mirrored (handleComposerDraftChangedNow state roomId document).1 := by
  unfold handleComposerDraftChangedNow
  split
  · exact mirrored
  · exact handleComposerDraftChanged_mirrored mirrored roomId readsBack _

theorem handleThreadComposerDraftChangedNow_mirrored (readsBack : EmptyIsDefault document) :
    Mirrored (handleThreadComposerDraftChangedNow state roomId rootEventId document).1 := by
  unfold handleThreadComposerDraftChangedNow
  split
  · exact mirrored
  · exact handleThreadComposerDraftChanged_mirrored mirrored readsBack _

end

/-! ## Seeding and staging -/

/-- The composer of a target is not sending. -/
def targetIsIdle (state : AppState) : ComposerTarget -> Prop
  | .main roomId =>
    state.timeline.roomId = some roomId -> state.timeline.composer.pendingTransactionId = none
  | .thread roomId rootEventId => forall pane, threadShowing state roomId rootEventId = some pane ->
      pane.composer.pendingTransactionId = none

/-- A slot with an empty document shows no text. -/
theorem slotView_draft_of_empty {κ : Type} {slots : DraftSlots κ} {key : κ}
    (empty : (slotView slots key).document.isEmpty = true) : (slotView slots key).draft = "" := by
  unfold slotView at empty ⊢
  cases found : slots.content key with
  | none => rfl
  | some document =>
    rw [found] at empty
    have noInlines : document.inlines = [] := List.isEmpty_iff.mp empty
    simp [ComposerDocument.plainBody, noInlines]

theorem slotView_draft_of_absent {κ : Type} {slots : DraftSlots κ} {key : κ}
    (absent : slots.content key = none) : (slotView slots key).draft = "" := by
  simp [slotView, absent]

/-- An idle composer whose text is empty takes a draft from the store. -/
theorem ComposerState.acceptsHydration_of_idle {composer : ComposerState} {shown : DraftView}
    (idle : composer.pendingTransactionId = none) (view : composer.view = shown) (empty : shown.draft = "") :
    composer.acceptsHydration = true := by
  have noText : composer.draft = "" := (congrArg DraftView.draft view).trans empty
  simp [acceptsHydration, idle, noText]

include mirrored in
theorem handleComposerDraftSeeded_mirrored (roomId : String) (idle : targetIsIdle state (.main roomId)) :
    Mirrored (handleComposerDraftSeeded state roomId document).1 := by
  unfold handleComposerDraftSeeded
  split
  · exact mirrored
  next admitted =>
  simp only [Bool.or_eq_true, not_or, Bool.not_eq_true, Bool.not_eq_false'] at admitted
  have readsBack : EmptyIsDefault document := EmptyIsDefault.of_content admitted.1.1.2
  have empty : (slotView state.composerDrafts.roomSlots roomId).draft = "" := by
    apply slotView_draft_of_empty
    rw [← composerForRoom_view]
    exact admitted.2
  split
  · exact mirrored
  dsimp only
  split
  · exact mirrored
  next accepted =>
  rw [Bool.not_eq_true, Bool.not_eq_false'] at accepted
  have moves := state.composerDrafts.applyRoomDraft_moves readsBack accepted
  split
  · next filled =>
    rw [Bool.and_eq_true] at filled
    exact mirrored.withRoomShown moves filled.1 moves.here
  · next refused =>
    refine mirrored.withRoomMoved moves ?_
    intro shown
    have opened := timelineShows_iff.mp shown
    have accepts := acceptsHydration_of_idle (idle opened) (mirrored.timeline opened) empty
    exact refused (Bool.and_eq_true_iff.mpr ⟨shown, accepts⟩)

/-- A staged draft shows in a composer that had nothing. -/
theorem ComposerState.hydrateStagedDraft_view {composer hydrated : ComposerState}
    {revision : Nat} {before : DraftView} (shown : composer.view = before)
    (written : hydrated.view = writtenView document revision before) :
    (composer.hydrateStagedDraft hydrated).view = writtenView document revision before := by
  have draft : hydrated.draft = document.plainBody := congrArg DraftView.draft written
  have sameDocument : hydrated.document = document := congrArg DraftView.document written
  have sameRevision : hydrated.draftRevision = revision := congrArg DraftView.draftRevision written
  have cleared : composer.lastAcceptedClearRevision = before.lastAcceptedClearRevision :=
    congrArg DraftView.lastAcceptedClearRevision shown
  simp only [hydrateStagedDraft, view, writtenView, draft, sameDocument,
    sameRevision, cleared]

variable {target : ComposerTarget}

include mirrored in
theorem handleAssistantDraftStaged_mirrored (clientName : String) (idle : targetIsIdle state target) :
    Mirrored (handleAssistantDraftStaged state target document clientName).1 := by
  unfold handleAssistantDraftStaged
  split
  · exact mirrored
  split
  · exact mirrored
  next revision drafts staged =>
  cases target with
  | main roomId =>
    rcases state.composerDrafts.stageAssistantDraft_moves staged with ⟨absent, moves⟩
    dsimp only
    split
    · next filled =>
      rw [Bool.and_eq_true] at filled
      exact mirrored.withRoomShown moves filled.1 (hydrateStagedDraft_view
        (mirrored.timeline (timelineShows_iff.mp filled.1)) moves.here)
    · next refused =>
      refine mirrored.withRoomMoved moves ?_
      intro shown
      have opened := timelineShows_iff.mp shown
      have accepts := acceptsHydration_of_idle (idle opened) (mirrored.timeline opened)
        (slotView_draft_of_absent absent)
      exact refused (Bool.and_eq_true_iff.mpr ⟨shown, accepts⟩)
  | thread roomId rootEventId =>
    rcases state.composerDrafts.stageAssistantDraft_moves staged with ⟨absent, moves⟩
    dsimp only
    split
    · next hides => exact mirrored.withThreadMoved moves hides
    next pane showing =>
    rcases threadShowing_eq_some.mp showing with ⟨opened, rfl, rfl⟩
    split
    · exact mirrored.withThreadShown moves opened (hydrateStagedDraft_view
        (mirrored.thread opened) moves.here)
    · next refused =>
      exact absurd (acceptsHydration_of_idle (idle pane showing)
        (mirrored.thread opened) (slotView_draft_of_absent absent)) refused

/-- A dismissed marker changes no view. -/
theorem handleAssistantDraftMarkerDismissed_panes :
    panes (handleAssistantDraftMarkerDismissed state target).1 = panes state := by
  have views := state.composerDrafts.dismissAssistantMarker_views target
  have dismissed : panes { state with
      composerDrafts := (state.composerDrafts.dismissAssistantMarker target).2 } = panes state := by
    simp only [panes, views.1, views.2]
  unfold handleAssistantDraftMarkerDismissed
  split
  · rfl
  dsimp only
  split
  · exact dismissed
  · split <;> exact dismissed

/-! ## Sends -/

variable (roomId rootEventId transactionId : String)

include mirrored in
/-- A send that settles a draft shows what is left of it. -/
theorem handleComposerDraftAccepted_mirrored (submittedRevision : Nat) (consumesDraft : Bool) :
    Mirrored (handleComposerDraftAccepted state target submittedRevision consumesDraft).1 := by
  unfold handleComposerDraftAccepted
  split
  · exact mirrored
  cases target with
  | main roomId =>
    dsimp only
    split
    · exact mirrored
    next revision drafts settled =>
    have moved : ∃ value, value.draftRevision = revision ∧
        MovesRoom state.composerDrafts drafts roomId value := by
      split at settled
      · exact state.composerDrafts.advanceRoomRevision_moves settled
      · exact state.composerDrafts.settleRoomRevision_moves settled
    rcases moved with ⟨value, _, moves⟩
    split
    · next shown =>
      refine Mirrored.of_panes_eq ?_ (returnMainPaneToLiveForAcceptedSend_panes roomId)
      exact mirrored.withRoomShown moves shown moves.here
    · next hides => exact mirrored.withRoomMoved moves hides
  | thread roomId rootEventId =>
    dsimp only
    split
    · exact mirrored
    next revision drafts settled =>
    have moved : ∃ value, value.draftRevision = revision ∧
        MovesThread state.composerDrafts drafts (roomId, rootEventId) value := by
      split at settled
      · exact state.composerDrafts.advanceThreadRevision_moves settled
      · exact state.composerDrafts.settleThreadRevision_moves settled
    rcases moved with ⟨value, _, moves⟩
    split
    · next pane showing =>
      rcases threadShowing_eq_some.mp showing with ⟨opened, rfl, rfl⟩
      exact mirrored.withThreadShown moves opened moves.here
    · next hides => exact mirrored.withThreadMoved moves hides

/-- Showing the stored draft at the revision it was advanced to. -/
theorem ComposerState.withAdvanced_view {composer stored : ComposerState} {value : DraftView} {revision : Nat}
    (view : stored.view = value) (advanced : value.draftRevision = revision) :
    ({ composer.withStored stored with draftRevision := revision } : ComposerState).view = value := by
  subst view
  subst advanced
  rfl

variable {draftRevision : Nat}

include mirrored in
theorem handleSendTextSubmitted_mirrored (body : String) :
    Mirrored (handleSendTextSubmitted state roomId transactionId body draftRevision).1 := by
  unfold handleSendTextSubmitted
  split
  · exact mirrored
  next admitted =>
  simp only [Bool.or_eq_true, not_or, Bool.not_eq_true, Bool.not_eq_false'] at admitted
  have sending : Mirrored (setTimelineComposer state (state.timeline.composer.beginSend transactionId)) :=
    mirrored.of_panes_eq (panes_setTimelineComposer rfl)
  dsimp only
  split
  · exact sending
  next revision drafts advanced =>
  rcases state.composerDrafts.advanceRoomRevision_moves advanced with ⟨value, sameRevision, moves⟩
  rw [(returnMainPaneToLiveForAcceptedSend_kept roomId).1]
  refine Mirrored.of_panes_eq ?_ (panes_setTimelineComposer_returned roomId _)
  exact sending.withRoomShown moves admitted.1.2 (withAdvanced_view moves.here sameRevision)

theorem handleSendTextFinished_panes :
    panes (handleSendTextFinished state roomId transactionId).1 = panes state := by
  unfold handleSendTextFinished
  split
  · exact panes_setTimelineComposer (finishSend_view _)
  · rfl

theorem handleSendTextFailed_panes (message : String) :
    panes (handleSendTextFailed state roomId transactionId message).1 = panes state := by
  unfold handleSendTextFailed
  split
  · exact panes_setTimelineComposer rfl
  · rfl

include mirrored in
theorem handleThreadReplySubmitted_mirrored :
    Mirrored (handleThreadReplySubmitted state roomId rootEventId transactionId draftRevision).1 := by
  unfold handleThreadReplySubmitted
  split
  · exact mirrored
  split
  · exact mirrored
  next pane showing =>
  rcases threadShowing_eq_some.mp showing with ⟨opened, rfl, rfl⟩
  split
  · exact mirrored
  split
  · exact mirrored.of_panes_eq (panes_setThreadComposer opened rfl)
  next revision drafts advanced =>
  rcases state.composerDrafts.advanceThreadRevision_moves advanced with ⟨value, sameRevision, moves⟩
  exact mirrored.withThreadShown moves opened (withAdvanced_view moves.here sameRevision)

theorem threadAwaitingSend_opened {roomId rootEventId transactionId : String} {pane : OpenThread}
    (awaiting : threadAwaitingSend state roomId rootEventId transactionId = some pane) :
    state.thread = .opened pane := by
  unfold threadAwaitingSend at awaiting
  split at awaiting
  · cases awaiting
  · exact (threadShowing_eq_some.mp (Option.filter_eq_some_iff.mp awaiting).1).1

theorem handleThreadReplyFinished_panes :
    panes (handleThreadReplyFinished state roomId rootEventId transactionId).1 = panes state := by
  unfold handleThreadReplyFinished
  split
  · next pane awaiting =>
    exact panes_setThreadComposer (threadAwaitingSend_opened awaiting) (finishSend_view _)
  · rfl

theorem handleThreadReplyFailed_panes (message : String) :
    panes (handleThreadReplyFailed state roomId rootEventId transactionId message).1 = panes state := by
  unfold handleThreadReplyFailed
  split
  · next pane awaiting => exact panes_setThreadComposer (threadAwaitingSend_opened awaiting) rfl
  · rfl

/-! ## Submissions -/

variable (submissionId : SubmissionId)

include mirrored in
theorem handleComposerSubmissionAccepted_mirrored (body : String) :
    Mirrored (handleComposerSubmissionAccepted state submissionId roomId transactionId body
      draftRevision).1 := by
  unfold handleComposerSubmissionAccepted
  split
  · exact mirrored
  dsimp only
  split
  · exact mirrored
  split
  · next shown =>
    rw [Bool.and_eq_true] at shown
    refine Mirrored.of_panes_eq ?_ (panes_setTimelineComposer_returned roomId _)
    refine mirrored.of_panes_eq (Eq.trans (panes_setTimelineComposer ?_) rfl)
    exact (composerForRoom_view _ roomId).trans (mirrored.timeline (timelineShows_iff.mp shown.1)).symm
  · exact mirrored

include mirrored in
theorem handleThreadSubmissionAccepted_mirrored :
    Mirrored (handleThreadSubmissionAccepted state submissionId roomId rootEventId transactionId
      draftRevision).1 := by
  unfold handleThreadSubmissionAccepted
  split
  · exact mirrored
  dsimp only
  split
  · exact mirrored
  split
  · exact mirrored
  next pane showing =>
  split
  · rcases threadShowing_eq_some.mp showing with ⟨opened, rfl, rfl⟩
    have openedBefore : state.thread = .opened pane := opened
    refine mirrored.of_panes_eq ?_
    have view := (composerForThread_view state.composerDrafts pane.roomId pane.rootEventId).trans
      (mirrored.thread openedBefore).symm
    simp only [panes, setThreadComposer, setRegistry, openedBefore, threadShape_opened,
      beginSubmission, withStored_view, view]
  · exact mirrored

/-- The composer that shows the target of a registered submission waits for it. -/
def submissionIsAwaited (state : AppState) (submissionId : SubmissionId) (transactionId : String)
    (target : ComposerTarget) : Prop :=
  state.timeline.submissionRegistry.activeMatches submissionId transactionId target = true ->
    match target with
    | .main roomId => state.timeline.roomId = some roomId ->
        state.timeline.composer.awaits submissionId transactionId = true
    | .thread roomId rootEventId => forall pane, threadShowing state roomId rootEventId = some pane ->
        pane.composer.awaits submissionId transactionId = true

/-- A change of the registry changes no view. -/
theorem panes_setRegistry (registry : ComposerSubmissionRegistry) :
    panes (setRegistry state registry) = panes state := rfl

include mirrored in
theorem handleQueued_mirrored (awaited : submissionIsAwaited state submissionId transactionId target) :
    Mirrored (handleQueued state submissionId transactionId target draftRevision).1 := by
  unfold handleQueued
  split
  · exact mirrored
  next matched =>
  rw [Bool.not_eq_true, Bool.not_eq_false'] at matched
  have awaits := awaited matched
  have queued : Mirrored (setRegistry state
      (state.timeline.submissionRegistry.rememberQueued submissionId)) :=
    mirrored.of_panes_eq (panes_setRegistry _)
  cases target with
  | main roomId =>
    dsimp only
    split
    · exact queued
    next revision drafts advanced =>
    rcases state.composerDrafts.advanceRoomRevision_moves advanced with ⟨value, _, moves⟩
    split
    · next released =>
      rw [Bool.and_eq_true] at released
      exact queued.withRoomShown moves released.1 moves.here
    · next kept =>
      refine queued.withRoomMoved moves ?_
      intro shown
      exact kept (Bool.and_eq_true_iff.mpr ⟨shown, awaits (timelineShows_iff.mp shown)⟩)
  | thread roomId rootEventId =>
    dsimp only
    split
    · exact queued
    next revision drafts advanced =>
    rcases state.composerDrafts.advanceThreadRevision_moves advanced with ⟨value, _, moves⟩
    split
    · next hides => exact queued.withThreadMoved moves hides
    next pane showing =>
    have waits := awaits pane showing
    rcases threadShowing_eq_some.mp showing with ⟨opened, rfl, rfl⟩
    rw [if_pos waits]
    exact queued.withThreadShown moves opened moves.here

variable {outcome : ComposerSubmissionTerminalOutcome}

theorem reportSettled_panes (changed : UiEvent) :
    panes (reportSettled state changed outcome).1 = panes state := by
  unfold reportSettled
  split <;> rfl

theorem handleSettled_panes :
    panes (handleSettled state submissionId transactionId target outcome).1 = panes state := by
  unfold handleSettled
  split
  · rfl
  dsimp only
  split
  · rfl
  split
  · split
    · rw [reportSettled_panes]
      exact panes_setTimelineComposer (release_view _ _)
    · rfl
  · split
    · rfl
    · next pane showing =>
      split
      · rw [reportSettled_panes]
        exact panes_setThreadComposer (threadShowing_eq_some.mp showing).1 (release_view _ _)
      · rfl

/-! ## Scheduled sends and reply targets -/

include mirrored in
theorem handleScheduledSendCreatedAtRevision_mirrored (item : ScheduledSendItem) :
    Mirrored (handleScheduledSendCreatedAtRevision state item draftRevision).1 := by
  have scheduled : Mirrored { state with scheduledSends := state.scheduledSends.insert item } :=
    mirrored.of_panes_eq rfl
  have shown : forall shownState, Mirrored shownState ->
      Mirrored (showScheduledSends shownState item.roomId).1 :=
    fun shownState kept => kept.of_panes_eq (showScheduledSends_untouched shownState item.roomId).panes_eq
  unfold handleScheduledSendCreatedAtRevision
  dsimp only
  split
  · exact mirrored
  split
  · next rootEventId _ =>
    split
    · exact scheduled
    next revision drafts advanced =>
    rcases state.composerDrafts.advanceThreadRevision_moves advanced with ⟨value, _, moves⟩
    split
    · next pane showing =>
      rcases threadShowing_eq_some.mp showing with ⟨opened, sameRoom, rfl⟩
      rw [← sameRoom] at moves
      refine shown _ (scheduled.withThreadShown moves opened ?_)
      rw [← sameRoom]
      exact moves.here
    · next hides => exact shown _ (scheduled.withThreadMoved moves hides)
  · split
    · exact scheduled
    · next revision drafts advanced =>
      rcases state.composerDrafts.advanceRoomRevision_moves advanced with ⟨value, _, moves⟩
      split
      · next shows' =>
        exact shown _ (scheduled.withRoomShown moves shows' moves.here)
      · next hides => exact scheduled.withRoomMoved moves hides

theorem handleComposerReplyTargetSelected_panes (eventId : String) :
    panes (handleComposerReplyTargetSelected state roomId eventId).1 = panes state := by
  unfold handleComposerReplyTargetSelected
  split <;> rfl

theorem handleComposerReplyCancelled_panes :
    panes (handleComposerReplyCancelled state).1 = panes state := by
  unfold handleComposerReplyCancelled
  (repeat' split) <;> rfl

theorem handleThreadComposerReplyTargetSelected_panes (eventId : String) :
    panes (handleThreadComposerReplyTargetSelected state roomId rootEventId eventId).1 = panes state := by
  unfold handleThreadComposerReplyTargetSelected
  split
  · rfl
  split
  · next pane showing => exact panes_setThreadComposer (threadShowing_eq_some.mp showing).1 rfl
  · rfl

theorem handleThreadComposerReplyCancelled_panes :
    panes (handleThreadComposerReplyCancelled state roomId rootEventId).1 = panes state := by
  unfold handleThreadComposerReplyCancelled
  split
  · rfl
  next pane showing =>
  split
  · rfl
  · exact panes_setThreadComposer (threadShowing_eq_some.mp showing).1 rfl

end Koushi
