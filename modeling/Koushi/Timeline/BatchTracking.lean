import Koushi.Timeline.DisplayProjection
import Koushi.Timeline.MembershipLaws

namespace Koushi

open Collections DisplayProjectionSlot BatchProgress DisplayMembershipRope List

/-!
# Batches track the canonical items

Through a batch the slots live in the membership rope, and the items that were
pushed to the front wait in a list of their own.  After every diff the rope follows
the canonical items with the waiting ones in front, and those are the items that
the plain application of the diffs has.  At the end the rope gives the slots back.
-/

/-! ## Slots that follow -/

/-- Where a slot stands and what it shows, without its gaps. -/
def DisplayProjectionSlot.place (slot : DisplayProjectionSlot) : Nat × TimelineItem :=
  (slot.canonicalIndex, slot.item)

theorem slotsFollow_iff_places {slots : List DisplayProjectionSlot} {canonical : List TimelineItem} :
    SlotsFollow slots canonical ↔
      (slots.map DisplayProjectionSlot.place).Pairwise (fun earlier later => earlier.1 < later.1) ∧
        ∀ place ∈ slots.map DisplayProjectionSlot.place, canonical[place.1]? = some place.2 := by
  rw [pairwise_map, forall_mem_map]
  exact ⟨fun follow => ⟨follow.increasing, follow.shown⟩, fun parts => ⟨parts.1, parts.2⟩⟩

/-- Gaps do not matter. -/
theorem SlotsFollow.of_places {slots moved : List DisplayProjectionSlot} {canonical : List TimelineItem}
    (follow : SlotsFollow slots canonical) (same : moved.map place = slots.map place) :
    SlotsFollow moved canonical := by
  rw [slotsFollow_iff_places, same]
  exact slotsFollow_iff_places.mp follow

/-- The slot of every canonical item. -/
theorem slotsFollow_zipIdx (canonical : List TimelineItem) :
    SlotsFollow (canonical.zipIdx.map (fun entry => ⟨entry.2, entry.1, default⟩)) canonical where
  increasing := by
    have indices : (canonical.zipIdx.map Prod.snd).Pairwise (· < ·) := by
      rw [zipIdx_map_snd]
      exact pairwise_lt_range'
    exact pairwise_map.mpr (pairwise_map.mp indices)
  shown := by
    rw [forall_mem_map]
    intro entry member
    exact mk_mem_zipIdx_iff_getElem?.mp member

theorem toList_increasing (indices : OrdSet Nat) : indices.toList.Pairwise (· < ·) := by
  refine (Std.ExtTreeSet.ordered_toList (t := indices)).imp ?_
  intro earlier later before
  exact Nat.compare_eq_lt.mp before

/-- The slots of increasing indices. -/
theorem slotsFollow_filterMap {indices : List Nat} (increasing : indices.Pairwise (· < ·))
    (canonical : List TimelineItem) : SlotsFollow (indices.filterMap (fun index =>
      canonical[index]?.map (fun item => ⟨index, item, default⟩))) canonical where
  increasing := by
    refine increasing.filterMap _ ?_
    intro earlier later before first madeFirst second madeSecond
    obtain ⟨item, -, rfl⟩ := Option.map_eq_some_iff.mp madeFirst
    obtain ⟨item, -, rfl⟩ := Option.map_eq_some_iff.mp madeSecond
    exact before
  shown := by
    intro slot member
    obtain ⟨index, -, made⟩ := mem_filterMap.mp member
    obtain ⟨item, there, rfl⟩ := Option.map_eq_some_iff.mp made
    exact there

namespace DisplayProjectionState

variable {state : DisplayProjectionState} {canonical : List TimelineItem}

theorem foldl_places {visit : List DisplayProjectionSlot × Nat -> DisplayProjectionSlot ->
      List DisplayProjectionSlot × Nat} (appends : ∀ progress slot, (visit progress slot).1.map place =
      progress.1.map place ++ [slot.place])
    (progress : List DisplayProjectionSlot × Nat) (slots : List DisplayProjectionSlot) :
    (slots.foldl visit progress).1.map place = progress.1.map place ++ slots.map place := by
  induction slots generalizing progress with
  | nil => rw [foldl_nil, map_nil, append_nil]
  | cons slot rest ih =>
    rw [foldl_cons, ih, appends, append_assoc, map_cons, singleton_append]

theorem refreshGapEnds_places : (state.refreshGapEnds canonical).slots.map place =
      state.slots.map place := by
  refine foldl_places ?_ ([], 0) state.slots
  intro progress slot
  rw [map_append]
  rfl

theorem refreshEdgeGapEnds_places : (state.refreshEdgeGapEnds canonical).slots.map place =
      state.slots.map place := by
  rw [refreshEdgeGapEnds]
  cases state.slots with
  | nil => rfl
  | cons first rest => rfl

variable {context : DisplayProjectionContext}

theorem adoptSlots_follow {slots : List DisplayProjectionSlot} (follow : SlotsFollow slots canonical) :
    SlotsFollow (state.adoptSlots canonical context slots).slots canonical :=
  follow.of_places (refreshGapEnds_places)

/-- From the end on, a visit keeps or adds the slot of its own entry. -/
theorem liveWindow_sublist (len : Nat) (entries : List (TimelineItem × Nat)) :
    (entries.reverse.foldl (LiveWindow.visit len) ⟨[], 0, [], false⟩).slots.Sublist
      (entries.map (fun entry => ⟨entry.2, entry.1, default⟩)) := by
  rw [foldl_reverse]
  induction entries with
  | nil => exact .slnil
  | cons entry rest ih =>
    rw [foldr_cons, map_cons]
    generalize foldr (fun entry window => LiveWindow.visit len window entry) ⟨[], 0, [], false⟩
      rest = window at ih
    rw [LiveWindow.visit]
    split
    · exact ih.cons _
    dsimp only
    split
    · exact ih.cons_cons _
    · exact ih.cons _

theorem returnToLiveWindow_follow :
    SlotsFollow (state.returnToLiveWindow canonical context).slots canonical :=
  adoptSlots_follow
    ((slotsFollow_zipIdx canonical).sublist (liveWindow_sublist canonical.length canonical.zipIdx))

/-- Whatever the hash order is, a reset gives slots that follow. -/
theorem resetBounded_follow (hashOrder : List Nat -> List Nat) (context : DisplayProjectionContext)
    (canonical : List TimelineItem)
    (increasing : state.slots.Pairwise (fun earlier later => earlier.canonicalIndex < later.canonicalIndex)) :
    SlotsFollow (state.resetBounded hashOrder canonical context).slots canonical := by
  rw [resetBounded]
  split
  · exact returnToLiveWindow_follow
  dsimp only
  split
  · rename_i same
    refine adoptSlots_follow ⟨pairwise_map.mpr increasing, ?_⟩
    rw [forall_mem_map]
    intro slot member
    simp only [Bool.and_eq_true, all_eq_true] at same
    have kept := same.1.2 slot member
    cases there : canonical[slot.canonicalIndex]? with
    | none =>
      rw [there] at kept
      cases kept
    | some item => rfl
  · split
    · exact returnToLiveWindow_follow
    · exact adoptSlots_follow (slotsFollow_filterMap (toList_increasing _) canonical)

theorem trimSlots_sublist
    (keepOlder : Bool) : (state.trimSlots context keepOlder).slots.Sublist state.slots := by
  rw [trimSlots]
  split
  · exact Sublist.refl _
  · exact (drop_sublist _ _).trans (take_sublist _ _)

theorem boundAfterBatch_follow (follow : SlotsFollow state.slots canonical) :
    SlotsFollow (state.boundAfterBatch canonical context).slots canonical := by
  rw [boundAfterBatch]
  split
  · exact follow
  exact (follow.sublist (trimSlots_sublist _)).of_places
    (refreshEdgeGapEnds_places)

end DisplayProjectionState

/-! ## One diff -/

namespace BatchProgress

variable {progress : BatchProgress} {canonical : List TimelineItem}

/-- The batch has come to these canonical items. -/
structure Tracks (progress : BatchProgress) (canonical : List TimelineItem) : Prop where
  canonical_eq :
    flushPendingCanonicalPushFronts progress.canonicalItems progress.pendingPushFronts = canonical
  follows : progress.membership.Follows canonical
  taken : progress.displayState.slots = []

theorem Tracks.trimmed (tracks : progress.Tracks canonical) (context : DisplayProjectionContext) :
    ∃ next, progress.trimmed context = some next ∧ next.Tracks canonical := by
  obtain ⟨membership, trim, follows⟩ := tracks.follows.trimToLiveEdge context.maxLiveEdgeItems
  rw [BatchProgress.trimmed, trim]
  exact ⟨_, rfl, tracks.canonical_eq, follows, tracks.taken⟩

variable {context : DisplayProjectionContext}

/-- An edit of the rope that follows the edited items, and the trim after it. -/
theorem tracks_of_edit {edited : Option (DisplayMembershipRope × Bool)} (canonical_eq :
      flushPendingCanonicalPushFronts progress.canonicalItems progress.pendingPushFronts = canonical)
    (taken : progress.displayState.slots = [])
    (follows : ∃ rope valid, edited = some (rope, valid) ∧ rope.Follows canonical) :
    ∃ next, (progress.withMembership edited).bind (trimmed context) = some next ∧
      next.Tracks canonical := by
  obtain ⟨rope, valid, rfl, follows⟩ := follows
  have tracks : Tracks
      { progress with
        membership := rope, translationAmbiguous := progress.translationAmbiguous || !valid } canonical :=
    ⟨canonical_eq, follows, taken⟩
  exact tracks.trimmed context

theorem resetDiff_tracks (hashOrder : List Nat -> List Nat)
    (items : List TimelineItem) (flushed : progress.pendingPushFronts = [])
    (taken : progress.displayState.slots = []) :
    ∃ next, progress.resetDiff hashOrder context items = some next ∧ next.Tracks items := by
  have items_eq : flushPendingCanonicalPushFronts items progress.pendingPushFronts = items := by
    rw [flushed]
    rfl
  rw [resetDiff]
  dsimp only
  split
  · have follow := DisplayProjectionState.resetBounded_follow hashOrder context items
      (show progress.displayState.slots.Pairwise _ by rw [taken]; exact .nil)
    obtain ⟨rope, ambiguous, rebuilt, follows⟩ :=
      fromProjectionState_follows follow
        (progress.displayState.resetBounded hashOrder items context).gapAfter
    rw [rebuilt]
    exact ⟨_, rfl, items_eq, follows, rfl⟩
  · obtain ⟨rope, built, follows⟩ := fromCanonicalWindow_follows items
      ((context.maxLiveEdgeItems.map (liveEdgeWindowStart items)).getD 0) items.length
    rw [built]
    exact ⟨_, rfl, items_eq, follows, taken⟩

/-- A diff brings the batch to the items that the plain diff makes. -/
theorem Tracks.step (tracks : progress.Tracks canonical) (hashOrder : List Nat -> List Nat)
    (context : DisplayProjectionContext) (diff : TimelineDiff) :
    ∃ next, progress.step hashOrder context diff = some next ∧ next.Tracks (diff.apply canonical) := by
  obtain ⟨rfl, follows, taken⟩ := tracks
  generalize canonicalEq : flushPendingCanonicalPushFronts progress.canonicalItems
    progress.pendingPushFronts = canonical at follows
  cases diff with
  | pushFront item =>
    obtain ⟨rope, inserted, follows⟩ := follows.insert (Nat.zero_le _) item none
    have waiting : flushPendingCanonicalPushFronts progress.canonicalItems
        (progress.pendingPushFronts ++ [item]) = canonical.insertIdx 0 item := by
      rw [insertIdx_zero, ← canonicalEq]
      dsimp only [flushPendingCanonicalPushFronts]
      rw [reverse_append, reverse_singleton, singleton_append, cons_append]
    exact tracks_of_edit (by exact waiting) (by exact taken) ⟨rope, true, inserted, follows⟩
  | pushBack item =>
    obtain ⟨rope, inserted, follows⟩ := follows.insert le_rfl item (some context.includeAppend)
    rw [insertIdx_length_self] at follows
    simp only [step, canonicalEq]
    exact tracks_of_edit (by rfl) (by exact taken) ⟨rope, true, inserted, follows⟩
  | insert index item =>
    obtain ⟨rope, inserted, follows⟩ := follows.insert (Nat.min_le_right index canonical.length) item none
    simp only [step, canonicalEq]
    split <;> exact tracks_of_edit (by rfl) (by exact taken) ⟨rope, true, inserted, follows⟩
  | set index item =>
    simp only [step, canonicalEq]
    split
    · rename_i out
      rw [VectorDiff.apply, set_eq_of_length_le (getElem?_eq_none_iff.mp out)]
      exact ⟨_, rfl, rfl, follows, taken⟩
    · rename_i oldItem there
      obtain ⟨inside, -⟩ := List.getElem?_eq_some_iff.mp there
      exact tracks_of_edit (by rfl) (by exact taken) (follows.set inside item (timelineItemRenderId oldItem))
  | remove index =>
    simp only [step, canonicalEq]
    split
    · rename_i out
      rw [VectorDiff.apply, eraseIdx_of_length_le (getElem?_eq_none_iff.mp out)]
      exact ⟨_, rfl, rfl, follows, taken⟩
    · rename_i oldItem there
      obtain ⟨inside, -⟩ := List.getElem?_eq_some_iff.mp there
      exact tracks_of_edit (by rfl) (by exact taken) (follows.remove inside (timelineItemRenderId oldItem))
  | truncate length =>
    obtain ⟨rope, cut, follows⟩ := follows.truncate length
    simp only [step, canonicalEq]
    split <;> exact tracks_of_edit (by rfl) (by exact taken) ⟨rope, true, by rw [cut]; rfl, follows⟩
  | clear =>
    have tracks : Tracks
        { progress with
          canonicalItems := [], pendingPushFronts := [], membership := progress.membership.clear } [] :=
      ⟨rfl, follows_nil _, taken⟩
    exact tracks.trimmed context
  | reset items =>
    obtain ⟨reset, done, tracks⟩ : ∃ next,
        { progress with canonicalItems := canonical, pendingPushFronts := [] }.resetDiff hashOrder
          context items = some next ∧ next.Tracks items :=
      resetDiff_tracks hashOrder items (by rfl) (by exact taken)
    simp only [step, canonicalEq, done]
    exact tracks.trimmed context

/-! ## The whole batch -/

theorem Tracks.foldlM (tracks : progress.Tracks canonical) (hashOrder : List Nat -> List Nat)
    (context : DisplayProjectionContext) (diffs : List TimelineDiff) :
    ∃ next, diffs.foldlM (BatchProgress.step hashOrder context) progress = some next ∧
      next.Tracks (applyTimelineDiffsToItems canonical diffs) := by
  induction diffs generalizing progress canonical with
  | nil => exact ⟨progress, rfl, tracks⟩
  | cons diff rest ih =>
    obtain ⟨middle, stepped, tracks⟩ := tracks.step hashOrder context diff
    obtain ⟨next, run, tracks⟩ := ih tracks
    refine ⟨next, ?_, tracks⟩
    rw [foldlM_cons, stepped]
    exact run

end BatchProgress

/-- A batch is never refused, leaves the canonical items that the plain application
leaves, and its slots show exactly those items. -/
theorem projectSdkBatch_tracks (hashOrder : List Nat -> List Nat) (canonicalItems : List TimelineItem)
    (displayState : DisplayProjectionState) (canonicalDiffs : List TimelineDiff)
    (context : DisplayProjectionContext) (follow : SlotsFollow displayState.slots canonicalItems) :
    ∃ displayState' batch, projectSdkBatch hashOrder canonicalItems displayState canonicalDiffs context =
          some (applyTimelineDiffsToItems canonicalItems canonicalDiffs, displayState', batch) ∧
        SlotsFollow displayState'.slots (applyTimelineDiffsToItems canonicalItems canonicalDiffs) := by
  rw [projectSdkBatch]
  generalize bumpedEq : (if (context.roomWindow && !canonicalDiffs.isEmpty) = true then _ else
    displayState) = bumped
  have sameSlots : bumped.slots = displayState.slots := by
    rw [← bumpedEq]
    split <;> rfl
  obtain ⟨rope, ambiguous, built, follows⟩ :=
    fromProjectionState_follows (sameSlots ▸ follow) bumped.gapAfter
  have start : BatchProgress.Tracks
      ⟨canonicalItems, { bumped with slots := [] }, rope, ambiguous, []⟩ canonicalItems :=
    ⟨rfl, follows, rfl⟩
  obtain ⟨progress, run, canonical_eq, follows, -⟩ := start.foldlM hashOrder context canonicalDiffs
  obtain ⟨slots, gapAfter, collected, follow⟩ := follows.collectSlots
  simp only [built, run, collected, canonical_eq]
  exact ⟨_, _, rfl, DisplayProjectionState.boundAfterBatch_follow follow⟩

def canonicalEvent (eventId : String) : TimelineItem where
  id := .event eventId
  body := some eventId
  timestampMs := none
  threadRoot := none
  threadSummary := none
  isHidden := false
  displayMetadata := none

/-- Two items of which the second is shown, and a batch with an item in front, a set
out of range and a removal. -/
theorem projectSdkBatch_tracks_second_shown : ∃ displayState' batch,
      projectSdkBatch id [canonicalEvent "$a", canonicalEvent "$b"]
          ⟨[⟨1, canonicalEvent "$b", default⟩], 0, 2, default, [], [], ∅⟩
          [.pushFront (canonicalEvent "$z"), .set 9 (canonicalEvent "$q"), .remove 1]
          ⟨true, ⟨none, none, false⟩, none, true, false, .rootEvent, []⟩ =
        some ([canonicalEvent "$z", canonicalEvent "$b"], displayState', batch) ∧
      SlotsFollow displayState'.slots [canonicalEvent "$z", canonicalEvent "$b"] :=
  projectSdkBatch_tracks id [canonicalEvent "$a", canonicalEvent "$b"] _ _ _
    ⟨pairwise_singleton _ _, by simp⟩

end Koushi
