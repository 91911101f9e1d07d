import Koushi.Reducer.Navigation

namespace Koushi

open Collections SpaceSummary List

/-!
# Reordering the visible spaces

The stored order may name spaces that are not joined now, and a request names the
joined ones only.  The loop writes the request over the visible entries of the order,
into which the new spaces were merged first.
-/

/-- The loop as the source has it.  Without a value the requested ids ran out. -/
def placeExpecting (isVisible : String -> Bool) : List String -> List String -> Option (List String)
  | [], _ => some []
  | spaceId :: rest, requested =>
    if isVisible spaceId then
      match requested with
      | [] => none
      | first :: more => (placeExpecting isVisible rest more).map (fun placed => first :: placed)
    else (placeExpecting isVisible rest requested).map (fun placed => spaceId :: placed)

section Place

variable {isVisible : String -> Bool}

/-- With as many requested ids as visible entries the loop ends, the request stands in
the visible places, and the other places are as they were. -/
theorem placeExpecting_spec (order requested : List String)
    (enough : (order.filter isVisible).length = requested.length)
    (visible : ∀ spaceId ∈ requested, isVisible spaceId = true) :
    let placed := placeRequested isVisible order requested
    placeExpecting isVisible order requested = some placed ∧ placed.filter isVisible = requested ∧
      placed.filter (fun spaceId => !isVisible spaceId) = order.filter (fun spaceId => !isVisible spaceId) ∧
      ∀ (position : Nat) spaceId, isVisible spaceId = false ->
        (placed[position]? = some spaceId ↔ order[position]? = some spaceId) := by
  induction order generalizing requested with
  | nil =>
    have none : requested = [] := eq_nil_of_length_eq_zero enough.symm
    simp [none, placeRequested, placeExpecting]
  | cons head rest ih =>
    cases shown : isVisible head with
    | false =>
      have step := ih requested (by simpa [shown] using enough) visible
      have same : placeRequested isVisible (head :: rest) requested =
          head :: placeRequested isVisible rest requested := by
        cases requested <;> simp [placeRequested, shown]
      refine ⟨?_, ?_, ?_, ?_⟩
      · simp [placeExpecting, shown, step.1, same]
      · simp [same, shown, step.2.1]
      · simp [same, shown, step.2.2.1]
      · rintro (_ | position) spaceId hidden
        · simp [same]
        · simpa [same] using step.2.2.2 position spaceId hidden
    | true =>
      cases requested with
      | nil => simp [shown] at enough
      | cons first more =>
        have firstShown := visible first mem_cons_self
        have step := ih more (by simpa [shown] using enough)
          (fun spaceId member => visible spaceId (mem_cons_of_mem _ member))
        refine ⟨?_, ?_, ?_, ?_⟩
        · simp [placeExpecting, placeRequested, shown, step.1]
        · simp [placeRequested, shown, firstShown, step.2.1]
        · simp [placeRequested, shown, firstShown, step.2.2.1]
        · rintro (_ | position) spaceId hidden
          · have notHead : head ≠ spaceId := fun same => by simp [same, hidden] at shown
            have notFirst : first ≠ spaceId := fun same => by simp [same, hidden] at firstShown
            simp [placeRequested, shown, notHead, notFirst]
          · simpa [placeRequested, shown] using step.2.2.2 position spaceId hidden

end Place

variable {spaceOrder requested : List String} {spaces : List SpaceSummary}

theorem nodup_eraseDups (spaceIds : List String) : spaceIds.eraseDups.Nodup := by
  induction spaceIds using reverseRecOn with
  | nil => exact nodup_nil
  | append_singleton rest last ih =>
    rw [eraseDups_append]
    by_cases known : last ∈ rest
    · simpa [removeAll, known] using ih
    · rw [removeAll, filter_singleton, nodup_append]
      simp [known, ih]
      grind

/-- The merged order names every space once, and every joined space. -/
theorem mergeNewSpaces_spec (spaceOrder : List String) (spaces : List SpaceSummary) :
    (mergeNewSpacesIntoPreference spaceOrder spaces).Nodup ∧
      keysBy spaceId spaces ⊆ mergeNewSpacesIntoPreference spaceOrder spaces := by
  have fold : ∀ order : List String, order.Nodup ->
      let merged := spaces.foldl
        (fun order space => if space.spaceId ∈ order then order else order ++ [space.spaceId]) order
      merged.Nodup ∧ order ⊆ merged ∧ keysBy spaceId spaces ⊆ merged := by
    induction spaces with
    | nil => exact fun order distinct => ⟨distinct, Subset.refl _, nil_subset _⟩
    | cons space rest ih =>
      intro order distinct
      rw [foldl_cons]
      split
      · next known =>
        have step := ih order distinct
        exact ⟨step.1, step.2.1, cons_subset.mpr ⟨step.2.1 known, step.2.2⟩⟩
      · next new =>
        have step := ih (order ++ [space.spaceId]) (nodup_append.mpr ⟨distinct, nodup_singleton _, by grind⟩)
        refine ⟨step.1, Subset.trans (subset_append_left _ _) step.2.1,
          cons_subset.mpr ⟨?_, step.2.2⟩⟩
        exact step.2.1 (mem_append_right _ (mem_singleton_self _))
  have merged := fold (normalizeSpaceOrderPreference spaceOrder) (nodup_eraseDups _)
  exact ⟨merged.1, merged.2.2⟩

theorem isCompleteSpaceOrder_iff : isCompleteSpaceOrder spaces requested = true ↔
    requested.Nodup ∧ requested.Perm (keysBy spaceId spaces) := by
  simp only [isCompleteSpaceOrder, Bool.and_eq_true, decide_eq_true_eq, all_eq_true, hasKey_iff]
  constructor
  · rintro ⟨⟨⟨sameLength, distinct⟩, -⟩, joined⟩
    refine ⟨distinct, (distinct.subperm joined).perm_of_length_le ?_⟩
    rw [keysBy, length_map, sameLength]
  · rintro ⟨distinct, perm⟩
    refine ⟨⟨⟨?_, distinct⟩, ?_⟩, fun spaceId => perm.mem_iff.mp⟩
    · rw [perm.length_eq, keysBy, length_map]
    · exact fun space joined => perm.mem_iff.mpr (mem_map_of_mem joined)

/-- A request that names every joined space once rearranges the merged order: it stands
in the places of the joined spaces, every other space keeps its place, and the request
never runs out.  Any other request is refused. -/
theorem reorder_keeps_hidden_spaces (spaceOrder requested : List String) (spaces : List SpaceSummary) :
    let joined := keysBy SpaceSummary.spaceId spaces
    let merged := mergeNewSpacesIntoPreference spaceOrder spaces
    if requested.Nodup ∧ requested.Perm joined then
      ∃ next, reorderVisibleSpaceOrder spaceOrder spaces requested = some next ∧
        placeExpecting (hasKey SpaceSummary.spaceId spaces) merged requested = some next ∧
        next.Perm merged ∧ next.filter (fun spaceId => spaceId ∈ joined) = requested ∧
        ∀ (position : Nat) spaceId, spaceId ∉ joined ->
          (next[position]? = some spaceId ↔ merged[position]? = some spaceId)
    else reorderVisibleSpaceOrder spaceOrder spaces requested = none := by
  intro joined merged
  have visible : hasKey spaceId spaces = fun spaceId => decide (spaceId ∈ joined) := by
    funext spaceId
    rw [Bool.eq_iff_iff, hasKey_iff, decide_eq_true_eq]
  split
  · next complete =>
    have facts := mergeNewSpaces_spec spaceOrder spaces
    -- The visible entries of the merged order are the joined spaces.
    have shown : (merged.filter (hasKey spaceId spaces)).Perm requested := by
      rw [perm_ext_iff_of_nodup (facts.1.filter _) complete.1]
      intro spaceId
      rw [mem_filter, hasKey_iff, complete.2.mem_iff]
      exact ⟨fun both => both.2, fun member => ⟨facts.2 member, member⟩⟩
    have placed := placeExpecting_spec merged requested shown.length_eq
      (fun spaceId member => hasKey_iff.mpr (complete.2.mem_iff.mp member))
    refine ⟨_, ?_, placed.1, ?_, ?_, ?_⟩
    · rw [reorderVisibleSpaceOrder, isCompleteSpaceOrder_iff.mpr complete]
      rfl
    · refine (filter_append_perm (hasKey spaceId spaces) _).symm.trans ?_
      rw [placed.2.1, placed.2.2.1]
      exact (shown.symm.append_right _).trans (filter_append_perm _ _)
    · rw [← visible]
      exact placed.2.1
    · intro position spaceId hidden
      exact placed.2.2.2 position spaceId (by simpa [visible] using hidden)
  · next incomplete =>
    rw [reorderVisibleSpaceOrder, Bool.eq_false_iff.mpr (incomplete ∘ isCompleteSpaceOrder_iff.mp)]
    rfl

end Koushi
