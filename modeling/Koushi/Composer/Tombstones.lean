import Koushi.Composer.DraftRefinement

namespace Koushi

open Collections List

/-!
# Bounded tombstones

A target whose content is gone and whose revision is still kept is a tombstone.
Reconciliation rebuilds the recency list of each family from its maps and then
evicts the oldest unprotected tombstones over the quota.

A target with a pending store write is protected, and it is listed all the same:
only an open or a leased target stays off the list.  What the list promises
therefore distinguishes `isTouched` from `isProtected`.
-/

namespace ComposerDraftStore

section Slots

variable {κ : Type} [DecidableEq κ]

/-- A target with a revision and without content. -/
def IsTombstone (slots : DraftSlots κ) (key : κ) : Prop :=
  (slots.revision key).isSome = true ∧ slots.content key = none

/-- What a reconciliation does to one family of slots, whatever its recency list
was.  `order` is the rebuilt list, from the oldest key to the newest. -/
structure WithinQuota (maximum : Nat) (isProtected : κ -> Bool) (order : List κ)
    (before after : DraftSlots κ) : Prop where
  bounded : {key | IsTombstone after key ∧ isProtected key = false}.encard ≤ maximum
  oldest : ∃ evicted,
    order.filter (fun key => !isProtected key) =
      evicted ++ after.recency.filter (fun key => !isProtected key) ∧
    forall key, (before.revision key).isSome = true -> (after.revision key = none ↔ key ∈ evicted)
  kept : forall key, (before.content key).isSome = true ∨ isProtected key = true ->
    after.content key = before.content key ∧ after.revision key = before.revision key ∧
      after.cleared key = before.cleared key

/-- The recency list holds every tombstone that nobody has open, once, and
nothing else. -/
structure ListsTombstones (isTouched : κ -> Bool) (slots : DraftSlots κ) : Prop where
  once : slots.recency.Nodup
  listed : forall key, key ∈ slots.recency ↔ IsTombstone slots key ∧ isTouched key = false

variable {maximum : Nat} {isTouched isProtected : κ -> Bool} {order : List κ} {slots : DraftSlots κ}

omit [DecidableEq κ] in
/-- What stays of a list fits the quota. -/
theorem countP_splitToQuota :
    (splitToQuota isProtected maximum order).2.countP (fun key => !isProtected key) ≤ maximum := by
  have parts := congrArg length (splitOldest_filter isProtected
    (order.countP (fun key => !isProtected key) - maximum) order)
  have evicted := length_splitOldest_evicted isProtected
    (Nat.sub_le (order.countP (fun key => !isProtected key)) maximum)
  rw [length_append, ← countP_eq_length_filter, ← countP_eq_length_filter, evicted] at parts
  unfold splitToQuota
  omega

theorem revision_evict (evicted kept : List κ) (key : κ) :
    ((slots.evict evicted kept).revision key).isSome = true ↔
      (slots.revision key).isSome = true ∧ key ∉ evicted := by
  by_cases gone : key ∈ evicted <;> simp [FencedSlots.evict, gone]

theorem withinQuota_split (touched : forall key, isTouched key = true -> isProtected key = true)
    (relisted : forall key, key ∈ order ↔ IsTombstone slots key ∧ isTouched key = false) :
    WithinQuota maximum isProtected order slots
      (slots.evict (splitToQuota isProtected maximum order).1 (splitToQuota isProtected maximum order).2) := by
  let split := splitToQuota isProtected maximum order
  refine ⟨?_, ⟨split.1, splitOldest_filter isProtected _ order, ?_⟩, ?_⟩
  · -- An unprotected tombstone is untouched, hence on the rebuilt list; it was not evicted, so it stays.
    have stays : {key | IsTombstone (slots.evict split.1 split.2) key ∧ isProtected key = false} ⊆
        ↑(split.2.filter (fun key => !isProtected key)).toFinset := by
      rintro key ⟨⟨revised, cleared⟩, unguarded⟩
      rw [revision_evict] at revised
      have untouched : isTouched key = false := by
        cases open_ : isTouched key with
        | false => rfl
        | true => rw [touched key open_] at unguarded; exact absurd unguarded (by decide)
      have inOrder := (relisted key).mpr ⟨⟨revised.1, cleared⟩, untouched⟩
      have inKept := ((mem_splitOldest isProtected _).mp inOrder).resolve_left revised.2
      rw [Finset.mem_coe, mem_toFinset, mem_filter, unguarded]
      exact ⟨inKept, rfl⟩
    calc _ ≤ (↑(split.2.filter (fun key => !isProtected key)).toFinset : Set κ).encard :=
          Set.encard_le_encard stays
      _ = (split.2.filter (fun key => !isProtected key)).toFinset.card := Set.encard_coe_eq_coe_finsetCard _
      _ ≤ maximum := by
          norm_cast
          refine (toFinset_card_le _).trans ?_
          rw [← countP_eq_length_filter]
          exact countP_splitToQuota
  · intro key revised
    rw [← Option.not_isSome_iff_eq_none, revision_evict, not_and_not_right]
    exact ⟨fun gone => gone revised, fun evicted _ => evicted⟩
  · intro key held
    have stays : key ∉ split.1 := by
      intro evicted
      have inOrder := (mem_splitOldest isProtected _).mpr (Or.inl evicted)
      rcases held with content | guarded
      · rw [((relisted key).mp inOrder).1.2] at content
        exact absurd content (by decide)
      · rw [splitOldest_evicted_unprotected isProtected evicted] at guarded
        exact absurd guarded (by decide)
    exact ⟨rfl, if_neg stays, if_neg stays⟩

theorem listsTombstones_split (nodup : order.Nodup)
    (relisted : forall key, key ∈ order ↔ IsTombstone slots key ∧ isTouched key = false) :
    ListsTombstones isTouched
      (slots.evict (splitToQuota isProtected maximum order).1 (splitToQuota isProtected maximum order).2) := by
  constructor
  · exact nodup.sublist (splitOldest_kept_sublist isProtected _ order)
  · intro key
    let split := splitToQuota isProtected maximum order
    have whole : key ∈ order ↔ key ∈ split.1 ∨ key ∈ split.2 := mem_splitOldest isProtected _
    have apart : key ∈ split.1 -> key ∉ split.2 := splitOldest_disjoint isProtected nodup
    rw [relisted, IsTombstone] at whole
    rw [IsTombstone, revision_evict]
    show key ∈ split.2 ↔ (((slots.revision key).isSome = true ∧ key ∉ split.1) ∧ slots.content key = none) ∧ _
    tauto

omit [DecidableEq κ] in
/-- A list that has every key it should have is rebuilt as it is. -/
theorem relisted_eq_self {listed missing : List κ} {keep : κ -> Bool}
    (complete : forall key, key ∈ listed ↔ keep key = true)
    (relisted : forall key, key ∈ listed.filter keep ++ missing ↔ keep key = true)
    (apart : ∀ key ∈ missing, key ∉ listed.filter keep) : listed.filter keep ++ missing = listed := by
  have same : listed.filter keep = listed := filter_eq_self.mpr (fun key => (complete key).mp)
  rw [same] at relisted apart ⊢
  have nothing : missing = [] := by
    rw [eq_nil_iff_forall_not_mem]
    intro key member
    exact apart key member ((complete key).mpr ((relisted key).mp (mem_append_right _ member)))
  rw [nothing, append_nil]

end Slots

/-! ## A second reconciliation -/

variable {store : ComposerDraftStore} {protection : ComposerDraftProtection}

theorem relistRoomTombstones_of_lists
    (lists : ListsTombstones (fun roomId => targetIsTouchProtected protection (.main roomId)) store.roomSlots) :
    store.relistRoomTombstones protection = store := by
  refine congrArg (fun lru => { store with quiescentRoomLru := lru })
    (relisted_eq_self ?_ (mem_relistRoomTombstones store protection) ?_)
  · intro roomId
    rw [roomIsListable_iff, ← and_assoc]
    exact lists.listed roomId
  · intro roomId missing
    simp only [mem_filter, Bool.and_eq_true, Bool.not_eq_true', decide_eq_false_iff_not] at missing
    exact mem_filter.not.mpr missing.2.1.2

theorem relistThreadTombstones_of_lists
    (lists : ListsTombstones (fun target => targetIsTouchProtected protection (.thread target.1 target.2))
      store.threadSlots) : store.relistThreadTombstones protection = store := by
  refine congrArg (fun lru => { store with quiescentThreadLru := lru })
    (relisted_eq_self ?_ (mem_relistThreadTombstones store protection) ?_)
  · intro target
    rw [threadIsListable_iff, ← and_assoc]
    exact lists.listed target
  · intro target missing
    simp only [mem_filter, Bool.and_eq_true, Bool.not_eq_true', decide_eq_false_iff_not] at missing
    exact mem_filter.not.mpr missing.2.1.2

theorem evictRoomTombstones_of_fits
    (fits : store.quiescentRoomLru.countP (fun roomId => !targetIsProtected protection (.main roomId)) ≤
      MAX_LIVE_COMPOSER_ROOM_TOMBSTONES) : store.evictRoomTombstones protection = store := by
  unfold evictRoomTombstones
  rw [evictWhile_eq _ _ _ _ _ _ (Nat.le_refl _), Nat.sub_eq_zero_of_le fits, splitOldest_zero]
  rfl

theorem evictThreadTombstones_of_fits (fits : store.quiescentThreadLru.countP
      (fun target => !targetIsProtected protection (.thread target.1 target.2)) ≤
        MAX_LIVE_COMPOSER_THREAD_TOMBSTONES) : store.evictThreadTombstones protection = store := by
  unfold evictThreadTombstones
  rw [evictWhile_eq _ _ _ _ _ _ (Nat.le_refl _), Nat.sub_eq_zero_of_le fits, splitOldest_zero]
  rfl

/-- Two rooms with a revision and no content; one store write is pending. -/
def twoTombstones : ComposerDraftStore :=
  { default with
    roomRevisions := ((∅ : OrdMap String Nat).insert "a" 1).insert "b" 2
    quiescentRoomLru := ["b"] }

def pendingFirst : ComposerDraftProtection :=
  ⟨∅, ∅, (∅ : OrdSet ComposerTarget).insert (.main "a")⟩

end ComposerDraftStore

end Koushi
