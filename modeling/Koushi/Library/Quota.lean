import Mathlib

namespace Collections

open List

/-!
# Bounded recency lists

A recency list holds keys from the oldest to the newest.  `retainNewest` keeps a
suffix, and `rememberBounded` notes one more key.  `evictWhile` is the loop that removes the oldest unprotected key as
long as more than `maximum` unprotected keys are listed, and hands every removed
key to a `forget` action on some other state.

The loop is executable with an explicit bound on its turns.  Its meaning is
given by `splitOldest`, a structural function that separates the evicted keys
from the kept ones; `evictWhile_eq` says that the list's own length is always
enough turns.
-/

variable {α σ : Type}

/-- The newest `maximum` entries. -/
def retainNewest (maximum : Nat) (items : List α) : List α :=
  if maximum < items.length then items.drop (items.length - maximum) else items

theorem retainNewest_eq_drop (maximum : Nat) (items : List α) :
    retainNewest maximum items = items.drop (items.length - maximum) := by
  unfold retainNewest
  split
  · rfl
  · next fits =>
    rw [Nat.sub_eq_zero_of_le (Nat.le_of_not_lt fits), drop_zero]

theorem retainNewest_sublist (maximum : Nat) (items : List α) :
    (retainNewest maximum items).Sublist items := by
  rw [retainNewest_eq_drop]
  exact drop_sublist _ _

variable {items : List α} {item : α} {excess : Nat}

theorem retainNewest_of_length_le {maximum : Nat} (fits : items.length ≤ maximum) :
    retainNewest maximum items = items :=
  if_neg (Nat.not_lt.mpr fits)

/-- A second part that fills the quota alone leaves nothing of the first. -/
theorem retainNewest_append {maximum : Nat} {older newer : List α} (full : maximum ≤ newer.length) :
    retainNewest maximum (older ++ newer) = retainNewest maximum newer := by
  rw [retainNewest_eq_drop, retainNewest_eq_drop, length_append, Nat.add_sub_assoc full,
    drop_length_add_append]

/-- Note an item once, as the newest.  The oldest items make room for it, so that
no more than `maximum` are listed. -/
def rememberBounded [DecidableEq α] (maximum : Nat) (items : List α) (item : α) : List α :=
  if item ∈ items then items else retainNewest (maximum - 1) items ++ [item]

theorem mem_rememberBounded_self [DecidableEq α] (maximum : Nat) :
    item ∈ rememberBounded maximum items item := by
  unfold rememberBounded
  split
  · next known => exact known
  · simp

/-- A listed item stays when the new one is listed too, or when the item is
among the newest. -/
theorem mem_rememberBounded_of_mem [DecidableEq α] {maximum : Nat} {item other : α}
    (listed : other ∈ items) (within : item ∈ items ∨ other ∈ retainNewest (maximum - 1) items) :
    other ∈ rememberBounded maximum items item := by
  unfold rememberBounded
  split
  · exact listed
  · next unknown =>
    rcases within with known | newest
    · exact absurd known unknown
    · exact mem_append_left _ newest

/-- Remove the oldest unprotected key while too many of them are listed. -/
def evictWhile (isProtected : α -> Bool) (maximum : Nat) (forget : α -> σ -> σ) :
    Nat -> List α -> σ -> List α × σ
  | 0, items, state => (items, state)
  | turns + 1, items, state =>
    if maximum < items.countP (fun item => !isProtected item) then
      match items.findIdx? (fun item => !isProtected item) with
      | none => (items, state)
      | some index =>
        match items[index]? with
        | none => (items, state)
        | some item =>
          evictWhile isProtected maximum forget turns (items.eraseIdx index) (forget item state)
    else (items, state)

/-- Split off the oldest `excess` unprotected keys: evicted first, kept second. -/
def splitOldest (isProtected : α -> Bool) : Nat -> List α -> List α × List α
  | _, [] => ([], [])
  | 0, item :: rest => ([], item :: rest)
  | excess + 1, item :: rest =>
    if isProtected item then
      let split := splitOldest isProtected (excess + 1) rest
      (split.1, item :: split.2)
    else
      let split := splitOldest isProtected excess rest
      (item :: split.1, split.2)

variable (isProtected : α -> Bool)

@[simp] theorem splitOldest_zero : splitOldest isProtected 0 items = ([], items) := by
  cases items <;> rfl

theorem splitOldest_cons_of_protected (guarded : isProtected item = true) (rest : List α) :
    splitOldest isProtected excess (item :: rest) =
      ((splitOldest isProtected excess rest).1, item :: (splitOldest isProtected excess rest).2) := by
  cases excess <;> simp [splitOldest, guarded]

theorem splitOldest_cons_of_eligible (unguarded : isProtected item = false) (rest : List α) :
    splitOldest isProtected (excess + 1) (item :: rest) =
      (item :: (splitOldest isProtected excess rest).1, (splitOldest isProtected excess rest).2) := by
  simp [splitOldest, unguarded]

/-- Every listed key is either evicted or kept, with its multiplicity. -/
theorem splitOldest_perm (excess : Nat) (items : List α) :
    ((splitOldest isProtected excess items).1 ++ (splitOldest isProtected excess items).2).Perm items := by
  fun_induction splitOldest isProtected excess items with
  | case1 | case2 => exact Perm.refl _
  | case3 excess item rest guarded split ih => exact perm_middle.trans (ih.cons item)
  | case4 excess item rest unguarded split ih => exact ih.cons item

theorem splitOldest_kept_sublist (excess : Nat) (items : List α) :
    (splitOldest isProtected excess items).2.Sublist items := by
  fun_induction splitOldest isProtected excess items with
  | case1 | case2 => exact Sublist.refl _
  | case3 excess item rest guarded split ih => exact ih.cons_cons item
  | case4 excess item rest unguarded split ih => exact ih.cons item

theorem splitOldest_evicted_unprotected
    (evicted : item ∈ (splitOldest isProtected excess items).1) : isProtected item = false := by
  fun_induction splitOldest isProtected excess items with
  | case1 | case2 => cases evicted
  | case3 excess head rest guarded split ih => exact ih evicted
  | case4 excess head rest unguarded split ih =>
    rcases mem_cons.mp evicted with rfl | later
    · exact Bool.eq_false_iff.mpr unguarded
    · exact ih later

/-- The unprotected keys are evicted from the oldest on. -/
theorem splitOldest_filter (excess : Nat) (items : List α) :
    items.filter (fun item => !isProtected item) = (splitOldest isProtected excess items).1 ++
      (splitOldest isProtected excess items).2.filter (fun item => !isProtected item) := by
  fun_induction splitOldest isProtected excess items with
  | case1 | case2 => rfl
  | case3 excess item rest guarded split ih => simpa [guarded] using ih
  | case4 excess item rest unguarded split ih => simpa [unguarded] using ih

/-- As many keys go as were asked for, if there are so many. -/
theorem length_splitOldest_evicted (enough : excess ≤ items.countP (fun item => !isProtected item)) :
    (splitOldest isProtected excess items).1.length = excess := by
  fun_induction splitOldest isProtected excess items with
  | case1 => exact (Nat.le_zero.mp enough).symm
  | case2 => rfl
  | case3 excess item rest guarded split ih => exact ih (by simpa [guarded] using enough)
  | case4 excess item rest unguarded split ih =>
    exact congrArg (· + 1) (ih (by simpa [unguarded] using enough))

theorem mem_splitOldest (excess : Nat) : item ∈ items ↔ item ∈ (splitOldest isProtected excess items).1 ∨
      item ∈ (splitOldest isProtected excess items).2 := by
  rw [← mem_append]
  exact (splitOldest_perm isProtected excess items).mem_iff.symm

/-- In a list without repetitions no key is both evicted and kept. -/
theorem splitOldest_disjoint (nodup : items.Nodup) (evicted : item ∈ (splitOldest isProtected excess items).1) :
    item ∉ (splitOldest isProtected excess items).2 := by
  have parts := (splitOldest_perm isProtected excess items).nodup_iff.mpr nodup
  exact fun kept => (nodup_append.mp parts).2.2 item evicted item kept rfl

/-- Splitting one more key is one turn of the loop followed by the split. -/
theorem splitOldest_succ {index : Nat} (oldest : items.findIdx? (fun item => !isProtected item) = some index)
    (found : items[index]? = some item) : splitOldest isProtected (excess + 1) items =
      (item :: (splitOldest isProtected excess (items.eraseIdx index)).1,
        (splitOldest isProtected excess (items.eraseIdx index)).2) := by
  induction items generalizing index with
  | nil => simp at oldest
  | cons head rest ih =>
    cases guarded : isProtected head with
    | true =>
      obtain ⟨earlier, inRest, rfl⟩ : ∃ earlier,
          rest.findIdx? (fun item => !isProtected item) = some earlier ∧ index = earlier + 1 := by
        simpa [findIdx?_cons, guarded, eq_comm] using oldest
      have split := ih inRest (by simpa using found)
      rw [splitOldest_cons_of_protected isProtected guarded, split, eraseIdx_cons_succ,
        splitOldest_cons_of_protected isProtected guarded]
    | false =>
      have first : index = 0 := by simpa [findIdx?_cons, guarded] using oldest.symm
      subst first
      have same : head = item := by simpa using found
      rw [splitOldest_cons_of_eligible isProtected guarded, same]
      rfl

/-- The loop is the split at the excess over the quota; the other state sees the
evicted keys from the oldest to the newest. -/
theorem evictWhile_eq (maximum : Nat) (forget : α -> σ -> σ) (turns : Nat) (items : List α) (state : σ)
    (enough : items.length ≤ turns) : evictWhile isProtected maximum forget turns items state =
      ((splitOldest isProtected (items.countP (fun item => !isProtected item) - maximum) items).2,
        (splitOldest isProtected (items.countP (fun item => !isProtected item) - maximum) items).1.foldl
          (fun current item => forget item current) state) := by
  induction turns generalizing items state with
  | zero =>
    have empty : items = [] := length_eq_zero_iff.mp (Nat.le_zero.mp enough)
    simp [empty, evictWhile]
  | succ turns ih =>
    by_cases crowded : maximum < items.countP (fun item => !isProtected item)
    · obtain ⟨eligible, listed, unguarded⟩ :=
        countP_pos_iff.mp (Nat.lt_of_le_of_lt (Nat.zero_le _) crowded)
      obtain ⟨index, oldest⟩ : ∃ index, items.findIdx? (fun item => !isProtected item) = some index := by
        refine Option.isSome_iff_exists.mp ?_
        rw [findIdx?_isSome]
        exact any_eq_true.mpr ⟨eligible, listed, unguarded⟩
      obtain ⟨inRange, chosen, _⟩ := findIdx?_eq_some_iff_getElem.mp oldest
      have found : items[index]? = some items[index] := getElem?_eq_getElem inRange
      have shorter : (items.eraseIdx index).length ≤ turns := by
        rw [length_eraseIdx_of_lt inRange]
        omega
      have fewer : (items.eraseIdx index).countP (fun item => !isProtected item) =
          items.countP (fun item => !isProtected item) - 1 := by
        have whole := (getElem_cons_eraseIdx_perm inRange).countP_eq (fun item => !isProtected item)
        rw [countP_cons_of_pos (p := fun item => !isProtected item) chosen] at whole
        omega
      obtain ⟨excess, surplus⟩ : ∃ excess,
          items.countP (fun item => !isProtected item) - maximum = excess + 1 :=
        ⟨items.countP (fun item => !isProtected item) - maximum - 1, by omega⟩
      have remaining : items.countP (fun item => !isProtected item) - 1 - maximum = excess := by omega
      rw [evictWhile, if_pos crowded, oldest]
      simp only [found]
      rw [ih _ _ shorter, fewer, remaining, surplus, splitOldest_succ isProtected oldest found]
      rfl
    · rw [evictWhile, if_neg crowded, Nat.sub_eq_zero_of_le (Nat.le_of_not_lt crowded)]
      simp

/-- A property of the other state that forgetting keeps survives the loop. -/
theorem evictWhile_preserves (maximum : Nat) (forget : α -> σ -> σ) (holds : σ -> Prop)
    (keeps : forall item state, holds state -> holds (forget item state)) (turns : Nat) (items : List α)
    {state : σ} (initially : holds state) :
    holds (evictWhile isProtected maximum forget turns items state).2 := by
  induction turns generalizing items state with
  | zero => exact initially
  | succ turns ih =>
    unfold evictWhile
    split
    · split
      · exact initially
      · split
        · exact initially
        · exact ih _ (keeps _ _ initially)
    · exact initially

/-- Extending a list by keys it does not hold creates no repetition. -/
theorem nodup_append_unlisted {listed keys : List α} {missing : α -> Bool} (nodup : listed.Nodup)
    (keysNodup : keys.Nodup) (unlisted : forall key, missing key = true -> key ∉ listed) :
    (listed ++ keys.filter missing).Nodup :=
  nodup.append (keysNodup.filter _) fun key inListed inMissing =>
    unlisted key (mem_filter.mp inMissing).2 inListed

/-- Move a key to the newest end. -/
def touchNewest [DecidableEq α] (key : α) (items : List α) : List α :=
  items.filter (fun candidate => decide (candidate ≠ key)) ++ [key]

/-- Take a key off a recency list. -/
def dropKey [DecidableEq α] (key : α) (items : List α) : List α :=
  items.filter (fun candidate => decide (candidate ≠ key))

variable [DecidableEq α]

@[simp] theorem mem_dropKey {key candidate : α} :
    candidate ∈ dropKey key items ↔ candidate ∈ items ∧ candidate ≠ key := by
  simp [dropKey]

@[simp] theorem mem_touchNewest {key candidate : α} :
    candidate ∈ touchNewest key items ↔ candidate ∈ items ∨ candidate = key := by
  by_cases same : candidate = key <;> simp [touchNewest, same]

theorem nodup_dropKey {key : α} (nodup : items.Nodup) : (dropKey key items).Nodup :=
  nodup.filter _

theorem nodup_touchNewest {key : α} (nodup : items.Nodup) : (touchNewest key items).Nodup := by
  rw [touchNewest, ← concat_eq_append]
  exact (nodup.filter _).concat (by simp)

end Collections
