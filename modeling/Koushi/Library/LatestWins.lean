import Mathlib

namespace Collections

open List

/-!
# Updates under a newest-wins rule

A cell holds a value and the key of the update that wrote it.  An update is
absorbed if its key is newer than the one held and if the value accepts it.
Updates may compose with the value they find, so the arrival order can matter
even though the final key does not depend on it.

`foldl_absorb_eq` gives a case in which it does not.  Let `Near` be a set of
values that every update but the newest keeps, on which the newest is accepted
and writes one and the same value.  Then every order ends with that value.
-/

structure LatestCell (κ ν : Type) where
  value : ν
  held : Option κ
deriving DecidableEq, Repr

namespace LatestCell

variable {κ ν α : Type} [LinearOrder κ] (key : α -> κ) (accepts : ν -> α -> Bool) (write : ν -> α -> ν)

def absorb (cell : LatestCell κ ν) (update : α) : LatestCell κ ν :=
  if !accepts cell.value update then cell
  else if cell.held.any (fun held => decide (key update ≤ held)) then cell
  else ⟨write cell.value update, some (key update)⟩

variable {key accepts write}

variable {cell : LatestCell κ ν} {updates : List α}

/-- A cell that holds at least as new a key is left alone. -/
theorem absorb_of_le {update : α} {held : κ} (holds : cell.held = some held)
    (older : key update ≤ held) : absorb key accepts write cell update = cell := by
  unfold absorb
  split
  · rfl
  · rw [if_pos (by rw [holds]; simpa using older)]

theorem foldl_absorb_of_le {held : κ}
    (holds : cell.held = some held) (older : ∀ update ∈ updates, key update ≤ held) :
    updates.foldl (absorb key accepts write) cell = cell := by
  induction updates with
  | nil => rfl
  | cons update rest ih =>
    rw [foldl_cons, absorb_of_le holds (older update mem_cons_self)]
    exact ih (fun other member => older other (mem_cons_of_mem update member))

/-- An accepted update that is newer than the key held is written. -/
theorem absorb_of_lt {update : α} (accepted : accepts cell.value update = true)
    (newer : forall held, cell.held = some held -> held < key update) :
    absorb key accepts write cell update = ⟨write cell.value update, some (key update)⟩ := by
  unfold absorb
  rw [if_neg (by simp [accepted]), if_neg ?_]
  intro isHeld
  cases holds : cell.held with
  | none => simp [holds] at isHeld
  | some held =>
    rw [holds] at isHeld
    exact absurd (newer held holds) (not_lt.mpr (by simpa using isHeld))

variable (accepts) in
/-- What is held before the newest update arrives is older, and near. -/
theorem foldl_absorb_near {near : ν -> Prop} {newest : κ}
    (kept : ∀ update ∈ updates, forall value, near value -> near (write value update))
    (older : ∀ update ∈ updates, key update < newest) (cell : LatestCell κ ν) (start : near cell.value)
    (fresh : forall held, cell.held = some held -> held < newest) :
    near (updates.foldl (absorb key accepts write) cell).value ∧
      forall held, (updates.foldl (absorb key accepts write) cell).held = some held -> held < newest := by
  refine foldlRecOn updates _ (motive := fun cell : LatestCell κ ν => near cell.value ∧
    forall held, cell.held = some held -> held < newest) ⟨start, fresh⟩ ?_
  intro cell fits update member
  unfold absorb
  split
  · exact fits
  · split
    · exact fits
    · refine ⟨kept update member _ fits.1, ?_⟩
      intro held same
      cases same
      exact older update member

/-- Every order of updates ends with what the newest one writes. -/
theorem foldl_absorb_eq (near : ν -> Prop) {final : ν} {newest : α}
    (member : newest ∈ updates) (nodup : updates.Nodup)
    (older : ∀ update ∈ updates, update ≠ newest -> key update < key newest)
    (kept : ∀ update ∈ updates, update ≠ newest -> forall value, near value -> near (write value update))
    (accepted : forall value, near value -> accepts value newest = true)
    (written : forall value, near value -> write value newest = final) {start : ν} (nearStart : near start) :
    updates.foldl (absorb key accepts write) ⟨start, none⟩ = ⟨final, some (key newest)⟩ := by
  rcases append_of_mem member with ⟨before, after, rfl⟩
  have apart : newest ∉ before ∧ newest ∉ after := by
    rw [nodup_append, nodup_cons] at nodup
    exact ⟨fun inBefore => nodup.2.2 newest inBefore newest mem_cons_self rfl, nodup.2.1.1⟩
  have olderBefore : ∀ update ∈ before, key update < key newest := by
    intro update inBefore
    exact older update (mem_append_left _ inBefore) (fun same => apart.1 (same ▸ inBefore))
  have olderAfter : ∀ update ∈ after, key update ≤ key newest := by
    intro update inAfter
    exact le_of_lt (older update (mem_append_right _ (mem_cons_of_mem newest inAfter))
      (fun same => apart.2 (same ▸ inAfter)))
  have keptBefore : ∀ update ∈ before, forall value, near value -> near (write value update) := by
    intro update inBefore
    exact kept update (mem_append_left _ inBefore) (fun same => apart.1 (same ▸ inBefore))
  have reached := foldl_absorb_near accepts keptBefore olderBefore ⟨start, none⟩ nearStart (by
    intro held none
    cases none)
  rw [foldl_append, foldl_cons, absorb_of_lt (accepted _ reached.1) reached.2,
    written _ reached.1]
  exact foldl_absorb_of_le rfl olderAfter

end LatestCell

end Collections
