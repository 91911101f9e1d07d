import Koushi.Library.NestedMap

namespace Collections

open Option

/-!
# Counters of outstanding permits

A map counts the permits that are out for each key; an absent key counts zero.
Counters are bounded, so taking a permit can fail.  `takeAll` takes one permit
for each key of a list and gives back what it took when one of them fails.

`NoZero` says that a key is present only while permits are out for it.  Under it
the map is determined by its counts, so that giving back restores the very same
map.
-/

abbrev PermitCounts (κ : Type) [Ord κ] := OrdMap κ Nat

namespace PermitCounts

set_option linter.unusedSectionVars false

variable {κ : Type} [Ord κ] [Std.TransOrd κ] [Std.LawfulEqOrd κ] [DecidableEq κ]

def count (counts : PermitCounts κ) (key : κ) : Nat := counts[key]?.getD 0

def take (limit : Nat) (counts : PermitCounts κ) (key : κ) : Option (PermitCounts κ) :=
  if counts.count key < limit then some (counts.insert key (counts.count key + 1)) else none

def giveBack (counts : PermitCounts κ) (key : κ) : PermitCounts κ :=
  match counts[key]? with
  | none => counts
  | some held => if held - 1 = 0 then counts.erase key else counts.insert key (held - 1)

/-- Take a permit for each key; `taken` are those of the keys before. -/
def takeAllFrom (limit : Nat) (taken : List κ) (counts : PermitCounts κ) : List κ -> Bool × PermitCounts κ
  | [] => (true, counts)
  | key :: rest =>
    match counts.take limit key with
    | some counts => takeAllFrom limit (taken ++ [key]) counts rest
    | none => (false, taken.foldl giveBack counts)

def takeAll (limit : Nat) (counts : PermitCounts κ) (keys : List κ) : Bool × PermitCounts κ :=
  takeAllFrom limit [] counts keys

def NoZero (counts : PermitCounts κ) : Prop := forall key : κ, counts[key]? ≠ some 0

theorem noZero_empty : NoZero (∅ : PermitCounts κ) := by
  intro key
  simp

theorem NoZero.getElem?_eq {counts : PermitCounts κ} (noZero : counts.NoZero) (key : κ) :
    counts[key]? = if counts.count key = 0 then none else some (counts.count key) := by
  cases found : counts[key]? with
  | none => simp [count, found]
  | some held =>
    have positive : held ≠ 0 := fun zero => noZero key (zero ▸ found)
    simp [count, found, positive]

/-- A key is present exactly while permits are out for it. -/
theorem NoZero.mem_iff {counts : PermitCounts κ} (noZero : counts.NoZero) {key : κ} :
    key ∈ counts ↔ 0 < counts.count key := by
  rw [OrdMap.mem_iff_exists, noZero.getElem?_eq, Nat.pos_iff_ne_zero]
  split <;> simp_all

/-- Without empty entries the counts are the map. -/
theorem NoZero.ext {left right : PermitCounts κ} (noZeroLeft : left.NoZero) (noZeroRight : right.NoZero)
    (same : forall key, left.count key = right.count key) : left = right := by
  apply Std.ExtTreeMap.ext_getElem?
  intro key
  rw [noZeroLeft.getElem?_eq, noZeroRight.getElem?_eq, same]

/-! ## One permit -/

variable {counts after : PermitCounts κ} {limit : Nat}

theorem count_of_take {key : κ} (taken : counts.take limit key = some after) (other : κ) :
    after.count other = counts.count other + if key = other then 1 else 0 := by
  unfold take at taken
  split at taken
  · cases taken
    by_cases same : key = other
    · simp [count, same]
    · simp [count, Std.ExtTreeMap.getElem?_insert, same]
  · cases taken

theorem NoZero.take {key : κ} (noZero : counts.NoZero)
    (taken : counts.take limit key = some after) : after.NoZero := by
  unfold PermitCounts.take at taken
  split at taken
  · cases taken
    intro other found
    rcases OrdMap.getElem?_insert_cases found with ⟨_, zero⟩ | ⟨_, before⟩
    · cases zero
    · exact noZero other before
  · cases taken

theorem count_giveBack (counts : PermitCounts κ) (key other : κ) :
    (counts.giveBack key).count other = counts.count other - if key = other then 1 else 0 := by
  unfold giveBack count
  cases found : counts[key]? with
  | none =>
    by_cases same : key = other
    · subst same
      simp [found]
    · simp [same]
  | some held =>
    dsimp only
    by_cases same : key = other
    · subst same
      split
      · next zero => simp [found, zero]
      · simp [found]
    · split
      · simp [Std.ExtTreeMap.getElem?_erase, same]
      · simp [Std.ExtTreeMap.getElem?_insert, same]

theorem NoZero.giveBack (noZero : counts.NoZero) (key : κ) : (counts.giveBack key).NoZero := by
  unfold PermitCounts.giveBack
  cases counts[key]? with
  | none => exact noZero
  | some held =>
    dsimp only
    intro other found
    split at found
    · exact noZero other (OrdMap.getElem?_erase_cases found).2
    · next positive =>
      rcases OrdMap.getElem?_insert_cases found with ⟨_, zero⟩ | ⟨_, before⟩
      · exact positive zero
      · exact noZero other before

/-! ## A list of permits -/

theorem count_foldl_giveBack (counts : PermitCounts κ) (keys : List κ) (key : κ) :
    (keys.foldl giveBack counts).count key = counts.count key - keys.count key := by
  induction keys generalizing counts with
  | nil => rfl
  | cons first rest ih =>
    rw [List.foldl_cons, ih, count_giveBack, List.count_cons]
    by_cases same : first = key
    · simp only [same, if_true, beq_self_eq_true]
      omega
    · simp [same]

theorem NoZero.foldl_giveBack (noZero : counts.NoZero) (keys : List κ) :
    (keys.foldl PermitCounts.giveBack counts).NoZero :=
  List.foldlRecOn keys _ noZero (fun _ before key _ => before.giveBack key)

/-- Either every permit is taken, or the map is what it was before the first. -/
theorem NoZero.takeAllFrom {start counts : PermitCounts κ} {taken : List κ}
    (noZeroStart : start.NoZero) (noZero : counts.NoZero)
    (outstanding : forall key, counts.count key = start.count key + taken.count key) (keys : List κ) :
    (forall after, counts.takeAllFrom limit taken keys = (true, after) -> after.NoZero ∧
        forall key, after.count key = start.count key + (taken ++ keys).count key) ∧
      forall after, counts.takeAllFrom limit taken keys = (false, after) -> after = start := by
  induction keys generalizing counts taken with
  | nil =>
    constructor
    · intro after finished
      cases finished
      rw [List.append_nil]
      exact ⟨noZero, outstanding⟩
    · intro after failed
      cases failed
  | cons key rest ih =>
    rw [PermitCounts.takeAllFrom]
    cases next : counts.take limit key with
    | some more =>
      have outstandingMore : forall other,
          more.count other = start.count other + (taken ++ [key]).count other := by
        intro other
        rw [count_of_take next, outstanding, List.count_append, List.count_singleton]
        by_cases same : key = other <;> simp [same]
        omega
      have later := ih (noZero.take next) outstandingMore
      rw [List.append_assoc] at later
      exact later
    | none =>
      constructor
      · intro after finished
        cases finished
      · intro after failed
        cases failed
        refine (noZero.foldl_giveBack taken).ext noZeroStart ?_
        intro other
        rw [count_foldl_giveBack, outstanding, Nat.add_sub_cancel]

theorem NoZero.takeAll_true (noZero : counts.NoZero)
    {keys : List κ} (taken : counts.takeAll limit keys = (true, after)) :
    after.NoZero ∧ forall key, after.count key = counts.count key + keys.count key :=
  (noZero.takeAllFrom noZero (fun _ => rfl) keys).1 after taken

theorem NoZero.takeAll_false (noZero : counts.NoZero)
    {keys : List κ} (failed : counts.takeAll limit keys = (false, after)) : after = counts :=
  (noZero.takeAllFrom noZero (fun _ => rfl) keys).2 after failed

end PermitCounts

end Collections
