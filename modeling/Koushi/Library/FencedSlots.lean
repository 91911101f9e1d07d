import Koushi.Library.Quota

namespace Collections

open Function Nat

/-!
# Slots fenced by revisions

A family of slots, one per key.  A slot holds at most one value, a revision that
orders the writes to it, the revision of its last accepted clear, and an optional
mark of the value.  A slot whose value is gone keeps its revision as a tombstone,
so that a delayed write with an older revision is refused.  Tombstones are listed
by recency, and old ones may be evicted.

`Coherent` is what every operation keeps.  The fence is a statement about one
key: every operation except forgetting that key, restricting it away or evicting
it leaves its revision at least as high.
-/

set_option linter.unusedSectionVars false

structure FencedSlots (κ δ μ : Type) where
  content : κ -> Option δ
  revision : κ -> Option Nat
  cleared : κ -> Option Nat
  mark : κ -> Option μ
  recency : List κ

namespace FencedSlots

variable {κ δ μ : Type} [DecidableEq κ]

theorem ext {left right : FencedSlots κ δ μ} (content : forall key, left.content key = right.content key)
    (revision : forall key, left.revision key = right.revision key)
    (cleared : forall key, left.cleared key = right.cleared key)
    (mark : forall key, left.mark key = right.mark key) (recency : left.recency = right.recency) :
    left = right := by
  cases left
  cases right
  simp only [mk.injEq]
  exact ⟨funext content, funext revision, funext cleared, funext mark, recency⟩

def empty : FencedSlots κ δ μ :=
  ⟨fun _ => none, fun _ => none, fun _ => none, fun _ => none, []⟩

variable (slots : FencedSlots κ δ μ)

/-- The revision of a key; a key never written has revision zero. -/
def revisionOf (key : κ) : Nat :=
  (slots.revision key).getD 0

/-- Accept a write above the key's revision; an absent value leaves a tombstone. -/
def write (key : κ) (value : Option δ) (revision : Nat) : FencedSlots κ δ μ :=
  if revision ≤ slots.revisionOf key then slots
  else
    { content := update slots.content key value
      revision := update slots.revision key (some revision)
      cleared := slots.cleared
      mark := if value.isSome then slots.mark else update slots.mark key none
      recency := if value.isSome then dropKey key slots.recency else touchNewest key slots.recency }

/-- Move a key to a later revision without touching its value. -/
def settle (key : κ) (revision : Nat) : FencedSlots κ δ μ :=
  { slots with
    revision := update slots.revision key (some revision)
    recency :=
      if (slots.content key).isSome then dropKey key slots.recency
      else touchNewest key slots.recency }

/-- Drop the value of a key and record the revision at which that was accepted. -/
def clear (key : κ) (revision : Nat) : FencedSlots κ δ μ :=
  { content := update slots.content key none
    revision := update slots.revision key (some revision)
    cleared := update slots.cleared key (some revision)
    mark := update slots.mark key none
    recency := touchNewest key slots.recency }

/-- Remove every trace of a key. -/
def forget (key : κ) : FencedSlots κ δ μ :=
  { content := update slots.content key none
    revision := update slots.revision key none
    cleared := update slots.cleared key none
    mark := update slots.mark key none
    recency := dropKey key slots.recency }

def setMark (key : κ) (mark : Option μ) : FencedSlots κ δ μ :=
  { slots with mark := update slots.mark key mark }

/-- Keep only the keys that pass a test. -/
def restrict (keep : κ -> Bool) : FencedSlots κ δ μ :=
  { content := fun key => if keep key then slots.content key else none
    revision := fun key => if keep key then slots.revision key else none
    cleared := fun key => if keep key then slots.cleared key else none
    mark := fun key => if keep key then slots.mark key else none
    recency := slots.recency.filter keep }

/-- Replace the recency list, dropping the tombstones of the evicted keys. -/
def evict (evicted kept : List κ) : FencedSlots κ δ μ :=
  { slots with
    revision := fun key => if key ∈ evicted then none else slots.revision key
    cleared := fun key => if key ∈ evicted then none else slots.cleared key
    recency := kept }

/-- Keys without a value that are forgotten one after another are evicted at once. -/
theorem foldl_evict {σ : Type} {slotsOf : σ -> FencedSlots κ δ μ} {forget : κ -> σ -> σ}
    (forgets : forall key state, (slotsOf state).content key = none ->
      slotsOf (forget key state) = (slotsOf state).evict [key] (slotsOf state).recency)
    (evicted : List κ) (state : σ) (tombstones : forall key, key ∈ evicted -> (slotsOf state).content key = none) :
    slotsOf (evicted.foldl (fun current key => forget key current) state) =
      (slotsOf state).evict evicted (slotsOf state).recency := by
  induction evicted generalizing state with
  | nil => simp [evict]
  | cons head rest ih =>
    have step := forgets head state (tombstones head List.mem_cons_self)
    have later := ih (forget head state) (by
      intro key member
      rw [step]
      exact tombstones key (List.mem_cons_of_mem head member))
    rw [List.foldl_cons, later, step]
    apply ext <;> intros <;> simp only [evict, List.mem_cons]
    all_goals grind

/-- What every reachable family of slots satisfies. -/
structure Coherent (Valid : δ -> Prop) (slots : FencedSlots κ δ μ) : Prop where
  content_revision : forall key value, slots.content key = some value -> (slots.revision key).isSome = true
  cleared_le : forall key cleared, slots.cleared key = some cleared ->
    ∃ revision, slots.revision key = some revision ∧ cleared ≤ revision
  mark_content : forall key mark, slots.mark key = some mark -> (slots.content key).isSome = true
  content_valid : forall key value, slots.content key = some value -> Valid value
  recency_nodup : slots.recency.Nodup
  recency_tombstone : forall key, key ∈ slots.recency ->
    slots.content key = none ∧ (slots.revision key).isSome = true

variable {Valid : δ -> Prop} {slots : FencedSlots κ δ μ}

theorem coherent_empty : Coherent Valid (empty : FencedSlots κ δ μ) := by
  constructor <;> simp [empty]

/-- What coherence says of one slot. -/
structure SlotCoherent (Valid : δ -> Prop) (content : Option δ) (revision cleared : Option Nat)
    (mark : Option μ) (listed : Prop) : Prop where
  content_revision : forall value, content = some value -> revision.isSome = true
  cleared_le : forall clear, cleared = some clear -> ∃ current, revision = some current ∧ clear ≤ current
  mark_content : forall value, mark = some value -> content.isSome = true
  content_valid : forall value, content = some value -> Valid value
  tombstone : listed -> content = none ∧ revision.isSome = true

theorem coherent_iff : Coherent Valid slots ↔ slots.recency.Nodup ∧ forall key,
    SlotCoherent Valid (slots.content key) (slots.revision key) (slots.cleared key) (slots.mark key)
      (key ∈ slots.recency) := by
  constructor
  · intro coherent
    exact ⟨coherent.recency_nodup, fun key => ⟨coherent.content_revision key, coherent.cleared_le key,
      coherent.mark_content key, coherent.content_valid key, coherent.recency_tombstone key⟩⟩
  · rintro ⟨nodup, slot⟩
    exact ⟨fun key => (slot key).content_revision, fun key => (slot key).cleared_le,
      fun key => (slot key).mark_content, fun key => (slot key).content_valid, nodup,
      fun key => (slot key).tombstone⟩

namespace Coherent

variable (coherent : Coherent Valid slots)

include coherent

/-- One slot is rewritten, and nothing else is listed that was not. -/
theorem update (key : κ) {content : Option δ} {revision cleared : Option Nat} {mark : Option μ}
    {recency : List κ} (nodup : recency.Nodup)
    (others : forall key', key' ≠ key -> key' ∈ recency -> key' ∈ slots.recency)
    (here : SlotCoherent Valid content revision cleared mark (key ∈ recency)) :
    Coherent Valid ⟨update slots.content key content, update slots.revision key revision,
      update slots.cleared key cleared, update slots.mark key mark, recency⟩ := by
  refine coherent_iff.mpr ⟨nodup, ?_⟩
  intro key'
  by_cases same : key' = key
  · subst same
    simpa using here
  · simp only [update_of_ne same]
    exact { (coherent_iff.mp coherent).2 key' with
      tombstone := fun listed => coherent.recency_tombstone key' (others key' same listed) }

/-- A recorded clear is not above the key's revision. -/
theorem cleared_le_revisionOf (key : κ) : (slots.cleared key).getD 0 ≤ slots.revisionOf key := by
  cases recorded : slots.cleared key with
  | none => exact zero_le _
  | some cleared =>
    obtain ⟨revision, current, bounded⟩ := coherent.cleared_le key cleared recorded
    simpa [revisionOf, current] using bounded

/-- A recorded clear is not above a later revision. -/
theorem cleared_le_of_newer {key : κ} {revision : Nat} (newer : slots.revisionOf key ≤ revision) (clear : Nat)
    (recorded : slots.cleared key = some clear) : ∃ current, some revision = some current ∧ clear ≤ current := by
  have bounded := coherent.cleared_le_revisionOf key
  rw [recorded] at bounded
  exact ⟨revision, rfl, bounded.trans newer⟩

theorem write (key : κ) (value : Option δ) (revision : Nat) (valid : forall document, value = some document -> Valid document) :
    Coherent Valid (slots.write key value revision) := by
  unfold FencedSlots.write
  split
  · exact coherent
  next newer =>
  have later := coherent.cleared_le_of_newer (Nat.le_of_not_le newer)
  cases value with
  | none =>
    simpa using coherent.update key (nodup_touchNewest coherent.recency_nodup) (by simp +contextual)
      ⟨by simp, later, by simp, valid, by simp⟩
  | some document =>
    have nodup : (dropKey key slots.recency).Nodup := nodup_dropKey coherent.recency_nodup
    have marked : forall mark, slots.mark key = some mark -> (some document).isSome = true := by simp
    simpa using coherent.update key nodup (by simp +contextual) ⟨by simp, later, marked, valid, by simp⟩

theorem settle (key : κ) (revision : Nat) (newer : slots.revisionOf key ≤ revision) :
    Coherent Valid (slots.settle key revision) := by
  have later := coherent.cleared_le_of_newer newer
  unfold FencedSlots.settle
  cases held : slots.content key with
  | none =>
    simpa using coherent.update key (nodup_touchNewest coherent.recency_nodup) (by simp +contextual)
      ⟨by simp, later, coherent.mark_content key, coherent.content_valid key, by simp [held]⟩
  | some document =>
    simpa using coherent.update key (nodup_dropKey coherent.recency_nodup) (by simp +contextual)
      ⟨by simp, later, coherent.mark_content key, coherent.content_valid key, by simp⟩

theorem clear (key : κ) (revision : Nat) : Coherent Valid (slots.clear key revision) := by
  refine coherent.update key (nodup_touchNewest coherent.recency_nodup) (by simp +contextual)
    ⟨by simp, ?_, by simp, by simp, by simp⟩
  intro clear recorded
  exact ⟨revision, rfl, le_of_eq (Option.some.inj recorded).symm⟩

theorem forget (key : κ) : Coherent Valid (slots.forget key) :=
  coherent.update key (nodup_dropKey coherent.recency_nodup) (by simp +contextual)
    ⟨by simp, by simp, by simp, by simp, by simp⟩

theorem setMark (key : κ) (mark : Option μ)
    (present : forall value, mark = some value -> (slots.content key).isSome = true) :
    Coherent Valid (slots.setMark key mark) := by
  have slot := (coherent_iff.mp coherent).2 key
  simpa [FencedSlots.setMark] using coherent.update key coherent.recency_nodup (fun _ _ listed => listed)
    { slot with mark_content := present }

theorem restrict (keep : κ -> Bool) : Coherent Valid (slots.restrict keep) := by
  refine coherent_iff.mpr ⟨coherent.recency_nodup.filter _, ?_⟩
  intro key
  cases kept : keep key with
  | true => simpa [FencedSlots.restrict, kept] using (coherent_iff.mp coherent).2 key
  | false => constructor <;> simp [FencedSlots.restrict, kept]

/-- Eviction is coherent when it only evicts tombstones and lists the others. -/
theorem evict {evicted kept : List κ} (tombstones : forall key, key ∈ evicted -> slots.content key = none)
    (nodup : kept.Nodup) (listed : forall key, key ∈ kept -> key ∉ evicted ∧ slots.content key = none ∧
      (slots.revision key).isSome = true) : Coherent Valid (slots.evict evicted kept) := by
  refine ⟨?_, ?_, coherent.mark_content, coherent.content_valid, nodup, ?_⟩
  · intro key document held
    have survives : key ∉ evicted := by
      intro gone
      rw [FencedSlots.evict] at held
      simp only [tombstones key gone] at held
      cases held
    simpa [FencedSlots.evict, survives] using coherent.content_revision key document held
  · intro key cleared recorded
    by_cases gone : key ∈ evicted
    · simp [FencedSlots.evict, gone] at recorded
    · simp only [FencedSlots.evict, gone, if_false] at recorded ⊢
      exact coherent.cleared_le key cleared recorded
  · intro key member
    obtain ⟨survives, absent, revised⟩ := listed key member
    simpa [FencedSlots.evict, survives] using ⟨absent, revised⟩

end Coherent

/-! ## Steps and the fence -/

/-- One operation on the slots, together with the keys it may remove.  A rebuild
replaces the whole family, as a reload does; it must be coherent and keep the
revision of every key it does not remove. -/
inductive Step (Valid : δ -> Prop) (removes : κ -> Prop) (slots : FencedSlots κ δ μ) :
    FencedSlots κ δ μ -> Prop
  | write (key : κ) (value : Option δ) (revision : Nat)
      (valid : forall document, value = some document -> Valid document) :
      Step Valid removes slots (slots.write key value revision)
  | settle (key : κ) (revision : Nat) (newer : slots.revisionOf key ≤ revision) :
      Step Valid removes slots (slots.settle key revision)
  | clear (key : κ) (revision : Nat) (newer : slots.revisionOf key ≤ revision) :
      Step Valid removes slots (slots.clear key revision)
  | forget (key : κ) (removed : removes key) : Step Valid removes slots (slots.forget key)
  | setMark (key : κ) (mark : Option μ)
      (present : forall value, mark = some value -> (slots.content key).isSome = true) :
      Step Valid removes slots (slots.setMark key mark)
  | restrict (keep : κ -> Bool) (removed : forall key, keep key = false -> removes key) :
      Step Valid removes slots (slots.restrict keep)
  | evict (evicted kept : List κ) (removed : forall key, key ∈ evicted -> removes key)
      (tombstones : forall key, key ∈ evicted -> slots.content key = none) (nodup : kept.Nodup)
      (listed : forall key, key ∈ kept -> key ∉ evicted ∧ slots.content key = none ∧
        (slots.revision key).isSome = true) :
      Step Valid removes slots (slots.evict evicted kept)
  | rebuild (rebuilt : FencedSlots κ δ μ) (coherent : Coherent Valid rebuilt)
      (kept : forall key, ¬removes key -> rebuilt.revisionOf key = slots.revisionOf key) :
      Step Valid removes slots rebuilt

/-- A finite sequence of operations that remove at most the given keys. -/
abbrev Steps (Valid : δ -> Prop) (removes : κ -> Prop) :
    FencedSlots κ δ μ -> FencedSlots κ δ μ -> Prop :=
  Relation.ReflTransGen (Step Valid removes)

variable {removes : κ -> Prop} {slots' : FencedSlots κ δ μ}

/-- A newer value is written, and then marked. -/
theorem steps_writeMarked (key : κ) {value : δ} (valid : Valid value) (mark : μ) {revision : Nat}
    (newer : slots.revisionOf key < revision) :
    Steps Valid removes slots ((slots.write key (some value) revision).setMark key (some mark)) := by
  have written : Step Valid removes slots (slots.write key (some value) revision) :=
    Step.write key (some value) revision (fun _ same => Option.some.inj same ▸ valid)
  refine (Relation.ReflTransGen.single written).tail (Step.setMark key (some mark) ?_)
  intro _ _
  simp [write, not_le.mpr newer]

theorem Step.coherent (step : Step Valid removes slots slots') (coherent : Coherent Valid slots) :
    Coherent Valid slots' := by
  cases step with
  | write key value revision valid => exact coherent.write key value revision valid
  | settle key revision newer => exact coherent.settle key revision newer
  | clear key revision newer => exact coherent.clear key revision
  | forget key removed => exact coherent.forget key
  | setMark key mark present => exact coherent.setMark key mark present
  | restrict keep removed => exact coherent.restrict keep
  | evict evicted kept removed tombstones nodup listed => exact coherent.evict tombstones nodup listed
  | rebuild _ rebuilt kept => exact rebuilt

theorem Steps.coherent (steps : Steps Valid removes slots slots') (coherent : Coherent Valid slots) :
    Coherent Valid slots' := by
  induction steps with
  | refl => exact coherent
  | tail _ step ih => exact step.coherent ih

theorem revisionOf_write (key key' : κ) (value : Option δ) (revision : Nat) :
    (slots.write key value revision).revisionOf key' =
      if key' = key then max revision (slots.revisionOf key) else slots.revisionOf key' := by
  unfold write
  by_cases same : key' = key
  · subst same
    split
    · next older => rw [if_pos rfl, max_eq_right older]
    next newer =>
    rw [if_pos rfl, Nat.max_eq_left (Nat.le_of_lt (Nat.lt_of_not_le newer))]
    simp [revisionOf]
  · split
    · rfl
    · simp [revisionOf, same]

/-- A step never lowers the revision of a key it does not remove. -/
theorem Step.revisionOf_le (step : Step Valid removes slots slots') {key : κ} (kept : ¬removes key) :
    slots.revisionOf key ≤ slots'.revisionOf key := by
  cases step with
  | write key' value revision valid =>
    rw [revisionOf_write]
    split
    · next same =>
      rw [same]
      exact le_max_right _ _
    · exact le_refl _
  | settle key' revision newer | clear key' revision newer =>
    by_cases same : key = key'
    · subst same
      simpa [FencedSlots.settle, FencedSlots.clear, revisionOf] using newer
    · simp [FencedSlots.settle, FencedSlots.clear, revisionOf, same]
  | forget key' removed =>
    have different : key ≠ key' := fun same => kept (same ▸ removed)
    simp [FencedSlots.forget, revisionOf, different]
  | setMark key' mark present => exact le_refl _
  | restrict keep removed =>
    cases survives : keep key with
    | true => simp [FencedSlots.restrict, revisionOf, survives]
    | false => exact absurd (removed key survives) kept
  | evict evicted listing removed tombstones nodup listed =>
    have survives : key ∉ evicted := fun gone => kept (removed key gone)
    simp [FencedSlots.evict, revisionOf, survives]
  | rebuild _ _ same => exact le_of_eq (same key kept).symm

theorem Steps.revisionOf_le (steps : Steps Valid removes slots slots') {key : κ} (kept : ¬removes key) :
    slots.revisionOf key ≤ slots'.revisionOf key := by
  induction steps with
  | refl => exact le_refl _
  | tail _ step ih => exact le_trans ih (step.revisionOf_le kept)

end FencedSlots

end Collections
