import Mathlib

namespace Collections

open List

/-!
# Implicit treaps

An implicit treap keeps a sequence of cells in the order of its nodes.  A cell
stands for a run of entries, and every node caches a summary of its subtree from
which the number of entries below it can be read.  `split` cuts the sequence at
an entry, where it may have to cut a cell, and `merge` joins two sequences; the
priorities decide the shape and nothing else.

`flat` is the sequence of entries.  In a sound treap, with exact summaries and
without empty cells, `split` takes and drops entries and `merge` appends.
`traverse`, an in-order walk with an explicit stack, visits the cells in order.
-/

/-- How cells are measured and cut.  A cell that must not be cut at an offset has
no pieces there. -/
structure CellKind (α σ : Type) where
  nothing : σ
  join : σ -> σ -> σ
  measure : α -> σ
  width : σ -> Nat
  cut : α -> Nat -> Option (α × α)

/-- The cells stand for runs of entries: the width counts them, and a cell can be
cut inside its run. -/
structure CellKind.Unfolds {α σ ε : Type} (kind : CellKind α σ) (entries : α -> List ε) : Prop where
  width_nothing : kind.width kind.nothing = 0
  width_join : ∀ left right, kind.width (kind.join left right) = kind.width left + kind.width right
  width_measure : ∀ cell, kind.width (kind.measure cell) = (entries cell).length
  cut_inside : ∀ cell offset, 0 < offset -> offset < (entries cell).length ->
    ∃ left right, kind.cut cell offset = some (left, right) ∧
      entries left = (entries cell).take offset ∧ entries right = (entries cell).drop offset

inductive Treap (α σ : Type) where
  | nil
  | node (cell : α) (left right : Treap α σ) (priority : UInt64) (summary : σ)

namespace Treap

variable {α σ ε ρ : Type}

/-- The cells in order. -/
def cells : Treap α σ -> List α
  | nil => []
  | node cell left right _ _ => left.cells ++ cell :: right.cells

/-- The entries in order. -/
def flat (entries : α -> List ε) (tree : Treap α σ) : List ε := tree.cells.flatMap entries

def size : Treap α σ -> Nat
  | nil => 0
  | node _ left right _ _ => left.size + right.size + 1

theorem length_cells (tree : Treap α σ) : tree.cells.length = tree.size := by
  induction tree with
  | nil => rfl
  | node cell left right priority summary leftLength rightLength =>
    rw [cells, size, length_append, length_cons, leftLength, rightLength, Nat.add_assoc]

section Operations

variable (kind : CellKind α σ)

def summaryOf : Treap α σ -> σ
  | nil => kind.nothing
  | node _ _ _ _ summary => summary

/-- A node with the summary that its parts have. -/
def refreshed (cell : α) (left right : Treap α σ) (priority : UInt64) : Treap α σ :=
  node cell left right priority
    (kind.join (kind.join (summaryOf kind left) (kind.measure cell)) (summaryOf kind right))

/-- A node without children. -/
def leaf (cell : α) (priority : UInt64) : Treap α σ := refreshed kind cell nil nil priority

/-- The number of entries, as cached. -/
def width (tree : Treap α σ) : Nat := kind.width (summaryOf kind tree)

def merge : Treap α σ -> Treap α σ -> Treap α σ
  | nil, right => right
  | left, nil => left
  | node cell left right priority summary, node cell' left' right' priority' summary' =>
    if priority ≥ priority' then
      refreshed kind cell left (merge right (node cell' left' right' priority' summary')) priority
    else
      refreshed kind cell' (merge (node cell left right priority summary) left') right' priority'
termination_by left right => left.size + right.size
decreasing_by all_goals simp only [size]; omega

/-- Cut the sequence at an entry.  New pieces of a cell draw new priorities. -/
def split (draw : ρ -> UInt64 × ρ) (seed : ρ) : Treap α σ -> Nat ->
    Option (Treap α σ × Treap α σ × ρ)
  | nil, _ => some (nil, nil, seed)
  | node cell left right priority _, index =>
    let leftLen := width kind left
    let cellLen := kind.width (kind.measure cell)
    if index < leftLen then
      (split draw seed left index).map
        (fun (first, middle, seed) => (first, refreshed kind cell middle right priority, seed))
    else if index > leftLen + cellLen then
      (split draw seed right (index - leftLen - cellLen)).map
        (fun (middle, last, seed) => (refreshed kind cell left middle priority, last, seed))
    else if index = leftLen then
      some (left, refreshed kind cell nil right priority, seed)
    else if index = leftLen + cellLen then
      some (refreshed kind cell left nil priority, right, seed)
    else
      match kind.cut cell (index - leftLen) with
      | none => none
      | some (leftRun, rightRun) =>
        let (leftPriority, seed) := draw seed
        let (rightPriority, seed) := draw seed
        some (merge kind left (leaf kind leftRun leftPriority),
          merge kind (leaf kind rightRun rightPriority) right, seed)

end Operations

/-- Push the nodes down the left side, each with its right child. -/
def descend : Treap α σ -> List (α × Treap α σ) -> List (α × Treap α σ)
  | nil, pending => pending
  | node cell left right _ _, pending => descend left ((cell, right) :: pending)

/-- The in-order walk with an explicit stack; `none` when the stack is empty
where a node is expected, or when the fuel is used up. -/
def traverse {β : Type} (visit : β -> α -> β) : Nat -> β -> Treap α σ -> List (α × Treap α σ) -> Option β
  | _, state, nil, [] => some state
  | 0, _, _, _ => none
  | fuel + 1, state, cursor, pending =>
    match descend cursor pending with
    | [] => none
    | (cell, right) :: rest => traverse visit fuel (visit state cell) right rest

/-! ## Sound treaps -/

section Laws

variable {kind : CellKind α σ}

variable {cell : α} {left right : Treap α σ} {priority : UInt64}

@[simp] theorem cells_refreshed :
    (refreshed kind cell left right priority).cells = left.cells ++ cell :: right.cells := rfl

@[simp] theorem cells_leaf (cell : α) (priority : UInt64) : (leaf kind cell priority).cells = [cell] := rfl

/-- Merging appends the cells. -/
@[simp] theorem cells_merge (left right : Treap α σ) :
    (merge kind left right).cells = left.cells ++ right.cells := by
  fun_induction merge kind left right with
  | case1 right => rfl
  | case2 left _ => simp [cells]
  | case3 | case4 => simp_all [cells]

variable {entries : α -> List ε}

/-- Every cached summary is the one of the parts, and no cell is empty. -/
def Sound (kind : CellKind α σ) (entries : α -> List ε) : Treap α σ -> Prop
  | nil => True
  | node cell left right _ summary =>
    summary = kind.join (kind.join (summaryOf kind left) (kind.measure cell)) (summaryOf kind right) ∧
      entries cell ≠ [] ∧ Sound kind entries left ∧ Sound kind entries right

theorem sound_refreshed {cell : α} {left right : Treap α σ}
    (inhabited : entries cell ≠ []) (leftSound : Sound kind entries left)
    (rightSound : Sound kind entries right) :
    Sound kind entries (refreshed kind cell left right priority) :=
  ⟨rfl, inhabited, leftSound, rightSound⟩

theorem sound_leaf {cell : α} (inhabited : entries cell ≠ []) :
    Sound kind entries (leaf kind cell priority) :=
  sound_refreshed inhabited trivial trivial

theorem sound_merge {left right : Treap α σ} (leftSound : Sound kind entries left)
    (rightSound : Sound kind entries right) : Sound kind entries (merge kind left right) := by
  fun_induction merge kind left right with
  | case1 => exact rightSound
  | case2 => exact leftSound
  | case3 cell left right priority summary cell' left' right' priority' summary' higher ih =>
    obtain ⟨-, inhabited, first, second⟩ := leftSound
    exact sound_refreshed inhabited first (ih second rightSound)
  | case4 cell left right priority summary cell' left' right' priority' summary' lower ih =>
    obtain ⟨-, inhabited, first, second⟩ := rightSound
    exact sound_refreshed inhabited (ih leftSound first) second

@[simp] theorem flat_nil : flat entries (nil : Treap α σ) = [] := rfl

theorem flat_node (summary : σ) : flat entries (node cell left right priority summary) =
      flat entries left ++ (entries cell ++ flat entries right) := by
  simp [flat, cells]

@[simp] theorem flat_refreshed : flat entries (refreshed kind cell left right priority) =
      flat entries left ++ (entries cell ++ flat entries right) :=
  flat_node _

@[simp] theorem flat_leaf : flat entries (leaf kind cell priority) = entries cell := by
  simp [leaf]

@[simp] theorem flat_merge :
    flat entries (merge kind left right) = flat entries left ++ flat entries right := by
  simp [flat]

/-- The cached width counts the entries. -/
theorem width_eq (unfolds : kind.Unfolds entries) {tree : Treap α σ} (sound : Sound kind entries tree) :
    width kind tree = (flat entries tree).length := by
  induction tree with
  | nil => exact unfolds.width_nothing
  | node cell left right priority summary leftWidth rightWidth =>
    obtain ⟨exact, -, leftSound, rightSound⟩ := sound
    rw [width, summaryOf, exact, unfolds.width_join, unfolds.width_join, unfolds.width_measure,
      flat_node, length_append, length_append]
    have leftEq := leftWidth leftSound
    have rightEq := rightWidth rightSound
    rw [width] at leftEq rightEq
    omega

/-- Splitting never meets a cell that cannot be cut, and it takes and drops
entries. -/
theorem split_spec (unfolds : kind.Unfolds entries) (draw : ρ -> UInt64 × ρ) (seed : ρ)
    {tree : Treap α σ} (sound : Sound kind entries tree) (index : Nat) :
    ∃ first last next, split kind draw seed tree index = some (first, last, next) ∧
      Sound kind entries first ∧ Sound kind entries last ∧
      flat entries first = (flat entries tree).take index ∧
      flat entries last = (flat entries tree).drop index := by
  induction tree generalizing index with
  | nil => exact ⟨nil, nil, seed, rfl, trivial, trivial, by simp, by simp⟩
  | node cell left right priority summary splitLeft splitRight =>
    obtain ⟨-, inhabited, leftSound, rightSound⟩ := sound
    have leftLen := width_eq unfolds leftSound
    have cellLen := unfolds.width_measure cell
    rw [split, flat_node]
    rw [leftLen, cellLen]
    split_ifs with before after atLeft atRight
    · obtain ⟨first, middle, next, result, firstSound, middleSound, taken, dropped⟩ :=
        splitLeft leftSound index
      refine ⟨first, _, next, by rw [result]; rfl, firstSound,
        sound_refreshed inhabited middleSound rightSound, ?_, ?_⟩
      · rw [taken, take_append_of_le_length (by omega)]
      · rw [flat_refreshed, dropped, drop_append_of_le_length (by omega)]
    · obtain ⟨middle, last, next, result, middleSound, lastSound, taken, dropped⟩ :=
        splitRight rightSound (index - (flat entries left).length - (entries cell).length)
      refine ⟨_, last, next, by rw [result]; rfl,
        sound_refreshed inhabited leftSound middleSound, lastSound, ?_, ?_⟩
      · rw [flat_refreshed, taken, take_append, take_append,
          take_of_length_le (by omega : (flat entries left).length ≤ index),
          take_of_length_le (by omega : (entries cell).length ≤ _)]
      · rw [dropped, drop_append, drop_append,
          drop_of_length_le (by omega : (flat entries left).length ≤ index),
          drop_of_length_le (by omega : (entries cell).length ≤ _)]
        simp
    · refine ⟨left, _, seed, rfl, leftSound,
        sound_refreshed inhabited trivial rightSound, ?_, ?_⟩
      · rw [atLeft, take_left]
      · rw [flat_refreshed, atLeft, drop_left]
        rfl
    · refine ⟨_, right, seed, rfl, sound_refreshed inhabited leftSound trivial, rightSound,
        ?_, ?_⟩
      · rw [flat_refreshed, ← append_assoc, ← append_assoc, atRight,
          ← length_append, take_left]
        simp
      · rw [← append_assoc, atRight, ← length_append, drop_left]
    · -- Strictly inside the cell.
      obtain ⟨leftRun, rightRun, cut, taken, dropped⟩ := unfolds.cut_inside cell
        (index - (flat entries left).length) (by omega) (by omega)
      refine ⟨_, _, _, by rw [cut], sound_merge leftSound (sound_leaf ?_),
        sound_merge (sound_leaf ?_) rightSound, ?_, ?_⟩
      · rw [taken, ← length_pos_iff, length_take]
        omega
      · rw [dropped, ← length_pos_iff, length_drop]
        omega
      · rw [flat_merge, flat_leaf, taken, take_append, take_append_of_le_length (by omega),
          take_of_length_le (by omega : (flat entries left).length ≤ index)]
      · rw [flat_merge, flat_leaf, dropped, drop_append, drop_append_of_le_length (by omega),
          drop_of_length_le (by omega : (flat entries left).length ≤ index)]
        simp

end Laws

/-! ## The walk -/

/-- The cells that a walk has still to visit. -/
def remaining (cursor : Treap α σ) (pending : List (α × Treap α σ)) : List α :=
  cursor.cells ++ pending.flatMap (fun (cell, right) => cell :: right.cells)

theorem remaining_descend (cursor : Treap α σ) (pending : List (α × Treap α σ)) :
    remaining nil (descend cursor pending) = remaining cursor pending := by
  induction cursor generalizing pending with
  | nil => rfl
  | node cell left right priority summary descendLeft _ =>
    rw [descend, descendLeft]
    simp [remaining, cells]

theorem eq_nil_of_remaining {cursor : Treap α σ} {pending : List (α × Treap α σ)}
    (nothing : remaining cursor pending = []) : cursor = nil ∧ pending = [] := by
  cases cursor <;> cases pending <;> simp_all [remaining, cells]

/-- The walk finds a node whenever it expects one, and visits the cells in order. -/
theorem traverse_eq {β : Type} (visit : β -> α -> β) (fuel : Nat) (state : β) (cursor : Treap α σ)
    (pending : List (α × Treap α σ)) (enough : (remaining cursor pending).length ≤ fuel) :
    traverse visit fuel state cursor pending = some ((remaining cursor pending).foldl visit state) := by
  induction fuel generalizing state cursor pending with
  | zero =>
    obtain ⟨rfl, rfl⟩ := eq_nil_of_remaining (length_eq_zero_iff.mp (Nat.le_zero.mp enough))
    rfl
  | succ fuel ih =>
    cases stacked : descend cursor pending with
    | nil =>
      have same := remaining_descend cursor pending
      rw [stacked] at same
      obtain ⟨rfl, rfl⟩ := eq_nil_of_remaining same.symm
      rfl
    | cons entry rest =>
      obtain ⟨cell, right⟩ := entry
      have next : remaining cursor pending = cell :: remaining right rest := by
        rw [← remaining_descend, stacked]
        simp [remaining, cells]
      have step : traverse visit (fuel + 1) state cursor pending =
          traverse visit fuel (visit state cell) right rest := by
        cases cursor with
        | nil =>
          cases pending with
          | nil => cases stacked
          | cons entry others => rw [traverse, stacked]; simp
        | node cell' left' right' priority summary => rw [traverse, stacked]; simp
      rw [next, length_cons] at enough
      rw [step, next, foldl_cons]
      exact ih _ _ _ (by omega)

/-- The walk from the root. -/
theorem traverse_root {β : Type} (visit : β -> α -> β) (state : β) (tree : Treap α σ) :
    traverse visit tree.size state tree [] = some (tree.cells.foldl visit state) := by
  have whole : remaining tree [] = tree.cells := by simp [remaining]
  rw [traverse_eq visit tree.size state tree [] (by rw [whole, length_cells]), whole]

end Treap

end Collections
