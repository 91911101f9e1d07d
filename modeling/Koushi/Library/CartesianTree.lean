import Koushi.Library.Treap

namespace Collections

open List

/-!
# Building a treap from a list of cells

The tree is built in one pass over the cells.  The nodes wait in an arena and
point to their children by place; a stack holds the right side of the tree, with
priorities that do not increase.  A new node takes the nodes of lower priority
off the stack, has the last of them as its left child, and becomes the right
child of the node that is then on top.  Afterwards the nodes are taken out of
the arena, each exactly once.

Whatever the priorities are, the tree has the cells in the order of the list.
-/

/-- A node that waits in the arena; its cell is taken when the node is built. -/
structure PendingNode (α : Type) where
  cell : Option α
  left : Option Nat
  right : Option Nat
  priority : UInt64

namespace CartesianTree

variable {α σ ε ρ : Type}

/-- The arena and the stack, with its top first. -/
structure Builder (α ρ : Type) where
  arena : List (PendingNode α)
  stack : List Nat
  seed : ρ

/-- Take the nodes of lower priority off the stack; the last one is returned. -/
def popLower (arena : List (PendingNode α)) (priority : UInt64) : List Nat -> Option Nat ->
    List Nat × Option Nat
  | [], left => ([], left)
  | top :: rest, left =>
    if arena[top]?.any (fun node => node.priority < priority) then
      popLower arena priority rest (some top)
    else
      (top :: rest, left)

/-- Let the node on top of the stack have a new right child. -/
def adopt (arena : List (PendingNode α)) (stack : List Nat) (index : Nat) : List (PendingNode α) :=
  match stack with
  | [] => arena
  | parent :: _ => arena.modify parent (fun node => { node with right := some index })

/-- One more cell. -/
def push (draw : ρ -> UInt64 × ρ) (builder : Builder α ρ) (cell : α) : Builder α ρ :=
  let (priority, seed) := draw builder.seed
  let (stack, left) := popLower builder.arena priority builder.stack none
  let index := builder.arena.length
  let arena := builder.arena ++ [⟨some cell, left, none, priority⟩]
  ⟨adopt arena stack index, index :: stack, seed⟩

/-- Take a subtree out of the arena; `none` when a cell was taken before. -/
def build (kind : CellKind α σ) : Nat -> Option Nat -> List (PendingNode α) ->
    Option (Treap α σ × List (PendingNode α))
  | _, none, arena => some (.nil, arena)
  | 0, some _, _ => none
  | fuel + 1, some index, arena =>
    match arena[index]? with
    | none => none
    | some node =>
      match node.cell with
      | none => none
      | some cell =>
        match build kind fuel node.left (arena.set index { node with cell := none }) with
        | none => none
        | some (left, arena) =>
          match build kind fuel node.right arena with
          | none => none
          | some (right, arena) =>
            some (Treap.refreshed kind cell left right node.priority, arena)

/-- The tree of the cells, and the seed for later priorities. -/
def ofCells (kind : CellKind α σ) (draw : ρ -> UInt64 × ρ) (seed : ρ) (cells : List α) :
    Option (Treap α σ × ρ) :=
  let builder := cells.foldl (push draw) ⟨[], [], seed⟩
  match build kind builder.arena.length builder.stack.getLast? builder.arena with
  | none => none
  | some (root, _) => some (root, builder.seed)

/-! ## Subtrees of the arena -/

/-- The link is the root of a subtree that holds exactly the places from `low` to
before `high`. -/
inductive Covers (arena : List (PendingNode α)) : Option Nat -> Nat -> Nat -> Prop
  | empty (low : Nat) : Covers arena none low low
  | node {index low high : Nat} {node : PendingNode α} (found : arena[index]? = some node)
      (left : Covers arena node.left low index) (right : Covers arena node.right (index + 1) high) :
      Covers arena (some index) low high

variable {arena : List (PendingNode α)} {link child : Option Nat} {stack : List Nat}

theorem Covers.le {low high : Nat} (covers : Covers arena link low high) : low ≤ high := by
  induction covers with
  | empty => exact le_rfl
  | node found left right leftLe rightLe => omega

variable {arena arena' : List (PendingNode α)}

/-- Only the covered places matter. -/
theorem Covers.congr {low high : Nat} (covers : Covers arena link low high)
    (same : ∀ index, low ≤ index -> index < high -> arena'[index]? = arena[index]?) :
    Covers arena' link low high := by
  induction covers with
  | empty => exact .empty _
  | node found left right leftIh rightIh =>
    have lowLe := left.le
    have highLe := right.le
    refine .node ((same _ lowLe (by omega)).trans found) ?_ ?_
    · exact leftIh (fun index low high => same index low (by omega))
    · exact rightIh (fun index low high => same index (by omega) high)

/-- The place after the top of the stack. -/
def floor : List Nat -> Nat
  | [] => 0
  | top :: _ => top + 1

/-- The stack is the right side of a tree: each node covers the places since the
node below it and has the node above it as its right child. -/
def Spine (arena : List (PendingNode α)) : List Nat -> Option Nat -> Prop
  | [], _ => True
  | top :: rest, child =>
    ∃ node, arena[top]? = some node ∧ node.right = child ∧
      Covers arena node.left (floor rest) top ∧ Spine arena rest (some top)

/-- A spine does not see changes above it. -/
theorem Spine.congr (spine : Spine arena stack child)
    (same : ∀ index < floor stack, arena'[index]? = arena[index]?) : Spine arena' stack child := by
  induction stack generalizing child with
  | nil => trivial
  | cons top rest ih =>
    obtain ⟨node, found, right, left, below⟩ := spine
    have bound := left.le
    refine ⟨node, (same top (Nat.lt_succ_self _)).trans found, right, ?_, ?_⟩
    · exact left.congr (fun index _ high => same index (Nat.lt_succ_of_lt high))
    · exact ih below (fun index lower => same index (by simp only [floor]; omega))

/-- Taking nodes off the stack moves them into the subtree on the side. -/
theorem popLower_spine {left : Option Nat} {high : Nat}
    (priority : UInt64) (spine : Spine arena stack left) (covers : Covers arena left (floor stack) high) :
    Spine arena (popLower arena priority stack left).1 (popLower arena priority stack left).2 ∧
      Covers arena (popLower arena priority stack left).2
        (floor (popLower arena priority stack left).1) high := by
  induction stack generalizing left with
  | nil => exact ⟨trivial, covers⟩
  | cons top rest ih =>
    rw [popLower]
    split
    · obtain ⟨node, found, rfl, leftCovers, below⟩ := spine
      exact ih below (.node found leftCovers covers)
    · exact ⟨spine, covers⟩

/-- The bottom of the stack is the root of everything. -/
theorem Spine.covers_root
    {high : Nat} (spine : Spine arena stack child) (covers : Covers arena child (floor stack) high) :
    Covers arena (stack.getLast?.or child) 0 high := by
  induction stack generalizing child with
  | nil => exact covers
  | cons top rest ih =>
    obtain ⟨node, found, rfl, leftCovers, below⟩ := spine
    have root := ih below (.node found leftCovers covers)
    cases rest with
    | nil => exact root
    | cons next others =>
      rw [getLast?_cons_cons]
      exact root

/-! ## The pass over the cells -/

/-- The stack is the right side of the tree over all nodes so far, and the nodes
hold the cells in order. -/
structure Builder.Sound (builder : Builder α ρ) (cells : List α) : Prop where
  spine : Spine builder.arena builder.stack none
  top : floor builder.stack = builder.arena.length
  holds : builder.arena.map PendingNode.cell = cells.map some

theorem length_adopt (index : Nat) : (adopt arena stack index).length = arena.length := by
  cases stack <;> simp [adopt]

/-- Only the parent changes, and only in its right child. -/
theorem getElem?_adopt (parent : Nat) (rest : List Nat)
    (index place : Nat) : (adopt arena (parent :: rest) index)[place]? =
      if parent = place then arena[place]?.map (fun node => { node with right := some index })
      else arena[place]? := by
  rw [adopt, getElem?_modify]
  split
  · rfl
  · exact Option.map_id'

theorem cell_adopt (index : Nat) :
    (adopt arena stack index).map PendingNode.cell = arena.map PendingNode.cell := by
  cases stack with
  | nil => rfl
  | cons parent rest =>
    apply ext_getElem?
    intro place
    rw [getElem?_map, getElem?_map, getElem?_adopt]
    split
    · cases arena[place]? <;> rfl
    · rfl

/-- The parent is below the floor of the stack. -/
theorem getElem?_adopt_of_floor_le {index place : Nat}
    (above : floor stack ≤ place) : (adopt arena stack index)[place]? = arena[place]? := by
  cases stack with
  | nil => rfl
  | cons parent rest =>
    simp only [floor] at above
    rw [getElem?_adopt, if_neg (by omega)]

theorem Spine.adopt (index : Nat)
    (spine : Spine arena stack child) : Spine (adopt arena stack index) stack (some index) := by
  cases stack with
  | nil => trivial
  | cons parent rest =>
    obtain ⟨node, found, -, left, below⟩ := spine
    have unchanged : ∀ place < parent,
        (CartesianTree.adopt arena (parent :: rest) index)[place]? = arena[place]? := by
      intro place lower
      rw [getElem?_adopt, if_neg (by omega)]
    refine ⟨{ node with right := some index }, ?_, rfl, ?_, ?_⟩
    · rw [getElem?_adopt, if_pos rfl, found]
      rfl
    · exact left.congr (fun place _ high => unchanged place high)
    · have bound := left.le
      exact below.congr (fun place lower => unchanged place (by omega))

theorem Builder.Sound.push {builder : Builder α ρ} {cells : List α} (sound : builder.Sound cells)
    (draw : ρ -> UInt64 × ρ) (cell : α) :
    (CartesianTree.push draw builder cell).Sound (cells ++ [cell]) := by
  rw [CartesianTree.push]
  dsimp only
  generalize (draw builder.seed).1 = priority
  generalize (draw builder.seed).2 = seed
  obtain ⟨spine, covers⟩ := popLower_spine priority sound.spine
    (by rw [sound.top]; exact .empty builder.arena.length)
  generalize (popLower builder.arena priority builder.stack none).1 = stack at spine covers ⊢
  generalize (popLower builder.arena priority builder.stack none).2 = left at spine covers ⊢
  have grown : ∀ place < builder.arena.length,
      (builder.arena ++ [(⟨some cell, left, none, priority⟩ : PendingNode α)])[place]? =
        builder.arena[place]? := fun place lower => getElem?_append_left lower
  have floorLe : floor stack ≤ builder.arena.length := covers.le
  constructor
  · refine ⟨⟨some cell, left, none, priority⟩, ?_, rfl, ?_, ?_⟩
    · rw [getElem?_adopt_of_floor_le floorLe, getElem?_append_right le_rfl]
      simp
    · refine covers.congr (fun place low high => ?_)
      rw [getElem?_adopt_of_floor_le low, grown place high]
    · exact Spine.adopt _ (spine.congr (fun place lower => grown place (by omega)))
  · rw [length_adopt]
    simp [floor]
  · rw [cell_adopt, map_append, sound.holds]
    simp

theorem sound_foldl_push (draw : ρ -> UInt64 × ρ) {builder : Builder α ρ} {done : List α}
    (sound : builder.Sound done) (cells : List α) :
    (cells.foldl (push draw) builder).Sound (done ++ cells) := by
  induction cells generalizing builder done with
  | nil => simpa using sound
  | cons cell rest ih =>
    have next := ih (sound.push draw cell)
    simpa using next

/-! ## Taking the tree out -/

/-- The cells at places from `low` to before `high` that are still there. -/
def cellsBetween (arena : List (PendingNode α)) (low high : Nat) : List α :=
  (List.range' low (high - low)).filterMap (fun index => arena[index]?.bind PendingNode.cell)

theorem cellsBetween_congr {low high : Nat}
    (same : ∀ index, low ≤ index -> index < high -> arena'[index]? = arena[index]?) :
    cellsBetween arena' low high = cellsBetween arena low high := by
  apply filterMap_congr
  intro index member
  rw [mem_range'_1] at member
  rw [same index member.1 (by omega)]

theorem cellsBetween_split {low index high : Nat} {node : PendingNode α}
    {cell : α} (lowLe : low ≤ index) (lt : index < high) (found : arena[index]? = some node)
    (holds : node.cell = some cell) : cellsBetween arena low high =
      cellsBetween arena low index ++ cell :: cellsBetween arena (index + 1) high := by
  have places : range' low (high - low) =
      range' low (index - low) ++ index :: range' (index + 1) (high - (index + 1)) := by
    have total : high - low = (index - low) + ((high - (index + 1)) + 1) := by omega
    have middle : low + 1 * (index - low) = index := by omega
    rw [total, ← range'_append, middle, range'_succ]
  rw [cellsBetween, places, filterMap_append, filterMap_cons, found, Option.bind_some, holds]
  rfl

/-- A subtree whose cells are all there is built in full, and the rest of the
arena is left alone. -/
theorem build_spec (kind : CellKind α σ) (entries : α -> List ε)
    {low high fuel : Nat} (covers : Covers arena link low high) (enough : high - low ≤ fuel)
    (present : ∀ index, low ≤ index -> index < high -> ∀ node, arena[index]? = some node ->
    ∃ cell, node.cell = some cell ∧ entries cell ≠ []) :
    ∃ tree arena', build kind fuel link arena = some (tree, arena') ∧ Treap.Sound kind entries tree ∧
      tree.cells = cellsBetween arena low high ∧
      ∀ index, (index < low ∨ high ≤ index) -> arena'[index]? = arena[index]? := by
  induction fuel generalizing arena link low high with
  | zero =>
    cases covers with
    | empty =>
      exact ⟨.nil, arena, rfl, trivial, by simp [cellsBetween, Treap.cells], fun _ _ => rfl⟩
    | node found left right =>
      have lowLe := left.le
      have highLe := right.le
      omega
  | succ fuel ih =>
    cases covers with
    | empty =>
      exact ⟨.nil, arena, rfl, trivial, by simp [cellsBetween, Treap.cells], fun _ _ => rfl⟩
    | @node index _ _ node found left right =>
      have lowLe := left.le
      have highLe := right.le
      obtain ⟨cell, holds, inhabited⟩ := present index lowLe (by omega) node found
      rw [build, found]
      dsimp only
      rw [holds]
      dsimp only
      -- The cell is taken, then the left subtree, then the right one.
      have elsewhere : ∀ place, place ≠ index ->
          (arena.set index { node with cell := none })[place]? = arena[place]? :=
        fun place different => getElem?_set_ne different.symm
      obtain ⟨leftTree, leftArena, leftBuilt, leftSound, leftCells, leftOutside⟩ :=
        ih (left.congr (fun place _ high => elsewhere place (by omega))) (by omega)
          (fun place lower higher node' stands => present place lower (by omega) node'
            ((elsewhere place (by omega)).symm.trans stands))
      have rightSame : ∀ place, index + 1 ≤ place -> leftArena[place]? = arena[place]? := by
        intro place above
        rw [leftOutside place (.inr (by omega)), elsewhere place (by omega)]
      obtain ⟨rightTree, rightArena, rightBuilt, rightSound, rightCells, rightOutside⟩ :=
        ih (right.congr (fun place low _ => rightSame place low)) (by omega)
          (fun place lower higher node' stands => present place (by omega) higher node'
            ((rightSame place lower).symm.trans stands))
      refine ⟨_, rightArena, by rw [leftBuilt]; dsimp only; rw [rightBuilt],
        Treap.sound_refreshed inhabited leftSound rightSound, ?_, ?_⟩
      · rw [Treap.cells_refreshed, leftCells, rightCells,
          cellsBetween_split lowLe (by omega) found holds,
          cellsBetween_congr (fun place _ higher => elsewhere place (by omega)),
          cellsBetween_congr (fun place lower _ => rightSame place lower)]
      · intro place outside
        have different : place ≠ index := by omega
        rw [rightOutside place (by omega), leftOutside place (by omega), elsewhere place different]

/-- Reading a list at all its places gives the list. -/
theorem filterMap_getElem?_range (items : List α) :
    (range items.length).filterMap (fun index => items[index]?) = items := by
  induction items using reverseRecOn with
  | nil => rfl
  | append_singleton items item ih =>
    rw [length_append, length_singleton, range_succ, filterMap_append]
    congr 1
    · refine (filterMap_congr ?_).trans ih
      intro index member
      exact getElem?_append_left (mem_range.mp member)
    · simp

/-- The tree is always built, sound and with the cells in order. -/
theorem ofCells_spec (kind : CellKind α σ) (entries : α -> List ε) (draw : ρ -> UInt64 × ρ) (seed : ρ)
    {cells : List α} (inhabited : ∀ cell ∈ cells, entries cell ≠ []) :
    ∃ tree next, ofCells kind draw seed cells = some (tree, next) ∧
      Treap.Sound kind entries tree ∧ tree.cells = cells := by
  have start : Builder.Sound (⟨[], [], seed⟩ : Builder α ρ) [] := ⟨trivial, rfl, rfl⟩
  have sound := sound_foldl_push draw start cells
  rw [nil_append] at sound
  rw [ofCells]
  generalize cells.foldl (push draw) ⟨[], [], seed⟩ = builder at sound
  have covers : Covers builder.arena builder.stack.getLast? 0 builder.arena.length := by
    have root := sound.spine.covers_root (by rw [sound.top]; exact .empty builder.arena.length)
    simpa using root
  have holds : ∀ index : Nat, builder.arena[index]?.bind PendingNode.cell = cells[index]? := by
    intro index
    have atIndex : (builder.arena.map PendingNode.cell)[index]? = (cells.map some)[index]? := by
      rw [sound.holds]
    cases known : builder.arena[index]? <;> cases wanted : cells[index]? <;> simp_all
  have sameLength : builder.arena.length = cells.length := by
    simpa using congrArg length sound.holds
  obtain ⟨tree, arena, built, sound', inOrder, -⟩ := build_spec kind entries covers le_rfl
    (by
      intro index _ inside node found
      have known := holds index
      rw [found, Option.bind_some] at known
      rw [getElem?_eq_getElem (by omega)] at known
      exact ⟨_, known, inhabited _ (getElem_mem _)⟩)
  refine ⟨tree, builder.seed, by rw [Nat.sub_zero] at built; rw [built], sound', ?_⟩
  rw [inOrder, cellsBetween, Nat.sub_zero, sameLength, ← range_eq_range']
  simp only [holds]
  exact filterMap_getElem?_range cells

end CartesianTree

end Collections
