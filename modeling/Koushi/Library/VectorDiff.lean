import Mathlib

namespace Collections

open List

/-!
# Edits of a sequence, and edits of a table of keyed rows

A `VectorDiff` is one edit of a sequence, as a producer publishes it to its
observers.  A plain observer applies the edits as they stand.  An observer that
keeps one row per key does more: it drops an insertion whose key is taken, and
it writes a replacement to the row that already has the key.  The two agree as
long as no edit meets a key that stands somewhere else.

`rearrange` is the program that turns one sequence into another while it keeps
one block of rows.  It is exact for an observer with a given key when no
inserted row has the key of a kept row and no kept row gets the key of a later
kept row, and for no other key.
-/

/-- One edit of a sequence. -/
inductive VectorDiff (α : Type) where
  | pushFront (item : α)
  | pushBack (item : α)
  | insert (index : Nat) (item : α)
  | set (index : Nat) (item : α)
  | remove (index : Nat)
  | truncate (length : Nat)
  | clear
  | reset (items : List α)
deriving DecidableEq, Repr

namespace VectorDiff

variable {α κ : Type}

/-! ## Plain application -/

/-- One edit of the sequence as it stands; an index past the end is the end. -/
def apply (items : List α) : VectorDiff α -> List α
  | pushFront item => item :: items
  | pushBack item => items ++ [item]
  | insert index item => items.insertIdx (min index items.length) item
  | set index item => items.set index item
  | remove index => items.eraseIdx index
  | truncate length => items.take length
  | clear => []
  | reset items => items

/-- The edits, one after the other. -/
def applyAll (items : List α) (diffs : List (VectorDiff α)) : List α := diffs.foldl apply items

/-! ## Application to a table with one row per key -/

section Keyed

variable (key : α -> κ) [DecidableEq κ]

/-- The rows whose key did not occur before them. -/
def keepFirst : List α -> List κ -> List α
  | [], _ => []
  | row :: rest, seen =>
    if key row ∈ seen then keepFirst rest seen else row :: keepFirst rest (key row :: seen)

/-- Insert a row unless its key is taken. -/
def insertRow (rows : List α) (index : Nat) (row : α) : List α :=
  if key row ∈ rows.map key then rows else rows.insertIdx (min index rows.length) row

/-- Replace the row that has the key, or else the row at the index. -/
def setRow (rows : List α) (index : Nat) (row : α) : List α :=
  if index < rows.length then
    rows.set (((rows.map key).idxOf? (key row)).getD index) row
  else
    rows

/-- One edit of a table with one row per key. -/
def applyKeyed (rows : List α) : VectorDiff α -> List α
  | pushFront row => insertRow key rows 0 row
  | pushBack row => insertRow key rows rows.length row
  | insert index row => insertRow key rows index row
  | set index row => setRow key rows index row
  | remove index => rows.eraseIdx index
  | truncate length => rows.take length
  | clear => []
  | reset rows => keepFirst key rows []

/-- The edits, one after the other. -/
def applyAllKeyed (rows : List α) (diffs : List (VectorDiff α)) : List α :=
  diffs.foldl (applyKeyed key) rows

theorem applyAllKeyed_append (rows : List α) (first second : List (VectorDiff α)) :
    applyAllKeyed key rows (first ++ second) = applyAllKeyed key (applyAllKeyed key rows first) second :=
  foldl_append

variable {rows left right : List α} {row : α}

/-- Only the members of the seen keys matter. -/
theorem keepFirst_congr {seen seen' : List κ} (same : ∀ value, value ∈ seen ↔ value ∈ seen') :
    keepFirst key rows seen = keepFirst key rows seen' := by
  induction rows generalizing seen seen' with
  | nil => rfl
  | cons row rest ih =>
    rw [keepFirst, keepFirst, ih same]
    have extended : keepFirst key rest (key row :: seen) = keepFirst key rest (key row :: seen') := by
      apply ih
      intro value
      rw [mem_cons, mem_cons, same]
    rw [extended]
    simp only [same]

/-- A table without repeated keys is kept as it is. -/
theorem keepFirst_of_nodup {seen : List κ} (distinct : (rows.map key).Nodup)
    (unseen : ∀ row ∈ rows, key row ∉ seen) : keepFirst key rows seen = rows := by
  induction rows generalizing seen with
  | nil => rfl
  | cons row rest ih =>
    rw [map_cons, nodup_cons] at distinct
    have fresh : key row ∉ seen := unseen row mem_cons_self
    rw [keepFirst, if_neg fresh]
    congr 1
    apply ih distinct.2
    intro other member
    rw [mem_cons, not_or]
    refine ⟨?_, unseen other (mem_cons_of_mem _ member)⟩
    intro same
    exact distinct.1 (same ▸ mem_map_of_mem member)

/-! ## Single edits at a known place -/

omit [DecidableEq κ] in
/-- A row of a table without repeated keys, against the other rows. -/
theorem nodup_keys_middle : ((left ++ row :: right).map key).Nodup ↔
      key row ∉ (left ++ right).map key ∧ ((left ++ right).map key).Nodup := by
  rw [map_append, map_cons, nodup_middle, nodup_cons, map_append]

omit [DecidableEq κ] in
/-- The rows before and after a place. -/
theorem exists_append_of_getElem? {place : Nat} (stands : rows[place]? = some row) :
    ∃ left right, rows = left ++ row :: right ∧ place = left.length := by
  obtain ⟨inside, value⟩ := List.getElem?_eq_some_iff.mp stands
  refine ⟨rows.take place, rows.drop (place + 1), ?_, by simp [Nat.le_of_lt inside]⟩
  rw [← value, ← drop_eq_getElem_cons inside, take_append_drop]

omit [DecidableEq κ] in
theorem insertIdx_append_length (left right : List α) (row : α) :
    (left ++ right).insertIdx left.length row = left ++ row :: right := by
  induction left with
  | nil => simp
  | cons first rest ih => simpa using ih

theorem insertRow_of_fresh (fresh : key row ∉ (left ++ right).map key) :
    insertRow key (left ++ right) left.length row = left ++ row :: right := by
  have inside : min left.length (left ++ right).length = left.length := by simp
  rw [insertRow, if_neg fresh, inside, insertIdx_append_length]

theorem insertRow_of_taken (index : Nat)
    (taken : key row ∈ rows.map key) : insertRow key rows index row = rows := if_pos taken

theorem setRow_of_fresh {old row : α} (fresh : key row ∉ (left ++ right).map key) :
    setRow key (left ++ old :: right) left.length row = left ++ row :: right := by
  have place : (((left ++ old :: right).map key).idxOf? (key row)).getD left.length = left.length := by
    rw [map_append, mem_append, not_or] at fresh
    rw [map_append, map_cons]
    by_cases same : key old = key row
    · have first : (left.map key ++ key old :: right.map key).idxOf? (key row) =
          some left.length := by
        rw [idxOf?_eq_some_iff]
        refine ⟨by simp, by simp [same], ?_⟩
        intro earlier before
        have inside : earlier < (left.map key).length := by simpa using before
        rw [getElem_append_left inside]
        intro equal
        exact fresh.1 (equal ▸ getElem_mem inside)
      rw [first, Option.getD_some]
    · have absent : (left.map key ++ key old :: right.map key).idxOf? (key row) = none := by
        rw [idxOf?_eq_none_iff]
        simp only [mem_append, mem_cons, not_or]
        exact ⟨fresh.1, fun equal => same equal.symm, fresh.2⟩
      rw [absent, Option.getD_none]
  rw [setRow, if_pos (by simp), place]
  simp

theorem length_setRow (index : Nat) : (setRow key rows index row).length = rows.length := by
  unfold setRow
  split <;> simp

/-- A replacement whose key is in the table changes no key. -/
theorem key_setRow_of_taken (index place : Nat) (taken : key row ∈ rows.map key) :
    (setRow key rows index row)[place]?.map key = rows[place]?.map key := by
  rw [setRow]
  split
  · cases owner : (rows.map key).idxOf? (key row) with
    | none => exact absurd taken (idxOf?_eq_none_iff.mp owner)
    | some first =>
      rw [Option.getD_some, getElem?_set]
      split
      · next same =>
        subst same
        obtain ⟨inside, found, -⟩ := idxOf?_eq_some_iff.mp owner
        have bound : first < rows.length := by simpa using inside
        rw [if_pos bound, getElem?_eq_getElem bound]
        simpa using found.symm
      · rfl
  · rfl

/-- A replacement changes the key of no other place than its own. -/
theorem key_setRow {index place : Nat} (row : α) (elsewhere : index ≠ place) :
    (setRow key rows index row)[place]?.map key = rows[place]?.map key := by
  by_cases taken : key row ∈ rows.map key
  · exact key_setRow_of_taken key index place taken
  · have absent : (rows.map key).idxOf? (key row) = none := idxOf?_eq_none_iff.mpr taken
    rw [setRow, absent, Option.getD_none]
    split
    · rw [getElem?_set_ne elsewhere]
    · rfl

/-! ## Blocks of edits -/

/-- Remove the rows of a block, each at the place where the block starts. -/
def removes (count index : Nat) : List (VectorDiff α) := List.replicate count (remove index)

/-- Insert a block of rows, one after the other. -/
def inserts (index : Nat) : List α -> List (VectorDiff α)
  | [] => []
  | row :: rest => insert index row :: inserts (index + 1) rest

/-- Replace a block of rows where the two versions differ. -/
def sets [DecidableEq α] (index : Nat) : List α -> List α -> List (VectorDiff α)
  | old :: before, row :: after =>
    (if old = row then [] else [set index row]) ++ sets (index + 1) before after
  | _, _ => []

theorem applyAllKeyed_removes (left block right : List α) :
    applyAllKeyed key (left ++ block ++ right) (removes block.length left.length) = left ++ right := by
  induction block with
  | nil => simp [removes, applyAllKeyed]
  | cons row rest ih =>
    have first : applyKeyed key (left ++ (row :: rest) ++ right) (remove left.length) =
        left ++ rest ++ right := by
      simp [applyKeyed, eraseIdx_append_of_length_le]
    rw [length_cons, removes, replicate_succ, applyAllKeyed, foldl_cons, first]
    exact ih

/-- Every row of a fresh block is inserted. -/
theorem applyAllKeyed_inserts {left block right : List α}
    (distinct : ((left ++ block ++ right).map key).Nodup) :
    applyAllKeyed key (left ++ right) (inserts left.length block) = left ++ block ++ right := by
  induction block generalizing left with
  | nil => simp [inserts, applyAllKeyed]
  | cons row rest ih =>
    have fresh : key row ∉ (left ++ right).map key := by
      rw [append_assoc, cons_append, nodup_keys_middle] at distinct
      simp only [map_append, mem_append, not_or] at distinct ⊢
      exact ⟨distinct.1.1, distinct.1.2.2⟩
    have next : applyAllKeyed key ((left ++ [row]) ++ right) (inserts (left ++ [row]).length rest) =
        (left ++ [row]) ++ rest ++ right := ih (by simpa using distinct)
    rw [inserts, applyAllKeyed, foldl_cons, applyKeyed, insertRow_of_fresh key fresh]
    simpa [applyAllKeyed] using next

/-- Insertions never add more rows than they carry. -/
theorem length_applyAllKeyed_inserts_le (rows block : List α) (index : Nat) :
    (applyAllKeyed key rows (inserts index block)).length ≤ rows.length + block.length := by
  induction block generalizing rows index with
  | nil => simp [inserts, applyAllKeyed]
  | cons row rest ih =>
    have one : (insertRow key rows index row).length ≤ rows.length + 1 := by
      unfold insertRow
      split
      · omega
      · rw [length_insertIdx]
        split <;> omega
    have more := ih (insertRow key rows index row) (index + 1)
    rw [inserts, applyAllKeyed, foldl_cons, length_cons]
    exact more.trans (by omega)

/-- The keys of a table stay in it while rows are inserted. -/
theorem mem_keys_insertRow {taken : κ} (index : Nat) (row : α)
    (member : taken ∈ rows.map key) : taken ∈ (insertRow key rows index row).map key := by
  unfold insertRow
  split
  · exact member
  · obtain ⟨owner, inside, rfl⟩ := mem_map.mp member
    have room : min index rows.length ≤ rows.length := Nat.min_le_right _ _
    exact mem_map_of_mem ((mem_insertIdx room).mpr (.inr inside))

theorem mem_keys_applyAllKeyed_inserts {taken : κ} (block : List α) (index : Nat)
    (member : taken ∈ rows.map key) :
    taken ∈ (applyAllKeyed key rows (inserts index block)).map key := by
  induction block generalizing rows index with
  | nil => exact member
  | cons row rest ih => exact ih (index + 1) (mem_keys_insertRow key index row member)

/-- A block that has the key of a row of the table is not inserted in full. -/
theorem length_applyAllKeyed_inserts_lt {rows block : List α} (index : Nat)
    (member : row ∈ block) (taken : key row ∈ rows.map key) :
    (applyAllKeyed key rows (inserts index block)).length < rows.length + block.length := by
  induction block generalizing rows index with
  | nil => cases member
  | cons first rest ih =>
    rw [inserts, applyAllKeyed, foldl_cons, length_cons]
    rcases mem_cons.mp member with rfl | later
    · have dropped : applyKeyed key rows (insert index row) = rows :=
        insertRow_of_taken key index taken
      have bound := length_applyAllKeyed_inserts_le key rows rest (index + 1)
      rw [dropped]
      exact Nat.lt_of_le_of_lt bound (by omega)
    · have short := ih (index + 1) later (mem_keys_insertRow key index first taken)
      have one := length_applyAllKeyed_inserts_le key rows [first] index
      simp only [inserts, applyAllKeyed, foldl_cons, foldl_nil, length_cons,
        length_nil] at one
      exact Nat.lt_of_lt_of_le short (by simp only [applyKeyed] at one; omega)

/-! ## Replacing a block in place -/

/-- No row of the new block has the key of a later row of the old one. -/
def Settles : List α -> List α -> Prop
  | row :: after, _ :: before => key row ∉ before.map key ∧ Settles after before
  | _, _ => True

instance decidableSettles : (after before : List α) -> Decidable (Settles key after before)
  | [], _ => isTrue trivial
  | _ :: _, [] => isTrue trivial
  | row :: after, _ :: before =>
    have := decidableSettles after before
    inferInstanceAs (Decidable (key row ∉ before.map key ∧ Settles key after before))

theorem length_applyAllKeyed_sets [DecidableEq α] (rows before after : List α) (index : Nat) :
    (applyAllKeyed key rows (sets index before after)).length = rows.length := by
  induction before generalizing rows after index with
  | nil => simp [sets, applyAllKeyed]
  | cons old before ih =>
    cases after with
    | nil => simp [sets, applyAllKeyed]
    | cons row after =>
      rw [sets, applyAllKeyed_append, ih]
      split
      · rfl
      · exact length_setRow key index

/-- Replacements further on leave the key of a place alone. -/
theorem key_applyAllKeyed_sets [DecidableEq α] (rows before after : List α) (index : Nat)
    {place : Nat} (earlier : place < index) :
    (applyAllKeyed key rows (sets index before after))[place]?.map key = rows[place]?.map key := by
  induction before generalizing rows after index with
  | nil => simp [sets, applyAllKeyed]
  | cons old before ih =>
    cases after with
    | nil => simp [sets, applyAllKeyed]
    | cons row after =>
      rw [sets, applyAllKeyed_append, ih _ _ _ (Nat.lt_succ_of_lt earlier)]
      split
      · rfl
      · exact key_setRow key row (Nat.ne_of_gt earlier)

/-- A replacement that is taken for a later row leaves its own place behind. -/
theorem key_sets_of_taken [DecidableEq α] (left right : List α) (old : α)
    {before : List α} (after : List α) (taken : key row ∈ before.map key) :
    (applyAllKeyed key (left ++ old :: before ++ right)
      ([set left.length row] ++ sets (left.length + 1) before after))[left.length]?.map key =
      some (key old) := by
  have inTable : key row ∈ (left ++ old :: before ++ right).map key := by
    rw [map_append, map_append, map_cons]
    exact mem_append_left _ (mem_append_right _ (mem_cons_of_mem _ taken))
  rw [applyAllKeyed_append, key_applyAllKeyed_sets key _ _ _ _ (Nat.lt_succ_self _), applyAllKeyed,
    foldl_cons, foldl_nil, applyKeyed, key_setRow_of_taken key _ _ inTable]
  simp

/-- Replacing a block in place gives the new block exactly when no replacement
is taken for a later row. -/
theorem applyAllKeyed_sets_iff [DecidableEq α] {left before after right : List α}
    (sameLength : before.length = after.length)
    (distinctBefore : ((left ++ before ++ right).map key).Nodup)
    (distinctAfter : ((left ++ after ++ right).map key).Nodup) :
    applyAllKeyed key (left ++ before ++ right) (sets left.length before after) =
      left ++ after ++ right ↔ Settles key after before := by
  induction before generalizing left after with
  | nil =>
    cases length_eq_zero_iff.mp sameLength.symm
    simp [sets, applyAllKeyed, Settles]
  | cons old before ih =>
    cases after with
    | nil => cases sameLength
    | cons row after =>
      have sameRest : before.length = after.length := Nat.succ.inj sameLength
      have distinctRow : ((left ++ [row] ++ after ++ right).map key).Nodup := by
        simpa using distinctAfter
      rw [sets, Settles]
      by_cases taken : key row ∈ before.map key
      · -- The write goes to a later row, so this place keeps its old key.
        have different : key old ≠ key row := by
          intro same
          rw [append_assoc, cons_append, nodup_keys_middle] at distinctBefore
          refine distinctBefore.1 ?_
          rw [same, map_append, map_append]
          exact mem_append_right _ (mem_append_left _ taken)
        have replaced : old ≠ row := fun same => different (same ▸ rfl)
        rw [if_neg replaced]
        refine iff_of_false ?_ (fun settled => settled.1 taken)
        intro result
        have place := key_sets_of_taken key left right old after taken
        rw [result] at place
        exact different (by simpa using place.symm)
      · have fresh : key row ∉ (left ++ (before ++ right)).map key := by
          rw [append_assoc, cons_append, nodup_keys_middle] at distinctAfter
          simp only [map_append, mem_append, not_or] at distinctAfter ⊢
          exact ⟨distinctAfter.1.1, taken, distinctAfter.1.2.2⟩
        have moved : applyAllKeyed key (left ++ (old :: before) ++ right)
            (if old = row then [] else [set left.length row]) =
            left ++ [row] ++ before ++ right := by
          split
          · next same => simp [applyAllKeyed, same]
          · have written : setRow key (left ++ old :: (before ++ right)) left.length row =
                left ++ row :: (before ++ right) := setRow_of_fresh key fresh
            simpa [applyAllKeyed, applyKeyed] using written
        have distinctNext : ((left ++ [row] ++ before ++ right).map key).Nodup := by
          rw [append_assoc, cons_append, nodup_keys_middle] at distinctBefore
          rw [append_assoc, append_assoc, singleton_append, nodup_keys_middle]
          exact ⟨fresh, distinctBefore.2⟩
        rw [applyAllKeyed_append, moved, and_iff_right taken]
        have rest := ih sameRest distinctNext distinctRow
        simpa using rest

/-! ## Keeping one block and rebuilding the rest -/

/-- Keep one block of rows: remove what stands beside it, insert what is to
stand beside it, then replace the rows of the block. -/
def rearrange [DecidableEq α] (index : Nat) (dropLeft keep dropRight addLeft kept addRight : List α) :
    List (VectorDiff α) :=
  removes dropRight.length (index + (dropLeft.length + keep.length)) ++
    (removes dropLeft.length index ++
      (inserts index addLeft ++
        (inserts (index + addLeft.length + keep.length) addRight ++
          sets (index + addLeft.length) keep kept)))

/-- After the removals only the kept block stands between head and tail. -/
theorem applyAllKeyed_rearrange_removes (head dropLeft keep dropRight tail : List α)
    (rest : List (VectorDiff α)) : applyAllKeyed key (head ++ (dropLeft ++ keep ++ dropRight) ++ tail)
      (removes dropRight.length (head.length + (dropLeft.length + keep.length)) ++
        (removes dropLeft.length head.length ++ rest)) =
      applyAllKeyed key (head ++ keep ++ tail) rest := by
  have right := applyAllKeyed_removes key (head ++ dropLeft ++ keep) dropRight tail
  have left := applyAllKeyed_removes key head dropLeft (keep ++ tail)
  simp only [length_append, append_assoc] at right left ⊢
  rw [applyAllKeyed_append, right, applyAllKeyed_append, left]

omit [DecidableEq κ] in
/-- The rows before the replacements have distinct keys. -/
theorem nodup_keys_table {head dropLeft keep dropRight addLeft kept addRight tail : List α}
    (distinctBefore : ((head ++ (dropLeft ++ keep ++ dropRight) ++ tail).map key).Nodup)
    (distinctAfter : ((head ++ (addLeft ++ kept ++ addRight) ++ tail).map key).Nodup)
    (fresh : ∀ row ∈ addLeft ++ addRight, key row ∉ keep.map key) :
    ((head ++ addLeft ++ keep ++ addRight ++ tail).map key).Nodup := by
  simp only [map_append, nodup_append, mem_append, mem_map]
    at distinctBefore distinctAfter fresh ⊢
  grind

omit [DecidableEq κ] in
/-- So have the rows before the second block is inserted. -/
theorem nodup_keys_without {left block right : List α}
    (distinct : ((left ++ block ++ right).map key).Nodup) : ((left ++ right).map key).Nodup := by
  refine distinct.sublist (Sublist.map key ?_)
  rw [append_assoc]
  exact (Sublist.refl left).append (sublist_append_right block right)

/-- The program gives the new sequence exactly when no inserted row has the key
of a kept row and no kept row gets the key of a later one. -/
theorem applyAllKeyed_rearrange_iff [DecidableEq α]
    {head dropLeft keep dropRight addLeft kept addRight tail : List α}
    (sameLength : keep.length = kept.length)
    (distinctBefore : ((head ++ (dropLeft ++ keep ++ dropRight) ++ tail).map key).Nodup)
    (distinctAfter : ((head ++ (addLeft ++ kept ++ addRight) ++ tail).map key).Nodup) :
    applyAllKeyed key (head ++ (dropLeft ++ keep ++ dropRight) ++ tail)
        (rearrange head.length dropLeft keep dropRight addLeft kept addRight) =
        head ++ (addLeft ++ kept ++ addRight) ++ tail ↔
      (∀ row ∈ addLeft ++ addRight, key row ∉ keep.map key) ∧ Settles key kept keep := by
  rw [rearrange, applyAllKeyed_rearrange_removes, applyAllKeyed_append, applyAllKeyed_append]
  by_cases fresh : ∀ row ∈ addLeft ++ addRight, key row ∉ keep.map key
  · have distinctTable := nodup_keys_table key distinctBefore distinctAfter fresh
    have first : applyAllKeyed key (head ++ keep ++ tail) (inserts head.length addLeft) =
        head ++ addLeft ++ keep ++ tail := by
      have distinct : ((head ++ addLeft ++ (keep ++ tail)).map key).Nodup := by
        simpa using nodup_keys_without key distinctTable
      simpa using applyAllKeyed_inserts key distinct
    have second : applyAllKeyed key (head ++ addLeft ++ keep ++ tail)
        (inserts (head.length + addLeft.length + keep.length) addRight) =
        head ++ addLeft ++ keep ++ addRight ++ tail := by
      have all := applyAllKeyed_inserts key distinctTable
      simpa [Nat.add_assoc] using all
    have last : applyAllKeyed key ((head ++ addLeft) ++ keep ++ (addRight ++ tail))
        (sets (head ++ addLeft).length keep kept) = (head ++ addLeft) ++ kept ++ (addRight ++ tail) ↔
        Settles key kept keep :=
      applyAllKeyed_sets_iff key sameLength (by simpa using distinctTable)
        (by simpa using distinctAfter)
    rw [first, second, and_iff_right fresh]
    simpa using last
  · refine iff_of_false ?_ (fun settled => fresh settled.1)
    intro result
    have total := congrArg length result
    rw [length_applyAllKeyed_sets] at total
    push Not at fresh
    obtain ⟨row, member, taken⟩ := fresh
    have inTable : key row ∈ (head ++ keep ++ tail).map key := by
      rw [map_append, map_append]
      exact mem_append_left _ (mem_append_right _ taken)
    have firstBound := length_applyAllKeyed_inserts_le key (head ++ keep ++ tail) addLeft head.length
    rcases mem_append.mp member with left | right
    · have short := length_applyAllKeyed_inserts_lt key head.length left inTable
      have bound := length_applyAllKeyed_inserts_le key
        (applyAllKeyed key (head ++ keep ++ tail) (inserts head.length addLeft)) addRight
        (head.length + addLeft.length + keep.length)
      simp only [length_append] at total short bound
      omega
    · have kept := mem_keys_applyAllKeyed_inserts key addLeft head.length inTable
      have short := length_applyAllKeyed_inserts_lt key
        (head.length + addLeft.length + keep.length) right kept
      simp only [length_append] at total short firstBound
      omega

end Keyed

end VectorDiff

end Collections
