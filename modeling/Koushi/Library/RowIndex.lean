import Koushi.Library.NestedMap

namespace Collections

open List

/-!
# An index of places

A table of rows with distinct keys is often kept with a map from each key to the
place of its row.  The map is exact when it finds the key at its place and
nothing else.  An edit of the rows renumbers the places from the edit on; the
lemmas below say that this is enough.
-/

set_option linter.unusedSectionVars false

variable {κ : Type} [Ord κ] [Std.TransOrd κ] [Std.LawfulEqOrd κ] [DecidableEq κ]

/-- The index finds each key at its place and nothing else. -/
def IndexExact (keys : List κ) (index : OrdMap κ Nat) : Prop :=
  ∀ (key : κ) (place : Nat), index[key]? = some place ↔ keys[place]? = some key

/-- Number the keys from a place on. -/
def numberFrom (index : OrdMap κ Nat) (place : Nat) : List κ -> OrdMap κ Nat
  | [] => index
  | key :: rest => numberFrom (index.insert key place) (place + 1) rest

namespace IndexExact

variable {keys left right : List κ} {index : OrdMap κ Nat} {key : κ}

/-- An exact index is one of distinct keys. -/
theorem nodup (exact : IndexExact keys index) : keys.Nodup := by
  rw [nodup_iff_injective_get]
  intro first second same
  have atFirst := (exact (keys.get first) first).mpr (by simp)
  have atSecond := (exact (keys.get first) second).mpr (by rw [same]; simp)
  rw [atFirst] at atSecond
  exact Fin.ext (Option.some.inj atSecond)

theorem mem_iff (exact : IndexExact keys index) : key ∈ index ↔ key ∈ keys := by
  rw [OrdMap.mem_iff_exists, mem_iff_getElem?]
  constructor
  · rintro ⟨place, found⟩
    exact ⟨place, (exact key place).mp found⟩
  · rintro ⟨place, stands⟩
    exact ⟨place, (exact key place).mpr stands⟩

/-- The index is the search for a key. -/
theorem getElem?_eq_idxOf? (exact : IndexExact keys index) : index[key]? = keys.idxOf? key := by
  cases found : keys.idxOf? key with
  | none =>
    rw [← OrdMap.not_mem_iff, exact.mem_iff]
    exact idxOf?_eq_none_iff.mp found
  | some place =>
    obtain ⟨bound, value, -⟩ := idxOf?_eq_some_iff.mp found
    exact (exact key place).mpr (List.getElem?_eq_some_iff.mpr ⟨bound, value⟩)

end IndexExact

/-- The empty table has the empty index. -/
theorem indexExact_nil : IndexExact ([] : List κ) ∅ := by
  intro key place
  simp

variable {keys left right : List κ} {index : OrdMap κ Nat} {key : κ}

/-- Renumbering a block reads the block first and the old index elsewhere. -/
theorem getElem?_numberFrom (distinct : keys.Nodup) (place : Nat) (found : Nat) :
    (numberFrom index place keys)[key]? = some found ↔
      (∃ offset, keys[offset]? = some key ∧ found = place + offset) ∨
        (key ∉ keys ∧ index[key]? = some found) := by
  induction keys generalizing index place with
  | nil => simp [numberFrom]
  | cons first rest ih =>
    rw [nodup_cons] at distinct
    rw [numberFrom, ih distinct.2, OrdMap.getElem?_insert_ite]
    by_cases same : first = key
    · subst same
      rw [if_pos rfl]
      constructor
      · rintro (⟨offset, stands, -⟩ | ⟨-, written⟩)
        · exact absurd (mem_of_getElem? stands) distinct.1
        · exact .inl ⟨0, rfl, by simpa using written.symm⟩
      · rintro (⟨offset, stands, rfl⟩ | ⟨outside, -⟩)
        · cases offset with
          | zero => exact .inr ⟨distinct.1, rfl⟩
          | succ offset =>
            rw [getElem?_cons_succ] at stands
            exact absurd (mem_of_getElem? stands) distinct.1
        · exact absurd mem_cons_self outside
    · rw [if_neg same, mem_cons, not_or]
      refine or_congr ⟨?_, ?_⟩ (by simp [Ne.symm same])
      · rintro ⟨offset, stands, rfl⟩
        exact ⟨offset + 1, stands, by omega⟩
      · rintro ⟨offset, stands, rfl⟩
        cases offset with
        | zero => exact absurd (Option.some.inj stands) same
        | succ offset => exact ⟨offset, stands, by omega⟩

/-- An index that is right on the left block becomes exact by numbering the
right one. -/
theorem indexExact_numberFrom (distinct : (left ++ right).Nodup)
    (onLeft : ∀ key ∉ right, ∀ place, index[key]? = some place ↔ left[place]? = some key) :
    IndexExact (left ++ right) (numberFrom index left.length right) := by
  intro key place
  rw [getElem?_numberFrom (Nodup.of_append_right distinct)]
  have apart : ∀ key ∈ left, key ∉ right := fun key inLeft inRight =>
    (nodup_append.mp distinct).2.2 key inLeft key inRight rfl
  constructor
  · rintro (⟨offset, stands, rfl⟩ | ⟨outside, found⟩)
    · rw [getElem?_append_right (by omega)]
      simpa using stands
    · have stands := (onLeft key outside place).mp found
      obtain ⟨bound, -⟩ := List.getElem?_eq_some_iff.mp stands
      rwa [getElem?_append_left bound]
  · intro stands
    by_cases bound : place < left.length
    · rw [getElem?_append_left bound] at stands
      have outside := apart key (mem_of_getElem? stands)
      exact .inr ⟨outside, (onLeft key outside place).mpr stands⟩
    · rw [getElem?_append_right (by omega)] at stands
      exact .inl ⟨place - left.length, stands, by omega⟩

/-- Numbering everything from an empty index. -/
theorem indexExact_ofKeys (distinct : keys.Nodup) : IndexExact keys (numberFrom ∅ 0 keys) := by
  have numbered : IndexExact ([] ++ keys) (numberFrom ∅ ([] : List κ).length keys) :=
    indexExact_numberFrom (by simpa using distinct) (by simp)
  simpa using numbered

namespace IndexExact

/-- In an exact index of two blocks, a key outside the right block is on the left. -/
theorem onLeft (exact : IndexExact (left ++ right) index) (outside : key ∉ right) (place : Nat) :
    index[key]? = some place ↔ left[place]? = some key := by
  rw [exact key place]
  by_cases bound : place < left.length
  · rw [getElem?_append_left bound]
  · rw [getElem?_append_right (by omega), (getElem?_eq_none (by omega) : left[place]? = none)]
    refine iff_of_false ?_ (by simp)
    exact fun stands => outside (mem_of_getElem? stands)

/-- A new key in the middle: number from it on. -/
theorem insert (exact : IndexExact (left ++ right) index) (fresh : key ∉ left ++ right) :
    IndexExact (left ++ key :: right) (numberFrom index left.length (key :: right)) := by
  apply indexExact_numberFrom
  · exact nodup_middle.mpr (nodup_cons.mpr ⟨fresh, exact.nodup⟩)
  · intro other outside place
    rw [mem_cons, not_or] at outside
    exact exact.onLeft outside.2 place

/-- A key taken out of the middle: forget it and number from its place on. -/
theorem remove (exact : IndexExact (left ++ key :: right) index) :
    IndexExact (left ++ right) (numberFrom (index.erase key) left.length right) := by
  have distinct := nodup_cons.mp (nodup_middle.mp exact.nodup)
  apply indexExact_numberFrom distinct.2
  intro other outside place
  rw [OrdMap.getElem?_erase_ite]
  by_cases same : key = other
  · subst same
    refine iff_of_false (by simp) ?_
    exact fun stands => distinct.1 (mem_append_left _ (mem_of_getElem? stands))
  · rw [if_neg same]
    refine exact.onLeft ?_ place
    rw [mem_cons, not_or]
    exact ⟨Ne.symm same, outside⟩

/-- A key replaced in the middle: forget the old one and enter the new one. -/
theorem replace {old : κ} (exact : IndexExact (left ++ old :: right) index)
    (fresh : key ∉ left ++ right) :
    IndexExact (left ++ key :: right) ((index.erase old).insert key left.length) := by
  have atOld : index[old]? = some left.length := (exact old left.length).mpr (by simp)
  -- the new key was nowhere, or it is the old one
  have absent : ∀ place, left.length ≠ place -> index[key]? ≠ some place := by
    intro place elsewhere found
    have member := mem_of_getElem? ((exact key place).mp found)
    rw [mem_append, mem_cons] at member
    rw [mem_append, not_or] at fresh
    have same : key = old := (member.resolve_left fresh.1).resolve_right fresh.2
    rw [same, atOld] at found
    exact elsewhere (Option.some.inj found)
  have written : left ++ key :: right = (left ++ old :: right).set left.length key := by simp
  intro other place
  rw [written, getElem?_set, OrdMap.getElem?_insert_ite, OrdMap.getElem?_erase_ite]
  by_cases atPlace : left.length = place
  · subst atPlace
    rw [if_pos rfl, if_pos (show left.length < (left ++ old :: right).length by simp)]
    split
    · next same => simp [same]
    · next different =>
      refine iff_of_false ?_ (by simpa using different)
      split
      · simp
      · next kept =>
        rw [exact]
        simpa using kept
  · rw [if_neg atPlace, ← exact other place]
    split
    · next same =>
      subst same
      exact iff_of_false (by simpa using atPlace) (absent place atPlace)
    · split
      · next forgotten =>
        subst forgotten
        rw [atOld]
        exact iff_of_false (by simp) (by simpa using atPlace)
      · rfl

end IndexExact

end Collections
