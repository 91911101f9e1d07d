import Mathlib

namespace Collections

open Std Option List ExtTreeMap Function

/-!
# Ordered maps, ordered sets and two-level maps

An ordered map is a finite map whose keys are enumerated in key order; two
maps with the same lookups are equal.  A two-level map keeps one inner map per
outer key.  It is read through `NestedMap.lookup`, so a client need not know
whether an absent entry is a missing outer key or a missing inner one.

Two facts about the representation are kept apart from the lookups.  `removeAt`
drops an outer key with its last inner entry, and `NoEmptyInner` says that no
outer key is left with an empty inner map.
-/

/-- A finite map ordered by its keys. -/
abbrev OrdMap (κ : Type) (ν : Type) [Ord κ] := Std.ExtTreeMap κ ν compare

/-- A finite set ordered by its elements. -/
abbrev OrdSet (κ : Type) [Ord κ] := Std.ExtTreeSet κ compare

/-- One inner ordered map for each outer key. -/
abbrev NestedMap (κ ι ν : Type) [Ord κ] [Ord ι] := OrdMap κ (OrdMap ι ν)

set_option linter.unusedSectionVars false

variable {κ ι ν : Type} [Ord κ] [Std.TransOrd κ] [Std.LawfulEqOrd κ]
  [Ord ι] [Std.TransOrd ι] [Std.LawfulEqOrd ι]

namespace OrdSet

/-- Membership in a set built from a list is membership in the list. -/
@[simp] theorem mem_ofList [DecidableEq κ] {values : List κ} {value : κ} :
    value ∈ (ExtTreeSet.ofList values : OrdSet κ) ↔ value ∈ values := by
  simp

/-- Insertion, with the comparison of elements as an equation. -/
theorem mem_insert_iff {set : OrdSet κ} {value value' : κ} :
    value' ∈ set.insert value ↔ value' = value ∨ value' ∈ set := by
  rw [ExtTreeSet.mem_insert, Std.compare_eq_iff_eq, eq_comm]

theorem mem_filter_iff {set : OrdSet κ} {keep : κ -> Bool} {value : κ} :
    value ∈ set.filter keep ↔ value ∈ set ∧ keep value = true := by
  rw [ExtTreeSet.mem_filter]
  simp only [ExtTreeSet.get_eq, exists_prop]

theorem nodup_toList (set : OrdSet κ) : set.toList.Nodup := by
  refine (ExtTreeSet.distinct_toList (t := set)).imp ?_
  rintro left right different rfl
  exact different Std.ReflCmp.compare_self

/-- The elements are listed in order. -/
theorem sorted_toList (set : OrdSet κ) :
    set.toList.Pairwise (fun left right => (compare left right).isLE = true) := by
  refine (ExtTreeSet.ordered_toList (t := set)).imp ?_
  intro left right before
  simp [before]

/-- A list is as long as its set exactly when it repeats nothing. -/
theorem size_ofList_eq_length_iff [DecidableEq κ] {values : List κ} :
    (ExtTreeSet.ofList values : OrdSet κ).size = values.length ↔ values.Nodup := by
  have sameMembers : (ExtTreeSet.ofList values : OrdSet κ).toList.Perm values.dedup := by
    apply (perm_ext_iff_of_nodup (nodup_toList _) (nodup_dedup values)).mpr
    intro value
    rw [ExtTreeSet.mem_toList, mem_ofList, mem_dedup]
  rw [← ExtTreeSet.length_toList, sameMembers.length_eq]
  constructor
  · intro sameLength
    exact dedup_eq_self.mp ((dedup_sublist values).eq_of_length sameLength)
  · intro nodup
    rw [dedup_eq_self.mpr nodup]

end OrdSet

namespace OrdMap

variable {map : OrdMap κ ν}

/-- A key is present exactly when its lookup answers. -/
theorem mem_iff_exists {key : κ} : key ∈ map ↔ ∃ value, map[key]? = some value := by
  rw [mem_iff_isSome_getElem?, isSome_iff_exists]

theorem not_mem_iff {key : κ} : key ∉ map ↔ map[key]? = none := by
  rw [mem_iff_isSome_getElem?, not_isSome_iff_eq_none]

variable (map : OrdMap κ ν)

/-- Insertion, with the comparison of keys as an equation. -/
theorem getElem?_insert_ite [DecidableEq κ] (key : κ) (value : ν) (key' : κ) :
    (map.insert key value)[key']? = if key = key' then some value else map[key']? := by
  rw [ExtTreeMap.getElem?_insert]
  simp only [Std.compare_eq_iff_eq]

theorem getElem?_erase_ite [DecidableEq κ] (key key' : κ) :
    (map.erase key)[key']? = if key = key' then none else map[key']? := by
  rw [ExtTreeMap.getElem?_erase]
  simp only [Std.compare_eq_iff_eq]

/-- Insertion as a pointwise update of the lookup function. -/
theorem getElem?_insert_update [DecidableEq κ] (key : κ) (value : ν) (key' : κ) :
    (map.insert key value)[key']? = update (fun key => map[key]?) key (some value) key' := by
  simp only [getElem?_insert_ite, update_apply, eq_comm]

theorem getElem?_erase_update [DecidableEq κ] (key key' : κ) :
    (map.erase key)[key']? = update (fun key => map[key]?) key none key' := by
  simp only [getElem?_erase_ite, update_apply, eq_comm]

section Elsewhere

variable {map} {key key' : κ} (different : key ≠ key')
include different

theorem getElem?_insert_of_ne {value : ν} : (map.insert key value)[key']? = map[key']? := by
  rw [ExtTreeMap.getElem?_insert, if_neg (by simpa using different)]

theorem getElem?_erase_of_ne : (map.erase key)[key']? = map[key']? := by
  rw [ExtTreeMap.getElem?_erase, if_neg (by simpa using different)]

end Elsewhere

section Lookup

variable {map} {key key' : κ} {found : ν}

/-- What is found after an insertion was inserted, or stands elsewhere and was there before. -/
theorem getElem?_insert_cases {value : ν} (lookup : (map.insert key value)[key']? = some found) :
    key = key' ∧ value = found ∨ key ≠ key' ∧ map[key']? = some found := by
  by_cases same : key = key'
  · subst same
    exact .inl ⟨rfl, by simpa using lookup⟩
  · exact .inr ⟨same, (getElem?_insert_of_ne same).symm.trans lookup⟩

theorem getElem?_erase_cases (lookup : (map.erase key)[key']? = some found) :
    key ≠ key' ∧ map[key']? = some found := by
  by_cases same : key = key'
  · subst same
    simp at lookup
  · exact ⟨same, (getElem?_erase_of_ne same).symm.trans lookup⟩

end Lookup

/-- A filter that reads only the key keeps a lookup or drops it. -/
theorem getElem?_filter_key {keep : κ -> Bool} {key : κ} :
    (map.filter (fun candidate _ => keep candidate))[key]? = if keep key then map[key]? else none := by
  rw [ExtTreeMap.getElem?_filter']
  cases found : map[key]? <;> cases keep key <;> simp

/-- The map that sends each listed key to a value computed from it. -/
def ofKeys (keys : List κ) (value : κ -> ν) : OrdMap κ ν :=
  keys.foldl (fun map key => map.insert key (value key)) ∅

theorem getElem?_ofKeys [DecidableEq κ] (keys : List κ) (value : κ -> ν) (key : κ) :
    (ofKeys keys value)[key]? = if key ∈ keys then some (value key) else none := by
  suffices general : forall map : OrdMap κ ν,
      (keys.foldl (fun map key => map.insert key (value key)) map)[key]? =
        if key ∈ keys then some (value key) else map[key]? by
    simpa [ofKeys] using general ∅
  induction keys with
  | nil => simp
  | cons head rest ih =>
    intro map
    rw [foldl_cons, ih]
    by_cases later : key ∈ rest
    · simp [later]
    · by_cases same : key = head
      · simp [same]
      · have different : head ≠ key := fun equal => same equal.symm
        simp [later, same, ExtTreeMap.getElem?_insert, different]

end OrdMap

namespace NestedMap

variable (map : NestedMap κ ι ν)

/-- The inner entry below an outer key. -/
def lookup (outer : κ) (inner : ι) : Option ν :=
  map[outer]?.bind (fun entries => entries[inner]?)

/-- Insert below an outer key, creating its inner map when there is none. -/
def insertAt (outer : κ) (inner : ι) (value : ν) : NestedMap κ ι ν :=
  map.insert outer ((map.getD outer ∅).insert inner value)

/-- Remove below an outer key; the outer key goes with its last entry. -/
def removeAt (outer : κ) (inner : ι) : NestedMap κ ι ν :=
  match map[outer]? with
  | none => map
  | some entries =>
    let remaining := entries.erase inner
    if remaining.isEmpty then map.erase outer else map.insert outer remaining

/-- Keep the outer keys that pass a test and whose inner map is inhabited. -/
def retainOuter (keep : κ -> Bool) : NestedMap κ ι ν :=
  map.filter (fun outer entries => keep outer && !entries.isEmpty)

/-- All two-level keys, in lexicographic order. -/
def pairs : List (κ × ι) :=
  map.toList.flatMap (fun entry => entry.2.keys.map (fun inner => (entry.1, inner)))

/-- The two-level map that sends each listed pair to a value computed from it. -/
def ofPairs (keys : List (κ × ι)) (value : κ × ι -> ν) : NestedMap κ ι ν :=
  keys.foldl (fun map key => insertAt map key.1 key.2 (value key)) ∅

/-- Select and convert the entries, creating an outer key only for a selected entry. -/
def filterMapInner {ω : Type} (map : NestedMap κ ι ν) (select : κ -> ι -> ν -> Option ω) : NestedMap κ ι ω :=
  map.filterMap (fun outer entries =>
    let selected : OrdMap ι ω := entries.filterMap (select outer)
    if selected.isEmpty then none else some selected)

/-- No outer key holds an empty inner map. -/
def NoEmptyInner : Prop :=
  forall (outer : κ) (entries : OrdMap ι ν), map[outer]? = some entries -> entries ≠ ∅

variable {inner : ι} {outer : κ}

@[simp] theorem lookup_empty : lookup (∅ : NestedMap κ ι ν) outer inner = none := by
  simp [lookup]

variable {outer outer' : κ}

theorem lookup_insertAt [DecidableEq κ] [DecidableEq ι] (inner inner' : ι) (value : ν) :
    lookup (insertAt map outer inner value) outer' inner' =
      if outer = outer' ∧ inner = inner' then some value else lookup map outer' inner' := by
  unfold lookup insertAt
  by_cases sameOuter : outer = outer'
  · subst sameOuter
    cases found : map[outer]? with
    | none =>
      by_cases sameInner : inner = inner' <;>
        simp [ExtTreeMap.getD_eq_getD_getElem?, found, sameInner]
    | some entries =>
      by_cases sameInner : inner = inner' <;>
        simp [ExtTreeMap.getElem?_insert, ExtTreeMap.getD_eq_getD_getElem?, found, sameInner]
  · simp [ExtTreeMap.getElem?_insert, sameOuter]

/-- Dropping an empty inner map hides no entry. -/
theorem bind_getElem?_filter (found : Option (OrdMap ι ν)) :
    (found.filter (fun entries => !entries.isEmpty)).bind (fun entries => entries[inner]?) =
      found.bind (fun entries => entries[inner]?) := by
  cases found with
  | none => rfl
  | some entries =>
    cases empty : entries.isEmpty with
    | false => simp [Option.filter, empty]
    | true => simp [Option.filter, isEmpty_iff.mp empty]

theorem getElem?_removeAt [DecidableEq κ] : (removeAt map outer inner)[outer']? = if outer = outer' then
        (map[outer]?.map (fun entries => entries.erase inner)).filter (fun entries => !entries.isEmpty)
      else map[outer']? := by
  unfold removeAt
  cases found : map[outer]? with
  | none =>
    by_cases same : outer = outer'
    · simp [← same, found]
    · simp [same]
  | some entries =>
    by_cases emptied : (entries.erase inner).isEmpty = true <;>
      simp [emptied, OrdMap.getElem?_insert_ite, OrdMap.getElem?_erase_ite, Option.filter]

theorem lookup_removeAt [DecidableEq κ] [DecidableEq ι] (inner inner' : ι) : lookup (removeAt map outer inner) outer' inner' =
      if outer = outer' ∧ inner = inner' then none else lookup map outer' inner' := by
  rw [lookup, getElem?_removeAt]
  by_cases sameOuter : outer = outer'
  · subst sameOuter
    rw [if_pos rfl, bind_getElem?_filter, lookup]
    cases map[outer]? <;> simp [OrdMap.getElem?_erase_ite]
  · simp [lookup, sameOuter]

variable {key : κ × ι}

/-- An update at a pair, read at another pair. -/
theorem update_pair_apply [DecidableEq κ] [DecidableEq ι] (values : κ × ι -> Option ν) (value : Option ν) : update values (outer, inner) value key =
      if outer = key.1 ∧ inner = key.2 then value else values key := by
  rw [update_apply]
  exact if_congr (by rw [eq_comm, Prod.ext_iff]) rfl rfl

theorem lookup_insertAt_update [DecidableEq κ] [DecidableEq ι] (value : ν) :
    lookup (insertAt map outer inner value) key.1 key.2 =
      update (fun key : κ × ι => lookup map key.1 key.2) (outer, inner) (some value) key := by
  rw [lookup_insertAt, update_pair_apply]

theorem lookup_removeAt_update [DecidableEq κ] [DecidableEq ι] : lookup (removeAt map outer inner) key.1 key.2 =
      update (fun key : κ × ι => lookup map key.1 key.2) (outer, inner) none key := by
  rw [lookup_removeAt, update_pair_apply]

theorem lookup_retainOuter (keep : κ -> Bool) (outer : κ) (inner : ι) :
    lookup (retainOuter map keep) outer inner = if keep outer then lookup map outer inner else none := by
  unfold lookup retainOuter
  rw [ExtTreeMap.getElem?_filter']
  cases keep outer with
  | false => cases map[outer]? <;> rfl
  | true =>
    simp only [Bool.true_and, if_true]
    exact bind_getElem?_filter _

theorem lookup_ofPairs [DecidableEq κ] [DecidableEq ι] (keys : List (κ × ι)) (value : κ × ι -> ν)
    (outer : κ) (inner : ι) : lookup (ofPairs keys value) outer inner =
      if (outer, inner) ∈ keys then some (value (outer, inner)) else none := by
  suffices general : forall map : NestedMap κ ι ν,
      lookup (keys.foldl (fun map key => insertAt map key.1 key.2 (value key)) map) outer inner =
        if (outer, inner) ∈ keys then some (value (outer, inner)) else lookup map outer inner by
    simpa [ofPairs] using general ∅
  induction keys with
  | nil => simp
  | cons head rest ih =>
    intro map
    rw [foldl_cons, ih]
    by_cases later : (outer, inner) ∈ rest
    · simp [later]
    · rw [if_neg later, lookup_insertAt]
      by_cases same : (outer, inner) = head
      · subst same
        simp
      · have different : ¬(head.1 = outer ∧ head.2 = inner) :=
          fun equal => same (Prod.ext equal.1.symm equal.2.symm)
        simp [later, same, different]

theorem lookup_filterMapInner {ω : Type} (select : κ -> ι -> ν -> Option ω) (outer : κ) (inner : ι) :
    lookup (filterMapInner map select) outer inner = (lookup map outer inner).bind (select outer inner) := by
  unfold lookup filterMapInner
  rw [ExtTreeMap.getElem?_filterMap']
  cases found : map[outer]? with
  | none => rfl
  | some entries =>
    simp only [bind_some]
    split
    · next empty =>
      rw [← ExtTreeMap.getElem?_filterMap', isEmpty_iff.mp empty]
      simp
    · rw [bind_some, ExtTreeMap.getElem?_filterMap']

variable {map : NestedMap κ ι ν}

/-- The enumerated pairs are exactly the two-level keys that answer. -/
theorem mem_pairs {outer : κ} {inner : ι} :
    (outer, inner) ∈ pairs map ↔ (lookup map outer inner).isSome = true := by
  simp only [pairs, List.mem_flatMap, List.mem_map, Prod.mk.injEq, lookup]
  constructor
  · rintro ⟨⟨key, entries⟩, listed, inner', member, rfl, rfl⟩
    have found := mem_toList_iff_getElem?_eq_some.mp listed
    have present := mem_keys.mp member
    rw [found]
    exact mem_iff_isSome_getElem?.mp present
  · intro answered
    obtain ⟨value, answer⟩ := isSome_iff_exists.mp answered
    obtain ⟨entries, found, at_inner⟩ := bind_eq_some_iff.mp answer
    refine ⟨(outer, entries), mem_toList_iff_getElem?_eq_some.mpr found, inner, ?_, rfl, rfl⟩
    exact mem_keys.mpr (OrdMap.mem_iff_exists.mpr ⟨value, at_inner⟩)

/-- A two-level key is enumerated once. -/
theorem nodup_pairs : (pairs map).Nodup := by
  rw [pairs, List.nodup_flatMap]
  constructor
  · rintro ⟨outer, entries⟩ _
    exact entries.nodup_keys.map (fun _ _ equal => (Prod.mk.inj equal).2)
  · refine (distinct_keys_toList (t := map)).imp ?_
    intro first second different
    simp only [onFun, List.disjoint_left, List.mem_map, not_exists, not_and]
    rintro pair ⟨inner, _, rfl⟩ inner' _ equal
    exact different (by simp [(Prod.mk.inj equal).1])

theorem noEmptyInner_empty : NoEmptyInner (∅ : NestedMap κ ι ν) := by
  intro outer entries found
  simp at found

theorem noEmptyInner_insertAt [DecidableEq κ] (inhabited : NoEmptyInner map) (value : ν) : NoEmptyInner (insertAt map outer inner value) := by
  intro outer' entries found
  rcases OrdMap.getElem?_insert_cases found with ⟨_, rfl⟩ | ⟨_, before⟩
  · exact insert_ne_empty
  · exact inhabited outer' entries before

theorem noEmptyInner_removeAt [DecidableEq κ] (inhabited : NoEmptyInner map) : NoEmptyInner (removeAt map outer inner) := by
  intro outer' entries found
  rw [getElem?_removeAt] at found
  split at found
  · rintro rfl
    simp [Option.filter_eq_some_iff] at found
  · exact inhabited outer' entries found

theorem noEmptyInner_ofPairs [DecidableEq κ] (keys : List (κ × ι)) (value : κ × ι -> ν) :
    NoEmptyInner (ofPairs keys value) :=
  List.foldlRecOn keys _ noEmptyInner_empty (fun _ inhabited _ _ => noEmptyInner_insertAt inhabited _)

theorem noEmptyInner_filterMapInner {ω : Type} (select : κ -> ι -> ν -> Option ω) :
    NoEmptyInner (filterMapInner map select) := by
  intro outer entries found
  rw [filterMapInner, ExtTreeMap.getElem?_filterMap'] at found
  obtain ⟨current, _, selected⟩ := bind_eq_some_iff.mp found
  simp only at selected
  split at selected
  · cases selected
  · next inhabited =>
    cases selected
    exact fun empty => inhabited (isEmpty_iff.mpr empty)

theorem noEmptyInner_retainOuter (keep : κ -> Bool) : NoEmptyInner (retainOuter map keep) := by
  intro outer entries found
  rw [retainOuter, ExtTreeMap.getElem?_filter', filter_eq_some_iff] at found
  obtain ⟨_, kept⟩ := found
  intro empty
  simp [empty] at kept

end NestedMap

end Collections
