import Koushi.Timeline.DisplayItems

namespace Koushi

open Collections VectorDiff NestedMap List

/-!
# The desktop's timeline rows

The desktop keeps the rows of a timeline with two indexes: the place of every
item id, and the item ids of every timestamp.  Diffs are applied to the rows and
the indexes together.  A row whose item id is already there is not inserted
again, and a replacement goes to the row that has the item id.

`IndexedTimelineItems.Exact` says that both indexes describe the rows.  It is
kept by every diff, and under it the rows change as those of a table keyed by
item id.
-/

structure IndexedTimelineItems where
  items : List TimelineItem
  itemIndexById : OrdMap String Nat
  itemIdsByTimestamp : NestedMap Nat String Unit

/-- The item id of a row, as the desktop writes it. -/
def domId (item : TimelineItem) : String := timelineItemDomId item.id

def addTimestampIndex (itemIdsByTimestamp : NestedMap Nat String Unit) (item : TimelineItem) :
    NestedMap Nat String Unit :=
  match item.timestampMs with
  | none => itemIdsByTimestamp
  | some timestamp => NestedMap.insertAt itemIdsByTimestamp timestamp (domId item) ()

def removeTimestampIndex (itemIdsByTimestamp : NestedMap Nat String Unit) (item : TimelineItem) :
    NestedMap Nat String Unit :=
  match item.timestampMs with
  | none => itemIdsByTimestamp
  | some timestamp => NestedMap.removeAt itemIdsByTimestamp timestamp (domId item)

def reindexItemsFrom (items : List TimelineItem) (itemIndexById : OrdMap String Nat)
    (startIndex : Nat) : OrdMap String Nat :=
  numberFrom itemIndexById startIndex ((items.drop startIndex).map domId)

/-- One turn of the loop over a list of rows. -/
def IndexedTimelineItems.append (result : IndexedTimelineItems) (item : TimelineItem) :
    IndexedTimelineItems :=
  if result.itemIndexById.contains (domId item) then result
  else
    { items := result.items ++ [item]
      itemIndexById := result.itemIndexById.insert (domId item) result.items.length
      itemIdsByTimestamp := addTimestampIndex result.itemIdsByTimestamp item }

/-- The rows of a list whose item ids did not occur before, with their indexes. -/
def indexedTimelineItems (items : List TimelineItem) : IndexedTimelineItems :=
  items.foldl IndexedTimelineItems.append ⟨[], ∅, ∅⟩

variable (store : IndexedTimelineItems)

def insertTimelineItem (item : TimelineItem) (preferredIndex : Nat) : IndexedTimelineItems :=
  if store.itemIndexById.contains (domId item) then store
  else
    let insertIndex := min preferredIndex store.items.length
    let items := store.items.insertIdx insertIndex item
    { items := items
      itemIndexById := reindexItemsFrom items store.itemIndexById insertIndex
      itemIdsByTimestamp := addTimestampIndex store.itemIdsByTimestamp item }

def setTimelineItem (index : Nat) (item : TimelineItem) : IndexedTimelineItems :=
  match store.items[index]? with
  | none => store
  | some previous =>
    let id := domId item
    -- The row at an index, written over in place.
    let write (place : Nat) (replaced : TimelineItem) (itemIndexById : OrdMap String Nat) :
        IndexedTimelineItems :=
      { items := store.items.set place item
        itemIndexById := itemIndexById.insert id place
        itemIdsByTimestamp :=
          addTimestampIndex (removeTimestampIndex store.itemIdsByTimestamp replaced) item }
    match (store.itemIndexById[id]?).filter (fun existingIndex => existingIndex ≠ index) with
    | some existingIndex =>
      match store.items[existingIndex]? with
      | some existing => write existingIndex existing store.itemIndexById
      | none => store
    | none =>
      let previousId := domId previous
      write index previous
        (if previousId ≠ id then store.itemIndexById.erase previousId else store.itemIndexById)

def removeTimelineItemAt (index : Nat) : IndexedTimelineItems :=
  match store.items[index]? with
  | none => store
  | some removed =>
    let items := store.items.eraseIdx index
    { items := items
      itemIndexById := reindexItemsFrom items (store.itemIndexById.erase (domId removed)) index
      itemIdsByTimestamp := removeTimestampIndex store.itemIdsByTimestamp removed }

def applyDiffForRender : TimelineDiff -> IndexedTimelineItems
  | .clear => ⟨[], ∅, ∅⟩
  | .pushFront item => insertTimelineItem store item 0
  | .pushBack item => insertTimelineItem store item store.items.length
  | .insert index item => insertTimelineItem store item index
  | .set index item => setTimelineItem store index item
  | .remove index => removeTimelineItemAt store index
  | .truncate length => indexedTimelineItems (store.items.take length)
  | .reset items => indexedTimelineItems items

def applyDiffsForRender (diffs : List TimelineDiff) : IndexedTimelineItems :=
  diffs.foldl applyDiffForRender store

/-! ## Exact indexes -/

/-- Both indexes describe the rows. -/
structure IndexedTimelineItems.Exact (store : IndexedTimelineItems) : Prop where
  places : IndexExact (store.items.map domId) store.itemIndexById
  timestamps : ∀ timestamp id,
    NestedMap.lookup store.itemIdsByTimestamp timestamp id = some () ↔
      ∃ item ∈ store.items, item.timestampMs = some timestamp ∧ domId item = id

variable {id : String} {index : NestedMap Nat String Unit}

theorem lookup_addTimestampIndex (item : TimelineItem)
    (timestamp : Nat) : lookup (addTimestampIndex index item) timestamp id = some () ↔
      (item.timestampMs = some timestamp ∧ domId item = id) ∨ lookup index timestamp id = some () := by
  unfold addTimestampIndex
  cases at_ : item.timestampMs with
  | none => simp
  | some own =>
    simp only [lookup_insertAt, Option.some.injEq]
    split <;> simp_all

theorem lookup_removeTimestampIndex (item : TimelineItem)
    (timestamp : Nat) : lookup (removeTimestampIndex index item) timestamp id = some () ↔
      ¬(item.timestampMs = some timestamp ∧ domId item = id) ∧ lookup index timestamp id = some () := by
  unfold removeTimestampIndex
  cases at_ : item.timestampMs with
  | none => simp
  | some own =>
    simp only [lookup_removeAt, Option.some.injEq]
    split <;> simp_all

namespace IndexedTimelineItems

variable {store : IndexedTimelineItems}

/-- The item ids of an exact store are distinct. -/
theorem Exact.nodup (exact : store.Exact) : (store.items.map domId).Nodup := exact.places.nodup

theorem exact_empty : Exact ⟨[], ∅, ∅⟩ where
  places := indexExact_nil
  timestamps := by simp

/-- A lookup in the index of places is a search of the rows. -/
theorem Exact.contains_iff (exact : store.Exact) (item : TimelineItem) :
    store.itemIndexById.contains (domId item) = true ↔ domId item ∈ store.items.map domId := by
  exact exact.places.mem_iff

/-! ### Insertion -/

/-- A fresh row between two blocks. -/
theorem Exact.insert_between {left right : List TimelineItem} {index : OrdMap String Nat}
    {timestamps : NestedMap Nat String Unit} {item : TimelineItem}
    (exact : Exact ⟨left ++ right, index, timestamps⟩) (fresh : domId item ∉ (left ++ right).map domId) :
    Exact ⟨left ++ item :: right, numberFrom index left.length ((item :: right).map domId),
      addTimestampIndex timestamps item⟩ where
  places := by
    have places := exact.places
    rw [map_append] at places fresh
    simpa using places.insert fresh
  timestamps := by
    intro timestamp id
    rw [lookup_addTimestampIndex]
    have before := exact.timestamps timestamp id
    grind

/-- An insertion keeps the indexes and inserts as into a table keyed by item id. -/
theorem Exact.insertTimelineItem (exact : store.Exact) (item : TimelineItem) (preferredIndex : Nat) :
    (insertTimelineItem store item preferredIndex).Exact ∧
      (Koushi.insertTimelineItem store item preferredIndex).items =
        insertRow domId store.items preferredIndex item := by
  rw [Koushi.insertTimelineItem, insertRow]
  by_cases taken : domId item ∈ store.items.map domId
  · rw [if_pos ((exact.contains_iff item).mpr taken), if_pos taken]
    exact ⟨exact, rfl⟩
  · rw [if_neg (fun found => taken ((exact.contains_iff item).mp found)), if_neg taken]
    refine ⟨?_, rfl⟩
    obtain ⟨items, index, timestamps⟩ := store
    dsimp only at taken ⊢
    -- Read the rows as the block before the place and the block from it on.
    obtain ⟨left, right, rfl, place⟩ : ∃ left right, items = left ++ right ∧
        min preferredIndex items.length = left.length :=
      ⟨items.take (min preferredIndex items.length), items.drop (min preferredIndex items.length),
        (take_append_drop _ _).symm, by simp⟩
    rw [place, insertIdx_append_length, reindexItemsFrom, drop_left]
    exact exact.insert_between taken

/-! ### Replacement -/

/-- A row between two blocks, written over by a row that is fresh beside it. -/
theorem Exact.replace_between {left right : List TimelineItem} {index : OrdMap String Nat}
    {timestamps : NestedMap Nat String Unit} {old item : TimelineItem}
    (exact : Exact ⟨left ++ old :: right, index, timestamps⟩)
    (fresh : domId item ∉ (left ++ right).map domId) :
    Exact ⟨left ++ item :: right, (index.erase (domId old)).insert (domId item) left.length,
      addTimestampIndex (removeTimestampIndex timestamps old) item⟩ where
  places := by
    have places := exact.places
    rw [map_append, map_cons] at places
    rw [map_append] at fresh
    simpa using places.replace fresh
  timestamps := by
    intro timestamp id
    have apart := ((nodup_keys_middle domId).mp exact.nodup).1
    rw [lookup_addTimestampIndex, lookup_removeTimestampIndex, exact.timestamps timestamp id]
    grind

/-- A row at a place, written over by a row whose item id is the row's own or
nobody's. -/
theorem Exact.write (exact : store.Exact) {place : Nat} {old item : TimelineItem}
    (stands : store.items[place]? = some old)
    (owner : domId item = domId old ∨ domId item ∉ store.items.map domId) :
    Exact ⟨store.items.set place item, (store.itemIndexById.erase (domId old)).insert (domId item) place,
      addTimestampIndex (removeTimestampIndex store.itemIdsByTimestamp old) item⟩ := by
  obtain ⟨items, index, timestamps⟩ := store
  obtain ⟨left, right, rfl, rfl⟩ := exists_append_of_getElem? stands
  have apart := ((nodup_keys_middle domId).mp exact.nodup).1
  have fresh : domId item ∉ (left ++ right).map domId := by
    rcases owner with same | nobody
    · rwa [same]
    · intro member
      refine nobody ?_
      simp only [map_append, map_cons, mem_append, mem_cons] at member ⊢
      exact member.imp_right .inr
  have written : (left ++ old :: right).set left.length item = left ++ item :: right := by simp
  rw [written]
  exact exact.replace_between fresh

/-- Erasing a key before it is entered again is the same as entering it. -/
theorem erase_insert_self (index : OrdMap String Nat) (place : Nat) :
    (index.erase id).insert id place = index.insert id place := by
  apply Std.ExtTreeMap.ext_getElem?
  intro other
  rw [OrdMap.getElem?_insert_ite, OrdMap.getElem?_insert_ite, OrdMap.getElem?_erase_ite]
  split <;> rfl

/-- A replacement keeps the indexes and replaces as in a table keyed by item id. -/
theorem Exact.setTimelineItem (exact : store.Exact) (index : Nat) (item : TimelineItem) :
    (setTimelineItem store index item).Exact ∧ (Koushi.setTimelineItem store index item).items =
        setRow domId store.items index item := by
  rw [setRow, ← exact.places.getElem?_eq_idxOf?]
  cases atIndex : store.items[index]? with
  | none =>
    have outside : ¬index < store.items.length := by simpa using atIndex
    rw [Koushi.setTimelineItem, atIndex, if_neg outside]
    exact ⟨exact, rfl⟩
  | some previous =>
    obtain ⟨inside, -⟩ := List.getElem?_eq_some_iff.mp atIndex
    rw [if_pos inside]
    cases found : store.itemIndexById[domId item]? with
    | none =>
      -- Nobody has the item id: the row at the index gives way.
      have nobody : domId item ∉ store.items.map domId := by
        rw [← exact.places.mem_iff, OrdMap.not_mem_iff]
        exact found
      have different : domId previous ≠ domId item := by
        intro same
        exact nobody (same ▸ mem_map_of_mem (mem_of_getElem? atIndex))
      simp only [Koushi.setTimelineItem, atIndex, found, Option.filter_none, if_pos different]
      exact ⟨exact.write atIndex (.inr nobody), rfl⟩
    | some place =>
      have stands := (exact.places (domId item) place).mp found
      rw [getElem?_map, Option.map_eq_some_iff] at stands
      obtain ⟨owner, atPlace, same⟩ := stands
      have written := exact.write atPlace (.inl same.symm)
      rw [same, erase_insert_self] at written
      by_cases here : place = index
      · subst here
        rw [atIndex] at atPlace
        cases atPlace
        simp only [Koushi.setTimelineItem, atIndex, found, Option.filter, same, ne_eq,
          not_true_eq_false, decide_false, Bool.false_eq_true, if_false]
        exact ⟨written, rfl⟩
      · -- The owner of the item id is elsewhere and is written over there.
        simp only [Koushi.setTimelineItem, atIndex, found, Option.filter, ne_eq, here,
          not_false_eq_true, decide_true, if_true, atPlace]
        exact ⟨written, rfl⟩

/-! ### Removal -/

/-- A removal keeps the indexes. -/
theorem Exact.removeTimelineItemAt (exact : store.Exact) (index : Nat) :
    (removeTimelineItemAt store index).Exact ∧
      (Koushi.removeTimelineItemAt store index).items = store.items.eraseIdx index := by
  rw [Koushi.removeTimelineItemAt]
  cases atIndex : store.items[index]? with
  | none =>
    have outside : store.items.length ≤ index := by simpa using atIndex
    exact ⟨exact, (eraseIdx_of_length_le outside).symm⟩
  | some removed =>
    refine ⟨?_, rfl⟩
    obtain ⟨items, places, timestamps⟩ := store
    dsimp only at atIndex ⊢
    obtain ⟨left, right, rfl, rfl⟩ := exists_append_of_getElem? atIndex
    have erased : (left ++ removed :: right).eraseIdx left.length = left ++ right := by
      simp [eraseIdx_append_of_length_le]
    have apart := ((nodup_keys_middle domId).mp exact.nodup).1
    rw [erased, reindexItemsFrom, drop_left]
    constructor
    · have before := exact.places
      rw [map_append, map_cons] at before
      simpa using before.remove
    · intro timestamp id
      rw [lookup_removeTimestampIndex, exact.timestamps timestamp id]
      grind

/-! ### A whole list -/

theorem Exact.append (exact : store.Exact) (item : TimelineItem) : (store.append item).Exact ∧
      (store.append item).items =
        if domId item ∈ store.items.map domId then store.items else store.items ++ [item] := by
  rw [IndexedTimelineItems.append]
  by_cases taken : domId item ∈ store.items.map domId
  · rw [if_pos ((exact.contains_iff item).mpr taken), if_pos taken]
    exact ⟨exact, rfl⟩
  · rw [if_neg (fun found => taken ((exact.contains_iff item).mp found)), if_neg taken]
    refine ⟨?_, rfl⟩
    have between : Exact ⟨store.items ++ [], store.itemIndexById, store.itemIdsByTimestamp⟩ := by
      rwa [append_nil]
    exact between.insert_between (by rwa [append_nil])

/-- Rows appended one by one: those whose item id was not there. -/
theorem Exact.foldl_append (exact : store.Exact) (items : List TimelineItem) :
    (items.foldl IndexedTimelineItems.append store).Exact ∧
      (items.foldl IndexedTimelineItems.append store).items = store.items ++
        keepFirst domId items (store.items.map domId) := by
  induction items generalizing store with
  | nil => exact ⟨exact, (append_nil _).symm⟩
  | cons item rest ih =>
    obtain ⟨appended, rows⟩ := exact.append item
    obtain ⟨finished, result⟩ := ih appended
    refine ⟨finished, ?_⟩
    rw [foldl_cons, result, rows, keepFirst]
    split
    · rfl
    · rw [append_assoc, singleton_append]
      congr 2
      apply keepFirst_congr
      intro id
      rw [map_append, mem_append, map_singleton, mem_singleton, mem_cons]
      exact or_comm

end IndexedTimelineItems

theorem indexedTimelineItems_exact (items : List TimelineItem) : (indexedTimelineItems items).Exact ∧
      (indexedTimelineItems items).items = keepFirst domId items [] := by
  simpa [indexedTimelineItems] using IndexedTimelineItems.exact_empty.foldl_append items

/-! ## Whole batches -/

namespace IndexedTimelineItems

variable {store : IndexedTimelineItems}

/-- Every diff keeps the indexes exact and edits the rows as a table keyed by
item id. -/
theorem Exact.applyDiffForRender (exact : store.Exact) (diff : TimelineDiff) :
    (applyDiffForRender store diff).Exact ∧
      (Koushi.applyDiffForRender store diff).items = applyKeyed domId store.items diff := by
  cases diff with
  | pushFront => exact exact.insertTimelineItem _ 0
  | pushBack => exact exact.insertTimelineItem _ store.items.length
  | insert => exact exact.insertTimelineItem ..
  | set => exact exact.setTimelineItem ..
  | remove => exact exact.removeTimelineItemAt _
  | truncate length =>
    obtain ⟨indexed, rows⟩ := indexedTimelineItems_exact (store.items.take length)
    refine ⟨indexed, rows.trans (keepFirst_of_nodup domId ?_ (by simp))⟩
    exact exact.nodup.sublist ((take_sublist _ _).map domId)
  | clear => exact ⟨exact_empty, rfl⟩
  | reset => exact indexedTimelineItems_exact _

theorem Exact.applyDiffsForRender (exact : store.Exact) (diffs : List TimelineDiff) :
    (applyDiffsForRender store diffs).Exact ∧ (Koushi.applyDiffsForRender store diffs).items =
        applyAllKeyed domId store.items diffs := by
  induction diffs generalizing store with
  | nil => exact ⟨exact, rfl⟩
  | cons diff rest ih =>
    obtain ⟨stepped, rows⟩ := exact.applyDiffForRender diff
    obtain ⟨finished, result⟩ := ih stepped
    refine ⟨finished, result.trans ?_⟩
    rw [rows]
    rfl

end IndexedTimelineItems

end Koushi
