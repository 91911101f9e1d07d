import Mathlib

namespace Collections

open List

/-!
# Lists of records that carry an id

A list of records stands for a table when its ids matter more than its
positions.  `upsertBy` writes one record: it takes the place of the first record
with the same id, or comes last.  `mergeBy` writes a whole list, one record
after the other.  A writer that must not repeat an id needs no other operation,
and the ids of the result are always the ids of both lists.  `modifyBy` changes the
first record with an id.

A reader takes the first record with an id, so the lemmas say what `List.find?`
gives after each of these operations.
-/

variable {α κ : Type} [DecidableEq κ]

/-- The ids of a list of records. -/
def keysBy (key : α -> κ) (items : List α) : List κ := items.map key

/-- Whether a list has a record with this id. -/
def hasKey (key : α -> κ) (items : List α) (id : κ) : Bool := items.any (fun item => key item = id)

/-- Replace the first record with the id of `item`, or append `item`. -/
def upsertBy (key : α -> κ) (item : α) : List α -> List α
  | [] => [item]
  | existing :: rest =>
    if key existing = key item then item :: rest else existing :: upsertBy key item rest

/-- Change the first record with an id. -/
def modifyBy (key : α -> κ) (id : κ) (change : α -> α) : List α -> List α
  | [] => []
  | existing :: rest =>
    if key existing = id then change existing :: rest else existing :: modifyBy key id change rest

/-- Write the records of a second list into the first, in order. -/
def mergeBy (key : α -> κ) (items : List α) (updates : List α) : List α :=
  updates.foldl (fun merged item => upsertBy key item merged) items

variable {key : α -> κ} {items : List α}

@[simp] theorem hasKey_iff {id : κ} : hasKey key items id = true ↔ id ∈ keysBy key items := by
  simp [hasKey, keysBy]

variable {item : α}

theorem mem_keysBy_upsertBy {id : κ} :
    id ∈ keysBy key (upsertBy key item items) ↔ id = key item ∨ id ∈ keysBy key items := by
  fun_induction upsertBy key item items with
  | case1 => simp [keysBy]
  | case2 existing rest same => simp [keysBy, same]
  | case3 existing rest different ih =>
    simp only [keysBy, map_cons, mem_cons] at ih ⊢
    tauto

theorem mem_keysBy_mergeBy {items updates : List α} {id : κ} :
    id ∈ keysBy key (mergeBy key items updates) ↔ id ∈ keysBy key items ∨ id ∈ keysBy key updates := by
  induction updates generalizing items with
  | nil => simp [mergeBy, keysBy]
  | cons item rest ih =>
    have merged : mergeBy key items (item :: rest) = mergeBy key (upsertBy key item items) rest := rfl
    rw [merged, ih, mem_keysBy_upsertBy]
    simp only [keysBy, map_cons, mem_cons]
    tauto

omit [DecidableEq κ] in
/-- A filter on ids filters the ids. -/
theorem mem_keysBy_filter (keep : κ -> Bool) {id : κ} :
    id ∈ keysBy key (items.filter (fun item => keep (key item))) ↔ id ∈ keysBy key items ∧ keep id = true := by
  change id ∈ (items.filter (keep ∘ key)).map key ↔ _
  rw [← filter_map, mem_filter, keysBy]

/-! ## Finding a record -/

section Find

variable {key : α -> κ} {items : List α} {id : κ}

theorem find?_map_of_key {change : α -> α} (same : ∀ item, key (change item) = key item) :
    (items.map change).find? (fun item => key item = id) =
      (items.find? (fun item => key item = id)).map change := by
  rw [find?_map]
  congr 2
  funext item
  simp only [Function.comp_apply, same]

/-- A filter on ids does not hide a record that it keeps. -/
theorem find?_filter_of_kept (keep : κ -> Bool) (kept : keep id = true) :
    (items.filter (fun item => keep (key item))).find? (fun item => key item = id) =
      items.find? (fun item => key item = id) := by
  rw [find?_filter]
  congr 1
  funext item
  by_cases same : key item = id
  · simp [same, kept]
  · simp [same]

theorem find?_upsertBy : (upsertBy key item items).find? (fun item => key item = id) =
      if key item = id then some item else items.find? (fun item => key item = id) := by
  fun_induction upsertBy key item items with
  | case1 => by_cases same : key item = id <;> simp [same]
  | case2 existing rest taken =>
    rw [find?_cons, find?_cons, taken]
    split <;> simp_all
  | case3 existing rest taken ih =>
    rw [find?_cons, find?_cons, ih]
    by_cases same : key item = id
    · have other : ¬ key existing = id := fun equal => taken (equal.trans same.symm)
      simp [same, other]
    · simp [same]

theorem find?_modifyBy {change : α -> α} {changed : κ} (same : ∀ item, key (change item) = key item) :
    (modifyBy key changed change items).find? (fun item => key item = id) =
      if id = changed then (items.find? (fun item => key item = id)).map change
      else items.find? (fun item => key item = id) := by
  fun_induction modifyBy key changed change items with
  | case1 => simp
  | case2 existing rest here =>
    rw [find?_cons, find?_cons, same]
    by_cases asked : id = changed
    · simp [asked, here]
    · have other : ¬ key existing = id := fun equal => asked (equal.symm.trans here)
      simp [asked, other]
  | case3 existing rest elsewhere ih =>
    rw [find?_cons, find?_cons, ih]
    by_cases found : key existing = id
    · have asked : ¬ id = changed := fun equal => elsewhere (found.trans equal)
      simp [found, asked]
    · simp [found]

end Find

variable {key : α -> κ}

/-- What a change of one record does not touch is the same for the whole list. -/
theorem map_modifyBy {β : Type} {id : κ} {change : α -> α} {read : α -> β}
    (same : ∀ item, key item = id -> read (change item) = read item) :
    (modifyBy key id change items).map read = items.map read := by
  fun_induction modifyBy key id change items with
  | case1 => rfl
  | case2 existing rest here => rw [map_cons, map_cons, same existing here]
  | case3 existing rest elsewhere ih => rw [map_cons, map_cons, ih]

/-! ## Distinct ids -/

variable {items : List α}

theorem nodup_keysBy_upsertBy
    (distinct : (keysBy key items).Nodup) : (keysBy key (upsertBy key item items)).Nodup := by
  fun_induction upsertBy key item items with
  | case1 => exact nodup_singleton _
  | case2 existing rest taken => simpa only [keysBy, map_cons, nodup_cons, taken] using distinct
  | case3 existing rest different ih =>
    simp only [keysBy, map_cons, nodup_cons] at distinct
    have fresh : key existing ∉ keysBy key (upsertBy key item rest) := by
      rw [mem_keysBy_upsertBy, not_or]
      exact ⟨different, distinct.1⟩
    exact nodup_cons.mpr ⟨fresh, ih distinct.2⟩

/-- With distinct ids a member is the record that its id finds. -/
theorem find?_of_mem (distinct : (keysBy key items).Nodup)
    (member : item ∈ items) : items.find? (fun other => key other = key item) = some item := by
  induction items with
  | nil => cases member
  | cons existing rest ih =>
    simp only [keysBy, map_cons, nodup_cons] at distinct
    rcases mem_cons.mp member with rfl | later
    · simp
    · have other : ¬ key existing = key item := fun equal =>
        distinct.1 (equal ▸ mem_map_of_mem later)
      simpa [find?_cons, other] using ih distinct.2 later

/-! ## What is written -/

theorem mem_upsertBy {item other : α}
    (distinct : (keysBy key items).Nodup) (member : other ∈ upsertBy key item items) :
    other = item ∨ other ∈ items ∧ key other ≠ key item := by
  fun_induction upsertBy key item items with
  | case1 => exact .inl (mem_singleton.mp member)
  | case2 existing rest taken =>
    rcases mem_cons.mp member with rfl | later
    · exact .inl rfl
    · refine Or.inr ⟨mem_cons_of_mem _ later, fun same => (nodup_cons.mp distinct).1 ?_⟩
      rw [taken, ← same]
      exact mem_map_of_mem later
  | case3 existing rest different ih =>
    rcases mem_cons.mp member with rfl | later
    · exact .inr ⟨mem_cons_self, different⟩
    · rcases ih (nodup_cons.mp distinct).2 later with rfl | ⟨before, other⟩
      · exact .inl rfl
      · exact .inr ⟨mem_cons_of_mem _ before, other⟩

theorem mem_modifyBy {id : κ} {change : α -> α} (member : item ∈ modifyBy key id change items) :
    item ∈ items ∨ ∃ old ∈ items, key old = id ∧ item = change old := by
  fun_induction modifyBy key id change items with
  | case1 => cases member
  | case2 existing rest here =>
    rcases mem_cons.mp member with rfl | later
    · exact .inr ⟨existing, mem_cons_self, here, rfl⟩
    · exact .inl (mem_cons_of_mem _ later)
  | case3 existing rest elsewhere ih =>
    rcases mem_cons.mp member with rfl | later
    · exact .inl mem_cons_self
    · rcases ih later with before | ⟨old, listed, same, rfl⟩
      · exact .inl (mem_cons_of_mem _ before)
      · exact .inr ⟨old, mem_cons_of_mem _ listed, same, rfl⟩

omit [DecidableEq κ] in
/-- A list written record by record has the records of the updates, and of the others
those whose id no update has. -/
theorem mem_foldl_write {write : List α -> α -> List α}
    (keeps : ∀ {items item}, (keysBy key items).Nodup -> (keysBy key (write items item)).Nodup)
    (writes : ∀ {items item other}, (keysBy key items).Nodup -> other ∈ write items item ->
      other = item ∨ other ∈ items ∧ key other ≠ key item)
    {items updates : List α} {other : α} (distinct : (keysBy key items).Nodup)
    (member : other ∈ updates.foldl write items) :
    other ∈ updates ∨ other ∈ items ∧ key other ∉ keysBy key updates := by
  induction updates generalizing items with
  | nil => exact .inr ⟨member, not_mem_nil⟩
  | cons item rest ih =>
    rcases ih (keeps distinct) member with later | ⟨written, absent⟩
    · exact .inl (mem_cons_of_mem _ later)
    · rcases writes distinct written with rfl | ⟨before, different⟩
      · exact .inl mem_cons_self
      · exact .inr ⟨before, not_mem_cons_of_ne_of_not_mem different absent⟩

theorem nodup_keysBy_mergeBy (updates : List α)
    (distinct : (keysBy key items).Nodup) : (keysBy key (mergeBy key items updates)).Nodup := by
  induction updates generalizing items with
  | nil => exact distinct
  | cons item rest ih => exact ih (nodup_keysBy_upsertBy distinct)

/-! ## A bounded list of distinct records -/

/-- Keep the usable records whose id is not kept yet, in order, until `limit` are
kept. -/
def keepDistinct (key : α -> κ) (usable : α -> Bool) (limit : Nat) (kept : List α) : List α -> List α
  | [] => kept
  | item :: rest =>
    if !usable item || hasKey key kept (key item) then keepDistinct key usable limit kept rest
    else if (kept ++ [item]).length = limit then kept ++ [item]
    else keepDistinct key usable limit (kept ++ [item]) rest

theorem mem_keepDistinct {usable : α -> Bool} {limit : Nat} {kept items : List α}
    (member : item ∈ keepDistinct key usable limit kept items) :
    item ∈ kept ∨ item ∈ items ∧ usable item = true := by
  induction items generalizing kept with
  | nil => exact .inl member
  | cons head rest ih =>
    unfold keepDistinct at member
    split at member
    · exact (ih member).imp_right (fun found => ⟨mem_cons_of_mem _ found.1, found.2⟩)
    next taken =>
    have fits : usable head = true := by
      by_contra unusable
      simp [unusable] at taken
    have found : item ∈ kept ++ [head] ∨ item ∈ rest ∧ usable item = true := by
      split at member
      · exact .inl member
      · exact ih member
    rcases found with early | ⟨late, usableItem⟩
    · rcases mem_append.mp early with before | last
      · exact .inl before
      · rw [mem_singleton.mp last]
        exact .inr ⟨mem_cons_self, fits⟩
    · exact .inr ⟨mem_cons_of_mem _ late, usableItem⟩

theorem nodup_keysBy_keepDistinct {usable : α -> Bool} {limit : Nat} {kept : List α} (distinct : (keysBy key kept).Nodup) :
    (keysBy key (keepDistinct key usable limit kept items)).Nodup := by
  induction items generalizing kept with
  | nil => exact distinct
  | cons head rest ih =>
    unfold keepDistinct
    split
    · exact ih distinct
    next taken =>
    have fresh : key head ∉ keysBy key kept := by
      intro present
      rw [hasKey_iff.mpr present, Bool.or_true] at taken
      exact taken rfl
    have longer : (keysBy key (kept ++ [head])).Nodup := by
      rw [keysBy, map_append, map_singleton, ← concat_eq_append]
      exact distinct.concat fresh
    split
    · exact longer
    · exact ih longer

end Collections
