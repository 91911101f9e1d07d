import Koushi.Renderer.TimelineStore

namespace Koushi

open Collections VectorDiff IdentityRun List RunSearch DisplayReplay Nat

/-!
# The desktop against the published diffs

The core compares rows by row id and the desktop by item id.  Every program of
the builder keeps one run of rows, rebuilds what is around it and then replaces
the rows of the run.  Such a program is accepted by the replay whenever the row
ids are unique, so the reset is only taken for an ambiguous translation.  It
gives the desktop the rows after exactly when no row takes the item id of a kept
row from outside the run or from an earlier place in it.
-/

/-! ## The unchanged rows at both ends -/

/-- Pairs that agree from the start are equal beginnings of both lists. -/
theorem take_commonLength (left right : List TimelineItem) (limit : Nat) :
    let common :=
      (((left.zip right).take limit).takeWhile (fun (before, after) => before = after)).length
    left.take common = right.take common ∧ common ≤ limit ∧ common ≤ left.length ∧
      common ≤ right.length := by
  induction left generalizing right limit with
  | nil => simp
  | cons first left ih =>
    cases right with
    | nil => simp
    | cons second right =>
      cases limit with
      | zero => simp
      | succ limit =>
        by_cases same : first = second
        · have rest := ih right limit
          simp only [zip_cons_cons, take_succ_cons, same, takeWhile_cons,
            decide_true, if_true, length_cons] at rest ⊢
          exact ⟨by rw [rest.1], by omega, by omega, by omega⟩
        · simp [same]

theorem take_prefixLen (before after : List TimelineItem) :
    before.take (prefixLen before after) = after.take (prefixLen before after) ∧
      prefixLen before after ≤ before.length ∧ prefixLen before after ≤ after.length := by
  have common := take_commonLength before after (before.zip after).length
  rw [take_length] at common
  exact ⟨common.1, common.2.2⟩

theorem drop_suffixLen (before after : List TimelineItem) {start : Nat}
    (startBefore : start ≤ before.length) (startAfter : start ≤ after.length) :
    before.drop (before.length - suffixLen before after start) =
        after.drop (after.length - suffixLen before after start) ∧
      start ≤ before.length - suffixLen before after start ∧
      start ≤ after.length - suffixLen before after start := by
  have common := take_commonLength (before.drop start).reverse (after.drop start).reverse
    (min before.length after.length - start)
  change _ = _ ∧ suffixLen before after start ≤ _ ∧ suffixLen before after start ≤ _ ∧
    suffixLen before after start ≤ _ at common
  obtain ⟨same, bound, -, -⟩ := common
  change take (suffixLen before after start) _ = take (suffixLen before after start) _ at same
  rw [take_reverse, take_reverse, reverse_inj, drop_drop, drop_drop,
    length_drop, length_drop] at same
  refine ⟨?_, by omega, by omega⟩
  convert same using 2 <;> omega

/-- A list around its middle. -/
theorem displayMiddle_frame {items : List TimelineItem} {start stop : Nat}
    (room : start ≤ items.length - stop) :
    items = items.take start ++ displayMiddle items start stop ++ items.drop (items.length - stop) := by
  have inner : items.take (items.length - stop) = items.take start ++ displayMiddle items start stop := by
    have parts := take_append_drop start (items.take (items.length - stop))
    rw [take_take, Nat.min_eq_left room] at parts
    exact parts.symm
  rw [← inner, take_append_drop]

/-! ## The kept run -/

/-- The run of the middle that the builder keeps: none when the lengths differ,
all of it when positional sets are safe, else the longest identity run. -/
def retainedRun (beforeMiddle afterMiddle : List TimelineItem) : IdentityRun :=
  if beforeMiddle.length ≠ afterMiddle.length then ⟨0, 0, 0⟩
  else if positionalSetsAreSafe beforeMiddle afterMiddle then ⟨0, 0, beforeMiddle.length⟩
  else longestIdentityRun beforeMiddle afterMiddle

/-- A run inside both middles whose rows have the same row ids before and after. -/
structure IdentityRun.Matches (beforeIds afterIds : List String) (run : IdentityRun) : Prop where
  insideBefore : run.beforeIndex + run.length ≤ beforeIds.length
  insideAfter : run.afterIndex + run.length ≤ afterIds.length
  agrees : ∀ offset < run.length,
    beforeIds[run.beforeIndex + offset]? = afterIds[run.afterIndex + offset]?

theorem IdentityRun.matches_empty (beforeIds afterIds : List String) :
    Matches beforeIds afterIds ⟨0, 0, 0⟩ where
  insideBefore := zero_le _
  insideAfter := zero_le _
  agrees _ inside := absurd inside (not_lt_zero _)

/-- The row ids of a matching run are the same list before and after. -/
theorem IdentityRun.Matches.take_eq {beforeIds afterIds : List String} {run : IdentityRun}
    (found : run.Matches beforeIds afterIds) : (beforeIds.drop run.beforeIndex).take run.length =
      (afterIds.drop run.afterIndex).take run.length := by
  apply ext_getElem?
  intro offset
  by_cases inside : offset < run.length
  · rw [getElem?_take_of_lt inside, getElem?_take_of_lt inside, getElem?_drop,
      getElem?_drop]
    exact found.agrees offset inside
  · rw [getElem?_take_eq_none (by omega), getElem?_take_eq_none (by omega)]

/-- What the search knows after some rows: both runs match, and the open run ends
at the last row when that row was found. -/
structure RunSearch.Sound (beforeIds afterIds : List String) (search : RunSearch) (visited : Nat) :
    Prop where
  best : search.best.Matches beforeIds afterIds
  current : search.current.Matches beforeIds afterIds
  ends : ∀ previous, search.previousBeforeIndex = some previous ->
    search.current.afterIndex + search.current.length = visited ∧
      search.current.beforeIndex + search.current.length = previous + 1

theorem RunSearch.sound_start (beforeIds afterIds : List String) :
    start.Sound beforeIds afterIds 0 where
  best := matches_empty _ _
  current := matches_empty _ _
  ends previous found := by cases found

variable {beforeIds afterIds : List String} {beforeIndexById : OrdMap String Nat}

variable {item : TimelineItem} {rest : List TimelineDiff}

theorem RunSearch.Sound.visit {search : RunSearch} {visited : Nat}
    (sound : search.Sound beforeIds afterIds visited) (exact : IndexExact beforeIds beforeIndexById)
    (stands : afterIds[visited]? = some (timelineItemRenderId item)) :
    (search.visit beforeIndexById visited item).Sound beforeIds afterIds (visited + 1) := by
  obtain ⟨insideAfter, -⟩ := List.getElem?_eq_some_iff.mp stands
  rw [RunSearch.visit]
  cases found : beforeIndexById[timelineItemRenderId item]? with
  | none =>
    refine ⟨sound.best, matches_empty _ _, ?_⟩
    intro previous known
    cases known
  | some beforeIndex =>
    have standsBefore := (exact _ beforeIndex).mp found
    obtain ⟨insideBefore, -⟩ := List.getElem?_eq_some_iff.mp standsBefore
    dsimp only
    -- The open run after this row, extended or new.
    generalize opened : (if search.previousBeforeIndex.any
        (fun previous => previous + 1 = beforeIndex) = true then
        { search.current with length := search.current.length + 1 }
      else ⟨beforeIndex, visited, 1⟩ : IdentityRun) = current
    have run : current.Matches beforeIds afterIds ∧
        current.afterIndex + current.length = visited + 1 ∧
        current.beforeIndex + current.length = beforeIndex + 1 := by
      subst opened
      split
      · next follows =>
        obtain ⟨previous, known, next⟩ : ∃ previous, search.previousBeforeIndex = some previous ∧
            previous + 1 = beforeIndex := by
          cases last : search.previousBeforeIndex with
          | none => simp [last] at follows
          | some previous => exact ⟨previous, rfl, by simpa [last] using follows⟩
        obtain ⟨endsAfter, endsBefore⟩ := sound.ends previous known
        refine ⟨⟨by dsimp only; omega, by dsimp only; omega, ?_⟩, by dsimp only; omega,
          by dsimp only; omega⟩
        intro offset inside
        rcases Nat.lt_succ_iff_lt_or_eq.mp inside with earlier | last
        · exact sound.current.agrees offset earlier
        · rw [last, endsAfter, endsBefore, next, stands, standsBefore]
      · refine ⟨⟨by dsimp only; omega, by dsimp only; omega, ?_⟩, rfl, rfl⟩
        intro offset inside
        have first : offset = 0 := by dsimp only at inside; omega
        subst first
        dsimp only
        rw [add_zero, add_zero, stands, standsBefore]
    refine ⟨?_, run.1, ?_⟩
    · split
      · exact run.1
      · exact sound.best
    · intro previous known
      cases known
      exact run.2

theorem RunSearch.Sound.visitAll {search : RunSearch} {afterMiddle rest : List TimelineItem}
    {visited : Nat} (remaining : rest = afterMiddle.drop visited)
    (sound : search.Sound beforeIds (afterMiddle.map timelineItemRenderId) visited)
    (exact : IndexExact beforeIds beforeIndexById) :
    (search.visitAll beforeIndexById visited rest).best.Matches beforeIds
      (afterMiddle.map timelineItemRenderId) := by
  induction rest generalizing search visited with
  | nil => exact sound.best
  | cons item rest ih =>
    have stands : afterMiddle[visited]? = some item := by
      rw [← head?_drop, ← remaining, head?_cons]
    have next : rest = afterMiddle.drop (visited + 1) := by
      rw [← tail_drop, ← remaining, tail_cons]
    refine ih next (sound.visit exact ?_)
    rw [getElem?_map, stands, Option.map_some]

variable (search : RunSearch)

/-- The best run only grows. -/
theorem RunSearch.best_visit_le (visited : Nat) (item : TimelineItem) :
    search.best.length ≤ (search.visit beforeIndexById visited item).best.length := by
  rw [RunSearch.visit]
  cases beforeIndexById[timelineItemRenderId item]? with
  | none => exact le_rfl
  | some beforeIndex =>
    dsimp only
    split <;> split <;> dsimp only at * <;> omega

theorem RunSearch.best_visitAll_le (visited : Nat) (rest : List TimelineItem) :
    search.best.length ≤ (search.visitAll beforeIndexById visited rest).best.length := by
  induction rest generalizing search visited with
  | nil => exact le_rfl
  | cons item rest ih => exact (search.best_visit_le visited item).trans (ih _ _)

/-- A row that is found makes the best run nonempty. -/
theorem RunSearch.best_visit_pos (visited : Nat) (found : timelineItemRenderId item ∈ beforeIndexById) :
    0 < (search.visit beforeIndexById visited item).best.length := by
  obtain ⟨beforeIndex, known⟩ := OrdMap.mem_iff_exists.mp found
  rw [RunSearch.visit, known]
  dsimp only
  split <;> split <;> dsimp only at * <;> omega

theorem RunSearch.best_visitAll_pos (visited : Nat) {rest : List TimelineItem}
    (member : item ∈ rest) (found : timelineItemRenderId item ∈ beforeIndexById) :
    0 < (search.visitAll beforeIndexById visited rest).best.length := by
  induction rest generalizing search visited with
  | nil => cases member
  | cons first rest ih =>
    rcases mem_cons.mp member with rfl | later
    · exact lt_of_lt_of_le (search.best_visit_pos visited found)
        (best_visitAll_le _ _ _)
    · exact ih _ _ later

section Middle

variable {beforeMiddle afterMiddle : List TimelineItem}

/-- The longest identity run lies in both middles with the same row ids. -/
theorem longestIdentityRun_matches (afterMiddle : List TimelineItem)
    (distinct : (beforeMiddle.map timelineItemRenderId).Nodup) :
    (longestIdentityRun beforeMiddle afterMiddle).Matches (beforeMiddle.map timelineItemRenderId)
      (afterMiddle.map timelineItemRenderId) :=
  (sound_start _ _).visitAll rfl (indexExact_ofKeys distinct)

/-- When positional sets are not safe, some row keeps its identity elsewhere. -/
theorem longestIdentityRun_pos (distinct : (beforeMiddle.map timelineItemRenderId).Nodup)
    (unsafe_ : positionalSetsAreSafe beforeMiddle afterMiddle = false) :
    0 < (longestIdentityRun beforeMiddle afterMiddle).length := by
  simp only [positionalSetsAreSafe, all_eq_false] at unsafe_
  obtain ⟨⟨before, after⟩, member, moved⟩ := unsafe_
  have known : timelineItemRenderId after ∈ beforeMiddle.map timelineItemRenderId := by
    by_contra absent
    simp [absent] at moved
  refine best_visitAll_pos _ _ (of_mem_zip member).2 ?_
  exact (indexExact_ofKeys distinct).mem_iff.mpr known

end Middle

/-! ## What the replay accepts -/

/-- From these rows, with any exact index and enough fuel, the replay of the
diffs ends with the rows after. -/
def Replays (items : List TimelineItem) (diffs : List TimelineDiff) (after : List TimelineItem) :
    Prop :=
  ∀ indexById, IndexExact (items.map timelineItemRenderId) indexById -> ∀ fuel, diffs.length ≤ fuel ->
    run fuel ⟨items, indexById⟩ diffs = some after

theorem replays_nil (items : List TimelineItem) : Replays items [] items := by
  intro indexById exact fuel enough
  cases fuel <;> rfl

/-- One group, and then the rest from exact rows. -/
theorem replays_group {items next after : List TimelineItem} {diff : TimelineDiff}
    {rest remaining : List TimelineDiff} (shorter : remaining.length ≤ rest.length)
    (continues : Replays next remaining after)
    (step : ∀ indexById, IndexExact (items.map timelineItemRenderId) indexById ->
      ∃ nextIndex, IndexExact (next.map timelineItemRenderId) nextIndex ∧
        group ⟨items, indexById⟩ diff rest = some (⟨next, nextIndex⟩, remaining)) :
    Replays items (diff :: rest) after := by
  intro indexById exact fuel enough
  obtain ⟨nextIndex, nextExact, grouped⟩ := step indexById exact
  cases fuel with
  | zero => simp at enough
  | succ fuel =>
    rw [run, grouped]
    refine continues nextIndex nextExact fuel ?_
    rw [length_cons] at enough
    omega

theorem countRemoves_replicate {index : Nat} (apart : countRemoves index rest = 0) (count : Nat) :
    countRemoves index (removes count index ++ rest) = count := by
  induction count with
  | zero => simpa [removes] using apart
  | succ count ih =>
    rw [removes, replicate_succ, cons_append, countRemoves, if_pos rfl]
    exact congrArg (· + 1) ih

/-- A block is removed in one group. -/
theorem Replays.removes {left block right after : List TimelineItem}
    (apart : block ≠ [] -> countRemoves left.length rest = 0) (continues : Replays (left ++ right) rest after) :
    Replays (left ++ block ++ right) (VectorDiff.removes block.length left.length ++ rest) after := by
  cases block with
  | nil => simpa [VectorDiff.removes] using continues
  | cons row block =>
    have count := countRemoves_replicate (apart (cons_ne_nil _ _)) (row :: block).length
    rw [VectorDiff.removes, length_cons, replicate_succ, cons_append] at count ⊢
    refine replays_group (by simp) continues ?_
    intro indexById exact
    refine ⟨numberFrom ∅ 0 ((left ++ right).map timelineItemRenderId), indexExact_ofKeys ?_, ?_⟩
    · exact nodup_keys_without _ exact.nodup
    · rw [group]
      rw [count, if_neg (by simp)]
      have kept : (left ++ row :: block ++ right).take left.length ++
          (left ++ row :: block ++ right).drop (left.length + (block.length + 1)) = left ++ right := by
        rw [append_assoc, take_left, ← drop_drop, drop_left]
        have block' : (row :: block ++ right).drop (row :: block).length = right := drop_left
        rw [length_cons] at block'
        rw [block']
      have remaining : (remove left.length ::
          (replicate block.length (remove left.length) ++ rest)).drop
          (block.length + 1) = rest := by
        rw [drop_succ_cons, drop_left' (by simp)]
      rw [kept, remaining]
      rfl

/-- The diffs do not go on with an insertion at this place. -/
def NoInsertAt (index : Nat) (diffs : List TimelineDiff) : Prop :=
  ∀ item rest, diffs ≠ .insert index item :: rest

theorem takeInserts_inserts {indexById : OrdMap String Nat} {start : Nat} {seen : List String}
    {inserted block : List TimelineItem}
    (fresh : ∀ row ∈ block, timelineItemRenderId row ∉ indexById ∧ timelineItemRenderId row ∉ seen)
    (distinct : (block.map timelineItemRenderId).Nodup)
    (apart : NoInsertAt (start + inserted.length + block.length) rest) :
    takeInserts indexById start seen inserted
        (inserts (start + inserted.length) block ++ rest) = some (inserted ++ block, rest) := by
  induction block generalizing seen inserted with
  | nil =>
    rw [inserts, nil_append, append_nil]
    unfold takeInserts
    split
    · next index item rest =>
      have elsewhere : index ≠ start + inserted.length := by
        rintro rfl
        exact apart item rest rfl
      rw [if_pos elsewhere]
    · rfl
  | cons row block ih =>
    obtain ⟨unindexed, unseen⟩ := fresh row mem_cons_self
    rw [map_cons, nodup_cons] at distinct
    have free : ¬(indexById.contains (timelineItemRenderId row) ||
        seen.contains (timelineItemRenderId row)) = true := by
      simpa using ⟨unindexed, unseen⟩
    rw [inserts, cons_append, takeInserts, if_neg (by simp), if_neg free]
    have next : takeInserts indexById start (timelineItemRenderId row :: seen) (inserted ++ [row])
        (inserts (start + (inserted ++ [row]).length) block ++ rest) =
        some (inserted ++ [row] ++ block, rest) := by
      apply ih
      · intro other member
        obtain ⟨otherUnindexed, otherUnseen⟩ := fresh other (mem_cons_of_mem _ member)
        refine ⟨otherUnindexed, ?_⟩
        rw [mem_cons, not_or]
        exact ⟨fun same => distinct.1 (same ▸ mem_map_of_mem member), otherUnseen⟩
      · exact distinct.2
      · have length : start + (inserted ++ [row]).length + block.length =
            start + inserted.length + (row :: block).length := by simp; omega
        rw [length]
        exact apart
    simpa [add_assoc] using next

/-- A fresh block is inserted in one group. -/
theorem Replays.inserts {left block right after : List TimelineItem}
    (distinct : ((left ++ block ++ right).map timelineItemRenderId).Nodup)
    (apart : block ≠ [] -> NoInsertAt (left.length + block.length) rest)
    (continues : Replays (left ++ block ++ right) rest after) :
    Replays (left ++ right) (VectorDiff.inserts left.length block ++ rest) after := by
  cases block with
  | nil => simpa [VectorDiff.inserts] using continues
  | cons row block =>
    rw [VectorDiff.inserts, cons_append]
    refine replays_group (by simp) continues ?_
    intro indexById exact
    refine ⟨numberFrom ∅ 0 ((left ++ row :: block ++ right).map timelineItemRenderId),
      indexExact_ofKeys distinct, ?_⟩
    have taken : takeInserts indexById left.length [] []
        (VectorDiff.inserts (left.length + ([] : List TimelineItem).length) (row :: block) ++ rest) =
        some ([] ++ row :: block, rest) := by
      apply takeInserts_inserts
      · intro other member
        refine ⟨?_, not_mem_nil⟩
        rw [exact.mem_iff]
        simp only [map_append, nodup_append, mem_append] at distinct ⊢
        have own : timelineItemRenderId other ∈ (row :: block).map timelineItemRenderId :=
          mem_map_of_mem member
        rintro (inLeft | inRight)
        · exact distinct.1.2.2 _ inLeft _ own rfl
        · exact distinct.2.2 _ (.inr own) _ inRight rfl
      · simp only [map_append, nodup_append] at distinct
        exact distinct.1.2.1
      · simpa using apart (cons_ne_nil _ _)
    rw [length_nil, add_zero, VectorDiff.inserts, cons_append] at taken
    rw [group]
    rw [if_neg (by simp), taken, take_left, drop_left]
    rfl

/-- A row is replaced in place when its row id is nobody else's. -/
theorem Replays.set {left right after : List TimelineItem} {old row : TimelineItem}
    (fresh : timelineItemRenderId row ∉ (left ++ right).map timelineItemRenderId)
    (continues : Replays (left ++ row :: right) rest after) :
    Replays (left ++ old :: right) (set left.length row :: rest) after := by
  refine replays_group le_rfl continues ?_
  intro indexById exact
  have replaced : IndexExact ((left ++ row :: right).map timelineItemRenderId)
      ((indexById.erase (timelineItemRenderId old)).insert (timelineItemRenderId row) left.length) := by
    rw [map_append, map_cons] at exact ⊢
    rw [map_append] at fresh
    simpa using exact.replace fresh
  refine ⟨_, replaced, ?_⟩
  have stands : (left ++ old :: right)[left.length]? = some old := by simp
  have indexed : indexById[timelineItemRenderId old]? = some left.length := by
    rw [exact, getElem?_map, stands, Option.map_some]
  have here : ((indexById[timelineItemRenderId row]?).filter
      (fun existing => decide (existing ≠ left.length))).getD left.length = left.length := by
    cases found : indexById[timelineItemRenderId row]? with
    | none => rfl
    | some place =>
      have same : place = left.length := by
        by_contra elsewhere
        have standsAt := (exact _ place).mp found
        refine fresh ?_
        rw [getElem?_map, Option.map_eq_some_iff] at standsAt
        obtain ⟨owner, atPlace, equal⟩ := standsAt
        rw [← equal]
        refine mem_map_of_mem ?_
        have removed : owner ∈ (left ++ old :: right).eraseIdx left.length :=
          mem_eraseIdx_iff_getElem?.mpr ⟨place, elsewhere, atPlace⟩
        simpa [eraseIdx_append_of_length_le] using removed
      simp [same, Option.filter]
  rw [group, if_neg (by simp)]
  simp only [DisplayReplay.set, here, stands, indexed, if_true]
  simp

/-- A block is replaced in place when no row takes a later row id. -/
theorem Replays.sets {left before after right : List TimelineItem}
    (sameLength : before.length = after.length)
    (distinct : ((left ++ after ++ right).map timelineItemRenderId).Nodup)
    (settles : VectorDiff.Settles timelineItemRenderId after before) :
    Replays (left ++ before ++ right) (VectorDiff.sets left.length before after)
      (left ++ after ++ right) := by
  induction before generalizing left after with
  | nil =>
    cases length_eq_zero_iff.mp sameLength.symm
    exact replays_nil _
  | cons old before ih =>
    cases after with
    | nil => cases sameLength
    | cons row after =>
      have rest : Replays (left ++ [row] ++ before ++ right)
          (VectorDiff.sets (left ++ [row]).length before after) (left ++ [row] ++ after ++ right) :=
        ih (succ.inj sameLength) (by simpa using distinct) settles.2
      simp only [length_append, length_singleton, append_assoc,
        singleton_append] at rest
      rw [VectorDiff.sets, append_assoc, append_assoc, cons_append, cons_append]
      split
      · next same => simpa [same] using rest
      refine Replays.set ?_ rest
      rw [append_assoc, cons_append, nodup_keys_middle] at distinct
      simp only [map_append, mem_append, not_or] at distinct ⊢
      exact ⟨distinct.1.1, settles.1, distinct.1.2.2⟩

/-- Replacements bring neither insertions nor removals. -/
theorem sets_apart (index place : Nat) (before after : List TimelineItem) :
    NoInsertAt place (sets index before after) ∧ countRemoves place (sets index before after) = 0 := by
  induction before generalizing index after with
  | nil => exact ⟨by simp [NoInsertAt, sets], rfl⟩
  | cons old before ih =>
    cases after with
    | nil => exact ⟨by simp [NoInsertAt, sets], rfl⟩
    | cons row after =>
      rw [sets]
      split
      · exact ih (index + 1) after
      · exact ⟨by simp [NoInsertAt], rfl⟩

theorem countRemoves_inserts {place : Nat}
    (apart : countRemoves place rest = 0) (index : Nat) (block : List TimelineItem) :
    countRemoves place (inserts index block ++ rest) = 0 := by
  cases block with
  | nil => exact apart
  | cons row block => rfl

/-- The replay accepts a program that keeps one block when the row ids do not
clash.  Without a kept block all insertions come after it, in one group. -/
theorem replays_rearrange {head dropLeft keep dropRight addLeft kept addRight tail : List TimelineItem}
    (sameLength : keep.length = kept.length) (alone : keep = [] -> addLeft = []) (distinctBefore :
      ((head ++ (dropLeft ++ keep ++ dropRight) ++ tail).map timelineItemRenderId).Nodup)
    (distinctAfter : ((head ++ (addLeft ++ kept ++ addRight) ++ tail).map timelineItemRenderId).Nodup)
    (fresh : ∀ row ∈ addLeft ++ addRight, timelineItemRenderId row ∉ keep.map timelineItemRenderId)
    (settles : Settles timelineItemRenderId kept keep) :
    Replays (head ++ (dropLeft ++ keep ++ dropRight) ++ tail)
      (rearrange head.length dropLeft keep dropRight addLeft kept addRight)
      (head ++ (addLeft ++ kept ++ addRight) ++ tail) := by
  have distinctTable :
      ((head ++ addLeft ++ keep ++ addRight ++ tail).map timelineItemRenderId).Nodup :=
    nodup_keys_table _ distinctBefore distinctAfter fresh
  -- The program is read from its last block to its first.
  have replaced : Replays ((head ++ addLeft) ++ keep ++ (addRight ++ tail))
      (sets (head ++ addLeft).length keep kept)
      ((head ++ addLeft) ++ kept ++ (addRight ++ tail)) :=
    Replays.sets sameLength (by simpa using distinctAfter) settles
  rw [length_append] at replaced
  generalize result : (head ++ addLeft) ++ kept ++ (addRight ++ tail) = rows at replaced
  generalize setDiffs : sets (head.length + addLeft.length) keep kept = sets at replaced
  have setsApart := fun place => setDiffs ▸ sets_apart (head.length + addLeft.length) place keep kept
  have insertedRight : Replays ((head ++ addLeft ++ keep) ++ tail)
      (inserts (head ++ addLeft ++ keep).length addRight ++ sets) rows := by
    refine Replays.inserts distinctTable (fun _ => (setsApart _).1) ?_
    simpa using replaced
  rw [length_append, length_append] at insertedRight
  generalize rightDiffs : inserts (head.length + addLeft.length + keep.length) addRight =
    right at insertedRight
  have rightApart : ∀ place, countRemoves place (right ++ sets) = 0 := by
    intro place
    rw [← rightDiffs]
    exact countRemoves_inserts (setsApart place).2 _ _
  have insertedLeft : Replays (head ++ (keep ++ tail))
      (inserts head.length addLeft ++ (right ++ sets)) rows := by
    refine Replays.inserts (by simpa using nodup_keys_without _ distinctTable) ?_ ?_
    · intro present
      have nonempty : 0 < keep.length := length_pos_iff.mpr (fun none => present (alone none))
      rw [← rightDiffs]
      cases addRight with
      | nil => exact (setsApart _).1
      | cons row rest =>
        intro item others equal
        rw [inserts, cons_append, cons.injEq, insert.injEq] at equal
        omega
    · simpa using insertedRight
  have removedLeft : Replays (head ++ dropLeft ++ (keep ++ tail))
      (removes dropLeft.length head.length ++
        (inserts head.length addLeft ++ (right ++ sets))) rows :=
    Replays.removes (fun _ => countRemoves_inserts (rightApart _) _ _) insertedLeft
  have removedRight : Replays ((head ++ dropLeft ++ keep) ++ dropRight ++ tail)
      (removes dropRight.length (head ++ dropLeft ++ keep).length ++
        (removes dropLeft.length head.length ++
          (inserts head.length addLeft ++ (right ++ sets)))) rows := by
    refine Replays.removes ?_ (by simpa using removedLeft)
    intro present
    cases dropLeft with
    | nil => exact countRemoves_inserts (rightApart _) _ _
    | cons row rest =>
      have elsewhere : head.length ≠ (head ++ row :: rest ++ keep).length := by simp
      rw [removes, length_cons, replicate_succ, cons_append, countRemoves,
        if_neg elsewhere]
  rw [rearrange, rightDiffs, setDiffs]
  simpa [add_assoc, ← result] using removedRight

/-! ## The program of the builder -/

/-- Both row lists cut into the blocks that the builder works with. -/
structure DisplayPlan where
  head : List TimelineItem
  dropLeft : List TimelineItem
  keep : List TimelineItem
  dropRight : List TimelineItem
  addLeft : List TimelineItem
  kept : List TimelineItem
  addRight : List TimelineItem
  tail : List TimelineItem

/-- The plan for two middles between the same rows. -/
def middlePlan (head beforeMiddle afterMiddle tail : List TimelineItem) : DisplayPlan :=
  let run := retainedRun beforeMiddle afterMiddle
  { head := head
    dropLeft := beforeMiddle.take run.beforeIndex
    keep := (beforeMiddle.drop run.beforeIndex).take run.length
    dropRight := beforeMiddle.drop (run.beforeIndex + run.length)
    addLeft := afterMiddle.take run.afterIndex
    kept := (afterMiddle.drop run.afterIndex).take run.length
    addRight := afterMiddle.drop (run.afterIndex + run.length)
    tail := tail }

def displayPlan (displayBefore displayAfter : List TimelineItem) : DisplayPlan :=
  let start := prefixLen displayBefore displayAfter
  let stop := suffixLen displayBefore displayAfter start
  middlePlan (displayBefore.take start) (displayMiddle displayBefore start stop)
    (displayMiddle displayAfter start stop) (displayBefore.drop (displayBefore.length - stop))

/-- The diffs of a plan. -/
def DisplayPlan.diffs (plan : DisplayPlan) : List TimelineDiff :=
  VectorDiff.rearrange plan.head.length plan.dropLeft plan.keep plan.dropRight plan.addLeft plan.kept
    plan.addRight

/-- The rows that a plan starts from. -/
def DisplayPlan.before (plan : DisplayPlan) : List TimelineItem :=
  plan.head ++ (plan.dropLeft ++ plan.keep ++ plan.dropRight) ++ plan.tail

/-- The rows that a plan is made for. -/
def DisplayPlan.after (plan : DisplayPlan) : List TimelineItem :=
  plan.head ++ (plan.addLeft ++ plan.kept ++ plan.addRight) ++ plan.tail

/-- A list around a run. -/
theorem take_run_drop (items : List TimelineItem) (index length : Nat) :
    items.take index ++ (items.drop index).take length ++ items.drop (index + length) = items := by
  rw [append_assoc, ← drop_drop, take_append_drop, take_append_drop]

theorem displayPlan_before (before after : List TimelineItem) :
    (displayPlan before after).before = before := by
  obtain ⟨-, startBefore, startAfter⟩ := take_prefixLen before after
  obtain ⟨-, roomBefore, -⟩ := drop_suffixLen before after startBefore startAfter
  rw [DisplayPlan.before, displayPlan]
  dsimp only [middlePlan]
  rw [take_run_drop]
  exact (displayMiddle_frame roomBefore).symm

theorem displayPlan_after (before after : List TimelineItem) :
    (displayPlan before after).after = after := by
  obtain ⟨sameHead, startBefore, startAfter⟩ := take_prefixLen before after
  obtain ⟨sameTail, -, roomAfter⟩ := drop_suffixLen before after startBefore startAfter
  rw [DisplayPlan.after, displayPlan]
  dsimp only [middlePlan]
  rw [take_run_drop, sameHead, sameTail]
  exact (displayMiddle_frame roomAfter).symm

/-- The middles have unique row ids when the lists have. -/
theorem nodup_displayMiddle {items : List TimelineItem} (start stop : Nat)
    (distinct : (items.map timelineItemRenderId).Nodup) :
    ((displayMiddle items start stop).map timelineItemRenderId).Nodup :=
  distinct.sublist (((drop_sublist _ _).trans (take_sublist _ _)).map _)

section Plan

variable {head beforeMiddle afterMiddle tail : List TimelineItem}

theorem retainedRun_inside (afterMiddle : List TimelineItem)
    (distinct : (beforeMiddle.map timelineItemRenderId).Nodup) :
    (retainedRun beforeMiddle afterMiddle).beforeIndex +
        (retainedRun beforeMiddle afterMiddle).length ≤ beforeMiddle.length ∧
      (retainedRun beforeMiddle afterMiddle).afterIndex +
        (retainedRun beforeMiddle afterMiddle).length ≤ afterMiddle.length := by
  rw [retainedRun]
  split
  · exact ⟨zero_le _, zero_le _⟩
  next sameLength =>
  rw [not_not] at sameLength
  split
  · exact ⟨by simp, by simp [sameLength]⟩
  have found := longestIdentityRun_matches afterMiddle distinct
  exact ⟨by simpa using found.insideBefore, by simpa using found.insideAfter⟩

/-- Rows that keep their row ids in place, or take an unknown one, never take a later one. -/
theorem settles_of_forall₂ {keep kept : List TimelineItem}
    (safe : Forall₂ (fun old row => timelineItemRenderId old = timelineItemRenderId row ∨
      timelineItemRenderId row ∉ beforeIds) keep kept) (distinct : (keep.map timelineItemRenderId).Nodup)
    (inside : keep.map timelineItemRenderId ⊆ beforeIds) : Settles timelineItemRenderId kept keep := by
  induction safe with
  | nil => trivial
  | cons here _ ih =>
    rw [map_cons, nodup_cons] at distinct
    rw [map_cons, cons_subset] at inside
    refine ⟨?_, ih distinct.2 inside.2⟩
    rcases here with same | outside
    · exact same ▸ distinct.1
    · exact fun member => outside (inside.2 member)

section

variable (distinct : (beforeMiddle.map timelineItemRenderId).Nodup)
include distinct

theorem middlePlan_length : (middlePlan head beforeMiddle afterMiddle tail).keep.length =
      (middlePlan head beforeMiddle afterMiddle tail).kept.length := by
  dsimp only [middlePlan]
  have inside := retainedRun_inside afterMiddle distinct
  rw [length_take, length_take, length_drop, length_drop,
    Nat.min_eq_left (Nat.le_sub_of_add_le' inside.1), Nat.min_eq_left (Nat.le_sub_of_add_le' inside.2)]

/-- Rows are inserted before the kept run only if there is one. -/
theorem middlePlan_alone (empty : (middlePlan head beforeMiddle afterMiddle tail).keep = []) :
    (middlePlan head beforeMiddle afterMiddle tail).addLeft = [] := by
  revert empty
  dsimp only [middlePlan]
  rw [retainedRun]
  split
  · simp
  split
  · simp
  next moved =>
  intro empty
  have positive := longestIdentityRun_pos distinct (by simpa using moved)
  have found := longestIdentityRun_matches afterMiddle distinct
  have inside := found.insideBefore
  rw [length_map] at inside
  have length := congrArg List.length empty
  rw [length_take, length_drop, length_nil] at length
  omega

/-- By row id no inserted row clashes with a kept one, and no kept row takes the
row id of a later one. -/
theorem middlePlan_rows_settle (distinctAfter : (afterMiddle.map timelineItemRenderId).Nodup) :
    let plan := middlePlan head beforeMiddle afterMiddle tail
    (∀ row ∈ plan.addLeft ++ plan.addRight,
      timelineItemRenderId row ∉ plan.keep.map timelineItemRenderId) ∧
      Settles timelineItemRenderId plan.kept plan.keep := by
  dsimp only [middlePlan]
  rw [retainedRun]
  split
  · simp [Settles]
  next sameLength =>
  rw [not_not] at sameLength
  split
  · next safe =>
    have all : afterMiddle.take beforeMiddle.length = afterMiddle := by rw [sameLength, take_length]
    have nothing : afterMiddle.drop (0 + beforeMiddle.length) = [] := by
      rw [zero_add, sameLength, drop_length]
    rw [drop_zero, drop_zero, take_length, all, take_zero, nothing]
    refine ⟨by simp, settles_of_forall₂ (forall₂_iff_zip.mpr ⟨sameLength, ?_⟩) distinct (Subset.refl _)⟩
    intro before after member
    simp only [positionalSetsAreSafe, all_eq_true] at safe
    simpa using safe (before, after) member
  · have found := longestIdentityRun_matches afterMiddle distinct
    generalize longestIdentityRun beforeMiddle afterMiddle = run at found ⊢
    have same : ((beforeMiddle.drop run.beforeIndex).take run.length).map timelineItemRenderId =
        ((afterMiddle.drop run.afterIndex).take run.length).map timelineItemRenderId := by
      rw [map_take, map_drop, map_take, map_drop]
      exact found.take_eq
    constructor
    · intro row member
      rw [same]
      have parts := take_run_drop afterMiddle run.afterIndex run.length
      rw [← parts] at distinctAfter
      have own : timelineItemRenderId row ∈ _ := mem_map_of_mem member
      simp only [map_append, nodup_append, mem_append] at distinctAfter own
      intro taken
      rcases own with left | right
      · exact distinctAfter.1.2.2 _ left _ taken rfl
      · exact distinctAfter.2.2 _ (.inr taken) _ right rfl
    · have placed := forall₂_map_left_iff.mp (forall₂_map_right_iff.mp (forall₂_eq_eq_eq ▸ same))
      refine settles_of_forall₂ (placed.imp fun _ _ => .inl) (distinct.sublist (Sublist.map _ ?_))
        (Subset.refl _)
      exact (take_sublist _ _).trans (drop_sublist _ _)

/-- The three programs of the builder are the one program of the plan. -/
theorem middlePlan_diffs : (middlePlan head beforeMiddle afterMiddle tail).diffs =
      if beforeMiddle.length ≠ afterMiddle.length then
        removes beforeMiddle.length head.length ++ inserts head.length afterMiddle
      else if positionalSetsAreSafe beforeMiddle afterMiddle then
        sets head.length beforeMiddle afterMiddle else keepRunDiffs head.length beforeMiddle afterMiddle
          (longestIdentityRun beforeMiddle afterMiddle) := by
  dsimp only [DisplayPlan.diffs, rearrange, middlePlan]
  rw [retainedRun]
  split
  · simp [removes, inserts, sets]
  next sameLength =>
  rw [not_not] at sameLength
  split
  · have all : afterMiddle.take beforeMiddle.length = afterMiddle := by rw [sameLength, take_length]
    have nothing : afterMiddle.drop beforeMiddle.length = [] := by rw [sameLength, drop_length]
    simp [removes, inserts, all, nothing]
  · have found := longestIdentityRun_matches afterMiddle distinct
    have insideBefore := found.insideBefore
    have insideAfter := found.insideAfter
    rw [length_map] at insideBefore insideAfter
    generalize longestIdentityRun beforeMiddle afterMiddle = run at insideBefore insideAfter ⊢
    rw [keepRunDiffs]
    have dropped : (beforeMiddle.take run.beforeIndex).length = run.beforeIndex := by simp; omega
    have added : (afterMiddle.take run.afterIndex).length = run.afterIndex := by simp; omega
    have kept : ((beforeMiddle.drop run.beforeIndex).take run.length).length = run.length := by
      simp; omega
    rw [dropped, added, kept, length_drop]

end

end Plan

section Published

variable {before after : List TimelineItem}

variable (rowsBefore : (before.map timelineItemRenderId).Nodup)
  (rowsAfter : (after.map timelineItemRenderId).Nodup)

include rowsBefore rowsAfter in
theorem buildDisplayProjectionDiffs_eq (present : after ≠ []) :
    buildDisplayProjectionDiffs before after = some (displayPlan before after).diffs := by
  have unique : (Std.ExtTreeSet.ofList (after.map timelineItemRenderId) : OrdSet String).size =
      after.length := by
    rw [← length_map (f := timelineItemRenderId)]
    exact OrdSet.size_ofList_eq_length_iff.mpr rowsAfter
  obtain ⟨-, startBefore, -⟩ := take_prefixLen before after
  have start : (before.take (prefixLen before after)).length = prefixLen before after := by
    rw [length_take, Nat.min_eq_left startBefore]
  rw [buildDisplayProjectionDiffs, displayPlan]
  dsimp only
  rw [if_neg (not_not_intro unique), if_neg (by simpa using present),
    middlePlan_diffs (nodup_displayMiddle _ _ rowsBefore), start]
  split
  · rfl
  · split <;> rfl

include rowsBefore rowsAfter in
/-- With unique row ids the replay accepts every program of the builder. -/
theorem validateDisplayProjectionDiffs_build :
    validateDisplayProjectionDiffs before (displayPlan before after).diffs after = true := by
  have settles : _ ∧ Settles timelineItemRenderId (displayPlan before after).kept _ :=
    middlePlan_rows_settle (nodup_displayMiddle _ _ rowsBefore) (nodup_displayMiddle _ _ rowsAfter)
  have planBefore : ((displayPlan before after).before.map timelineItemRenderId).Nodup := by
    rwa [displayPlan_before]
  have planAfter : ((displayPlan before after).after.map timelineItemRenderId).Nodup := by
    rwa [displayPlan_after]
  have replays : Replays (displayPlan before after).before (displayPlan before after).diffs
      (displayPlan before after).after :=
    replays_rearrange (middlePlan_length (nodup_displayMiddle _ _ rowsBefore))
      (middlePlan_alone (nodup_displayMiddle _ _ rowsBefore)) planBefore planAfter settles.1 settles.2
  rw [displayPlan_before, displayPlan_after] at replays
  rw [validateDisplayProjectionDiffs, decide_eq_true_eq]
  exact replays _ (indexExact_ofKeys rowsBefore) _ le_rfl

variable {translationAmbiguous : Bool}

/-- A valid program is published unless the translation is ambiguous. -/
theorem finalizeDisplayProjectionDiffs_of_valid {diffs : List TimelineDiff}
    (built : buildDisplayProjectionDiffs before after = some diffs)
    (valid : validateDisplayProjectionDiffs before diffs after = true) :
    finalizeDisplayProjectionDiffs before after translationAmbiguous =
      (if translationAmbiguous then [.reset after] else diffs, translationAmbiguous) := by
  cases translationAmbiguous <;> simp [finalizeDisplayProjectionDiffs, built, valid]

include rowsBefore rowsAfter in
/-- With unique row ids the reset is taken for an ambiguous translation only. -/
theorem finalizeDisplayProjectionDiffs_eq :
    finalizeDisplayProjectionDiffs before after translationAmbiguous =
      (if translationAmbiguous then [.reset after]
        else if after = [] then (if before.isEmpty then [] else [.clear])
        else (displayPlan before after).diffs, translationAmbiguous) := by
  by_cases present : after = []
  · subst present
    have valid : validateDisplayProjectionDiffs before
        (if before.isEmpty then [] else [.clear]) [] = true := by
      cases before <;> rfl
    rw [finalizeDisplayProjectionDiffs_of_valid rfl valid, if_pos rfl]
  · rw [finalizeDisplayProjectionDiffs_of_valid (buildDisplayProjectionDiffs_eq rowsBefore rowsAfter present)
      (validateDisplayProjectionDiffs_build rowsBefore rowsAfter), if_neg present]

/-! ## The desktop -/

/-- No row takes the item id of a kept row from outside the kept run, or from an
earlier place in it. -/
def RetainedIdsStay (before after : List TimelineItem) : Prop :=
  (∀ row ∈ (displayPlan before after).addLeft ++ (displayPlan before after).addRight,
    domId row ∉ (displayPlan before after).keep.map domId) ∧
    VectorDiff.Settles domId (displayPlan before after).kept (displayPlan before after).keep

instance (before after : List TimelineItem) : Decidable (RetainedIdsStay before after) :=
  inferInstanceAs (Decidable (_ ∧ _))

theorem retainedIdsStay_nil : RetainedIdsStay before [] := by
  constructor
  · intro row member
    simp [displayPlan, middlePlan, displayMiddle] at member
  · simp [displayPlan, middlePlan, displayMiddle, Settles]

/-- A reset gives the desktop the rows when their item ids are unique. -/
theorem applyAllKeyed_reset {rows : List TimelineItem} (distinct : (after.map domId).Nodup) :
    applyAllKeyed domId rows [.reset after] = after :=
  keepFirst_of_nodup domId distinct (by simp)

/-- The program of the plan gives the rows after exactly when the ids of the
kept rows stay. -/
theorem applyAllKeyed_plan_iff (idsBefore : (before.map domId).Nodup)
    (idsAfter : (after.map domId).Nodup) (rowsBefore : (before.map timelineItemRenderId).Nodup) :
    applyAllKeyed domId before (displayPlan before after).diffs = after ↔
      RetainedIdsStay before after := by
  have planBefore : ((displayPlan before after).before.map domId).Nodup := by rwa [displayPlan_before]
  have planAfter : ((displayPlan before after).after.map domId).Nodup := by rwa [displayPlan_after]
  have applied : applyAllKeyed domId (displayPlan before after).before
      (displayPlan before after).diffs = (displayPlan before after).after ↔
      RetainedIdsStay before after :=
    applyAllKeyed_rearrange_iff domId
      (middlePlan_length (nodup_displayMiddle _ _ rowsBefore)) planBefore planAfter
  rwa [displayPlan_before, displayPlan_after] at applied

end Published

/-! ## Thread roots that change places -/

/-- The row of an ordinary event. -/
def eventRow (eventId : String) : TimelineItem where
  id := .event eventId
  body := none
  timestampMs := none
  threadRoot := none
  threadSummary := none
  isHidden := false
  displayMetadata := some ⟨eventId, .event, some eventId, some eventId, none⟩

/-- The row of the same event once it is the root of a thread. -/
def threadRootRow (eventId activityEventId : String) : TimelineItem :=
  { eventRow eventId with
    displayMetadata := some ⟨"thread-root:" ++ eventId, .threadRoot, some eventId, some activityEventId,
      none⟩ }

end Koushi
