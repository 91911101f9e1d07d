import Koushi.Timeline.DisplayMembership

namespace Koushi

open Collections List Treap Nat

/-!
# What the membership rope stands for

A rope stands for one entry per canonical item: a slot with the item it shows, or
a hidden entry.  Every edit of a sound rope succeeds, keeps it sound, and edits
the entries at the same index as the source edits the canonical items.  The bound
at the live edge only hides entries.

`Tracks` relates a rope to the canonical items: as many entries as items, and
every slot shows the item at its index.
-/

inductive MembershipEntry where
  | gap
  | suppressed
  | slot (item : TimelineItem)
deriving DecidableEq, Repr

/-- The entries of a cell. -/
def DisplayMembershipCell.entries : DisplayMembershipCell -> List MembershipEntry
  | gap len => List.replicate len .gap
  | suppressed len => List.replicate len .suppressed
  | slot item => [.slot item]

/-- The entry of a hidden item. -/
def MembershipEntry.hidden (item : TimelineItem) : MembershipEntry :=
  if itemOccupiesDisplayRow item then .gap else .suppressed

open MembershipEntry

open DisplayMembershipCell in
theorem membershipKind_unfolds : membershipKind.Unfolds entries where
  width_nothing := rfl
  width_join _ _ := rfl
  width_measure cell := by
    cases cell <;> simp [membershipKind, entries, canonicalLen]
  cut_inside cell offset positive inside := by
    cases cell with
    | gap | suppressed =>
      rw [entries, length_replicate] at inside
      refine ⟨_, _, rfl, ?_, ?_⟩
      · simp [entries, take_replicate, min_eq_left (le_of_lt inside)]
      · simp [entries, drop_replicate]
    | slot item =>
      rw [entries, length_singleton] at inside
      omega

variable {item : TimelineItem}

theorem entries_hidden :
    (DisplayMembershipCell.hidden item).entries = [MembershipEntry.hidden item] := by
  rw [DisplayMembershipCell.hidden, MembershipEntry.hidden]
  split <;> rfl

open DisplayMembershipCell renaming entries → cellEntries

namespace DisplayMembershipRope

/-- The entries of a rope. -/
def entries (rope : DisplayMembershipRope) : List MembershipEntry :=
  Treap.flat DisplayMembershipCell.entries rope.root

/-- The cached values of the rope are right and it has no empty cell. -/
def Sound (rope : DisplayMembershipRope) : Prop :=
  Treap.Sound membershipKind DisplayMembershipCell.entries rope.root

variable {rope : DisplayMembershipRope}

theorem Sound.canonicalLen_eq (sound : rope.Sound) : rope.canonicalLen = rope.entries.length :=
  Treap.width_eq membershipKind_unfolds sound

/-- A sound rope is split into sound parts. -/
theorem split_spec {link : DisplayMembershipLink}
    (sound : Treap.Sound membershipKind cellEntries link) (seed : UInt64) (index : Nat) :
    ∃ left right next, split seed link index = some (left, right, next) ∧
      Treap.Sound membershipKind cellEntries left ∧ Treap.Sound membershipKind cellEntries right ∧
      flat cellEntries left = (flat cellEntries link).take index ∧
      flat cellEntries right = (flat cellEntries link).drop index :=
  Treap.split_spec membershipKind_unfolds nextPriority seed sound index

/-! ## Construction -/

/-- Leaving out cells without entries changes no entry. -/
theorem flatMap_entries_filter {keep : DisplayMembershipCell -> Bool}
    (dropped : ∀ cell, keep cell = false -> cell.entries = []) (cells : List DisplayMembershipCell) :
    (cells.filter keep).flatMap cellEntries = cells.flatMap cellEntries := by
  induction cells with
  | nil => rfl
  | cons cell rest ih =>
    rw [flatMap_cons, ← ih]
    cases kept : keep cell with
    | true => rw [filter_cons_of_pos kept, flatMap_cons]
    | false =>
      rw [filter_cons_of_neg (by simp [kept]), dropped cell kept, nil_append]

theorem fromCells_spec (cells : List DisplayMembershipCell) :
    ∃ rope, fromCells cells = some rope ∧ rope.Sound ∧ rope.entries = cells.flatMap cellEntries := by
  have inhabited : ∀ cell ∈ cells.filter (fun cell => !(cell = .gap 0 || cell = .suppressed 0)),
      cell.entries ≠ [] := by
    intro cell member
    obtain ⟨-, nonempty⟩ := mem_filter.mp member
    cases cell with
    | gap | suppressed => simpa [cellEntries] using nonempty
    | slot item => simp [cellEntries]
  obtain ⟨tree, seed, built, sound, cellsEq⟩ :=
    CartesianTree.ofCells_spec membershipKind cellEntries nextPriority 1 inhabited
  refine ⟨⟨tree, seed⟩, by rw [fromCells]; dsimp only; rw [built]; rfl, sound, ?_⟩
  rw [entries, flat, cellsEq]
  apply flatMap_entries_filter
  intro cell empty
  cases cell with
  | gap | suppressed => simpa [cellEntries] using empty
  | slot item => simp at empty

/-! ## Around one entry -/

/-- What a split around one canonical index yields. -/
structure SplitsAt (entries : List MembershipEntry) (index : Nat) (parts : SplitOne) : Prop where
  leftSound : Treap.Sound membershipKind DisplayMembershipCell.entries parts.left
  rightSound : Treap.Sound membershipKind DisplayMembershipCell.entries parts.right
  alone : parts.middleLeft = .nil ∧ parts.middleRight = .nil
  left : Treap.flat DisplayMembershipCell.entries parts.left = entries.take index
  right : Treap.flat DisplayMembershipCell.entries parts.right = entries.drop (index + 1)
  cell : ∃ entry, parts.cell.entries = [entry] ∧ entries[index]? = some entry

/-- A sound tree without entries is empty. -/
theorem eq_nil_of_flat_eq_nil {link : DisplayMembershipLink}
    (sound : Treap.Sound membershipKind cellEntries link) (empty : flat cellEntries link = []) :
    link = .nil := by
  cases link with
  | nil => rfl
  | node cell left right priority summary =>
    rw [flat_node, append_eq_nil_iff, append_eq_nil_iff] at empty
    exact absurd empty.2.1 sound.2.1

/-- Inside a sound rope the middle part is always one unit. -/
theorem Sound.splitOne (sound : rope.Sound) {index : Nat} (inside : index < rope.entries.length) :
    ∃ rest parts, rope.splitOne index = some (rest, some parts) ∧ SplitsAt rope.entries index parts := by
  obtain ⟨left, tail, seed, first, leftSound, tailSound, leftEq, tailEq⟩ :=
    split_spec sound rope.nextSeed index
  obtain ⟨middle, right, seed', second, middleSound, rightSound, middleEq, rightEq⟩ :=
    split_spec tailSound seed 1
  have present : ¬index ≥ rope.canonicalLen := by rw [sound.canonicalLen_eq]; omega
  have stands : rope.entries[index]? = some rope.entries[index] := getElem?_eq_getElem inside
  have unit : flat cellEntries middle = [rope.entries[index]] := by
    rw [middleEq, tailEq]
    exact take_one_drop_eq_of_lt_length inside
  rw [DisplayMembershipRope.splitOne, if_neg present, first]
  dsimp only
  rw [second]
  cases middle with
  | nil => simp at unit
  | node cell middleLeft middleRight priority summary =>
    have length : summary.canonicalLen = 1 := by
      have width := Treap.width_eq membershipKind_unfolds middleSound
      rw [unit] at width
      exact width
    obtain ⟨-, inhabited, middleLeftSound, middleRightSound⟩ := middleSound
    rw [flat_node] at unit
    -- The cell has the one entry, so nothing is left for the children.
    have total := congrArg List.length unit
    have positive := length_pos_iff.mpr inhabited
    simp only [length_append, length_singleton] at total
    have leftNil : flat cellEntries middleLeft = [] := length_eq_zero_iff.mp (by omega)
    have rightNil : flat cellEntries middleRight = [] := length_eq_zero_iff.mp (by omega)
    rw [leftNil, rightNil, nil_append, append_nil] at unit
    refine ⟨_, _, by dsimp only; rw [if_pos length], leftSound, rightSound,
      ⟨eq_nil_of_flat_eq_nil middleLeftSound leftNil, eq_nil_of_flat_eq_nil middleRightSound rightNil⟩,
      leftEq, ?_, rope.entries[index], unit, stands⟩
    rw [rightEq, tailEq, drop_drop]
    rfl

/-- Past the end nothing is split. -/
theorem Sound.splitOne_past (sound : rope.Sound) {index : Nat} (past : rope.entries.length ≤ index) :
    rope.splitOne index = some (rope, none) := by
  rw [DisplayMembershipRope.splitOne, if_pos (by rw [sound.canonicalLen_eq]; omega)]

theorem SplitsAt.rejoin {entries : List MembershipEntry} {index : Nat} {parts : SplitOne}
    (splits : SplitsAt entries index parts) {cell : DisplayMembershipCell} {entry : MembershipEntry}
    (unit : cell.entries = [entry]) : Treap.Sound membershipKind cellEntries (parts.rejoin cell) ∧
      flat cellEntries (parts.rejoin cell) = entries.take index ++ entry :: entries.drop (index + 1) := by
  obtain ⟨leftNil, rightNil⟩ := splits.alone
  rw [SplitOne.rejoin, leftNil, rightNil, merge, merge]
  constructor
  · refine sound_merge (sound_merge splits.leftSound ?_) splits.rightSound
    exact sound_refreshed (by rw [unit]; simp) trivial trivial
  · rw [flat_merge, flat_merge, splits.left, splits.right, flat_refreshed, unit]
    simp

end DisplayMembershipRope

/-! ## Following the canonical items -/

/-- A slot shows the item it has; a hidden entry stands for any item. -/
def MembershipEntry.Shows : MembershipEntry -> TimelineItem -> Prop
  | .slot item, canonical => item = canonical
  | _, _ => True

theorem MembershipEntry.shows_hidden (item canonical : TimelineItem) :
    (MembershipEntry.hidden item).Shows canonical := by
  rw [MembershipEntry.hidden]
  split <;> trivial

namespace DisplayMembershipRope

/-- The rope is sound, has as many entries as there are canonical items, and every
slot shows the item at its index. -/
structure Follows (rope : DisplayMembershipRope) (canonical : List TimelineItem) : Prop where
  sound : rope.Sound
  tracks : List.Forall₂ Shows rope.entries canonical

variable {rope : DisplayMembershipRope} {canonical : List TimelineItem}

variable (follows : rope.Follows canonical)

include follows in
theorem Follows.length_eq : rope.entries.length = canonical.length := follows.tracks.length_eq

include follows in
theorem Follows.canonicalLen_eq : rope.canonicalLen = canonical.length :=
  follows.sound.canonicalLen_eq.trans follows.length_eq

/-- An entry between two parts that track. -/
theorem forall₂_middle {left right : List MembershipEntry} {before after : List TimelineItem}
    {entry : MembershipEntry} {item : TimelineItem}
    (leftTracks : Forall₂ Shows left before) (shows_ : entry.Shows item)
    (rightTracks : Forall₂ Shows right after) :
    Forall₂ Shows (left ++ entry :: right) (before ++ item :: after) :=
  rel_append leftTracks (.cons shows_ rightTracks)

variable {index : Nat}

include follows in
theorem Follows.insert (inside : index ≤ canonical.length) (item : TimelineItem) (include? : Option Bool) :
    ∃ next, rope.insert index item include? = some (next, true) ∧
      next.Follows (canonical.insertIdx index item) := by
  obtain ⟨left, right, seed, split, leftSound, rightSound, leftEq, rightEq⟩ :=
    split_spec follows.sound rope.nextSeed index
  rw [DisplayMembershipRope.insert, if_neg (by rw [follows.canonicalLen_eq]; omega), split]
  dsimp only
  generalize include?.getD _ = shown
  generalize (nextPriority seed).1 = priority
  generalize (nextPriority seed).2 = seed'
  obtain ⟨entry, unit, shows_⟩ : ∃ entry, (if shown = true then DisplayMembershipCell.slot item
      else DisplayMembershipCell.hidden item).entries = [entry] ∧ entry.Shows item := by
    cases shown with
    | true => exact ⟨.slot item, rfl, rfl⟩
    | false => exact ⟨_, entries_hidden, shows_hidden item item⟩
  refine ⟨_, rfl, ?_, ?_⟩
  · refine sound_merge (sound_merge leftSound (sound_leaf ?_)) rightSound
    rw [unit]
    simp
  · rw [entries, merge, merge, flat_merge, flat_merge, flat_leaf, unit, leftEq, rightEq]
    have placed : canonical.insertIdx index item = canonical.take index ++ item :: canonical.drop index := by
      have parts := VectorDiff.insertIdx_append_length (canonical.take index) (canonical.drop index) item
      rwa [take_append_drop, length_take, min_eq_left inside] at parts
    rw [placed, append_assoc, singleton_append]
    exact forall₂_middle (forall₂_take index follows.tracks) shows_
      (forall₂_drop index follows.tracks)

include follows in
/-- The parts around an entry, joined again around a cell for the new item. -/
theorem Follows.rejoin {parts : SplitOne} (splits : SplitsAt rope.entries index parts)
    {cell : DisplayMembershipCell} {entry : MembershipEntry} (unit : cell.entries = [entry])
    {item : TimelineItem} (shows_ : entry.Shows item) (seed : UInt64) :
    Follows ⟨parts.rejoin cell, seed⟩ (canonical.take index ++ item :: canonical.drop (index + 1)) := by
  obtain ⟨sound, joined⟩ := splits.rejoin unit
  refine ⟨sound, ?_⟩
  rw [entries, joined]
  exact forall₂_middle (forall₂_take index follows.tracks) shows_
    (forall₂_drop (index + 1) follows.tracks)

theorem set_eq_take_cons_drop {items : List TimelineItem} (inside : index < items.length) : items.set index item = items.take index ++ item :: items.drop (index + 1) := by
  rw [set_eq_take_append_cons_drop, if_pos inside]

include follows in
theorem Follows.set (inside : index < canonical.length) (item : TimelineItem) (expectedRenderId : String) :
    ∃ next valid, rope.set index item expectedRenderId = some (next, valid) ∧
      next.Follows (canonical.set index item) := by
  obtain ⟨rest, parts, split, splits⟩ :=
    follows.sound.splitOne (by rw [follows.length_eq]; exact inside)
  rw [DisplayMembershipRope.set, split, set_eq_take_cons_drop inside]
  have unit : (DisplayMembershipCell.slot item).entries = [.slot item] := rfl
  have own : (MembershipEntry.slot item).Shows item := rfl
  dsimp only
  split
  · exact ⟨_, _, rfl, follows.rejoin splits unit own rest.nextSeed⟩
  · exact ⟨_, _, rfl, follows.rejoin splits (entries_hidden)
      (shows_hidden item item) rest.nextSeed⟩

include follows in
theorem Follows.remove (inside : index < canonical.length) (expectedRenderId : String) :
    ∃ next valid, rope.remove index expectedRenderId = some (next, valid) ∧
      next.Follows (canonical.eraseIdx index) := by
  obtain ⟨rest, parts, split, splits⟩ :=
    follows.sound.splitOne (by rw [follows.length_eq]; exact inside)
  rw [DisplayMembershipRope.remove, split]
  refine ⟨_, _, rfl, sound_merge splits.leftSound splits.rightSound, ?_⟩
  rw [entries, merge, flat_merge, splits.left, splits.right, eraseIdx_eq_take_drop_succ]
  exact rel_append (forall₂_take index follows.tracks)
    (forall₂_drop (index + 1) follows.tracks)

include follows in
theorem Follows.truncate (length : Nat) :
    ∃ next, rope.truncate length = some next ∧ next.Follows (canonical.take length) := by
  obtain ⟨left, right, seed, split, leftSound, -, leftEq, -⟩ :=
    split_spec follows.sound rope.nextSeed (min length rope.canonicalLen)
  rw [DisplayMembershipRope.truncate, split]
  refine ⟨_, rfl, leftSound, ?_⟩
  have taken : canonical.take length = canonical.take (min length rope.canonicalLen) := by
    rw [follows.canonicalLen_eq, take_eq_take_min]
  rw [entries, leftEq, taken]
  exact forall₂_take _ follows.tracks

theorem follows_nil (seed : UInt64) : Follows ⟨.nil, seed⟩ [] := ⟨trivial, .nil⟩

end DisplayMembershipRope

/-! ## Hiding -/

/-- An entry stays, or becomes one that stands for any item. -/
def MembershipEntry.Fades (before after : MembershipEntry) : Prop :=
  after = before ∨ ∀ item, after.Shows item

theorem MembershipEntry.fades_hidden (before : MembershipEntry) :
    before.Fades (MembershipEntry.hidden item) :=
  .inr (shows_hidden item)

theorem forall₂_fades_refl (entries : List MembershipEntry) : Forall₂ Fades entries entries :=
  forall₂_same.mpr (fun _ _ => .inl rfl)

/-- What fades still tracks. -/
theorem forall₂_shows_of_fades {before after : List MembershipEntry} {canonical : List TimelineItem}
    (fades : Forall₂ Fades before after) (tracks : Forall₂ Shows before canonical) :
    Forall₂ Shows after canonical := by
  induction fades generalizing canonical with
  | nil => exact tracks
  | cons fade _ ih =>
    cases tracks with
    | cons own rest =>
      refine .cons ?_ (ih rest)
      rcases fade with same | any
      · exact same ▸ own
      · exact any _

namespace DisplayMembershipRope

variable {rope : DisplayMembershipRope} {canonical : List TimelineItem}

theorem hideCell_spec {cell : DisplayMembershipCell} (inhabited : cell.entries ≠ [])
    (remaining : Nat × Nat) : Forall₂ Fades cell.entries (hideCell remaining cell).1.entries ∧
      (hideCell remaining cell).1.entries ≠ [] := by
  unfold hideCell
  split
  · next item =>
    split
    · rw [entries_hidden]
      exact ⟨.cons (fades_hidden _) .nil, cons_ne_nil _ _⟩
    · exact ⟨forall₂_fades_refl _, inhabited⟩
  · exact ⟨forall₂_fades_refl _, inhabited⟩

theorem hideFirstVisible_spec {link : DisplayMembershipLink}
    (sound : Treap.Sound membershipKind cellEntries link) (remaining : Nat × Nat) :
    Treap.Sound membershipKind cellEntries (hideFirstVisible link remaining).1 ∧
      Forall₂ Fades (flat cellEntries link) (flat cellEntries (hideFirstVisible link remaining).1) := by
  induction link generalizing remaining with
  | nil => exact ⟨trivial, .nil⟩
  | node cell left right priority summary hideLeft hideRight =>
    rw [hideFirstVisible]
    split
    · exact ⟨sound, forall₂_fades_refl _⟩
    · obtain ⟨-, inhabited, leftSound, rightSound⟩ := sound
      obtain ⟨leftSound', leftFades⟩ := hideLeft leftSound remaining
      obtain ⟨cellFades, inhabited'⟩ := hideCell_spec inhabited (hideFirstVisible left remaining).2
      obtain ⟨rightSound', rightFades⟩ := hideRight rightSound
        (hideCell (hideFirstVisible left remaining).2 cell).2
      refine ⟨sound_refreshed inhabited' leftSound' rightSound', ?_⟩
      rw [flat_node, flat_refreshed]
      exact rel_append leftFades (rel_append cellFades rightFades)

section

variable (follows : rope.Follows canonical)
include follows

theorem Follows.hideAt (index : Nat) :
    ∃ next, rope.hideAt index = some next ∧ next.Follows canonical := by
  rw [DisplayMembershipRope.hideAt]
  by_cases inside : index < rope.entries.length
  · obtain ⟨rest, parts, split, splits⟩ := follows.sound.splitOne inside
    obtain ⟨entry, unit, stands⟩ := splits.cell
    have bound : index < canonical.length := by rw [← follows.length_eq]; exact inside
    -- The canonical items are put together again as they were.
    have same : canonical.take index ++ canonical[index] :: canonical.drop (index + 1) = canonical := by
      rw [← drop_eq_getElem_cons bound, take_append_drop]
    have own : entry.Shows canonical[index] := by
      have shows_ := follows.tracks.get inside bound
      rw [getElem?_eq_getElem inside] at stands
      rw [← Option.some.inj stands]
      simpa using shows_
    rw [split]
    dsimp only
    split
    · next item _ =>
      have joined := follows.rejoin splits (entries_hidden)
        (shows_hidden item canonical[index]) rest.nextSeed
      rw [same] at joined
      exact ⟨_, rfl, joined⟩
    · have joined := follows.rejoin splits unit own rest.nextSeed
      rw [same] at joined
      exact ⟨_, rfl, joined⟩
  · rw [follows.sound.splitOne_past (by omega)]
    exact ⟨rope, rfl, follows⟩

theorem Follows.foldlM_hideAt (stale : List Nat) :
    ∃ next, stale.foldlM DisplayMembershipRope.hideAt rope = some next ∧ next.Follows canonical := by
  induction stale generalizing rope with
  | nil => exact ⟨rope, rfl, follows⟩
  | cons index rest ih =>
    obtain ⟨next, hidden, nextFollows⟩ := follows.hideAt index
    obtain ⟨last, finished, lastFollows⟩ := ih nextFollows
    refine ⟨last, ?_, lastFollows⟩
    rw [foldlM_cons, hidden]
    exact finished

theorem Follows.retainNewestReplyPerRoot :
    ∃ next, rope.retainNewestReplyPerRoot = some next ∧ next.Follows canonical := by
  rw [DisplayMembershipRope.retainNewestReplyPerRoot]
  split
  · exact ⟨rope, rfl, follows⟩
  · exact follows.foldlM_hideAt _

/-- The bound at the live edge hides entries and moves none. -/
theorem Follows.trimToLiveEdge (maxItems : Option Nat) :
    ∃ next, rope.trimToLiveEdge maxItems = some next ∧ next.Follows canonical := by
  cases maxItems with
  | none => exact ⟨rope, rfl, follows⟩
  | some maxItems =>
    obtain ⟨retained, kept, retainedFollows⟩ := follows.retainNewestReplyPerRoot
    rw [DisplayMembershipRope.trimToLiveEdge, kept]
    obtain ⟨sound, fades⟩ := hideFirstVisible_spec retainedFollows.sound
      (retained.visibleLen - maxItems * 2, retained.renderableVisibleLen - maxItems)
    exact ⟨_, rfl, sound, forall₂_shows_of_fades fades retainedFollows.tracks⟩

end

end DisplayMembershipRope

/-! ## Slots -/

/-- The canonical indices of the slots increase, are in range, and have the items
of the slots. -/
structure SlotsFollow (slots : List DisplayProjectionSlot) (canonical : List TimelineItem) : Prop where
  increasing : slots.Pairwise (fun earlier later => earlier.canonicalIndex < later.canonicalIndex)
  shown : ∀ slot ∈ slots, canonical[slot.canonicalIndex]? = some slot.item

theorem SlotsFollow.sublist {slots kept : List DisplayProjectionSlot} {canonical : List TimelineItem}
    (follow : SlotsFollow slots canonical) (sub : kept.Sublist slots) : SlotsFollow kept canonical where
  increasing := follow.increasing.sublist sub
  shown slot member := follow.shown slot (sub.subset member)

namespace DisplayMembershipRope

/-- Entries that stand for any item track any items. -/
theorem forall₂_of_any {run : List MembershipEntry} {items : List TimelineItem}
    (sameLength : run.length = items.length) (any : ∀ entry ∈ run, ∀ item, entry.Shows item) :
    Forall₂ Shows run items :=
  forall₂_iff_zip.mpr ⟨sameLength, fun paired => any _ (of_mem_zip paired).1 _⟩

/-- A run has as many entries as asked, whatever its ends are, and all are hidden. -/
theorem pushRun_entries (cells : List DisplayMembershipCell) (len : Nat) (ends : GapEnds) :
    ∃ run, (pushRun cells len ends).flatMap cellEntries =
        cells.flatMap cellEntries ++ run ∧ run.length = len ∧
      ∀ entry ∈ run, ∀ item, entry.Shows item := by
  rw [pushRun]
  split
  · refine ⟨replicate len .suppressed, by simp [cellEntries], by simp, ?_⟩
    intro entry member item
    rw [eq_of_mem_replicate member]
    trivial
  · refine ⟨replicate (min ends.lead len) .suppressed ++
      (replicate (len - min ends.lead len - min ends.trail (len - min ends.lead len)) .gap ++
        replicate (min ends.trail (len - min ends.lead len)) .suppressed),
      by simp [cellEntries], ?_, ?_⟩
    · simp only [length_append, length_replicate]
      omega
    · intro entry member item
      simp only [mem_append, mem_replicate] at member
      rcases member with ⟨-, rfl⟩ | ⟨-, rfl⟩ | ⟨-, rfl⟩ <;> trivial

/-- The cells of a scan track the canonical items up to its cursor. -/
structure SlotScan.Tracks (scan : SlotScan) (canonical : List TimelineItem) : Prop where
  inside : scan.cursor ≤ canonical.length
  tracks : List.Forall₂ Shows (scan.cells.flatMap DisplayMembershipCell.entries)
    (canonical.take scan.cursor)

variable {scan : SlotScan} {canonical : List TimelineItem}

theorem SlotScan.Tracks.pushRun (scanned : scan.Tracks canonical) {stop : Nat} (low : scan.cursor ≤ stop)
    (high : stop ≤ canonical.length) (ends : GapEnds) : Forall₂ Shows
      ((DisplayMembershipRope.pushRun scan.cells (stop - scan.cursor) ends).flatMap
        cellEntries) (canonical.take stop) := by
  obtain ⟨run, pushed, length, any⟩ := pushRun_entries scan.cells (stop - scan.cursor) ends
  have parts : canonical.take stop =
      canonical.take scan.cursor ++ (canonical.drop scan.cursor).take (stop - scan.cursor) := by
    rw [← take_add, Nat.add_sub_cancel' low]
  rw [pushed, parts]
  refine rel_append scanned.tracks (forall₂_of_any ?_ any)
  rw [length, length_take, length_drop]
  omega

theorem SlotScan.Tracks.visit
    (scanned : scan.Tracks canonical) {slot : DisplayProjectionSlot} (low : scan.cursor ≤ slot.canonicalIndex)
    (shown : canonical[slot.canonicalIndex]? = some slot.item) :
    (scan.visit canonical.length slot).Tracks canonical ∧
      (scan.visit canonical.length slot).cursor = slot.canonicalIndex + 1 := by
  obtain ⟨high, value⟩ := List.getElem?_eq_some_iff.mp shown
  rw [SlotScan.visit, if_neg (by omega)]
  refine ⟨⟨high, ?_⟩, rfl⟩
  rw [flatMap_append, take_succ_eq_append_getElem high, value]
  exact rel_append (scanned.pushRun low (le_of_lt high) _) (.cons rfl .nil)

theorem SlotScan.Tracks.foldl (scanned : scan.Tracks canonical) {slots : List DisplayProjectionSlot}
    (follow : SlotsFollow slots canonical) (low : ∀ slot ∈ slots, scan.cursor ≤ slot.canonicalIndex) :
    (slots.foldl (SlotScan.visit canonical.length) scan).Tracks canonical := by
  induction slots generalizing scan with
  | nil => exact scanned
  | cons slot rest ih =>
    obtain ⟨first, later⟩ := pairwise_cons.mp follow.increasing
    obtain ⟨visited, cursor⟩ := scanned.visit (low slot mem_cons_self)
      (follow.shown slot mem_cons_self)
    refine ih visited (follow.sublist (sublist_cons_self slot rest)) ?_
    intro other member
    rw [cursor]
    exact first other member

/-- The rope of slots that follow the canonical items follows them too. -/
theorem fromProjectionState_follows {slots : List DisplayProjectionSlot}
    (follow : SlotsFollow slots canonical) (gapAfter : GapEnds) :
    ∃ rope ambiguous, fromProjectionState canonical.length slots gapAfter = some (rope, ambiguous) ∧
      rope.Follows canonical := by
  have start : SlotScan.Tracks ⟨[], 0, false, true⟩ canonical := ⟨zero_le _, .nil⟩
  have scanned := start.foldl follow (fun _ _ => zero_le _)
  rw [fromProjectionState]
  generalize slots.foldl (SlotScan.visit canonical.length) ⟨[], 0, false, true⟩ = scan at scanned
  obtain ⟨rope, built, sound, entriesEq⟩ := fromCells_spec (pushRun scan.cells
    (canonical.length - scan.cursor) (if scan.known = true then gapAfter else default))
  refine ⟨rope, scan.ambiguous, by rw [built]; rfl, sound, ?_⟩
  have whole := scanned.pushRun scanned.inside le_rfl
    (if scan.known = true then gapAfter else default)
  rwa [← entriesEq, take_length] at whole

theorem fromCanonicalWindow_follows (canonical : List TimelineItem) (windowStart windowEnd : Nat) :
    ∃ rope, fromCanonicalWindow canonical windowStart windowEnd = some rope ∧
      rope.Follows canonical := by
  rw [fromCanonicalWindow]
  generalize startEq : min windowStart canonical.length = start
  generalize stopEq : max (min windowEnd canonical.length) start = stop
  obtain ⟨rope, built, sound, entriesEq⟩ := fromCells_spec ([.gap start] ++
    ((canonical.take stop).drop start).map .slot ++ [.gap (canonical.length - stop)])
  refine ⟨rope, built, sound, ?_⟩
  have parts : canonical = canonical.take start ++ (canonical.take stop).drop start ++
      canonical.drop stop := by
    have inner := take_append_drop start (canonical.take stop)
    rw [take_take, min_eq_left (by omega)] at inner
    rw [inner, take_append_drop]
  have shown : ∀ items : List TimelineItem, Forall₂ Shows
      ((items.map DisplayMembershipCell.slot).flatMap cellEntries) items := by
    intro items
    induction items with
    | nil => exact .nil
    | cons item rest ih => exact .cons rfl ih
  rw [entriesEq, flatMap_append, flatMap_append]
  conv_rhs => rw [parts]
  have gapAny : ∀ len, ∀ entry ∈ replicate len MembershipEntry.gap, ∀ item, entry.Shows item := by
    intro len entry member item
    rw [eq_of_mem_replicate member]
    trivial
  refine rel_append (rel_append ?_ (shown _)) ?_
  · rw [flatMap_singleton]
    exact forall₂_of_any (by simp [cellEntries]; omega) (gapAny start)
  · rw [flatMap_singleton]
    exact forall₂_of_any (by simp [cellEntries]) (gapAny _)

/-- A collection on its way: its slots follow the canonical items before its index. -/
structure SlotCollection.Tracks (state : SlotCollection) (canonical : List TimelineItem) : Prop where
  inside : state.canonicalIndex ≤ canonical.length
  follow : SlotsFollow state.slots canonical
  below : ∀ slot ∈ state.slots, slot.canonicalIndex < state.canonicalIndex

/-- A hidden run moves the index on. -/
theorem SlotCollection.Tracks.skip {state next : SlotCollection}
    (collected : state.Tracks canonical) (sameSlots : next.slots = state.slots)
    (inside : next.canonicalIndex ≤ canonical.length)
    (later : state.canonicalIndex ≤ next.canonicalIndex) : next.Tracks canonical where
  inside := inside
  follow := sameSlots ▸ collected.follow
  below slot member := lt_of_lt_of_le (collected.below slot (sameSlots ▸ member)) later

theorem SlotCollection.Tracks.foldl {state : SlotCollection}
    (collected : state.Tracks canonical) {cells : List DisplayMembershipCell}
    (tracks : Forall₂ Shows (cells.flatMap cellEntries) (canonical.drop state.canonicalIndex)) :
    (cells.foldl SlotCollection.visit state).Tracks canonical ∧
      (cells.foldl SlotCollection.visit state).canonicalIndex = canonical.length := by
  induction cells generalizing state with
  | nil =>
    have past := tracks.length_eq
    rw [flatMap_nil, length_nil, length_drop] at past
    have reached : canonical.length ≤ state.canonicalIndex := by omega
    exact ⟨collected, le_antisymm collected.inside reached⟩
  | cons cell rest ih =>
    rw [flatMap_cons] at tracks
    have room := tracks.length_eq
    rw [length_append, length_drop] at room
    have remaining := forall₂_drop cell.entries.length tracks
    rw [drop_left, drop_drop] at remaining
    have inside := collected.inside
    cases cell with
    | gap len | suppressed len =>
      rw [cellEntries, length_replicate] at remaining room
      exact ih (collected.skip rfl (by dsimp only [SlotCollection.visit]; omega)
        (le_add_right _ _)) remaining
    | slot item =>
      rw [cellEntries, length_singleton] at remaining room
      have bound : state.canonicalIndex < canonical.length := by omega
      have shown : canonical[state.canonicalIndex]? = some item := by
        rw [drop_eq_getElem_cons bound] at tracks
        cases tracks with
        | cons own _ => rw [getElem?_eq_getElem bound, own]
      refine ih ⟨bound, ⟨?_, ?_⟩, ?_⟩ remaining
      · refine pairwise_append.mpr ⟨collected.follow.increasing, pairwise_singleton _ _, ?_⟩
        intro earlier member later single
        rw [mem_singleton.mp single]
        exact collected.below earlier member
      · intro slot member
        rcases mem_append.mp member with old | new
        · exact collected.follow.shown slot old
        · rw [mem_singleton.mp new]
          exact shown
      · intro slot member
        rcases mem_append.mp member with old | new
        · exact lt_succ_of_lt (collected.below slot old)
        · rw [mem_singleton.mp new]
          exact lt_succ_self _

/-- The slots of a rope that follows the canonical items follow them. -/
theorem Follows.collectSlots {rope : DisplayMembershipRope} (follows : rope.Follows canonical) :
    ∃ slots gapAfter, rope.collectSlots = some (slots, gapAfter, canonical.length) ∧
      SlotsFollow slots canonical := by
  have start : SlotCollection.Tracks ⟨[], 0, 0, 0, false⟩ canonical :=
    ⟨zero_le _, ⟨.nil, by simp⟩, by simp⟩
  obtain ⟨collected, whole⟩ := start.foldl follows.tracks
  rw [DisplayMembershipRope.collectSlots, traverse_root]
  rw [← whole]
  exact ⟨_, _, rfl, collected.follow⟩

end DisplayMembershipRope

end Koushi
