import Koushi.Rooms.RoomOrder

namespace Koushi.Rooms

open Collections List

/-!
# Read receipts

The receipts of one event become a bounded summary: one receipt per reader, the
newest, without the account's own, the most recent three shown with the labels and
avatars the profiles give and the others only counted.
-/

structure LiveReadReceipt where
  userId : String
  displayName : Option String
  originalDisplayLabel : String
  avatar : Option AvatarImage
  timestampMs : Option Nat
deriving DecidableEq, Repr

structure LiveEventReceiptSummary where
  readers : List LiveReadReceipt
  totalCount : Nat
  overflowCount : Nat
deriving DecidableEq, Repr

/-- The clock of a receipt; one without a time is as old as can be. -/
def LiveReadReceipt.time (receipt : LiveReadReceipt) : Nat := receipt.timestampMs.getD 0

section Labels

variable (text : TextRules) (profiles : ProfileState)
  (roomProfiles : Option (OrdMap String UserProfile)) (ownUserId : Option String)
  (receipt : LiveReadReceipt)

/-- The first label of which something is left.  The labels come in the order of the
resolution: alias, room, space room, payload, cache, own profile. -/
def resolvePeopleLabel (labels : List (Option String)) : String :=
  (labels.findSome? (trimmed text)).getD "Unknown user"

/-- A label, unless it is the placeholder of an earlier resolution. -/
def knownLabel (label : Option String) : Option String :=
  label.filter (fun label => text.trim label ≠ "Unknown user")

def ownProfile : Option OwnProfile :=
  if ownUserId = some receipt.userId then some profiles.own else none

def roomProfile : Option UserProfile := roomProfiles.bind (fun users => users[receipt.userId]?)

def resolveLiveReceiptProfile : String :=
  resolvePeopleLabel text [
    profiles.localAliases[receipt.userId]?,
    (roomProfile roomProfiles receipt).bind (fun profile => profile.displayName),
    none,
    knownLabel text receipt.displayName,
    profiles.users[receipt.userId]?.bind (fun profile => profile.displayName),
    (ownProfile profiles ownUserId receipt).bind (fun profile => profile.displayName)]

def enrichLiveReceipt : LiveReadReceipt :=
  let room := roomProfile roomProfiles receipt
  let own := ownProfile profiles ownUserId receipt
  let user := profiles.users[receipt.userId]?
  let userName := user.bind (fun profile => profile.displayName)
  let ownName := own.bind (fun profile => profile.displayName)
  let originalSource :=
    ((knownLabel text (some receipt.originalDisplayLabel)).filter (fun label => text.trim label ≠ "")).or
      ((knownLabel text receipt.displayName).or
        ((room.bind (fun profile => profile.displayName)).or (userName.or ownName)))
  let profileAvatar := (room.bind (fun profile => profile.avatar)).or
    ((own.bind (fun profile => profile.avatar)).or (user.bind (fun profile => profile.avatar)))
  { receipt with
    displayName := some (resolveLiveReceiptProfile text profiles roomProfiles ownUserId receipt)
    originalDisplayLabel :=
      ((trimmed text originalSource).or ((trimmed text userName).or (trimmed text ownName))).getD
        "Unknown user"
    avatar := match receipt.avatar, profileAvatar with
      | some shown, some known =>
        if shown.mxcUri = known.mxcUri ∧ shown.thumbnail = .notRequested then some known else some shown
      | some shown, none => some shown
      | none, known => known }

end Labels

/-! ## One receipt per reader -/

def receiptIsNewer (candidate existing : LiveReadReceipt) : Bool := existing.time ≤ candidate.time

def collectReceipt (ownUserId : Option String) (byUser : OrdMap String LiveReadReceipt)
    (receipt : LiveReadReceipt) : OrdMap String LiveReadReceipt :=
  if ownUserId = some receipt.userId then byUser
  else byUser.insert receipt.userId (match byUser[receipt.userId]? with
    | some existing => if receiptIsNewer receipt existing then receipt else existing
    | none => receipt)

def compareReceipts (left right : LiveReadReceipt) : Ordering :=
  (compare right.time left.time).then (compare left.userId right.userId)

/-- The readers of an event, before the list is cut. -/
def allReaders (ownUserId : Option String) (receipts : List LiveReadReceipt) : List LiveReadReceipt :=
  sortBy compareReceipts ((receipts.foldl (collectReceipt ownUserId) ∅).toList.map Prod.snd)

def compactReceiptReaderLimit : Nat := 3

def normalizeReceipts (text : TextRules) (receipts : List LiveReadReceipt) (profiles : ProfileState)
    (roomProfiles : Option (OrdMap String UserProfile)) (ownUserId : Option String) :
    LiveEventReceiptSummary :=
  let readers := allReaders ownUserId receipts
  { readers := (readers.take compactReceiptReaderLimit).map
      (enrichLiveReceipt text profiles roomProfiles ownUserId)
    totalCount := readers.length
    overflowCount := readers.length - compactReceiptReaderLimit }

variable {ownUserId : Option String} {receipts reordered : List LiveReadReceipt}

/-- A receipt of another user that none of their receipts is newer than. -/
structure IsNewest (ownUserId : Option String) (receipts : List LiveReadReceipt)
    (receipt : LiveReadReceipt) : Prop where
  listed : receipt ∈ receipts
  others : ownUserId ≠ some receipt.userId
  newest : ∀ other ∈ receipts, other.userId = receipt.userId -> other.time ≤ receipt.time

/-- What is collected for a user: the newest of the receipts that count, if there is one. -/
def Collected (ownUserId : Option String) (receipts : List LiveReadReceipt) (user : String) :
    Option LiveReadReceipt -> Prop
  | some receipt => receipt.userId = user ∧ IsNewest ownUserId receipts receipt
  | none => ∀ receipt ∈ receipts, receipt.userId = user -> ownUserId = some user

theorem collected_foldl (ownUserId : Option String) (receipts : List LiveReadReceipt) (user : String) :
    Collected ownUserId receipts user (receipts.foldl (collectReceipt ownUserId) ∅)[user]? := by
  -- The receipts are folded from the front, so the induction adds one at the end.
  induction receipts using reverseRecOn with
  | nil => simp [Collected]
  | append_singleton before receipt ih =>
    rw [foldl_append, foldl_cons, foldl_nil, collectReceipt]
    by_cases own : ownUserId = some receipt.userId
    · rw [if_pos own]
      cases found : (before.foldl (collectReceipt ownUserId) ∅)[user]? <;> rw [found] at ih <;>
        grind [Collected, IsNewest]
    · rw [if_neg own, OrdMap.getElem?_insert_ite]
      by_cases same : receipt.userId = user
      · subst same
        cases found : (before.foldl (collectReceipt ownUserId) ∅)[receipt.userId]? <;>
          rw [found] at ih <;> grind [Collected, IsNewest, receiptIsNewer]
      · rw [if_neg same]
        cases found : (before.foldl (collectReceipt ownUserId) ∅)[user]? <;> rw [found] at ih <;>
          grind [Collected, IsNewest]

theorem userId_of_mem_toList {entry : String × LiveReadReceipt}
    (listed : entry ∈ (receipts.foldl (collectReceipt ownUserId) ∅).toList) : entry.2.userId = entry.1 := by
  have collected := collected_foldl ownUserId receipts entry.1
  rw [Std.ExtTreeMap.mem_toList_iff_getElem?_eq_some.mp listed] at collected
  exact collected.1

theorem mem_allReaders {receipt : LiveReadReceipt} : receipt ∈ allReaders ownUserId receipts ↔
      (receipts.foldl (collectReceipt ownUserId) ∅)[receipt.userId]? = some receipt := by
  rw [allReaders, mem_sortBy, mem_map]
  constructor
  · rintro ⟨entry, listed, rfl⟩
    rw [userId_of_mem_toList listed]
    exact Std.ExtTreeMap.mem_toList_iff_getElem?_eq_some.mp listed
  · intro lookup
    exact ⟨_, Std.ExtTreeMap.mem_toList_iff_getElem?_eq_some.mpr lookup, rfl⟩

theorem isNewest_of_mem_allReaders {receipt : LiveReadReceipt}
    (shown : receipt ∈ allReaders ownUserId receipts) : IsNewest ownUserId receipts receipt := by
  have collected := collected_foldl ownUserId receipts receipt.userId
  rw [mem_allReaders.mp shown] at collected
  exact collected.2

theorem mem_users_allReaders {user : String} :
    user ∈ keysBy LiveReadReceipt.userId (allReaders ownUserId receipts) ↔
      user ∈ keysBy LiveReadReceipt.userId receipts ∧ ownUserId ≠ some user := by
  simp only [keysBy, mem_map]
  constructor
  · rintro ⟨receipt, shown, rfl⟩
    have newest := isNewest_of_mem_allReaders shown
    exact ⟨⟨receipt, newest.listed, rfl⟩, newest.others⟩
  · rintro ⟨⟨receipt, listed, rfl⟩, others⟩
    have collected := collected_foldl ownUserId receipts receipt.userId
    cases found : (receipts.foldl (collectReceipt ownUserId) ∅)[receipt.userId]? with
    | none =>
      rw [found] at collected
      exact absurd (collected receipt listed rfl) others
    | some newest =>
      rw [found] at collected
      exact ⟨newest, mem_allReaders.mpr (collected.1 ▸ found), collected.1⟩

theorem nodup_users_allReaders :
    (keysBy LiveReadReceipt.userId (allReaders ownUserId receipts)).Nodup := by
  apply ((perm_sortBy compareReceipts _).map LiveReadReceipt.userId).nodup_iff.mpr
  rw [map_map]
  apply pairwise_map.mpr
  apply Std.ExtTreeMap.distinct_keys_toList.imp_of_mem
  intro left right first second distinct same
  apply distinct
  rw [← userId_of_mem_toList first, ← userId_of_mem_toList second]
  exact Std.compare_eq_iff_eq.mpr same

instance : Std.TransCmp compareReceipts :=
  transCmp_then (transCmp_on (fun left right => compare right left) LiveReadReceipt.time)
    (transCmp_on compare LiveReadReceipt.userId)

/-- Newest first, and readers of one time by their ids. -/
theorem allReaders_ordered : (allReaders ownUserId receipts).Pairwise (fun left right =>
    right.time < left.time ∨ right.time = left.time ∧ compare left.userId right.userId = .lt) := by
  have total : Std.Total (fun left right => (compareReceipts left right).isLE = true) := ⟨isLE_total⟩
  have trans : IsTrans _ (fun left right => (compareReceipts left right).isLE = true) :=
    ⟨fun _ _ _ => Std.TransCmp.isLE_trans⟩
  have sorted := pairwise_insertionSort (fun left right => (compareReceipts left right).isLE = true)
    ((receipts.foldl (collectReceipt ownUserId) ∅).toList.map Prod.snd)
  apply (sorted.and (pairwise_map.mp nodup_users_allReaders)).imp
  rintro left right ⟨below, distinct⟩
  rcases Ordering.isLE_then_iff_or.mp below with later | ⟨sameTime, byId⟩
  · exact .inl (Nat.compare_eq_lt.mp later)
  · rcases Ordering.isLE_iff_eq_lt_or_eq_eq.mp byId with smaller | equal
    · exact .inr ⟨Nat.compare_eq_eq.mp sameTime, smaller⟩
    · exact absurd (Std.compare_eq_iff_eq.mp equal) distinct

/-- No reader has two different receipts of one time. -/
def WithoutTies (receipts : List LiveReadReceipt) : Prop :=
  ∀ left ∈ receipts, ∀ right ∈ receipts, left.userId = right.userId -> left.time = right.time ->
    left = right

theorem Collected.unique (separate : WithoutTies receipts) {user : String} :
    ∀ {left right : Option LiveReadReceipt}, Collected ownUserId receipts user left ->
      Collected ownUserId receipts user right -> left = right
  | none, none, _, _ => rfl
  | none, some right, first, ⟨same, second⟩ =>
    absurd (first right second.listed same) (same ▸ second.others)
  | some left, none, ⟨same, first⟩, second =>
    absurd (second left first.listed same) (same ▸ first.others)
  | some left, some right, ⟨ofLeft, first⟩, ⟨ofRight, second⟩ => by
    have same : left.userId = right.userId := ofLeft.trans ofRight.symm
    rw [separate left first.listed right second.listed same
      (le_antisymm (second.newest left first.listed same) (first.newest right second.listed same.symm))]

theorem Collected.of_perm (perm : receipts.Perm reordered) {user : String} :
    ∀ {found : Option LiveReadReceipt}, Collected ownUserId receipts user found ->
      Collected ownUserId reordered user found
  | none, absent => fun receipt listed => absent receipt (perm.mem_iff.mpr listed)
  | some _, ⟨same, newest⟩ => ⟨same, perm.mem_iff.mp newest.listed, newest.others,
    fun other listed => newest.newest other (perm.mem_iff.mpr listed)⟩

theorem allReaders_eq_of_perm (separate : WithoutTies receipts) (perm : receipts.Perm reordered) :
    allReaders ownUserId receipts = allReaders ownUserId reordered := by
  have same : receipts.foldl (collectReceipt ownUserId) ∅ =
      reordered.foldl (collectReceipt ownUserId) ∅ := by
    apply Std.ExtTreeMap.ext_getElem?
    intro user
    exact (collected_foldl ownUserId receipts user).unique separate
      ((collected_foldl ownUserId reordered user).of_perm perm.symm)
  rw [allReaders, allReaders, same]

/-- A receipt summary is canonical: it counts the readers other than the account, shows
the first three of them, each with the newest receipt and its labels, and does not
depend on how the receipts were listed unless a reader has two receipts of one time. -/
theorem receipt_summary_canonical (text : TextRules) (receipts : List LiveReadReceipt)
    (profiles : ProfileState) (roomProfiles : Option (OrdMap String UserProfile))
    (ownUserId : Option String) :
    let summary := normalizeReceipts text receipts profiles roomProfiles ownUserId
    (∃ readers : List LiveReadReceipt,
      summary.readers = (readers.take 3).map (enrichLiveReceipt text profiles roomProfiles ownUserId) ∧
      (keysBy LiveReadReceipt.userId readers).Nodup ∧
      (∀ user, user ∈ keysBy LiveReadReceipt.userId readers ↔
        user ∈ keysBy LiveReadReceipt.userId receipts ∧ ownUserId ≠ some user) ∧
      (∀ receipt ∈ readers, IsNewest ownUserId receipts receipt) ∧
      readers.Pairwise (fun left right =>
        right.time < left.time ∨ right.time = left.time ∧ compare left.userId right.userId = .lt) ∧
      summary.totalCount = readers.length) ∧
    summary.overflowCount = summary.totalCount - summary.readers.length ∧
    (WithoutTies receipts -> ∀ reordered, receipts.Perm reordered ->
      normalizeReceipts text reordered profiles roomProfiles ownUserId = summary) := by
  intro summary
  constructor
  · exact ⟨allReaders ownUserId receipts, rfl, nodup_users_allReaders, fun _ => mem_users_allReaders,
      fun _ => isNewest_of_mem_allReaders, allReaders_ordered, rfl⟩
  constructor
  · show (allReaders ownUserId receipts).length - 3 = (allReaders ownUserId receipts).length - _
    simp only [summary, normalizeReceipts, compactReceiptReaderLimit, length_map, length_take]
    omega
  · intro separate reordered perm
    show normalizeReceipts text reordered profiles roomProfiles ownUserId =
      normalizeReceipts text receipts profiles roomProfiles ownUserId
    unfold normalizeReceipts
    rw [allReaders_eq_of_perm separate perm]

/-- Two receipts of one reader and one time: the one listed last is shown. -/
theorem tied_receipts_shown_by_position :
    let first : LiveReadReceipt := ⟨"@u:x", some "A", "", none, some 1⟩
    let second : LiveReadReceipt := ⟨"@u:x", some "B", "", none, some 1⟩
    [first, second].Perm [second, first] ∧
      normalizeReceipts ⟨id, id⟩ [first, second] default none none ≠
        normalizeReceipts ⟨id, id⟩ [second, first] default none none := by
  refine ⟨Perm.swap _ _ _, ?_⟩
  decide +kernel

end Koushi.Rooms
