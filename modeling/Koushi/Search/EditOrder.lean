import Koushi.Library.LatestWins
import Koushi.Search.StoreInvariant

namespace Koushi

open Collections PendingEdit SearchRow SearchDocumentStore Machine List AppliedEdit Function Option

/-!
# The arrival order of edits

The original message of an attachment and its edits reach the store in any order.
Edits before the original wait, except for text replacements that find nothing
waiting: these are dropped.  The original hands the waiting edits to its row, and
later edits go to the row directly.  So the row is a newest-wins cell that
absorbs the edits that were not dropped, in the order of their arrival.

The newest edit decides the row if it is not dropped and if what it writes does
not depend on the attachment it finds.  A replacement of the media and a text
replacement write the same from everywhere; a rename keeps the media it finds.
-/

instance : LinearOrder AppliedEdit := LinearOrder.lift' orderKey (by
  intro left right same
  cases left
  cases right
  simp only [orderKey, toLex_inj, Prod.mk.injEq] at same
  simp only [AppliedEdit.mk.injEq]
  exact same)

theorem AppliedEdit.le_iff {left right : AppliedEdit} : left ≤ right ↔ left.orderKey ≤ right.orderKey :=
  Iff.rfl

/-- An edit as the store keeps it. -/
def PendingEdit.withoutBody (pending : PendingEdit) : PendingEdit :=
  { pending with edit.body := none }

/-- An edit that only replaces the text. -/
def PendingEdit.isText (pending : PendingEdit) : Bool :=
  pending.edit.attachment.isNone && pending.edit.attachmentFilename.isNone

/-! ## Before the original -/

namespace SearchRow

/-- A row that only waits. -/
def waitingFor (kept : List PendingEdit) : SearchRow :=
  ⟨none, none, none, if kept.isEmpty then none else some kept⟩

variable {kept : List PendingEdit}

theorem upsertEdit_waitingFor (pending : PendingEdit) :
    (waitingFor kept).upsertEdit pending.edit pending.canonical =
      if kept.isEmpty && pending.isText then waitingFor kept
      else waitingFor (kept ++ [pending.withoutBody]) := by
  unfold upsertEdit isText
  cases kept with
  | nil =>
    cases attachment : pending.edit.attachment <;> cases filename : pending.edit.attachmentFilename <;>
      simp [waitingFor, isRetired, keepsPending, attachment, filename, withoutBody]
  | cons first rest =>
    simp [waitingFor, isRetired, keepsPending, withoutBody]

theorem foldl_upsertEdit_waitingFor (kept before : List PendingEdit) :
    before.foldl (fun row pending => row.upsertEdit pending.edit pending.canonical) (waitingFor kept) =
      waitingFor (if kept.isEmpty then (before.dropWhile isText).map withoutBody
        else kept ++ before.map withoutBody) := by
  induction before generalizing kept with
  | nil => cases kept <;> simp
  | cons pending rest ih =>
    rw [foldl_cons, upsertEdit_waitingFor]
    cases kept with
    | nil =>
      cases text : pending.isText with
      | true =>
        simp only [isEmpty_nil, Bool.and_self, if_true, ih, dropWhile_cons_of_pos text]
      | false =>
        rw [if_neg (by simp), ih, dropWhile_cons_of_neg (by simp [text])]
        rfl
    | cons first others =>
      rw [if_neg (by simp), ih]
      simp

/-! ## After the original -/

variable (cell : LatestCell AppliedEdit SearchableEvent)

/-- A row whose document is a newest-wins cell. -/
def holding : SearchRow :=
  ⟨some cell.value, cell.held, none, none⟩

/-- One edit, offered to the cell of a row. -/
def absorbCell : LatestCell AppliedEdit SearchableEvent -> PendingEdit -> LatestCell AppliedEdit SearchableEvent :=
  LatestCell.absorb PendingEdit.incoming
    (fun event pending => !SearchDocumentStore.refusesEdit event pending.edit)
    (fun event pending => applyEdit event pending.edit)

theorem absorb_holding (pending : PendingEdit) :
    (holding cell).absorb pending = holding (absorbCell cell pending) := by
  have held : (holding cell).holdsAtLeast pending.incoming =
      cell.held.any (fun held => decide (pending.incoming ≤ held)) := by
    cases cell with
    | mk value held => cases held <;> simp [holding, holdsAtLeast, le_iff]
  unfold absorbCell LatestCell.absorb absorb
  rw [held, Bool.not_not]
  dsimp only [holding]
  split
  · rfl
  · split <;> rfl

variable {edits : List PendingEdit}

theorem foldl_absorb_holding :
    edits.foldl absorb (holding cell) = holding (edits.foldl absorbCell cell) :=
  foldl_hom holding absorb_holding

theorem foldl_upsertEdit_holding :
    edits.foldl (fun row pending => row.upsertEdit pending.edit pending.canonical) (holding cell) =
      holding ((edits.map withoutBody).foldl absorbCell cell) := by
  rw [foldl_map]
  apply foldl_hom holding
  intro cell pending
  rw [← absorb_holding]
  rfl

/-- The original writes the cell and hands it the waiting edits. -/
theorem upsertMessage_waitingFor {original : SearchableEvent}
    (attached : original.attachment.isSome = true) (canonical : Bool) :
    (waitingFor kept).upsertMessage original canonical none =
      holding (kept.foldl absorbCell ⟨retainAttachmentMetadata original, none⟩) := by
  have written : forall row : SearchRow, row.applied = none -> row.retired = none ->
      { row.write original canonical none with pending := none } =
        holding ⟨retainAttachmentMetadata original, none⟩ := by
    intro row noApplied noRetired
    simp [write, holding, noApplied, noRetired]
  unfold upsertMessage
  rw [if_neg (by simp [isNone_eq_false_iff.mpr attached]), if_neg (by simp [upsertIsStale, waitingFor]),
    if_neg (by simp)]
  cases kept with
  | nil => rfl
  | cons first rest =>
    rw [← foldl_absorb_holding]
    exact congrArg (foldl absorb · (first :: rest)) (written _ rfl rfl)

end SearchRow

/-! ## Whole arrivals -/

/-- The original with the edits that arrive before and after it. -/
def arrival (original : SearchableEvent) (canonical : Bool) (before after : List PendingEdit) :
    List SearchOperation :=
  before.map (fun pending => .upsertEdit pending.edit pending.canonical) ++
    .upsertMessage original canonical none ::
      after.map (fun pending => .upsertEdit pending.edit pending.canonical)

/-- An edit of a message by its own sender in its own room. -/
structure EditsMessage (original : SearchableEvent) (pending : PendingEdit) : Prop where
  target : pending.edit.targetEventId = original.eventId
  sender : pending.edit.sender = original.sender
  room : pending.edit.roomId = original.roomId

namespace SearchDocumentStore

variable {store : SearchDocumentStore}

theorem WellFormed.foldl_upsertEdit (wellFormed : store.WellFormed) (edits : List PendingEdit) {target : String}
    (about : ∀ pending ∈ edits, pending.edit.targetEventId = target) :
    let later := run SearchDocumentStore.apply store
      (edits.map (fun pending => .upsertEdit pending.edit pending.canonical))
    later.WellFormed ∧ later.row target =
      edits.foldl (fun row pending => row.upsertEdit pending.edit pending.canonical) (store.row target) := by
  induction edits generalizing store with
  | nil => exact ⟨wellFormed, rfl⟩
  | cons pending rest ih =>
    have next := ih (wellFormed.apply (.upsertEdit pending.edit pending.canonical))
      (fun other member => about other (mem_cons_of_mem pending member))
    have sameTarget := about pending mem_cons_self
    refine ⟨next.1, next.2.trans ?_⟩
    rw [foldl_cons]
    have updated : (store.apply (.upsertEdit pending.edit pending.canonical)).row target =
        (store.row target).upsertEdit pending.edit pending.canonical := by
      rw [SearchDocumentStore.apply, row_upsertEdit, sameTarget, update_self]
    rw [updated]

/-- The row after an arrival: a cell that absorbed what was not dropped. -/
theorem WellFormed.row_arrival (wellFormed : store.WellFormed) {original : SearchableEvent}
    (unseen : store.row original.eventId = .empty) (attached : original.attachment.isSome = true)
    (canonical : Bool) {before after : List PendingEdit}
    (about : ∀ pending ∈ before ++ after, EditsMessage original pending) :
    (run SearchDocumentStore.apply store (arrival original canonical before after)).row
        original.eventId = .holding (((before.dropWhile isText ++ after).map withoutBody).foldl
        absorbCell ⟨retainAttachmentMetadata original, none⟩) := by
  rcases wellFormed.foldl_upsertEdit before
    (fun pending member => (about pending (mem_append_left _ member)).target) with ⟨early, waits⟩
  have empty : empty = waitingFor [] := rfl
  rw [unseen, empty, foldl_upsertEdit_waitingFor] at waits
  have late := (early.apply (.upsertMessage original canonical none)).foldl_upsertEdit after
    (fun pending member => (about pending (mem_append_right _ member)).target)
  rw [arrival, run_append, run_cons]
  refine late.2.trans ?_
  rw [SearchDocumentStore.apply, early.row_upsertMessage, update_self, waits,
    upsertMessage_waitingFor attached, foldl_upsertEdit_holding, map_append,
    foldl_append]
  rfl

end SearchDocumentStore

/-! ## The newest edit decides -/

/-- Two attachments that differ at most in the file name and the edited mark. -/
def AttachmentDocument.SameMedia (left right : AttachmentDocument) : Prop :=
  { left with filename := right.filename, isEdited := right.isEdited } = right

/-- An edit that renames the file or sends the same media again. -/
def PendingEdit.KeepsMedia (media : AttachmentDocument) (pending : PendingEdit) : Prop :=
  match pending.edit.attachment, pending.edit.attachmentFilename with
  | some replacement, _ => replacement.SameMedia media
  | none, some _ => True
  | none, none => False

def isSticker (attachment : Option AttachmentDocument) : Bool :=
  attachment.any (fun attachment => attachment.kind = .sticker)

/-- The newest of a set of edits decides what the row shows.  No other edit may
turn the row into a sticker, which takes no edits, and under a rename the others
must agree on the media that it keeps. -/
structure DecidesRow (media : AttachmentDocument) (edits : List PendingEdit) (newest : PendingEdit) :
    Prop where
  member : newest ∈ edits
  latest : ∀ pending ∈ edits, pending.incoming ≤ newest.incoming
  noSticker : ∀ pending ∈ edits, pending ≠ newest -> isSticker pending.edit.attachment = false
  renames : newest.edit.attachment = none -> newest.edit.attachmentFilename.isSome = true ->
    ∀ pending ∈ edits, pending ≠ newest -> pending.KeepsMedia media

/-- What the rows between the original and the newest edit have in common. -/
structure NearRow (original : SearchableEvent) (media : AttachmentDocument) (newest : PendingEdit)
    (event : SearchableEvent) : Prop where
  identity : forall attachment, { event with attachment := attachment } =
    { retainAttachmentMetadata original with attachment := attachment }
  noSticker : isSticker event.attachment = false
  media : newest.edit.attachment = none -> newest.edit.attachmentFilename.isSome = true ->
    ∃ attachment, event.attachment = some attachment ∧ attachment.SameMedia media

section Decides

variable {original : SearchableEvent} {media : AttachmentDocument} {newest : PendingEdit}

variable (attached : original.attachment = some media)

include attached in
theorem retainAttachmentMetadata_attachment :
    ∃ attachment, (retainAttachmentMetadata original).attachment = some attachment ∧
      attachment.kind = media.kind ∧ attachment.SameMedia media := by
  unfold retainAttachmentMetadata AttachmentDocument.SameMedia
  rw [attached]
  cases original.attachmentFilename with
  | none => exact ⟨media, rfl, rfl, rfl⟩
  | some filename =>
    dsimp only
    split
    · exact ⟨_, rfl, rfl, rfl⟩
    · exact ⟨media, rfl, rfl, rfl⟩

include attached in
theorem nearRow_original (noSticker : media.kind ≠ .sticker) :
    NearRow original media newest (retainAttachmentMetadata original) := by
  rcases retainAttachmentMetadata_attachment attached with ⟨attachment, stored, sameKind, same⟩
  refine ⟨fun _ => rfl, ?_, fun _ _ => ⟨attachment, stored, same⟩⟩
  rw [isSticker, stored, any_some, sameKind]
  simpa using noSticker

theorem NearRow.applyEdit {event : SearchableEvent} (near : NearRow original media newest event)
    (pending : PendingEdit) (noSticker : isSticker pending.edit.attachment = false)
    (renames : newest.edit.attachment = none -> newest.edit.attachmentFilename.isSome = true ->
      pending.KeepsMedia media) : NearRow original media newest (applyEdit event pending.edit) := by
  refine ⟨?_, ?_, ?_⟩
  · exact near.identity
  · have before := near.noSticker
    unfold Koushi.applyEdit replacedAttachment
    cases replaced : pending.edit.attachment with
    | some replacement =>
      rw [replaced] at noSticker
      exact noSticker
    | none =>
      cases pending.edit.attachmentFilename with
      | none => rfl
      | some filename =>
        cases found : event.attachment with
        | none => rfl
        | some attachment =>
          rw [found] at before
          exact before
  · intro noMedia named
    have keeps := renames noMedia named
    rcases near.media noMedia named with ⟨attachment, found, same⟩
    unfold KeepsMedia at keeps
    unfold Koushi.applyEdit replacedAttachment
    cases replaced : pending.edit.attachment with
    | some replacement =>
      rw [replaced] at keeps
      exact ⟨_, rfl, keeps⟩
    | none =>
      rw [replaced] at keeps
      cases filename : pending.edit.attachmentFilename with
      | none =>
        rw [filename] at keeps
        exact keeps.elim
      | some name => exact ⟨markEdited pending.edit attachment, by simp only [found, map_some], same⟩

theorem AttachmentDocument.SameMedia.markEdited {left right other : AttachmentDocument}
    (first : left.SameMedia other) (second : right.SameMedia other) {edit : SearchEdit}
    (named : edit.attachmentFilename.isSome = true) :
    Koushi.markEdited edit left = Koushi.markEdited edit right := by
  rcases isSome_iff_exists.mp named with ⟨filename, isNamed⟩
  have same := first.trans second.symm
  simp only [AttachmentDocument.mk.injEq] at same
  simp only [Koushi.markEdited, isNamed, Option.getD_some, AttachmentDocument.mk.injEq]
  tauto

include attached in
/-- The newest edit writes the same everywhere near the original. -/
theorem NearRow.written {event : SearchableEvent} (near : NearRow original media newest event) :
    Koushi.applyEdit event newest.edit =
      Koushi.applyEdit (retainAttachmentMetadata original) newest.edit := by
  have sameAttachment : (replacedAttachment event newest.edit).map (markEdited newest.edit) =
      (replacedAttachment (retainAttachmentMetadata original) newest.edit).map
        (markEdited newest.edit) := by
    unfold replacedAttachment
    cases replaced : newest.edit.attachment with
    | some replacement => rfl
    | none =>
      cases filename : newest.edit.attachmentFilename with
      | none => rfl
      | some name =>
        have named : newest.edit.attachmentFilename.isSome = true := by rw [filename]; rfl
        rcases near.media replaced named with ⟨attachment, found, same⟩
        rcases retainAttachmentMetadata_attachment attached with ⟨stored, isStored, _, sameStored⟩
        simp only [found, isStored, map_some, same.markEdited sameStored named]
  unfold Koushi.applyEdit
  rw [sameAttachment]
  exact near.identity _

include attached in
theorem foldl_absorbCell_eq {edits arrived : List PendingEdit} (noSticker : media.kind ≠ .sticker)
    (about : ∀ pending ∈ edits, EditsMessage original pending)
    (distinct : (edits.map (fun pending => pending.edit.editEventId)).Nodup)
    (decides : DecidesRow media edits newest) (subset : ∀ pending ∈ arrived, pending ∈ edits)
    (nodup : arrived.Nodup) (kept : newest ∈ arrived) : (arrived.map withoutBody).foldl absorbCell
        ⟨retainAttachmentMetadata original, none⟩ =
      ⟨applyEdit (retainAttachmentMetadata original) newest.edit, some newest.incoming⟩ := by
  have sameEdit : ∀ first ∈ edits, ∀ second ∈ edits, first.withoutBody.edit.editEventId =
      second.withoutBody.edit.editEventId -> first = second := by
    intro first inFirst second inSecond same
    exact inj_on_of_nodup_map distinct inFirst inSecond same
  have others : ∀ update ∈ arrived.map withoutBody, update ≠ newest.withoutBody ->
      ∃ pending ∈ edits, pending ≠ newest ∧ pending.withoutBody = update := by
    intro update member different
    rcases mem_map.mp member with ⟨pending, isArrived, rfl⟩
    refine ⟨pending, subset pending isArrived, ?_, rfl⟩
    rintro rfl
    exact different rfl
  refine LatestCell.foldl_absorb_eq (NearRow original media newest)
    (mem_map_of_mem kept) ?_ ?_ ?_ ?_ ?_ (nearRow_original attached noSticker)
  · refine nodup.map_on ?_
    intro first inFirst second inSecond same
    exact sameEdit first (subset first inFirst) second (subset second inSecond) (by rw [same])
  · intro update member different
    rcases others update member different with ⟨pending, isEdit, apart, rfl⟩
    refine lt_of_le_of_ne (decides.latest pending isEdit) ?_
    intro same
    exact apart (sameEdit pending isEdit newest decides.member
      (congrArg editEventId same))
  · intro update member different event near
    rcases others update member different with ⟨pending, isEdit, apart, rfl⟩
    exact near.applyEdit pending.withoutBody (decides.noSticker pending isEdit apart)
      (fun noMedia named => decides.renames noMedia named pending isEdit apart)
  · intro event near
    have sameEvent := near.identity none
    have sameSender : event.sender = original.sender := by
      have same := congrArg SearchableEvent.sender sameEvent
      exact same
    have sameRoom : event.roomId = original.roomId := by
      have same := congrArg SearchableEvent.roomId sameEvent
      exact same
    have own := about newest decides.member
    have sticker := near.noSticker
    rw [isSticker] at sticker
    simp [refusesEdit, withoutBody, sameSender, sameRoom, own.sender, own.room,
      sticker]
  · intro event near
    exact near.written attached

include attached in
/-- A sticker takes no edits. -/
theorem foldl_absorbCell_sticker (sticker : media.kind = .sticker) (arrived : List PendingEdit) :
    arrived.foldl absorbCell ⟨retainAttachmentMetadata original, none⟩ =
      ⟨retainAttachmentMetadata original, none⟩ := by
  rcases retainAttachmentMetadata_attachment attached with ⟨attachment, stored, sameKind, _⟩
  refine foldl_fixed' (fun pending => ?_) arrived
  unfold absorbCell LatestCell.absorb
  simp [refusesEdit, stored, sameKind, sticker]

end Decides

/-- Edits that are still there when the row is written. -/
def arrived (before after : List PendingEdit) : List PendingEdit :=
  before.dropWhile PendingEdit.isText ++ after

theorem arrived_sublist (before after : List PendingEdit) :
    (arrived before after).Sublist (before ++ after) :=
  (dropWhile_sublist isText).append_right after

/-- Two arrivals of one message and its edits leave the same row, unless the
newest edit was dropped in one of them or depends on what it finds. -/
theorem arrival_order_irrelevant {store : SearchDocumentStore} (wellFormed : store.WellFormed)
    {original : SearchableEvent} {media : AttachmentDocument}
    (unseen : store.row original.eventId = .empty) (attached : original.attachment = some media)
    {edits : List PendingEdit} (about : ∀ pending ∈ edits, EditsMessage original pending)
    (distinct : (edits.map (fun pending => pending.edit.editEventId)).Nodup) (canonical : Bool)
    {before after before' after' : List PendingEdit} (order : (before ++ after).Perm edits)
    (order' : (before' ++ after').Perm edits)
    (settled : edits = [] ∨ media.kind = .sticker ∨ ∃ newest, DecidesRow media edits newest ∧
      newest ∈ arrived before after ∧ newest ∈ arrived before' after') :
    (Machine.run SearchDocumentStore.apply store (arrival original canonical before after)).row
        original.eventId =
      (Machine.run SearchDocumentStore.apply store (arrival original canonical before' after')).row
        original.eventId := by
  have isSome : original.attachment.isSome = true := by rw [attached]; rfl
  have aboutOrder : forall first second : List PendingEdit, (first ++ second).Perm edits ->
      ∀ pending ∈ first ++ second, EditsMessage original pending :=
    fun first second same pending member => about pending (same.mem_iff.mp member)
  rw [wellFormed.row_arrival unseen isSome canonical (aboutOrder before after order),
    wellFormed.row_arrival unseen isSome canonical (aboutOrder before' after' order')]
  rcases settled with none | sticker | ⟨newest, decides, kept, kept'⟩
  · rw [none, perm_nil, append_eq_nil_iff] at order order'
    rw [order.1, order.2, order'.1, order'.2]
  · rw [foldl_absorbCell_sticker attached sticker, foldl_absorbCell_sticker attached sticker]
  · by_cases sticker : media.kind = .sticker
    · rw [foldl_absorbCell_sticker attached sticker, foldl_absorbCell_sticker attached sticker]
    · have decided : forall first second : List PendingEdit, (first ++ second).Perm edits ->
          newest ∈ arrived first second ->
            ((arrived first second).map withoutBody).foldl absorbCell
                ⟨retainAttachmentMetadata original, none⟩ =
              ⟨applyEdit (retainAttachmentMetadata original) newest.edit, some newest.incoming⟩ := by
        intro first second same isKept
        refine foldl_absorbCell_eq attached sticker about distinct decides ?_ ?_ isKept
        · intro pending member
          exact same.mem_iff.mp ((arrived_sublist first second).subset member)
        · exact (same.nodup_iff.mpr (Nodup.of_map _ distinct)).sublist (arrived_sublist first second)
      exact congrArg holding
        ((decided before after order kept).trans (decided before' after' order' kept').symm)

/-! ## Examples of arrivals -/

namespace ArrivalExample

def media (filename : String) : AttachmentDocument :=
  ⟨.file, "m.file", none, none, "mxc://example.org/" ++ filename, none, filename, none, false, none, none,
    none, false⟩

def original : SearchableEvent :=
  ⟨"!room", "$file", "@ada:example.org", 1, none, none, some (media "draft.pdf")⟩

def edit (editEventId : String) (timestampMs : Nat) (attachmentFilename : Option String)
    (attachment : Option AttachmentDocument) : PendingEdit :=
  ⟨⟨"!room", editEventId, "$file", "@ada:example.org", timestampMs, none, attachmentFilename, attachment⟩,
    false⟩

def text : PendingEdit := edit "$text" 4 none none

def rename : PendingEdit := edit "$rename" 3 (some "final.pdf") none

def replacement : PendingEdit := edit "$media" 2 none (some (media "second.pdf"))

def attachmentAfter (before after : List PendingEdit) : Option AttachmentDocument :=
  ((Machine.run SearchDocumentStore.apply .default (arrival original true before after)).row
    "$file").document.bind SearchableEvent.attachment

end ArrivalExample

open ArrivalExample in
theorem arrival_order_irrelevant_text :
    (Machine.run SearchDocumentStore.apply .default (arrival original true [] [replacement, text])).row
        "$file" =
      (Machine.run SearchDocumentStore.apply .default (arrival original true [replacement, text] [])).row
        "$file" := by
  have about : ∀ pending ∈ [replacement, text], EditsMessage original pending := by
    intro pending member
    simp only [mem_cons, not_mem_nil, or_false] at member
    rcases member with rfl | rfl <;> exact ⟨rfl, rfl, rfl⟩
  have decides : DecidesRow (media "draft.pdf") [replacement, text] text :=
    ⟨by decide, by decide, by decide, fun _ named => by cases named⟩
  exact arrival_order_irrelevant wellFormed_default
    (row_default "$file") rfl about (by decide) true (Perm.refl _) (Perm.refl _)
    (.inr (.inr ⟨text, decides, by decide, by decide⟩))

open ArrivalExample in
/-- A text replacement that comes first is dropped, and a rename keeps whichever
media it finds. -/
theorem arrival_order_matters : attachmentAfter [text] [] ≠ attachmentAfter [] [text] ∧
      attachmentAfter [] [replacement, rename] ≠ attachmentAfter [] [rename, replacement] := by
  decide +kernel

/-! ## The applied edit only moves forward -/

namespace SearchRow

variable {row : SearchRow}

/-- The place of a row in the order of edits; a row without an edit comes first. -/
def stamp (row : SearchRow) : WithBot AppliedEdit := row.applied

theorem stamp_le_of_held {newer : AppliedEdit} (below : ∀ applied, row.applied = some applied -> applied ≤ newer) :
    row.stamp ≤ newer := by
  unfold stamp
  cases held : row.applied with
  | none => exact bot_le
  | some applied => exact WithBot.coe_le_coe.mpr (below applied held)

theorem stamp_le_absorb (row : SearchRow) (pending : PendingEdit) : row.stamp ≤ (row.absorb pending).stamp := by
  fun_cases absorb row pending with
  | case4 event present accepted newer =>
    apply stamp_le_of_held
    intro applied held
    simp only [holdsAtLeast, held, any_some, decide_eq_true_eq] at newer
    exact le_of_not_ge newer
  | _ => exact le_refl _

theorem stamp_le_foldl_absorb (waiting : List PendingEdit) (row : SearchRow) :
    row.stamp ≤ (waiting.foldl absorb row).stamp := by
  induction waiting generalizing row with
  | nil => exact le_refl _
  | cons pending rest ih => exact (stamp_le_absorb row pending).trans (ih _)

theorem stamp_le_upsertMessage (event : SearchableEvent) (canonical : Bool)
    (edit : Option SearchEditKey) : row.stamp ≤ (row.upsertMessage event canonical edit).stamp := by
  fun_cases upsertMessage row event canonical edit with
  | case4 resident fresh live =>
    -- A row that holds an edit is written only for a newer one.
    have written : row.stamp ≤ (row.write event canonical edit).stamp := by
      cases edit with
      | none => exact le_refl _
      | some key =>
        apply stamp_le_of_held
        intro applied held
        simp only [upsertIsStale, held, decide_eq_true_eq] at fresh
        exact le_of_not_ge fresh
    refine written.trans ?_
    unfold release
    split
    · exact le_refl _
    · next waiting _ => exact stamp_le_foldl_absorb waiting { row.write event canonical edit with pending := none }
  | _ => exact le_refl _

theorem stamp_le_upsertEdit (edit : SearchEdit) (canonical : Bool) :
    row.stamp ≤ (row.upsertEdit edit canonical).stamp := by
  fun_cases upsertEdit row edit canonical with
  | case2 => exact stamp_le_absorb row _
  | _ => exact le_refl _

/-- An edit that is not newer than the one a valid row holds is dropped. -/
theorem Valid.upsertEdit_of_le {eventId : String} (valid : row.Valid eventId) {applied : AppliedEdit}
    (held : row.applied = some applied) {edit : SearchEdit} {canonical : Bool}
    (older : (⟨edit, canonical⟩ : PendingEdit).incoming ≤ applied) :
    SearchRow.upsertEdit row edit canonical = row := by
  have present := valid.applied (by rw [held]; rfl)
  have holds : row.holdsAtLeast (⟨{ edit with body := none }, canonical⟩ : PendingEdit).incoming = true := by
    rw [holdsAtLeast, held, any_some, decide_eq_true_eq]
    exact older
  simp only [SearchRow.upsertEdit, present, SearchRow.absorb, holds, if_true]
  split
  · rfl
  · split <;> simp

end SearchRow

def SearchOperation.isUpsert : SearchOperation -> Bool
  | .upsertMessage .. => true
  | .upsertEdit .. => true
  | _ => false

theorem SearchDocumentStore.WellFormed.stamp_le_apply {store : SearchDocumentStore}
    (wellFormed : store.WellFormed) {operation : SearchOperation} (upserts : operation.isUpsert = true)
    (eventId : String) : (store.row eventId).stamp ≤ ((store.apply operation).row eventId).stamp := by
  have updated {target : String} {value : SearchRow} (newer : (store.row target).stamp ≤ value.stamp) :
      (store.row eventId).stamp ≤ (update store.row target value eventId).stamp := by
    by_cases same : eventId = target
    · subst same
      rwa [update_self]
    · rw [update_of_ne same]
  cases operation with
  | upsertMessage event canonical edit =>
    rw [SearchDocumentStore.apply, wellFormed.row_upsertMessage]
    exact updated (stamp_le_upsertMessage ..)
  | upsertEdit edit canonical =>
    rw [SearchDocumentStore.apply, row_upsertEdit]
    exact updated (stamp_le_upsertEdit ..)
  | _ => cases upserts

/-- Over upserts and edits the edit a row holds never moves back, and an edit that is not
newer than it leaves the row as it is. -/
theorem applied_edit_only_advances (history operations : List SearchOperation) (eventId : String)
    (upserts : ∀ operation ∈ operations, operation.isUpsert = true) :
    let store := run SearchDocumentStore.apply .default history
    (store.row eventId).stamp ≤ ((run SearchDocumentStore.apply store operations).row eventId).stamp ∧
    ∀ applied, (store.row eventId).applied = some applied -> ∀ edit canonical,
      edit.targetEventId = eventId -> (⟨edit, canonical⟩ : PendingEdit).incoming ≤ applied ->
        (store.upsertEdit edit canonical).row eventId = store.row eventId := by
  intro store
  have wellFormed : store.WellFormed := run_invariant WellFormed
    (fun _ operation wellFormed => wellFormed.apply operation) wellFormed_default
  constructor
  · apply (run_invariant_of_everyStep (fun reached : SearchDocumentStore =>
      reached.WellFormed ∧ (store.row eventId).stamp ≤ (reached.row eventId).stamp) _
      (everyStep_of_forall_mem upserts) ⟨wellFormed, le_refl _⟩).2
    rintro reached operation isUpsert ⟨valid, advanced⟩
    exact ⟨valid.apply operation, advanced.trans (valid.stamp_le_apply isUpsert eventId)⟩
  · rintro applied held edit canonical rfl older
    rw [row_upsertEdit, (wellFormed _).upsertEdit_of_le held older, update_eq_self]

open ArrivalExample in
theorem applied_edit_only_advances_rename :
    let store := run SearchDocumentStore.apply .default [.upsertMessage original true none]
    (store.row "$file").stamp ≤ ((run SearchDocumentStore.apply store
      [.upsertEdit rename.edit true, .upsertEdit replacement.edit true]).row "$file").stamp :=
  (applied_edit_only_advances [.upsertMessage original true none]
    [.upsertEdit rename.edit true, .upsertEdit replacement.edit true] "$file" (by decide)).1

end Koushi
