import Koushi.Library.Run

namespace Koushi

open Machine

/-!
# Checkpoints of a room subscription

A room subscription brings checkpoints.  One is current, and one may wait behind it while
the gap of the current one is repaired.  A waiting checkpoint gives way to every newer one,
also to one without a gap, and its own gap is lost then
(`plain_checkpoint_replaces_waiting_gap`).
-/

/-- A committed checkpoint, with what is compared of it. -/
structure MatrixRoomSubscriptionCheckpoint where
  generation : Nat
  responseSequence : Nat
  roomId : String
  hasInsertedGap : Bool
deriving DecidableEq, Repr

def MatrixRoomSubscriptionCheckpoint.sameResponseAs (checkpoint other : MatrixRoomSubscriptionCheckpoint) : Bool :=
  checkpoint.generation == other.generation && checkpoint.roomId == other.roomId &&
    checkpoint.responseSequence == other.responseSequence

def checkpointIsStrictlyNewer (incoming existing : MatrixRoomSubscriptionCheckpoint) : Bool :=
  if incoming.sameResponseAs existing then false
  else existing.generation < incoming.generation ||
    incoming.generation == existing.generation && existing.responseSequence < incoming.responseSequence

/-- The current checkpoint, and the one that waits behind it. -/
structure CheckpointSlots where
  current : Option MatrixRoomSubscriptionCheckpoint
  deferred : Option MatrixRoomSubscriptionCheckpoint
deriving DecidableEq, Repr

namespace CheckpointSlots

variable (slots : CheckpointSlots)

def retainRoomSubscriptionCheckpoint (incoming : MatrixRoomSubscriptionCheckpoint) :
    CheckpointSlots × Bool :=
  match slots.current with
  | none => (⟨some incoming, none⟩, true)
  | some existing =>
    if !checkpointIsStrictlyNewer incoming existing then (slots, false)
    else if existing.hasInsertedGap then
      (if slots.deferred.all (checkpointIsStrictlyNewer incoming) then { slots with deferred := some incoming }
        else slots, false)
    else (⟨some incoming, none⟩, true)

def roomCheckpointAdvancesGlobalFence (incoming : MatrixRoomSubscriptionCheckpoint) : Bool :=
  slots.current.all (checkpointIsStrictlyNewer incoming) && slots.deferred.all (checkpointIsStrictlyNewer incoming)

def consumeRoomSubscriptionCheckpoint (consumed : MatrixRoomSubscriptionCheckpoint) :
    CheckpointSlots × Bool :=
  if !slots.current.any (fun checkpoint => checkpoint.sameResponseAs consumed) then (slots, false)
  else
    match slots.deferred.filter (fun next => checkpointIsStrictlyNewer next consumed) with
    | some next => (⟨some next, none⟩, true)
    | none => (⟨none, none⟩, false)

inductive Call where
  | retain (incoming : MatrixRoomSubscriptionCheckpoint)
  | consume (consumed : MatrixRoomSubscriptionCheckpoint)
deriving DecidableEq, Repr

def step : Call -> CheckpointSlots
  | .retain incoming => (slots.retainRoomSubscriptionCheckpoint incoming).1
  | .consume consumed => (slots.consumeRoomSubscriptionCheckpoint consumed).1

def Holds (checkpoint : MatrixRoomSubscriptionCheckpoint) : Prop :=
  slots.current = some checkpoint ∨ slots.deferred = some checkpoint

/-- A checkpoint waits only behind an older one with a gap. -/
def Ordered : Prop :=
  ∀ waiting, slots.deferred = some waiting -> ∃ first, slots.current = some first ∧
    first.hasInsertedGap = true ∧ checkpointIsStrictlyNewer waiting first = true

/-- A gap that is reported stays until it is consumed or a newer one is reported. -/
def KeepsGaps (call : Call) : Prop :=
  ∀ checkpoint, slots.Holds checkpoint -> checkpoint.hasInsertedGap = true ->
    (slots.step call).Holds checkpoint ∨
      (slots.current = some checkpoint ∧
        ∃ consumed, call = .consume consumed ∧ checkpoint.sameResponseAs consumed = true) ∨
      ∃ newer, (slots.step call).Holds newer ∧ newer.hasInsertedGap = true ∧
        checkpointIsStrictlyNewer newer checkpoint = true

variable {slots : CheckpointSlots}

theorem checkpointIsStrictlyNewer_iff {incoming existing : MatrixRoomSubscriptionCheckpoint} :
    checkpointIsStrictlyNewer incoming existing = true ↔ existing.generation < incoming.generation ∨
      incoming.generation = existing.generation ∧ existing.responseSequence < incoming.responseSequence := by
  simp only [checkpointIsStrictlyNewer, MatrixRoomSubscriptionCheckpoint.sameResponseAs]
  grind

/-- A checkpoint that is newer than both waits behind a gap, or is the current one. -/
theorem Ordered.retain (ordered : slots.Ordered) (incoming : MatrixRoomSubscriptionCheckpoint) :
    slots.step (.retain incoming) = if slots.roomCheckpointAdvancesGlobalFence incoming then
        if slots.current.any MatrixRoomSubscriptionCheckpoint.hasInsertedGap then ⟨slots.current, some incoming⟩
        else ⟨some incoming, none⟩ else slots := by
  rcases slots with ⟨_ | current, _ | deferred⟩ <;>
    grind [Ordered, step, retainRoomSubscriptionCheckpoint, roomCheckpointAdvancesGlobalFence]

/-- The waiting checkpoint follows the consumed one. -/
theorem Ordered.consume (ordered : slots.Ordered) (consumed : MatrixRoomSubscriptionCheckpoint) :
    slots.step (.consume consumed) =
      if slots.current.any (fun checkpoint => checkpoint.sameResponseAs consumed) then ⟨slots.deferred, none⟩
      else slots := by
  rcases slots with ⟨_ | current, _ | deferred⟩ <;>
    grind [Ordered, step, consumeRoomSubscriptionCheckpoint, checkpointIsStrictlyNewer_iff,
      MatrixRoomSubscriptionCheckpoint.sameResponseAs]

theorem Ordered.step (ordered : slots.Ordered) (call : Call) : (slots.step call).Ordered := by
  cases call with
  | retain incoming =>
    rw [ordered.retain]
    cases current : slots.current <;> grind [Ordered, roomCheckpointAdvancesGlobalFence]
  | consume consumed =>
    rw [ordered.consume]
    grind [Ordered]

/-- In every run from empty slots: a checkpoint waits only behind an older one with a gap; the
current one moves to newer ones only; a checkpoint that is not newer than both changes
nothing; and a call keeps the gaps exactly when it does not bring a newer checkpoint without
a gap while one with a gap waits. -/
theorem checkpoints_ordered_and_gaps_kept_iff (calls : List Call) (call : Call) :
    let slots := run step ⟨none, none⟩ calls
    slots.Ordered ∧
      (∀ old new, slots.current = some old -> (slots.step call).current = some new -> new ≠ old ->
        checkpointIsStrictlyNewer new old = true) ∧
      (∀ incoming, slots.roomCheckpointAdvancesGlobalFence incoming = false ->
        slots.step (.retain incoming) = slots) ∧
      (slots.KeepsGaps call ↔ ∀ incoming waiting, call = .retain incoming -> slots.deferred = some waiting ->
        waiting.hasInsertedGap = true -> checkpointIsStrictlyNewer incoming waiting = true ->
          incoming.hasInsertedGap = true) := by
  intro slots
  have ordered : slots.Ordered :=
    run_invariant Ordered (fun slots call ordered => ordered.step call)
      (fun waiting missing => absurd missing.symm (Option.some_ne_none waiting))
  clear_value slots
  refine ⟨ordered, ?_, ?_, ?_⟩
  · cases call with
    | retain incoming =>
      rw [ordered.retain]
      cases current : slots.current <;> grind [roomCheckpointAdvancesGlobalFence]
    | consume consumed =>
      rw [ordered.consume]
      grind [Ordered]
  · intro incoming old
    rw [ordered.retain, old]
    rfl
  · unfold KeepsGaps Holds
    cases call with
    | retain incoming =>
      rw [ordered.retain]
      rcases slots with ⟨_ | current, _ | deferred⟩ <;>
        grind [Ordered, roomCheckpointAdvancesGlobalFence, checkpointIsStrictlyNewer_iff]
    | consume consumed =>
      rw [ordered.consume]
      rcases slots with ⟨_ | current, _ | deferred⟩ <;> grind [Ordered]

/-- A checkpoint with a gap waits, and a newer one without a gap takes its place. -/
theorem plain_checkpoint_replaces_waiting_gap :
    let gap (sequence : Nat) : MatrixRoomSubscriptionCheckpoint := ⟨1, sequence, "!r", true⟩
    let slots := run step ⟨none, none⟩ [.retain (gap 1), .retain (gap 2)]
    slots = ⟨some (gap 1), some (gap 2)⟩ ∧
      slots.step (.retain ⟨1, 3, "!r", false⟩) = ⟨some (gap 1), some ⟨1, 3, "!r", false⟩⟩ := by
  decide

end CheckpointSlots

end Koushi
