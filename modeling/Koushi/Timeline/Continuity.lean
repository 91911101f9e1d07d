import Koushi.Library.Run
import Koushi.Reducer.State

namespace Koushi

open Machine

/-!
# The generations of timeline continuity

Inspections and gap repairs of the shown timeline are numbered, and a start is admitted with
a higher number than that of the continuity state only.  The state after an inspection that
found out nothing has no number, so the numbers begin again
(`unknown_inspection_restarts_generations`).  Every other transition carries the number on.
-/

inductive TimelineGapRepairFailureKind where
  | network
  | timeout
  | sdk
  | cancelled
  | unsupportedAnchor
deriving DecidableEq, Repr

inductive TimelineContinuityInspection where
  | unknown
  | gapped (gapCount : Nat)
  | complete
deriving DecidableEq, Repr

inductive TimelineContinuityState where
  | unknown
  | inspecting (generation knownGapCount : Nat)
  | healthy (generation : Nat) (authoritativeStart : Bool)
  | incomplete (generation gapCount : Nat)
  | repairing (generation gapCount batchesProcessed : Nat) (minimumBatchId : Option Nat)
  | failedIncomplete (generation gapCount batchesProcessed : Nat) (failureKind : TimelineGapRepairFailureKind)
deriving DecidableEq, Repr

def continuityGapCount : TimelineContinuityState -> Nat
  | .inspecting _ gapCount | .incomplete _ gapCount | .repairing _ gapCount _ _
  | .failedIncomplete _ gapCount _ _ => gapCount
  | .unknown | .healthy _ _ => 0

def continuityGeneration : TimelineContinuityState -> Nat
  | .unknown => 0
  | .inspecting generation _ | .healthy generation _ | .incomplete generation _ | .repairing generation _ _ _
  | .failedIncomplete generation _ _ _ => generation

namespace TimelineContinuityState

def inspects (generation : Nat) : TimelineContinuityState -> Bool
  | .inspecting active _ => active = generation
  | _ => false

def repairs (generation : Nat) : TimelineContinuityState -> Bool
  | .repairing active _ _ _ => active = generation
  | _ => false

end TimelineContinuityState

inductive ContinuityAction where
  | inspectionStarted (roomId : String) (generation : Nat)
  | inspected (roomId : String) (generation : Nat) (inspection : TimelineContinuityInspection)
  | gapRepairStarted (roomId : String) (generation gapCount : Nat)
  | gapRepairProgressed (roomId : String) (generation gapCount batchesProcessed : Nat) (minimumBatchId : Option Nat)
  | gapRepairFailed (roomId : String) (generation gapCount batchesProcessed : Nat)
      (failureKind : TimelineGapRepairFailureKind)
deriving DecidableEq, Repr

namespace ContinuityAction

def generation : ContinuityAction -> Nat
  | inspectionStarted _ generation | inspected _ generation _ | gapRepairStarted _ generation _
  | gapRepairProgressed _ generation _ _ _ | gapRepairFailed _ generation _ _ _ => generation

def isStart : ContinuityAction -> Bool
  | inspectionStarted .. | gapRepairStarted .. => true
  | _ => false

/-- The end of an inspection that found out nothing. -/
def endsUnknown : ContinuityAction -> Bool
  | inspected _ _ .unknown => true
  | _ => false

end ContinuityAction

/-- The app, with the continuity of the timeline it shows. -/
structure ContinuityPane where
  app : AppState
  continuity : TimelineContinuityState := .unknown
deriving DecidableEq

namespace ContinuityPane

variable (pane : ContinuityPane)

def activeRoomMatches (roomId : String) : Bool :=
  isSessionReady pane.app && pane.app.timeline.roomId = some roomId

/-- Write a continuity state if the action is about the shown room and its number is admitted. -/
def write (roomId : String) (admitted : Bool) (continuity : TimelineContinuityState) :
    ContinuityPane × List AppEffect :=
  if !pane.activeRoomMatches roomId || !admitted then (pane, [])
  else ({ pane with continuity }, [.emitUiEvent (.timelineChanged roomId)])

def handle : ContinuityAction -> ContinuityPane × List AppEffect
  | .inspectionStarted roomId generation =>
    pane.write roomId (continuityGeneration pane.continuity < generation)
      (.inspecting generation (continuityGapCount pane.continuity))
  | .inspected roomId generation inspection =>
    pane.write roomId (pane.continuity.inspects generation)
      (match inspection with
      | .unknown => .unknown
      | .gapped gapCount => .incomplete generation gapCount
      | .complete => .healthy generation true)
  | .gapRepairStarted roomId generation gapCount =>
    pane.write roomId (continuityGeneration pane.continuity < generation) (.repairing generation gapCount 0 none)
  | .gapRepairProgressed roomId generation gapCount batchesProcessed minimumBatchId =>
    pane.write roomId (pane.continuity.repairs generation)
      (.repairing generation gapCount batchesProcessed minimumBatchId)
  | .gapRepairFailed roomId generation gapCount batchesProcessed failureKind =>
    pane.write roomId (pane.continuity.repairs generation)
      (.failedIncomplete generation gapCount batchesProcessed failureKind)

def step (action : ContinuityAction) : ContinuityPane := (pane.handle action).1

variable {pane : ContinuityPane} {roomId : String} {generation : Nat} {admitted : Bool}
  {continuity : TimelineContinuityState}

theorem generation_of_inspects (active : continuity.inspects generation = true) :
    continuityGeneration continuity = generation := by
  cases continuity with
  | inspecting => exact of_decide_eq_true active
  | _ => cases active

theorem generation_of_repairs (active : continuity.repairs generation = true) :
    continuityGeneration continuity = generation := by
  cases continuity with
  | repairing => exact of_decide_eq_true active
  | _ => cases active

theorem write_of_refused (refused : admitted = true -> False) :
    pane.write roomId admitted continuity = (pane, []) := by
  rw [write, if_pos]
  rw [Bool.eq_false_iff.mpr refused, Bool.not_false, Bool.or_true]

theorem le_write (forward : admitted = true -> continuityGeneration pane.continuity ≤ continuityGeneration continuity) :
    continuityGeneration pane.continuity ≤
      continuityGeneration (pane.write roomId admitted continuity).1.continuity := by
  rw [write]
  split
  · exact le_refl _
  · next written =>
    apply forward
    simp only [Bool.or_eq_true, Bool.not_eq_true', not_or, Bool.not_eq_false] at written
    exact written.2

/-- Every action but the end of an inspection that found out nothing carries the number on. -/
theorem le_step {action : ContinuityAction} (decided : action.endsUnknown = false) :
    continuityGeneration pane.continuity ≤ continuityGeneration (pane.step action).continuity := by
  cases action with
  | inspectionStarted | gapRepairStarted => exact le_write (fun newer => (of_decide_eq_true newer).le)
  | inspected roomId generation inspection =>
    apply le_write
    intro active
    rw [generation_of_inspects active]
    cases inspection with
    | unknown => cases decided
    | gapped | complete => exact le_refl _
  | gapRepairProgressed | gapRepairFailed => exact le_write (fun active => (generation_of_repairs active).le)

/-- After an admitted repair, and as long as no inspection ends as unknown: no start with its
number or a lower one is admitted, and no completion with a number lower than the current one
changes the state. -/
theorem stale_generations_rejected {gapCount : Nat} {later : List ContinuityAction}
    (shown : pane.activeRoomMatches roomId = true) (newer : continuityGeneration pane.continuity < generation)
    (decided : ∀ action ∈ later, action.endsUnknown = false) :
    let after := Machine.run step (pane.step (.gapRepairStarted roomId generation gapCount)) later
    (∀ start : ContinuityAction, start.isStart = true -> start.generation ≤ generation ->
      after.handle start = (after, [])) ∧
    ∀ completion : ContinuityAction, completion.isStart = false ->
      completion.generation < continuityGeneration after.continuity ->
      after.handle completion = (after, []) := by
  intro after
  have admitted : continuityGeneration (pane.step (.gapRepairStarted roomId generation gapCount)).continuity =
      generation := by
    rw [step, handle, write, if_neg (by simp [shown, newer])]
    rfl
  have reached : generation ≤ continuityGeneration after.continuity :=
    run_invariant_of_everyStep (fun pane : ContinuityPane => generation ≤ continuityGeneration pane.continuity)
      (fun _ _ decided reached => reached.trans (le_step decided)) (everyStep_of_forall_mem decided) admitted.ge
  constructor
  · intro start starts old
    cases start with
    | inspectionStarted | gapRepairStarted =>
      exact write_of_refused (fun newer => absurd (of_decide_eq_true newer) (not_lt.mpr (old.trans reached)))
    | _ => cases starts
  · intro completion completes old
    cases completion with
    | inspected => exact write_of_refused (fun active => absurd (generation_of_inspects active) old.ne')
    | gapRepairProgressed | gapRepairFailed =>
      exact write_of_refused (fun active => absurd (generation_of_repairs active) old.ne')
    | _ => cases completes

/-- A ready session that shows `!lobby`. -/
def lobby : ContinuityPane :=
  ⟨{ AppState.default with
    session := .ready ⟨"https://hs", "@me:hs", "DEVICE"⟩
    timeline := { (default : TimelinePaneState) with roomId := some "!lobby" } }, .unknown⟩

theorem stale_generations_rejected_gapped :
    let after := Machine.run step (lobby.step (.gapRepairStarted "!lobby" 5 1))
      [.inspectionStarted "!lobby" 6, .inspected "!lobby" 6 (.gapped 2)]
    after.handle (.gapRepairStarted "!lobby" 5 1) = (after, []) :=
  (stale_generations_rejected (by decide +kernel) (by decide) (by decide)).1 _ rfl (le_refl 5)

/-- Generation 5 is admitted a second time, after an inspection that found out nothing. -/
theorem unknown_inspection_restarts_generations :
    let repaired := lobby.handle (.gapRepairStarted "!lobby" 5 1)
    let inspected := Machine.run step repaired.1 [.inspectionStarted "!lobby" 6, .inspected "!lobby" 6 .unknown]
    repaired.2 = [.emitUiEvent (.timelineChanged "!lobby")] ∧
      (inspected.handle (.gapRepairStarted "!lobby" 5 1)).2 = [.emitUiEvent (.timelineChanged "!lobby")] ∧
      (inspected.step (.gapRepairStarted "!lobby" 5 1)).continuity = .repairing 5 1 0 none := by
  decide +kernel

end ContinuityPane

end Koushi
