import Koushi.Reducer.RegistrySteps

namespace Koushi

open Collections ComposerSubmissionRegistry

/-!
# Accepted submissions under navigation

A registered submission stays registered, with its transaction and its target,
until it is settled, the session ends, or a step closes the active room and opens
no other.  The last case is the only one that navigation can cause, and it loses
every registered submission, those of other rooms included: opening a room
carries the registry over, closing one does not.
-/

def AppAction.settles (submissionId : SubmissionId) : AppAction -> Bool
  | .composerSubmissionSettled settled _ _ _ => settled = submissionId
  | _ => false

/-- A step that neither settles the submission, nor ends the session, nor closes
the active room. -/
structure KeepsSubmission (submissionId : SubmissionId) (state : AppState) (action : AppAction) : Prop where
  unsettled : action.settles submissionId = false
  sameSession : action.endsSession = false
  keepsRoom : closesActiveRoom state action = false

theorem step_keeps_record {state : AppState} {action : AppAction} {record : ComposerSubmissionRecord}
    (keeps : KeepsSubmission record.submissionId state action)
    (registered : record ∈ state.timeline.submissionRegistry.activeSubmissions) :
    record ∈ (step state action).timeline.submissionRegistry.activeSubmissions := by
  cases step_registryChange state action with
  | kept same =>
    rw [same]
    exact registered
  | accepted submissionId transactionId target _ same =>
    rw [same]
    exact activeSubmissions_subset_rememberAccepted _ _ _ _ registered
  | queued submissionId same =>
    rw [same]
    exact registered
  | settled submissionId transactionId target outcome named _ same =>
    have other : record.submissionId ≠ submissionId := by
      rintro rfl
      have unsettled := keeps.unsettled
      rw [named] at unsettled
      simp [AppAction.settles] at unsettled
    rw [same]
    exact mem_activeSubmissions_rememberSettled.mpr ⟨registered, other⟩
  | closed closes _ =>
    rw [keeps.keepsRoom] at closes
    cases closes
  | ended ends =>
    rw [keeps.sameSession] at ends
    cases ends

/-- In every run whose steps settle nothing of it, stay in the session and close
no active room, an accepted submission stays registered, so that its later
terminals still match. -/
theorem run_keeps_accepted_submission {state : AppState} {actions : List AppAction}
    {submissionId : SubmissionId} {transactionId : String} {target : ComposerTarget}
    (accepted : state.timeline.submissionRegistry.activeMatches submissionId transactionId target = true)
    (guarded : Machine.EveryStep step (KeepsSubmission submissionId) state actions) :
    (Machine.run step state actions).timeline.submissionRegistry.activeMatches submissionId transactionId
      target = true := by
  rw [activeMatches_iff] at accepted ⊢
  refine Machine.run_invariant_of_everyStep
    (fun state => ⟨submissionId, transactionId, target⟩ ∈
      state.timeline.submissionRegistry.activeSubmissions) ?_ guarded accepted
  intro state action keeps registered
  exact step_keeps_record keeps registered

/-- A started client with two rooms, the first of them open, and a message
accepted in it. -/
def submittedState : AppState :=
  Machine.run step AppState.default
    (coldStart ⟨"https://example.org", "@ada:example.org", "DEVICE"⟩ ++
      [.roomListUpdated [] [⟨"!lobby", false, [], []⟩, ⟨"!attic", false, [], []⟩],
        .composerSubmissionAccepted "s1" "!lobby" "t1" "hello"])

theorem run_keeps_accepted_submission_roomSwitch :
    submittedState.timeline.submissionRegistry.activeMatches "s1" "t1" (.main "!lobby") = true ∧
      (Machine.run step submittedState
        [.selectRoom "!attic", .roomLeftLocally "!lobby"]).timeline.submissionRegistry.activeMatches
          "s1" "t1" (.main "!lobby") = true := by
  have accepted : submittedState.timeline.submissionRegistry.activeMatches "s1" "t1"
      (.main "!lobby") = true := by decide +kernel
  refine ⟨accepted, run_keeps_accepted_submission accepted ⟨⟨rfl, rfl, rfl⟩, ⟨rfl, rfl, ?_⟩, trivial⟩⟩
  decide +kernel

/-- Showing no space closes the active room, and the submission is forgotten. -/
theorem deselection_forgets_submission : isSessionReady submittedState = true ∧
      submittedState.timeline.submissionRegistry.activeMatches "s1" "t1" (.main "!lobby") = true ∧
      (step submittedState (.selectSpace none)).timeline.submissionRegistry.activeMatches
        "s1" "t1" (.main "!lobby") = false := by
  decide +kernel

/-- Closing the active room forgets every submission. -/
theorem step_closes_registry {state : AppState} {action : AppAction}
    (closes : closesActiveRoom state action = true) :
    (step state action).timeline.submissionRegistry = .default := by
  rw [step_submissionRegistry]
  cases action with
  | selectSpace spaceId => exact (handleSelectSpace_closes state spaceId).trans (by rw [closes]; rfl)
  | roomListUpdated spaces rooms =>
    exact (handleRoomListUpdated_closes state rooms).trans (by rw [closes]; rfl)
  | roomListSnapshotProvisional snapshot =>
    exact (handleRoomListSnapshotProvisional_closes state snapshot).trans (by rw [closes]; rfl)
  | roomListSnapshotAuthoritative snapshot =>
    exact (handleRoomListSnapshotAuthoritative_closes state snapshot).trans (by rw [closes]; rfl)
  | roomLeftLocally roomId =>
    exact (handleRoomLeftLocally_closes state roomId).trans (by rw [closes]; rfl)
  | _ => cases closes

end Koushi
