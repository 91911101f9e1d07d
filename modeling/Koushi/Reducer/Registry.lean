import Koushi.Library.Quota
import Koushi.Composer.Target

namespace Koushi

open Collections

/-!
# The submission registry

The registry follows every composer submission from its acceptance to its
settlement.  An accepted submission is active: its record names the transaction
and the composer target it was sent from, and a later `Queued` or `Settled` is
only believed when it names the same three.  A settled id leaves the active
records and is remembered as a tombstone; the tombstones are bounded, and the
oldest one goes first.
-/

/-- How many ids the bounded lists remember. -/
def MAX_ACCEPTED_SUBMISSION_TOMBSTONES : Nat := 128

structure ComposerSubmissionRecord where
  submissionId : SubmissionId
  transactionId : String
  target : ComposerTarget
deriving DecidableEq, Repr

structure ComposerSubmissionRegistry where
  acceptedSubmissionIds : List SubmissionId
  queuedSubmissionIds : List SubmissionId
  settledSubmissionIds : List SubmissionId
  activeSubmissions : List ComposerSubmissionRecord
deriving DecidableEq, Repr

namespace ComposerSubmissionRegistry

def default : ComposerSubmissionRegistry := ⟨[], [], [], []⟩

instance : Inhabited ComposerSubmissionRegistry := ⟨default⟩

def rememberBoundedId (ids : List SubmissionId) (id : SubmissionId) : List SubmissionId :=
  rememberBounded MAX_ACCEPTED_SUBMISSION_TOMBSTONES ids id

variable (registry : ComposerSubmissionRegistry)

def rememberQueued (id : SubmissionId) : ComposerSubmissionRegistry :=
  { registry with queuedSubmissionIds := rememberBoundedId registry.queuedSubmissionIds id }

def rememberAccepted (id : SubmissionId)
    (transactionId : String) (target : ComposerTarget) : ComposerSubmissionRegistry :=
  if id ∈ registry.acceptedSubmissionIds then registry
  else
    { registry with
      acceptedSubmissionIds := registry.acceptedSubmissionIds ++ [id]
      activeSubmissions := registry.activeSubmissions ++ [⟨id, transactionId, target⟩] }

def activeMatches (id : SubmissionId) (transactionId : String) (target : ComposerTarget) : Bool :=
  registry.activeSubmissions.any (fun active =>
    active.submissionId = id && active.transactionId = transactionId && active.target = target)

def rememberSettled (id : SubmissionId) : ComposerSubmissionRegistry where
  acceptedSubmissionIds := registry.acceptedSubmissionIds.filter (fun active => active ≠ id)
  queuedSubmissionIds := registry.queuedSubmissionIds.filter (fun queued => queued ≠ id)
  settledSubmissionIds := rememberBoundedId registry.settledSubmissionIds id
  activeSubmissions := registry.activeSubmissions.filter (fun active => active.submissionId ≠ id)

theorem activeMatches_iff {registry : ComposerSubmissionRegistry} {id : SubmissionId}
    {transactionId : String} {target : ComposerTarget} :
    registry.activeMatches id transactionId target = true ↔
      ⟨id, transactionId, target⟩ ∈ registry.activeSubmissions := by
  simp only [activeMatches, List.any_eq_true, Bool.and_eq_true, decide_eq_true_eq]
  constructor
  · rintro ⟨⟨_, _, _⟩, member, ⟨rfl, rfl⟩, rfl⟩
    exact member
  · intro member
    exact ⟨_, member, ⟨rfl, rfl⟩, rfl⟩

/-- Accepting a submission only adds records. -/
theorem activeSubmissions_subset_rememberAccepted
    (id : SubmissionId) (transactionId : String) (target : ComposerTarget) :
    registry.activeSubmissions ⊆ (registry.rememberAccepted id transactionId target).activeSubmissions := by
  unfold rememberAccepted
  split
  · exact List.Subset.refl _
  · exact List.subset_append_left _ _

/-- Settling one submission leaves the records of the others. -/
theorem mem_activeSubmissions_rememberSettled {registry : ComposerSubmissionRegistry}
    {id : SubmissionId} {record : ComposerSubmissionRecord} :
    record ∈ (registry.rememberSettled id).activeSubmissions ↔
      record ∈ registry.activeSubmissions ∧ record.submissionId ≠ id := by
  simp [rememberSettled]

end ComposerSubmissionRegistry

end Koushi
