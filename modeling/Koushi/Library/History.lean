import Mathlib

namespace History

open List

/-!
# What has held since an instant

A history is a list of observations with their instants, the newest first.  `Since` says
that a condition has held in every observation since one that was made at or before an
instant.  It is kept by an observation in which the condition holds, and it is lost with
the first one in which it does not.
-/

variable {ω τ : Type} [Preorder τ] {instant : ω -> τ} {holds : ω -> Prop} {history : List ω}

/-- The condition holds in every observation since one at or before `start`. -/
def Since (instant : ω -> τ) (holds : ω -> Prop) (history : List ω) (start : τ) : Prop :=
  ∃ recent older, history = recent ++ older ∧ (∀ observation ∈ recent, holds observation) ∧
    ∃ observation ∈ recent, instant observation ≤ start

/-- An observation in which the condition holds goes on with what held before. -/
theorem Since.observe {newest : ω} {start : τ} (since : Since instant holds history start)
    (holdsNow : holds newest) : Since instant holds (newest :: history) start := by
  obtain ⟨recent, older, rfl, held, first, member, early⟩ := since
  refine ⟨newest :: recent, older, rfl, ?_, first, mem_cons_of_mem newest member, early⟩
  intro observation present
  rcases mem_cons.mp present with rfl | before
  · exact holdsNow
  · exact held observation before

theorem since_newest {newest : ω} (holdsNow : holds newest) :
    Since instant holds (newest :: history) (instant newest) :=
  ⟨[newest], history, rfl, by simpa using holdsNow, newest, mem_singleton_self newest, le_refl _⟩

/-- A condition that the observation before the newest one did not meet holds since the
newest one at most. -/
theorem Since.instant_le_of_gap {newest gap : ω} {start : τ}
    (since : Since instant holds (newest :: gap :: history) start) (missing : ¬ holds gap) :
    instant newest ≤ start := by
  obtain ⟨recent, older, split, held, first, member, early⟩ := since
  cases recent with
  | nil => cases member
  | cons head rest =>
    rw [cons_append, cons.injEq] at split
    obtain ⟨rfl, split⟩ := split
    cases rest with
    | nil =>
      rw [mem_singleton.mp member] at early
      exact early
    | cons second rest =>
      rw [cons_append, cons.injEq] at split
      rw [split.1] at missing
      exact absurd (held second (mem_cons_of_mem _ mem_cons_self)) missing

end History
