import Koushi.Library.Run

namespace Machine

/-!
# Fair schedules

A schedule is an infinite run.  An action that is not enabled does nothing, so a schedule
may idle; weak fairness of a kind of actions says that it does not idle forever while an
action of that kind stays enabled.
-/

variable {σ α : Type}

structure Schedule (step : σ -> α -> σ) where
  state : Nat -> σ
  action : Nat -> α
  steps : ∀ time, state (time + 1) = step (state time) (action time)

namespace Schedule

variable {step : σ -> α -> σ} (schedule : Schedule step) (enabled : σ -> α -> Prop)

/-- At this time the schedule takes an enabled action of the kind. -/
def Takes (kind : α -> Prop) (time : Nat) : Prop :=
  kind (schedule.action time) ∧ enabled (schedule.state time) (schedule.action time)

def WeakFair (kind : α -> Prop) : Prop :=
  ∀ time, (∀ later, time ≤ later -> ∃ action, kind action ∧ enabled (schedule.state later) action) ->
    ∃ later, time ≤ later ∧ schedule.Takes enabled kind later

variable {schedule enabled}

/-- What every later step preserves holds from now on. -/
theorem forever {holds : σ -> Prop} {time : Nat} (now : holds (schedule.state time))
    (kept : ∀ later, time ≤ later -> holds (schedule.state later) ->
      holds (step (schedule.state later) (schedule.action later))) :
    ∀ later, time ≤ later -> holds (schedule.state later) := by
  intro later after
  induction later, after using Nat.le_induction with
  | base => exact now
  | succ later after ih =>
    rw [schedule.steps]
    exact kept later after ih

/-- A condition that enables a kind of actions, and that the other actions keep, holds until
an action of the kind is taken. -/
theorem WeakFair.takes {kind : α -> Prop} (fair : schedule.WeakFair enabled kind) (holds : σ -> Prop)
    {time : Nat} (now : holds (schedule.state time))
    (able : ∀ later, time ≤ later -> holds (schedule.state later) ->
      ∃ action, kind action ∧ enabled (schedule.state later) action)
    (kept : ∀ later, time ≤ later -> holds (schedule.state later) -> ¬schedule.Takes enabled kind later ->
      holds (step (schedule.state later) (schedule.action later))) :
    ∃ later, time ≤ later ∧ holds (schedule.state later) ∧ schedule.Takes enabled kind later := by
  by_contra never
  push Not at never
  have always : ∀ later, time ≤ later -> holds (schedule.state later) :=
    forever now (fun later after holding => kept later after holding (never later after holding))
  obtain ⟨later, after, taken⟩ := fair time (fun later after => able later after (always later after))
  exact never later after (always later after) taken

variable (schedule) in
/-- A measure that never grows is constant from some time on. -/
theorem exists_settled (measure : σ -> Nat)
    (shrinks : ∀ time, measure (step (schedule.state time) (schedule.action time)) ≤ measure (schedule.state time))
    (start : Nat) :
    ∃ time, start ≤ time ∧ ∀ later, time ≤ later -> measure (schedule.state later) = measure (schedule.state time) := by
  have antitone : Antitone (fun time => measure (schedule.state time)) := by
    refine antitone_nat_of_succ_le (fun time => ?_)
    rw [schedule.steps]
    exact shrinks time
  obtain ⟨time, smallest⟩ : ∃ time, ∀ other, measure (schedule.state time) ≤ measure (schedule.state other) :=
    ⟨_, fun other => Function.argmin_le (fun time => measure (schedule.state time)) other⟩
  refine ⟨max start time, le_max_left start time, ?_⟩
  intro later after
  exact le_antisymm (antitone after)
    ((antitone (le_max_right start time)).trans (smallest later))

end Schedule

end Machine
