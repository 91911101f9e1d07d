import Mathlib

namespace Machine

/-!
# Runs of a deterministic machine

A machine is a function from a state and an action to the next state.  A run is a
finite list of actions.  `EveryStep` says that a condition on the state before
each step and on the action of that step holds all along a run; it is how a
theorem about runs names the steps it speaks about.
-/

variable {σ α : Type}

def run (step : σ -> α -> σ) (state : σ) : List α -> σ
  | [] => state
  | action :: rest => run step (step state action) rest

/-- A condition that holds before and at each step of a run. -/
def EveryStep (step : σ -> α -> σ) (guard : σ -> α -> Prop) (state : σ) : List α -> Prop
  | [] => True
  | action :: rest => guard state action ∧ EveryStep step guard (step state action) rest

variable {step : σ -> α -> σ}

instance decidableEveryStep {guard : σ -> α -> Prop} [∀ state action, Decidable (guard state action)] :
    ∀ (state : σ) (actions : List α), Decidable (EveryStep step guard state actions)
  | _, [] => isTrue trivial
  | state, action :: rest =>
    have later : Decidable (EveryStep step guard (step state action) rest) :=
      decidableEveryStep (step state action) rest
    inferInstanceAs (Decidable (guard state action ∧ EveryStep step guard (step state action) rest))

@[simp] theorem run_nil (state : σ) : run step state [] = state := rfl

@[simp] theorem run_cons (state : σ) (action : α) (rest : List α) :
    run step state (action :: rest) = run step (step state action) rest := rfl

variable {first second : List α}

theorem run_append (state : σ) :
    run step state (first ++ second) = run step (run step state first) second := by
  induction first generalizing state with
  | nil => rfl
  | cons action rest ih => exact ih (step state action)

theorem run_concat (state : σ) (actions : List α) (last : α) :
    run step state (actions ++ [last]) = step (run step state actions) last := by
  rw [run_append]
  rfl

variable {state : σ} {guard : σ -> α -> Prop} {actions : List α}

/-- What every step preserves holds at the end of every run. -/
theorem run_invariant (holds : σ -> Prop)
    (preserved : forall state action, holds state -> holds (step state action))
    (initially : holds state) : holds (run step state actions) := by
  induction actions generalizing state with
  | nil => exact initially
  | cons action rest ih => exact ih (preserved state action initially)

/-- What every guarded step preserves holds at the end of every guarded run. -/
theorem run_invariant_of_everyStep (holds : σ -> Prop)
    (preserved : forall state action, guard state action -> holds state -> holds (step state action))
    (guarded : EveryStep step guard state actions) (initially : holds state) :
    holds (run step state actions) := by
  induction actions generalizing state with
  | nil => exact initially
  | cons action rest ih => exact ih guarded.2 (preserved state action guarded.1 initially)

/-- A condition on the actions alone holds along every run of them. -/
theorem everyStep_of_forall_mem {guard : α -> Prop}
    (each : ∀ action ∈ actions, guard action) : EveryStep step (fun _ => guard) state actions := by
  induction actions generalizing state with
  | nil => trivial
  | cons action rest ih =>
    exact ⟨each action List.mem_cons_self, ih (fun other listed => each other (List.mem_cons_of_mem action listed))⟩

theorem everyStep_append {first second : List α} : EveryStep step guard state (first ++ second) ↔
      EveryStep step guard state first ∧ EveryStep step guard (run step state first) second := by
  induction first generalizing state with
  | nil => simp [EveryStep]
  | cons action rest ih => simp [EveryStep, ih, and_assoc]

/-- A count summed over the steps of a run. -/
def tally (step : σ -> α -> σ) (count : σ -> α -> Nat) (state : σ) : List α -> Nat
  | [] => 0
  | action :: rest => count state action + tally step count (step state action) rest

/-- Nothing is counted once the machine is in a condition that it keeps and that
silences the count. -/
theorem tally_eq_zero {count : σ -> α -> Nat} (done : σ -> Prop)
    (silent : forall state action, guard state action -> done state ->
    count state action = 0 ∧ done (step state action)) (guarded : EveryStep step guard state actions)
    (finished : done state) : tally step count state actions = 0 := by
  induction actions generalizing state with
  | nil => rfl
  | cons action rest ih =>
    have quiet := silent state action guarded.1 finished
    rw [tally, quiet.1, ih guarded.2 quiet.2]

/-- What silences itself the first time it is counted is counted at most once. -/
theorem tally_le_one {count : σ -> α -> Nat} (done : σ -> Prop)
    (atMostOne : forall state action, count state action ≤ 1)
    (finishes : forall state action, guard state action -> count state action ≠ 0 -> done (step state action))
    (silent : forall state action, guard state action -> done state ->
    count state action = 0 ∧ done (step state action)) (guarded : EveryStep step guard state actions) :
    tally step count state actions ≤ 1 := by
  induction actions generalizing state with
  | nil => exact Nat.zero_le 1
  | cons action rest ih =>
    rw [tally]
    by_cases counted : count state action = 0
    · rw [counted, Nat.zero_add]
      exact ih guarded.2
    · have later := tally_eq_zero done silent guarded.2 (finishes state action guarded.1 counted)
      rw [later]
      exact atMostOne state action

/-! ## Outputs -/

variable {β : Type}

/-- What the steps of a run yield, in order. -/
def outputs (step : σ -> α -> σ) (yields : σ -> α -> List β) (state : σ) : List α -> List β
  | [] => []
  | action :: rest => yields state action ++ outputs step yields (step state action) rest

variable {yields : σ -> α -> List β}

theorem outputs_append : outputs step yields state (first ++ second) =
      outputs step yields state first ++ outputs step yields (run step state first) second := by
  induction first generalizing state with
  | nil => rfl
  | cons action rest ih => rw [List.cons_append, outputs, outputs, run_cons, ih, List.append_assoc]

/-- A run yields no more than the credit it starts with, when every step pays for
what it yields. -/
theorem countP_outputs_add_le (holds : σ -> Prop) (credit : σ -> Nat) (counted : β -> Bool)
    (preserved : forall state action, holds state -> holds (step state action))
    (pays : forall state action, holds state ->
    (yields state action).countP counted + credit (step state action) ≤ credit state)
    (initially : holds state) (actions : List α) :
    (outputs step yields state actions).countP counted + credit (run step state actions) ≤ credit state := by
  induction actions generalizing state with
  | nil => simp [outputs]
  | cons action rest ih =>
    have now := pays state action initially
    have later := ih (preserved state action initially)
    rw [outputs, List.countP_append, run_cons]
    omega

/-- When every guarded step is matched by a step of another machine that yields
the same projection, so is every guarded run. -/
theorem filterMap_outputs_of_simulation {τ γ : Type} {step' : τ -> α -> τ} {yields' : τ -> α -> List γ}
    (related : σ -> τ -> Prop) (project : β -> Option γ)
    (simulates : forall state other action, guard state action -> related state other ->
    related (step state action) (step' other action) ∧
    (yields state action).filterMap project = yields' other action)
    {other : τ} (guarded : EveryStep step guard state actions) (initially : related state other) :
    (outputs step yields state actions).filterMap project = outputs step' yields' other actions := by
  induction actions generalizing state other with
  | nil => rfl
  | cons action rest ih =>
    have matched := simulates state other action guarded.1 initially
    rw [outputs, outputs, List.filterMap_append, matched.2, ih guarded.2 matched.1]

end Machine
