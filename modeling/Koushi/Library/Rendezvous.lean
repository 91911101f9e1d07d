import Koushi.Library.Run

namespace Machine

/-!
# Two events that meet

A rendezvous waits for two kinds of events that may come in either order and more
than once.  It yields its result at the step at which the second kind has come
too, and never again; so what a run yields depends only on which kinds came.
-/

structure Rendezvous where
  first : Bool
  second : Bool
deriving DecidableEq, Repr

namespace Rendezvous

variable {α β : Type} (isFirst isSecond : α -> Bool) (result : β) (seen : Rendezvous)

def complete : Bool := seen.first && seen.second

def note (action : α) : Rendezvous :=
  ⟨seen.first || isFirst action, seen.second || isSecond action⟩

def yields (action : α) : List β :=
  if !seen.complete && (seen.note isFirst isSecond action).complete then [result] else []

variable {actions : List α}

theorem run_note : run (note isFirst isSecond) seen actions =
      ⟨seen.first || actions.any isFirst, seen.second || actions.any isSecond⟩ := by
  induction actions generalizing seen with
  | nil => simp
  | cons action rest ih => simp [ih, note, Bool.or_assoc]

theorem outputs_of_complete {seen : Rendezvous} (complete : seen.complete = true) :
    outputs (note isFirst isSecond) (yields isFirst isSecond result) seen actions = [] := by
  induction actions generalizing seen with
  | nil => rfl
  | cons action rest ih =>
    have still : (seen.note isFirst isSecond action).complete = true := by
      simp_all [Rendezvous.complete, note]
    rw [outputs, ih still, yields, complete]
    rfl

/-- A run from an open rendezvous yields the result once if both kinds came. -/
theorem outputs_eq {seen : Rendezvous} (isOpen : seen.complete = false) :
    outputs (note isFirst isSecond) (yields isFirst isSecond result) seen actions =
      if (run (note isFirst isSecond) seen actions).complete then [result] else [] := by
  induction actions generalizing seen with
  | nil => simp [outputs, isOpen]
  | cons action rest ih =>
    rw [outputs, run_cons, yields, isOpen]
    cases now : (seen.note isFirst isSecond action).complete with
    | true =>
      have stays : (run (note isFirst isSecond) (seen.note isFirst isSecond action) rest).complete = true := by
        rw [run_note]
        simp_all [complete]
      rw [outputs_of_complete isFirst isSecond result now, stays]
      rfl
    | false => rw [ih now]; rfl

end Rendezvous

end Machine
