import Koushi.Reducer.State

namespace Koushi

open Relation

/-!
# The generations of event navigations

A navigation to an event takes the generation after the one that the state holds,
and a result settles it only with that generation.  An idle state holds none and
counts as generation zero, so a navigation that is started after the last one has
ended takes generation one again, and a late result of that one settles it.  As
long as none ends and the last generation is not reached, generations grow.
-/

/-- Generations saturate here. -/
def EVENT_NAVIGATION_GENERATION_MAX : Nat := 2 ^ 64 - 1

def EventNavigationState.generation : EventNavigationState -> Nat
  | .idle => 0
  | .opening generation _ | .anchored generation _ | .liveFallback generation _
  | .failed generation _ _ => generation

def EventNavigationState.nextGeneration (navigation : EventNavigationState) : Nat :=
  min (navigation.generation + 1) EVENT_NAVIGATION_GENERATION_MAX

variable (state : AppState)

def handleEventNavigationStarted (source : EventNavigationSource) : AppState :=
  if !isSessionReady state then state
  else { state with
    navigation.eventNavigation := .opening state.navigation.eventNavigation.nextGeneration source }

def eventNavigationOpeningSource (generation : Nat) : Option EventNavigationSource :=
  match state.navigation.eventNavigation with
  | .opening current source => if current = generation then some source else none
  | _ => none

/-- A result with the generation of the navigation that is opening. -/
def settleEventNavigation (generation : Nat)
    (settled : EventNavigationSource -> EventNavigationState) : AppState :=
  match eventNavigationOpeningSource state generation with
  | none => state
  | some source => { state with navigation.eventNavigation := settled source }

def handleEventNavigationAnchored (generation : Nat) : AppState :=
  settleEventNavigation state generation (.anchored generation)

def handleEventNavigationLiveFallback (generation : Nat) : AppState :=
  settleEventNavigation state generation (.liveFallback generation)

def handleEventNavigationFailed (generation : Nat) (kind : EventNavigationFailureKind) : AppState :=
  settleEventNavigation state generation (.failed generation · kind)

def handleEventNavigationCleared : AppState :=
  { state with navigation.eventNavigation := .idle }

def handleEventNavigationFailureDismissed : AppState :=
  match state.navigation.eventNavigation with
  | .failed .. => { state with navigation.eventNavigation := .idle }
  | _ => state

def handleReturnMainTimelineToLive (roomId : String) : AppState :=
  if !isSessionReady state || state.navigation.activeRoomId ≠ some roomId then state
  else if state.navigation.mainTimelineAnchor.isNone && state.navigation.eventNavigation = .idle then state
  else { state with navigation.mainTimelineAnchor := none, navigation.eventNavigation := .idle }

namespace EventNavigation

/-- The generation that a state holds. -/
def generationOf : Nat := state.navigation.eventNavigation.generation

/-- One action.  Any other action leaves the navigation or ends it. -/
inductive Step (state : AppState) : AppState -> Prop where
  | started (source : EventNavigationSource) : Step state (handleEventNavigationStarted state source)
  | anchored (generation : Nat) : Step state (handleEventNavigationAnchored state generation)
  | liveFallback (generation : Nat) : Step state (handleEventNavigationLiveFallback state generation)
  | failed (generation : Nat) (kind : EventNavigationFailureKind) :
      Step state (handleEventNavigationFailed state generation kind)
  | cleared : Step state (handleEventNavigationCleared state)
  | failureDismissed : Step state (handleEventNavigationFailureDismissed state)
  | returnMainTimelineToLive (roomId : String) : Step state (handleReturnMainTimelineToLive state roomId)
  | otherAction {next : AppState} (leaves : next.navigation.eventNavigation = state.navigation.eventNavigation ∨
      next.navigation.eventNavigation = .idle) : Step state next

/-- A step that ends no navigation, below the last generation. -/
structure Holds (state next : AppState) : Prop where
  step : Step state next
  busy : next.navigation.eventNavigation ≠ .idle
  room : generationOf state < EVENT_NAVIGATION_GENERATION_MAX

variable {state next : AppState} {generation : Nat} {settled : EventNavigationSource -> EventNavigationState}

theorem settleEventNavigation_cases (state : AppState) (generation : Nat)
    (settled : EventNavigationSource -> EventNavigationState) :
    settleEventNavigation state generation settled = state ∨ generationOf state = generation ∧ ∃ source,
        (settleEventNavigation state generation settled).navigation.eventNavigation = settled source := by
  unfold settleEventNavigation eventNavigationOpeningSource generationOf
  cases current : state.navigation.eventNavigation with
  | opening found source =>
    by_cases same : found = generation
    · exact .inr ⟨same, source, by simp [same]⟩
    · simp [same]
  | idle | anchored | liveFallback | failed => exact .inl rfl

theorem generation_settleEventNavigation (same : ∀ source, (settled source).generation = generation) :
    generationOf (settleEventNavigation state generation settled) = generationOf state := by
  rcases settleEventNavigation_cases state generation settled with kept | ⟨current, source, settles⟩
  · rw [kept]
  · rw [generationOf, settles, same, current]

theorem generation_started (ready : isSessionReady state = true) (source : EventNavigationSource)
    (room : generationOf state < EVENT_NAVIGATION_GENERATION_MAX) :
    generationOf (handleEventNavigationStarted state source) = generationOf state + 1 := by
  simp only [handleEventNavigationStarted, ready, Bool.not_true, Bool.false_eq_true, if_false]
  exact Nat.min_eq_left room

theorem generation_le_of_leaves (busy : next.navigation.eventNavigation ≠ .idle)
    (leaves : next.navigation.eventNavigation = state.navigation.eventNavigation ∨
      next.navigation.eventNavigation = .idle) : generationOf state ≤ generationOf next := by
  rcases leaves with same | idle
  · rw [generationOf, generationOf, same]
  · exact absurd idle busy

theorem Holds.generation_le (holds : Holds state next) : generationOf state ≤ generationOf next := by
  rcases holds with ⟨step, busy, room⟩
  cases step with
  | started source =>
    by_cases ready : isSessionReady state = true
    · rw [generation_started ready source room]
      exact Nat.le_succ _
    · simp [handleEventNavigationStarted, ready]
  | anchored | liveFallback | failed => exact ge_of_eq (generation_settleEventNavigation (fun _ => rfl))
  | cleared => exact generation_le_of_leaves busy (.inr rfl)
  | failureDismissed =>
    refine generation_le_of_leaves busy ?_
    unfold handleEventNavigationFailureDismissed
    split <;> simp
  | returnMainTimelineToLive roomId =>
    refine generation_le_of_leaves busy ?_
    unfold handleReturnMainTimelineToLive
    (repeat' split) <;> simp
  | otherAction leaves => exact generation_le_of_leaves busy leaves

theorem generation_le_of_holds (steps : ReflTransGen Holds state next) :
    generationOf state ≤ generationOf next := by
  induction steps with
  | refl => exact le_rfl
  | tail _ holds ih => exact ih.trans holds.generation_le

/-- A navigation that supersedes another one, with no end in between, has another
generation, and no result of the superseded one changes the state while it is held. -/
theorem superseded_result_is_inert (first middle last : AppState) (before : ReflTransGen Holds first middle)
    (ready : isSessionReady middle = true) (room : generationOf middle < EVENT_NAVIGATION_GENERATION_MAX)
    (source : EventNavigationSource)
    (after : ReflTransGen Holds (handleEventNavigationStarted middle source) last) :
    let generation := generationOf first
    generationOf (handleEventNavigationStarted middle source) ≠ generation ∧
      handleEventNavigationAnchored last generation = last ∧
      handleEventNavigationLiveFallback last generation = last ∧
      ∀ kind, handleEventNavigationFailed last generation kind = last := by
  intro generation
  have newer : generation < generationOf (handleEventNavigationStarted middle source) := by
    rw [generation_started ready source room]
    exact Nat.lt_succ_of_le (generation_le_of_holds before)
  have held := Nat.lt_of_lt_of_le newer (generation_le_of_holds after)
  have inert : ∀ settled, settleEventNavigation last generation settled = last := by
    intro settled
    rcases settleEventNavigation_cases last generation settled with kept | ⟨current, _⟩
    · exact kept
    · exact absurd current (Nat.ne_of_gt held)
  exact ⟨Nat.ne_of_gt newer, inert _, inert _, fun kind => inert _⟩

/-- A signed-in account that navigates to an event. -/
def openingState (generation : Nat) (source : EventNavigationSource) : AppState :=
  { (default : AppState) with
    session := .ready ⟨"https://hs", "@me:hs", "D"⟩
    navigation.eventNavigation := .opening generation source }

theorem superseded_result_is_inert_pinned :
    handleEventNavigationFailed (openingState 2 .pinned) 1 .timeline = openingState 2 .pinned :=
  (superseded_result_is_inert (openingState 1 .activity) (openingState 1 .activity) (openingState 2 .pinned)
    .refl rfl (by decide) .pinned .refl).2.2.2 .timeline

/-- A navigation is cleared while its lookup is on the way; the failure of the lookup
then fails the next navigation, which has the same generation. -/
theorem cleared_navigation_fails_the_next :
    let next := handleEventNavigationStarted (handleEventNavigationCleared (openingState 1 .activity)) .pinned
    next.navigation.eventNavigation = .opening 1 .pinned ∧
      (handleEventNavigationFailed next 1 .timeline).navigation.eventNavigation = .failed 1 .pinned .timeline := by
  decide +kernel

end EventNavigation

end Koushi
