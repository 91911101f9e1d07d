import Koushi.Library.Run

namespace Koushi

/-!
# The renderer's state lane

The renderer holds one snapshot of the application state with its generation.
Core sends deltas from one generation to the next and full snapshots.  The
consumer owns the order in which they are applied: it queues what arrives before
the first snapshot and while a resync is outstanding, drops what is not newer than
what it has seen, and asks for a resync when a generation is missing.

The content of a snapshot and of a delta is arbitrary; `applyChanged` is the
renderer's application of changed slices.  Structural sharing between the old and
the new snapshot is left out.
-/

variable {σ δ : Type}

structure DesktopSnapshot (σ : Type) where
  stateGeneration : Option Nat
  content : σ
deriving DecidableEq, Repr

inductive StateUpdateSnapshotReason where
  | initial
  | gap
  | lag
  | settlement
deriving DecidableEq, Repr

inductive StateUpdateEnvelope (σ δ : Type) where
  | delta (generation : Nat) (changed : δ)
  | snapshot (generation : Nat) (snapshot : DesktopSnapshot σ) (reason : StateUpdateSnapshotReason)
deriving DecidableEq, Repr

def StateUpdateEnvelope.generation : StateUpdateEnvelope σ δ -> Nat
  | .delta generation _ => generation
  | .snapshot generation _ _ => generation

/-! ## The store -/

structure AppStore (σ : Type) where
  snapshot : Option (DesktopSnapshot σ)
  stateGeneration : Option Nat
deriving DecidableEq, Repr

namespace AppStore

def empty : AppStore σ := ⟨none, none⟩

/-- An older snapshot than the one that is held is ignored. -/
def setAppStoreSnapshot (store : AppStore σ) (next : DesktopSnapshot σ) : AppStore σ :=
  let replaced : AppStore σ := ⟨some next, next.stateGeneration⟩
  match store.stateGeneration, next.stateGeneration with
  | some held, some incoming => if incoming < held then store else replaced
  | _, _ => replaced

variable (applyChanged : σ -> δ -> σ)

/-- Apply deltas in order until one of them skips a generation; one that is not
newer than the store is passed over. -/
def applyAppStoreDeltasFrom (snapshot : DesktopSnapshot σ) (stateGeneration : Option Nat) :
    List (Nat × δ) -> Bool × AppStore σ
  | [] => (true, ⟨some snapshot, stateGeneration⟩)
  | (generation, changed) :: rest =>
    if stateGeneration.any (fun held => generation ≤ held) then
      applyAppStoreDeltasFrom snapshot stateGeneration rest
    else if stateGeneration.any (fun held => generation ≠ held + 1) then
      (false, ⟨some snapshot, stateGeneration⟩)
    else
      applyAppStoreDeltasFrom ⟨some generation, applyChanged snapshot.content changed⟩ (some generation) rest

def applyAppStoreDeltas (store : AppStore σ) (deltas : List (Nat × δ)) : Bool × AppStore σ :=
  match store.snapshot with
  | none => (false, store)
  | some snapshot => applyAppStoreDeltasFrom applyChanged snapshot store.stateGeneration deltas

def applyAppStoreDelta (store : AppStore σ) (generation : Nat) (changed : δ) : Bool × AppStore σ :=
  store.applyAppStoreDeltas applyChanged [(generation, changed)]

end AppStore

/-! ## The consumer -/

/-- The consumer with the store it feeds.  `timelineResets` counts the resets it
asks for and `applied` lists the envelopes it has handed to the store. -/
structure StateLane (σ δ : Type) where
  generation : Option Nat
  queued : List (StateUpdateEnvelope σ δ)
  resyncInFlight : Bool
  resyncNeeded : Bool
  disposed : Bool
  store : AppStore σ
  timelineResets : Nat
  applied : List (StateUpdateEnvelope σ δ)
deriving DecidableEq, Repr

namespace StateLane

def new : StateLane σ δ := ⟨none, [], false, false, false, .empty, 0, []⟩

variable (applyChanged : σ -> δ -> σ) (lane : StateLane σ δ)

def resetTimeline : StateLane σ δ :=
  { lane with timelineResets := lane.timelineResets + 1 }

def startResync : StateLane σ δ :=
  if lane.resyncInFlight || lane.disposed then lane
  else { lane with resyncInFlight := true, resyncNeeded := false }.resetTimeline

/-- Put an envelope back to the front and ask for a snapshot. -/
def requeue (envelope : StateUpdateEnvelope σ δ) : StateLane σ δ :=
  { lane with queued := envelope :: lane.queued }.startResync

def applySnapshot (snapshot : DesktopSnapshot σ) : StateLane σ δ :=
  { lane with store := lane.store.setAppStoreSnapshot snapshot }

def consume (envelope : StateUpdateEnvelope σ δ) : StateLane σ δ :=
  if lane.generation.any (fun held => envelope.generation ≤ held) then lane
  else
    match envelope with
    | .snapshot generation snapshot reason =>
      if snapshot.stateGeneration ≠ some generation then lane.startResync
      else
        let lane := if reason = .gap then lane.resetTimeline else lane
        { lane.applySnapshot snapshot with
          generation := some generation
          applied := lane.applied ++ [envelope] }
    | .delta generation changed =>
      -- with no generation the source adds one to null, which is one
      if generation ≠ lane.generation.getD 0 + 1 then lane.requeue envelope
      else
        match lane.store.applyAppStoreDelta applyChanged generation changed with
        | (false, store) => { lane with store := store }.requeue envelope
        | (true, store) =>
          { lane with
            store := store
            generation := some generation
            applied := lane.applied ++ [envelope] }

/-- The drain loop, at most as many rounds as there are queued envelopes. -/
def drainRounds : Nat -> StateLane σ δ -> StateLane σ δ
  | 0, lane => lane
  | rounds + 1, lane =>
    if lane.disposed || lane.resyncInFlight then lane
    else
      match lane.queued with
      | [] => lane
      | pending :: rest => drainRounds rounds ({ lane with queued := rest }.consume applyChanged pending)

def drain : StateLane σ δ := drainRounds applyChanged lane.queued.length lane

def receive (envelope : StateUpdateEnvelope σ δ) : StateLane σ δ :=
  if lane.disposed then lane
  else if lane.generation.isNone || lane.resyncInFlight || lane.resyncNeeded then
    let queued := { lane with queued := lane.queued ++ [envelope] }
    if queued.resyncNeeded && !queued.resyncInFlight then queued.startResync else queued
  else lane.consume applyChanged envelope

def initializeLane (snapshot : DesktopSnapshot σ) : StateLane σ δ :=
  if lane.disposed || lane.generation.isSome then lane
  else
    match snapshot.stateGeneration with
    | none => lane
    | some generation => { lane.applySnapshot snapshot with generation := some generation }.drain applyChanged

def recoverInitial : StateLane σ δ :=
  if lane.disposed || lane.generation.isSome then lane
  else { lane with resyncNeeded := true }.startResync

/-- The snapshot that a resync asked for; without a resync there is none to come. -/
def resyncCompleted (snapshot : DesktopSnapshot σ) : StateLane σ δ :=
  if lane.disposed || !lane.resyncInFlight then lane
  else
    match snapshot.stateGeneration with
    | none => { lane with resyncNeeded := true, resyncInFlight := false }
    | some generation =>
      { lane.applySnapshot snapshot with
        generation := some generation
        resyncInFlight := false }.drain applyChanged

def resyncFailed : StateLane σ δ :=
  if lane.disposed || !lane.resyncInFlight then lane
  else { lane with resyncNeeded := true, resyncInFlight := false }

def dispose : StateLane σ δ := { lane with disposed := true, queued := [] }

inductive Action (σ δ : Type) where
  | initializeLane (snapshot : DesktopSnapshot σ)
  | recoverInitial
  | receive (envelope : StateUpdateEnvelope σ δ)
  | resyncCompleted (snapshot : DesktopSnapshot σ)
  | resyncFailed
  | commandSnapshot (snapshot : DesktopSnapshot σ)
  | dispose
deriving DecidableEq, Repr

/-- One event of the lane.  The answer of a command may carry a snapshot, which
goes to the store directly. -/
def step : Action σ δ -> StateLane σ δ
  | .initializeLane snapshot => lane.initializeLane applyChanged snapshot
  | .recoverInitial => lane.recoverInitial
  | .receive envelope => lane.receive applyChanged envelope
  | .resyncCompleted snapshot => lane.resyncCompleted applyChanged snapshot
  | .resyncFailed => lane.resyncFailed
  | .commandSnapshot snapshot => lane.applySnapshot snapshot
  | .dispose => lane.dispose

end StateLane

end Koushi
