import Koushi.Renderer.StateUpdateConsumer

namespace Koushi

open Machine StateLane AppStore List

/-!
# The renderer holds a published state

Core publishes a state for every generation.  A snapshot is published when its
label is the generation of its content, and a delta when it leads from the state
before its generation to the state of it.  `Advances` collects what every part of
the lane does when only published updates come in: the store holds the published
state of its generation, its generation does not fall, and an envelope that waits
in the queue stays there until the store is as new as the envelope.
-/

variable {σ δ : Type} (published : Nat -> σ) (applyChanged : σ -> δ -> σ)

/-- A label, where there is one, is the generation of the content. -/
def DesktopSnapshot.Published (snapshot : DesktopSnapshot σ) : Prop :=
  forall generation, snapshot.stateGeneration = some generation -> snapshot.content = published generation

def StateUpdateEnvelope.Published : StateUpdateEnvelope σ δ -> Prop
  | .delta generation changed =>
    forall prior, generation = prior + 1 -> applyChanged (published prior) changed = published generation
  | .snapshot _ held _ => held.Published published

/-- A snapshot that is sent under its own label; every delta is. -/
def StateUpdateEnvelope.Labelled : StateUpdateEnvelope σ δ -> Prop
  | .delta _ _ => True
  | .snapshot generation held _ => held.stateGeneration = some generation

/-! ## The store -/

namespace AppStore

variable {published applyChanged} {store : AppStore σ}

/-- The store is at least at a generation. -/
def Reaches (store : AppStore σ) (generation : Nat) : Prop :=
  ∃ held, store.stateGeneration = some held ∧ generation ≤ held

/-- The store holds the published state of its generation. -/
structure Mirrors (published : Nat -> σ) (store : AppStore σ) : Prop where
  content : forall generation, store.stateGeneration = some generation ->
    ∃ snapshot, store.snapshot = some snapshot ∧ snapshot.content = published generation
  labelled : store.stateGeneration = none -> store.snapshot = none

theorem empty_mirrors : (empty : AppStore σ).Mirrors published :=
  ⟨fun _ held => (by cases held), fun _ => rfl⟩

theorem Reaches.mono {generation older : Nat} (reaches : store.Reaches generation) (le : older ≤ generation) :
    store.Reaches older := by
  obtain ⟨held, here, below⟩ := reaches
  exact ⟨held, here, le.trans below⟩

/-- A store with the published state of a generation that is not older. -/
theorem mirrors_newer (snapshot : DesktopSnapshot σ) {generation : Nat}
    (content : snapshot.content = published generation)
    (below : forall held, store.stateGeneration = some held -> held ≤ generation) :
    Mirrors published ⟨some snapshot, some generation⟩ ∧ Reaches ⟨some snapshot, some generation⟩ generation ∧
      forall older, store.Reaches older -> Reaches ⟨some snapshot, some generation⟩ older := by
  refine ⟨⟨?_, fun none => by cases none⟩, ⟨generation, rfl, le_refl _⟩, ?_⟩
  · intro other same
    cases same
    exact ⟨snapshot, rfl, content⟩
  · rintro older ⟨held, here, reached⟩
    exact ⟨generation, rfl, reached.trans (below held here)⟩

/-- A labelled snapshot is taken unless the store is newer. -/
theorem setAppStoreSnapshot_cases (store : AppStore σ) {snapshot : DesktopSnapshot σ} {generation : Nat}
    (label : snapshot.stateGeneration = some generation) :
    (store.setAppStoreSnapshot snapshot = store ∧ store.Reaches generation) ∨
      (store.setAppStoreSnapshot snapshot = ⟨some snapshot, some generation⟩ ∧
        forall held, store.stateGeneration = some held -> held ≤ generation) := by
  unfold setAppStoreSnapshot
  rw [label]
  cases held : store.stateGeneration with
  | none => exact .inr ⟨rfl, fun _ impossible => (by cases impossible)⟩
  | some current =>
    dsimp only
    by_cases older : generation < current
    · exact .inl ⟨if_pos older, current, held, older.le⟩
    · refine .inr ⟨if_neg older, ?_⟩
      intro other same
      cases same
      omega

theorem Mirrors.setAppStoreSnapshot (mirrors : store.Mirrors published) {snapshot : DesktopSnapshot σ}
    {generation : Nat} (label : snapshot.stateGeneration = some generation)
    (isPublished : snapshot.Published published) :
    (store.setAppStoreSnapshot snapshot).Mirrors published ∧
      (store.setAppStoreSnapshot snapshot).Reaches generation ∧
      forall older, store.Reaches older -> (store.setAppStoreSnapshot snapshot).Reaches older := by
  rcases setAppStoreSnapshot_cases store label with ⟨ignored, reaches⟩ | ⟨replaced, below⟩
  · rw [ignored]
    exact ⟨mirrors, reaches, fun _ reached => reached⟩
  · rw [replaced]
    exact mirrors_newer snapshot (isPublished generation label) below

variable (applyChanged) in
/-- A delta is passed over, refused, or applied to the generation before it. -/
theorem applyAppStoreDelta_cases (mirrors : store.Mirrors published) (generation : Nat) (changed : δ) :
    (store.applyAppStoreDelta applyChanged generation changed = (true, store) ∧ store.Reaches generation) ∨
      store.applyAppStoreDelta applyChanged generation changed = (false, store) ∨
      ∃ (held : Nat) (snapshot : DesktopSnapshot σ), store.stateGeneration = some held ∧ generation = held + 1 ∧
        snapshot.content = published held ∧ store.applyAppStoreDelta applyChanged generation changed =
          (true, ⟨some ⟨some generation, applyChanged snapshot.content changed⟩, some generation⟩) := by
  rcases store with ⟨held, stateGeneration⟩
  cases stateGeneration with
  | none =>
    have empty : held = none := mirrors.labelled rfl
    subst empty
    exact .inr (.inl rfl)
  | some current =>
    obtain ⟨snapshot, here, content⟩ := mirrors.content current rfl
    cases here
    simp only [applyAppStoreDelta, applyAppStoreDeltas, applyAppStoreDeltasFrom, Option.any_some,
      decide_eq_true_eq]
    split
    · next stale => exact .inl ⟨rfl, current, rfl, stale⟩
    split
    · exact .inr (.inl rfl)
    · next skips => exact .inr (.inr ⟨current, snapshot, rfl, not_not.mp skips, content, rfl⟩)

end AppStore

/-! ## The lane -/

namespace StateLane

variable {published applyChanged} {lane before middle after : StateLane σ δ}

/-- The store is as new as an envelope. -/
def Covers (lane : StateLane σ δ) (envelope : StateUpdateEnvelope σ δ) : Prop :=
  lane.store.Reaches envelope.generation

structure Consistent (published : Nat -> σ) (applyChanged : σ -> δ -> σ) (lane : StateLane σ δ) : Prop where
  store : lane.store.Mirrors published
  behind : forall generation, lane.generation = some generation -> lane.store.Reaches generation
  queued : ∀ envelope ∈ lane.queued, envelope.Published published applyChanged

theorem new_consistent : (new : StateLane σ δ).Consistent published applyChanged :=
  ⟨empty_mirrors, fun _ held => (by cases held), fun _ member => (by cases member)⟩

/-- What a part of the lane does to a consistent lane. -/
structure Advances (published : Nat -> σ) (applyChanged : σ -> δ -> σ) (before after : StateLane σ δ) :
    Prop where
  consistent : after.Consistent published applyChanged
  reaches : forall generation, before.store.Reaches generation -> after.store.Reaches generation
  waits : forall envelope : StateUpdateEnvelope σ δ, envelope.Labelled -> envelope ∈ before.queued ->
    envelope ∈ after.queued ∨ after.Covers envelope ∨ after.disposed = true
  disposed : before.disposed = true -> after.disposed = true

theorem Advances.trans (left : Advances published applyChanged before middle)
    (right : Advances published applyChanged middle after) : Advances published applyChanged before after where
  consistent := right.consistent
  reaches := fun generation reached => right.reaches generation (left.reaches generation reached)
  waits := by
    intro envelope labelled member
    rcases left.waits envelope labelled member with waiting | covered | disposed
    · exact right.waits envelope labelled waiting
    · exact .inr (.inl (right.reaches _ covered))
    · exact .inr (.inr (right.disposed disposed))
  disposed := fun disposed => right.disposed (left.disposed disposed)

variable (consistent : lane.Consistent published applyChanged)

include consistent in
theorem Consistent.refl : Advances published applyChanged lane lane :=
  ⟨consistent, fun _ reached => reached, fun _ _ member => .inl member, fun disposed => disposed⟩

include consistent in
/-- Taking a newer store and its generation. -/
theorem Consistent.store_advances {changed : StateLane σ δ} (mirrors : changed.store.Mirrors published)
    (reaches : forall generation, lane.store.Reaches generation -> changed.store.Reaches generation)
    (behind : forall generation, changed.generation = some generation -> changed.store.Reaches generation)
    (queued : changed.queued = lane.queued) (disposed : changed.disposed = lane.disposed) :
    Advances published applyChanged lane changed := by
  refine ⟨⟨mirrors, behind, ?_⟩, reaches, ?_, ?_⟩
  · rw [queued]
    exact consistent.queued
  · rw [queued]
    exact fun _ _ member => .inl member
  · rw [disposed]
    exact fun disposed => disposed

theorem startResync_queued : lane.startResync.queued = lane.queued := by
  unfold startResync
  split <;> rfl

include consistent in
theorem Consistent.startResync : Advances published applyChanged lane lane.startResync := by
  unfold StateLane.startResync
  split <;> exact { consistent.refl with consistent := { consistent with } }

variable {envelope : StateUpdateEnvelope σ δ}

section

variable (consistent : lane.Consistent published applyChanged)
include consistent

/-- The queue gets a published envelope. -/
theorem Consistent.enqueue (isPublished : envelope.Published published applyChanged)
    {queued : List (StateUpdateEnvelope σ δ)}
    (listed : forall other, other ∈ queued ↔ other ∈ lane.queued ∨ other = envelope) :
    Advances published applyChanged lane { lane with queued := queued } := by
  refine ⟨⟨consistent.store, consistent.behind, ?_⟩, fun _ reached => reached, ?_, fun disposed => disposed⟩
  · intro other member
    rcases (listed other).mp member with old | rfl
    · exact consistent.queued other old
    · exact isPublished
  · intro other _ member
    exact .inl ((listed other).mpr (.inl member))

/-- An envelope that is put back waits again. -/
theorem Consistent.requeue (isPublished : envelope.Published published applyChanged) :
    Advances published applyChanged lane (lane.requeue envelope) ∧ envelope ∈ (lane.requeue envelope).queued := by
  have front : Advances published applyChanged lane { lane with queued := envelope :: lane.queued } :=
    consistent.enqueue isPublished (by simp [or_comm])
  refine ⟨front.trans (Consistent.startResync front.consistent), ?_⟩
  rw [StateLane.requeue, startResync_queued]
  exact mem_cons_self

/-- Consuming an envelope applies it, puts it back, or finds the store as new. -/
theorem Consistent.consume (isPublished : envelope.Published published applyChanged) :
    Advances published applyChanged lane (lane.consume applyChanged envelope) ∧
      (envelope.Labelled -> envelope ∈ (lane.consume applyChanged envelope).queued ∨
        (lane.consume applyChanged envelope).Covers envelope) := by
  unfold StateLane.consume
  split
  · next stale =>
    refine ⟨consistent.refl, fun _ => .inr ?_⟩
    obtain ⟨generation, held, below⟩ := (Option.any_eq_true ..).mp stale
    exact (consistent.behind generation held).mono (of_decide_eq_true below)
  · cases envelope with
    | snapshot generation snapshot reason =>
      dsimp only
      split
      · next mislabelled => exact ⟨consistent.startResync, fun labelled => absurd labelled mislabelled⟩
      next labelled =>
      have label : snapshot.stateGeneration = some generation := not_not.mp labelled
      rcases consistent.store.setAppStoreSnapshot label isPublished with ⟨mirrors, here, reaches⟩
      refine ⟨?_, fun _ => .inr ?_⟩
      · split <;> exact consistent.store_advances mirrors reaches (by rintro _ ⟨⟩; exact here) rfl rfl
      · show Reaches _ generation
        split <;> exact here
    | delta generation changed =>
      dsimp only
      split
      · rcases consistent.requeue isPublished with ⟨advances, waiting⟩
        exact ⟨advances, fun _ => .inl waiting⟩
      · rcases applyAppStoreDelta_cases applyChanged consistent.store generation
            changed with ⟨stale, reaches⟩ | refused | ⟨held, snapshot, atHeld, next, content, applied⟩
        · rw [stale]
          exact ⟨consistent.store_advances consistent.store (fun _ reached => reached)
            (by rintro _ ⟨⟩; exact reaches) rfl rfl, fun _ => .inr reaches⟩
        · rw [refused]
          rcases consistent.requeue isPublished with ⟨advances, waiting⟩
          exact ⟨advances, fun _ => .inl waiting⟩
        · rw [applied]
          have below : forall current, lane.store.stateGeneration = some current -> current ≤ generation := by
            intro current here
            rw [atHeld] at here
            cases here
            omega
          rcases mirrors_newer ⟨some generation, applyChanged snapshot.content changed⟩
            (by rw [content, isPublished held next]) below with ⟨mirrors, here, reaches⟩
          exact ⟨consistent.store_advances mirrors reaches (by rintro _ ⟨⟩; exact here) rfl rfl,
            fun _ => .inr here⟩

/-! ## Draining the queue -/

theorem Consistent.drainRounds (rounds : Nat) :
    Advances published applyChanged lane (drainRounds applyChanged rounds lane) := by
  induction rounds generalizing lane with
  | zero => exact consistent.refl
  | succ rounds ih =>
    rw [drainRounds]
    split
    · exact consistent.refl
    cases pendings : lane.queued with
    | nil => exact consistent.refl
    | cons pending rest =>
      have shifted : Consistent published applyChanged { lane with queued := rest } := by
        refine ⟨consistent.store, consistent.behind, ?_⟩
        intro envelope member
        apply consistent.queued
        rw [pendings]
        exact mem_cons_of_mem pending member
      have isPublished : pending.Published published applyChanged := by
        apply consistent.queued
        rw [pendings]
        exact mem_cons_self
      rcases shifted.consume isPublished with ⟨consumed, fate⟩
      have later := ih consumed.consistent
      have both := consumed.trans later
      refine ⟨later.consistent, both.reaches, ?_, both.disposed⟩
      intro envelope labelled member
      rw [pendings] at member
      rcases mem_cons.mp member with rfl | behind
      · rcases fate labelled with waiting | covered
        · exact later.waits envelope labelled waiting
        · exact .inr (.inl (later.reaches _ covered))
      · exact both.waits envelope labelled behind

end

variable (applyChanged) in
/-- Consuming an envelope leaves the queue as it is or asks for a resync. -/
theorem consume_queued (lane : StateLane σ δ) (envelope : StateUpdateEnvelope σ δ) :
    (lane.consume applyChanged envelope).queued = lane.queued ∨
      (lane.consume applyChanged envelope).resyncInFlight = true ∨
      (lane.consume applyChanged envelope).disposed = true := by
  have resyncs : forall other : StateLane σ δ,
      other.startResync.resyncInFlight = true ∨ other.startResync.disposed = true := by
    intro other
    unfold startResync
    split
    · next busy => simpa using busy
    · exact .inl rfl
  unfold consume
  split
  · exact .inl rfl
  cases envelope with
  | snapshot generation snapshot reason =>
    dsimp only
    split
    · exact .inr (resyncs lane)
    left
    split <;> rfl
  | delta generation changed =>
    dsimp only
    split
    · exact .inr (resyncs _)
    split
    · exact .inr (resyncs _)
    · exact .inl rfl

variable (applyChanged) in
/-- The loop ends with an empty queue unless a resync is asked for. -/
theorem drainRounds_done {rounds : Nat} (enough : lane.queued.length ≤ rounds) :
    (drainRounds applyChanged rounds lane).queued = [] ∨
      (drainRounds applyChanged rounds lane).resyncInFlight = true ∨
      (drainRounds applyChanged rounds lane).disposed = true := by
  induction rounds generalizing lane with
  | zero => exact .inl (length_eq_zero_iff.mp (Nat.le_zero.mp enough))
  | succ rounds ih =>
    rw [drainRounds]
    split
    · next stops =>
      rw [Bool.or_eq_true] at stops
      exact .inr stops.symm
    · cases pendings : lane.queued with
      | nil => exact .inl pendings
      | cons pending rest =>
        rw [pendings, length_cons] at enough
        dsimp only
        rcases consume_queued applyChanged { lane with queued := rest } pending with
          same | busy
        · apply ih
          rw [same]
          exact Nat.le_of_succ_le_succ enough
        · -- the next round stops at once
          cases rounds with
          | zero => exact .inr busy
          | succ rounds =>
            rw [drainRounds, if_pos]
            · exact .inr busy
            · rw [Bool.or_eq_true]
              exact busy.symm

/-! ## The events -/

/-- Only published states and deltas come in; the snapshot of a command has a label. -/
def Action.Published (published : Nat -> σ) (applyChanged : σ -> δ -> σ) : Action σ δ -> Prop
  | .initializeLane snapshot | .resyncCompleted snapshot => snapshot.Published published
  | .commandSnapshot snapshot => snapshot.stateGeneration.isSome = true ∧ snapshot.Published published
  | .receive envelope => envelope.Published published applyChanged
  | .recoverInitial | .resyncFailed | .dispose => True

include consistent in
/-- A received envelope is queued or consumed. -/
theorem Consistent.receive (isPublished : envelope.Published published applyChanged) :
    Advances published applyChanged lane (lane.receive applyChanged envelope) ∧
      (envelope.Labelled -> envelope ∈ (lane.receive applyChanged envelope).queued ∨
        (lane.receive applyChanged envelope).Covers envelope ∨
        (lane.receive applyChanged envelope).disposed = true) := by
  unfold StateLane.receive
  split
  · next disposed => exact ⟨consistent.refl, fun _ => .inr (.inr disposed)⟩
  split
  · have pushed : Advances published applyChanged lane { lane with queued := lane.queued ++ [envelope] } :=
      consistent.enqueue isPublished (by simp)
    have member : envelope ∈ lane.queued ++ [envelope] := mem_append_right _ mem_cons_self
    dsimp only
    split
    · refine ⟨pushed.trans (Consistent.startResync pushed.consistent), fun _ => .inl ?_⟩
      rw [startResync_queued]
      exact member
    · exact ⟨pushed, fun _ => .inl member⟩
  · rcases consistent.consume isPublished with ⟨advances, fate⟩
    exact ⟨advances, fun labelled => (fate labelled).imp_right .inl⟩

include consistent in
/-- A labelled snapshot that is taken, after which the queue is drained. -/
theorem Consistent.admitSnapshot
    {snapshot : DesktopSnapshot σ} {generation : Nat} (label : snapshot.stateGeneration = some generation)
    (isPublished : snapshot.Published published) (inFlight : Bool) : Advances published applyChanged lane
      (({ lane.applySnapshot snapshot with
          generation := some generation
          resyncInFlight := inFlight } : StateLane σ δ).drain applyChanged) := by
  rcases consistent.store.setAppStoreSnapshot label isPublished with ⟨mirrors, here, reaches⟩
  have taken : Advances published applyChanged lane
      { lane.applySnapshot snapshot with generation := some generation, resyncInFlight := inFlight } :=
    consistent.store_advances mirrors reaches (by rintro _ ⟨⟩; exact here) rfl rfl
  exact taken.trans (Consistent.drainRounds taken.consistent _)

include consistent in
theorem Consistent.step {action : Action σ δ} (isPublished : action.Published published applyChanged) :
    Advances published applyChanged lane (lane.step applyChanged action) := by
  cases action with
  | initializeLane snapshot =>
    rw [StateLane.step, StateLane.initializeLane]
    split
    · exact consistent.refl
    cases label : snapshot.stateGeneration with
    | none => exact consistent.refl
    | some generation => exact consistent.admitSnapshot label isPublished lane.resyncInFlight
  | recoverInitial =>
    rw [StateLane.step, StateLane.recoverInitial]
    split
    · exact consistent.refl
    have flagged : Advances published applyChanged lane { lane with resyncNeeded := true } :=
      { consistent.refl with consistent := { consistent with } }
    exact flagged.trans (Consistent.startResync flagged.consistent)
  | receive => exact (consistent.receive isPublished).1
  | resyncCompleted snapshot =>
    rw [StateLane.step, StateLane.resyncCompleted]
    split
    · exact consistent.refl
    cases label : snapshot.stateGeneration with
    | none => exact { consistent.refl with consistent := { consistent with } }
    | some generation => exact consistent.admitSnapshot label isPublished false
  | resyncFailed =>
    rw [StateLane.step, StateLane.resyncFailed]
    split
    · exact consistent.refl
    · exact { consistent.refl with consistent := { consistent with } }
  | commandSnapshot snapshot =>
    rcases isPublished with ⟨hasLabel, isPublished⟩
    obtain ⟨generation, label⟩ := Option.isSome_iff_exists.mp hasLabel
    rcases consistent.store.setAppStoreSnapshot label isPublished with ⟨mirrors, _, reaches⟩
    refine consistent.store_advances mirrors reaches ?_ rfl rfl
    exact fun held atHeld => reaches held (consistent.behind held atHeld)
  | dispose =>
    exact ⟨⟨consistent.store, consistent.behind, fun _ member => by cases member⟩, fun _ reached => reached,
      fun _ _ _ => .inr (.inr rfl), fun _ => rfl⟩

/-! ## What the queue waits for -/

/-- Envelopes wait only for a first snapshot or for a resync. -/
def Awaits (lane : StateLane σ δ) : Prop :=
  lane.queued = [] ∨ lane.generation = none ∨ lane.resyncInFlight = true ∨ lane.resyncNeeded = true ∨
    lane.disposed = true

theorem startResync_awaits (lane : StateLane σ δ) : lane.startResync.Awaits := by
  unfold startResync
  split
  · next busy =>
    rcases (Bool.or_eq_true ..).mp busy with inFlight | disposed
    · exact .inr (.inr (.inl inFlight))
    · exact .inr (.inr (.inr (.inr disposed)))
  · exact .inr (.inr (.inl rfl))

theorem drain_awaits (lane : StateLane σ δ) : (lane.drain applyChanged).Awaits := by
  rcases drainRounds_done applyChanged (le_refl lane.queued.length) with
    empty | inFlight | disposed
  · exact .inl empty
  · exact .inr (.inr (.inl inFlight))
  · exact .inr (.inr (.inr (.inr disposed)))

theorem Awaits.receive (awaits : lane.Awaits) (envelope : StateUpdateEnvelope σ δ) :
    (lane.receive applyChanged envelope).Awaits := by
  unfold StateLane.receive
  split
  · exact awaits
  next live =>
  split
  · next busy =>
    dsimp only
    split
    · exact startResync_awaits _
    rw [Bool.or_eq_true, Bool.or_eq_true, Option.isNone_iff_eq_none] at busy
    rcases busy with (noGeneration | inFlight) | needed
    · exact .inr (.inl noGeneration)
    · exact .inr (.inr (.inl inFlight))
    · exact .inr (.inr (.inr (.inl needed)))
  · next idle =>
    -- nothing is awaited, so the queue is empty and stays so unless a resync starts
    rw [Bool.or_eq_true, Bool.or_eq_true, Option.isNone_iff_eq_none] at idle
    have empty : lane.queued = [] := by
      rcases awaits with empty | noGeneration | inFlight | needed | disposed
      · exact empty
      · exact absurd (.inl (.inl noGeneration)) idle
      · exact absurd (.inl (.inr inFlight)) idle
      · exact absurd (.inr needed) idle
      · exact absurd disposed live
    rcases consume_queued applyChanged lane envelope with same | inFlight | disposed
    · exact .inl (same.trans empty)
    · exact .inr (.inr (.inl inFlight))
    · exact .inr (.inr (.inr (.inr disposed)))

theorem Awaits.step (awaits : lane.Awaits) (action : Action σ δ) : (lane.step applyChanged action).Awaits := by
  cases action with
  | initializeLane snapshot =>
    rw [StateLane.step, StateLane.initializeLane]
    split
    · exact awaits
    cases snapshot.stateGeneration with
    | none => exact awaits
    | some generation => exact drain_awaits _
  | recoverInitial =>
    rw [StateLane.step, StateLane.recoverInitial]
    split
    · exact awaits
    · exact startResync_awaits _
  | receive => exact awaits.receive _
  | resyncCompleted snapshot =>
    rw [StateLane.step, StateLane.resyncCompleted]
    split
    · exact awaits
    cases snapshot.stateGeneration with
    | none => exact .inr (.inr (.inr (.inl rfl)))
    | some generation => exact drain_awaits _
  | resyncFailed =>
    rw [StateLane.step, StateLane.resyncFailed]
    split
    · exact awaits
    · exact .inr (.inr (.inr (.inl rfl)))
  | commandSnapshot => exact awaits
  | dispose => exact .inl rfl

/-! ## Runs -/

include consistent in
theorem Consistent.run {actions : List (Action σ δ)}
    (isPublished : EveryStep (StateLane.step applyChanged)
      (fun _ action => action.Published published applyChanged) lane actions) :
    Advances published applyChanged lane (run (StateLane.step applyChanged) lane actions) := by
  induction actions generalizing lane with
  | nil => exact consistent.refl
  | cons action rest ih =>
    have now := consistent.step isPublished.1
    exact now.trans (ih now.consistent isPublished.2)

end StateLane

/-- A renderer at generation 5 that misses a delta and asks for a resync. -/
def gapRun : List (StateLane.Action Nat Unit) :=
  [.initializeLane ⟨some 5, 5⟩, .receive (.delta 7 ()), .receive (.snapshot 10 ⟨some 10, 10⟩ .lag),
    .receive (.delta 9 ()), .resyncCompleted ⟨some 8, 8⟩]

end Koushi
