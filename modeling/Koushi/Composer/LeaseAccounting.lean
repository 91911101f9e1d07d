import Koushi.Library.Run
import Koushi.Composer.DraftLeases

namespace Koushi

open Collections LeaseSystem ComposerDraftLeaseRegistry Machine PermitCounts Std.ExtTreeMap
open List hiding count

/-!
# Leases and permits are accounted for

`Exact` ties the registry to the guards that are out: leases belong to the live
generation, every counter is the number of guards of its kind and composer, and
the ids handed out are distinct and below their counters.  Every action keeps it.
What follows for a revoked generation only needs that generations grow.
-/

namespace ComposerDraftLeaseRegistry

def permitsOf (registry : ComposerDraftLeaseRegistry) :
    ComposerDraftPermitKind -> PermitCounts ComposerDraftScope
  | .command => registry.commandPermits
  | .persistence => registry.persistencePermits

end ComposerDraftLeaseRegistry

/-- How many guards of a kind are out for a composer. -/
def outstanding (guards : List ComposerDraftPermitGuard) (kind : ComposerDraftPermitKind)
    (scope : ComposerDraftScope) : Nat :=
  guards.countP (fun guard => guard.kind = kind && guard.scope = scope)

theorem outstanding_cons (guard : ComposerDraftPermitGuard) (guards : List ComposerDraftPermitGuard)
    (kind : ComposerDraftPermitKind) (scope : ComposerDraftScope) :
    outstanding (guard :: guards) kind scope =
      outstanding guards kind scope + if guard.kind = kind ∧ guard.scope = scope then 1 else 0 := by
  simp [outstanding, countP_cons]

theorem outstanding_append (first second : List ComposerDraftPermitGuard) (kind : ComposerDraftPermitKind)
    (scope : ComposerDraftScope) :
    outstanding (first ++ second) kind scope = outstanding first kind scope + outstanding second kind scope := by
  simp [outstanding]

/-- A guard that is dropped is out once less. -/
theorem outstanding_erase {guard : ComposerDraftPermitGuard} {guards : List ComposerDraftPermitGuard}
    (held : guard ∈ guards) (kind : ComposerDraftPermitKind) (scope : ComposerDraftScope) :
    outstanding guards kind scope = outstanding (guards.erase guard) kind scope +
        if guard.kind = kind ∧ guard.scope = scope then 1 else 0 := by
  rw [← outstanding_cons]
  exact (perm_cons_erase held).countP_eq _

theorem outstanding_pos {guard : ComposerDraftPermitGuard} {guards : List ComposerDraftPermitGuard}
    (held : guard ∈ guards) : 0 < outstanding guards guard.kind guard.scope := by
  rw [outstanding_erase held]
  simp

/-- The guards of a persistence call, one for each scope. -/
theorem outstanding_persistence (scopes : List ComposerDraftScope) (kind : ComposerDraftPermitKind)
    (scope : ComposerDraftScope) :
    outstanding (scopes.map (fun scope => ⟨scope, 0, .persistence⟩)) kind scope =
      if kind = .persistence then scopes.count scope else 0 := by
  induction scopes with
  | nil => simp [outstanding]
  | cons first rest ih =>
    rw [map_cons, outstanding_cons, ih, count_cons]
    cases kind <;> simp

namespace LeaseSystem

structure Exact (system : LeaseSystem) : Prop where
  leases : forall (leaseId : Nat) (lease : LeaseRecord), system.registry.leases[leaseId]? = some lease ->
    system.registry.liveGeneration = some lease.generation
  noZero : forall kind, (system.registry.permitsOf kind).NoZero
  counts : forall kind scope,
    (system.registry.permitsOf kind).count scope = outstanding system.guards kind scope
  generations : system.generations.Nodup ∧
    ∀ generation ∈ system.generations, generation ≤ system.registry.nextGeneration
  leaseIds : system.leaseIds.Nodup ∧ ∀ leaseId ∈ system.leaseIds, leaseId ≤ system.registry.nextLeaseId

theorem initial_exact : initial.Exact where
  leases := by
    intro leaseId lease found
    simp [initial, new] at found
  noZero := by
    intro kind
    cases kind <;> exact noZero_empty
  counts := by
    intro kind scope
    cases kind <;>
      simp [initial, new, permitsOf, count,
        outstanding]
  generations := by simp [initial]
  leaseIds := by simp [initial]

variable {system : LeaseSystem}

/-- Ids that are handed out in order are distinct. -/
theorem nodup_concat_of_le {ids : List Nat} {counter : Nat}
    (known : ids.Nodup ∧ ∀ id ∈ ids, id ≤ counter) :
    (ids ++ [counter + 1]).Nodup ∧ ∀ id ∈ ids ++ [counter + 1], id ≤ counter + 1 := by
  constructor
  · rw [nodup_append]
    refine ⟨known.1, nodup_singleton _, ?_⟩
    intro old member new isNew
    have bound := known.2 old member
    rw [mem_singleton.mp isNew]
    omega
  · intro id member
    rcases mem_append.mp member with old | new
    · exact Nat.le_succ_of_le (known.2 id old)
    · exact le_of_eq (mem_singleton.mp new)

theorem checkedNext_ok {counter next : Nat}
    (checked : checkedNext counter = .ok next) : next = counter + 1 := by
  unfold checkedNext at checked
  split at checked
  · cases checked
    rfl
  · cases checked

/-- A lookup in a filtered map of leases. -/
theorem lease_of_filter {leases : OrdMap Nat LeaseRecord} {keep : LeaseRecord -> Bool} {leaseId : Nat}
    {lease : LeaseRecord} (found : (leases.filter (fun _ lease => keep lease))[leaseId]? = some lease) :
    leases[leaseId]? = some lease ∧ keep lease = true := by
  rw [getElem?_filter'] at found
  exact Option.filter_eq_some_iff.mp found

variable {scope : ComposerDraftScope} {guard : ComposerDraftPermitGuard}

theorem acquire_ok {registry after : ComposerDraftLeaseRegistry} {generation leaseId : Nat}
    (granted : registry.acquire generation scope = .ok (leaseId, after)) :
    registry.liveGeneration = some generation ∧ leaseId = registry.nextLeaseId + 1 ∧
      after = { registry with
        nextLeaseId := leaseId
        leases := registry.leases.insert leaseId ⟨generation, scope⟩ } := by
  unfold acquire at granted
  split at granted
  · cases granted
  next live =>
  simp only [ne_eq, not_not] at live
  cases checked : checkedNext registry.nextLeaseId with
  | error failure =>
    rw [checked] at granted
    cases granted
  | ok next =>
    rw [checked] at granted
    cases granted
    exact ⟨live, checkedNext_ok checked, rfl⟩

theorem tryCommandPermit_ok {registry after : ComposerDraftLeaseRegistry} {generation leaseId : Nat}
    (granted : registry.tryCommandPermit generation leaseId scope = .ok (guard, after)) :
    guard = ⟨scope, generation, .command⟩ ∧ ∃ commandPermits,
      registry.commandPermits.take LEASE_COUNTER_MAX scope = some commandPermits ∧
        after = { registry with commandPermits := commandPermits } := by
  unfold tryCommandPermit at granted
  split at granted
  · cases granted
  split at granted
  · cases granted
  cases taken : registry.commandPermits.take LEASE_COUNTER_MAX scope with
  | none =>
    rw [taken] at granted
    cases granted
  | some commandPermits =>
    rw [taken] at granted
    cases granted
    exact ⟨rfl, commandPermits, rfl, rfl⟩

/-- What an action can do: drop leases, all of them if the live generation ends; begin the
next generation; hand out the next lease of the live one; or count the permits of other
guards. -/
inductive Effect (system : LeaseSystem) (action : LeaseAction) : LeaseSystem -> Prop where
  | narrowed {live : Option Nat} {leases : OrdMap Nat LeaseRecord}
      (stays : live = system.registry.liveGeneration ∨ live = none)
      (kept : forall (leaseId : Nat) (lease : LeaseRecord), leases[leaseId]? = some lease ->
        system.registry.leases[leaseId]? = some lease ∧
          (system.registry.liveGeneration = some lease.generation -> live = some lease.generation)) :
      Effect system action
        { system with registry := { system.registry with liveGeneration := live, leases := leases } }
  | begun {generation : Nat} (next : generation = system.registry.nextGeneration + 1) :
      Effect system action
        { system with
          registry := { system.registry with
            nextGeneration := generation
            liveGeneration := some generation
            leases := system.registry.leases.filter (fun _ lease => lease.generation = generation) }
          generations := system.generations ++ [generation] }
  | leased {generation leaseId : Nat} {scope : ComposerDraftScope}
      (live : system.registry.liveGeneration = some generation)
      (next : leaseId = system.registry.nextLeaseId + 1) :
      Effect system action
        { system with
          registry := { system.registry with
            nextLeaseId := leaseId
            leases := system.registry.leases.insert leaseId ⟨generation, scope⟩ }
          leaseIds := system.leaseIds ++ [leaseId] }
  | counted {commandPermits persistencePermits : PermitCounts ComposerDraftScope}
      {guards : List ComposerDraftPermitGuard}
      (counts : forall kind, (permitsOf { system.registry with commandPermits, persistencePermits } kind).NoZero ∧
        forall scope, (permitsOf { system.registry with commandPermits, persistencePermits } kind).count scope =
          outstanding guards kind scope)
      (held : ∀ guard ∈ system.guards, action ≠ .dropGuard guard -> guard ∈ guards) :
      Effect system action
        { system with
          registry := { system.registry with commandPermits, persistencePermits }
          guards := guards }

theorem Effect.unchanged (system : LeaseSystem) (action : LeaseAction) : Effect system action system :=
  .narrowed (.inl rfl) (fun _ _ found => ⟨found, id⟩)

section

variable (accounted : system.Exact)
include accounted

/-- A persistence call grants one guard for each target, or changes nothing. -/
theorem Exact.takePersistencePermits_cases (account : SessionKeyId) (targets : List ComposerTarget) :
    (∃ registry, system.registry.takePersistencePermits account targets =
        (.ok ((scopesOf account targets).map (fun scope => ⟨scope, 0, .persistence⟩)), registry) ∧
      (∃ persistencePermits, registry = { system.registry with persistencePermits := persistencePermits } ∧
        persistencePermits.NoZero ∧ forall scope, persistencePermits.count scope =
          system.registry.persistencePermits.count scope +
            (scopesOf account targets).count scope)) ∨
    system.registry.takePersistencePermits account targets =
      (.error .counterExhausted, system.registry) := by
  unfold takePersistencePermits
  dsimp only
  have noZero : system.registry.persistencePermits.NoZero := accounted.noZero .persistence
  cases result : system.registry.persistencePermits.takeAll LEASE_COUNTER_MAX
      (scopesOf account targets) with
  | mk granted persistencePermits =>
    cases granted with
    | true =>
      exact .inl ⟨{ system.registry with persistencePermits := persistencePermits }, by simp,
        persistencePermits, rfl, noZero.takeAll_true result⟩
    | false =>
      right
      rw [noZero.takeAll_false result]
      rfl

theorem Exact.effect (action : LeaseAction) : Effect system action (system.step action) := by
  cases action with
  | beginRendererGeneration =>
    rw [step, beginRendererGeneration]
    cases checked : checkedNext system.registry.nextGeneration with
    | error => exact .unchanged ..
    | ok generation => exact .begun (checkedNext_ok checked)
  | acquire generation scope =>
    rw [step]
    cases result : system.registry.acquire generation scope with
    | error => exact .unchanged ..
    | ok granted =>
      rcases granted with ⟨leaseId, registry⟩
      rcases acquire_ok result with ⟨live, next, rfl⟩
      exact .leased live next
  | tryCommandPermit generation leaseId scope =>
    rw [step]
    cases result : system.registry.tryCommandPermit generation leaseId scope with
    | error => exact .unchanged ..
    | ok granted =>
      rcases granted with ⟨guard, registry⟩
      rcases tryCommandPermit_ok result with ⟨rfl, commandPermits, taken, rfl⟩
      refine .counted (fun kind => ?_) (fun _ held _ => mem_cons_of_mem _ held)
      simp only [outstanding_cons, ← accounted.counts]
      cases kind with
      | command =>
        simp only [true_and]
        exact ⟨(accounted.noZero .command).take taken, count_of_take taken⟩
      | persistence => simpa [permitsOf] using accounted.noZero .persistence
  | takePersistencePermits account targets =>
    rw [step]
    rcases accounted.takePersistencePermits_cases account targets with
      ⟨registry, granted, persistencePermits, rfl, noZero, counts⟩ | failed
    · rw [granted]
      refine .counted (fun kind => ?_) (fun _ held _ => mem_append_right _ held)
      simp only [outstanding_append, outstanding_persistence, ← accounted.counts, Nat.add_comm]
      cases kind with
      | command => simpa [permitsOf] using accounted.noZero .command
      | persistence => exact ⟨noZero, counts⟩
    · rw [failed]
      exact .unchanged ..
  | dropGuard guard =>
    rw [step]
    split
    · next held =>
      have rest : forall kind scope, outstanding (system.guards.erase guard) kind scope =
          (system.registry.permitsOf kind).count scope -
            if guard.kind = kind ∧ guard.scope = scope then 1 else 0 := by
        intro kind scope
        rw [accounted.counts, outstanding_erase held, Nat.add_sub_cancel]
      have others : ∀ other ∈ system.guards, LeaseAction.dropGuard guard ≠ .dropGuard other ->
          other ∈ system.guards.erase guard :=
        fun other out different => (mem_erase_of_ne (fun same => different (by rw [same]))).mpr out
      rcases guard with ⟨scope, generation, kind⟩
      cases kind with
      | command =>
        refine .counted (fun kind => ?_) others
        simp only [rest]
        cases kind with
        | command => exact ⟨(accounted.noZero .command).giveBack scope, by simp [permitsOf, count_giveBack]⟩
        | persistence => exact ⟨accounted.noZero .persistence, by simp [permitsOf]⟩
      | persistence =>
        refine .counted (fun kind => ?_) others
        simp only [rest]
        cases kind with
        | command => exact ⟨accounted.noZero .command, by simp [permitsOf]⟩
        | persistence =>
          exact ⟨(accounted.noZero .persistence).giveBack scope, by simp [permitsOf, count_giveBack]⟩
    · exact .unchanged ..
  | release generation leaseId =>
    rw [step, release]
    split
    · exact .unchanged ..
    next granted =>
    split at granted
    · cases granted
      refine .narrowed (.inl rfl) (fun other lease found => ⟨?_, id⟩)
      exact (OrdMap.getElem?_erase_cases found).2
    · cases granted
  | revokeGeneration generation =>
    refine .narrowed ?_ ?_
    · by_cases live : system.registry.liveGeneration = some generation
      · exact .inr (if_pos live)
      · exact .inl (if_neg live)
    · intro leaseId lease found
      rcases lease_of_filter found with ⟨before, kept⟩
      refine ⟨before, fun live => (if_neg ?_).trans live⟩
      rw [live]
      simpa using kept
  | revokeLiveGeneration =>
    rw [step, revokeLiveGeneration]
    cases live : system.registry.liveGeneration with
    | none => exact .unchanged ..
    | some generation =>
      refine .narrowed (.inr rfl) ?_
      intro leaseId lease found
      rcases lease_of_filter found with ⟨before, kept⟩
      refine ⟨before, fun same => ?_⟩
      rw [live, Option.some.injEq] at same
      simp [same] at kept

theorem Exact.step (action : LeaseAction) : (system.step action).Exact := by
  have effect := accounted.effect action
  generalize system.step action = next at effect ⊢
  cases effect with
  | narrowed stays kept =>
    refine ⟨?_, accounted.noZero, accounted.counts, accounted.generations, accounted.leaseIds⟩
    intro leaseId lease found
    exact (kept leaseId lease found).2 (accounted.leases leaseId lease (kept leaseId lease found).1)
  | begun next =>
    subst next
    refine ⟨?_, accounted.noZero, accounted.counts, nodup_concat_of_le accounted.generations,
      accounted.leaseIds⟩
    intro leaseId lease found
    have kept := (lease_of_filter found).2
    simp only [decide_eq_true_eq] at kept
    rw [kept]
  | leased live next =>
    subst next
    refine ⟨?_, accounted.noZero, accounted.counts, accounted.generations,
      nodup_concat_of_le accounted.leaseIds⟩
    intro other lease found
    rcases OrdMap.getElem?_insert_cases found with ⟨_, rfl⟩ | ⟨_, before⟩
    · exact live
    · exact accounted.leases other lease before
  | counted counts held =>
    exact ⟨accounted.leases, fun kind => (counts kind).1, fun kind => (counts kind).2,
      accounted.generations, accounted.leaseIds⟩

end

/-! ## Protection -/

theorem mem_protectedTargets {registry : ComposerDraftLeaseRegistry}
    (kind : ComposerDraftPermitKind) (counted : scope ∈ registry.permitsOf kind) :
    scope.target ∈ registry.protectedTargets scope.account := by
  rw [protectedTargets, OrdSet.mem_ofList, mem_map]
  refine ⟨scope, mem_filter.mpr ⟨?_, by simp⟩, rfl⟩
  cases kind with
  | command | persistence =>
    have key := mem_keys.mpr counted
    simp only [permitsOf] at key
    simp [key]

/-- A guard that is out protects its target. -/
theorem Exact.protected_of_guard (accounted : system.Exact) (held : guard ∈ system.guards) :
    guard.scope.target ∈ system.registry.protectedTargets guard.scope.account := by
  apply mem_protectedTargets guard.kind
  rw [(accounted.noZero guard.kind).mem_iff, accounted.counts]
  exact outstanding_pos held

/-- A draft or send command is in flight for a composer exactly while a command
guard for it is out. -/
theorem Exact.hasCommandPermit_iff (accounted : system.Exact) (scope : ComposerDraftScope) :
    system.registry.hasCommandPermit scope = true ↔ 0 < outstanding system.guards .command scope := by
  rw [← accounted.counts, ← (accounted.noZero .command).mem_iff]
  exact contains_iff_mem

/-! ## Revoked generations -/

/-- A generation that was begun and is not live any more. -/
def Retired (generation : Nat) (system : LeaseSystem) : Prop :=
  generation ≤ system.registry.nextGeneration ∧ system.registry.liveGeneration ≠ some generation

section

variable (accounted : system.Exact)
include accounted

/-- A retired generation stays retired. -/
theorem Exact.retired_step {generation : Nat} (retired : Retired generation system) (action : LeaseAction) :
    Retired generation (system.step action) := by
  have effect := accounted.effect action
  generalize system.step action = next at effect ⊢
  rcases retired with ⟨begun, ended⟩
  cases effect with
  | narrowed stays kept =>
    rcases stays with rfl | rfl
    · exact ⟨begun, ended⟩
    · exact ⟨begun, Option.some_ne_none _ |>.symm⟩
  | begun next => exact ⟨by dsimp only; omega, by simp; omega⟩
  | leased | counted => exact ⟨begun, ended⟩

/-- A guard is out until it is dropped. -/
theorem Exact.guard_mem_step (held : guard ∈ system.guards)
    {action : LeaseAction} (kept : action ≠ .dropGuard guard) : guard ∈ (system.step action).guards := by
  have effect := accounted.effect action
  generalize system.step action = next at effect ⊢
  cases effect with
  | narrowed | begun | leased => exact held
  | counted counts stays => exact stays guard held kept

theorem Exact.guard_mem_run (held : guard ∈ system.guards)
    {later : List LeaseAction} (kept : .dropGuard guard ∉ later) :
    guard ∈ (run LeaseSystem.step system later).guards := by
  induction later generalizing system with
  | nil => exact held
  | cons action rest ih =>
    rw [mem_cons, not_or] at kept
    exact ih (accounted.step action) (accounted.guard_mem_step held (Ne.symm kept.1)) kept.2

end

end LeaseSystem

/-- After every run: leases belong to the live generation, counters count the
guards that are out, ids are not reused, a persistence call takes all its permits
or none, a generation that has ended grants nothing in any continuation, and a
guard protects its target until it is dropped. -/
theorem run_accounts_for_permits (actions : List LeaseAction) :
    let system := Machine.run LeaseSystem.step .initial actions
    (forall (leaseId : Nat) (lease : LeaseRecord), system.registry.leases[leaseId]? = some lease ->
      system.registry.liveGeneration = some lease.generation) ∧
    (forall kind scope,
      (system.registry.permitsOf kind).count scope = outstanding system.guards kind scope) ∧
    system.generations.Nodup ∧ system.leaseIds.Nodup ∧
    (forall account targets,
      let scopes := ComposerDraftLeaseRegistry.scopesOf account targets
      let (result, after) := system.registry.takePersistencePermits account targets
      (result = .ok (scopes.map (fun scope => ⟨scope, 0, .persistence⟩)) ∧
        forall scope, after.persistencePermits.count scope =
          system.registry.persistencePermits.count scope + scopes.count scope) ∨
      (result = .error .counterExhausted ∧ after = system.registry)) ∧
    (forall generation, (system.registry.revokeGeneration generation).liveGeneration ≠ some generation) ∧
    system.registry.revokeLiveGeneration.liveGeneration = none ∧
    (∀ generation ∈ system.generations, system.registry.liveGeneration ≠ some generation ->
      forall later,
        let after := Machine.run LeaseSystem.step system later
        forall scope, after.registry.acquire generation scope = .error .rendererGenerationRetired ∧
          forall leaseId,
            after.registry.tryCommandPermit generation leaseId scope = .error .rendererGenerationRetired) ∧
    (∀ guard ∈ system.guards, forall later, .dropGuard guard ∉ later ->
      guard.scope.target ∈ (Machine.run LeaseSystem.step system later).registry.protectedTargets
        guard.scope.account) := by
  intro system
  have accounted : system.Exact :=
    run_invariant Exact (fun _ action before => before.step action)
      initial_exact
  refine ⟨accounted.leases, accounted.counts, accounted.generations.1, accounted.leaseIds.1, ?_, ?_, ?_,
    ?_, ?_⟩
  · intro account targets scopes
    rcases accounted.takePersistencePermits_cases account targets with
      ⟨registry, granted, persistencePermits, rfl, _, counts⟩ | failed
    · rw [granted]
      exact .inl ⟨rfl, counts⟩
    · rw [failed]
      exact .inr ⟨rfl, rfl⟩
  · intro generation
    by_cases live : system.registry.liveGeneration = some generation
    · simp [revokeGeneration, live]
    · simp [revokeGeneration, live]
  · rw [revokeLiveGeneration]
    cases live : system.registry.liveGeneration with
    | none => exact live
    | some generation => rfl
  · intro generation begun ended later after scope
    have retired : after.Exact ∧ Retired generation after :=
      run_invariant (fun system => system.Exact ∧ Retired generation system)
        (fun _ action before => ⟨before.1.step action, before.1.retired_step before.2 action⟩)
        ⟨accounted, accounted.generations.2 generation begun, ended⟩
    exact ⟨if_pos retired.2.2, fun leaseId => if_pos retired.2.2⟩
  · intro guard held later kept
    have accountedLater : (run step system later).Exact :=
      run_invariant Exact (fun _ action before => before.step action) accounted
    exact accountedLater.protected_of_guard (accounted.guard_mem_run held kept)

end Koushi
