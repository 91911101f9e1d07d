import Koushi.Library.PermitCounts
import Koushi.Composer.Target

namespace Koushi

open Collections

/-!
# Draft leases and permits

A renderer begins a generation, acquires leases for the composers it shows and
takes a permit for every draft command it sends; persistence takes permits of its
own.  A permit is a guard: it gives its count back when it is dropped, which may
be long after the generation that it was granted in.  Revoking a generation drops
its leases and with them the admission of new commands; the counts stay.

Leases and permits are kept in hash maps in the source.  Only lookups are used,
and the protected targets are collected into an ordered set.
-/

structure SessionKeyId where
  homeserver : String
  userId : String
  deviceId : String
deriving DecidableEq, Repr

/-- A composer of one account. -/
structure ComposerDraftScope where
  account : SessionKeyId
  target : ComposerTarget
deriving DecidableEq, Repr

namespace ComposerDraftScope

def orderKey (scope : ComposerDraftScope) : (String × String × String) × ComposerTarget :=
  ((scope.account.homeserver, scope.account.userId, scope.account.deviceId), scope.target)

theorem orderKey_injective : Function.Injective orderKey := by
  rintro ⟨⟨_, _, _⟩, _⟩ ⟨⟨_, _, _⟩, _⟩ equal
  simp_all [orderKey]

end ComposerDraftScope

attribute [local instance] lexOrd

instance : Ord ComposerDraftScope := ⟨fun left right => compare left.orderKey right.orderKey⟩

instance : Std.TransOrd ComposerDraftScope :=
  inferInstanceAs (Std.TransCmp (compareOn ComposerDraftScope.orderKey))

instance : Std.LawfulEqOrd ComposerDraftScope where
  eq_of_compare {_ _} equal :=
    ComposerDraftScope.orderKey_injective (Std.LawfulEqOrd.eq_of_compare equal)

inductive ComposerDraftLeaseFailure where
  | counterExhausted
  | rendererGenerationRetired
  | leaseMismatch
deriving DecidableEq, Repr

inductive ComposerDraftPermitKind where
  | command
  | persistence
deriving DecidableEq, Repr

/-- A permit that is out. -/
structure ComposerDraftPermitGuard where
  scope : ComposerDraftScope
  generation : Nat
  kind : ComposerDraftPermitKind
deriving DecidableEq, Repr

structure LeaseRecord where
  generation : Nat
  scope : ComposerDraftScope
deriving DecidableEq, Repr

/-- Counters stop here. -/
def LEASE_COUNTER_MAX : Nat := 2 ^ 64 - 1

structure ComposerDraftLeaseRegistry where
  nextGeneration : Nat
  nextLeaseId : Nat
  liveGeneration : Option Nat
  leases : OrdMap Nat LeaseRecord
  commandPermits : PermitCounts ComposerDraftScope
  persistencePermits : PermitCounts ComposerDraftScope
deriving DecidableEq

namespace ComposerDraftLeaseRegistry

def new : ComposerDraftLeaseRegistry := ⟨0, 0, none, ∅, ∅, ∅⟩

variable (registry : ComposerDraftLeaseRegistry)

def checkedNext (counter : Nat) : Except ComposerDraftLeaseFailure Nat :=
  if counter < LEASE_COUNTER_MAX then .ok (counter + 1) else .error .counterExhausted

def beginRendererGeneration :
    Except ComposerDraftLeaseFailure (Nat × ComposerDraftLeaseRegistry) :=
  match checkedNext registry.nextGeneration with
  | .error failure => .error failure
  | .ok generation =>
    .ok (generation,
      { registry with
        nextGeneration := generation
        liveGeneration := some generation
        leases := registry.leases.filter (fun _ lease => lease.generation = generation) })

def acquire (generation : Nat) (scope : ComposerDraftScope) :
    Except ComposerDraftLeaseFailure (Nat × ComposerDraftLeaseRegistry) :=
  if registry.liveGeneration ≠ some generation then .error .rendererGenerationRetired
  else
    match checkedNext registry.nextLeaseId with
    | .error failure => .error failure
    | .ok leaseId =>
      .ok (leaseId,
        { registry with
          nextLeaseId := leaseId
          leases := registry.leases.insert leaseId ⟨generation, scope⟩ })

/-- Whether a lease is one of this generation for this composer. -/
def leaseMatches (generation leaseId : Nat) (scope : ComposerDraftScope) : Bool :=
  registry.leases[leaseId]?.any (fun lease => lease.generation = generation && lease.scope = scope)

def tryCommandPermit (generation leaseId : Nat) (scope : ComposerDraftScope) :
    Except ComposerDraftLeaseFailure (ComposerDraftPermitGuard × ComposerDraftLeaseRegistry) :=
  if registry.liveGeneration ≠ some generation then .error .rendererGenerationRetired
  else if !registry.leaseMatches generation leaseId scope then .error .leaseMismatch
  else
    match registry.commandPermits.take LEASE_COUNTER_MAX scope with
    | none => .error .counterExhausted
    | some commandPermits =>
      .ok (⟨scope, generation, .command⟩, { registry with commandPermits := commandPermits })

def release (generation leaseId : Nat) : Except ComposerDraftLeaseFailure ComposerDraftLeaseRegistry :=
  if registry.leases[leaseId]?.any (fun lease => lease.generation = generation) then
    .ok { registry with leases := registry.leases.erase leaseId }
  else .error .leaseMismatch

def revokeGeneration (generation : Nat) : ComposerDraftLeaseRegistry :=
  { registry with
    liveGeneration :=
      if registry.liveGeneration = some generation then none else registry.liveGeneration
    leases := registry.leases.filter (fun _ lease => lease.generation ≠ generation) }

def revokeLiveGeneration : ComposerDraftLeaseRegistry :=
  match registry.liveGeneration with
  | none => registry
  | some generation =>
    { registry with
      liveGeneration := none
      leases := registry.leases.filter (fun _ lease => lease.generation ≠ generation) }

def scopesOf (account : SessionKeyId) (targets : List ComposerTarget) : List ComposerDraftScope :=
  targets.map (fun target => ⟨account, target⟩)

/-- One permit for each target, or none: what was counted before a failure is
counted back. -/
def takePersistencePermits (account : SessionKeyId) (targets : List ComposerTarget) :
    Except ComposerDraftLeaseFailure (List ComposerDraftPermitGuard) × ComposerDraftLeaseRegistry :=
  let scopes := scopesOf account targets
  let (granted, persistencePermits) := registry.persistencePermits.takeAll LEASE_COUNTER_MAX scopes
  let registry := { registry with persistencePermits := persistencePermits }
  if granted then (.ok (scopes.map (fun scope => ⟨scope, 0, .persistence⟩)), registry)
  else (.error .counterExhausted, registry)

def releasePermit (guard : ComposerDraftPermitGuard) : ComposerDraftLeaseRegistry :=
  match guard.kind with
  | .command => { registry with commandPermits := registry.commandPermits.giveBack guard.scope }
  | .persistence =>
    { registry with persistencePermits := registry.persistencePermits.giveBack guard.scope }

def hasCommandPermit (scope : ComposerDraftScope) : Bool := registry.commandPermits.contains scope

/-- The targets of an account whose drafts must be kept. -/
def protectedTargets (account : SessionKeyId) : OrdSet ComposerTarget :=
  Std.ExtTreeSet.ofList
    (((registry.leases.toList.map (fun entry => entry.2.scope) ++ registry.commandPermits.keys ++
      registry.persistencePermits.keys).filter (fun scope => scope.account = account)).map
        ComposerDraftScope.target)

end ComposerDraftLeaseRegistry

/-! ## The registry with its guards -/

inductive LeaseAction where
  | beginRendererGeneration
  | acquire (generation : Nat) (scope : ComposerDraftScope)
  | tryCommandPermit (generation leaseId : Nat) (scope : ComposerDraftScope)
  | takePersistencePermits (account : SessionKeyId) (targets : List ComposerTarget)
  | dropGuard (guard : ComposerDraftPermitGuard)
  | release (generation leaseId : Nat)
  | revokeGeneration (generation : Nat)
  | revokeLiveGeneration
deriving DecidableEq, Repr

/-- The registry, the guards that are out, and every id that was handed out. -/
structure LeaseSystem where
  registry : ComposerDraftLeaseRegistry
  guards : List ComposerDraftPermitGuard
  generations : List Nat
  leaseIds : List Nat
deriving DecidableEq

namespace LeaseSystem

def initial : LeaseSystem := ⟨.new, [], [], []⟩

/-- A failed call changes nothing but, for persistence, the counted-back map. -/
def step (system : LeaseSystem) : LeaseAction -> LeaseSystem
  | .beginRendererGeneration =>
    match system.registry.beginRendererGeneration with
    | .error _ => system
    | .ok (generation, registry) =>
      { system with registry := registry, generations := system.generations ++ [generation] }
  | .acquire generation scope =>
    match system.registry.acquire generation scope with
    | .error _ => system
    | .ok (leaseId, registry) =>
      { system with registry := registry, leaseIds := system.leaseIds ++ [leaseId] }
  | .tryCommandPermit generation leaseId scope =>
    match system.registry.tryCommandPermit generation leaseId scope with
    | .error _ => system
    | .ok (guard, registry) => { system with registry := registry, guards := guard :: system.guards }
  | .takePersistencePermits account targets =>
    match system.registry.takePersistencePermits account targets with
    | (.error _, registry) => { system with registry := registry }
    | (.ok guards, registry) => { system with registry := registry, guards := guards ++ system.guards }
  | .dropGuard guard =>
    if guard ∈ system.guards then
      { system with
        registry := system.registry.releasePermit guard
        guards := system.guards.erase guard }
    else system
  | .release generation leaseId =>
    match system.registry.release generation leaseId with
    | .error _ => system
    | .ok registry => { system with registry := registry }
  | .revokeGeneration generation =>
    { system with registry := system.registry.revokeGeneration generation }
  | .revokeLiveGeneration => { system with registry := system.registry.revokeLiveGeneration }

end LeaseSystem

end Koushi
