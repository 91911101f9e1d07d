import Koushi.Composer.DraftFence
import Koushi.Composer.LeaseAccounting

namespace Koushi

open Collections Machine List ComposerDraftStore

/-!
# Guards keep their drafts

Leases and drafts meet in the reconciliation: it protects what a lease or permit of the
session's account holds.
-/

namespace ComposerDraftLeaseRegistry

variable (registry : ComposerDraftLeaseRegistry) (account : SessionKeyId)

def touchProtectedTargets : OrdSet ComposerTarget :=
  .ofList (((registry.leases.toList.map (·.2.scope) ++ registry.commandPermits.keys).filter
    (·.account = account)).map (·.target))

/-- The excluded permits are distinct guards of this registry. -/
def persistenceHeldTargetsExcluding (excluded : List ComposerDraftPermitGuard) : OrdSet ComposerTarget :=
  .ofList (((registry.persistencePermits.toList.filter
    (fun entry => outstanding excluded .persistence entry.1 < entry.2)).filter
      (·.1.account = account)).map (·.1.target))

def protection (active : OrdSet ComposerTarget) : Option SessionKeyId -> ComposerDraftProtection
  | some account =>
    ⟨active, registry.touchProtectedTargets account, registry.persistenceHeldTargetsExcluding account []⟩
  | none => ⟨active, ∅, ∅⟩

end ComposerDraftLeaseRegistry

structure DraftRuntime where
  leases : LeaseSystem
  drafts : ComposerDraftStore

inductive DraftEvent where
  | lease (action : LeaseAction)
  | draft (operation : ComposerDraftOperation)
  | reconcile (session : Option SessionKeyId) (active : OrdSet ComposerTarget)

namespace DraftRuntime

def initial : DraftRuntime := ⟨.initial, .default⟩

variable (guard : ComposerDraftPermitGuard) (runtime : DraftRuntime)

def step : DraftEvent -> DraftRuntime
  | .lease action => { runtime with leases := runtime.leases.step action }
  | .draft operation => { runtime with drafts := runtime.drafts.perform operation }
  | .reconcile session active => { runtime with
      drafts := runtime.drafts.perform (.reconcileLifecycle (runtime.leases.registry.protection active session)) }

/-- The guard stays out, its account is the session's, and no operation removes its target. -/
def Spares : DraftEvent -> Prop
  | .lease action => action ≠ .dropGuard guard
  | .draft operation => Keeps guard.scope.target runtime.drafts operation
  | .reconcile session _ => session = some guard.scope.account

def Sound : Prop := runtime.leases.Exact ∧ WellFormed runtime.drafts

/-- The guard is out and its target's fence is not below a revision. -/
def Fenced (revision : Nat) : Prop :=
  Sound runtime ∧ guard ∈ runtime.leases.guards ∧ revision ≤ runtime.drafts.revisionAt guard.scope.target

variable {guard runtime}

/-- A command guard protects as a touched target, a persistence guard as a held one. -/
theorem protected_of_held (accounted : runtime.leases.Exact) (held : guard ∈ runtime.leases.guards)
    (active : OrdSet ComposerTarget) : targetIsProtected
      (runtime.leases.registry.protection active (some guard.scope.account)) guard.scope.target = true := by
  have positive := outstanding_pos held
  rw [← accounted.counts] at positive
  have counted := (accounted.noZero _).mem_iff.mpr positive
  rcases OrdMap.mem_iff_exists.mp counted with ⟨count, found⟩
  simp only [targetIsProtected, targetIsTouchProtected, Bool.or_eq_true, Std.ExtTreeSet.contains_iff_mem]
  cases kind : guard.kind with
  | command =>
    rw [kind] at counted
    refine .inl (.inr (OrdSet.mem_ofList.mpr (mem_map.mpr ⟨_, mem_filter.mpr ⟨?_, by simp⟩, rfl⟩)))
    exact mem_append_right _ (Std.ExtTreeMap.mem_keys.mpr counted)
  | persistence =>
    refine .inr (OrdSet.mem_ofList.mpr (mem_map.mpr ⟨(guard.scope, count), ?_, rfl⟩))
    simp_all [outstanding, PermitCounts.count, ComposerDraftLeaseRegistry.permitsOf]

theorem Sound.step (sound : Sound runtime) (event : DraftEvent) : Sound (runtime.step event) := by
  cases event with
  | lease action => exact ⟨sound.1.step action, sound.2⟩
  | draft operation => exact ⟨sound.1, sound.2.perform operation⟩
  | reconcile => exact ⟨sound.1, sound.2.perform (.reconcileLifecycle _)⟩

theorem Fenced.step {revision : Nat} {event : DraftEvent} (spared : Spares guard runtime event)
    (fenced : Fenced guard runtime revision) : Fenced guard (runtime.step event) revision := by
  rcases fenced with ⟨sound, held, above⟩
  refine ⟨sound.step event, ?_⟩
  cases event with
  | lease action => exact ⟨sound.1.guard_mem_step held spared, above⟩
  | draft operation => exact ⟨held, above.trans (revisionAt_perform_le sound.2 spared)⟩
  | reconcile session active =>
    cases spared
    refine ⟨held, above.trans (revisionAt_perform_le sound.2 fun removed => ?_)⟩
    exact absurd (protected_of_held sound.1 held active) (Bool.eq_false_iff.mp removed)

def saver : SessionKeyId := ⟨"h", "u", "d"⟩

/-- A draft is saved and sent. -/
def saved : List DraftEvent := .lease (.takePersistencePermits saver [.main "a"]) :: drafted.map .draft

def sent : List DraftEvent := [.draft (.advanceRoomRevision "a" 1), .reconcile (some saver) ∅]

end DraftRuntime

end Koushi
