import Koushi.Library.NestedMap

namespace Koushi

open Collections

/-!
# Draft revisions, composer targets and draft protection

A composer target is the main composer of a room or the composer of one thread.
Every target has a draft revision, a natural number below 2^128 that never
wraps: its successor is either above both arguments or an exhaustion error.
-/

inductive ComposerDraftRevisionError where
  | invalidWire
  | exhausted
deriving DecidableEq, Repr

namespace ComposerDraftRevision

def ZERO : Nat := 0

/-- The largest value of the 128-bit counter. -/
def MAX : Nat := 2 ^ 128 - 1

def checkedSuccessor (authoritative submitted : Nat) :
    Except ComposerDraftRevisionError Nat :=
  if max authoritative submitted + 1 ≤ MAX then .ok (max authoritative submitted + 1)
  else .error .exhausted

/-- A successor is above both revisions it was computed from. -/
theorem lt_of_checkedSuccessor {authoritative submitted next : Nat}
    (successor : checkedSuccessor authoritative submitted = .ok next) :
    authoritative < next ∧ submitted < next := by
  unfold checkedSuccessor at successor
  split at successor
  · cases successor
    omega
  · cases successor

end ComposerDraftRevision

inductive ComposerTarget where
  | main (roomId : String)
  | thread (roomId rootEventId : String)
deriving DecidableEq, Repr

namespace ComposerTarget

def roomId : ComposerTarget -> String
  | .main roomId => roomId
  | .thread roomId _ => roomId

/-- Main targets come first; targets of one kind are ordered by their ids. -/
def orderKey : ComposerTarget -> Bool × String × String
  | .main roomId => (false, roomId, "")
  | .thread roomId rootEventId => (true, roomId, rootEventId)

theorem orderKey_injective : Function.Injective orderKey := by
  intro left right equal
  cases left <;> cases right <;> simp_all [orderKey]

end ComposerTarget

attribute [local instance] lexOrd

instance : Ord ComposerTarget := ⟨fun left right => compare left.orderKey right.orderKey⟩

instance : Std.TransOrd ComposerTarget :=
  inferInstanceAs (Std.TransCmp (compareOn ComposerTarget.orderKey))

instance : Std.LawfulEqOrd ComposerTarget where
  eq_of_compare {_ _} equal :=
    ComposerTarget.orderKey_injective (Std.LawfulEqOrd.eq_of_compare equal)

/-- The targets whose tombstones must not be evicted.  A target that is active
or leased is also kept out of the recency lists. -/
structure ComposerDraftProtection where
  active : OrdSet ComposerTarget
  leased : OrdSet ComposerTarget
  storePending : OrdSet ComposerTarget
deriving DecidableEq

instance : Inhabited ComposerDraftProtection := ⟨⟨∅, ∅, ∅⟩⟩

def targetIsTouchProtected (protection : ComposerDraftProtection) (target : ComposerTarget) : Bool :=
  protection.active.contains target || protection.leased.contains target

def targetIsProtected (protection : ComposerDraftProtection) (target : ComposerTarget) : Bool :=
  targetIsTouchProtected protection target || protection.storePending.contains target

/-- A submission is named by the client that admitted it. -/
abbrev SubmissionId := String

/-- How a submission ended. -/
inductive ComposerSubmissionTerminalOutcome where
  | succeeded
  | failed (message : String)
  | cancelled
deriving DecidableEq, Repr

end Koushi
