import Mathlib

namespace Collections

open Option Function

/-!
# Two panes over one store

A store has main slots, one per key, and side slots, one per key and inner key.
A main pane shows a copy of one main slot.  A side pane is attached to the key of
the main pane; it is empty, or it shows a copy of one side slot of that key.  A
selected key says what the main pane is meant to show.

`Faithful` says that both copies are up to date, that an open main pane shows the
selected key, and that the side pane is attached.  Each operation keeps it: a
write goes to the slot and to the copy, opening reads the slot again, and the
slots of a key are only dropped when no pane shows them.
-/

structure MirroredPanes (κ ι ν : Type) where
  mainSlots : κ -> ν
  sideSlots : κ × ι -> ν
  selected : Option κ
  main : Option (κ × ν)
  side : Option (κ × Option (ι × ν))

namespace MirroredPanes

variable {κ ι ν : Type}

theorem ext {left right : MirroredPanes κ ι ν} (mainSlots : forall key, left.mainSlots key = right.mainSlots key)
    (sideSlots : forall key, left.sideSlots key = right.sideSlots key)
    (selected : left.selected = right.selected) (main : left.main = right.main)
    (side : left.side = right.side) : left = right := by
  cases left
  cases right
  simp only [mk.injEq]
  exact ⟨funext mainSlots, funext sideSlots, selected, main, side⟩

/-- The panes show what the store holds. -/
structure Faithful (panes : MirroredPanes κ ι ν) : Prop where
  main : forall key shown, panes.main = some (key, shown) -> shown = panes.mainSlots key
  side : forall key inner shown, panes.side = some (key, some (inner, shown)) ->
    shown = panes.sideSlots (key, inner)
  selected : forall key shown, panes.main = some (key, shown) -> panes.selected = some key
  attached : forall key content, panes.side = some (key, content) -> ∃ shown, panes.main = some (key, shown)

/-- Without a main pane there is no side pane. -/
theorem Faithful.side_eq_none {panes : MirroredPanes κ ι ν} (faithful : panes.Faithful)
    (closed : panes.main = none) : panes.side = none := by
  cases side : panes.side with
  | none => rfl
  | some content =>
    rcases faithful.attached content.1 content.2 side with ⟨shown, opened⟩
    rw [closed] at opened
    cases opened

/-! ## Opening and closing -/

def openMain (panes : MirroredPanes κ ι ν) (key : κ) : MirroredPanes κ ι ν :=
  { panes with selected := some key, main := some (key, panes.mainSlots key), side := none }

def closeMain (panes : MirroredPanes κ ι ν) : MirroredPanes κ ι ν :=
  { panes with selected := none, main := none, side := none }

/-- Attach an empty side pane, or one that shows an inner key. -/
def openSide (panes : MirroredPanes κ ι ν) (key : κ) (inner : Option ι) : MirroredPanes κ ι ν :=
  { panes with side := some (key, inner.map (fun inner => (inner, panes.sideSlots (key, inner)))) }

def closeSide (panes : MirroredPanes κ ι ν) : MirroredPanes κ ι ν := { panes with side := none }

def select (panes : MirroredPanes κ ι ν) (key : Option κ) : MirroredPanes κ ι ν :=
  { panes with selected := key }

theorem faithful_openMain (panes : MirroredPanes κ ι ν) (key : κ) : (panes.openMain key).Faithful where
  main := by
    intro other shown opened
    cases opened
    rfl
  side := nofun
  selected := by
    intro other shown opened
    cases opened
    rfl
  attached := nofun

theorem faithful_closeMain (panes : MirroredPanes κ ι ν) : panes.closeMain.Faithful :=
  ⟨nofun, nofun, nofun, nofun⟩

section Kept

variable {panes : MirroredPanes κ ι ν}

theorem Faithful.openSide (faithful : panes.Faithful) {key : κ} {shown : ν}
    (opened : panes.main = some (key, shown)) (inner : Option ι) : (panes.openSide key inner).Faithful where
  main := faithful.main
  side := by
    intro other otherInner otherShown attached
    cases inner with
    | none => cases attached
    | some inner =>
      cases attached
      rfl
  selected := faithful.selected
  attached := by
    intro other content attached
    cases attached
    exact ⟨shown, opened⟩

theorem Faithful.closeSide (faithful : panes.Faithful) : panes.closeSide.Faithful :=
  ⟨faithful.main, nofun, faithful.selected, nofun⟩

/-- The selection may move while the main pane is closed. -/
theorem Faithful.select (faithful : panes.Faithful) {key : Option κ}
    (meant : forall openKey shown, panes.main = some (openKey, shown) -> key = some openKey) :
    (panes.select key).Faithful :=
  { faithful with selected := meant }

end Kept

/-! ## Writing -/

section Write

variable [DecidableEq κ] [DecidableEq ι] {panes : MirroredPanes κ ι ν}

def writeMain (panes : MirroredPanes κ ι ν) (key : κ) (value : ν) : MirroredPanes κ ι ν :=
  { panes with
    mainSlots := Function.update panes.mainSlots key value
    main := panes.main.map (fun shown => if shown.1 = key then (shown.1, value) else shown) }

def writeSide (panes : MirroredPanes κ ι ν) (key : κ × ι) (value : ν) : MirroredPanes κ ι ν :=
  { panes with
    sideSlots := Function.update panes.sideSlots key value
    side := panes.side.map (fun attached => (attached.1, attached.2.map (fun shown =>
      if (attached.1, shown.1) = key then (shown.1, value) else shown))) }

omit [DecidableEq ι] in
theorem Faithful.writeMain (faithful : panes.Faithful) (key : κ) (value : ν) :
    (panes.writeMain key value).Faithful where
  main := by
    intro other shown opened
    rcases map_eq_some_iff.mp opened with ⟨before, wasOpen, now⟩
    split at now
    · next same =>
      cases now
      rw [same]
      exact (update_self key value panes.mainSlots).symm
    · next different =>
      subst now
      exact (faithful.main other shown wasOpen).trans (update_of_ne different _ _).symm
  side := faithful.side
  selected := by
    intro other shown opened
    rcases map_eq_some_iff.mp opened with ⟨before, wasOpen, now⟩
    have sameKey : before.1 = other := by
      split at now <;> exact congrArg Prod.fst now
    rw [← sameKey]
    exact faithful.selected before.1 before.2 wasOpen
  attached := by
    intro other content opened
    rcases faithful.attached other content opened with ⟨shown, wasOpen⟩
    by_cases same : other = key
    · exact ⟨value, by simp [MirroredPanes.writeMain, wasOpen, same]⟩
    · exact ⟨shown, by simp [MirroredPanes.writeMain, wasOpen, same]⟩

theorem Faithful.writeSide (faithful : panes.Faithful) (key : κ × ι) (value : ν) :
    (panes.writeSide key value).Faithful where
  main := faithful.main
  side := by
    intro other inner shown opened
    rcases map_eq_some_iff.mp opened with ⟨⟨before, content⟩, wasOpen, now⟩
    rcases Prod.mk.inj now with ⟨rfl, nowShown⟩
    rcases map_eq_some_iff.mp nowShown with ⟨⟨beforeInner, beforeShown⟩, rfl, nowInner⟩
    split at nowInner
    · next same =>
      cases nowInner
      rw [same]
      exact (update_self key value panes.sideSlots).symm
    · next different =>
      cases nowInner
      exact (faithful.side _ _ _ wasOpen).trans (update_of_ne different _ _).symm
  selected := faithful.selected
  attached := by
    intro other content opened
    rcases map_eq_some_iff.mp opened with ⟨⟨before, beforeContent⟩, wasOpen, now⟩
    rcases Prod.mk.inj now with ⟨rfl, _⟩
    exact faithful.attached before beforeContent wasOpen

end Write

/-! ## Replacing the store -/

/-- Replace all slots and read both panes again. -/
def load (panes : MirroredPanes κ ι ν) (mainSlots : κ -> ν) (sideSlots : κ × ι -> ν) :
    MirroredPanes κ ι ν where
  mainSlots := mainSlots
  sideSlots := sideSlots
  selected := panes.selected
  main := panes.main.map (fun shown => (shown.1, mainSlots shown.1))
  side := panes.side.map (fun attached =>
    (attached.1, attached.2.map (fun shown => (shown.1, sideSlots (attached.1, shown.1)))))

theorem Faithful.load {panes : MirroredPanes κ ι ν} (faithful : panes.Faithful) (mainSlots : κ -> ν)
    (sideSlots : κ × ι -> ν) : (panes.load mainSlots sideSlots).Faithful where
  main := by
    intro key shown opened
    rcases map_eq_some_iff.mp opened with ⟨before, _, now⟩
    cases now
    rfl
  side := by
    intro key inner shown opened
    rcases map_eq_some_iff.mp opened with ⟨⟨before, content⟩, _, now⟩
    rcases Prod.mk.inj now with ⟨rfl, nowShown⟩
    rcases map_eq_some_iff.mp nowShown with ⟨beforeShown, rfl, nowInner⟩
    cases nowInner
    rfl
  selected := by
    intro key shown opened
    rcases map_eq_some_iff.mp opened with ⟨before, wasOpen, now⟩
    cases now
    exact faithful.selected before.1 before.2 wasOpen
  attached := by
    intro key content opened
    rcases map_eq_some_iff.mp opened with ⟨⟨before, beforeContent⟩, wasOpen, now⟩
    rcases Prod.mk.inj now with ⟨rfl, _⟩
    rcases faithful.attached before beforeContent wasOpen with ⟨shown, wasShown⟩
    exact ⟨mainSlots before, by simp [MirroredPanes.load, wasShown]⟩

/-- Drop the slots of every key that fails a test. -/
def prune (panes : MirroredPanes κ ι ν) (keep : κ -> Bool) (empty : ν) : MirroredPanes κ ι ν :=
  { panes with
    mainSlots := fun key => if keep key then panes.mainSlots key else empty
    sideSlots := fun key => if keep key.1 then panes.sideSlots key else empty }

theorem Faithful.prune {panes : MirroredPanes κ ι ν} (faithful : panes.Faithful) (keep : κ -> Bool)
    (empty : ν) (kept : forall key shown, panes.main = some (key, shown) -> keep key = true) :
    (panes.prune keep empty).Faithful where
  main := by
    intro key shown opened
    exact (faithful.main key shown opened).trans (if_pos (kept key shown opened)).symm
  side := by
    intro key inner shown opened
    rcases faithful.attached key _ opened with ⟨mainShown, mainOpened⟩
    exact (faithful.side key inner shown opened).trans (if_pos (kept key mainShown mainOpened)).symm
  selected := faithful.selected
  attached := faithful.attached

end MirroredPanes

end Collections
