import Koushi.Library.NestedMap

namespace Collections

open OrdMap Function Nat

/-!
# A ledger of items that wait and are then placed

An item gets a number when it is registered and waits under that number.  It may
then be placed under a key, where it keeps its number, and is dropped in the end.
Numbers are handed out once.  An item may be closed while it is in the ledger;
`Owed` says that a number is still to come or that its item is there and open, so
what is closed or dropped is never owed again.
-/

structure Ledger (κ σ : Type) [Ord κ] where
  issued : Nat
  waiting : OrdMap Nat σ
  placed : OrdMap κ σ

namespace Ledger

set_option linter.unusedSectionVars false

variable {κ σ : Type} [Ord κ]

def register (ledger : Ledger κ σ) (item : σ) : Ledger κ σ :=
  { ledger with
    issued := ledger.issued + 1
    waiting := ledger.waiting.insert (ledger.issued + 1) item }

def amendWaiting (ledger : Ledger κ σ) (number : Nat) (item : σ) : Ledger κ σ :=
  { ledger with waiting := ledger.waiting.insert number item }

def dropWaiting (ledger : Ledger κ σ) (number : Nat) : Ledger κ σ :=
  { ledger with waiting := ledger.waiting.erase number }

variable [Std.TransOrd κ]

def amendPlaced (ledger : Ledger κ σ) (key : κ) (item : σ) : Ledger κ σ :=
  { ledger with placed := ledger.placed.insert key item }

def dropPlaced (ledger : Ledger κ σ) (key : κ) : Ledger κ σ :=
  { ledger with placed := ledger.placed.erase key }

def place (ledger : Ledger κ σ) (number : Nat) (key : κ) (item : σ) : Ledger κ σ :=
  (ledger.dropWaiting number).amendPlaced key item

/-- Every item is filed under its own number or under one key, and no number is
ahead of the counter. -/
structure WellFormed (number : σ -> Nat) (ledger : Ledger κ σ) : Prop where
  waiting : forall (id : Nat) (item : σ), ledger.waiting[id]? = some item ->
    number item = id ∧ id ≤ ledger.issued
  placed : forall (key : κ) (item : σ), ledger.placed[key]? = some item ->
    number item ≤ ledger.issued ∧ ledger.waiting[number item]? = none
  distinct : forall (left right : κ) (item other : σ), ledger.placed[left]? = some item ->
    ledger.placed[right]? = some other -> number item = number other -> left = right

/-- A number is owed while it is not issued or its item is open. -/
def Owed (number : σ -> Nat) (closed : σ -> Bool) (id : Nat) (ledger : Ledger κ σ) : Prop :=
  ledger.issued < id ∨
    (∃ item : σ, ledger.waiting[id]? = some item ∧ closed item = false) ∨
    ∃ (key : κ) (item : σ), ledger.placed[key]? = some item ∧ number item = id ∧ closed item = false

variable [Std.LawfulEqOrd κ] [DecidableEq κ] {number : σ -> Nat} {closed : σ -> Bool} {ledger : Ledger κ σ}

theorem wellFormed_empty : WellFormed number (⟨0, ∅, ∅⟩ : Ledger κ σ) := by
  refine ⟨?_, ?_, ?_⟩ <;> simp

variable (wellFormed : ledger.WellFormed number)

variable {item : σ}

include wellFormed in
theorem WellFormed.register
    (named : number item = ledger.issued + 1) : (ledger.register item).WellFormed number := by
  refine ⟨?_, ?_, wellFormed.distinct⟩
  · intro id other found
    rcases getElem?_insert_cases found with ⟨rfl, rfl⟩ | ⟨_, before⟩
    · exact ⟨named, le_rfl⟩
    · have known := wellFormed.waiting id other before
      exact ⟨known.1, le_succ_of_le known.2⟩
  · intro key other found
    have known := wellFormed.placed key other found
    have older : ledger.issued + 1 ≠ number other := by omega
    exact ⟨le_succ_of_le known.1, (getElem?_insert_of_ne older).trans known.2⟩

variable {id : Nat} {old item : σ} {key : κ}

variable (held : ledger.waiting[id]? = some old) (named : number item = id)

include wellFormed held in
/-- A placed item does not have the number of a waiting one. -/
theorem WellFormed.number_ne_of_waiting {found : σ} (lookup : ledger.placed[key]? = some found) :
    number found ≠ id := by
  rintro rfl
  have notWaiting := (wellFormed.placed key found lookup).2
  rw [held] at notWaiting
  cases notWaiting

include wellFormed held named in
theorem WellFormed.amendWaiting : (ledger.amendWaiting id item).WellFormed number := by
  refine ⟨?_, ?_, wellFormed.distinct⟩
  · intro other found lookup
    rcases getElem?_insert_cases lookup with ⟨rfl, rfl⟩ | ⟨_, before⟩
    · exact ⟨named, (wellFormed.waiting id old held).2⟩
    · exact wellFormed.waiting other found before
  · intro key other found
    have known := wellFormed.placed key other found
    have different := (wellFormed.number_ne_of_waiting held found).symm
    exact ⟨known.1, (getElem?_insert_of_ne different).trans known.2⟩

include wellFormed in
theorem WellFormed.dropWaiting (id : Nat) : (ledger.dropWaiting id).WellFormed number := by
  refine ⟨?_, ?_, wellFormed.distinct⟩
  · intro other item found
    exact wellFormed.waiting other item (getElem?_erase_cases found).2
  · intro key item found
    have known := wellFormed.placed key item found
    refine ⟨known.1, ?_⟩
    simp only [Ledger.dropWaiting, Std.ExtTreeMap.getElem?_erase, known.2, ite_self]

include wellFormed in
/-- An item may be written under a key when no other key has its number. -/
theorem WellFormed.writePlaced (issued : number item ≤ ledger.issued)
    (notWaiting : ledger.waiting[number item]? = none)
    (alone : forall (other : κ) (found : σ), ledger.placed[other]? = some found -> number found = number item -> other = key) :
    (ledger.amendPlaced key item).WellFormed number := by
  refine ⟨wellFormed.waiting, ?_, ?_⟩
  · intro other found lookup
    rcases getElem?_insert_cases lookup with ⟨_, rfl⟩ | ⟨_, before⟩
    · exact ⟨issued, notWaiting⟩
    · exact wellFormed.placed other found before
  · intro left right first second foundLeft foundRight sameNumber
    rcases getElem?_insert_cases foundLeft with ⟨leftKey, rfl⟩ | ⟨_, beforeLeft⟩ <;>
      rcases getElem?_insert_cases foundRight with ⟨rightKey, rfl⟩ | ⟨_, beforeRight⟩
    · rw [← leftKey, rightKey]
    · rw [← leftKey, alone right second beforeRight sameNumber.symm]
    · rw [← rightKey, alone left first beforeLeft sameNumber]
    · exact wellFormed.distinct left right first second beforeLeft beforeRight sameNumber

include wellFormed in
theorem WellFormed.amendPlaced
    (held : ledger.placed[key]? = some old) (named : number item = number old) :
    (ledger.amendPlaced key item).WellFormed number := by
  have known := wellFormed.placed key old held
  apply wellFormed.writePlaced
  · rw [named]
    exact known.1
  · rw [named]
    exact known.2
  · intro other found lookup sameNumber
    exact wellFormed.distinct other key found old lookup held (sameNumber.trans named)

include wellFormed in
theorem WellFormed.dropPlaced (key : κ) : (ledger.dropPlaced key).WellFormed number := by
  refine ⟨wellFormed.waiting, ?_, ?_⟩
  · intro other found lookup
    exact wellFormed.placed other found (getElem?_erase_cases lookup).2
  · intro left right first second foundLeft foundRight
    exact wellFormed.distinct left right first second (getElem?_erase_cases foundLeft).2
      (getElem?_erase_cases foundRight).2

include wellFormed held named in
theorem WellFormed.place : (ledger.place id key item).WellFormed number := by
  have known := wellFormed.waiting id old held
  apply (wellFormed.dropWaiting id).writePlaced
  · rw [named]
    exact known.2
  · rw [named]
    simp [Ledger.dropWaiting]
  · intro other found lookup sameNumber
    exact absurd (sameNumber.trans named) (wellFormed.number_ne_of_waiting held lookup)

/-! ## What is owed -/

theorem open_of_keeps (keeps : closed old = true -> closed item = true) (isOpen : closed item = false) :
    closed old = false := by
  by_contra isClosed
  rw [keeps (by simpa using isClosed)] at isOpen
  cases isOpen

theorem Owed.of_register (owed : Owed number closed id (ledger.register item)) :
    Owed number closed id ledger := by
  rcases owed with ahead | ⟨found, lookup, isOpen⟩ | placed
  · exact .inl (lt_of_succ_lt ahead)
  · rcases getElem?_insert_cases lookup with ⟨rfl, _⟩ | ⟨_, before⟩
    · exact .inl (lt_succ_self _)
    · exact .inr (.inl ⟨found, before, isOpen⟩)
  · exact .inr (.inr placed)

theorem Owed.of_amendWaiting {id other : Nat}
    (owed : Owed number closed other (ledger.amendWaiting id item)) (held : ledger.waiting[id]? = some old)
    (keeps : closed old = true -> closed item = true) : Owed number closed other ledger := by
  rcases owed with ahead | ⟨found, lookup, isOpen⟩ | placed
  · exact .inl ahead
  · rcases getElem?_insert_cases lookup with ⟨rfl, rfl⟩ | ⟨_, before⟩
    · exact .inr (.inl ⟨old, held, open_of_keeps keeps isOpen⟩)
    · exact .inr (.inl ⟨found, before, isOpen⟩)
  · exact .inr (.inr placed)

include wellFormed held in
/-- A waiting item that is closed is not owed any more. -/
theorem WellFormed.not_owed_amendWaiting (closes : closed item = true) :
    ¬ Owed number closed id (ledger.amendWaiting id item) := by
  have known := wellFormed.waiting id old held
  rintro (ahead | ⟨found, lookup, isOpen⟩ | ⟨key, found, lookup, named, isOpen⟩)
  · exact absurd known.2 (not_le.mpr ahead)
  · rcases getElem?_insert_cases lookup with ⟨_, rfl⟩ | ⟨different, _⟩
    · rw [closes] at isOpen
      cases isOpen
    · exact different rfl
  · exact wellFormed.number_ne_of_waiting held lookup named

theorem Owed.of_dropWaiting {id other : Nat} (owed : Owed number closed other (ledger.dropWaiting id)) :
    Owed number closed other ledger := by
  rcases owed with ahead | ⟨found, lookup, isOpen⟩ | placed
  · exact .inl ahead
  · exact .inr (.inl ⟨found, (getElem?_erase_cases lookup).2, isOpen⟩)
  · exact .inr (.inr placed)

include wellFormed held in
theorem WellFormed.not_owed_dropWaiting : ¬ Owed number closed id (ledger.dropWaiting id) := by
  have known := wellFormed.waiting id old held
  rintro (ahead | ⟨found, lookup, _⟩ | ⟨key, found, lookup, named, _⟩)
  · exact absurd known.2 (not_le.mpr ahead)
  · exact (getElem?_erase_cases lookup).1 rfl
  · exact wellFormed.number_ne_of_waiting held lookup named

theorem Owed.of_amendPlaced
    (owed : Owed number closed id (ledger.amendPlaced key item)) (held : ledger.placed[key]? = some old)
    (named : number item = number old) (keeps : closed old = true -> closed item = true) : Owed number closed id ledger := by
  rcases owed with ahead | waiting | ⟨other, found, lookup, hasNumber, isOpen⟩
  · exact .inl ahead
  · exact .inr (.inl waiting)
  · rcases getElem?_insert_cases lookup with ⟨_, rfl⟩ | ⟨_, before⟩
    · exact .inr (.inr ⟨key, old, held, named.symm.trans hasNumber, open_of_keeps keeps isOpen⟩)
    · exact .inr (.inr ⟨other, found, before, hasNumber, isOpen⟩)

include wellFormed in
theorem WellFormed.not_owed_amendPlaced
    (held : ledger.placed[key]? = some old) (closes : closed item = true) :
    ¬ Owed number closed (number old) (ledger.amendPlaced key item) := by
  have known := wellFormed.placed key old held
  rintro (ahead | ⟨found, lookup, _⟩ | ⟨other, found, lookup, named, isOpen⟩)
  · exact absurd known.1 (not_le.mpr ahead)
  · rw [show (ledger.amendPlaced key item).waiting = ledger.waiting from rfl, known.2] at lookup
    cases lookup
  · rcases getElem?_insert_cases lookup with ⟨_, rfl⟩ | ⟨different, before⟩
    · rw [closes] at isOpen
      cases isOpen
    · exact different (wellFormed.distinct key other old found held before named.symm)

theorem Owed.of_dropPlaced (owed : Owed number closed id (ledger.dropPlaced key)) :
    Owed number closed id ledger := by
  rcases owed with ahead | waiting | ⟨other, found, lookup, hasNumber, isOpen⟩
  · exact .inl ahead
  · exact .inr (.inl waiting)
  · exact .inr (.inr ⟨other, found, (getElem?_erase_cases lookup).2, hasNumber, isOpen⟩)

include wellFormed in
theorem WellFormed.not_owed_dropPlaced
    (held : ledger.placed[key]? = some old) : ¬ Owed number closed (number old) (ledger.dropPlaced key) := by
  have known := wellFormed.placed key old held
  rintro (ahead | ⟨found, lookup, _⟩ | ⟨other, found, lookup, named, _⟩)
  · exact absurd known.1 (not_le.mpr ahead)
  · rw [show (ledger.dropPlaced key).waiting = ledger.waiting from rfl, known.2] at lookup
    cases lookup
  · rcases getElem?_erase_cases lookup with ⟨different, before⟩
    exact different (wellFormed.distinct key other old found held before named.symm)

theorem Owed.of_place {id other : Nat}
    (owed : Owed number closed other (ledger.place id key item)) (held : ledger.waiting[id]? = some old)
    (named : number item = id) (keeps : closed old = true -> closed item = true) : Owed number closed other ledger := by
  rcases owed with ahead | ⟨found, lookup, isOpen⟩ | ⟨place, found, lookup, hasNumber, isOpen⟩
  · exact .inl ahead
  · exact .inr (.inl ⟨found, (getElem?_erase_cases lookup).2, isOpen⟩)
  · rcases getElem?_insert_cases lookup with ⟨_, rfl⟩ | ⟨_, before⟩
    · refine .inr (.inl ⟨old, ?_, open_of_keeps keeps isOpen⟩)
      rw [← hasNumber, named]
      exact held
    · exact .inr (.inr ⟨place, found, before, hasNumber, isOpen⟩)

/-- An item under a key is owed while it is open. -/
theorem owed_of_placed (held : ledger.placed[key]? = some item)
    (isOpen : closed item = false) : Owed number closed (number item) ledger :=
  .inr (.inr ⟨key, item, held, rfl, isOpen⟩)

theorem owed_of_waiting (held : ledger.waiting[id]? = some item)
    (isOpen : closed item = false) : Owed number closed id ledger :=
  .inr (.inl ⟨item, held, isOpen⟩)

/-! ## The row of one number -/

/-- Where the item of a number is. -/
def row (number : σ -> Nat) (id : Nat) (ledger : Ledger κ σ) : Option σ × (κ -> Option σ) :=
  (ledger.waiting[id]?, fun key => ledger.placed[key]?.filter (fun item => number item = id))

variable (free : (ledger.row number id).2 key = none)

include free in
theorem number_ne_of_row (held : ledger.placed[key]? = some item) : number item ≠ id := by
  intro same
  simp [row, held, same] at free

theorem row_of_number_ne (held : ledger.placed[key]? = some item)
    (different : number item ≠ id) : (ledger.row number id).2 key = none := by
  simp [row, held, different]

theorem row_eq {after : Ledger κ σ} (waiting : after.waiting[id]? = ledger.waiting[id]?)
    (placed : forall key, (after.row number id).2 key = (ledger.row number id).2 key) :
    after.row number id = ledger.row number id := by
  refine Prod.ext waiting ?_
  funext key
  exact placed key

include wellFormed in
theorem WellFormed.row_of_waiting
    (held : ledger.waiting[id]? = some item) : ledger.row number id = (some item, fun _ => none) := by
  refine Prod.ext held ?_
  funext key
  cases lookup : ledger.placed[key]? with
  | none => simp [row, lookup]
  | some found =>
    have different := wellFormed.number_ne_of_waiting held lookup
    simp [row, lookup, different]

theorem row_register (different : ledger.issued + 1 ≠ id) :
    (ledger.register item).row number id = ledger.row number id := by
  apply row_eq
  · exact getElem?_insert_of_ne different
  · intro key
    rfl

theorem row_amendWaiting {id other : Nat} (different : other ≠ id) :
    (ledger.amendWaiting other item).row number id = ledger.row number id := by
  apply row_eq
  · exact getElem?_insert_of_ne different
  · intro key
    rfl

theorem row_dropWaiting {id other : Nat} (different : other ≠ id) :
    (ledger.dropWaiting other).row number id = ledger.row number id := by
  apply row_eq
  · exact getElem?_erase_of_ne different
  · intro key
    rfl

/-- A write under a key, read in the row of a number. -/
theorem row_amendPlaced_eq : (ledger.amendPlaced key item).row number id = ((ledger.row number id).1,
      update (ledger.row number id).2 key (if number item = id then some item else none)) := by
  refine Prod.ext rfl (funext fun other => ?_)
  simp only [row, amendPlaced, getElem?_insert_update, Function.update_apply]
  split <;> simp [Option.filter]

theorem row_dropPlaced_eq : (ledger.dropPlaced key).row number id =
    ((ledger.row number id).1, update (ledger.row number id).2 key none) := by
  refine Prod.ext rfl (funext fun other => ?_)
  simp only [row, dropPlaced, getElem?_erase_update, Function.update_apply]
  split <;> rfl

include free in
/-- Writing another number under a key that has not this one leaves its row. -/
theorem row_amendPlaced
    (different : number item ≠ id) : (ledger.amendPlaced key item).row number id = ledger.row number id := by
  rw [row_amendPlaced_eq, if_neg different, ← free, Function.update_eq_self]

include free in
theorem row_dropPlaced : (ledger.dropPlaced key).row number id = ledger.row number id := by
  rw [row_dropPlaced_eq, ← free, Function.update_eq_self]

theorem row_place {id other : Nat} (differentId : other ≠ id) (free : (ledger.row number id).2 key = none)
    (different : number item ≠ id) :
    (ledger.place other key item).row number id = ledger.row number id := by
  have dropped : (ledger.dropWaiting other).row number id = ledger.row number id := row_dropWaiting differentId
  rw [place, row_amendPlaced _ different, dropped]
  exact free

include wellFormed held named in
/-- The row of the number whose item is placed. -/
theorem WellFormed.row_place_self :
    (ledger.place id key item).row number id = (none, update (fun _ => none) key (some item)) := by
  have unplaced : (ledger.row number id).2 = fun _ => none := by rw [wellFormed.row_of_waiting held]
  have gone : (ledger.dropWaiting id).row number id = (none, fun _ => none) :=
    Prod.ext (by simp [row, Ledger.dropWaiting]) unplaced
  rw [Ledger.place, row_amendPlaced_eq, if_pos named, gone]

theorem row_dropPlaced_self
    (here : ledger.row number id = (none, update (fun _ => none) key (some item))) :
    (ledger.dropPlaced key).row number id = (none, fun _ => none) := by
  rw [row_dropPlaced_eq, here, update_idem]
  exact congrArg (Prod.mk none) (Function.update_eq_self key _)

theorem row_amendPlaced_self
    (here : ledger.row number id = (none, update (fun _ => none) key (some old)))
    (named : number item = id) :
    (ledger.amendPlaced key item).row number id = (none, update (fun _ => none) key (some item)) := by
  rw [row_amendPlaced_eq, here, if_pos named, update_idem]

end Ledger

end Collections
