import Koushi.Library.CartesianTree
import Koushi.Timeline.DisplayItems

namespace Koushi

open Collections

/-!
# The display membership rope

The display shows a bounded part of a long canonical timeline.  Which canonical
items it shows is kept, during one batch of SDK diffs, in a rope over the
canonical indices: a slot for every item that is shown and a run for every
stretch that is not.  A run is a gap when it was trimmed, and suppressed when
its items occupy no row of their own.

The rope is an implicit treap.  Where the source would stop in `unreachable!` or
`expect`, the functions below return `none`.
-/

/-- Whether an item occupies a row of the display. -/
def itemOccupiesDisplayRow (item : TimelineItem) : Bool := item.threadRoot.isNone && !item.isHidden

inductive DisplayMembershipCell where
  | gap (len : Nat)
  | suppressed (len : Nat)
  | slot (item : TimelineItem)
deriving DecidableEq, Repr

namespace DisplayMembershipCell

/-- The hidden cell that stands for an item. -/
def hidden (item : TimelineItem) : DisplayMembershipCell :=
  if itemOccupiesDisplayRow item then gap 1 else suppressed 1

def canonicalLen : DisplayMembershipCell -> Nat
  | gap len => len
  | suppressed len => len
  | slot _ => 1

/-- What a neighbour sees; a suppressed run is looked through. -/
def opaqueVisibility : DisplayMembershipCell -> Option Bool
  | gap _ => some false
  | suppressed _ => none
  | slot _ => some true

def visibleLen : DisplayMembershipCell -> Nat
  | slot _ => 1
  | _ => 0

/-- A slot counts as a row unless its item is suppressed by the projection. -/
def renderableLen : DisplayMembershipCell -> Nat
  | slot item => if itemOccupiesDisplayRow item then 1 else 0
  | _ => 0

end DisplayMembershipCell

/-- What a node of the rope caches about its subtree. -/
structure MembershipSummary where
  canonicalLen : Nat
  visibleLen : Nat
  renderableLen : Nat
  firstOpaque : Option Bool
  lastOpaque : Option Bool
deriving DecidableEq, Repr

def membershipKind : CellKind DisplayMembershipCell MembershipSummary where
  nothing := ⟨0, 0, 0, none, none⟩
  join left right :=
    { canonicalLen := left.canonicalLen + right.canonicalLen
      visibleLen := left.visibleLen + right.visibleLen
      renderableLen := left.renderableLen + right.renderableLen
      firstOpaque := left.firstOpaque.or right.firstOpaque
      lastOpaque := right.lastOpaque.or left.lastOpaque }
  measure cell :=
    ⟨cell.canonicalLen, cell.visibleLen, cell.renderableLen, cell.opaqueVisibility,
      cell.opaqueVisibility⟩
  width summary := summary.canonicalLen
  cut cell offset :=
    match cell with
    | .gap len => some (.gap offset, .gap (len - offset))
    | .suppressed len => some (.suppressed offset, .suppressed (len - offset))
    -- A visible slot cannot be split inside its unit length.
    | .slot _ => none

abbrev DisplayMembershipLink := Treap DisplayMembershipCell MembershipSummary

def membershipSummary (link : DisplayMembershipLink) : MembershipSummary :=
  Treap.summaryOf membershipKind link

structure DisplayMembershipRope where
  root : DisplayMembershipLink
  nextSeed : UInt64

/-- How much of an unrepresented run is transparent, counted from each end. -/
structure GapEnds where
  lead : Nat
  trail : Nat
deriving DecidableEq, Repr

instance : Inhabited GapEnds := ⟨⟨0, 0⟩⟩

def GapEnds.of (run : List TimelineItem) : GapEnds :=
  let lead := (run.takeWhile (fun item => !itemOccupiesDisplayRow item)).length
  if lead = run.length then ⟨lead, 0⟩
  else ⟨lead, (run.reverse.takeWhile (fun item => !itemOccupiesDisplayRow item)).length⟩

structure DisplayProjectionSlot where
  canonicalIndex : Nat
  item : TimelineItem
  gapBefore : GapEnds
deriving DecidableEq, Repr

namespace DisplayMembershipRope

def canonicalLen (rope : DisplayMembershipRope) : Nat := (membershipSummary rope.root).canonicalLen

def visibleLen (rope : DisplayMembershipRope) : Nat := (membershipSummary rope.root).visibleLen

variable (rope : DisplayMembershipRope)

def renderableVisibleLen : Nat :=
  (membershipSummary rope.root).renderableLen

/-- The next priority and the next seed. -/
def nextPriority (seed : UInt64) : UInt64 × UInt64 :=
  let value := seed + 0x9e3779b97f4a7c15
  let value := (value ^^^ (value >>> 30)) * 0xbf58476d1ce4e5b9
  let value := (value ^^^ (value >>> 27)) * 0x94d049bb133111eb
  (value ^^^ (value >>> 31), seed + 1)

def merge (left right : DisplayMembershipLink) : DisplayMembershipLink :=
  Treap.merge membershipKind left right

def split (seed : UInt64) (link : DisplayMembershipLink) (index : Nat) :
    Option (DisplayMembershipLink × DisplayMembershipLink × UInt64) :=
  Treap.split membershipKind nextPriority seed link index

/-! ## Construction -/

def fromCells (cells : List DisplayMembershipCell) : Option DisplayMembershipRope :=
  let inhabited := cells.filter (fun cell => !(cell = .gap 0 || cell = .suppressed 0))
  (CartesianTree.ofCells membershipKind nextPriority 1 inhabited).map
    (fun (root, nextSeed) => ⟨root, nextSeed⟩)

/-- One unrepresented run, with its transparent ends as suppressed cells. -/
def pushRun (cells : List DisplayMembershipCell) (len : Nat) (ends : GapEnds) :
    List DisplayMembershipCell :=
  let lead := min ends.lead len
  if lead = len then cells ++ [.suppressed len]
  else
    let trail := min ends.trail (len - lead)
    cells ++ [.suppressed lead, .gap (len - lead - trail), .suppressed trail]

/-- The cells so far, the canonical index they reach, whether a slot was skipped
at all, and whether the last slot was not. -/
structure SlotScan where
  cells : List DisplayMembershipCell
  cursor : Nat
  ambiguous : Bool
  known : Bool

def SlotScan.visit (canonicalLen : Nat) (scan : SlotScan) (slot : DisplayProjectionSlot) : SlotScan :=
  if slot.canonicalIndex < scan.cursor ∨ slot.canonicalIndex ≥ canonicalLen then
    { scan with ambiguous := true, known := false }
  else
    let ends := if scan.known then slot.gapBefore else default
    { scan with
      cells := pushRun scan.cells (slot.canonicalIndex - scan.cursor) ends ++ [.slot slot.item]
      cursor := slot.canonicalIndex + 1
      known := true }

/-- The rope of the slots of a display, and whether a slot had no place in it. -/
def fromProjectionState (canonicalLen : Nat) (slots : List DisplayProjectionSlot) (gapAfter : GapEnds) :
    Option (DisplayMembershipRope × Bool) :=
  let scan := slots.foldl (SlotScan.visit canonicalLen) ⟨[], 0, false, true⟩
  let ends := if scan.known then gapAfter else default
  (fromCells (pushRun scan.cells (canonicalLen - scan.cursor) ends)).map
    (fun rope => (rope, scan.ambiguous))

/-- The rope that shows a window of the canonical items. -/
def fromCanonicalWindow (canonicalItems : List TimelineItem) (windowStart windowEnd : Nat) :
    Option DisplayMembershipRope :=
  let start := min windowStart canonicalItems.length
  let stop := max (min windowEnd canonicalItems.length) start
  fromCells ([.gap start] ++ ((canonicalItems.take stop).drop start).map .slot ++
    [.gap (canonicalItems.length - stop)])

/-! ## Edits -/

/-- Insert an item, shown or hidden as asked or else as its neighbours are. -/
def insert (index : Nat) (item : TimelineItem) (include? : Option Bool) :
    Option (DisplayMembershipRope × Bool) :=
  if index > rope.canonicalLen then some (rope, false)
  else
    match split rope.nextSeed rope.root index with
    | none => none
    | some (left, right, seed) =>
      let before := (membershipSummary left).lastOpaque
      let after := (membershipSummary right).firstOpaque
      let shown := include?.getD
        (before = some true || after = some true || (before.isNone && after.isNone))
      let cell := if shown then .slot item else DisplayMembershipCell.hidden item
      let (priority, seed) := nextPriority seed
      some (⟨merge (merge left (Treap.leaf membershipKind cell priority)) right, seed⟩, true)

/-- The parts around one canonical index: what is left and right of it, and the
node in the middle. -/
structure SplitOne where
  left : DisplayMembershipLink
  cell : DisplayMembershipCell
  middleLeft : DisplayMembershipLink
  middleRight : DisplayMembershipLink
  priority : UInt64
  right : DisplayMembershipLink

/-- Put the parts together again around a new cell. -/
def SplitOne.rejoin (parts : SplitOne) (cell : DisplayMembershipCell) : DisplayMembershipLink :=
  merge (merge parts.left
    (Treap.refreshed membershipKind cell parts.middleLeft parts.middleRight parts.priority)) parts.right

/-- Split around one canonical index, with what stays in the rope meanwhile.  Past
the end nothing is split; a middle part that is not one unit is lost. -/
def splitOne (index : Nat) : Option (DisplayMembershipRope × Option SplitOne) :=
  if index ≥ rope.canonicalLen then some (rope, none)
  else
    match split rope.nextSeed rope.root index with
    | none => none
    | some (left, tail, seed) =>
      match split seed tail 1 with
      | none => none
      | some (.nil, _, seed) => some (⟨.nil, seed⟩, none)
      | some (.node cell middleLeft middleRight priority summary, right, seed) =>
        some (⟨.nil, seed⟩,
          if summary.canonicalLen = 1 then
            some ⟨left, cell, middleLeft, middleRight, priority, right⟩
          else none)

/-- Replace an item.  A hidden cell follows its replacement. -/
def set (index : Nat) (item : TimelineItem) (expectedRenderId : String) :
    Option (DisplayMembershipRope × Bool) :=
  match rope.splitOne index with
  | none => none
  | some (rope, none) => some (rope, false)
  | some (rope, some parts) =>
    match parts.cell with
    | .slot oldItem =>
      some (⟨parts.rejoin (.slot item), rope.nextSeed⟩,
        timelineItemRenderId oldItem = expectedRenderId)
    | _ => some (⟨parts.rejoin (.hidden item), rope.nextSeed⟩, true)

def remove (index : Nat) (expectedRenderId : String) : Option (DisplayMembershipRope × Bool) :=
  match rope.splitOne index with
  | none => none
  | some (rope, none) => some (rope, false)
  | some (rope, some parts) =>
    some (⟨merge parts.left parts.right, rope.nextSeed⟩,
      match parts.cell with
      | .slot oldItem => timelineItemRenderId oldItem = expectedRenderId
      | _ => true)

def truncate (length : Nat) : Option DisplayMembershipRope :=
  match split rope.nextSeed rope.root (min length rope.canonicalLen) with
  | none => none
  | some (left, _, seed) => some ⟨left, seed⟩

def clear : DisplayMembershipRope := { rope with root := .nil }

/-! ## The bound at the live edge -/

/-- Hide a slot while slots or rows are in excess. -/
def hideCell (remaining : Nat × Nat) : DisplayMembershipCell -> DisplayMembershipCell × (Nat × Nat)
  | .slot item =>
    if remaining.1 > 0 ∨ remaining.2 > 0 then
      (.hidden item,
        (remaining.1 - 1, remaining.2 - (DisplayMembershipCell.slot item).renderableLen))
    else (.slot item, remaining)
  | cell => (cell, remaining)

/-- Hide slots from the front while slots or rows are in excess. -/
def hideFirstVisible : DisplayMembershipLink -> Nat × Nat -> DisplayMembershipLink × (Nat × Nat)
  | .nil, remaining => (.nil, remaining)
  | .node cell left right priority summary, remaining =>
    if (remaining.1 = 0 ∧ remaining.2 = 0) ∨ summary.visibleLen = 0 then
      (.node cell left right priority summary, remaining)
    else
      let (left, remaining) := hideFirstVisible left remaining
      let (cell, remaining) := hideCell remaining cell
      let (right, remaining) := hideFirstVisible right remaining
      (Treap.refreshed membershipKind cell left right priority, remaining)

/-- In-order walk over the visible replies: the canonical index so far, and the
replies with their thread roots. -/
def collectReplySlots : DisplayMembershipLink -> Nat × List (Nat × String) -> Nat × List (Nat × String)
  | .nil, found => found
  | .node cell left right _ summary, found =>
    -- Hidden runs hold no reply slot; they are skipped by weight.
    if summary.visibleLen = 0 then (found.1 + summary.canonicalLen, found.2)
    else
      let (index, replies) := collectReplySlots left found
      let found :=
        match cell with
        | .gap len => (index + len, replies)
        | .suppressed len => (index + len, replies)
        | .slot item =>
          match item.threadRoot with
          | some rootEventId => (index + 1, replies ++ [(index, rootEventId)])
          | none => (index + 1, replies)
      collectReplySlots right found

def hideAt (index : Nat) : Option DisplayMembershipRope :=
  match rope.splitOne index with
  | none => none
  | some (rope, none) => some rope
  | some (rope, some parts) =>
    match parts.cell with
    | .slot item => some ⟨parts.rejoin (.hidden item), rope.nextSeed⟩
    | cell => some ⟨parts.rejoin cell, rope.nextSeed⟩

/-- Keep only the newest visible reply of each thread root. -/
def retainNewestReplyPerRoot : Option DisplayMembershipRope :=
  let replies := (collectReplySlots rope.root (0, [])).2
  if replies.length < 2 then some rope
  else
    let newest : OrdMap String Nat := replies.zipIdx.foldl
      (fun newest ((_, rootEventId), ordinal) => newest.insert rootEventId ordinal) ∅
    let stale := replies.zipIdx.filterMap (fun ((canonicalIndex, rootEventId), ordinal) =>
      if newest[rootEventId]? ≠ some ordinal then some canonicalIndex else none)
    stale.foldlM hideAt rope

/-- The bound counts displayed rows; reply slots get an allowance of their own. -/
def trimToLiveEdge (maxItems : Option Nat) : Option DisplayMembershipRope :=
  match maxItems with
  | none => some rope
  | some maxItems =>
    match rope.retainNewestReplyPerRoot with
    | none => none
    | some rope =>
      let excessRows := rope.renderableVisibleLen - maxItems
      let excessSlots := rope.visibleLen - maxItems * 2
      some { rope with root := (hideFirstVisible rope.root (excessSlots, excessRows)).1 }

/-! ## The slots of a rope -/

/-- Without a trimmed cell the whole run is transparent. -/
def runEnds (lead trail : Nat) (trimmed : Bool) : GapEnds := ⟨lead, if trimmed then trail else 0⟩

/-- The slots so far, the canonical index, and the unrepresented run that is
open: its transparent ends and whether it holds a trimmed cell. -/
structure SlotCollection where
  slots : List DisplayProjectionSlot
  canonicalIndex : Nat
  lead : Nat
  trail : Nat
  trimmed : Bool

def SlotCollection.visit (state : SlotCollection) (cell : DisplayMembershipCell) : SlotCollection :=
  match cell with
  | .gap len =>
    { state with
      canonicalIndex := state.canonicalIndex + len
      trail := 0
      trimmed := state.trimmed || decide (len > 0) }
  | .suppressed len =>
    { state with
      canonicalIndex := state.canonicalIndex + len
      trail := state.trail + len
      lead := if state.trimmed then state.lead else state.lead + len }
  | .slot item =>
    { slots := state.slots ++
        [⟨state.canonicalIndex, item, runEnds state.lead state.trail state.trimmed⟩]
      canonicalIndex := state.canonicalIndex + 1
      lead := 0
      trail := 0
      trimmed := false }

/-- The slots of the rope, the run after the last one, and the canonical length. -/
def collectSlots : Option (List DisplayProjectionSlot × GapEnds × Nat) :=
  (Treap.traverse SlotCollection.visit rope.root.size ⟨[], 0, 0, 0, false⟩ rope.root []).map
    (fun state => (state.slots, runEnds state.lead state.trail state.trimmed, state.canonicalIndex))

end DisplayMembershipRope

end Koushi
