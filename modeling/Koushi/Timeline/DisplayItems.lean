import Koushi.Library.VectorDiff
import Koushi.Library.RowIndex
import Koushi.Timeline.SendCompletion

namespace Koushi

open Collections VectorDiff

/-!
# Display rows and the diffs between them

The timeline actor keeps the rows that the desktop shows.  After every change it
compares the rows before with the rows after and publishes a short diff program:
the rows around the change stay, and of the rows in between it keeps the longest
run with unchanged identities.  Before the program goes out it is replayed on the
rows before; a program that does not give the rows after is replaced by a reset.

A row is identified by the row id of its display metadata.  The body of an item
stands for the fields that are only carried along and compared.
-/

structure ThreadSummaryDto where
  replyCount : Nat
  unreadCount : Nat
  latestEventId : Option String
  latestSender : Option String
  latestSenderLabel : Option String
  latestBodyPreview : Option String
  latestTimestampMs : Option Nat
deriving DecidableEq, Repr

inductive TimelineDisplayKind where
  | event
  | threadRoot
  | threadRootPending
  | threadRootFailed (failureKind : OperationFailureKind)
deriving DecidableEq, Repr

structure TimelineDisplayMetadata where
  rowId : String
  kind : TimelineDisplayKind
  contentEventId : Option String
  activityEventId : Option String
  displayTimestampMs : Option Nat
deriving DecidableEq, Repr

structure TimelineItem where
  id : TimelineItemId
  body : Option String
  timestampMs : Option Nat
  threadRoot : Option String
  threadSummary : Option ThreadSummaryDto
  isHidden : Bool
  displayMetadata : Option TimelineDisplayMetadata
deriving DecidableEq, Repr

abbrev TimelineDiff := VectorDiff TimelineItem

/-- The id under which the desktop keeps an item. -/
def timelineItemDomId : TimelineItemId -> String
  | .event eventId => eventId
  | .transaction transactionId => "txn:" ++ transactionId
  | .synthetic syntheticId => "syn:" ++ syntheticId

/-- The id under which the core compares display rows. -/
def timelineItemRenderId (item : TimelineItem) : String :=
  match item.displayMetadata with
  | some metadata => metadata.rowId
  | none => timelineItemDomId item.id

/-! ## Building the diffs -/

variable (displayBefore displayAfter : List TimelineItem)

/-- The leading rows that do not change. -/
def prefixLen : Nat :=
  ((displayBefore.zip displayAfter).takeWhile (fun (before, after) => before = after)).length

/-- The trailing rows that do not change, not counting the leading ones. -/
def suffixLen (prefixLen : Nat) : Nat :=
  let commonLimit := min displayBefore.length displayAfter.length
  ((((displayBefore.drop prefixLen).reverse.zip (displayAfter.drop prefixLen).reverse).take
    (commonLimit - prefixLen)).takeWhile (fun (before, after) => before = after)).length

/-- The rows between the unchanged ones. -/
def displayMiddle (items : List TimelineItem) (prefixLen suffixLen : Nat) : List TimelineItem :=
  (items.take (items.length - suffixLen)).drop prefixLen

/-- Whether every row of the middle stays in place or is new to it. -/
def positionalSetsAreSafe (beforeMiddle afterMiddle : List TimelineItem) : Bool :=
  let beforeIds := beforeMiddle.map timelineItemRenderId
  (beforeMiddle.zip afterMiddle).all (fun (before, after) =>
    timelineItemRenderId before = timelineItemRenderId after ||
      !beforeIds.contains (timelineItemRenderId after))

/-- A run of rows with consecutive places before and after. -/
structure IdentityRun where
  beforeIndex : Nat
  afterIndex : Nat
  length : Nat
deriving DecidableEq, Repr

/-- The search for the longest run: the best one, the one that is open, and the
place before of the last row. -/
structure RunSearch where
  best : IdentityRun
  current : IdentityRun
  previousBeforeIndex : Option Nat
deriving DecidableEq, Repr

def RunSearch.start : RunSearch := ⟨⟨0, 0, 0⟩, ⟨0, 0, 0⟩, none⟩

/-- Extend the open run by the row at a place after, or start over. -/
def RunSearch.visit (beforeIndexById : OrdMap String Nat) (search : RunSearch) (afterIndex : Nat)
    (item : TimelineItem) : RunSearch :=
  match beforeIndexById[timelineItemRenderId item]? with
  | none => { search with previousBeforeIndex := none, current := ⟨0, 0, 0⟩ }
  | some beforeIndex =>
    let current :=
      if search.previousBeforeIndex.any (fun previous => previous + 1 = beforeIndex) then
        { search.current with length := search.current.length + 1 }
      else
        ⟨beforeIndex, afterIndex, 1⟩
    { best := if current.length > search.best.length then current else search.best
      current := current
      previousBeforeIndex := some beforeIndex }

def RunSearch.visitAll (beforeIndexById : OrdMap String Nat) :
    RunSearch -> Nat -> List TimelineItem -> RunSearch
  | search, _, [] => search
  | search, afterIndex, item :: rest =>
    (search.visit beforeIndexById afterIndex item).visitAll beforeIndexById (afterIndex + 1) rest

/-- The longest contiguous run of rows that keep their identity. -/
def longestIdentityRun (beforeMiddle afterMiddle : List TimelineItem) : IdentityRun :=
  let beforeIndexById := numberFrom ∅ 0 (beforeMiddle.map timelineItemRenderId)
  (RunSearch.start.visitAll beforeIndexById 0 afterMiddle).best

/-- The diffs that keep one run of the middle and rebuild what is around it. -/
def keepRunDiffs (prefixLen : Nat) (beforeMiddle afterMiddle : List TimelineItem) (run : IdentityRun) :
    List TimelineDiff :=
  let keptEnd := run.beforeIndex + run.length
  removes (beforeMiddle.length - keptEnd) (prefixLen + keptEnd) ++
    (removes run.beforeIndex prefixLen ++
      (inserts prefixLen (afterMiddle.take run.afterIndex) ++
        (inserts (prefixLen + run.afterIndex + run.length)
            (afterMiddle.drop (run.afterIndex + run.length)) ++
          sets (prefixLen + run.afterIndex)
            ((beforeMiddle.drop run.beforeIndex).take run.length)
            ((afterMiddle.drop run.afterIndex).take run.length))))

def buildDisplayProjectionDiffs : Option (List TimelineDiff) :=
  let uniqueAfter : OrdSet String := .ofList (displayAfter.map timelineItemRenderId)
  if uniqueAfter.size ≠ displayAfter.length then
    none
  else if displayAfter.isEmpty then
    some (if displayBefore.isEmpty then [] else [.clear])
  else
    let prefixLen := prefixLen displayBefore displayAfter
    let suffixLen := suffixLen displayBefore displayAfter prefixLen
    let beforeMiddle := displayMiddle displayBefore prefixLen suffixLen
    let afterMiddle := displayMiddle displayAfter prefixLen suffixLen
    if beforeMiddle.length ≠ afterMiddle.length then
      some (removes beforeMiddle.length prefixLen ++
        inserts prefixLen afterMiddle)
    else if positionalSetsAreSafe beforeMiddle afterMiddle then
      some (sets prefixLen beforeMiddle afterMiddle)
    else
      -- A positional set would update the owner of the identity and not move it.
      some (keepRunDiffs prefixLen beforeMiddle afterMiddle
        (longestIdentityRun beforeMiddle afterMiddle))

/-! ## Replaying the diffs -/

/-- The rows of a replay and the place of each identity. -/
structure DisplayReplay where
  items : List TimelineItem
  indexById : OrdMap String Nat

/-- Replace the rows and number them again. -/
def DisplayReplay.rebuild (items : List TimelineItem) : DisplayReplay :=
  ⟨items, numberFrom ∅ 0 (items.map timelineItemRenderId)⟩

/-- The front insertions that come next; `none` for an identity that is taken. -/
def takePushFronts (indexById : OrdMap String Nat) (seen : List String) (taken : List TimelineItem) :
    List TimelineDiff -> Option (List TimelineItem × List TimelineDiff)
  | .pushFront item :: rest =>
    let itemId := timelineItemRenderId item
    if indexById.contains itemId || seen.contains itemId then none
    else takePushFronts indexById (itemId :: seen) (taken ++ [item]) rest
  | diffs => some (taken, diffs)

/-- The insertions that come next at consecutive places. -/
def takeInserts (indexById : OrdMap String Nat) (start : Nat) (seen : List String)
    (inserted : List TimelineItem) : List TimelineDiff -> Option (List TimelineItem × List TimelineDiff)
  | .insert index item :: rest =>
    if index ≠ start + inserted.length then
      some (inserted, .insert index item :: rest)
    else
      let itemId := timelineItemRenderId item
      if indexById.contains itemId || seen.contains itemId then none
      else takeInserts indexById start (itemId :: seen) (inserted ++ [item]) rest
  | diffs => some (inserted, diffs)

/-- The appended rows that come next, each entered into the index at once. -/
def takePushBacks (replay : DisplayReplay) : List TimelineDiff -> Option (DisplayReplay × List TimelineDiff)
  | .pushBack item :: rest =>
    let itemId := timelineItemRenderId item
    if replay.indexById.contains itemId then none
    else
      takePushBacks ⟨replay.items ++ [item], replay.indexById.insert itemId replay.items.length⟩ rest
  | diffs => some (replay, diffs)

/-- How many removals at one place come next. -/
def countRemoves (start : Nat) : List TimelineDiff -> Nat
  | .remove index :: rest => if index = start then countRemoves start rest + 1 else 0
  | _ => 0

/-- Write a row where its identity stands, or else at the index. -/
def DisplayReplay.set (replay : DisplayReplay) (index : Nat) (item : TimelineItem) : DisplayReplay :=
  let itemId := timelineItemRenderId item
  let targetIndex := ((replay.indexById[itemId]?).filter (fun existing => existing ≠ index)).getD index
  let forgotten :=
    match replay.items[targetIndex]? with
    | some old =>
      let oldId := timelineItemRenderId old
      if replay.indexById[oldId]? = some targetIndex then replay.indexById.erase oldId
      else replay.indexById
    | none => replay.indexById
  ⟨replay.items.set targetIndex item, forgotten.insert itemId targetIndex⟩

/-- One group of diffs; `none` when the group is refused. -/
def DisplayReplay.group (replay : DisplayReplay) (diff : TimelineDiff) (rest : List TimelineDiff) :
    Option (DisplayReplay × List TimelineDiff) :=
  match diff with
  | .pushFront _ =>
    match takePushFronts replay.indexById [] [] (diff :: rest) with
    | none => none
    | some (taken, rest) => some (.rebuild (taken.reverse ++ replay.items), rest)
  | .pushBack _ => takePushBacks replay (diff :: rest)
  | .insert start _ =>
    if start > replay.items.length then none
    else
      match takeInserts replay.indexById start [] [] (diff :: rest) with
      | none => none
      | some (inserted, rest) =>
        some (.rebuild (replay.items.take start ++ inserted ++ replay.items.drop start), rest)
  | .set index item =>
    if index ≥ replay.items.length then none else some (replay.set index item, rest)
  | .remove start =>
    let count := countRemoves start (diff :: rest)
    if start ≥ replay.items.length ∨ count > replay.items.length - start then none
    else
      some (.rebuild (replay.items.take start ++ replay.items.drop (start + count)),
        (diff :: rest).drop count)
  | .truncate length =>
    if length > replay.items.length then none
    else some (.rebuild (replay.items.take length), rest)
  | .clear => some (⟨[], ∅⟩, rest)
  | .reset items => some (.rebuild (keepFirst timelineItemRenderId items []), rest)

/-- Replay the groups.  Every group takes at least one diff, so the number of
diffs is enough fuel. -/
def DisplayReplay.run : Nat -> DisplayReplay -> List TimelineDiff -> Option (List TimelineItem)
  | _, replay, [] => some replay.items
  | 0, _, _ :: _ => none
  | fuel + 1, replay, diff :: rest =>
    match replay.group diff rest with
    | none => none
    | some (next, remaining) => next.run fuel remaining

def validateDisplayProjectionDiffs (diffs : List TimelineDiff)
    (expectedAfter : List TimelineItem) : Bool :=
  (DisplayReplay.rebuild displayBefore).run diffs.length diffs = some expectedAfter

/-- The diffs to publish, and whether they are the reset. -/
def finalizeDisplayProjectionDiffs (translationAmbiguous : Bool) : List TimelineDiff × Bool :=
  let displayDiffs := buildDisplayProjectionDiffs displayBefore displayAfter
  let incrementallyValid := displayDiffs.any (fun diffs =>
    validateDisplayProjectionDiffs displayBefore diffs displayAfter)
  let usedResetFallback := translationAmbiguous || !incrementallyValid
  (if usedResetFallback then [.reset displayAfter] else displayDiffs.getD [], usedResetFallback)

end Koushi
