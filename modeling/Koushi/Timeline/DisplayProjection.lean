import Koushi.Timeline.DisplayMembership

namespace Koushi

open Collections DisplayMembershipRope

/-!
# The display projection

The display state owns the slots of the canonical timeline that the desktop
shows and the rows that are made from them.  A batch of SDK diffs is applied to
the canonical items and, through the membership rope, to the slots; then the rows
are projected again, with every thread root at its place, and the difference is
published.

`resetBounded` walks a hash set while it looks for the latest reply of a thread.
The order of that walk is a parameter, `hashOrder`.
-/

def ROOM_REPLAY_INITIAL_ITEMS_MAX : Nat := 120

def WINDOW_SLOTS : Nat := 240

def PAGE_ROWS : Nat := 60

inductive TimelineThreadRootOrder where
  | rootEvent
  | latestReply
deriving DecidableEq, Repr

structure AuthoritativeThreadAggregate where
  replyCount : Nat
  latestEventId : Option String
  latestSender : Option String
  latestSenderLabel : Option String
  latestBodyPreview : Option String
  latestTimestampMs : Option Nat
deriving DecidableEq, Repr

structure ThreadRootDisplayData where
  rootEventId : String
  unread : Nat
  activityEventId : String
  activityTimestampMs : Option Nat
  item : Option TimelineItem
  aggregate : AuthoritativeThreadAggregate
  pending : Bool
  failureKind : Option OperationFailureKind
deriving DecidableEq, Repr

/-- Of the observation only what the projection reads. -/
structure TimelineViewportObservation where
  firstVisibleEventId : Option String
  lastVisibleEventId : Option String
  atBottom : Bool
deriving DecidableEq, Repr

structure DisplayProjectionContext where
  roomWindow : Bool
  viewport : TimelineViewportObservation
  maxLiveEdgeItems : Option Nat
  includeAppend : Bool
  projectThreadRoots : Bool
  threadRootOrder : TimelineThreadRootOrder
  threadRoots : List ThreadRootDisplayData

structure DisplayProjectionState where
  slots : List DisplayProjectionSlot
  windowRevision : Nat
  canonicalLen : Nat
  gapAfter : GapEnds
  displayItems : List TimelineItem
  pendingItems : List TimelineItem
  suppressedTransactionIds : OrdSet String

/-! ## Rows -/

def decorateEventItem (item : TimelineItem) : TimelineItem :=
  let contentEventId :=
    match item.id with
    | .event eventId => some eventId
    | _ => none
  { item with
    displayMetadata := some
      { rowId := timelineItemDomId item.id
        kind := .event
        contentEventId := contentEventId
        activityEventId := contentEventId
        displayTimestampMs := item.timestampMs } }

def rootDisplayItem (root : ThreadRootDisplayData) (fallback : TimelineItem) (activityEventId : String)
    (displayTimestampMs : Option Nat) : TimelineItem :=
  { root.item.getD fallback with
    threadSummary := some
      { replyCount := root.aggregate.replyCount
        unreadCount := root.unread
        latestEventId := root.aggregate.latestEventId
        latestSender := root.aggregate.latestSender
        latestSenderLabel := root.aggregate.latestSenderLabel
        latestBodyPreview := root.aggregate.latestBodyPreview
        latestTimestampMs := root.aggregate.latestTimestampMs }
    displayMetadata := some
      { rowId := "thread-root:" ++ root.rootEventId
        kind :=
          if root.pending then .threadRootPending
          else match root.failureKind with
            | some failureKind => .threadRootFailed failureKind
            | none => .threadRoot
        contentEventId := some root.rootEventId
        activityEventId := some activityEventId
        displayTimestampMs := displayTimestampMs } }

/-- The row of a root whose event is not known. -/
def rootPlaceholderItem (root : ThreadRootDisplayData) : TimelineItem :=
  rootDisplayItem root
    { id := .synthetic ("thread-root-slot:" ++ root.rootEventId)
      body := none
      timestampMs := none
      threadRoot := none
      threadSummary := none
      isHidden := false
      displayMetadata := none }
    root.activityEventId root.activityTimestampMs

/-- Whether an item is a local echo that must not reappear. -/
def isSuppressedTransaction (suppressedTransactionIds : OrdSet String) (item : TimelineItem) : Bool :=
  match item.id with
  | .transaction transactionId => suppressedTransactionIds.contains transactionId
  | _ => false

/-- Rows with the row ids that were used so far. -/
structure RowCollection where
  rows : List TimelineItem
  seen : List String

/-- Add a row unless its row id was used. -/
def RowCollection.add (collection : RowCollection) (rowId : String) (row : TimelineItem) :
    RowCollection :=
  if collection.seen.contains rowId then collection
  else ⟨collection.rows ++ [row], rowId :: collection.seen⟩

/-- Accepted sends that no slot represents come last. -/
def appendPending (rows : List TimelineItem) (pendingItems : List TimelineItem) : List TimelineItem :=
  (pendingItems.foldl
    (fun (collection : RowCollection) item =>
      collection.add (timelineItemRenderId item) (decorateEventItem item))
    ⟨rows, rows.map timelineItemRenderId⟩).rows

/-- The canonical index at which each thread has its activity: the first reply in
the window, or the one that the root names. -/
def activitySlots (roots : OrdMap String ThreadRootDisplayData) (slots : List DisplayProjectionSlot) :
    OrdMap String Nat :=
  slots.foldl
    (fun activity slot =>
      match slot.item.id, slot.item.threadRoot with
      | .event eventId, some rootEventId =>
        let activity :=
          if activity.contains rootEventId then activity
          else activity.insert rootEventId slot.canonicalIndex
        if roots[rootEventId]?.any (fun root => root.activityEventId = eventId) then
          activity.insert rootEventId slot.canonicalIndex
        else activity
      | _, _ => activity)
    ∅

/-- Which row stands at which canonical index, which indices are suppressed, and
which roots have a row. -/
structure RootSchedule where
  rootAtIndex : OrdMap Nat TimelineItem
  suppressed : OrdSet Nat
  scheduledRoots : OrdSet String

variable (context : DisplayProjectionContext)

/-- Schedule the row of one slot. -/
def RootSchedule.visitSlot (roots : OrdMap String ThreadRootDisplayData) (activity : OrdMap String Nat)
    (schedule : RootSchedule) (slot : DisplayProjectionSlot) : RootSchedule :=
  let eventId :=
    match slot.item.id with
    | .event eventId => eventId
    | _ => ""
  if slot.item.threadRoot.isSome then schedule
  else
    match roots[eventId]? with
    | none =>
      { schedule with
        rootAtIndex := schedule.rootAtIndex.insert slot.canonicalIndex (decorateEventItem slot.item) }
    | some root =>
      let (displayIndex, activityEventId, displayTimestampMs) :=
        match context.threadRootOrder with
        | .rootEvent => (slot.canonicalIndex, eventId, slot.item.timestampMs)
        | .latestReply =>
          (activity[eventId]?.getD slot.canonicalIndex, root.activityEventId,
            root.activityTimestampMs.or slot.item.timestampMs)
      let item := rootDisplayItem root slot.item activityEventId displayTimestampMs
      let suppressed :=
        if displayIndex ≠ slot.canonicalIndex then schedule.suppressed.insert slot.canonicalIndex
        else schedule.suppressed
      { rootAtIndex := schedule.rootAtIndex.insert displayIndex item
        suppressed :=
          match activity[eventId]?, context.threadRootOrder with
          | some activityIndex, .latestReply => suppressed.insert activityIndex
          | _, _ => suppressed
        scheduledRoots := schedule.scheduledRoots.insert eventId }

/-- Schedule a root whose event is not in the window at its activity. -/
def RootSchedule.visitRoot (activity : OrdMap String Nat)
    (schedule : RootSchedule) (root : ThreadRootDisplayData) : RootSchedule :=
  if schedule.scheduledRoots.contains root.rootEventId ∨ context.threadRootOrder ≠ .latestReply then
    schedule
  else
    match activity[root.rootEventId]? with
    | none => schedule
    | some activityIndex =>
      let item :=
        match root.item with
        | none => rootPlaceholderItem root
        | some item =>
          rootDisplayItem root item root.activityEventId (root.activityTimestampMs.or item.timestampMs)
      { rootAtIndex := schedule.rootAtIndex.insert activityIndex item
        suppressed := schedule.suppressed.insert activityIndex
        scheduledRoots := schedule.scheduledRoots.insert root.rootEventId }

variable (state : DisplayProjectionState)

/-- The row of one slot, if it has one. -/
def projectSlot (suppressed : OrdSet Nat)
    (progress : RowCollection × OrdMap Nat TimelineItem) (slot : DisplayProjectionSlot) :
    RowCollection × OrdMap Nat TimelineItem :=
  if isSuppressedTransaction state.suppressedTransactionIds slot.item then progress
  else
    match progress.2[slot.canonicalIndex]? with
    | some item =>
      (progress.1.add (timelineItemRenderId item) item, progress.2.erase slot.canonicalIndex)
    | none =>
      if suppressed.contains slot.canonicalIndex then progress
      else if slot.item.threadRoot.isNone then
        let item := decorateEventItem slot.item
        (progress.1.add (timelineItemRenderId item) item, progress.2)
      else progress

def windowReachesLiveEnd (canonicalLen : Nat) : Bool :=
  canonicalLen = 0 || state.slots.getLast?.any (fun slot => slot.canonicalIndex + 1 = canonicalLen)

/-- Whether an activity outside the window falls into its time span, or after it
at the live end. -/
def belongsToWindow (timestamp : Option Nat) : Bool :=
  let reachesLiveEnd := windowReachesLiveEnd state state.canonicalLen
  let timestamps := state.slots.filterMap (fun slot => slot.item.timestampMs)
  match timestamp, timestamps.min?, timestamps.max? with
  | some timestamp, some first, some last =>
    decide (timestamp ≥ first) && (decide (timestamp ≤ last) || reachesLiveEnd)
  | _, _, _ => reachesLiveEnd

/-- A root without a row in the window, inserted by its display time. -/
def projectOffWindowRoot (context : DisplayProjectionContext)
    (scheduledRoots : OrdSet String) (collection : RowCollection) (root : ThreadRootDisplayData) :
    RowCollection :=
  if scheduledRoots.contains root.rootEventId then collection
  else
    match root.item with
    | none =>
      if belongsToWindow state root.activityTimestampMs then
        { collection with rows := collection.rows ++ [rootPlaceholderItem root] }
      else collection
    | some item =>
      let activityTimestampMs := root.activityTimestampMs.or item.timestampMs
      if !belongsToWindow state activityTimestampMs then collection
      else
        let (activityEventId, displayTimestampMs) :=
          match context.threadRootOrder with
          | .rootEvent => (root.rootEventId, item.timestampMs.or activityTimestampMs)
          | .latestReply => (root.activityEventId, activityTimestampMs)
        let projectedItem := rootDisplayItem root item activityEventId displayTimestampMs
        let rowId := timelineItemRenderId projectedItem
        if collection.seen.contains rowId then collection
        else
          let later (timestamp : Nat) (current : TimelineItem) : Bool :=
            (current.displayMetadata.bind (fun metadata => metadata.displayTimestampMs)).any
              (fun current => current > timestamp)
          let insertionIndex :=
            (displayTimestampMs.bind (fun timestamp =>
              collection.rows.findIdx? (later timestamp))).getD collection.rows.length
          ⟨collection.rows.insertIdx insertionIndex projectedItem, rowId :: collection.seen⟩

def projectDisplayItems (context : DisplayProjectionContext) : List TimelineItem :=
  if !context.projectThreadRoots then
    let rendered := (state.slots.filter
      (fun slot => !isSuppressedTransaction state.suppressedTransactionIds slot.item)).map
      (fun slot => decorateEventItem slot.item)
    appendPending rendered state.pendingItems
  else
    let roots : OrdMap String ThreadRootDisplayData := context.threadRoots.foldl
      (fun roots root => roots.insert root.rootEventId root) ∅
    let activity := activitySlots roots state.slots
    let schedule := state.slots.foldl (RootSchedule.visitSlot context roots activity) ⟨∅, ∅, ∅⟩
    let schedule := context.threadRoots.foldl (RootSchedule.visitRoot context activity) schedule
    let (collection, _) := state.slots.foldl (projectSlot state schedule.suppressed)
      (⟨[], []⟩, schedule.rootAtIndex)
    let collection := context.threadRoots.foldl
      (projectOffWindowRoot state context schedule.scheduledRoots) collection
    appendPending collection.rows (state.pendingItems.filter
      (fun item => !isSuppressedTransaction state.suppressedTransactionIds item))

/-! ## The bounded window -/

/-- The event that an item or a row stands for. -/
def displayEventId (item : TimelineItem) : Option String :=
  match item.displayMetadata with
  | some display => display.activityEventId
  | none =>
    match item.id with
    | .event eventId => some eventId
    | _ => none

namespace DisplayProjectionState

variable (canonical : List TimelineItem)

/-- The transparent ends of every unrepresented run, from the canonical items. -/
def refreshGapEnds : DisplayProjectionState :=
  let (slots, cursor) := state.slots.foldl
    (fun (slots, cursor) slot =>
      let start := min cursor canonical.length
      let stop := min (max slot.canonicalIndex start) canonical.length
      (slots ++ [{ slot with gapBefore := GapEnds.of ((canonical.take stop).drop start) }],
        slot.canonicalIndex + 1))
    (([] : List DisplayProjectionSlot), 0)
  { state with slots := slots, gapAfter := GapEnds.of (canonical.drop cursor) }

/-- The same for the two edge runs only. -/
def refreshEdgeGapEnds : DisplayProjectionState :=
  let slots :=
    match state.slots with
    | [] => []
    | first :: rest => { first with gapBefore := GapEnds.of (canonical.take first.canonicalIndex) } :: rest
  let start := (state.slots.getLast?.map (fun slot => slot.canonicalIndex + 1)).getD 0
  { state with slots := slots, gapAfter := GapEnds.of (canonical.drop start) }

def rebuildWindowItems (context : DisplayProjectionContext) : DisplayProjectionState :=
  { state with displayItems := projectDisplayItems state context }

/-- New slots for these canonical indices, with everything that follows from them. -/
def adoptSlots
    (context : DisplayProjectionContext) (slots : List DisplayProjectionSlot) : DisplayProjectionState :=
  let state := { state with slots := slots }.refreshGapEnds canonical
  { state with windowRevision := min (state.windowRevision + 1) U64_MAX }.rebuildWindowItems context

/-- The slots of the live window, collected from the end: the rows, one reply for
each thread, and the real end. -/
structure LiveWindow where
  slots : List DisplayProjectionSlot
  rows : Nat
  roots : List String
  full : Bool

def LiveWindow.visit (canonicalLen : Nat) (window : LiveWindow) (entry : TimelineItem × Nat) :
    LiveWindow :=
  if window.full then window
  else
    let (item, index) := entry
    let terminal := index + 1 = canonicalLen
    let row := itemOccupiesDisplayRow item
    let newRoot := item.threadRoot.filter (fun root =>
      decide (window.roots.length < ROOM_REPLAY_INITIAL_ITEMS_MAX - 1) && !window.roots.contains root)
    let slots :=
      if terminal ∨ row ∨ newRoot.isSome then ⟨index, item, default⟩ :: window.slots else window.slots
    let rows := if row then window.rows + 1 else window.rows
    { slots := slots
      rows := rows
      roots := newRoot.toList ++ window.roots
      full := rows = ROOM_REPLAY_INITIAL_ITEMS_MAX || slots.length = WINDOW_SLOTS }

def returnToLiveWindow (context : DisplayProjectionContext) : DisplayProjectionState :=
  let window := canonical.zipIdx.reverse.foldl (LiveWindow.visit canonical.length) ⟨[], 0, [], false⟩
  { state with canonicalLen := canonical.length }.adoptSlots canonical context window.slots

/-- Add an index while there is room. -/
def insertBounded (indices : OrdSet Nat) (index : Nat) : OrdSet Nat :=
  if indices.size = WINDOW_SLOTS then indices else indices.insert index

/-- The rows from one index on, while there is room. -/
def insertRows (indices : OrdSet Nat) (places : List Nat) : OrdSet Nat :=
  places.foldl
    (fun indices index =>
      if canonical[index]?.any itemOccupiesDisplayRow then insertBounded indices index else indices)
    indices

/-- Move a thread's reply to a later one, unless the earlier one has to stay. -/
def moveReply (first last : Nat)
    (progress : OrdSet Nat × OrdMap String Nat) (index : Nat) : OrdSet Nat × OrdMap String Nat :=
  match canonical[index]?.bind (fun item => item.threadRoot) with
  | none => progress
  | some root =>
    let indices :=
      match progress.2[root]? with
      | some previous =>
        if previous ≠ first ∧ previous ≠ last ∧ previous + 1 ≠ canonical.length then
          progress.1.erase previous
        else progress.1
      | none => progress.1
    if indices.size < WINDOW_SLOTS then (indices.insert index, progress.2.insert root index)
    else (indices, progress.2)

/-- Rows before the first index, the nearest ones first, up to a page. -/
def insertLookbehind (progress : OrdSet Nat × Nat) (index : Nat) : OrdSet Nat × Nat :=
  let (indices, lookbehind) := progress
  if indices.size = WINDOW_SLOTS ∨ lookbehind = PAGE_ROWS then progress
  else if canonical[index]?.any itemOccupiesDisplayRow && !indices.contains index then
    (indices.insert index, lookbehind + 1)
  else progress

/-- The window for a replacement whose slots do not stand where they stood. -/
def resetIndices (hashOrder : List Nat -> List Nat) (state : DisplayProjectionState)
    (canonical : List TimelineItem) (context : DisplayProjectionContext) : Option (OrdSet Nat) :=
  let represented := state.slots.map (fun slot => slot.item.id)
  let retained := ((List.range canonical.length).filter (fun index =>
    canonical[index]?.any (fun item => represented.contains item.id))).take WINDOW_SLOTS
  let endpoint (activity : Option String) : Option Nat :=
    activity.bind (fun activity =>
      (canonical.findIdx? (fun item => displayEventId item = some activity)).or
        ((state.displayItems.find? (fun item => displayEventId item = some activity)).bind
          (fun row => canonical.findIdx? (fun item => item.id = row.id))))
  let first := endpoint context.viewport.firstVisibleEventId
  let last := endpoint context.viewport.lastVisibleEventId
  match (first.or last).or retained.head? with
  | none => none
  | some anchor =>
    let firstIndex := first.getD anchor
    let lastIndex := last.getD anchor
    let first := min firstIndex lastIndex
    let last := max firstIndex lastIndex
    let span := List.range' first (min (last + 1) canonical.length - first)
    let indices : OrdSet Nat := (∅ : OrdSet Nat).insert first |>.insert last
    let indices :=
      match retained.getLast? with
      | some index => if index + 1 = canonical.length then indices.insert index else indices
      | none => indices
    let indices := insertRows canonical indices span
    let indices := retained.foldl
      (fun indices index =>
        if canonical[index]?.any (fun item => item.threadRoot.isSome) then insertBounded indices index
        else indices)
      indices
    let latestReplies : OrdMap String Nat := (hashOrder indices.toList).foldl
      (fun latest index =>
        match canonical[index]?.bind (fun item => item.threadRoot) with
        | some root => latest.insert root index
        | none => latest)
      ∅
    let (indices, _) := span.foldl (moveReply canonical first last) (indices, latestReplies)
    let (indices, _) := (List.range first).reverse.foldl (insertLookbehind canonical) (indices, 0)
    some (insertRows canonical indices
      (List.range' (last + 1) (canonical.length - (last + 1))))

/-- Reconcile a replacement snapshot. -/
def resetBounded (hashOrder : List Nat -> List Nat) (state : DisplayProjectionState)
    (canonical : List TimelineItem) (context : DisplayProjectionContext) : DisplayProjectionState :=
  let state := { state with canonicalLen := canonical.length }
  if context.viewport.atBottom ∨ canonical.isEmpty then state.returnToLiveWindow canonical context
  else
    let samePositions := !state.slots.isEmpty && decide (state.slots.length ≤ WINDOW_SLOTS) &&
      state.slots.all (fun slot => canonical[slot.canonicalIndex]?.any (fun item => item.id = slot.item.id))
    let start := (state.slots.head?.map (fun slot => slot.canonicalIndex)).getD 0
    let stop := (state.slots.getLast?.map (fun slot => slot.canonicalIndex + 1)).getD 0
    let newlyVisibleOwner := (List.range' start (min stop canonical.length - start)).any (fun index =>
      canonical[index]?.any itemOccupiesDisplayRow &&
        !state.slots.any (fun slot => slot.canonicalIndex = index))
    if samePositions && !newlyVisibleOwner then
      state.adoptSlots canonical context (state.slots.map (fun slot =>
        { slot with item := canonical[slot.canonicalIndex]?.getD slot.item }))
    else
      match resetIndices hashOrder state canonical context with
      | none => state.returnToLiveWindow canonical context
      | some indices =>
        state.adoptSlots canonical context (indices.toList.filterMap (fun index =>
          canonical[index]?.map (fun item => ⟨index, item, default⟩)))

/-- The slots that an observed viewport spans. -/
def observedSlots (observation : TimelineViewportObservation) : Option (Nat × Nat) :=
  let slotForRow (row : TimelineItem) : Option Nat :=
    ((displayEventId row).bind (fun activity =>
      state.slots.findIdx? (fun slot => displayEventId slot.item = some activity))).or
      (state.slots.findIdx? (fun slot => slot.item.id = row.id))
  let endpoint (activity : String) (preferNext : Bool) : Option Nat :=
    match state.displayItems.findIdx?
        (fun row => !row.isHidden && displayEventId row = some activity) with
    | none => none
    | some position =>
      let own := state.displayItems[position]?.bind slotForRow
      let next := ((state.displayItems.drop (position + 1)).filter (fun row => !row.isHidden)).findSome?
        slotForRow
      let previous := ((state.displayItems.take position).reverse.filter
        (fun row => !row.isHidden)).findSome? slotForRow
      if preferNext then
        ((own.or next).or previous).or (if state.slots.isEmpty then none else some 0)
      else
        ((own.or previous).or next).or
          (if state.slots.isEmpty then none else some (state.slots.length - 1))
  match observation.firstVisibleEventId.bind (endpoint · true) with
  | none => none
  | some first =>
    match observation.lastVisibleEventId.bind (endpoint · false) with
    | none => none
    | some last =>
      if max first last - min first last < WINDOW_SLOTS then some (min first last, max first last)
      else none

/-- Keep at most a window of slots, around what the viewport shows. -/
def trimSlots (context : DisplayProjectionContext) (keepOlder : Bool) : DisplayProjectionState :=
  if state.slots.length ≤ WINDOW_SLOTS then state
  else
    let len := state.slots.length
    let start :=
      match state.observedSlots context.viewport with
      | some (first, last) =>
        if keepOlder then last + 1 - WINDOW_SLOTS else min first (len - WINDOW_SLOTS)
      | none => if keepOlder then 0 else len - WINDOW_SLOTS
    { state with slots := (state.slots.take (start + WINDOW_SLOTS)).drop start }

def boundAfterBatch (context : DisplayProjectionContext) : DisplayProjectionState :=
  if !context.roomWindow ∨ state.slots.length ≤ WINDOW_SLOTS then state
  else
    let state := (state.trimSlots context (!context.viewport.atBottom)).refreshEdgeGapEnds canonical
    { state with windowRevision := (state.windowRevision + 1) % (U64_MAX + 1) }.rebuildWindowItems context

end DisplayProjectionState

/-! ## Batches -/

/-- The first canonical index of the live-edge window, counted in rows. -/
def liveEdgeWindowStart (items : List TimelineItem) (maxItems : Nat) : Nat :=
  let rec scan : List (TimelineItem × Nat) -> Nat -> Nat
    | [], _ => 0
    | (item, index) :: earlier, rows =>
      if itemOccupiesDisplayRow item then
        if rows = maxItems then index + 1 else scan earlier (rows + 1)
      else scan earlier rows
  scan items.zipIdx.reverse 0

def flushPendingCanonicalPushFronts (canonicalItems pendingPushFronts : List TimelineItem) :
    List TimelineItem :=
  pendingPushFronts.reverse ++ canonicalItems

/-- What a batch carries from one diff to the next. -/
structure BatchProgress where
  canonicalItems : List TimelineItem
  displayState : DisplayProjectionState
  membership : DisplayMembershipRope
  translationAmbiguous : Bool
  pendingPushFronts : List TimelineItem

namespace BatchProgress

/-- An edit of the rope: its result, and ambiguity when the edit was not valid. -/
def withMembership (progress : BatchProgress) (edited : Option (DisplayMembershipRope × Bool)) :
    Option BatchProgress :=
  match edited with
  | none => none
  | some (membership, valid) =>
    some { progress with
      membership := membership
      translationAmbiguous := progress.translationAmbiguous || !valid }

/-- The bound at the live edge, after every diff that was not skipped. -/
def trimmed (progress : BatchProgress) : Option BatchProgress :=
  match progress.membership.trimToLiveEdge context.maxLiveEdgeItems with
  | none => none
  | some membership => some { progress with membership := membership }

/-- A replacement of everything. -/
def resetDiff (hashOrder : List Nat -> List Nat) (context : DisplayProjectionContext)
    (progress : BatchProgress) (items : List TimelineItem) : Option BatchProgress :=
  let progress := { progress with canonicalItems := items }
  if context.roomWindow then
    let displayState := progress.displayState.resetBounded hashOrder items context
    match fromProjectionState items.length displayState.slots
        displayState.gapAfter with
    | none => none
    | some (rebuilt, ambiguous) =>
      some { progress with
        displayState := { displayState with slots := [] }
        membership := rebuilt
        translationAmbiguous := progress.translationAmbiguous || ambiguous }
  else
    let start := (context.maxLiveEdgeItems.map (liveEdgeWindowStart items)).getD 0
    match fromCanonicalWindow items start items.length with
    | none => none
    | some membership => some { progress with membership := membership }

/-- One SDK diff.  Front insertions wait until another diff comes. -/
def step (hashOrder : List Nat -> List Nat) (context : DisplayProjectionContext)
    (progress : BatchProgress) (diff : TimelineDiff) : Option BatchProgress :=
  let ambiguous (progress : BatchProgress) : BatchProgress :=
    { progress with translationAmbiguous := true }
  match diff with
  | .pushFront item =>
    ({ progress with pendingPushFronts := progress.pendingPushFronts ++ [item] }.withMembership
      (progress.membership.insert 0 item none)).bind (trimmed context)
  | diff =>
    let canonicalItems := flushPendingCanonicalPushFronts progress.canonicalItems
      progress.pendingPushFronts
    let progress := { progress with canonicalItems := canonicalItems, pendingPushFronts := [] }
    match diff with
    | .pushFront _ => none
    | .pushBack item =>
      ({ progress with canonicalItems := canonicalItems ++ [item] }.withMembership
        (progress.membership.insert canonicalItems.length item (some context.includeAppend))).bind
        (trimmed context)
    | .insert index item =>
      let oldLen := canonicalItems.length
      let canonicalIndex := min index oldLen
      let progress := if index > oldLen then ambiguous progress else progress
      ({ progress with canonicalItems := canonicalItems.insertIdx canonicalIndex item }.withMembership
        (progress.membership.insert canonicalIndex item none)).bind (trimmed context)
    | .set index item =>
      match canonicalItems[index]? with
      | none => some (ambiguous progress)
      | some oldItem =>
        ({ progress with canonicalItems := canonicalItems.set index item }.withMembership
          (progress.membership.set index item (timelineItemRenderId oldItem))).bind
          (trimmed context)
    | .remove index =>
      match canonicalItems[index]? with
      | none => some (ambiguous progress)
      | some oldItem =>
        ({ progress with canonicalItems := canonicalItems.eraseIdx index }.withMembership
          (progress.membership.remove index (timelineItemRenderId oldItem))).bind
          (trimmed context)
    | .truncate length =>
      let progress := if length > canonicalItems.length then ambiguous progress else progress
      ({ progress with canonicalItems := canonicalItems.take length }.withMembership
        ((progress.membership.truncate length).map (fun rope => (rope, true)))).bind
        (trimmed context)
    | .clear =>
      { progress with canonicalItems := [], membership := progress.membership.clear }.trimmed context
    | .reset items => (progress.resetDiff hashOrder context items).bind (trimmed context)

end BatchProgress

structure DisplayProjectionBatch where
  displayAfter : List TimelineItem
  displayDiffs : List TimelineDiff
  usedResetFallback : Bool

/-- The plain application, without a display. -/
def applyTimelineDiffsToItems (items : List TimelineItem) (diffs : List TimelineDiff) :
    List TimelineItem :=
  VectorDiff.applyAll items diffs

/-- Apply a batch of SDK diffs: the canonical items, the display state, and what is
published. -/
def projectSdkBatch (hashOrder : List Nat -> List Nat) (canonicalItems : List TimelineItem)
    (displayState : DisplayProjectionState) (canonicalDiffs : List TimelineDiff)
    (context : DisplayProjectionContext) :
    Option (List TimelineItem × DisplayProjectionState × DisplayProjectionBatch) :=
  let displayBefore := displayState.displayItems
  let displayState :=
    if context.roomWindow && !canonicalDiffs.isEmpty then
      { displayState with windowRevision := min (displayState.windowRevision + 1) U64_MAX }
    else displayState
  match fromProjectionState canonicalItems.length displayState.slots
      displayState.gapAfter with
  | none => none
  | some (membership, ambiguous) =>
    let start : BatchProgress :=
      ⟨canonicalItems, { displayState with slots := [] }, membership, ambiguous, []⟩
    match canonicalDiffs.foldlM (BatchProgress.step hashOrder context) start with
    | none => none
    | some progress =>
      let canonicalItems := flushPendingCanonicalPushFronts progress.canonicalItems
        progress.pendingPushFronts
      let translationAmbiguous := progress.translationAmbiguous ||
        decide (progress.membership.canonicalLen ≠ canonicalItems.length)
      match progress.membership.collectSlots with
      | none => none
      | some (slots, gapAfter, canonicalLen) =>
        let displayState := ({ progress.displayState with
          slots := slots, gapAfter := gapAfter, canonicalLen := canonicalLen }.rebuildWindowItems
          context).boundAfterBatch canonicalItems context
        let displayAfter := displayState.displayItems
        let (displayDiffs, usedResetFallback) :=
          finalizeDisplayProjectionDiffs displayBefore displayAfter translationAmbiguous
        some (canonicalItems, displayState, ⟨displayAfter, displayDiffs, usedResetFallback⟩)

end Koushi
