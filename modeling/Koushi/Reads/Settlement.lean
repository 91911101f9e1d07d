import Koushi.Library.Run
import Koushi.Reads.Persistence

namespace Koushi.Reads

open Collections ReadStateEngine Machine List.Subset List Function

/-!
# Waiters are settled once, and not before their target is reached

A log keeps, beside the engine, who was attached with which target, who was given back and
which targets were put forward.  A waiter that was attached is attached still or was given
back, once for every time it was attached.

Convergence is decided by the event: an operation that succeeded, or a confirmation, stands
for the desired target as soon as it names the same event, whatever evidence it carries.  So
a waiter may converge by a confirmation of lower rank (`converged_by_lower_rank`), but only
if the event itself was put forward with a rank that reaches the waiter's own.
-/

structure ReadLog where
  engine : ReadStateEngine
  /-- Newest first. -/
  attached : List (ReadStateKey × ReadWaiterId × ReadTarget) := []
  returned : List (ReadStateKey × ReadWaiterId) := []
  asked : List (ReadStateKey × ReadTarget) := []

namespace ReadLog

def call (log : ReadLog) (call : ReadCall) : ReadLog :=
  let reply := (log.engine.call call).2
  { engine := (log.engine.call call).1
    attached := (attachedBy call reply).map (fun entry => (call.key, entry)) ++ log.attached
    returned := reply.returned.map (fun waiter => (call.key, waiter)) ++ log.returned
    asked := call.target.toList.map (fun target => (call.key, target)) ++ log.asked }

@[simp] theorem engine_call (log : ReadLog) (call : ReadCall) :
    (log.call call).engine = (log.engine.call call).1 := rfl

/-- How often a waiter was attached to a key. -/
def attachments (log : ReadLog) (key : ReadStateKey) (waiter : ReadWaiterId) : Nat :=
  log.attached.countP (fun entry => entry.1 = key ∧ entry.2.1 = waiter)

/-- How often a waiter was settled or retired at a key. -/
def returns (log : ReadLog) (key : ReadStateKey) (waiter : ReadWaiterId) : Nat :=
  log.returned.countP (fun entry => entry.1 = key ∧ entry.2 = waiter)

/-- The target that a waiter was last attached with. -/
def own (log : ReadLog) (key : ReadStateKey) (waiter : ReadWaiterId) : Option ReadTarget :=
  (log.attached.find? (fun entry => entry.1 = key ∧ entry.2.1 = waiter)).map (·.2.2)

end ReadLog

/-! ## Accounting -/

section Accounting

variable {call : ReadCall} {reply : ReadReply} {desired desired' : Option ReadCandidate}
  {active active' : Option ActiveReadOperation}

/-- What is attached before or by a call is given back by it or attached after it. -/
theorem Move.balance (moves : Move call reply desired active desired' active') (waiter : ReadWaiterId) :
    (attachedBy call reply).countP (fun entry => entry.1 = waiter) + (waitersOf desired).count waiter =
      reply.returned.count waiter + (waitersOf desired').count waiter := by
  cases moves with
  | stay _ _ nobody none | place _ _ _ _ _ nobody none | start _ _ nobody none | release _ _ nobody none =>
    rw [nobody, none]
    rfl
  | desire _ _ target asked fresh room none =>
    rw [none, waitersOf, count_append, count_nil, Nat.zero_add, Nat.add_comm, List.count, countP_map]
    rfl
  | succeed _ _ _ _ nobody _ all | fail _ _ _ _ nobody _ all | confirm _ _ _ _ _ _ nobody _ all
  | retire _ _ nobody _ all =>
    rw [nobody, all, Nat.add_comm]
    rfl

/-- No waiter is attached twice, and no more of them than the limit allows. -/
def Roomy (waiters : List ReadWaiterId) : Prop :=
  waiters.Nodup ∧ waiters.length ≤ READ_STATE_WAITER_LIMIT

theorem roomy_nil : Roomy [] := ⟨nodup_nil, Nat.zero_le _⟩

theorem Move.roomy (moves : Move call reply desired active desired' active')
    (before : Roomy (waitersOf desired)) : Roomy (waitersOf desired') := by
  cases moves with
  | stay | place | start | release => exact before
  | desire _ _ target asked fresh room none =>
    rcases attachedBy_cases call reply with nobody | ⟨waiter, own, attached, -⟩
    · simpa [waitersOf, nobody] using before
    · rw [attached] at fresh room ⊢
      have apart := fresh (waiter, own) mem_cons_self
      have space := room (cons_ne_nil _ [])
      constructor
      · simpa [waitersOf, nodup_append] using ⟨before.1, fun other member equal => apart (equal ▸ member)⟩
      · simpa [waitersOf] using space
  | succeed | fail | confirm | retire => exact roomy_nil

end Accounting

/-- What holds of the engine and of the accounts of every log. -/
structure ReadLog.Balanced (log : ReadLog) : Prop where
  size : log.engine.keys.size ≤ READ_STATE_OUTBOX_ENTRY_LIMIT
  useful : ∀ (key : ReadStateKey) (state : ReadKeyState), log.engine.keys[key]? = some state ->
    state.desired.isSome ∨ state.active.isSome
  roomy : ∀ key, Roomy (log.engine.waiters key)
  accounts : ∀ key waiter,
    log.attachments key waiter = log.returns key waiter + (log.engine.waiters key).count waiter

namespace ReadLog

theorem size_of_writes {engine : ReadStateEngine} {key : ReadStateKey} {keys : OrdMap ReadStateKey ReadKeyState}
    (writes : engine.Writes key keys) (small : engine.keys.size ≤ READ_STATE_OUTBOX_ENTRY_LIMIT) :
    keys.size ≤ READ_STATE_OUTBOX_ENTRY_LIMIT := by
  cases writes with
  | same => exact small
  | stored state room useful =>
    rw [Std.ExtTreeMap.size_insert]
    split
    · exact small
    · next absent => exact Nat.lt_of_not_le (fun large => room ⟨absent, large⟩)
  | removed => exact le_trans Std.ExtTreeMap.size_erase_le small

theorem useful_of_writes {engine : ReadStateEngine} {key : ReadStateKey}
    {keys : OrdMap ReadStateKey ReadKeyState} (writes : engine.Writes key keys)
    (before : ∀ (key : ReadStateKey) (state : ReadKeyState), engine.keys[key]? = some state ->
      state.desired.isSome ∨ state.active.isSome)
    {other : ReadStateKey} {state : ReadKeyState} (found : keys[other]? = some state) :
    state.desired.isSome ∨ state.active.isSome := by
  cases writes with
  | same => exact before other state found
  | stored written room useful =>
    rcases OrdMap.getElem?_insert_cases found with ⟨_, rfl⟩ | ⟨_, found⟩
    · exact useful
    · exact before other state found
  | removed => exact before other state (OrdMap.getElem?_erase_cases found).2

theorem attachments_call (log : ReadLog) (call : ReadCall) (key : ReadStateKey) (waiter : ReadWaiterId) :
    (log.call call).attachments key waiter =
      (if call.key = key then (attachedBy call (log.engine.call call).2).countP (fun entry => entry.1 = waiter)
        else 0) + log.attachments key waiter := by
  unfold attachments
  rw [ReadLog.call, countP_append, countP_map]
  congr 1
  split
  · next same => simp [comp_def, same]
  · next different => simp [comp_def, different]

theorem returns_call (log : ReadLog) (call : ReadCall) (key : ReadStateKey) (waiter : ReadWaiterId) :
    (log.call call).returns key waiter =
      (if call.key = key then (log.engine.call call).2.returned.count waiter else 0) +
        log.returns key waiter := by
  unfold returns
  rw [ReadLog.call, countP_append, countP_map]
  congr 1
  split
  · next same => simp [comp_def, same, List.count, BEq.beq]
  · next different => simp [comp_def, different]

theorem Balanced.call {log : ReadLog} (balanced : log.Balanced) (call : ReadCall) :
    (log.call call).Balanced := by
  have step := log.engine.step_call call
  refine ⟨size_of_writes step.writes balanced.size, ?_, ?_, ?_⟩
  · intro key state found
    exact useful_of_writes step.writes balanced.useful found
  · intro key
    by_cases same : call.key = key
    · subst same
      exact step.moves.roomy (balanced.roomy call.key)
    · have kept := log.engine.desired_call_of_ne same
      simpa [waiters, kept] using balanced.roomy key
  · intro key waiter
    have before := balanced.accounts key waiter
    rw [attachments_call, returns_call]
    by_cases same : call.key = key
    · subst same
      have moved := step.moves.balance waiter
      simp only [if_true]
      unfold waiters at before ⊢
      rw [engine_call]
      omega
    · have kept := log.engine.desired_call_of_ne same
      simp only [same, if_false, Nat.zero_add]
      rw [before, engine_call, waiters, waiters, kept]

end ReadLog

/-! ## Ranks -/

theorem ReadReply.settlements_of_returned_nil {reply : ReadReply} (none : reply.returned = []) :
    reply.settlements = [] := by
  cases reply with
  | retirement | admission | observed | woken => rfl
  | completion | confirmation => exact map_eq_nil_iff.mp none

namespace ReadLog

/-- A target was put forward for a key, and stands at or below the target of each of the waiters. -/
def Reaches (log : ReadLog) (generation : Nat) (key : ReadStateKey) (target : ReadTarget)
    (waiters : List ReadWaiterId) : Prop :=
  (key, target) ∈ log.asked ∧ ∃ rank, target.At generation rank ∧
    ∀ waiter ∈ waiters, ∃ own rank', log.own key waiter = some own ∧ own.At generation rank' ∧ rank' ≤ rank

/-- The desired target of a key reaches the target of every waiter. -/
def Ranked (generation : Nat) (key : ReadStateKey) (log : ReadLog) : Prop :=
  ∀ candidate, log.engine.desired key = some candidate ->
    log.Reaches generation key candidate.target candidate.waiters

/-- Every target that a call puts forward for the key has evidence of the generation. -/
def Evidenced (generation : Nat) (key : ReadStateKey) (call : ReadCall) : Prop :=
  call.key = key -> ∀ target, call.target = some target -> ∃ rank, target.At generation rank

theorem mem_asked_call {log : ReadLog} {call : ReadCall} {entry : ReadStateKey × ReadTarget} :
    entry ∈ (log.call call).asked ↔ (call.key = entry.1 ∧ call.target = some entry.2) ∨ entry ∈ log.asked := by
  obtain ⟨key, target⟩ := entry
  simp only [ReadLog.call, mem_append, mem_map, Option.mem_toList, Prod.mk.injEq]
  constructor
  · rintro (⟨other, asked, same, rfl⟩ | before)
    · exact .inl ⟨same, asked⟩
    · exact .inr before
  · rintro (⟨same, asked⟩ | before)
    · exact .inl ⟨target, asked, same, rfl⟩
    · exact .inr before

/-- A call that does not attach the waiter to the key leaves its target as it was. -/
theorem own_call_of_unattached {log : ReadLog} {call : ReadCall} {key : ReadStateKey} {waiter : ReadWaiterId}
    (apart : call.key = key -> ∀ entry ∈ attachedBy call (log.engine.call call).2, entry.1 ≠ waiter) :
    (log.call call).own key waiter = log.own key waiter := by
  have skipped : ((attachedBy call (log.engine.call call).2).map (fun entry => (call.key, entry))).find?
      (fun entry => entry.1 = key ∧ entry.2.1 = waiter) = none := by
    rw [find?_eq_none]
    intro entry listed
    obtain ⟨inner, member, rfl⟩ := mem_map.mp listed
    simpa using fun same => apart same inner member
  rw [own, own, ReadLog.call, find?_append, skipped, Option.none_or]

theorem own_call_of_attached {log : ReadLog} {call : ReadCall} {waiter : ReadWaiterId} {target : ReadTarget}
    (attached : attachedBy call (log.engine.call call).2 = [(waiter, target)]) :
    (log.call call).own call.key waiter = some target := by
  simp [own, ReadLog.call, attached]

section Step

variable {generation : Nat} {key : ReadStateKey} {log : ReadLog} {call : ReadCall}

/-- The desired target may change as long as it was put forward and does not fall behind. -/
theorem Reaches.step {target target' : ReadTarget} {waiters waiters' : List ReadWaiterId}
    (reaches : log.Reaches generation key target waiters)
    (asked : (key, target') ∈ (log.call call).asked)
    (further : ∀ rank, target.At generation rank -> ∃ rank', target'.At generation rank' ∧ rank ≤ rank')
    (nobody : attachedBy call (log.engine.call call).2 = []) (fewer : waiters' ⊆ waiters) :
    (log.call call).Reaches generation key target' waiters' := by
  obtain ⟨-, rank, reached, covers⟩ := reaches
  obtain ⟨rank', now, ahead⟩ := further rank reached
  refine ⟨asked, rank', now, ?_⟩
  intro waiter member
  obtain ⟨own, rank'', owned, atOwn, within⟩ := covers waiter (fewer member)
  refine ⟨own, rank'', ?_, atOwn, within.trans ahead⟩
  rw [own_call_of_unattached, owned]
  intro _ entry listed
  rw [nobody] at listed
  cases listed

/-- A call that attaches nobody keeps what a target reaches. -/
theorem Reaches.step_of_same {target : ReadTarget} {waiters waiters' : List ReadWaiterId}
    (reaches : log.Reaches generation key target waiters)
    (nobody : attachedBy call (log.engine.call call).2 = []) (fewer : waiters' ⊆ waiters) :
    (log.call call).Reaches generation key target waiters' :=
  reaches.step (mem_asked_call.mpr (.inr reaches.1)) (fun rank reached => ⟨rank, reached, le_refl rank⟩)
    nobody fewer

/-- A target is put forward: it becomes the desired one if it is further down. -/
theorem Ranked.desire (ranked : log.Ranked generation call.key) (evidenced : Evidenced generation call.key call)
    {target : ReadTarget} (asked : call.target = some target)
    (fresh : ∀ entry ∈ attachedBy call (log.engine.call call).2, entry.1 ∉ log.engine.waiters call.key) :
    (log.call call).Reaches generation call.key (desiredTarget (log.engine.desired call.key) target)
      (waitersOf (log.engine.desired call.key) ++ (attachedBy call (log.engine.call call).2).map (·.1)) := by
  obtain ⟨rank, atTarget⟩ := evidenced rfl target asked
  -- the waiter that arrives is attached with this very target
  have arrives : ∀ waiter ∈ (attachedBy call (log.engine.call call).2).map (·.1),
      (log.call call).own call.key waiter = some target := by
    intro waiter member
    rcases attachedBy_cases call (log.engine.call call).2 with nobody | ⟨own, target', attached, put⟩
    · rw [nobody] at member
      cases member
    · cases put.symm.trans asked
      rw [attached] at member
      cases mem_singleton.mp member
      exact own_call_of_attached attached
  have stays : ∀ waiter ∈ log.engine.waiters call.key,
      (log.call call).own call.key waiter = log.own call.key waiter := by
    intro waiter member
    apply own_call_of_unattached
    rintro _ entry listed rfl
    exact fresh entry listed member
  cases wanted : log.engine.desired call.key with
  | none =>
    refine ⟨mem_asked_call.mpr (.inl ⟨rfl, asked⟩), rank, atTarget, ?_⟩
    intro waiter member
    exact ⟨target, rank, arrives waiter (by simpa [waitersOf] using member), atTarget, le_refl rank⟩
  | some candidate =>
    obtain ⟨known, rank', atKnown, covers⟩ := ranked candidate wanted
    refine ⟨?_, max rank' rank, desiredTarget_at atKnown atTarget, ?_⟩
    · rw [mem_asked_call]
      rcases desiredTarget_or (some candidate) target with taken | ⟨other, same, kept⟩
      · exact .inl ⟨rfl, by rw [taken, asked]⟩
      · cases same
        exact .inr (by rw [kept]; exact known)
    · intro waiter member
      rcases mem_append.mp member with old | new
      · obtain ⟨own, rank'', owned, atOwn, within⟩ := covers waiter old
        refine ⟨own, rank'', ?_, atOwn, within.trans (le_max_left rank' rank)⟩
        rw [stays waiter (by rw [waiters, wanted]; exact old), owned]
      · exact ⟨target, rank, arrives waiter new, atTarget, le_max_right rank' rank⟩

theorem Ranked.step (ranked : log.Ranked generation key) (evidenced : Evidenced generation key call) :
    (log.call call).Ranked generation key := by
  intro candidate' wanted'
  by_cases same : call.key = key
  · subst same
    have moves := (log.engine.step_call call).moves
    rw [← engine_call, wanted'] at moves
    generalize before : log.engine.desired call.key = desired at moves
    generalize log.engine.active call.key = active at moves
    generalize (log.call call).engine.active call.key = active' at moves
    cases moves with
    | stay _ _ nobody | start _ _ nobody | release _ _ nobody =>
      exact (ranked candidate' before).step_of_same nobody (refl _)
    | desire _ _ target asked fresh room none =>
      subst before
      exact ranked.desire evidenced asked fresh
    | place candidate _ evidence asked newer nobody none =>
      refine (ranked candidate before).step (mem_asked_call.mpr (.inl ⟨rfl, asked⟩)) ?_ nobody
        (refl _)
      intro rank reached
      obtain ⟨rank', now⟩ := evidenced rfl _ asked
      refine ⟨rank', now, ?_⟩
      simp only [ReadTarget.At, Option.some.injEq] at reached now
      simpa [reached, now, evidenceIsOlder] using newer
    | fail candidate active terminal missed nobody settled all =>
      exact (ranked candidate before).step_of_same nobody (nil_subset _)
  · rw [engine_call, log.engine.desired_call_of_ne same] at wanted'
    obtain ⟨known, rank, reached, covers⟩ := ranked candidate' wanted'
    refine ⟨mem_asked_call.mpr (.inr known), rank, reached, ?_⟩
    intro waiter member
    rw [own_call_of_unattached (fun equal => absurd equal same)]
    exact covers waiter member

end Step

end ReadLog

/-- The event that a call stands for when it succeeds for the running operation or confirms a target. -/
def ReadStateEngine.settledEvent (engine : ReadStateEngine) : ReadCall -> Option String
  | .complete key fence .succeeded =>
    (engine.active key).bind fun active => if active.fence = fence then some active.eventId else none
  | .confirmAuthoritative _ _ confirmed => some confirmed.eventId
  | _ => none

theorem terminal_of_mem_settleAll {waiter : ReadWaiterId} {terminal terminal' : ReadWaiterTerminal}
    {waiters : List ReadWaiterId} (settled : ⟨waiter, terminal⟩ ∈ settleAll terminal' waiters) :
    terminal = terminal' ∧ waiter ∈ waiters := by
  obtain ⟨waiter', member, same⟩ := mem_map.mp settled
  cases same
  exact ⟨rfl, member⟩

/-- A waiter converges by an event that was put forward at or below the waiter's own target. -/
theorem ReadLog.Ranked.converged {generation : Nat} {log : ReadLog} {call : ReadCall}
    (ranked : log.Ranked generation call.key) (evidenced : ReadLog.Evidenced generation call.key call)
    {waiter : ReadWaiterId} (settled : ⟨waiter, .converged⟩ ∈ (log.engine.call call).2.settlements) :
    ∃ eventId own rank target rank',
      log.engine.settledEvent call = some eventId ∧ log.own call.key waiter = some own ∧
      own.At generation rank ∧ (call.key, target) ∈ (log.call call).asked ∧ target.eventId = eventId ∧
      target.At generation rank' ∧ rank ≤ rank' := by
  have moves := (log.engine.step_call call).moves
  generalize before : log.engine.desired call.key = desired at moves
  generalize running : log.engine.active call.key = active at moves
  generalize (log.engine.call call).1.desired call.key = desired' at moves
  generalize (log.engine.call call).1.active call.key = active' at moves
  generalize answer : (log.engine.call call).2 = reply at moves settled
  have unsettled : reply.returned ≠ [] := by
    intro none
    rw [ReadReply.settlements_of_returned_nil none] at settled
    cases settled
  cases moves with
  | stay _ _ _ none | desire _ _ _ _ _ _ none | place _ _ _ _ _ _ none | start _ _ _ none
  | release _ _ _ none => exact absurd none unsettled
  | succeed candidate active matched called nobody settledAll all =>
    rw [settledAll] at settled
    obtain ⟨known, rank, reached, covers⟩ := ranked candidate before
    obtain ⟨own, rank', owned, atOwn, within⟩ := covers waiter (terminal_of_mem_settleAll settled).2
    refine ⟨active.eventId, own, rank', candidate.target, rank, ?_, owned, atOwn,
      ReadLog.mem_asked_call.mpr (.inr known), matched, reached, within⟩
    rw [called]
    simp [settledEvent, running]
  | fail candidate active terminal missed nobody settledAll all =>
    rw [settledAll] at settled
    exact absurd (terminal_of_mem_settleAll settled).1.symm missed
  | confirm candidate _ session confirmed satisfied called nobody settledAll all =>
    rw [settledAll] at settled
    obtain ⟨known, rank, reached, covers⟩ := ranked candidate before
    obtain ⟨own, rank', owned, atOwn, within⟩ := covers waiter (terminal_of_mem_settleAll settled).2
    have event : log.engine.settledEvent call = some confirmed.eventId := by rw [called]; rfl
    have asked : call.target = some confirmed := by rw [called]; rfl
    obtain ⟨rank'', atConfirmed⟩ := evidenced rfl confirmed asked
    rw [sameTargetOrDominated, rank_le_of_dominates atConfirmed reached, Bool.or_eq_true, decide_eq_true_eq,
      decide_eq_true_eq] at satisfied
    rcases satisfied with same | further
    · exact ⟨confirmed.eventId, own, rank', candidate.target, rank, event, owned, atOwn,
        ReadLog.mem_asked_call.mpr (.inr known), same.symm, reached, within⟩
    · exact ⟨confirmed.eventId, own, rank', confirmed, rank'', event, owned, atOwn,
        ReadLog.mem_asked_call.mpr (.inl ⟨rfl, asked⟩), rfl, atConfirmed, within.trans further⟩
  | retire _ _ nobody none all =>
    rw [none] at settled
    cases settled

/-! ## Every run -/

namespace ReadLog

variable {engine : ReadStateEngine}

theorem balanced_start (starts : engine.Starts) : Balanced { engine } := by
  obtain ⟨small, fresh⟩ := starts.spec
  have nobody : ∀ key, engine.waiters key = [] := by
    intro key
    rw [waiters, desired]
    cases found : engine.keys[key]? with
    | none => rfl
    | some state =>
      obtain ⟨target, wanted⟩ := fresh key state found
      rw [Option.bind_some, wanted]
      rfl
  refine ⟨small, ?_, ?_, ?_⟩
  · intro key state found
    obtain ⟨target, wanted⟩ := fresh key state found
    exact .inl (by rw [wanted]; rfl)
  · intro key
    rw [nobody]
    exact roomy_nil
  · intro key waiter
    rw [nobody]
    rfl

theorem balanced_run (starts : engine.Starts) (calls : List ReadCall) :
    (run ReadLog.call { engine } calls).Balanced :=
  run_invariant Balanced (fun _ call balanced => balanced.call call) (balanced_start starts)

theorem ranked_run {generation : Nat} {key : ReadStateKey}
    (absent : engine.keys[key]? = none) {calls : List ReadCall}
    (evidenced : ∀ call ∈ calls, Evidenced generation key call) :
    (run ReadLog.call { engine } calls).Ranked generation key := by
  refine run_invariant_of_everyStep (Ranked generation key)
    (fun _ _ evidence ranked => ranked.step evidence) (everyStep_of_forall_mem evidenced) ?_
  intro candidate wanted
  simp [desired, absent] at wanted

/-- In every run every waiter is given back once for every time it was attached, unless it
is attached still; no key is kept idle; the limits hold; a completion with another fence
changes nothing; a waiter converges only by an event that was put forward at or below its
own target; and a snapshot is restored to the same desired events, without their evidence. -/
theorem waiters_settle_once (engine : ReadStateEngine) (starts : engine.Starts) (calls : List ReadCall) :
    let log := Machine.run ReadLog.call { engine } calls
    (∀ key waiter, log.attachments key waiter = log.returns key waiter + (log.engine.waiters key).count waiter ∧
      (log.engine.waiters key).Nodup) ∧
    (∀ (key : ReadStateKey) (state : ReadKeyState), log.engine.keys[key]? = some state ->
      state.desired.isSome ∨ state.active.isSome) ∧
    log.engine.keys.size ≤ READ_STATE_OUTBOX_ENTRY_LIMIT ∧
    (∀ key, (log.engine.waiters key).length ≤ READ_STATE_WAITER_LIMIT) ∧
    (∀ key fence, log.engine.activeOperation key ≠ some fence ->
      (∀ outcome, (log.engine.complete key fence outcome).1 = log.engine) ∧
        (log.engine.completeCancelled key fence).1 = log.engine) ∧
    (∀ generation (last : ReadCall), engine.keys[last.key]? = none ->
      (∀ call ∈ calls ++ [last], Evidenced generation last.key call) ->
      ∀ waiter, ⟨waiter, .converged⟩ ∈ (log.engine.call last).2.settlements ->
        ∃ eventId own rank target rank',
          log.engine.settledEvent last = some eventId ∧ log.own last.key waiter = some own ∧
          own.At generation rank ∧ (last.key, target) ∈ (log.call last).asked ∧ target.eventId = eventId ∧
          target.At generation rank' ∧ rank ≤ rank') ∧
    ((∀ key candidate, log.engine.desired key = some candidate -> candidate.target.eventId ≠ "") ->
      ∀ session, ∃ restored, ReadStateEngine.restore session log.engine.persistenceSnapshot = some restored ∧
        ∀ key, restored.desired key =
          (log.engine.desired key).map (fun candidate => ⟨ReadTarget.new candidate.target.eventId, []⟩)) := by
  intro log
  have balanced : log.Balanced := balanced_run starts calls
  refine ⟨?_, balanced.useful, balanced.size, fun key => (balanced.roomy key).2, ?_, ?_, ?_⟩
  · intro key waiter
    exact ⟨balanced.accounts key waiter, (balanced.roomy key).1⟩
  · intro key fence other
    exact end_of_other_fence other
  · intro generation last absent evidenced waiter settled
    have ranked : log.Ranked generation last.key :=
      ranked_run absent (fun call listed => evidenced call (mem_append_left [last] listed))
    exact ranked.converged (evidenced last (mem_append_right calls mem_cons_self)) settled
  · intro named session
    exact restore_persistenceSnapshot balanced.size named session

/-! ## A run in which a waiter converges by a lower rank -/

def roomKey : ReadStateKey := .publicUnthreaded "!room:example.org"

/-- A request for an event at rank 5, answered by a confirmation of the event at rank 3. -/
def lowerConfirmation : List ReadCall :=
  [.admitRead 1 roomKey (.withPosition "$event" ⟨1, 5⟩) ⟨7⟩,
    .confirmAuthoritative 1 roomKey (.withPosition "$event" ⟨1, 3⟩)]

theorem waiters_settle_once_lower :
    let log := Machine.run ReadLog.call { engine := .new 1 } (lowerConfirmation.take 1)
    log.attachments roomKey ⟨7⟩ = log.returns roomKey ⟨7⟩ + 1 ∧
      ∃ (own : ReadTarget) (rank : Nat) (target : ReadTarget) (rank' : Nat), log.own roomKey ⟨7⟩ = some own ∧ own.At 1 rank ∧
        target.eventId = "$event" ∧ target.At 1 rank' ∧ rank ≤ rank' := by
  intro log
  let last : ReadCall := .confirmAuthoritative 1 roomKey (.withPosition "$event" ⟨1, 3⟩)
  have sound := waiters_settle_once (.new 1) (.new 1) (lowerConfirmation.take 1)
  have settled : ⟨⟨7⟩, .converged⟩ ∈ (log.engine.call last).2.settlements := by decide +kernel
  have evidenced : ∀ call ∈ lowerConfirmation.take 1 ++ [last], Evidenced 1 roomKey call := by
    intro call listed _ target asked
    rcases mem_cons.mp listed with rfl | listed
    · cases asked
      exact ⟨5, rfl⟩
    · cases mem_singleton.mp listed
      cases asked
      exact ⟨3, rfl⟩
  constructor
  · exact (sound.1 roomKey ⟨7⟩).1
  · obtain ⟨eventId, own, rank, target, rank', settledBy, owned, atOwn, -, named, atTarget, within⟩ :=
      sound.2.2.2.2.2.1 1 last (by decide +kernel) evidenced ⟨7⟩ settled
    cases settledBy
    exact ⟨own, rank, target, rank', owned, atOwn, named, atTarget, within⟩

/-- The waiter asked for rank 5 of generation 1 and converges by a confirmation of rank 3 of
that generation; and the snapshot taken before it is restored without the evidence. -/
theorem converged_by_lower_rank :
    let log := Machine.run ReadLog.call { engine := .new 1 } (lowerConfirmation.take 1)
    log.own roomKey ⟨7⟩ = some (.withPosition "$event" ⟨1, 5⟩) ∧
      (log.engine.call (.confirmAuthoritative 1 roomKey (.withPosition "$event" ⟨1, 3⟩))).2.settlements =
        [⟨⟨7⟩, .converged⟩] ∧
      ((ReadStateEngine.restore 1 log.engine.persistenceSnapshot).map
        (fun restored => (restored.desired roomKey).map (·.target))) ≠
        some ((log.engine.desired roomKey).map (·.target)) := by
  decide +kernel

end ReadLog

end Koushi.Reads
