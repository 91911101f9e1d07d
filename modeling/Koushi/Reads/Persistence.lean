import Koushi.Reads.EngineSteps

namespace Koushi.Reads

open Collections List Option OrdMap Std.ExtTreeMap

/-!
# Storing and restoring the desired targets

A snapshot lists the desired event of every key.  The evidence of its position belongs to
the timeline that was open and is not stored, so a restored target has none until it is
observed again.
-/

/-- Distinct keys with a named event are restored, each as the entry says. -/
theorem restoreEntries_eq_some {keys : OrdMap ReadStateKey ReadKeyState} {entries : List ReadPersistenceEntry}
    (named : ∀ entry ∈ entries, entry.eventId ≠ "" ∧ entry.key ∉ keys)
    (distinct : (entries.map (·.key)).Nodup) :
    ∃ keys', restoreEntries keys entries = some keys' ∧ ∀ (key : ReadStateKey) (state : ReadKeyState),
      keys'[key]? = some state ↔
        (∃ entry ∈ entries, entry.key = key ∧ entry.restored = state) ∨ keys[key]? = some state := by
  induction entries generalizing keys with
  | nil => exact ⟨keys, rfl, fun key state => by simp⟩
  | cons entry rest ih =>
    obtain ⟨nonempty, absent⟩ := named entry mem_cons_self
    rw [map_cons, nodup_cons] at distinct
    have later : ∀ other ∈ rest, other.eventId ≠ "" ∧ other.key ∉ keys.insert entry.key entry.restored := by
      intro other listed
      obtain ⟨otherNamed, otherAbsent⟩ := named other (mem_cons_of_mem entry listed)
      refine ⟨otherNamed, ?_⟩
      rw [not_mem_iff, getElem?_insert_ite, if_neg, not_mem_iff.mp otherAbsent]
      intro same
      exact distinct.1 (mem_map.mpr ⟨other, listed, same.symm⟩)
    obtain ⟨keys', restored, lookups⟩ := ih later distinct.2
    refine ⟨keys', ?_, ?_⟩
    · rw [restoreEntries, if_neg (by simp [nonempty, absent]), restored]
    · intro key state
      rw [lookups, getElem?_insert_ite]
      by_cases same : entry.key = key
      · subst same
        simp [not_mem_iff.mp absent, or_comm]
      · simp [same]

/-- What is restored has at most one key for each entry, and nobody waits there. -/
theorem restoreEntries_spec {keys keys' : OrdMap ReadStateKey ReadKeyState} {entries : List ReadPersistenceEntry}
    (restored : restoreEntries keys entries = some keys')
    (fresh : ∀ (key : ReadStateKey) (state : ReadKeyState), keys[key]? = some state ->
      ∃ target, state.desired = some ⟨target, []⟩) : keys'.size ≤ keys.size + entries.length ∧
      ∀ (key : ReadStateKey) (state : ReadKeyState), keys'[key]? = some state ->
        ∃ target, state.desired = some ⟨target, []⟩ := by
  induction entries generalizing keys with
  | nil =>
    cases restored
    exact ⟨le_refl _, fresh⟩
  | cons entry rest ih =>
    rw [restoreEntries] at restored
    split at restored
    · cases restored
    have step := ih restored ?_
    · refine ⟨step.1.trans ?_, step.2⟩
      have grown : (keys.insert entry.key entry.restored).size ≤ keys.size + 1 :=
        size_insert_le
      rw [length_cons]
      omega
    · intro key state found
      rcases getElem?_insert_cases found with ⟨_, rfl⟩ | ⟨_, before⟩
      · exact ⟨_, rfl⟩
      · exact fresh key state before

namespace ReadStateEngine

/-- An engine as a session gets it: new, or restored from a snapshot. -/
inductive Starts : ReadStateEngine -> Prop where
  | new (session : Nat) : Starts (.new session)
  | restored (session : Nat) (snapshot : ReadPersistenceSnapshot) (engine : ReadStateEngine)
      (restored : restore session snapshot = some engine) : Starts engine

variable {engine : ReadStateEngine}

theorem Starts.spec (starts : engine.Starts) : engine.keys.size ≤ READ_STATE_OUTBOX_ENTRY_LIMIT ∧
      ∀ (key : ReadStateKey) (state : ReadKeyState), engine.keys[key]? = some state ->
        ∃ target, state.desired = some ⟨target, []⟩ := by
  cases starts with
  | new session => simp [ReadStateEngine.new]
  | restored session snapshot _ restored =>
    unfold restore at restored
    split at restored
    · cases restored
    next small =>
    obtain ⟨keys, entries, rfl⟩ := map_eq_some_iff.mp restored
    obtain ⟨size, fresh⟩ := restoreEntries_spec entries (by simp)
    rw [size_empty] at size
    exact ⟨size.trans (by omega), fresh⟩

/-- The entries of a snapshot are the desired events, as long as they fit. -/
theorem mem_persistenceSnapshot
    (small : engine.keys.size ≤ READ_STATE_OUTBOX_ENTRY_LIMIT) {entry : ReadPersistenceEntry} :
    entry ∈ engine.persistenceSnapshot.entries ↔
      (engine.desired entry.key).map (·.target.eventId) = some entry.eventId := by
  unfold persistenceSnapshot
  dsimp only
  rw [take_of_length_le]
  · simp only [mem_filterMap, map_eq_some_iff, Prod.exists,
      mem_toList_iff_getElem?_eq_some, desired, bind_eq_some_iff]
    constructor
    · rintro ⟨key, state, found, candidate, wanted, rfl⟩
      exact ⟨candidate, ⟨state, found, wanted⟩, rfl⟩
    · rintro ⟨candidate, ⟨state, found, wanted⟩, event⟩
      exact ⟨entry.key, state, found, candidate, wanted, by rw [event]⟩
  · refine (length_filterMap_le _ _).trans ?_
    rw [Std.ExtTreeMap.length_toList]
    exact small

theorem nodup_persistenceSnapshot (engine : ReadStateEngine) :
    (engine.persistenceSnapshot.entries.map (·.key)).Nodup := by
  unfold persistenceSnapshot
  rw [map_take]
  refine Nodup.sublist (take_sublist _ _) ?_
  refine Nodup.sublist ?_ engine.keys.nodup_keys
  rw [← map_fst_toList_eq_keys]
  induction engine.keys.toList with
  | nil => exact Sublist.refl []
  | cons head rest ih =>
    rw [filterMap_cons]
    split
    · exact ih.trans (sublist_cons_self _ _)
    next entry selected =>
    obtain ⟨candidate, _, rfl⟩ := map_eq_some_iff.mp selected
    exact ih.cons_cons head.1

theorem restore_persistenceSnapshot (small : engine.keys.size ≤ READ_STATE_OUTBOX_ENTRY_LIMIT)
    (named : ∀ key candidate, engine.desired key = some candidate -> candidate.target.eventId ≠ "")
    (session : Nat) : ∃ restored, restore session engine.persistenceSnapshot = some restored ∧
      ∀ key, restored.desired key =
        (engine.desired key).map (fun candidate => ⟨ReadTarget.new candidate.target.eventId, []⟩) := by
  have short : engine.persistenceSnapshot.entries.length ≤ READ_STATE_OUTBOX_ENTRY_LIMIT :=
    length_take_le _ _
  have nonempty : ∀ entry ∈ engine.persistenceSnapshot.entries,
      entry.eventId ≠ "" ∧ entry.key ∉ (∅ : OrdMap ReadStateKey ReadKeyState) := by
    intro entry listed
    obtain ⟨candidate, wanted, event⟩ := map_eq_some_iff.mp ((mem_persistenceSnapshot small).mp listed)
    exact ⟨event ▸ named entry.key candidate wanted, by simp⟩
  obtain ⟨keys, entries, lookups⟩ := restoreEntries_eq_some nonempty engine.nodup_persistenceSnapshot
  refine ⟨⟨session, 0, keys⟩, ?_, ?_⟩
  · rw [restore, if_neg (by omega), entries, map_some]
  · intro key
    cases wanted : engine.desired key with
    | none =>
      cases found : keys[key]? with
      | none => simp [desired, found]
      | some state =>
        rcases (lookups key state).mp found with ⟨entry, listed, rfl, -⟩ | absent
        · rw [mem_persistenceSnapshot small, wanted] at listed
          cases listed
        · simp at absent
    | some candidate =>
      have listed : ⟨key, candidate.target.eventId⟩ ∈ engine.persistenceSnapshot.entries := by
        rw [mem_persistenceSnapshot small, wanted]
        rfl
      have found := (lookups key _).mpr (.inl ⟨_, listed, rfl, rfl⟩)
      simp [desired, found, ReadPersistenceEntry.restored]

end ReadStateEngine

end Koushi.Reads
