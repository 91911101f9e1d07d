import Koushi.Rooms.Reduce

namespace Koushi.Rooms

open Collections AppState Std.ExtTreeMap

/-!
# Ignored users

A request to ignore a user, or to stop ignoring them, changes the list at once, and a
failure takes the change back by writing the opposite.  Nothing records what the list
said before.  The second half is about presence, which ignored users should not have.
-/

/-! ## Taking a change back -/

theorem mem_setIgnored {ignoredUserIds : OrdSet String} {userId other : String} {ignored : Bool} :
    other ∈ setIgnored ignoredUserIds userId ignored ↔
      if userId = other then ignored = true else other ∈ ignoredUserIds := by
  cases ignored <;> simp only [setIgnored] <;> grind

theorem setIgnored_eq_self_iff {ignoredUserIds : OrdSet String} {userId : String} {ignored : Bool} :
    setIgnored ignoredUserIds userId ignored = ignoredUserIds ↔
      ignoredUserIds.contains userId = ignored := by
  rw [Std.ExtTreeSet.ext_mem_iff]
  simp only [mem_setIgnored]
  constructor
  · intro same
    have own := same userId
    rw [if_pos rfl] at own
    rw [Bool.eq_iff_iff, Std.ExtTreeSet.contains_iff_mem, own]
  · intro member other
    split
    · next own => rw [← own, ← Std.ExtTreeSet.contains_iff_mem, member]
    · rfl

variable {userId : String}

theorem setIgnored_setIgnored (ignoredUserIds : OrdSet String) (first second : Bool) :
    setIgnored (setIgnored ignoredUserIds userId first) userId second =
      setIgnored ignoredUserIds userId second := by
  apply Std.ExtTreeSet.ext_mem
  intro other
  simp only [mem_setIgnored]
  split <;> rfl

section Text

variable (text : TextRules) (state : AppState)

@[simp] theorem profile_recomputeIfInvitesShown :
    (recomputeIfInvitesShown text state).profile = state.profile := by
  unfold recomputeIfInvitesShown
  split <;> rfl

/-- A request changes the list only in a ready session with no other request pending. -/
def isAdmitted : Bool :=
  state.isSessionReady && decide (state.profile.ignoredUserUpdate = .idle)

theorem profile_handleIgnoredUserUpdateRequested (requestId : Nat)
    (ignored : Bool) : (handleIgnoredUserUpdateRequested text state requestId userId ignored).profile =
      if isAdmitted state then { state.profile with
          ignoredUserIds := setIgnored state.profile.ignoredUserIds userId ignored
          ignoredUserUpdate := .saving requestId }
      else state.profile := by
  unfold handleIgnoredUserUpdateRequested
  cases ready : state.isSessionReady <;> cases pending : state.profile.ignoredUserUpdate <;>
    simp [isAdmitted, ready, pending]

theorem ignored_handleIgnoredUserUpdateFailed (requestId : Nat) (ignored : Bool) :
    (handleIgnoredUserUpdateFailed state requestId userId ignored).profile.ignoredUserIds =
      if state.profile.ignoredUserUpdate.requestId = some requestId then
        setIgnored state.profile.ignoredUserIds userId !ignored else state.profile.ignoredUserIds := by
  unfold handleIgnoredUserUpdateFailed
  split <;> rfl

/-- A request and its failure give the list back exactly if the request was to change
it, or if neither was handled. -/
theorem failed_ignore_restores_iff (state : AppState) (requestId : Nat) (userId : String)
    (ignored : Bool) :
    (handleIgnoredUserUpdateFailed (handleIgnoredUserUpdateRequested text state requestId userId ignored)
        requestId userId ignored).profile.ignoredUserIds = state.profile.ignoredUserIds ↔
      state.profile.ignoredUserIds.contains userId ≠ ignored ∨
      (isAdmitted state = false ∧ state.profile.ignoredUserUpdate.requestId ≠ some requestId) := by
  rw [ignored_handleIgnoredUserUpdateFailed, profile_handleIgnoredUserUpdateRequested]
  cases admitted : isAdmitted state with
  | true =>
    simp only [if_pos, IgnoredUserUpdateState.requestId, setIgnored_setIgnored, setIgnored_eq_self_iff,
      Bool.eq_not]
    simp
  | false =>
    simp only [Bool.false_eq_true, if_false]
    split
    · next pending => simp [setIgnored_eq_self_iff, Bool.eq_not, pending]
    · next ignoredFailure => simp [ignoredFailure]

/-- To ignore a user who is ignored already, and to fail, stops ignoring them. -/
theorem failed_repeated_ignore :
    let state := { empty defaultSettings
        (.ready ⟨"https://example.invalid", "@me:example.invalid", "DEVICE"⟩) with
      profile.ignoredUserIds := {"@u"} }
    (handleIgnoredUserUpdateFailed (handleIgnoredUserUpdateRequested plainText state 1 "@u" true)
      1 "@u" true).profile.ignoredUserIds ≠ state.profile.ignoredUserIds := by
  decide +kernel

/-! ## Presence -/

inductive PresenceKind where
  | online
  | away
  | offline
deriving DecidableEq, Repr

/-- The state with the presence that the live signals keep. -/
structure SignalState where
  app : AppState
  presence : OrdMap String PresenceKind

/-- The actions that reach the ignored users, their presence or the session.  What
every other handler writes is not bounded. -/
inductive SignalAction where
  | sessionStepped (next : SessionState)
  | sessionViewsCleared (next : SessionState)
  | appStateReset
  | ignoredUsersLoaded (userIds : OrdSet String)
  | ignoredUserUpdateRequested (requestId : Nat) (userId : String) (ignored : Bool)
  | ignoredUserUpdateSucceeded (requestId : Nat)
  | ignoredUserUpdateFailed (requestId : Nat) (userId : String) (ignored : Bool)
  | presenceUpdated (userId : String) (presence : PresenceKind)
  | othersChanged (next : AppState)

def handlePresenceUpdated (state : SignalState) (userId : String) (presence : PresenceKind) : SignalState :=
  if !state.app.isSessionReady then state
  else if state.app.profile.ignoredUserIds.contains userId then state
  else { state with presence := state.presence.insert userId presence }

def stepSignals (state : SignalState) : SignalAction -> SignalState
  | .sessionStepped next => { state with app.session := next }
  | .sessionViewsCleared next => ⟨clearSessionViews state.app next, ∅⟩
  | .appStateReset => ⟨empty state.app.settings .signedOut, ∅⟩
  | .ignoredUsersLoaded userIds =>
    { app := handleIgnoredUsersLoaded text state.app userIds
      presence := if !state.app.isSessionReady then state.presence
        else state.presence.filter (fun userId _ => !userIds.contains userId) }
  | .ignoredUserUpdateRequested requestId userId ignored =>
    { app := handleIgnoredUserUpdateRequested text state.app requestId userId ignored
      presence := if isAdmitted state.app then state.presence.erase userId else state.presence }
  | .ignoredUserUpdateSucceeded requestId =>
    { state with app := handleIgnoredUserUpdateSucceeded state.app requestId }
  | .ignoredUserUpdateFailed requestId userId ignored =>
    { state with app := handleIgnoredUserUpdateFailed state.app requestId userId ignored }
  | .presenceUpdated userId presence => handlePresenceUpdated state userId presence
  | .othersChanged next =>
    { state with app := { next with
        session := state.app.session
        profile.ignoredUserIds := state.app.profile.ignoredUserIds
        profile.ignoredUserUpdate := state.app.profile.ignoredUserUpdate } }

/-- No ignored user has presence. -/
def Silent (state : SignalState) : Prop :=
  ∀ userId ∈ state.app.profile.ignoredUserIds, userId ∉ state.presence

/-- A handled failure to stop ignoring a user finds them without presence. -/
def failsQuietly (state : SignalState) : SignalAction -> Prop
  | .ignoredUserUpdateFailed requestId userId false =>
    state.app.profile.ignoredUserUpdate.requestId = some requestId -> userId ∉ state.presence
  | _ => True

theorem silent_stepSignals {state : SignalState} {action : SignalAction}
    (quiet : failsQuietly state action) (silent : Silent state) : Silent (stepSignals text state action) := by
  intro userId ignored
  cases action with
  | sessionStepped | othersChanged => exact silent userId ignored
  | sessionViewsCleared | appStateReset => exact not_mem_empty
  | ignoredUsersLoaded userIds =>
    simp only [stepSignals, handleIgnoredUsersLoaded] at ignored ⊢
    split at ignored
    · next unready =>
      rw [if_pos unready]
      exact silent userId ignored
    · next ready =>
      rw [profile_recomputeIfInvitesShown] at ignored
      rw [if_neg ready, OrdMap.not_mem_iff, getElem?_filter']
      simp [Std.ExtTreeSet.contains_iff_mem.mpr ignored]
  | ignoredUserUpdateRequested requestId named ignore =>
    simp only [stepSignals, profile_handleIgnoredUserUpdateRequested] at ignored ⊢
    split at ignored
    · next admitted =>
      rw [if_pos admitted]
      rw [mem_setIgnored] at ignored
      simp_all [Silent]
      grind
    · next refused =>
      rw [if_neg refused]
      exact silent userId ignored
  | ignoredUserUpdateSucceeded requestId =>
    apply silent userId
    simp only [stepSignals, handleIgnoredUserUpdateSucceeded] at ignored
    split at ignored <;> exact ignored
  | ignoredUserUpdateFailed requestId named ignore =>
    simp only [stepSignals, ignored_handleIgnoredUserUpdateFailed] at ignored ⊢
    split at ignored
    · next handled =>
      rw [mem_setIgnored] at ignored
      split at ignored
      · next same =>
        cases ignore
        · exact same ▸ quiet handled
        · cases ignored
      · exact silent userId ignored
    · exact silent userId ignored
  | presenceUpdated named presence =>
    simp only [stepSignals, handlePresenceUpdated] at ignored ⊢
    split_ifs at ignored ⊢ with unready known
    · exact silent userId ignored
    · exact silent userId ignored
    · rw [Std.ExtTreeMap.mem_insert, Std.compare_eq_iff_eq]
      rintro (rfl | present)
      · exact known (Std.ExtTreeSet.contains_iff_mem.mpr ignored)
      · exact silent userId ignored present

variable {text}

/-- In every run in which every handled failure to stop ignoring a user finds them
without presence, no ignored user has presence. -/
theorem ignored_users_silent {settings : SettingsValues} {actions : List SignalAction}
    (quiet : Machine.EveryStep (stepSignals text) failsQuietly ⟨empty settings .signedOut, ∅⟩
      actions) :
    Silent (Machine.run (stepSignals text) ⟨empty settings .signedOut, ∅⟩ actions) := by
  apply Machine.run_invariant_of_everyStep Silent _ quiet
  · exact fun userId _ => not_mem_empty
  · exact fun _ _ => silent_stepSignals text

end Text

/-- A session that ignores a user, and then asks to stop. -/
def unignoreRequested : List SignalAction :=
  [.sessionStepped (.ready ⟨"https://example.invalid", "@me:example.invalid", "DEVICE"⟩),
    .ignoredUsersLoaded {"@u"}, .ignoredUserUpdateRequested 1 "@u" false]

theorem ignored_user_silent_after_failure :
    Silent (Machine.run (stepSignals plainText) ⟨empty defaultSettings .signedOut, ∅⟩
      (unignoreRequested ++ [.ignoredUserUpdateFailed 1 "@u" false])) :=
  ignored_users_silent ⟨trivial, trivial, trivial, fun _ => by decide +kernel, trivial⟩

/-- Presence that arrives before the request fails stays when the user is ignored again. -/
theorem presence_survives_failed_unignore :
    let state := Machine.run (stepSignals plainText) ⟨empty defaultSettings .signedOut, ∅⟩
      (unignoreRequested ++ [.presenceUpdated "@u" .online, .ignoredUserUpdateFailed 1 "@u" false])
    "@u" ∈ state.app.profile.ignoredUserIds ∧ state.presence["@u"]? = some .online := by
  decide +kernel

end Koushi.Rooms
