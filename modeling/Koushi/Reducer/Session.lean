import Koushi.Reducer.Navigation

namespace Koushi

open Collections

/-!
# The session

The views belong to the session that filled them.  Leaving a ready session
clears them, in three ways: signing out, switching accounts and rejecting a
device clear everything; losing the trust or the token of the device clears the
views and keeps the submission registry, so that a submission can still settle
after the session is ready again; finishing a sign-out resets the whole state.

Sign-in and device verification go through many more states than are listed
here.  Their other handlers replace the session and touch no view.
-/

variable (state : AppState)

def currentSessionInfo : Option SessionInfo :=
  match state.session with
  | .provisional info _ => some info
  | .awaitingVerification info => some info
  | .verifying info => some info
  | .awaitingBootstrapConfirmation info => some info
  | .rejecting info => some info
  | .ready info => some info
  | .locked info => some info
  | .capabilityBlocked info => some info
  | .signedOut => none
  | .restoring => none
  | .switchingAccount _ => none
  | .authenticating => none
  | .loggingOut => none

def SCHEDULED_SEND_PERSISTENCE_FAILED : String := "scheduled_send_persistence_failed"

/-- The errors without the notice that a scheduled send could not be saved. -/
def withoutScheduledSendFailure (errors : List AppError) : List AppError :=
  errors.filter (fun error => error.code ≠ SCHEDULED_SEND_PERSISTENCE_FAILED)

def withoutLoginFailures (errors : List AppError) : List AppError :=
  errors.filter (fun error => error.code ≠ "login_failed")

/-- The report of a changed error list. -/
def errorReport (before after : List AppError) : List AppEffect :=
  effectsIf (after.length ≠ before.length) [.emitUiEvent .errorChanged]

/-- Empty every view.  Views outside the model report their own changes. -/
def clearSessionViews : Outcome :=
  let errors := withoutScheduledSendFailure state.errors
  ({ AppState.default with session := state.session, errors := errors },
    [.emitUiEvent .roomListChanged] ++
      (state.timeline.roomId.map (fun roomId => [AppEffect.emitUiEvent (.timelineChanged roomId)])).getD [] ++
      effectsIf (hadThread state) [.emitUiEvent .threadChanged] ++
      effectsIf (state.focusedContext ≠ .closed) [.emitUiEvent .focusedContextChanged] ++
      effectsIf (state.threadsList ≠ .closed) [.emitUiEvent .threadsListChanged] ++
      errorReport state.errors errors)

/-- Clear the views of a ready session and keep its submissions. -/
def suspendReadySession (next : SessionInfo -> SessionState) : Outcome :=
  match state.session with
  | .ready info =>
    let (cleared, effects) := clearSessionViews { state with session := next info }
    ({ cleared with timeline.submissionRegistry := state.timeline.submissionRegistry },
      [.stopSync, .emitUiEvent .sessionChanged] ++ effects)
  | _ => (state, [])

def gateReadySession (phase : ProvisionalPhase) : Outcome :=
  suspendReadySession state (fun info => .provisional info phase)

def lockReadySession : Outcome := suspendReadySession state .locked

def resetAppState : Outcome := (AppState.default, [.emitUiEvent .sessionChanged])

/-! ## Handlers -/

def handleAppStarted : Outcome :=
  ({ state with session := .restoring }, [.restoreSession])

def handleRestoreSessionSucceeded (info : SessionInfo) : Outcome :=
  let expected :=
    match state.session with
    | .restoring => true
    | .switchingAccount target => decide (target = info)
    | _ => false
  if !expected then (state, [])
  else
    let errors := withoutLoginFailures state.errors
    ({ state with session := .provisional info .checkingTrust, errors := errors },
      [.checkCurrentDeviceTrust, .emitUiEvent .sessionChanged] ++ errorReport state.errors errors)

def promoteVerifiedSession (info : SessionInfo) : Outcome :=
  ({ state with session := .ready info },
    [.persistSession info, .startSync, .inspectSecureBackup, .emitUiEvent .sessionChanged])

/-- The trust of a device that is not yet ready. -/
def gatedDeviceTrustChanged (info : SessionInfo) : CurrentDeviceTrustState -> Outcome
  | .verified => promoteVerifiedSession state info
  | .unverified => ({ state with session := .provisional info .discoveringMethods },
      [.discoverVerificationMethods, .emitUiEvent .sessionChanged])
  | .unknown => ({ state with session := .provisional info .recheckingTrust },
      [.emitUiEvent .sessionChanged])

def handleCurrentDeviceTrustChanged (trust : CurrentDeviceTrustState) : Outcome :=
  match state.session with
  | .ready _ =>
    match trust with
    | .verified => (state, [])
    | .unverified => gateReadySession state .discoveringMethods
    | .unknown => gateReadySession state .recheckingTrust
  | .provisional info _ => gatedDeviceTrustChanged state info trust
  -- A proof in progress is only completed, never thrown away.
  | .awaitingVerification info =>
    if trust = .verified then gatedDeviceTrustChanged state info trust else (state, [])
  | .verifying info =>
    if trust = .verified then gatedDeviceTrustChanged state info trust else (state, [])
  | _ => (state, [])

def handleSessionLocked : Outcome := gateReadySession state .discoveringMethods

def handleSessionAuthenticationInvalidated : Outcome := lockReadySession state

def handleLogoutRequested : Outcome :=
  let (cleared, effects) := clearSessionViews { state with session := .loggingOut }
  (cleared, [.stopSync, .emitUiEvent .sessionChanged] ++ effects)

def handleLogoutFinished (_ : AppState) : Outcome := resetAppState

def handleSwitchAccountRequested (info : SessionInfo) : Outcome :=
  if currentSessionInfo state = some info then (state, [])
  else
    let (cleared, effects) := clearSessionViews { state with session := .switchingAccount info }
    (cleared, [.emitUiEvent .sessionChanged] ++ effects)

def handleE2eeRecoveryRequired (info : SessionInfo) : Outcome :=
  if state.session = .provisional info .discoveringMethods then
    let errors := withoutLoginFailures state.errors
    let (cleared, effects) := clearSessionViews
      { state with session := .awaitingVerification info, errors := errors }
    (cleared, [.emitUiEvent .sessionChanged] ++ effects ++ errorReport state.errors errors)
  else (state, [])

def handleVerificationSessionRejected : Outcome :=
  let reject := fun info =>
    let (cleared, effects) := clearSessionViews { state with session := .rejecting info }
    (cleared, AppEffect.rejectProvisionalSession :: effects)
  match state.session with
  | .provisional info _ => reject info
  | .awaitingVerification info => reject info
  | .verifying info => reject info
  | .awaitingBootstrapConfirmation info => reject info
  | _ => (state, [])

def handleProvisionalSessionDiscarded : Outcome :=
  match state.session with
  | .rejecting _ => resetAppState
  | _ => (state, [])

end Koushi
