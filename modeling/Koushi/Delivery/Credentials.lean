import Koushi.Delivery.Settings

namespace Koushi.Delivery

open Collections NotificationSinkSettings NotificationDeliverySettings String

/-!
# Which account a stored credential belongs to

A binding is the identity of a server and an account, joined by `:`, then a revision
after `#`.  The host, the user name and the endpoint are free text, so they may contain
both delimiters.  `Confusable` lists the texts that can be read in two ways, and
`binding_names_one_account_iff` says that there are no others: apart from them, a binding
that is kept beside a configuration was recorded for that server and that account.
-/

/-! ## Reading a binding back -/

/-- The text after the identity in a binding: nothing, or `#` and the revision. -/
def bindingTail : Option String -> String
  | none => ""
  | some revision => "#" ++ revision

/-- A revision of a stored credential, or none for a binding from before revisions. -/
def IsRevision (revision : Option String) : Prop :=
  ∀ digits ∈ revision, isWellFormedRevision digits = true

/-- The binding that is recorded for a sink when its credential is saved. -/
def NotificationSinkSettings.recordedBinding (sink : NotificationSinkSettings) (revision : Option String) :
    String :=
  sink.credentialIdentity ++ bindingTail revision

variable {sink : NotificationSinkSettings} {revision : Option String} {port port' : UInt16}
  {config config' : NotificationSinkConfig}

/-- The binding of a sink names its configuration when it is the identity and a tail. -/
theorem NotificationSinkSettings.isSome_credentialRevision_iff
    {binding : String} (bound : sink.secretBinding = some binding) :
    sink.credentialRevision.isSome = true ↔
      ∃ revision, IsRevision revision ∧ binding = sink.credentialIdentity ++ bindingTail revision := by
  rw [credentialRevision, bound]
  dsimp only
  constructor
  · intro named
    split at named
    · cases named
    next rest stripped =>
    rw [Text.stripPrefix_eq_some_iff] at stripped
    split at named
    · next empty => exact ⟨none, by simp [IsRevision], by rw [stripped, empty]; rfl⟩
    split at named
    · cases named
    next digits cut =>
    rw [Text.stripPrefix_eq_some_iff] at cut
    split at named
    · next wellFormed => exact ⟨some digits, by simpa [IsRevision], by rw [stripped, cut]; rfl⟩
    · cases named
  · rintro ⟨revision, wellFormed, rfl⟩
    rw [Text.stripPrefix_eq_some_iff.mpr rfl]
    cases revision with
    | none => rfl
    | some digits =>
      have hash : "#" ++ digits ≠ "" := by
        intro empty
        simpa using congrArg String.toList empty
      have cut : Text.stripPrefix ("#" ++ digits) "#" = some digits :=
        Text.stripPrefix_eq_some_iff.mpr rfl
      simp [bindingTail, hash, cut, wellFormed digits rfl]

/-! ## Texts that can be read in two ways -/

/-- One text and its tail are another text and a shorter or longer tail. -/
def ReadsOn (text text' : String) (revision : Option String) : Prop :=
  (revision.isSome = true ∧ text' = text ++ bindingTail revision) ∨
    (revision = none ∧ ∃ digits, isWellFormedRevision digits = true ∧ text = text' ++ bindingTail (some digits))

/-- A host that goes on with `:` and the other host's port, and a user name that makes up
for it. -/
def HostStraddles (host : String) (port : UInt16) (rest host' : String) (port' : UInt16) (rest' : String) :
    Prop :=
  Text.Straddles ':' host.toList port.toNat.repr.toList rest.toList
    host'.toList port'.toNat.repr.toList rest'.toList

/-- The configurations that one binding can name beside the one it was recorded for. -/
def Confusable : NotificationSinkConfig -> NotificationSinkConfig -> Option String -> Prop
  | .resend endpoint, .resend endpoint', revision => ReadsOn endpoint endpoint' revision
  | .serverChan endpoint, .serverChan endpoint', revision => ReadsOn endpoint endpoint' revision
  | .smtp _ host port _ username, .smtp _ host' port' _ username', revision =>
    (host = host' ∧ port = port' ∧ ReadsOn username username' revision) ∨
      ∃ revision', IsRevision revision' ∧
        (HostStraddles host port (username ++ bindingTail revision)
            host' port' (username' ++ bindingTail revision') ∨
          HostStraddles host' port' (username' ++ bindingTail revision')
            host port (username ++ bindingTail revision))
  | _, _, _ => False

/-- The same kind of sink at the same server, with the same user name. -/
def SameAccount : NotificationSinkConfig -> NotificationSinkConfig -> Prop
  | .resend endpoint, .resend endpoint' => endpoint = endpoint'
  | .serverChan endpoint, .serverChan endpoint' => endpoint = endpoint'
  | .smtp _ host port _ username, .smtp _ host' port' _ username' =>
    host = host' ∧ port = port' ∧ username = username'
  | _, _ => False

/-- The digits of a revision are not `#`, so two tails that are not empty can be told
from the texts before them. -/
theorem append_bindingTail_some_inj {text text' digits digits' : String}
    (wellFormed : isWellFormedRevision digits = true) (wellFormed' : isWellFormedRevision digits' = true) :
    text ++ bindingTail (some digits) = text' ++ bindingTail (some digits') ->
      text = text' ∧ digits = digits' := by
  intro same
  have free : ∀ {digits : String}, isWellFormedRevision digits = true -> '#' ∉ digits.toList := by
    intro digits wellFormed member
    simp only [isWellFormedRevision, Bool.and_eq_true, List.all_eq_true] at wellFormed
    exact absurd (wellFormed.2 _ member) (by decide)
  have chars := congrArg String.toList same
  simp only [bindingTail, toList_append] at chars
  have parts := (Text.append_delimited_inj (free wellFormed) (free wellFormed')).mp chars
  exact ⟨toList_inj.mp parts.1, toList_inj.mp parts.2⟩

theorem exists_append_bindingTail_iff {text text' : String} (wellFormed : IsRevision revision) :
    (∃ revision', IsRevision revision' ∧ text ++ bindingTail revision = text' ++ bindingTail revision') ↔
      text = text' ∨ ReadsOn text text' revision := by
  have isRevision_some : ∀ {digits : String}, isWellFormedRevision digits = true -> IsRevision (some digits) := by
    intro digits fits other present
    rw [← Option.mem_some_iff.mp present]
    exact fits
  constructor
  · rintro ⟨revision', wellFormed', same⟩
    cases revision with
    | none =>
      cases revision' with
      | none => exact .inl (by simpa [bindingTail] using same)
      | some digits' =>
        refine Or.inr (Or.inr ⟨rfl, digits', wellFormed' digits' rfl, ?_⟩)
        simpa [bindingTail] using same
    | some digits =>
      cases revision' with
      | none => exact .inr (Or.inl ⟨rfl, by simpa [bindingTail] using same.symm⟩)
      | some digits' =>
        exact .inl (append_bindingTail_some_inj (wellFormed digits rfl) (wellFormed' digits' rfl) same).1
  · rintro (rfl | ⟨_, rfl⟩ | ⟨rfl, digits, fits, rfl⟩)
    · exact ⟨revision, wellFormed, rfl⟩
    · exact ⟨none, by simp [IsRevision], by simp [bindingTail]⟩
    · exact ⟨some digits, isRevision_some fits, by simp [bindingTail]⟩

/-- A longer text is another text. -/
theorem not_readsOn_self (text : String) : ¬ ReadsOn text text revision := by
  have longer : ∀ digits : String, text ≠ text ++ bindingTail (some digits) := by
    intro digits same
    have lengths := congrArg length same
    simp [bindingTail] at lengths
  rintro (⟨present, same⟩ | ⟨_, digits, _, same⟩)
  · obtain ⟨digits, rfl⟩ := Option.isSome_iff_exists.mp present
    exact longer digits same
  · exact longer digits same

theorem not_hostStraddles_self {host rest rest' : String} :
    ¬ HostStraddles host port rest host port' rest' := by
  rintro ⟨middle, same, _⟩
  have lengths := congrArg List.length same
  simp at lengths

/-- The port has no `:` in it, so the parts of an identity can be read back unless one host
goes on with the other's port. -/
theorem joined_identity_eq_iff {host rest host' rest' : String} :
    "smtp:" ++ host ++ ":" ++ port.toNat.repr ++ ":" ++ rest =
        "smtp:" ++ host' ++ ":" ++ port'.toNat.repr ++ ":" ++ rest' ↔
      (host = host' ∧ port = port' ∧ rest = rest') ∨
        HostStraddles host port rest host' port' rest' ∨ HostStraddles host' port' rest' host port rest := by
  have colon : "smtp:".toList = ['s', 'm', 't', 'p', ':'] ∧ ":".toList = [':'] := by decide
  have samePort : port.toNat.repr.toList = port'.toNat.repr.toList ↔ port = port' := by
    rw [toList_inj, Nat.repr_inj, UInt16.toNat_inj]
  have free : ∀ port : UInt16, ':' ∉ port.toNat.repr.toList :=
    fun port => Text.not_mem_toList_repr (by decide) port.toNat
  have parts : host.toList ++ ':' :: (port.toNat.repr.toList ++ ':' :: rest.toList) =
      host'.toList ++ ':' :: (port'.toNat.repr.toList ++ ':' :: rest'.toList) ↔
        (host.toList = host'.toList ∧ port.toNat.repr.toList = port'.toNat.repr.toList ∧
          rest.toList = rest'.toList) ∨
        HostStraddles host port rest host' port' rest' ∨ HostStraddles host' port' rest' host port rest :=
    Text.joined_eq_iff (free port) (free port')
  rw [samePort, toList_inj, toList_inj] at parts
  rw [← toList_inj]
  simpa [colon.1, colon.2] using parts

/-! ## The account of a binding -/

/-- The kind of a sink can be read from the first two characters of its identity. -/
theorem kind_eq_of_identity_eq {tail tail' : String}
    (same : config.credentialIdentity ++ tail = config'.credentialIdentity ++ tail') :
    config.kind = config'.kind := by
  have leads : "resend:".toList = ['r', 'e', 's', 'e', 'n', 'd', ':'] ∧
      "smtp:".toList = ['s', 'm', 't', 'p', ':'] ∧
      "serverchan:".toList = ['s', 'e', 'r', 'v', 'e', 'r', 'c', 'h', 'a', 'n', ':'] := by decide
  have chars := congrArg String.toList same
  cases config <;> cases config' <;>
    simp [NotificationSinkConfig.credentialIdentity, NotificationSinkConfig.kind, leads] at chars ⊢

/-- Two SMTP identities with their tails, part by part. -/
theorem smtp_identity_eq_iff {preset preset' : Option String} {host username host' username' : String}
    {tls tls' : SmtpTls} {tail tail' : String} :
    (NotificationSinkConfig.smtp preset host port tls username).credentialIdentity ++ tail =
        (NotificationSinkConfig.smtp preset' host' port' tls' username').credentialIdentity ++ tail' ↔
      (host = host' ∧ port = port' ∧ username ++ tail = username' ++ tail') ∨
        HostStraddles host port (username ++ tail) host' port' (username' ++ tail') ∨
        HostStraddles host' port' (username' ++ tail') host port (username ++ tail) := by
  rw [← joined_identity_eq_iff]
  simp only [NotificationSinkConfig.credentialIdentity, String.append_assoc]

/-- What a binding can be read as: the account it was recorded for, or one that the texts
confuse with it. -/
theorem exists_identity_eq_iff (wellFormed : IsRevision revision) : (∃ revision', IsRevision revision' ∧
        config.credentialIdentity ++ bindingTail revision =
          config'.credentialIdentity ++ bindingTail revision') ↔
      SameAccount config config' ∨ Confusable config config' revision := by
  have otherKind : config.kind ≠ config'.kind -> ¬ (SameAccount config config' ∨ Confusable config config' revision) ->
      ((∃ revision', IsRevision revision' ∧
        config.credentialIdentity ++ bindingTail revision =
          config'.credentialIdentity ++ bindingTail revision') ↔
      SameAccount config config' ∨ Confusable config config' revision) := by
    intro different neither
    refine iff_of_false ?_ neither
    rintro ⟨revision', _, same⟩
    exact different (kind_eq_of_identity_eq same)
  cases config with
  | resend endpoint =>
    cases config' with
    | resend endpoint' =>
      simp only [NotificationSinkConfig.credentialIdentity, String.append_assoc, String.append_right_inj]
      exact exists_append_bindingTail_iff wellFormed
    | smtp | serverChan =>
      exact otherKind (by simp [NotificationSinkConfig.kind]) (by simp [SameAccount, Confusable])
  | smtp preset host port tls username =>
    cases config' with
    | resend | serverChan =>
      exact otherKind (by simp [NotificationSinkConfig.kind]) (by simp [SameAccount, Confusable])
    | smtp preset' host' port' tls' username' =>
      simp only [smtp_identity_eq_iff, SameAccount, Confusable]
      constructor
      · rintro ⟨revision', wellFormed', ⟨sameHost, samePort, same⟩ | straddles⟩
        · rcases (exists_append_bindingTail_iff wellFormed).mp ⟨revision', wellFormed', same⟩ with
            sameUser | reads
          · exact .inl ⟨sameHost, samePort, sameUser⟩
          · exact .inr (Or.inl ⟨sameHost, samePort, reads⟩)
        · exact .inr (Or.inr ⟨revision', wellFormed', straddles⟩)
      · rintro (⟨sameHost, samePort, sameUser⟩ | ⟨sameHost, samePort, reads⟩ |
          ⟨revision', wellFormed', straddles⟩)
        · exact ⟨revision, wellFormed, Or.inl ⟨sameHost, samePort, by rw [sameUser]⟩⟩
        · obtain ⟨revision', wellFormed', same⟩ :=
            (exists_append_bindingTail_iff wellFormed).mpr (Or.inr reads)
          exact ⟨revision', wellFormed', Or.inl ⟨sameHost, samePort, same⟩⟩
        · exact ⟨revision', wellFormed', Or.inr straddles⟩
  | serverChan endpoint =>
    cases config' with
    | resend | smtp =>
      exact otherKind (by simp [NotificationSinkConfig.kind]) (by simp [SameAccount, Confusable])
    | serverChan endpoint' =>
      simp only [NotificationSinkConfig.credentialIdentity, String.append_assoc, String.append_right_inj]
      exact exists_append_bindingTail_iff wellFormed

theorem not_confusable_of_sameAccount
    (same : SameAccount config config') : ¬ Confusable config config' revision := by
  cases config with
  | resend endpoint =>
    cases config' with
    | resend endpoint' =>
      rw [show endpoint = endpoint' from same]
      exact not_readsOn_self endpoint'
    | smtp | serverChan => exact same.elim
  | serverChan endpoint =>
    cases config' with
    | serverChan endpoint' =>
      rw [show endpoint = endpoint' from same]
      exact not_readsOn_self endpoint'
    | smtp | resend => exact same.elim
  | smtp preset host port tls username =>
    cases config' with
    | smtp preset' host' port' tls' username' =>
      obtain ⟨rfl, rfl, rfl⟩ := same
      rintro (⟨_, _, reads⟩ | ⟨revision', _, straddles | straddles⟩)
      · exact not_readsOn_self username reads
      · exact not_hostStraddles_self straddles
      · exact not_hostStraddles_self straddles
    | resend | serverChan => exact same.elim

/-- A binding is kept beside a canonical configuration when it is its identity and a tail. -/
theorem secretBinding_kept_iff (canonical : sink.canonicalize = sink) (binding : String) :
    { sink with secretBinding := some binding }.canonicalize.secretBinding = some binding ↔
      ∃ revision, IsRevision revision ∧ binding = sink.credentialIdentity ++ bindingTail revision := by
  have sameConfig : { sink with secretBinding := some binding }.canonicalizeFields.config = sink.config := by
    have fixed := congrArg config canonical
    rw [canonicalize_config] at fixed
    rw [canonicalizeFields_config, fixed]
  have bound := canonicalizeFields_secretBinding
    { sink with secretBinding := some binding }
  have named := isSome_credentialRevision_iff bound
  rw [credentialIdentity, sameConfig] at named
  rw [canonicalize_secretBinding, credentialIdentity, ← named]
  split
  · next missing => simp [Option.isNone_iff_eq_none.mp missing]
  · next present => simpa [Option.isSome_iff_ne_none] using present

/-- A patch from the renderer leaves a sink with the binding that the current settings hold
for its id, or with none.  The first pass makes the ids canonical, so the second one, which
may drop a binding, keeps each id. -/
theorem secretBinding_applyPatch {current incoming : NotificationDeliverySettings}
    (member : sink ∈ (current.applyPatch incoming false).sinks)
    {binding : String} (bound : sink.secretBinding = some binding) :
    current.bindingOf sink.id = some binding := by
  obtain ⟨⟨given, listed, rfl⟩, _⟩ := mem_sinks_canonicalize member
  obtain ⟨patched, written, rfl⟩ := List.mem_map.mp listed
  obtain ⟨_, usable⟩ := mem_sinks_canonicalize written
  have valid : isValidNotificationSinkId patched.id = true := by
    rw [isUsable, Bool.and_eq_true] at usable
    exact usable.1
  rw [canonicalize_id, canonical_of_isValidNotificationSinkId valid]
  rw [canonicalize_secretBinding] at bound
  split at bound
  · cases bound
  · exact bound

/-- A binding that was recorded for one sink and is kept beside the configuration of
another belongs to the same account exactly when the texts are not confusable; and a patch
from the renderer gives no sink a binding but the one the current settings hold for it. -/
theorem binding_names_one_account_iff (a b : NotificationSinkSettings) (canonical : b.canonicalize = b)
    (revision : Option String) (wellFormed : IsRevision revision) :
    (({ b with secretBinding := some (a.recordedBinding revision) }.canonicalize.secretBinding =
          some (a.recordedBinding revision) ->
        SameAccount a.config b.config) ↔
      ¬ Confusable a.config b.config revision) ∧
    ∀ current incoming : NotificationDeliverySettings,
      ∀ sink ∈ (current.applyPatch incoming false).sinks, ∀ binding, sink.secretBinding = some binding ->
        current.bindingOf sink.id = some binding := by
  refine ⟨?_, fun current incoming sink member binding bound => secretBinding_applyPatch member bound⟩
  rw [secretBinding_kept_iff canonical, recordedBinding,
    credentialIdentity, credentialIdentity,
    exists_identity_eq_iff wellFormed]
  constructor
  · intro keeps confusable
    exact not_confusable_of_sameAccount (keeps (Or.inr confusable)) confusable
  · rintro clear (same | confusable)
    · exact same
    · exact absurd confusable clear

theorem binding_names_one_account_relay : ({ relaySink "relay" 465 "me" with
          secretBinding := some ((relaySink "relay" 465 "me").recordedBinding (some "ab")) }.canonicalize.secretBinding =
        some ((relaySink "relay" 465 "me").recordedBinding (some "ab"))) ∧
      ¬ Confusable (relaySink "relay" 465 "me").config (relaySink "relay" 465 "me").config (some "ab") :=
  ⟨by decide +kernel,
    (binding_names_one_account_iff (relaySink "relay" 465 "me") (relaySink "relay" 465 "me")
      (by decide +kernel) (some "ab") (by simp [IsRevision]; decide)).1.mp (fun _ => ⟨rfl, rfl, rfl⟩)⟩

/-- The password of `u:2:x` at `h`, port 1, is kept for `x` at `h:1:u`, port 2. -/
theorem binding_kept_for_other_server :
    (relaySink "h" 1 "u:2:x").canonicalize = relaySink "h" 1 "u:2:x" ∧
      (relaySink "h:1:u" 2 "x").canonicalize = relaySink "h:1:u" 2 "x" ∧ { relaySink "h:1:u" 2 "x" with
          secretBinding := some ((relaySink "h" 1 "u:2:x").recordedBinding (some "ab")) }.canonicalize.secretBinding =
        some ((relaySink "h" 1 "u:2:x").recordedBinding (some "ab")) ∧
      ¬ SameAccount (relaySink "h" 1 "u:2:x").config (relaySink "h:1:u" 2 "x").config :=
  ⟨by decide +kernel, by decide +kernel, by decide +kernel, by simp [SameAccount, relaySink]⟩

end Koushi.Delivery
