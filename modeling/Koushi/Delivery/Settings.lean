import Koushi.Library.Text
import Koushi.Library.Keyed

namespace Koushi.Delivery

open Collections Text

/-!
# Delivery settings

A destination (a sink) has its server, its recipient, what it is sent for, how much
text it may carry and when it sends.  Everything here is read from a file or comes
from the renderer, so `canonicalize` bounds every field, drops the sinks that could
never be used, and drops a credential binding or a consent that does not name the
configuration it stands beside.

The secret of a sink is in a store that is keyed by the sink id alone.  What ties it
to a server and an account is the text `credentialBinding`: the identity of the server
and the account, `#`, and a revision.
-/

def maxNotificationDeliveryDwellSecs : Nat := 86400
def maxNotificationDeliveryMinIntervalSecs : Nat := 86400
def maxNotificationDeliveryPrefixGraphemes : Nat := 500
def notificationDeliveryMailTextBudget : Nat := 4000
def notificationDeliveryServerChanTextBudget : Nat := 1000
def maxNotificationDeliverySinks : Nat := 8
def maxNotificationDeliveryWatchedTargets : Nat := 64
def maxNotificationDeliveryFieldChars : Nat := 320
def maxNotificationCredentialRevisionChars : Nat := 32
def maxNotificationSinkIdBytes : Nat := 64
def defaultResendEndpoint : String := "https://api.resend.com/emails"
def defaultResendFromAddress : String := "onboarding@resend.dev"
def defaultNotificationSenderName : String := "Koushi"
def defaultServerChanEndpoint : String := "https://sctapi.ftqq.com"

/-- A field without surrounding white space, cut after 320 characters. -/
def trimmedField (value : String) : String :=
  let trimmed := Text.trim value
  if trimmed.length > maxNotificationDeliveryFieldChars then
    String.ofList (trimmed.toList.take maxNotificationDeliveryFieldChars)
  else trimmed

/-! ## What a sink is sent for -/

inductive NotificationDeliveryTarget where
  | room (roomId : String)
  | space (spaceId : String)
deriving DecidableEq, Repr

def NotificationDeliveryTarget.id : NotificationDeliveryTarget -> String
  | .room roomId => roomId
  | .space spaceId => spaceId

def NotificationDeliveryTarget.kindAndId : NotificationDeliveryTarget -> String × String
  | .room roomId => ("room", roomId)
  | .space spaceId => ("space", spaceId)

def NotificationDeliveryTarget.canonicalize : NotificationDeliveryTarget -> NotificationDeliveryTarget
  | .room roomId => .room (trimmedField roomId)
  | .space spaceId => .space (trimmedField spaceId)

/-- A target names an id (`!`) or an alias (`#`), bounded, free of control characters. -/
def NotificationDeliveryTarget.isUsable (target : NotificationDeliveryTarget) : Bool :=
  let chars := target.id.toList
  (chars.head? == some '!' || chars.head? == some '#') && decide (1 < chars.length) &&
    decide (target.id.utf8ByteSize ≤ maxNotificationDeliveryFieldChars) &&
    !chars.any Text.isControl

structure NotificationDeliveryTargets where
  directMessages : Bool
  mentions : Bool
  keywords : Bool
  watched : List NotificationDeliveryTarget
deriving DecidableEq, Repr

namespace NotificationDeliveryTargets

variable (targets : NotificationDeliveryTargets)

def hasAny : Bool :=
  targets.directMessages || targets.mentions || targets.keywords || !targets.watched.isEmpty

def watchesRoom (roomId : String) : Bool :=
  targets.watched.any (fun target => target == .room roomId)

def watchesSpace (spaceId : String) : Bool :=
  targets.watched.any (fun target => target == .space spaceId)

def canonicalize (targets : NotificationDeliveryTargets) : NotificationDeliveryTargets :=
  { targets with
    watched := keepDistinct NotificationDeliveryTarget.kindAndId NotificationDeliveryTarget.isUsable
      maxNotificationDeliveryWatchedTargets []
      (targets.watched.map NotificationDeliveryTarget.canonicalize) }

end NotificationDeliveryTargets

/-! ## How much text it carries, and when it sends -/

inductive NotificationDeliveryContent where
  | namesOnly
  | leading (graphemes : Nat)
  | full
deriving DecidableEq, Repr

def NotificationDeliveryContent.carriesText : NotificationDeliveryContent -> Bool
  | .namesOnly => false
  | _ => true

def NotificationDeliveryContent.canonicalize : NotificationDeliveryContent -> NotificationDeliveryContent
  | .leading graphemes =>
    let bounded := min graphemes maxNotificationDeliveryPrefixGraphemes
    if bounded = 0 then .namesOnly else .leading bounded
  | content => content

inductive NotificationDeliveryPartnerLabel where
  | localAlias
  | matrixId
deriving DecidableEq, Repr

structure NotificationDeliveryContentConsent where
  sinkKind : String
  endpoint : String
  recipient : String
  acceptedAtMs : Int
deriving DecidableEq, Repr

structure NotificationDeliveryTiming where
  dwellSecs : Nat
  minIntervalSecs : Nat
  onlyWhenUnfocused : Bool
deriving DecidableEq, Repr

def NotificationDeliveryTiming.canonicalize (timing : NotificationDeliveryTiming) :
    NotificationDeliveryTiming :=
  { timing with
    dwellSecs := min timing.dwellSecs maxNotificationDeliveryDwellSecs
    minIntervalSecs := min timing.minIntervalSecs maxNotificationDeliveryMinIntervalSecs }

/-! ## The server of a sink -/

inductive SmtpTls where
  | implicit
  | startTls
deriving DecidableEq, Repr

inductive NotificationSinkConfig where
  | resend (endpoint : String)
  | smtp (preset : Option String) (host : String) (port : UInt16) (tls : SmtpTls) (username : String)
  | serverChan (endpoint : String)
deriving DecidableEq, Repr

namespace NotificationSinkConfig

def kind : NotificationSinkConfig -> String
  | .resend _ => "resend"
  | .smtp .. => "smtp"
  | .serverChan _ => "serverChan"

def isServerChan : NotificationSinkConfig -> Bool
  | .serverChan _ => true
  | _ => false

/-- The text a content consent names the server by. -/
def endpoint : NotificationSinkConfig -> String
  | .resend endpoint | .serverChan endpoint => endpoint
  | .smtp _ host port _ _ => host ++ ":" ++ port.toNat.repr

/-- The server and the account a credential authenticates at. -/
def credentialIdentity : NotificationSinkConfig -> String
  | .resend endpoint => "resend:" ++ endpoint
  | .serverChan endpoint => "serverchan:" ++ endpoint
  | .smtp _ host port _ username => "smtp:" ++ host ++ ":" ++ port.toNat.repr ++ ":" ++ username

/-- An empty text replaced by a default. -/
def orDefault (value fallback : String) : String := if value = "" then fallback else value

def canonicalize : NotificationSinkConfig -> NotificationSinkConfig
  | .resend endpoint => .resend (orDefault (trimmedField endpoint) defaultResendEndpoint)
  | .serverChan endpoint =>
    .serverChan (orDefault (Text.trimEndMatches '/' (trimmedField endpoint)) defaultServerChanEndpoint)
  | .smtp preset host port tls username =>
    let preset := preset.map (fun value => Text.toAsciiLowercase (Text.trim value))
    .smtp (if preset = some "" then none else preset) (trimmedField host) (max port 1) tls
      (trimmedField username)

end NotificationSinkConfig

/-! ## One sink -/

structure NotificationSinkSettings where
  id : String
  destination : String
  fromAddress : String
  senderName : String
  config : NotificationSinkConfig
  secretBinding : Option String
  targets : NotificationDeliveryTargets
  content : NotificationDeliveryContent
  contentConsent : Option NotificationDeliveryContentConsent
  timing : NotificationDeliveryTiming
  directPartnerLabel : NotificationDeliveryPartnerLabel
deriving DecidableEq, Repr

/-- A revision of 1 to 32 hexadecimal digits. -/
def isWellFormedRevision (revision : String) : Bool :=
  revision != "" && decide (revision.utf8ByteSize ≤ maxNotificationCredentialRevisionChars) &&
    revision.toList.all Text.isAsciiHexdigit

/-- The alphabet of a sink id, which is that of the credential store's keys. -/
def isSinkIdChar (char : Char) : Bool :=
  char.isLower || char.isDigit || char == '-' || char == '_'

def isValidNotificationSinkId (id : String) : Bool :=
  id != "" && decide (id.utf8ByteSize ≤ maxNotificationSinkIdBytes) && id.toList.all isSinkIdChar

namespace NotificationSinkSettings

def endpoint (sink : NotificationSinkSettings) : String := sink.config.endpoint

def credentialIdentity (sink : NotificationSinkSettings) : String := sink.config.credentialIdentity

variable (sink : NotificationSinkSettings)

/-- The binding a credential saved now under a revision carries. -/
def credentialBinding (revision : String) : String :=
  sink.credentialIdentity ++ "#" ++ revision

/-- The revision of the bound credential, when the binding names the configuration.  A
binding from before revisions existed is the identity alone. -/
def credentialRevision : Option String :=
  match sink.secretBinding with
  | none => none
  | some binding =>
    match Text.stripPrefix binding sink.credentialIdentity with
    | none => none
    | some rest =>
      if rest = "" then some ""
      else
        match Text.stripPrefix rest "#" with
        | none => none
        | some revision => if isWellFormedRevision revision then some revision else none

/-- The recipient a consent names: for ServerChan the revision of the SendKey stands for
its owner. -/
def consentRecipient : String :=
  match sink.config with
  | .serverChan _ =>
    match sink.credentialRevision with
    | some revision => if revision = "" then "" else "sendkey#" ++ revision
    | none => ""
  | _ => sink.destination

def consentMatches : Bool :=
  match sink.contentConsent with
  | none => false
  | some consent =>
    consent.sinkKind == sink.config.kind && consent.endpoint == sink.endpoint &&
      consent.recipient == sink.consentRecipient

/-- The content mode a sink may use: the chosen one while its consent matches. -/
def effectiveContent : NotificationDeliveryContent :=
  if sink.content.carriesText && sink.consentMatches then sink.content else .namesOnly

def revokeContentConsent : NotificationSinkSettings :=
  { sink with contentConsent := none, content := .namesOnly }

def textBudgetGraphemes : Nat :=
  if sink.config.isServerChan then notificationDeliveryServerChanTextBudget
  else notificationDeliveryMailTextBudget

/-! `canonicalize` runs in four stages: the text fields, then the binding, which is
compared with the fields as they are now, then the bounded choices, then the consent,
which is compared with the binding as it is now. -/

def canonicalizeNames : NotificationSinkSettings :=
  { sink with
    id := Text.toAsciiLowercase (Text.trim sink.id)
    destination := trimmedField sink.destination
    fromAddress :=
      match sink.config with
      | .resend _ =>
        NotificationSinkConfig.orDefault (trimmedField sink.fromAddress) defaultResendFromAddress
      | _ => trimmedField sink.fromAddress
    config := sink.config.canonicalize
    senderName :=
      NotificationSinkConfig.orDefault (trimmedField sink.senderName) defaultNotificationSenderName }

/-- The text fields of a sink.  A ServerChan sink has no addresses: its recipient is the
owner of the key. -/
def canonicalizeFields : NotificationSinkSettings :=
  if sink.config.isServerChan then
    { sink.canonicalizeNames with destination := "", fromAddress := "", senderName := "" }
  else sink.canonicalizeNames

def dropUnmatchedBinding : NotificationSinkSettings :=
  if sink.credentialRevision.isNone then { sink with secretBinding := none } else sink

def canonicalizeChoices : NotificationSinkSettings :=
  { sink with
    targets := sink.targets.canonicalize
    timing := sink.timing.canonicalize
    content := sink.content.canonicalize }

def dropUnmatchedConsent : NotificationSinkSettings :=
  let serverChanWithoutKey := sink.config.isServerChan && sink.consentRecipient == ""
  if !sink.consentMatches || serverChanWithoutKey then sink.revokeContentConsent else sink

def canonicalize : NotificationSinkSettings :=
  sink.canonicalizeFields.dropUnmatchedBinding.canonicalizeChoices.dropUnmatchedConsent

/-- Whether a sink carries enough to be attempted at all. -/
def isUsable : Bool :=
  isValidNotificationSinkId sink.id &&
    match sink.config with
    | .resend endpoint => endpoint != "" && sink.destination != "" && sink.fromAddress != ""
    | .smtp _ host port _ _ =>
      host != "" && decide (0 < port) && sink.destination != "" && sink.fromAddress != ""
    | .serverChan endpoint => endpoint != ""

end NotificationSinkSettings

/-! ## All sinks of a device -/

structure NotificationDeliverySettings where
  sinks : List NotificationSinkSettings
deriving DecidableEq, Repr

namespace NotificationDeliverySettings

def sink (settings : NotificationDeliverySettings) (id : String) : Option NotificationSinkSettings :=
  settings.sinks.find? (fun sink => sink.id = id)

def canonicalize (settings : NotificationDeliverySettings) : NotificationDeliverySettings :=
  ⟨keepDistinct NotificationSinkSettings.id NotificationSinkSettings.isUsable
    maxNotificationDeliverySinks [] (settings.sinks.map NotificationSinkSettings.canonicalize)⟩

/-- The binding the current settings hold for a sink id. -/
def bindingOf (settings : NotificationDeliverySettings) (id : String) : Option String :=
  (settings.sink id).bind NotificationSinkSettings.secretBinding

/-- The settings after a patch.  Only the core may name a credential; a patch from the
renderer keeps, for each sink id, the binding the core last wrote. -/
def applyPatch (current incoming : NotificationDeliverySettings) (bindingsFromCore : Bool) :
    NotificationDeliverySettings :=
  let patched := incoming.canonicalize
  if bindingsFromCore then patched
  else
    canonicalize
      ⟨patched.sinks.map (fun sink => { sink with secretBinding := current.bindingOf sink.id })⟩

end NotificationDeliverySettings

/-! ## What canonical settings satisfy -/

namespace NotificationSinkSettings

variable (sink : NotificationSinkSettings)

theorem canonicalizeFields_id : sink.canonicalizeFields.id = toAsciiLowercase (trim sink.id) := by
  unfold canonicalizeFields
  split <;> rfl

theorem canonicalizeFields_config : sink.canonicalizeFields.config = sink.config.canonicalize := by
  unfold canonicalizeFields
  split <;> rfl

theorem canonicalizeFields_secretBinding :
    sink.canonicalizeFields.secretBinding = sink.secretBinding := by
  unfold canonicalizeFields canonicalizeNames
  split
  · rfl
  · rfl

/-- The stages after the text fields leave them alone. -/
theorem dropUnmatchedBinding_fields :
    sink.dropUnmatchedBinding.id = sink.id ∧ sink.dropUnmatchedBinding.config = sink.config := by
  unfold dropUnmatchedBinding
  split <;> exact ⟨rfl, rfl⟩

theorem dropUnmatchedConsent_fields :
    sink.dropUnmatchedConsent.id = sink.id ∧ sink.dropUnmatchedConsent.config = sink.config ∧
      sink.dropUnmatchedConsent.secretBinding = sink.secretBinding := by
  unfold dropUnmatchedConsent
  dsimp only
  split <;> exact ⟨rfl, rfl, rfl⟩

theorem canonicalize_id : sink.canonicalize.id = toAsciiLowercase (trim sink.id) :=
  calc sink.canonicalize.id
      = sink.canonicalizeFields.dropUnmatchedBinding.canonicalizeChoices.id :=
        (dropUnmatchedConsent_fields _).1
    _ = sink.canonicalizeFields.id := (dropUnmatchedBinding_fields _).1
    _ = _ := canonicalizeFields_id sink

theorem canonicalize_config : sink.canonicalize.config = sink.config.canonicalize :=
  calc sink.canonicalize.config
      = sink.canonicalizeFields.dropUnmatchedBinding.canonicalizeChoices.config :=
        (dropUnmatchedConsent_fields _).2.1
    _ = sink.canonicalizeFields.config := (dropUnmatchedBinding_fields _).2
    _ = _ := canonicalizeFields_config sink

/-- A binding is kept as it is, or dropped when it does not name the configuration. -/
theorem canonicalize_secretBinding : sink.canonicalize.secretBinding =
      if sink.canonicalizeFields.credentialRevision.isNone then none else sink.secretBinding := by
  have afterBinding : sink.canonicalize.secretBinding =
      sink.canonicalizeFields.dropUnmatchedBinding.secretBinding :=
    (dropUnmatchedConsent_fields _).2.2
  rw [afterBinding, dropUnmatchedBinding]
  split
  · rfl
  · exact canonicalizeFields_secretBinding sink

end NotificationSinkSettings

/-- An id of the store's alphabet is canonical. -/
theorem canonical_of_isValidNotificationSinkId {id : String} (valid : isValidNotificationSinkId id = true) :
    toAsciiLowercase (trim id) = id := by
  have chars : ∀ char ∈ id.toList, isSinkIdChar char = true := by
    simp only [isValidNotificationSinkId, Bool.and_eq_true] at valid
    exact List.all_eq_true.mp valid.2
  -- The alphabet in code points: `-`, the digits, `_` and the small letters.
  have codes : ∀ char : Char, isSinkIdChar char = true ->
      char.toNat = 45 ∨ (48 ≤ char.toNat ∧ char.toNat ≤ 57) ∨ char.toNat = 95 ∨
        (97 ≤ char.toNat ∧ char.toNat ≤ 122) := by
    intro char allowed
    simp only [isSinkIdChar, Char.isLower, Char.isDigit, Bool.or_eq_true, Bool.and_eq_true,
      decide_eq_true_eq, beq_iff_eq, ge_iff_le, UInt32.le_iff_toNat_le] at allowed
    rcases allowed with ((small | digit) | rfl) | rfl
    · exact .inr (Or.inr (Or.inr small))
    · exact .inr (Or.inl digit)
    · exact .inl rfl
    · exact .inr (Or.inr (Or.inl rfl))
  have visible : ∀ char : Char, isSinkIdChar char = true -> isWhitespace char = false := by
    intro char allowed
    have code := codes char allowed
    simp only [isWhitespace, Bool.or_eq_false_iff, Bool.and_eq_false_iff, decide_eq_false_iff_not,
      beq_eq_false_iff_ne]
    omega
  have lower : ∀ char : Char, isSinkIdChar char = true -> char.toLower = char := by
    intro char allowed
    have code := codes char allowed
    unfold Char.toLower
    rw [dif_neg]
    rintro ⟨above, below⟩
    have above' : 65 ≤ char.toNat := above
    have below' : char.toNat ≤ 90 := below
    omega
  rw [trim_of_forall (fun char member => visible char (chars char member)),
    toAsciiLowercase_of_forall (fun char member => lower char (chars char member))]

namespace NotificationDeliverySettings

theorem nodup_ids_canonicalize (settings : NotificationDeliverySettings) :
    (keysBy NotificationSinkSettings.id settings.canonicalize.sinks).Nodup :=
  nodup_keysBy_keepDistinct List.nodup_nil

/-- The sinks of canonical settings are canonical forms of sinks, and usable. -/
theorem mem_sinks_canonicalize {settings : NotificationDeliverySettings} {sink : NotificationSinkSettings}
    (member : sink ∈ settings.canonicalize.sinks) :
    (∃ given ∈ settings.sinks, sink = given.canonicalize) ∧ sink.isUsable = true := by
  rcases mem_keepDistinct member with nothing | ⟨listed, usable⟩
  · cases nothing
  · obtain ⟨given, written, rfl⟩ := List.mem_map.mp listed
    exact ⟨⟨given, written, rfl⟩, usable⟩

end NotificationDeliverySettings

/-- A canonical mail sink at a relay. -/
def relaySink (host : String) (port : UInt16) (username : String) : NotificationSinkSettings :=
  { id := "mail", destination := "me@example.org", fromAddress := "me@example.org", senderName := "Koushi"
    config := .smtp none host port .implicit username
    secretBinding := none
    targets := ⟨true, true, true, []⟩
    content := .namesOnly
    contentConsent := none
    timing := ⟨300, 900, true⟩
    directPartnerLabel := .localAlias }

end Koushi.Delivery
