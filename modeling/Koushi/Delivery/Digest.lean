import Koushi.Library.VectorDiff
import Koushi.Delivery.Settings

namespace Koushi.Delivery

open Text

/-!
# The message of a destination

`renderIntent` turns the rooms that one lane is about to send into one message.  A room
is named by its label, its first parent space, its kind and its counts, or, for a
one-to-one conversation, by the partner.  Message text is quoted line by line.

The phrases of the message catalogue and the division of a text into grapheme clusters
are data of other crates; `Wording` is what the renderer uses of them.
-/

inductive RoomAttentionKind where
  | mention
  | dm
  | message
deriving DecidableEq, Repr

structure DirectPartner where
  userId : String
  localAlias : Option String
deriving DecidableEq, Repr

structure BoundedNotificationDeliveryText where
  text : String
  truncatedAtSource : Bool
deriving DecidableEq, Repr

/-- A room that a destination may deliver, as the attention projection shows it. -/
structure QualifyingRoom where
  roomId : String
  displayLabel : String
  spaceLabels : List String
  kind : RoomAttentionKind
  directPartner : Option DirectPartner
  unread : Nat
  mentions : Nat
  messageText : Option BoundedNotificationDeliveryText
deriving DecidableEq, Repr

inductive CatalogLocale where
  | en
  | ja
  | zhHans
  | zhHant
  | ko
  | pseudo
deriving DecidableEq, Repr

/-- The phrases of the catalogue that a digest uses. -/
inductive NotificationText where
  | mentionFrom (name : String)
  | directMessageFrom (name : String)
  | mentionIn (place : String)
  | directMessageIn (place : String)
  | messageIn (place : String)
  | roomFallback
  | subjectMoreRooms (headline : String) (count : Nat)
  | bodyMoreRooms (count : Nat)

structure Wording where
  notificationText : CatalogLocale -> NotificationText -> String
  notificationCounts : CatalogLocale -> Nat -> Nat -> String
  notificationLabelSeparator : CatalogLocale -> String
  graphemes : String -> List String

def maxNotificationDigestRooms : Nat := 5
def maxNotificationSubjectGraphemes : Nat := 200
def maxServerChanTitleGraphemes : Nat := 32
def notificationTextTruncatedMarker : String := "[truncated]"

inductive BodyFormat where
  | plainText
  | markdown
deriving DecidableEq, Repr

/-- Everything a sender needs to deliver one message, except the credential. -/
structure NotificationDeliveryIntent where
  sinkId : String
  destination : String
  fromAddress : String
  senderName : String
  subject : String
  body : String
  idempotencyKey : String
deriving DecidableEq, Repr

/-! ## Texts that stay on their lines -/

def singleLine (text : String) : String :=
  String.ofList (text.toList.map (fun char =>
    if isControl char || char == '\u2028' || char == '\u2029' then ' ' else char))

/-- Only line breaks are left of the control characters. -/
def safeLines (text : String) : String :=
  String.ofList (text.toList.map (fun char =>
    if char == '\n' || char == '\u2028' || char == '\u2029' then '\n'
    else if isControl char then ' ' else char))

def escapeMarkdown (text : String) : String :=
  String.ofList (text.toList.flatMap (fun char =>
    if isAsciiPunctuation char then ['\\', char] else [char]))

def safeLabel (label : String) : Option String :=
  let label := trim (singleLine label)
  if label = "" then none else some label

section Rendering

variable (W : Wording)

/-- The longest leading part of at most so many grapheme clusters. -/
def cappedGraphemes (text : String) (maxGraphemes : Nat) : String :=
  String.join ((W.graphemes text).take maxGraphemes)

def ellipsize (text : String) (cap : Nat) : String :=
  let line := trim (singleLine text)
  if (W.graphemes line).length ≤ cap then line
  else trimEnd (cappedGraphemes W line (cap - 1)) ++ "…"

/-! ## One room -/

def partnerName (partner : DirectPartner) (names : NotificationDeliveryPartnerLabel) : Option String :=
  let localName :=
    match names with
    | .localAlias => partner.localAlias.bind safeLabel
    | .matrixId => none
  localName.or (safeLabel partner.userId)

def roomHeadline (room : QualifyingRoom) (names : NotificationDeliveryPartnerLabel)
    (locale : CatalogLocale) : String :=
  match room.directPartner.bind (fun partner => partnerName partner names) with
  | some name =>
    W.notificationText locale
      (match room.kind with
      | .mention => .mentionFrom name
      | .dm | .message => .directMessageFrom name)
  | none =>
    let label := (safeLabel room.displayLabel).getD (W.notificationText locale .roomFallback)
    let place :=
      match room.spaceLabels.findSome? safeLabel with
      | some space => label ++ " · " ++ space
      | none => label
    W.notificationText locale
      (match room.kind with
      | .mention => .mentionIn place
      | .dm => .directMessageIn place
      | .message => .messageIn place)

def roomLine (room : QualifyingRoom) (names : NotificationDeliveryPartnerLabel)
    (locale : CatalogLocale) : String :=
  let headline := roomHeadline W room names locale
  let counts := W.notificationCounts locale room.mentions room.unread
  if counts = "" then headline else headline ++ W.notificationLabelSeparator locale ++ counts

/-- The message text of a room, quoted, cut at `cap` clusters and marked when it was cut. -/
def roomText (room : QualifyingRoom) (cap : Nat) (format : BodyFormat) : Option String :=
  if cap = 0 then none
  else
    match room.messageText with
    | none => none
    | some source =>
      let trimmed := trim (safeLines source.text)
      if trimmed = "" then none
      else
        let capped := cappedGraphemes W trimmed cap
        let truncated := source.truncatedAtSource || decide (capped.utf8ByteSize < trimmed.utf8ByteSize)
        let lines := (lines (trimEnd capped)).map (fun line =>
          match format with
          | .plainText => "> " ++ line
          | .markdown => "> " ++ escapeMarkdown line ++ "  ")
        some (String.intercalate "\n"
          (if truncated then lines ++ ["> " ++ notificationTextTruncatedMarker] else lines))

/-! ## The digest -/

def attentionKindPriority : RoomAttentionKind -> Nat
  | .mention => 3
  | .dm => 2
  | .message => 1

/-- The order of the attention projection, with the room id as the last tiebreak. -/
def compareRooms (left right : QualifyingRoom) : Ordering :=
  (compare (attentionKindPriority right.kind) (attentionKindPriority left.kind)).then <|
    (compare right.mentions left.mentions).then <|
      (compare right.unread left.unread).then <|
        (compare left.displayLabel right.displayLabel).then (compare left.roomId right.roomId)

def orderedRooms (due : List QualifyingRoom) : List QualifyingRoom :=
  Collections.VectorDiff.keepFirst QualifyingRoom.roomId
    (due.insertionSort (fun left right => compareRooms left right ≠ .gt)) []

def digestSubject (first : QualifyingRoom) (roomCount cap : Nat)
    (names : NotificationDeliveryPartnerLabel) (locale : CatalogLocale) : String :=
  let headline := roomHeadline W first names locale
  let more := roomCount - 1
  ellipsize W
    (if more = 0 then headline else W.notificationText locale (.subjectMoreRooms headline more)) cap

def digestBody (rooms : List QualifyingRoom) (textCap : Nat) (format : BodyFormat)
    (names : NotificationDeliveryPartnerLabel) (locale : CatalogLocale) : String :=
  let blocks := (rooms.take maxNotificationDigestRooms).map (fun room =>
    let line :=
      match format with
      | .plainText => roomLine W room names locale
      | .markdown => escapeMarkdown (roomLine W room names locale)
    match roomText W room textCap format with
    | some text => line ++ "\n" ++ text
    | none => line)
  let remaining := rooms.length - maxNotificationDigestRooms
  String.intercalate "\n\n"
    (if 0 < remaining then blocks ++ [W.notificationText locale (.bodyMoreRooms remaining)] else blocks)

def textCapGraphemes (content : NotificationDeliveryContent) (budget : Nat) : Nat :=
  match content with
  | .namesOnly => 0
  | .leading graphemes => min graphemes budget
  | .full => budget

/-- The subject and the body, or none when no room is left. -/
def renderDigest (sink : NotificationSinkSettings) (content : NotificationDeliveryContent)
    (rooms : List QualifyingRoom) (locale : CatalogLocale) : Option (String × String) :=
  let rooms := orderedRooms rooms
  match rooms.head? with
  | none => none
  | some first =>
    let format := if sink.config.isServerChan then BodyFormat.markdown else .plainText
    let subjectCap :=
      match format with
      | .markdown => maxServerChanTitleGraphemes
      | .plainText => maxNotificationSubjectGraphemes
    let names := sink.directPartnerLabel
    let textCap := textCapGraphemes content sink.textBudgetGraphemes
    some (digestSubject W first rooms.length subjectCap names locale,
      digestBody W rooms textCap format names locale)

/-- Whether a sink carries everything a send needs. -/
def sinkIsDeliverable (sink : NotificationSinkSettings) : Bool :=
  trim sink.id != "" && trim sink.endpoint != "" &&
    match sink.config with
    | .serverChan _ => true
    | .resend _ | .smtp .. => trim sink.destination != "" && trim sink.fromAddress != ""

/-- The key that makes the sends of one window to one sink idempotent. -/
def idempotencyKey (sinkId windowId : String) : String :=
  "koushi-notification/" ++ sinkId ++ "/" ++ windowId

/-- The message a destination receives for `rooms`, in the window `windowId`. -/
def renderIntent (sink : NotificationSinkSettings) (rooms : List QualifyingRoom) (windowId : String)
    (locale : CatalogLocale) : Option NotificationDeliveryIntent :=
  if !sinkIsDeliverable sink then none
  else
    match renderDigest W sink sink.effectiveContent rooms locale with
    | none => none
    | some (subject, body) =>
      some
        { sinkId := sink.id
          destination := sink.destination
          fromAddress := sink.fromAddress
          senderName := sink.senderName
          subject := subject
          body := body
          idempotencyKey := idempotencyKey sink.id windowId }

end Rendering

/-- A catalogue and a segmentation for examples: one cluster for each character. -/
def plainWording : Wording where
  notificationText := fun _ text =>
    match text with
    | .mentionFrom name => "Mention from " ++ name
    | .directMessageFrom name => "Direct message from " ++ name
    | .mentionIn place => "Mention in " ++ place
    | .directMessageIn place => "Direct message in " ++ place
    | .messageIn place => "Message in " ++ place
    | .roomFallback => "Room"
    | .subjectMoreRooms headline count => headline ++ " and " ++ count.repr ++ " more"
    | .bodyMoreRooms count => "and " ++ count.repr ++ " more"
  notificationCounts := fun _ mentions unread => mentions.repr ++ " mentions, " ++ unread.repr ++ " unread"
  notificationLabelSeparator := fun _ => ": "
  graphemes := fun text => text.toList.map String.singleton

end Koushi.Delivery
