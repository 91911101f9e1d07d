import Koushi.Delivery.Settings
import Koushi.Rooms.Handlers

namespace Koushi.Settings

open Collections Delivery Rooms

/-!
# Settings of the application and of the account

The reducer holds one record of settings, and two files hold it: one of the application,
one of the account.  Most blocks belong to one of them as a whole.  The composer, the
display and the search crawler are divided between both, so the functions that take the
record apart, put it together and patch it go through these blocks field by field.
-/

/-- The types of the blocks that no function here looks into. -/
structure Blocks where
  (Locale Appearance Typography Keyboard Media Timeline Window Updates Mcp : Type)
  (ThreadListOrder SearchCrawlerSpeed : Type)

variable {B : Blocks}

structure ComposerSettings where
  mathMode : Bool
  recentEmojis : List String

structure NotificationSettings where
  (desktopNotifications sound badges messagePreviews sendReadReceipts sendTypingNotifications : Bool)

structure DisplaySettings where
  (codeBlockWrap hideRedacted urlPreviewsEnabled encryptedUrlPreviewsEnabled : Bool)

structure SearchCrawlerSettings (B : Blocks) where
  speed : B.SearchCrawlerSpeed
  (includeMediaCaptions includeFilenames : Bool)

structure SettingsValues (B : Blocks) where
  locale : B.Locale
  appearance : B.Appearance
  typography : B.Typography
  keyboard : B.Keyboard
  composer : ComposerSettings
  notifications : NotificationSettings
  delivery : NotificationDeliverySettings
  display : DisplaySettings
  media : B.Media
  timeline : B.Timeline
  threadListOrder : B.ThreadListOrder
  roomListSort : RoomListSort
  searchCrawler : SearchCrawlerSettings B
  sidebar : SidebarSettings
  window : B.Window
  updates : B.Updates
  mcp : B.Mcp
  legacyFrontendPreferencesImported : Bool

structure AppDisplaySettings where
  (codeBlockWrap hideRedacted : Bool)

structure AppSettingsValues (B : Blocks) where
  locale : B.Locale
  appearance : B.Appearance
  typography : B.Typography
  keyboard : B.Keyboard
  composerMathMode : Bool
  display : AppDisplaySettings
  media : B.Media
  timeline : B.Timeline
  threadListOrder : B.ThreadListOrder
  searchCrawlerSpeed : B.SearchCrawlerSpeed
  window : B.Window
  updates : B.Updates
  mcp : B.Mcp
  legacyFrontendPreferencesImported : Bool

structure AccountNotificationSettings where
  (sound badges desktopNotifications messagePreviews sendReadReceipts sendTypingNotifications : Bool)

structure AccountDisplaySettings where
  (urlPreviewsEnabled encryptedUrlPreviewsEnabled : Bool)

structure AccountSearchCrawlerSettings where
  (includeMediaCaptions includeFilenames : Bool)

structure AccountSettingsValues where
  notifications : AccountNotificationSettings
  delivery : NotificationDeliverySettings
  display : AccountDisplaySettings
  sidebar : SidebarSettings
  roomListSort : RoomListSort
  recentEmojis : List String
  searchCrawler : AccountSearchCrawlerSettings

structure SettingsPatch (B : Blocks) where
  scope : Option SettingsPatchScope
  locale : Option B.Locale
  appearance : Option B.Appearance
  typography : Option B.Typography
  keyboard : Option B.Keyboard
  composer : Option ComposerSettings
  notifications : Option NotificationSettings
  delivery : Option NotificationDeliverySettings
  deliveryBindingsFromCore : Bool
  display : Option DisplaySettings
  media : Option B.Media
  timeline : Option B.Timeline
  threadListOrder : Option B.ThreadListOrder
  roomListSort : Option RoomListSort
  searchCrawler : Option (SearchCrawlerSettings B)
  sidebar : Option SidebarSettings
  sidebarSection : Option SidebarSectionPatch
  window : Option B.Window
  updates : Option B.Updates
  mcp : Option B.Mcp
  legacyFrontendPreferencesImported : Option Bool

/-- At most 24 emojis, trimmed, without those that are empty, longer than 16 characters or
hold a control character, and each only once. -/
def canonicalizeRecentEmojis (emojis : List String) : List String :=
  keepDistinct id
    (fun emoji => !emoji.isEmpty && emoji.length ≤ 16 && !emoji.toList.any Text.isControl) 24 []
    (emojis.map Text.trim)

namespace SettingsValues

variable (self : SettingsValues B)

def appSettings : AppSettingsValues B where
  locale := self.locale
  appearance := self.appearance
  typography := self.typography
  keyboard := self.keyboard
  composerMathMode := self.composer.mathMode
  display := ⟨self.display.codeBlockWrap, self.display.hideRedacted⟩
  media := self.media
  timeline := self.timeline
  threadListOrder := self.threadListOrder
  searchCrawlerSpeed := self.searchCrawler.speed
  window := self.window
  updates := self.updates
  mcp := self.mcp
  legacyFrontendPreferencesImported := self.legacyFrontendPreferencesImported

def accountSettings : AccountSettingsValues where
  delivery := self.delivery
  notifications :=
    { sound := self.notifications.sound
      badges := self.notifications.badges
      desktopNotifications := self.notifications.desktopNotifications
      messagePreviews := self.notifications.messagePreviews
      sendReadReceipts := self.notifications.sendReadReceipts
      sendTypingNotifications := self.notifications.sendTypingNotifications }
  display := ⟨self.display.urlPreviewsEnabled, self.display.encryptedUrlPreviewsEnabled⟩
  sidebar := self.sidebar
  roomListSort := self.roomListSort
  recentEmojis := self.composer.recentEmojis
  searchCrawler := ⟨self.searchCrawler.includeMediaCaptions, self.searchCrawler.includeFilenames⟩

def applyAppSettings (app : AppSettingsValues B) : SettingsValues B :=
  { self with
    locale := app.locale
    appearance := app.appearance
    typography := app.typography
    keyboard := app.keyboard
    composer.mathMode := app.composerMathMode
    display.codeBlockWrap := app.display.codeBlockWrap
    display.hideRedacted := app.display.hideRedacted
    media := app.media
    timeline := app.timeline
    threadListOrder := app.threadListOrder
    searchCrawler.speed := app.searchCrawlerSpeed
    window := app.window
    updates := app.updates
    mcp := app.mcp
    legacyFrontendPreferencesImported := app.legacyFrontendPreferencesImported }

def applyAccountSettings (account : AccountSettingsValues) : SettingsValues B :=
  { self with
    notifications :=
      { sound := account.notifications.sound
        badges := account.notifications.badges
        desktopNotifications := account.notifications.desktopNotifications
        messagePreviews := account.notifications.messagePreviews
        sendReadReceipts := account.notifications.sendReadReceipts
        sendTypingNotifications := account.notifications.sendTypingNotifications }
    delivery := account.delivery.canonicalize
    display.urlPreviewsEnabled := account.display.urlPreviewsEnabled
    display.encryptedUrlPreviewsEnabled := account.display.encryptedUrlPreviewsEnabled
    sidebar := account.sidebar
    roomListSort := account.roomListSort
    composer.recentEmojis := canonicalizeRecentEmojis account.recentEmojis
    searchCrawler.includeMediaCaptions := account.searchCrawler.includeMediaCaptions
    searchCrawler.includeFilenames := account.searchCrawler.includeFilenames }

/-- The whole blocks of a patch that belong to the application. -/
def applyAppBlocks (patch : SettingsPatch B) : SettingsValues B :=
  { self with
    locale := patch.locale.getD self.locale
    appearance := patch.appearance.getD self.appearance
    typography := patch.typography.getD self.typography
    keyboard := patch.keyboard.getD self.keyboard
    media := patch.media.getD self.media
    timeline := patch.timeline.getD self.timeline
    threadListOrder := patch.threadListOrder.getD self.threadListOrder
    window := patch.window.getD self.window
    updates := patch.updates.getD self.updates
    mcp := patch.mcp.getD self.mcp
    legacyFrontendPreferencesImported :=
      patch.legacyFrontendPreferencesImported.getD self.legacyFrontendPreferencesImported }

/-- The whole blocks of a patch that belong to the account. -/
def applyAccountBlocks (patch : SettingsPatch B) : SettingsValues B :=
  let roomListSort := patch.roomListSort.getD self.roomListSort
  let sidebar := patch.sidebar.getD self.sidebar
  { self with
    notifications := patch.notifications.getD self.notifications
    delivery := (patch.delivery.map fun delivery =>
      self.delivery.applyPatch delivery patch.deliveryBindingsFromCore).getD self.delivery
    roomListSort
    sidebar := (patch.sidebarSection.map fun sidebarSection =>
      sidebar.applySectionPatch sidebarSection roomListSort).getD sidebar }

def applyPatch (patch : SettingsPatch B) : SettingsValues B :=
  let applyApp := patch.scope ≠ some .account
  let applyAccount := patch.scope ≠ some .app
  let self := if applyApp then self.applyAppBlocks patch else self
  let self := if applyAccount then self.applyAccountBlocks patch else self
  { self with
    composer :=
      match patch.composer with
      | none => self.composer
      | some composer =>
        { mathMode := if applyApp then composer.mathMode else self.composer.mathMode
          recentEmojis :=
            if applyAccount then canonicalizeRecentEmojis composer.recentEmojis
            else self.composer.recentEmojis }
    display :=
      match patch.display with
      | none => self.display
      | some display =>
        let app := if applyApp then display else self.display
        let account := if applyAccount then display else self.display
        { codeBlockWrap := app.codeBlockWrap
          hideRedacted := app.hideRedacted
          urlPreviewsEnabled := account.urlPreviewsEnabled
          encryptedUrlPreviewsEnabled := account.encryptedUrlPreviewsEnabled }
    searchCrawler :=
      match patch.searchCrawler with
      | none => self.searchCrawler
      | some searchCrawler =>
        let account := if applyAccount then searchCrawler else self.searchCrawler
        { speed := if applyApp then searchCrawler.speed else self.searchCrawler.speed
          includeMediaCaptions := account.includeMediaCaptions
          includeFilenames := account.includeFilenames } }

end SettingsValues

def AppSettingsValues.applyPatch (self : AppSettingsValues B) (patch : SettingsPatch B) :
    AppSettingsValues B :=
  if patch.scope = some .account then self
  else
    { locale := patch.locale.getD self.locale
      appearance := patch.appearance.getD self.appearance
      typography := patch.typography.getD self.typography
      keyboard := patch.keyboard.getD self.keyboard
      composerMathMode := (patch.composer.map (·.mathMode)).getD self.composerMathMode
      display := (patch.display.map fun value => ⟨value.codeBlockWrap, value.hideRedacted⟩).getD self.display
      media := patch.media.getD self.media
      timeline := patch.timeline.getD self.timeline
      threadListOrder := patch.threadListOrder.getD self.threadListOrder
      searchCrawlerSpeed := (patch.searchCrawler.map (·.speed)).getD self.searchCrawlerSpeed
      window := patch.window.getD self.window
      updates := patch.updates.getD self.updates
      mcp := patch.mcp.getD self.mcp
      legacyFrontendPreferencesImported :=
        patch.legacyFrontendPreferencesImported.getD self.legacyFrontendPreferencesImported }

/-- A patch of the record is, for the application, a patch of its own half. -/
theorem appSettings_applyPatch (self : SettingsValues B) (patch : SettingsPatch B) :
    (self.applyPatch patch).appSettings = self.appSettings.applyPatch patch := by
  rcases patch with ⟨scope, _, _, _, _, composer, _, _, _, display, _, _, _, _, searchCrawler, _⟩
  -- Only the divided blocks are looked at, so every case is the same record on both sides.
  rcases scope with _ | _ | _ <;> cases composer <;> cases display <;> cases searchCrawler <;> rfl

/-- The record of all settings is its two halves, and patches respect the halves: what
the application's file holds after a patch is what patching that file gives, and a patch
of one scope leaves the other half as it was. -/
theorem split_lossless_and_patched_apart (self target : SettingsValues B) (patch : SettingsPatch B) :
    (self.delivery.canonicalize = self.delivery →
      canonicalizeRecentEmojis self.composer.recentEmojis = self.composer.recentEmojis →
      (target.applyAppSettings self.appSettings).applyAccountSettings self.accountSettings = self) ∧
    (self.applyPatch patch).appSettings = self.appSettings.applyPatch patch ∧
    (patch.scope = some .app → (self.applyPatch patch).accountSettings = self.accountSettings) ∧
    (patch.scope = some .account → (self.applyPatch patch).appSettings = self.appSettings) := by
  refine ⟨?_, appSettings_applyPatch self patch, ?_, ?_⟩
  · intro delivery emojis
    unfold SettingsValues.applyAccountSettings SettingsValues.accountSettings
    rw [delivery, emojis]
    rfl
  · rcases patch with ⟨scope, _, _, _, _, composer, _, _, _, display, _, _, _, _, searchCrawler, _⟩
    rintro ⟨⟩
    cases composer <;> cases display <;> cases searchCrawler <;> rfl
  · intro account
    rw [appSettings_applyPatch]
    exact if_pos account

/-- Settings with one emoji and no sink. -/
def emojiSettings (display : DisplaySettings) :
    SettingsValues ⟨Unit, Unit, Unit, Unit, Unit, Unit, Unit, Unit, Unit, Unit, Unit⟩ :=
  ⟨(), (), (), (), ⟨true, ["👍"]⟩, ⟨true, true, true, false, true, true⟩, ⟨[]⟩, display, (), (), (),
    .recentFirst, ⟨(), true, true⟩, ⟨⟨false, false, false⟩, ∅⟩, (), (), (), false⟩

def displayPatch (scope : SettingsPatchScope) (display : DisplaySettings) : SettingsPatch B :=
  ⟨some scope, none, none, none, none, none, none, none, false, some display, none, none, none, none, none, none,
    none, none, none, none, none⟩

theorem split_lossless_and_patched_apart_oneEmoji :
    let shown : DisplaySettings := ⟨true, true, true, true⟩
    let hidden : DisplaySettings := ⟨false, false, false, false⟩
    let self := emojiSettings shown
    ((emojiSettings hidden).applyAppSettings self.appSettings).applyAccountSettings self.accountSettings = self ∧
    (self.applyPatch (displayPatch .app hidden)).accountSettings = self.accountSettings ∧
    (self.applyPatch (displayPatch .account hidden)).appSettings = self.appSettings := by
  intro shown hidden self
  have apart := split_lossless_and_patched_apart self (emojiSettings hidden)
  exact ⟨(apart (displayPatch .app hidden)).1 rfl (by decide +kernel), (apart _).2.2.1 rfl, (apart _).2.2.2 rfl⟩

end Koushi.Settings
