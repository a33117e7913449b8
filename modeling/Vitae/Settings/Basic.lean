import Vitae.Number.Decimal
import Vitae.Number.Shortest
import Vitae.Number.Whole
import Vitae.Number.Word
import Vitae.Settings.Entries
import Vitae.Settings.EnvFile

/-! The settings of the site, taken from nine environment variables. All but the address of
the contact form have a default. Four of them can be wrong, and they are checked in one
order whatever the others hold: the swipe threshold, the port, the address, the delay. -/

namespace Vitae

structure Settings where
  port : Nat
  logLevel : String
  siteRoot : String
  /-- To whom the contact form writes. -/
  contactEmail : String
  /-- The length of a transition in milliseconds. -/
  transitionDelay : Nat
  swipeThreshold : Float
  sectionOrder : List String
  infoSections : List String
  homeSection : Option String

inductive SettingsFault
  | thresholdUnreadable (cause : DecimalFault)
  | thresholdOutOfRange (value : Float)
  | portUnreadable (cause : WholeFault)
  | contactMissing
  | delayUnreadable (cause : WholeFault)

namespace SettingsFault

/-- What is wrong, without the reason. -/
def summary : SettingsFault → String
  | .thresholdUnreadable _ => "SWIPE_THRESHOLD_PX must be a number"
  | .thresholdOutOfRange value =>
    "SWIPE_THRESHOLD_PX must be a finite, non-negative number of pixels (got "
      ++ Shortest.plain value ++ ")"
  | .portUnreadable _ => "PORT must be a valid port number"
  | .contactMissing => "Required environment variable 'CONTACT_EMAIL' is not set"
  | .delayUnreadable _ => "TRANSITION_DELAY_MS must be a whole number of milliseconds"

/-- The reason behind it, if it has one. -/
def cause? : SettingsFault → Option String
  | .thresholdUnreadable cause => some cause.message
  | .thresholdOutOfRange _ => none
  | .portUnreadable cause => some cause.message
  | .contactMissing => none
  | .delayUnreadable cause => some cause.message

/-- The summary and the reason on one line. -/
def message (fault : SettingsFault) : String :=
  match fault.cause? with
  | none => fault.summary
  | some cause => fault.summary ++ ": " ++ cause

end SettingsFault

namespace Settings

/-- The variables that settings are read from. -/
def names : List String :=
  ["PORT", "RUST_LOG", "SITE_ROOT", "CONTACT_EMAIL", "TRANSITION_DELAY_MS",
   "SWIPE_THRESHOLD_PX", "SECTION_ORDER", "INFO_SECTIONS", "DEFAULT_SECTION"]

/-- The value of a variable that is there and says something. -/
def nonBlank (environment : Environment) (name : String) : Option String :=
  (environment name).filter fun value => !Text.blank value

/-- The swipe threshold: a number of pixels, finite and not below zero. -/
def readThreshold (environment : Environment) : Except SettingsFault Float :=
  match Decimal.read ((environment "SWIPE_THRESHOLD_PX").getD "50") with
  | .error cause => .error (.thresholdUnreadable cause)
  | .ok value =>
    if value.isFinite && 0.0 ≤ value then .ok value else .error (.thresholdOutOfRange value)

def readPort (environment : Environment) : Except SettingsFault Nat :=
  match Whole.read UInt16.size ((environment "PORT").getD "8080") with
  | .error cause => .error (.portUnreadable cause)
  | .ok value => .ok value

def readContact (environment : Environment) : Except SettingsFault String :=
  match nonBlank environment "CONTACT_EMAIL" with
  | none => .error .contactMissing
  | some email => .ok email

def readDelay (environment : Environment) : Except SettingsFault Nat :=
  match Whole.read Word.bound ((environment "TRANSITION_DELAY_MS").getD "50") with
  | .error cause => .error (.delayUnreadable cause)
  | .ok value => .ok value

/-- Reads the settings, or reports the first of them that is wrong. -/
def read (environment : Environment) : Except SettingsFault Settings := do
  let swipeThreshold ← readThreshold environment
  let port ← readPort environment
  let contactEmail ← readContact environment
  let transitionDelay ← readDelay environment
  return {
    port, contactEmail, transitionDelay, swipeThreshold
    logLevel := (environment "RUST_LOG").getD "info"
    siteRoot := (environment "SITE_ROOT").getD "./public"
    sectionOrder := entries ((environment "SECTION_ORDER").getD "overview,timeline,skills")
    infoSections := entries ((environment "INFO_SECTIONS").getD "changelog,projects")
    homeSection := nonBlank environment "DEFAULT_SECTION" }

end Settings

end Vitae
