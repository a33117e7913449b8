import Vitae.Section.Catalog
import Vitae.Settings.Basic

/-! Bringing the site up: the settings first, then the catalog that they describe. What goes
wrong is told on the error stream, with the reason below it. -/

namespace Vitae

/-- What every answer of the site is made from. -/
structure Site where
  settings : Settings
  catalog : Catalog

inductive StartupFault
  | settings (fault : SettingsFault)
  | catalog (fault : CatalogFault)

namespace StartupFault

def summary : StartupFault → String
  | .settings fault => fault.summary
  | .catalog _ =>
    "SECTION_ORDER / INFO_SECTIONS / DEFAULT_SECTION do not form a valid catalog"

def cause? : StartupFault → Option String
  | .settings fault => fault.cause?
  | .catalog fault => some fault.message

/-- The report that the program ends with. -/
def report (fault : StartupFault) : String :=
  let cause :=
    match fault.cause? with
    | none => ""
    | some text => "\n\nCaused by:\n    " ++ text
  "Error: " ++ fault.summary ++ cause

end StartupFault

namespace Site

/-- Builds the site that an environment describes. -/
def start (environment : Settings.Environment) : Except StartupFault Site := do
  let settings ← (Settings.read environment).mapError .settings
  let catalog ←
    (Catalog.build settings.sectionOrder settings.infoSections settings.homeSection).mapError
      .catalog
  return { settings, catalog }

end Site

end Vitae
