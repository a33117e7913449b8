import Vitae.Site.Startup

/-! The command line: looks up the settings, in the environment and in the settings file
beside it, and tells whether the site can start with them. -/

namespace Vitae

/-- The name of the settings file. -/
def settingsFile : String := ".env"

/-- The variables that are set now. -/
def currentEnvironment : IO Settings.Environment := do
  let known ← Settings.names.filterMapM fun name => do
    return (← IO.getEnv name).map fun value => (name, value)
  return fun name => known.lookup name

/-- The text of the settings file, which may be missing. -/
def readSettingsFile : IO String := do
  try IO.FS.readFile settingsFile catch _ => return ""

end Vitae

def main : IO UInt32 := do
  let environment := Vitae.Settings.EnvFile.extend
    (← Vitae.currentEnvironment) (← Vitae.readSettingsFile)
  match Vitae.Site.start environment with
  | .error fault =>
    IO.eprintln fault.report
    return 1
  | .ok site =>
    IO.println s!"Ready to listen on 0.0.0.0:{site.settings.port}"
    return 0
