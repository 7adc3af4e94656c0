import UserDirectory.Startup

/-!
# Main — the command

Reads the settings from the arguments, the environment and the file that either of them names,
and shows what they select.  It ends with status 1 if there are no settings, or if the service
cannot start with them.
-/

namespace UserDirectory.Command

/-- The name of the variable for a setting. -/
def variableName (setting : String) : String := "USER_SERVICE_" ++ setting.toUpper

/-- The variables that are set, by the names of their settings. -/
def environment : IO (List (String × String)) := do
  let names := NumberSetting.all.map NumberSetting.name ++ TextSetting.all.map TextSetting.name
  let found ← names.mapM fun name => do
    return (← IO.getEnv (variableName name)).map (name, ·)
  return found.filterMap id

/-- The text of a file, if it can be read. -/
def textAt (path : String) : IO (Option String) := do
  try return some (← IO.FS.readFile path)
  catch _ => return none

/-- The text of the configuration file that the environment names, if it names one. -/
def configuration : IO (Option String) := do
  match ← IO.getEnv (variableName "config_path") with
  | none => return none
  | some path => textAt path

/-- The files that the arguments can name, of which only the one that they do name is read. -/
def files (args : List String) : IO (String → Option String) := do
  match (Settings.readArguments args).bind Settings.configPath? with
  | none => return fun _ => none
  | some path =>
    let text ← textAt path
    return fun p => if p = path then text else none

/-- A number setting and its value. -/
def numberLine (s : Settings) (n : NumberSetting) : String := n.name ++ " = " ++ (s.number n).repr

/-- What settings select, or why the service cannot start with them. -/
def summary (s : Settings) : Except String (List String) := do
  let _ ← (Startup.store s).mapError Startup.StartupError.message
  let _ ← (Startup.publisher Unit s).mapError Startup.StartupError.message
  return ["address = " ++ s.bindAddress, "service_name = " ++ s.serviceName,
    "events_channel = " ++ s.eventsChannel] ++ NumberSetting.all.map (numberLine s)

/-- What the sources of settings lead to. -/
def report (src : SettingsSources) : Except String (List String) := do
  summary (← (Settings.load src).mapError SettingsFault.message)

end UserDirectory.Command

open UserDirectory in
/-- Runs the command. -/
def main (args : List String) : IO UInt32 := do
  try
    let src : SettingsSources :=
      ⟨args, ← Command.environment, ← Command.configuration, ← Command.files args⟩
    match Command.report src with
    | .ok lines =>
      lines.forM IO.println
      return 0
    | .error reason =>
      IO.eprintln reason
      return 1
  catch e =>
    IO.eprintln ("failed to read settings: " ++ e.toString)
    return 1
