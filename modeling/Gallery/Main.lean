import Gallery.Service.Answer
import Gallery.Service.Setup
import Gallery.Settings.EnvFile

-- The command. It reads the settings from the environment and from the file `.env`, sets the
-- service up over a store of its own, and tells whether the service is ready for requests.

namespace Gallery

-- The environment of the process, as far as settings are read from it.
private def processEnvironment : IO Environment := do
  let known ← Settings.variableNames.mapM fun name => do
    return (← IO.getEnv name).map (name, ·)
  return ⟨known.filterMap id⟩

-- The environment with the defaults of the file. A file that cannot be read gives none.
private def withFile (env : Environment) : IO Environment := do
  try
    return EnvFile.apply (← IO.FS.readFile ".env") env
  catch _ => return env

-- No request is answered here, so nothing is asked of the libraries.
private def libraries : Libraries := ⟨"", fun _ _ => ""⟩

-- What the settings lead to: the service and its store, or what is wrong with them.
private def prepare (env : Environment) : Except String (Service × Store) := do
  let settings ← (Settings.ofEnvironment env).mapError SettingsError.message
  (Service.boot libraries settings env.isProduction .empty false).1.mapError SetupError.message

end Gallery

open Gallery in
def main : IO UInt32 := do
  match prepare (← withFile (← processEnvironment)) with
  | .ok (_, store) =>
    let status := Service.status store
    IO.println s!"{status.name} {status.version}: ready, with the {status.storageBackend} store"
    return 0
  | .error message =>
    IO.eprintln ("Error: " ++ message)
    return 1
