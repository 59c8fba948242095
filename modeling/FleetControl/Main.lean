import FleetControl.Config.Show

/-!
# The command line

`config` prints the configuration in effect, and `config --config FILE` the one that
a file sets.  In both cases the environment is laid over it.
-/

namespace FleetControl

/-- What the command line asks for. -/
inductive Command where
  | showConfig (file : Option String)

namespace Command

def ofArgs? : List String → Option Command
  | ["config"] => some (.showConfig none)
  | ["config", "--config", file] => some (.showConfig (some file))
  | _ => none

def usage : String :=
  "usage: config [--config FILE]"

/-- The variables that a configuration looks at. -/
def consulted : List String :=
  ["XDG_DATA_HOME", "HOME", "PANEL_BIND", "PANEL_DATA_DIR", "PANEL_PERSIST",
   "PANEL_BOOTSTRAP_TOKEN", "PANEL_ADMIN_TOKEN", "PANEL_MASTER_KEY",
   "PANEL_WINDOWS_ENABLED", "PANEL_LEASE_TTL_SECS", "PANEL_POLL_LIMIT"]

def environment : IO (String → Option String) := do
  let found ← consulted.mapM (fun name => do return (name, ← IO.getEnv name))
  return fun name => (found.lookup name).join

def readFile : Option String → IO Config.File
  | none => return .none
  | some path => do
      try
        return .text (← IO.FS.readFile path)
      catch _ =>
        return .absent

def run : Command → IO UInt32
  | .showConfig file => do
      let env ← environment
      match Config.load (Config.dataHome env) (← readFile file) env with
      | .ok config => do
          IO.print config.veiled.toFile
          return 0
      | .error e => do
          IO.eprintln e.message
          return 1

end Command
end FleetControl

def main (args : List String) : IO UInt32 :=
  match FleetControl.Command.ofArgs? args with
  | some command => command.run
  | none => do
      IO.eprintln FleetControl.Command.usage
      return 2
