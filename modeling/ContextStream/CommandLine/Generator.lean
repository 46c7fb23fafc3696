import ContextStream.Application
import ContextStream.CommandLine.Exit

/-!
# The command of the generator

The command takes the path of a configuration, prepares the directory of log files if
one is wanted, and runs the generator.
-/

namespace ContextStream.CommandLine.Generator

/-- The path of the configuration. -/
def path : Parameter String where
  form := .place
  value := "CONFIG"
  about := "Path to the JSON configuration file"
  default := none
  store text _ := readPath text

/-- The command. Its settings are the path. -/
def command : Command String where
  name := "ctxgen"
  version := "0.1.0"
  about := "Generate context assertion graphs and push them to a hub"
  places := [path]
  options := []
  initial := ""

/-- What a call of the command leaves behind. -/
structure Call where
  /-- How it ended, if it has. -/
  exit : Option Exit
  /-- The log, if it was begun. -/
  lines : Option (List Log.Line) := none
  requests : List Http.Request := []

/-- The end of a session. -/
def exitOf : Except Application.Failure Scheduler.Summary → Exit
  | .ok _ => {}
  | .error failure => .ofChain failure.chain

/-- Calls the command. `logs` is what stands under the path for log files, if there is
one. -/
def run (surroundings : Application.Surroundings) (logs : Option File) (interrupt : Nat)
    (arguments : List String) : Call :=
  match command.read arguments with
  | .error ending => { exit := some (ending.exit command) }
  | .ok path =>
      match logs.bind File.directoryFault? with
      | some fault => { exit := some (.ofChain [fault.message]) }
      | none =>
          let session := Application.run surroundings path interrupt
          { exit := session.result.map exitOf
            lines := some session.lines
            requests := session.requests }

end ContextStream.CommandLine.Generator
