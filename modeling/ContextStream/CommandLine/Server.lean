import ContextStream.CommandLine.Exit

/-!
# The command of the callback server
-/

namespace ContextStream.CommandLine.Server

/-- Where the server listens. -/
structure Settings where
  host : String := "127.0.0.1"
  port : UInt16 := 8081
  deriving DecidableEq, Repr

/-- The host. -/
def host : Parameter Settings where
  form := .named none "host"
  value := "HOST"
  about := "Address to bind"
  default := some ({} : Settings).host
  store text settings := (readAddress text).map fun host => { settings with host }

/-- The port. -/
def port : Parameter Settings where
  form := .named (some 'p') "port"
  value := "PORT"
  about := "Port to listen on"
  default := some (toString ({} : Settings).port)
  store text settings := (readPort text).map fun port => { settings with port }

/-- The command. -/
def command : Command Settings where
  name := "ctxgen-callback"
  version := "0.1.0"
  about := "Echo server that logs and acknowledges every POST"
  places := []
  options := [host, port]
  initial := {}

/-- Where the server is to listen, or how the call of the command ends. -/
def read (arguments : List String) : Except Exit Settings :=
  (command.read arguments).mapError (·.exit command)

end ContextStream.CommandLine.Server
