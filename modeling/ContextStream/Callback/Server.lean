import ContextStream.Callback.Responder

/-!
# Serving requests

The server reports where it listens, answers one request after the other, and reports
that it ends.
-/

namespace ContextStream.Callback.Server

/-- An entry of the server. -/
def entry (message : String) : Log.Entry :=
  ⟨.info, "ctxgen_callback::server", message⟩

/-- The entry about a server that begins to listen. -/
def startEntry (address : String) : Log.Entry :=
  entry ("Starting callback server on " ++ address)

/-- The entry about a server that ends. -/
def stopEntry : Log.Entry :=
  entry "Callback server shutting down"

/-- The answers to requests, and what is reported about them, between the beginning
and the end of a server at an address. -/
def serve (address : String) (requests : List Request) : List Response × List Log.Entry :=
  let answers := requests.map respond
  (answers.map (·.1),
    startEntry address :: answers.flatMap (·.2) ++ [stopEntry])

end ContextStream.Callback.Server
