import ContextStream.Callback.Server
import ContextStream.Callback.Wire
import ContextStream.CommandLine.Generator
import ContextStream.CommandLine.Server
import ContextStream.Http.Wire
import Std.Async.DNS
import Std.Async.Signal
import Std.Async.TCP

/-!
# The programs

One executable is the generator, and under another name the callback server. What is
decided is decided elsewhere: here clocks are read, bytes are sent and received, and
lines are written.
-/

namespace ContextStream.Program

open Std.Async Std.Net

/-! ## Clocks and chance -/

/-- The milliseconds since the beginning of 1970. -/
def wallTime : IO Int64 := do
  let now ← Std.Time.Timestamp.now
  return Int64.ofInt now.toMillisecondsSinceUnixEpoch.val

/-- The day, as it stands in the names of log files, and the time of a line. -/
def dayAndTime : IO (String × String) := do
  let now ← Std.Time.Timestamp.now
  let date := Std.Time.PlainDateTime.ofWallTime
    (Std.Time.WallTime.ofTimestamp now Std.Time.TimeZone.Offset.zero)
  return (date.format "uuuu-MM-dd", date.format "uuuu-MM-dd'T'HH:mm:ss.SSSSSS'Z'")

/-- Random bits. -/
def randomBits : IO (BitVec 128) := do
  let bytes ← IO.getRandomBytes 16
  return BitVec.ofNat 128 (bytes.foldl (fun n byte => 256 * n + byte.toNat) 0)

/-- Begins to wait for an interrupt. -/
def awaitInterrupt : IO Signal.Waiter := do
  let interrupt ← Signal.Waiter.mk .sigint false
  discard interrupt.wait
  return interrupt

/-- Whether there was an interrupt. -/
def hasCome (interrupt : Signal.Waiter) : IO Bool := do
  IO.hasFinished (← interrupt.wait)

/-- Sleeps until a moment of the monotonic clock, or until an interrupt. -/
partial def sleepUntil (interrupt : Signal.Waiter) (moment : Nat) : IO Unit := do
  let now ← IO.monoMsNow
  if moment ≤ now then return
  if ← hasCome interrupt then return
  IO.sleep (min 20 (moment - now)).toUInt32
  sleepUntil interrupt moment

/-! ## Files and lines -/

/-- What stands under a path. -/
def lookUp (path : String) : IO File := do
  try
    return .content (← IO.FS.readBinFile path).toList
  catch
    | .inappropriateType _ code _ => return if code = 21 then .directory else .blocked
    | _ => return .absent

/-- Writes the lines that are kept, also to the file of the day if there is a directory
for it. -/
def report (directory : Option String) (lines : List Log.Line) : IO Unit := do
  for text in Log.fileLines lines do
    let (day, time) ← dayAndTime
    let line := time ++ " " ++ text
    IO.eprintln line
    if let some directory := directory then
      let handle ← IO.FS.Handle.mk (directory ++ "/" ++ Log.fileName day) .append
      handle.putStrLn line

/-- Writes what a program leaves behind. -/
def leave (exit : CommandLine.Exit) : IO UInt32 := do
  IO.print exit.output
  IO.eprint exit.errors
  return exit.code.toUInt32

/-! ## The network -/

/-- All bytes until the connection ends. -/
partial def receiveAll (socket : TCP.Socket.Client) (bytes : ByteArray) : IO ByteArray := do
  match ← (socket.recv? 65536).block with
  | some more => receiveAll socket (bytes ++ more)
  | none => return bytes

/-- The address of a host. -/
def resolve (host : Url.Host) : IO (Option IPAddr) := do
  match host with
  | .ipv6 pieces => return (IPv6Addr.ofString (String.ofList (Url.Ipv6.text pieces))).map .v6
  | other =>
      match IPv4Addr.ofString other.text with
      | some address => return some (.v4 address)
      | none => return (← (DNS.getAddrInfo other.text "").block)[0]?

/-- An address with a port. -/
def atPort (address : IPAddr) (port : UInt16) : SocketAddress :=
  match address with
  | .v4 address => .v4 ⟨address, port⟩
  | .v6 address => .v6 ⟨address, port⟩

/-- What the network makes of a request: an answer, or the causes of a failure. -/
abbrev Answer := Except (List String) Http.Response

/-- Sends a request and waits for the answer. -/
def ask (request : Http.Request) : IO Answer := do
  let failed (cause : String) : Answer := .error ["error trying to connect", cause]
  match request.url.scheme, request.url.host, request.url.port with
  | "http", some host, some port =>
      try
        match ← resolve host with
        | none => return failed "dns error"
        | some address =>
            let socket ← TCP.Socket.Client.mk
            (socket.connect (atPort address (UInt16.ofNat port))).block
            (socket.send ⟨request.frame.bytes.toArray⟩).block
            let bytes ← receiveAll socket .empty
            match Http.Response.ofBytes? bytes.toList with
            | some response => return .ok response
            | none => return .error ["connection closed before message completed"]
      catch error => return failed ("tcp connect error: " ++ toString error)
  | _, _, _ => return failed "invalid URL, scheme is not http"

/-! ## The generator -/

open Application

/-- A session that goes on. -/
structure Ongoing where
  config : Config
  machine : Scheduler.Machine Memory
  /-- What the monotonic clock showed at the beginning. -/
  start : Nat
  directory : Option String
  interrupt : Signal.Waiter

/-- Surroundings at a moment at which the clock shows a time, with two identifiers. -/
def surroundingsAt : IO Surroundings := do
  let first ← randomBits
  let second ← randomBits
  let time ← wallTime
  return {
    file := fun _ => .absent
    network := fun _ => .error []
    time
    clock := fun _ _ => time
    randomBits := fun n => if n % 2 = 0 then first else second }

/-- Changes the machine, and asks the network for the answers that this takes. A delivery
lasts as long as these take. -/
partial def change (surroundings : Surroundings) (config : Config)
    (next : Scheduler.World Memory → Scheduler.Machine Memory) (begun : Nat)
    (answers : List Answer) : IO (Scheduler.Machine Memory) := do
  let elapsed := (← IO.monoMsNow) - begun
  let network : Http.Network := fun requests =>
    answers[requests.length - 1]?.getD (.error [])
  let machine := next (world { surroundings with network, delay := fun _ => elapsed } config)
  match machine.memory.requests[answers.length]? with
  | some request => change surroundings config next begun (answers ++ [← ask request])
  | none => return machine

/-- Writes what happened, and forgets it. -/
def publishLines (session : Ongoing) (machine : Scheduler.Machine Memory) :
    IO Ongoing := do
  report session.directory (machine.events.flatMap fun event => lines session.config event.2)
  let memory := { machine.memory with requests := [] }
  return { session with machine := { machine with trace := [], memory } }

/-- Goes on until the session has ended. -/
partial def goOn (session : Ongoing) : IO (Option (Except Error Scheduler.Summary)) := do
  let { config, machine, start, interrupt, .. } := session
  match machine.result?, machine.due? with
  | some result, _ => return some result
  | none, none => return none
  | none, some due =>
      sleepUntil interrupt (start + due)
      let interrupted ← hasCome interrupt
      let next (world : Scheduler.World Memory) : Scheduler.Machine Memory :=
        if !machine.cancelled && interrupted then machine.cancel world
        else machine.resume world config
      let machine ← change (← surroundingsAt) config next (← IO.monoMsNow) []
      goOn (← publishLines session machine)

/-- Runs the generator. -/
def generate (directory : Option String) (path : String) : IO CommandLine.Exit := do
  let interrupt ← awaitInterrupt
  let (loaded, loading) := load path (← lookUp path)
  report directory loading
  match loaded with
  | .error failure => return .ofChain failure.chain
  | .ok config =>
      let idle : Scheduler.Machine Memory := { memory := {} }
      let start ← IO.monoMsNow
      let machine ← change (← surroundingsAt) config (fun world => idle.start world config)
        start []
      let session ← publishLines ⟨config, idle, start, directory, interrupt⟩ machine
      match ← goOn session with
      | some (.error error) => return .ofChain (Failure.running error).chain
      | _ => return {}

/-- The program of the generator. -/
def generator (arguments : List String) : IO UInt32 := do
  match CommandLine.Generator.command.read arguments with
  | .error ending => leave (ending.exit CommandLine.Generator.command)
  | .ok path =>
      match ← IO.getEnv Log.directoryVariable with
      | none => leave (← generate none path)
      | some directory =>
          match (← lookUp directory).directoryFault? with
          | some fault => leave (.ofChain [fault.message])
          | none =>
              IO.FS.createDirAll directory
              leave (← generate (some directory) path)

/-! ## The callback server -/

/-- Receives a request. -/
partial def receiveRequest (socket : TCP.Socket.Client) (bytes : ByteArray) :
    IO (Option Callback.Request) := do
  match Callback.Request.ofBytes? bytes.toList with
  | some request => return some request
  | none =>
      match ← (socket.recv? 65536).block with
      | some more => receiveRequest socket (bytes ++ more)
      | none => return none

/-- Writes an entry of the server. -/
def say (entry : Log.Entry) : IO Unit := do
  IO.println (Log.Line.text ⟨none, entry⟩)
  (← IO.getStdout).flush

/-- Answers the request of one connection. -/
def answer (socket : TCP.Socket.Client) : IO Unit := do
  let some request ← receiveRequest socket .empty | return
  let (response, entries) := Callback.respond request
  entries.forM say
  (socket.send ⟨response.frame.bytes.toArray⟩).block
  socket.shutdown.block

/-- Answers connections until an interrupt. -/
partial def serve (server : TCP.Socket.Server) (interrupt : Signal.Waiter)
    (next : AsyncTask TCP.Socket.Client) : IO Unit := do
  if ← hasCome interrupt then return
  if ← IO.hasFinished next then
    try answer (← next.block) catch _ => pure ()
    serve server interrupt (← server.accept.toIO)
  else
    IO.sleep 20
    serve server interrupt next

/-- The program of the callback server. -/
def callbackServer (arguments : List String) : IO UInt32 := do
  match CommandLine.Server.read arguments with
  | .error exit => leave exit
  | .ok settings =>
      let address :=
        ((IPv4Addr.ofString settings.host).map IPAddr.v4).orElse fun _ =>
          (IPv6Addr.ofString settings.host).map .v6
      match address with
      | none => leave (.ofChain ["invalid address"])
      | some address =>
          let interrupt ← awaitInterrupt
          let server ← TCP.Socket.Server.mk
          server.bind (atPort address settings.port)
          server.listen 128
          say (Callback.Server.startEntry (toString (← server.getSockName)))
          serve server interrupt (← server.accept.toIO)
          say Callback.Server.stopEntry
          return 0

end ContextStream.Program

/-- The generator, or the callback server if the executable has its name. -/
def main (arguments : List String) : IO UInt32 := do
  let name := (← IO.appPath).fileName
  if name = some ContextStream.CommandLine.Server.command.name then
    ContextStream.Program.callbackServer arguments
  else ContextStream.Program.generator arguments
