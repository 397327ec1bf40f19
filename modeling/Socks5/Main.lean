import Socks5.Daemon
import Socks5.Live
import Socks5.Log.Line
import Std.Async.Signal

/-!
# `Socks5.Main`: the program

Reads the arguments and the configuration, listens and serves every
client on its own until a signal arrives. The log goes to standard
output, the reason of a failed start to standard error.
-/

set_option autoImplicit false

namespace Socks5.Main

open Net Std.Async

/-- Where the log goes. -/
structure Journal where
  filter : Log.Filter
  json : Bool

namespace Journal

/-- Writes an entry, if it is shown. -/
def write (j : Journal) (source : String) (e : Log.Entry) : IO Unit := do
  if j.filter.shows source e.level then
    IO.println (if j.json then e.toJson source else e.toLine source)
    (← IO.getStdout).flush

/-- Writes a notice of the program. -/
def report (j : Journal) (e : Daemon.Notice) : IO Unit := j.write e.source e.entry

end Journal

/-- The bytes of a file, if it can be read. -/
def readFile (path : String) : IO (Option Bytes) := do
  try
    return some (← IO.FS.readBinFile path).toList
  catch _ => return none

/-- Listens at the first endpoint that lets it. -/
def listenAny (failure : String) :
    List Endpoint → Async (Except String (TCP.Socket.Server × Endpoint))
  | [] => return .error failure
  | e :: es => do
    let opened ← Live.attempt (do
      let server ← TCP.Socket.Server.mk
      server.bind (Live.toSystem e)
      server.listen 1024
      return (server, Live.ofSystem (← server.getSockName)))
    match opened with
    | .ok r => return .ok r
    | .error fault => listenAny fault.message es

/-- Listens where a text says. -/
def listen (text : String) : Async (Except String (TCP.Socket.Server × Endpoint)) := do
  match ListenAddress.parse text with
  | .error cause => return .error cause
  | .ok place =>
    let directory ←
      match place with
      | .named host _ => Live.lookUp host
      | .endpoint _ => pure .offline
    match place.endpoints directory with
    | .error cause => return .error cause
    | .ok es => listenAny "could not resolve to any address" es

/-- Serves every client on its own. Never ends by itself. -/
partial def serveAll (journal : Journal) (policy : Policy) (server : TCP.Socket.Server) :
    Async Unit := do
  match ← Live.attempt server.accept with
  | .ok socket => background (Live.serve policy (journal.write "sockwire::socks") socket)
  | .error e =>
    journal.write "sockwire::server" (Daemon.acceptFailedEntry e)
    sleep 100
  serveAll journal policy server

/-- Waits for a signal that stops the server. -/
def awaitSignal : Async Signal := do
  let terminate ← Signal.Waiter.mk .sigterm false
  let interrupt ← Signal.Waiter.mk .sigint false
  Async.race
    (do let _ ← await (← terminate.wait); return .terminate)
    (do let _ ← await (← interrupt.wait); return .interrupt)

/-- Runs a server with a usable configuration. -/
def runServer (journal : Journal) (c : Config) : Async (Except StartError Unit) := do
  match ← listen c.listenAddress with
  | .error cause => return .error (.unbound c.listenAddress cause)
  | .ok (server, bound) =>
    journal.report (.listening bound)
    background (serveAll journal c.policy server)
    let s ← awaitSignal
    journal.report (.received s)
    journal.report .stopping
    return .ok ()

/-- Runs the program with the given options. -/
def run (filter : Log.Filter) (o : CommandLine.Options) : IO (Except StartError Unit) := do
  let journal : Journal := { filter, json := o.jsonLog }
  let content ←
    match o.config with
    | some path => readFile path
    | none => pure none
  match Daemon.configure (fun _ => content) o with
  | .error e => return .error e
  | .ok (notices, c) =>
    (notices ++ Daemon.announce c).forM journal.report
    match c.check with
    | .error e => return .error e
    | .ok c => (runServer journal c).block

end Socks5.Main

/-- Does what the arguments ask for. -/
def main (args : List String) : IO UInt32 := do
  match Socks5.CommandLine.plan args with
  | .showHelp =>
    IO.println Socks5.CommandLine.helpText
    return 0
  | .showVersion =>
    IO.println Socks5.CommandLine.versionText
    return 0
  | .misuse =>
    IO.eprintln Socks5.CommandLine.misuseText
    return 2
  | .serve options =>
    match Socks5.Daemon.filter? (← IO.getEnv "RUST_LOG") options with
    | none =>
      IO.eprintln Socks5.Daemon.brokenText
      return Socks5.Daemon.brokenExitCode.toUInt32
    | some filter =>
      match ← Socks5.Main.run filter options with
      | .ok () => return 0
      | .error e =>
        IO.eprintln (Socks5.Daemon.failureText e)
        return 1
