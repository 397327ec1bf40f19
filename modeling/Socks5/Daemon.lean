import Socks5.CommandLine
import Socks5.Host
import Socks5.Log.Filter.Text
import Socks5.Start

/-!
# `Socks5.Daemon`: a run of the program

The program reads its configuration, binds its listener and serves until
a signal stops it. What it reports on the way are notices; a filter says
which of them show up in the log.
-/

set_option autoImplicit false

namespace Socks5

open Net

/-- What stops a server from the outside. -/
inductive Signal where
  | terminate
  | interrupt
  deriving Repr, DecidableEq, Inhabited

namespace Daemon

/-- What the program reports of itself. -/
inductive Notice where
  | configLoaded (path : String)
  | started
  | listenAddress (address : String)
  | authRequired
  | listening (bound : Endpoint)
  | received (signal : Signal)
  | stopping
  deriving Repr, DecidableEq, Inhabited

namespace Notice

/-- What the log says when the server listens at a place. -/
def listeningText (place : String) : String := s!"Listening for SOCKS5 clients on {place}"

/-- What the log says. -/
def text : Notice → String
  | .configLoaded path => s!"Configuration loaded from: {Text.quoted path}"
  | .started => s!"Sockwire v{CommandLine.programVersion}"
  | .listenAddress address => s!"Listen address: {address}"
  | .authRequired => "Username/password authentication required"
  | .listening bound => listeningText bound.toText
  | .received .terminate => "Received SIGTERM, shutting down..."
  | .received .interrupt => "Received Ctrl+C, shutting down..."
  | .stopping => "Shutdown signal received, stopping server"

/-- The source of the notice: the program, or the server in it. -/
def source : Notice → String
  | .listening _ | .stopping => "sockwire::server"
  | _ => "sockwire"

/-- The notice in the log. -/
def entry (e : Notice) : Log.Entry := ⟨.info, e.text⟩

end Notice

/-- What the log shows of a client that could not be accepted. -/
def acceptFailedEntry (e : IoError) : Log.Entry :=
  ⟨.warn, s!"Failed to accept connection: {e.message}"⟩

/-- What a run reports, and how it ends. -/
structure Run where
  notices : List Notice
  result : Except StartError Unit

/-- Checks a configuration and binds its listener. -/
def openListener (host : Host) (c : Config) : Except StartError Endpoint := do
  let c ← c.check
  match host.bind c.listenAddress with
  | .ok bound => return bound
  | .error cause => throw (.unbound c.listenAddress cause)

/-- Runs a server. Between listening and stopping, notices that come from
outside are reported. -/
def runServer (host : Host) (c : Config) (outside : List Notice) : Run :=
  match openListener host c with
  | .error e => ⟨[], .error e⟩
  | .ok bound => ⟨.listening bound :: outside ++ [.stopping], .ok ()⟩

/-- The configuration that options ask for, and what loading it reports. -/
def configure (files : String → Option Bytes) (o : CommandLine.Options) :
    Except StartError (List Notice × Config) := do
  let (notices, c) ←
    match o.config with
    | some path => pure ([Notice.configLoaded path], ← Config.load path (files path))
    | none => pure ([], {})
  return (notices, { c with listenAddress := o.listen.getD c.listenAddress })

/-- What is reported of a configuration before the server runs. -/
def announce (c : Config) : List Notice :=
  [.started, .listenAddress c.listenAddress] ++
    if c.policy.authRequired then [.authRequired] else []

/-- Runs the program until a signal stops it. -/
def run (host : Host) (files : String → Option Bytes) (signal : Signal)
    (o : CommandLine.Options) : Run :=
  match configure files o with
  | .error e => ⟨[], .error e⟩
  | .ok (notices, c) =>
    let served := runServer host c [.received signal]
    { served with notices := notices ++ announce c ++ served.notices }

/-- The filter of the log. A well-formed setting of the environment counts
more than the option. With one that is torn the program breaks off. -/
def filter? (environment : Option String) (o : CommandLine.Options) : Option Log.Filter :=
  match environment.map Log.Filter.parse with
  | some (.ok f) => some f
  | some (.error .torn) => none
  | some (.error .malformed) | none => some (.upTo (.ofWord (o.logLevel.getD "info")))

/-- The exit code of a program that breaks off. -/
def brokenExitCode : UInt8 := 101

/-- What a program says that breaks off because of its filter. -/
def brokenText : String := "the filter of the log is cut inside a character"

/-- The notices that show up in the log. -/
def Run.shown (r : Run) (f : Log.Filter) : List Notice :=
  r.notices.filter fun e => f.shows e.source e.entry.level

/-- The exit code of a run. -/
def Run.exitCode (r : Run) : UInt8 :=
  match r.result with
  | .ok () => 0
  | .error _ => 1

/-- What a failed run says at its end. -/
def failureText (e : StartError) : String :=
  match e.cause? with
  | some cause => s!"Error: {e.message}\n\nCaused by:\n    {cause}"
  | none => s!"Error: {e.message}"

end Daemon

end Socks5
