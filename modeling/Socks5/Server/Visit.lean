import Socks5.Relay
import Socks5.Replay
import Socks5.Server

/-!
# `Socks5.Server.Visit`: a connection served to its end

A visit is a client's stream, served by the dialogue of `Socks5.Server`
and, once the tunnel is open, by the relay. An error in the relay ends
the connection like any other end; the visit counts as served.
-/

set_option autoImplicit false

namespace Socks5.Server

open Net

/-- What went through an open tunnel. -/
structure Tunnel where
  /-- From the client to the remote side. -/
  up : Bytes
  /-- From the remote side to the client. -/
  down : Bytes
  /-- Whether the client's stream was shut down. -/
  clientClosed : Bool
  /-- Whether the remote stream was shut down. -/
  remoteClosed : Bool
  deriving Repr, DecidableEq, Inhabited

/-- What an observer sees of a visit. -/
structure Visit where
  result : Except ServiceError Unit
  /-- What happened. Of the tunnel it holds the log only. -/
  history : History
  /-- Bytes of the client that nobody took. -/
  unread : Bytes
  elapsed : Nat
  tunnel : Option Tunnel

/-- How a visit goes. -/
inductive Visited where
  /-- It waits for what never comes. -/
  | stalled (history : History)
  | finished (v : Visit)

/-- The visit that ends before a tunnel opens. -/
def visitWithoutTunnel (result : Except ServiceError Unit) (s : Scene) : Visit where
  result
  history := s.history
  unread := Script.bytes s.stream.script
  elapsed := s.clock
  tunnel := none

/-- What the log shows of a tunnel through which so many bytes went. -/
def closedEntry (up down : Nat) : Log.Entry :=
  ⟨.info, s!"Connection closed: {up} bytes up, {down} bytes down"⟩

/-- What the log shows of a tunnel that broke. -/
def brokenEntry (e : IoError) : Log.Entry := ⟨.debug, s!"Relay ended: {e.message}"⟩

/-- What the log shows of a visit that failed. -/
def failedEntry (e : ServiceError) : Log.Entry :=
  ⟨.debug, s!"Connection ended with error: {e.message}"⟩

/-- What the log shows of a relay that serves a tunnel. -/
def tunnelLog (o : Relay.Outcome) : List Log.Entry :=
  o.log ++ match o.ending with
    | .finished => [closedEntry o.up.moved.length o.down.moved.length]
    | .failed e => [brokenEntry e]
    | .stuck => []

/-- The visit that goes on through a tunnel. -/
def visitThrough (s : Scene) (remote : Stream) : Visited :=
  let o := Relay.between s.stream remote
  let history := s.history ++ (tunnelLog o).map .noted
  match o.ending with
  | .stuck => .stalled history
  | _ => .finished {
      result := .ok ()
      history
      unread := Script.bytes o.up.source
      elapsed := s.clock + o.seconds
      tunnel := some ⟨o.up.moved, o.down.moved, o.down.closed, o.up.closed⟩ }

/-- Serves a client. -/
def visit (policy : Policy) (connector : Connector) (client : Stream) : Visited :=
  match (serve policy).run connector { stream := client } with
  | .late s | .stuck s => .stalled s.history
  | .ended (.error e) s => .finished (visitWithoutTunnel (.error e) s)
  | .ended (.ok ()) s =>
    match s.remote with
    | some c => visitThrough s c.stream
    | none => .finished (visitWithoutTunnel (.ok ()) s)

end Socks5.Server
