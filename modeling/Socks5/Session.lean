import Socks5.Client
import Socks5.Connector
import Socks5.Relay
import Socks5.Server.Visit

/-!
# `Socks5.Session`: a client and a server over a pipe

The client and the server of this library talk to each other over a pipe
that holds any number of bytes. Each goes on until it needs bytes that are
not there, the server first. When both wait, time passes until the
server's deadline. A party that ends drops
its end of the pipe: bytes on their way stay readable, then the stream
ends, and writes to a dropped end fail.
-/

set_option autoImplicit false

namespace Socks5.Session

open Net

variable {α β : Type}

/-- How far the server is. -/
inductive Stand (β : Type) where
  /-- It has something left to do. -/
  | pending (x : Dialogue β)
  /-- It is done and has dropped its end. -/
  | left (b : β)
  /-- Its deadline passed. -/
  | late
  /-- It waits for what never comes. -/
  | stuck

/-- The pipe, seen from the server, and what the server has done. -/
structure Desk (β : Type) where
  clock : Nat := 0
  /-- Bytes that the server has not taken yet. -/
  inbox : Bytes := []
  /-- Bytes that the client has not taken yet. -/
  outbox : Bytes := []
  /-- Whether the client has dropped its end. -/
  hungUp : Bool := false
  /-- When the server's time is up, and what it does then. -/
  deadline : Option (Nat × Dialogue β) := none
  /-- What either party noted, and what the server dialed. -/
  history : History := []
  listener : Option Listener := none
  remote : Option Connection := none

/-- Adds an event to the history. -/
def Desk.mark (d : Desk β) (e : Event) : Desk β := { d with history := d.history ++ [e] }

/-- Lets the server go on as far as the bytes that are there allow. -/
def attend (connector : Connector) : Dialogue β → Desk β → Stand β × Desk β
  | .done b, d => (.left b, d)
  | .recv n shape k, d =>
    if h : n ≤ d.inbox.length then
      attend connector
        (k (.ok ⟨(d.inbox.take n).toArray, by
          rw [List.size_toArray, List.length_take, Nat.min_eq_left h]⟩))
        { d with inbox := d.inbox.drop n }
    else if d.hungUp then attend connector (k (.error shape.endError)) { d with inbox := [] }
    else (.pending (.recv n shape k), d)
  | .send bytes k, d =>
    if d.hungUp then attend connector (k (.error IoKind.brokenPipe.error)) d
    else attend connector (k (.ok ())) { d with outbox := d.outbox ++ bytes }
  | .note entry next, d => attend connector next (d.mark (.noted entry))
  | .within seconds late next, d =>
    match attend connector next
        { d with deadline := (deadline? d.clock seconds).map (·, late) } with
    | (.late, d) => attend connector late { d with deadline := none }
    | r => r
  | .release next, d => attend connector next { d with deadline := none }
  | .dial target k, d =>
    let d := d.mark (.dialed target)
    match (connector.dial target).await (d.deadline.map (·.1)) d.clock with
    | .result clock (.ok c) =>
      attend connector (k (.ok c.endpoint)) { d with clock, remote := some c }
    | .result clock (.error e) => attend connector (k (.error e)) { d with clock }
    | .late clock => (.late, { d with clock })
    | .nothing => (.stuck, d)
  | .listen target k, d =>
    match connector.listen with
    | none => attend connector (k (.error Connector.noListener)) d
    | some openListener =>
      let d := d.mark (.listened target)
      match openListener target with
      | .ok l => attend connector (k (.ok l.endpoint)) { d with listener := some l }
      | .error e => attend connector (k (.error e)) d
  | .accept k, d =>
    match d.listener with
    | none => (.stuck, d)
    | some l =>
      match l.peer.await (d.deadline.map (·.1)) d.clock with
      | .result clock (.ok c) =>
        attend connector (k (.ok c.endpoint)) { d with clock, remote := some c }
      | .result clock (.error e) => attend connector (k (.error e)) { d with clock }
      | .late clock => (.late, { d with clock })
      | .nothing => (.stuck, d)

/-- Lets time pass until the deadline of a server that waits. -/
def expire (connector : Connector) : Stand β × Desk β → Stand β × Desk β
  | (.pending x, d) =>
    match d.deadline with
    | some (limit, late) =>
      attend connector late { d with clock := max d.clock limit, deadline := none }
    | none => (.pending x, d)
  | r => r

/-- Gives the server its turn. A deadline of no length is over at once. -/
def turn (connector : Connector) : Stand β × Desk β → Stand β × Desk β
  | (.pending x, d) =>
    match attend connector x d with
    | (.pending x, d) =>
      if d.deadline.any (·.1 ≤ d.clock) then expire connector (.pending x, d)
      else (.pending x, d)
    | r => r
  | r => r

/-- Carries out the client's dialogue. `none` when both parties wait for
each other and no deadline helps. -/
def converse (connector : Connector) :
    Dialogue α → Stand β × Desk β → Option (α × Stand β × Desk β)
  | .done a, (s, d) => some (a, s, d)
  | .send bytes k, (s, d) =>
    match s with
    | .left _ => converse connector (k (.error IoKind.brokenPipe.error)) (s, d)
    | _ => converse connector (k (.ok ())) (s, { d with inbox := d.inbox ++ bytes })
  | .recv n shape k, r =>
    let r := turn connector r
    let r := if r.2.outbox.length < n then expire connector r else r
    let d := r.2
    if h : n ≤ d.outbox.length then
      converse connector
        (k (.ok ⟨(d.outbox.take n).toArray, by
          rw [List.size_toArray, List.length_take, Nat.min_eq_left h]⟩))
        (r.1, { d with outbox := d.outbox.drop n })
    else
      match r.1 with
      | .left b => converse connector (k (.error shape.endError)) (.left b, { d with outbox := [] })
      | _ => none
  | .note entry next, (s, d) =>
    converse connector next (s, d.mark (.noted entry))
  | .within _ _ next, r | .release next, r => converse connector next r
  | .dial .., _ | .listen .., _ | .accept .., _ => none

/-- What an observer sees of a session. -/
structure Outcome where
  client : Except ProtocolError Address
  /-- What the client received after its handshake. -/
  received : Bytes
  server : Except ServiceError Unit
  /-- What the remote side received. -/
  remoteGot : Bytes
  /-- What either party noted, and what the server dialed. -/
  history : History

/-- Ends a session whose handshake failed: the client drops its end. -/
def abandon (connector : Connector) (e : ProtocolError)
    (r : Stand (Except ServiceError Unit) × Desk (Except ServiceError Unit)) : Option Outcome :=
  match turn connector (r.1, { r.2 with hungUp := true }) with
  | (.left server, d) => some ⟨.error e, [], server, [], d.history⟩
  | _ => none

/-- Relays what the client sends after its handshake. The server starts
before the client's first byte is there. -/
def relay (sent : Bytes) (remote : Stream) : Relay.Outcome :=
  let (up, down) := Relay.lanes { script := [.bytes sent] } remote
  match down.advance with
  | (down, .failed e) => ⟨up, down, 0, .failed e⟩
  | (down, _) => Relay.run 0 up down

/-- Ends a session whose handshake succeeded: the client sends its bytes,
closes its sending side and reads to the end. -/
def use (connector : Connector) (bound : Address) (sent : Bytes)
    (r : Stand (Except ServiceError Unit) × Desk (Except ServiceError Unit)) : Option Outcome :=
  match turn connector (r.1, { r.2 with hungUp := true }) with
  | (.left server, d) =>
    match server, d.remote with
    | .ok (), some c =>
      let o := relay sent c.stream
      match o.ending with
      | .stuck => none
      | _ => some ⟨.ok bound, d.outbox ++ o.down.moved, server, o.up.moved,
          d.history ++ (Server.tunnelLog o).map .noted⟩
    | _, _ => some ⟨.ok bound, d.outbox, server, [], d.history⟩
  | _ => none

/-- Runs a client against a server. `none` when the session waits for what
never comes. -/
def run (policy : Policy) (connector : Connector) (command : Command) (target : String)
    (credentials : Option Credentials) (sent : Bytes) : Option Outcome :=
  let start := turn connector (Stand.pending (Server.serve policy), {})
  match converse connector (Client.handshake command target credentials).run start with
  | none => none
  | some (.ok bound, r) => use connector bound sent r
  | some (.error e, r) => abandon connector e r

end Socks5.Session
