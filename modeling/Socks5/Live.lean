import Socks5.Host
import Socks5.Server.Visit
import Std.Async.DNS
import Std.Async.TCP
import Std.Async.Timer

/-!
# `Socks5.Live`: dialogues over real sockets

Here a dialogue meets the network: `carryOut` does what each step of a
dialogue asks for, on the socket of a client and on those that it opens,
and `serve` goes on with the relay. Nothing is decided here.
-/

set_option autoImplicit false

namespace Socks5.Live

open Net Std.Async

/-- A connected socket. -/
abbrev Socket := TCP.Socket.Client

/-! ### Addresses and errors of the system -/

/-- The address of an endpoint, as the system has it. -/
def toSystem : Endpoint → Std.Net.SocketAddress
  | .v4 a port => .v4 ⟨⟨#v[a.o0, a.o1, a.o2, a.o3]⟩, port⟩
  | .v6 a port _ _ => .v6 ⟨⟨#v[a.g0, a.g1, a.g2, a.g3, a.g4, a.g5, a.g6, a.g7]⟩, port⟩

/-- The address that the system gives. -/
def ofSystemIP : Std.Net.IPAddr → IP
  | .v4 a => .v4 (.ofOctets a.octets)
  | .v6 a =>
    let g := a.segments
    .v6 ⟨g[0], g[1], g[2], g[3], g[4], g[5], g[6], g[7]⟩

/-- The endpoint that the system gives. -/
def ofSystem (a : Std.Net.SocketAddress) : Endpoint := .ofIP (ofSystemIP a.ipAddr) a.port

/-- The number and the words of an error of the system. Numbers of errors
come as negative words of 32 bits. -/
def ofCode (code : UInt32) (words : String) : IoError := .ofNumber (UInt32.size - code.toNat) words

/-- The error that the system gives. -/
def ofSystemError : IO.Error → IoError
  | .noSuchThing _ code words | .permissionDenied _ code words
  | .noFileOrDirectory _ code words | .invalidArgument _ code words
  | .resourceExhausted _ code words | .inappropriateType _ code words
  | .alreadyExists _ code words | .otherError code words | .resourceBusy code words
  | .resourceVanished code words | .unsupportedOperation code words
  | .hardwareFault code words | .unsatisfiedConstraints code words
  | .illegalOperation code words | .protocolError code words | .timeExpired code words =>
    ofCode code words
  | .interrupted .. => IoKind.interrupted.error
  | .unexpectedEof => IoKind.unexpectedEof.error
  | .userError words => { kind := .other, detail := some words }

/-- Does something that may fail with an error of the system. -/
def attempt {α : Type} (x : Async α) : Async (Except IoError α) := do
  try
    return .ok (← x)
  catch e =>
    return .error (ofSystemError e)

/-- Asks the system for the addresses of a name. -/
def lookUp (name : String) : Async Directory := do
  if (IP.parse? name.toList).isSome then return .offline
  let found ←
    match ← attempt (DNS.getAddrInfo name "") with
    | .ok ips => pure (.ok (ips.toList.map ofSystemIP))
    | .error e => pure (.error e.message)
  return { lookUp := fun _ => found, interface? := fun _ => none }

/-- The endpoints of an address, from the system. -/
def resolve (a : Address) : Async (Except IoError (List Endpoint)) := do
  match a with
  | .ip _ => return a.resolve .offline
  | .name host _ => return a.resolve (← lookUp (Text.Utf8.decodeLossy host))

/-! ### Connections and listeners -/

/-- A party to a dialogue, with its open sockets. -/
structure Party where
  socket : Socket
  /-- Bytes that were received and not taken yet. -/
  inbox : IO.Ref Bytes
  /-- When the time for the present step is up, in milliseconds. -/
  deadline : IO.Ref (Option Nat)
  listener : IO.Ref (Option TCP.Socket.Server)
  remote : IO.Ref (Option Socket)
  /-- Where listeners are opened. -/
  own : IP
  log : Log.Entry → IO Unit

namespace Party

/-- Sets the deadline by the rule that scripts keep to. One that never passes
is none. -/
def allow (p : Party) (seconds : Nat) : Async Unit := do
  let now ← IO.monoMsNow
  p.deadline.set ((deadline? 0 seconds).map (now + 1000 * ·))

/-- The longest nap, in milliseconds. A timer holds fewer milliseconds than a
deadline may be away, so whoever waits for a deadline takes naps. -/
def longestNap : Nat := 1 <<< 32

/-- How many naps it takes to get from one moment to another. -/
def naps (now limit : Nat) : Nat := (limit - now) / longestNap + 1

/-- The length of the next nap. -/
def nap (now limit : Nat) : Std.Time.Millisecond.Offset :=
  ⟨((min (limit - now) longestNap : Nat) : Int)⟩

/-- Waits for an event through so many naps. `none` when the moment `limit`
comes first. -/
def awaitThrough {α : Type} (event : Selector α) (limit : Nat) : Nat → Async (Option α)
  | 0 => return none
  | left + 1 => do
    let late ← Selector.sleep (nap (← IO.monoMsNow) limit)
    let seen ← Selectable.one
      #[.case event fun a => return some a, .case late fun _ => return none]
    match seen with
    | some a => return some a
    | none => awaitThrough event limit left

/-- Waits for an event. `none` when the deadline passes first. -/
def await {α : Type} (p : Party) (event : Selector α) : Async (Option α) := do
  match ← p.deadline.get with
  | none => Selectable.one #[.case event fun a => return some a]
  | some limit => awaitThrough event limit (naps (← IO.monoMsNow) limit)

/-- Sleeps through so many naps until a moment comes. -/
def sleepThrough (limit : Nat) : Nat → Async Unit
  | 0 => return ()
  | left + 1 => do
    sleep (nap (← IO.monoMsNow) limit)
    sleepThrough limit left

/-- Waits for something to finish. `none` when the deadline passes first. -/
def finish {α : Type} (p : Party) (x : Async α) : Async (Option α) := do
  match ← p.deadline.get with
  | none => some <$> x
  | some limit =>
    let late : Async (Option α) := do
      sleepThrough limit (naps (← IO.monoMsNow) limit)
      return none
    Async.race (some <$> x) late

/-- Receives until `n` bytes are there, in so many steps at most. `none`
when the deadline passes first, else whether they are there. -/
def receive (p : Party) (n : Nat) : Nat → Async (Option Bool)
  | 0 => return some (n ≤ (← p.inbox.get).length)
  | steps + 1 => do
    if n ≤ (← p.inbox.get).length then return some true
    match ← p.await (p.socket.recvSelector 4096) with
    | none => return none
    | some none => return some false
    | some (some bytes) =>
      p.inbox.modify (· ++ bytes.toList)
      p.receive n steps

/-- Takes `n` bytes. `none` when the deadline passes first. Each step of
receiving brings a byte at least. -/
def take (p : Party) (n : Nat) (shape : Shape) :
    Async (Option (Except IoError (Vector UInt8 n))) := do
  match ← attempt (p.receive n n) with
  | .error e => return some (.error e)
  | .ok none => return none
  | .ok (some _) =>
    let inbox ← p.inbox.get
    p.inbox.set (inbox.drop n)
    if h : n ≤ inbox.length then
      return some (.ok ⟨(inbox.take n).toArray, by
        rw [List.size_toArray, List.length_take, Nat.min_eq_left h]⟩)
    else return some (.error shape.endError)

/-- Dials endpoints in order until one answers. -/
def dialAny (p : Party) (failure : IoError) : List Endpoint → Async (Except IoError Socket)
  | [] => return .error failure
  | e :: es => do
    p.log (Host.dialingEntry e)
    let dialed ← attempt (do
      let socket ← TCP.Socket.Client.mk
      socket.connect (toSystem e)
      return socket)
    match dialed with
    | .ok socket => return .ok socket
    | .error fault =>
      p.log (Host.dialFailedEntry e fault)
      p.dialAny fault es

/-- Dials an address and keeps the connection. -/
def dial (p : Party) (target : Address) : Async (Except IoError Endpoint) := do
  match ← resolve target with
  | .error e => return .error e
  | .ok es =>
    match ← p.dialAny IoKind.notFound.error es with
    | .error e => return .error e
    | .ok socket =>
      p.remote.set (some socket)
      attempt (do return ofSystem (← socket.getSockName))

/-- Opens a listener and keeps it. -/
def listen (p : Party) : Async (Except IoError Endpoint) :=
  attempt (do
    let server ← TCP.Socket.Server.mk
    server.bind (toSystem (.ofIP p.own 0))
    server.listen 1
    p.listener.set (some server)
    return ofSystem (← server.getSockName))

/-- Waits for a peer and keeps the connection. `none` when the deadline
passes first. -/
def accept (p : Party) : Async (Option (Except IoError Endpoint)) := do
  match ← p.listener.get with
  | none => return some (.error IoKind.notConnected.error)
  | some server =>
    match ← attempt (p.await server.acceptSelector) with
    | .error e => return some (.error e)
    | .ok none => return none
    | .ok (some socket) =>
      p.listener.set none
      p.remote.set (some socket)
      some <$> attempt (do return ofSystem (← socket.getPeerName))

end Party

/-! ### Dialogues -/

/-- Carries out a dialogue. `none` when the deadline passes first. -/
def carryOut {α : Type} (p : Party) : Dialogue α → Async (Option α)
  | .done a => return some a
  | .recv n shape k => do
    match ← p.take n shape with
    | none => return none
    | some r => carryOut p (k r)
  | .send bytes k => do
    let r ← attempt (p.socket.send ⟨bytes.toArray⟩)
    carryOut p (k r)
  | .note entry next => do
    p.log entry
    carryOut p next
  | .within seconds late next => do
    p.allow seconds
    match ← carryOut p next with
    | some a => return some a
    | none =>
      p.deadline.set none
      carryOut p late
  | .release next => do
    p.deadline.set none
    carryOut p next
  | .dial target k => do
    match ← p.finish (p.dial target) with
    | none => return none
    | some r => carryOut p (k r)
  | .listen _ k => do
    let r ← p.listen
    carryOut p (k r)
  | .accept k => do
    match ← p.accept with
    | none => return none
    | some r => carryOut p (k r)

/-! ### Tunnels -/

/-- Moves bytes from one socket to another up to the end of the first, and
gives their number. -/
partial def pump (source sink : Socket) (moved : Nat) : Async Nat := do
  match ← source.recv? 65536 with
  | none =>
    sink.shutdown
    return moved
  | some bytes =>
    sink.send bytes
    pump source sink (moved + bytes.size)

/-- Moves bytes both ways. The failure of one direction ends both. -/
def tunnel (p : Party) (remote : Socket) : Async (Except IoError (Nat × Nat)) := do
  let ahead ← p.inbox.get
  let guarded (x : Async Nat) : Async Nat := do
    try x
    catch e =>
      let _ ← attempt p.socket.shutdown
      let _ ← attempt remote.shutdown
      throw e
  attempt (do
    remote.send ⟨ahead.toArray⟩
    Async.concurrently (guarded (pump p.socket remote ahead.length))
      (guarded (pump remote p.socket 0)))

/-- Serves a client up to the end of its tunnel. -/
def serve (policy : Policy) (log : Log.Entry → IO Unit) (socket : Socket) : Async Unit := do
  let p : Party := {
    socket
    inbox := ← IO.mkRef []
    deadline := ← IO.mkRef none
    listener := ← IO.mkRef none
    remote := ← IO.mkRef none
    own := (ofSystem (← socket.getSockName)).ip
    log }
  match ← carryOut p (Server.serve policy), ← p.remote.get with
  | some (.ok ()), some remote =>
    match ← tunnel p remote with
    | .ok (up, down) =>
      log (Relay.finishedEntry up down)
      log (Server.closedEntry up down)
    | .error e => log (Server.brokenEntry e)
  | some (.error e), _ => log (Server.failedEntry e)
  | _, _ => return ()

end Socks5.Live
