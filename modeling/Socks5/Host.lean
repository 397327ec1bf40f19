import Socks5.Connector
import Socks5.ListenAddress
import Socks5.Log.Entry

/-!
# `Socks5.Host`: the sockets of a host

A host looks names up, dials endpoints and opens listeners. A name may
stand for several endpoints; they are tried in order and the last
failure is the one that counts.
-/

set_option autoImplicit false

namespace Socks5

open Net

/-- What a program can reach from the host that it runs on. -/
structure Host where
  directory : Directory
  dial : Endpoint → Attempt Connection
  /-- Opens a listener, and gives where it listens. -/
  listen : Endpoint → Except IoError Endpoint

namespace Host

/-! ### A host without a network -/

/-- The failure of every dial from a host without a network. -/
def unreachable : IoError := .ofNumber 101 "Network is unreachable"

/-- Opens a listener on a host without a network. Any IPv4 address will do,
since no table of routes says which are the host's own. Of IPv6 addresses
the host has none, and one of a link needs a link that exists. -/
def listenIsolated : Endpoint → Except IoError Endpoint
  | .v4 a port => .ok (.v4 a port)
  | .v6 a port flow scope =>
    if a = .unspecified ∨ a.mapped?.isSome then .ok (.v6 a port flow scope)
    else if a.isMulticast || (a.isLinkLocal && scope == 0) then
      .error (.ofNumber 22 "Invalid argument")
    else if a.isLinkLocal && scope != 1 then .error (.ofNumber 19 "No such device")
    else .error (.ofNumber 99 "Cannot assign requested address")

/-- A host that can listen, but reaches nobody and asks nobody. -/
def isolated : Host where
  directory := .offline
  dial := fun _ => .settled 0 (.error unreachable)
  listen := listenIsolated

/-! ### Dialing -/

/-- What the log shows before an endpoint is dialed. -/
def dialingEntry (e : Endpoint) : Log.Entry := ⟨.debug, s!"Connecting to target: {e.toText}"⟩

/-- What the log shows of an endpoint that could not be dialed. -/
def dialFailedEntry (e : Endpoint) (fault : IoError) : Log.Entry :=
  ⟨.debug, s!"Connect to {e.toText} failed: {fault.message}"⟩

/-- Dials endpoints in order until one answers. The time of the attempts
adds up. -/
def dialAny (host : Host) (failure : IoError) (seconds : Nat) :
    List Endpoint → Attempt Connection
  | [] => .settled seconds (.error failure)
  | e :: es =>
    match host.dial e with
    | .settled more (.ok c) => .settled (seconds + more) (.ok c)
    | .settled more (.error e) => host.dialAny e (seconds + more) es
    | .never => .never

/-- Dials the endpoints of an address. -/
def dialAddress (host : Host) (a : Address) : Attempt Connection :=
  match a.resolve host.directory with
  | .ok es => host.dialAny IoKind.notFound.error 0 es
  | .error e => .settled 0 (.error e)

/-- The connector of a host. Its listeners are on the given address and on
a port that the host chooses, and nobody calls. -/
def connector (host : Host) (ip : IP) : Connector where
  dial := host.dialAddress
  listen := some fun _ => do
    return { endpoint := ← host.listen (.ofIP ip 0), peer := .never }

/-! ### Listening -/

/-- Listens at the first endpoint that lets it. The error is a text. -/
def listenAny (host : Host) (failure : String) : List Endpoint → Except String Endpoint
  | [] => .error failure
  | e :: es =>
    match host.listen e with
    | .ok bound => .ok bound
    | .error fault => host.listenAny fault.message es

/-- Listens where a text says, and gives where that is. The error is a text. -/
def bind (host : Host) (text : String) : Except String Endpoint := do
  let place ← ListenAddress.parse text
  host.listenAny "could not resolve to any address" (← place.endpoints host.directory)

end Host

end Socks5
