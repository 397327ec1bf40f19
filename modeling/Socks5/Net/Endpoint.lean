import Socks5.Net.IPv6

/-!
# `Socks5.Net.Endpoint`: where a socket is

An endpoint is an IP address with a port. An IPv6 endpoint also has a
flow label and a scope, which never travel in the protocol; the scope
shows in the text when it is not zero.
-/

set_option autoImplicit false

namespace Socks5.Net

/-- An address of either family. -/
inductive IP where
  | v4 (address : IPv4)
  | v6 (address : IPv6)
  deriving Repr, DecidableEq, Inhabited

namespace IP

/-- The text of an address. -/
def toText : IP → String
  | .v4 a => a.toText
  | .v6 a => a.toText

/-- The octets in the order of the wire. -/
def octets : IP → Bytes
  | .v4 a => a.octets
  | .v6 a => a.octets

/-- Whether the address stands for any address of its family. -/
def isUnspecified : IP → Bool
  | .v4 a => a == .unspecified
  | .v6 a => a == .unspecified

/-- Reads an address of either family. -/
def parse? (cs : List Char) : Option IP :=
  match IPv4.parse? cs with
  | some a => some (.v4 a)
  | none => (IPv6.parse? cs).map .v6

end IP

/-- Where a socket is: an address and a port. -/
inductive Endpoint where
  | v4 (address : IPv4) (port : UInt16)
  | v6 (address : IPv6) (port : UInt16) (flow scope : UInt32)
  deriving Repr, DecidableEq, Inhabited

namespace Endpoint

/-- The endpoint 0.0.0.0:0. -/
def unspecified : Endpoint := .v4 .unspecified 0

/-- The address of an endpoint. -/
def ip : Endpoint → IP
  | .v4 a _ => .v4 a
  | .v6 a _ _ _ => .v6 a

/-- The port of an endpoint. -/
def port : Endpoint → UInt16
  | .v4 _ p => p
  | .v6 _ p _ _ => p

/-- The endpoint at an address and a port, without flow label and scope. -/
def ofIP : IP → UInt16 → Endpoint
  | .v4 a, p => .v4 a p
  | .v6 a, p => .v6 a p 0 0

/-- The text `ip:port`, with brackets around an IPv6 address. -/
def toText : Endpoint → String
  | .v4 a p => s!"{a.toText}:{p.toNat}"
  | .v6 a p _ scope =>
    if scope = 0 then s!"[{a.toText}]:{p.toNat}"
    else s!"[{a.toText}%{scope.toNat}]:{p.toNat}"

end Endpoint

/-- Reads a port: decimal digits, leading zeros allowed, at most 65535. -/
def port? (cs : List Char) : Option UInt16 :=
  match Text.decimal? cs with
  | some n => if n ≤ 65535 then some (UInt16.ofNat n) else none
  | none => none

/-- Reads a scope: decimal digits, at most 32 bits. -/
def scope? (cs : List Char) : Option UInt32 :=
  match Text.decimal? cs with
  | some n => if n < UInt32.size then some (UInt32.ofNat n) else none
  | none => none

/-- Reads the text of an endpoint. An IPv6 endpoint has no flow label. -/
def Endpoint.parse? (cs : List Char) : Option Endpoint :=
  match cs with
  | '[' :: rest =>
    match rest.splitOn ']' with
    | [inside, ':' :: port] =>
      match inside.splitOn '%' with
      | [ip] => do return .v6 (← IPv6.parse? ip) (← port? port) 0 0
      | [ip, scope] => do return .v6 (← IPv6.parse? ip) (← port? port) 0 (← scope? scope)
      | _ => none
    | _ => none
  | _ =>
    match cs.splitOn ':' with
    | [ip, port] => do return .v4 (← IPv4.parse? ip) (← port? port)
    | _ => none

end Socks5.Net
