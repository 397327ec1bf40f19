import Socks5.Address.Frame

/-!
# `Socks5.Address.Text`: reading an address from a text

The text is `host:port`, with brackets around a host that holds colons.
The host is an IPv4 address if it reads as one, else an IPv6 address,
else a name. An IPv6 address that embeds an IPv4 address is that IPv4
address. Faults are found from the outside in: first the split, then
the port, then the length of the name.
-/

set_option autoImplicit false

namespace Socks5.Address

open Net

/-- Splits at the first occurrence of a character, which is dropped. -/
def splitFirst (sep : Char) : List Char → Option (List Char × List Char)
  | [] => none
  | c :: cs =>
    if c = sep then some ([], cs)
    else (splitFirst sep cs).map fun (before, after) => (c :: before, after)

/-- Splits `h:p`, where neither side holds a colon or a bracket. -/
def splitPlain (cs : List Char) : Option (List Char × List Char) := do
  let (host, port) ← splitFirst ':' cs
  if host.any (fun c => c = '[' ∨ c = ']') ∨ port.any (fun c => c = ':' ∨ c = '[' ∨ c = ']') then
    none
  else some (host, port)

/-- Splits what follows an opening bracket, `h]:p`. The host may hold
colons, neither side holds a bracket and the port holds no colon. -/
def splitBracketed (cs : List Char) : Option (List Char × List Char) := do
  let (host, after) ← splitFirst ']' cs
  match after with
  | ':' :: port =>
    if host.contains '[' ∨ port.any (fun c => c = ':' ∨ c = '[' ∨ c = ']') then none
    else some (host, port)
  | _ => none

/-- Splits a text into host and port. -/
def splitHostPort : List Char → Option (List Char × List Char)
  | '[' :: cs => splitBracketed cs
  | cs => splitPlain cs

/-- Reads a host. A name may be at most 255 bytes long in UTF-8. -/
def ofHost (host : List Char) (port : UInt16) : Except ProtocolError Address :=
  match IP.parse? host with
  | some (.v4 a) => .ok (.ip (.v4 a port))
  | some (.v6 a) =>
    match a.mapped? with
    | some v4 => .ok (.ip (.v4 v4 port))
    | none => .ok (.ip (.v6 a port 0 0))
  | none =>
    let bytes := utf8 (String.ofList host)
    if maxNameLength < bytes.length then .error (.domainTooLong bytes.length)
    else .ok (.name bytes port)

/-- Reads an address from its text. -/
def parse (s : String) : Except ProtocolError Address :=
  match splitHostPort s.toList with
  | none => .error (.malformedAddress s)
  | some (host, port) =>
    match port? port with
    | none => .error (.invalidPort (String.ofList port))
    | some p => ofHost host p

/-- The buffer after an attempt to append the address that a text gives. -/
def appendText (buffer : Bytes) (s : String) : Bytes × Except ProtocolError Unit :=
  match parse s with
  | .ok a => a.appendTo buffer
  | .error e => (buffer, .error e)

end Socks5.Address
