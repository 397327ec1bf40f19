import Socks5.Address
import Socks5.Net.IPv4.Parts
import Socks5.Net.IPv6.Reach

/-!
# `Socks5.Resolve`: from an address to endpoints

An IP address is its own endpoint. A name that reads as an IP address is
that address, also in parts (`127.1`) or with a scope (`fe80::1%2`); any
other name is looked up. Whatever fails on the way, the address counts as
not found.
-/

set_option autoImplicit false

namespace Socks5

open Net

/-- What a host knows about names. -/
structure Directory where
  /-- Looks a name up. The error is a text. -/
  lookUp : String → Except String (List IP)
  /-- The number of a network interface. -/
  interface? : String → Option UInt32

namespace Directory

/-- The text of a failed search. -/
def failureText (cause : String) : String := s!"failed to lookup address information: {cause}"

/-- The directory of a host that cannot ask anyone: it knows itself only. -/
def offline : Directory where
  lookUp name :=
    if String.ofList (name.toList.map Char.toLower) = "localhost" then .ok [.v4 ⟨127, 0, 0, 1⟩]
    else .error (failureText "Temporary failure in name resolution")
  interface? name := if name = "lo" then some 1 else none

/-- Whether a text is a name that can be looked up: labels with dots
between them, and perhaps a dot at the end. A label has at most 63 letters,
digits, dashes and underscores, the name at most 253 characters, and no
dash at its front. -/
def isName (cs : List Char) : Bool :=
  let body := if cs.getLast? = some '.' then cs.dropLast else cs
  let isLabel (label : List Char) : Bool :=
    label != [] && label.length ≤ 63 && label.all fun c => c.isAlphanum || c == '-' || c == '_'
  cs == ['.'] ||
    (body.head? != some '-' && body.length ≤ 253 && (body.splitOn '.').all isLabel)

/-- The number of the scope that stands after an address. Only addresses of
one link may name an interface. -/
def scope? (directory : Directory) (a : IPv6) (text : List Char) : Option UInt32 :=
  match if a.isOfLink then directory.interface? (String.ofList text) else none with
  | some n => some n
  | none => Net.scope? text

/-- Finds the endpoints of a host at a port. Only names that are no
addresses are looked up. -/
def find (directory : Directory) (name : String) (port : UInt16) :
    Except String (List Endpoint) :=
  let cs := name.toList
  match IP.parse? cs with
  | some ip => .ok [.ofIP ip port]
  | none =>
    if cs.contains '\x00' then .error "file name contained an unexpected NUL byte"
    else
      match IPv4.parseParts? cs, IPv6.splitScope? cs with
      | some a, _ => .ok [.v4 a port]
      | none, some (a, scope) =>
        match directory.scope? a scope with
        | some n => .ok [.v6 a port 0 n]
        | none => .error unknown
      | none, none =>
        if isName cs then (directory.lookUp name).map fun ips => ips.map (Endpoint.ofIP · port)
        else .error unknown
where
  /-- The text for what cannot be the name of a host. -/
  unknown : String := failureText "Name or service not known"

end Directory

/-- Finds the endpoints of an address. -/
def Address.resolve (directory : Directory) : Address → Except IoError (List Endpoint)
  | .ip e => .ok [e]
  | .name host port =>
    match Text.Utf8.decode? host with
    | none => notFound s!"Domain name is not UTF-8: {Text.Utf8.decodeLossy host}"
    | some text =>
      match directory.find text port with
      | .error cause => notFound s!"Failed to resolve domain {text}: {cause}"
      | .ok [] => notFound s!"No addresses found for domain: {text}"
      | .ok es => .ok es
where
  /-- The failure to resolve an address. -/
  notFound (text : String) : Except IoError (List Endpoint) :=
    .error { kind := .notFound, detail := some text }

end Socks5
