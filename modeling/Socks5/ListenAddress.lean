import Socks5.Resolve

/-!
# `Socks5.ListenAddress`: where a text says to listen

The text is an endpoint, or a name and a port with a colon between them.
The last colon counts, and the port may have a plus sign.
-/

set_option autoImplicit false

namespace Socks5

open Net

/-- Where to listen. -/
inductive ListenAddress where
  | endpoint (e : Endpoint)
  | named (host : String) (port : UInt16)
  deriving Repr, DecidableEq, Inhabited

namespace ListenAddress

/-- Splits at the last occurrence of a character, which is dropped. -/
def splitLast (sep : Char) (cs : List Char) : Option (List Char × List Char) :=
  match cs.reverse.span (· != sep) with
  | (after, _ :: before) => some (before.reverse, after.reverse)
  | (_, []) => none

/-- Reads a text. The error is a text, too. -/
def parse (s : String) : Except String ListenAddress :=
  match Endpoint.parse? s.toList with
  | some e => .ok (.endpoint e)
  | none =>
    match splitLast ':' s.toList with
    | none => .error "invalid socket address"
    | some (host, port) =>
      match port? (Text.dropPlus port) with
      | none => .error "invalid port value"
      | some port => .ok (.named (String.ofList host) port)

/-- The endpoints at which to listen. The error is a text. -/
def endpoints (directory : Directory) : ListenAddress → Except String (List Endpoint)
  | .endpoint e => .ok [e]
  | .named host port => directory.find host port

end ListenAddress

end Socks5
