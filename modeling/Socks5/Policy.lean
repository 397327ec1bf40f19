import Socks5.Credentials

/-!
# `Socks5.Policy`: what a server demands and grants

The policy says who may use the server, which commands it serves and how
long it waits.
-/

set_option autoImplicit false

namespace Socks5

/-- What a server demands of its clients and grants to them. -/
structure Policy where
  /-- Refuse clients that do not authenticate. -/
  authRequired : Bool := false
  username : Option String := none
  password : Option String := none
  /-- Serve the BIND command. -/
  allowBind : Bool := false
  /-- Seconds for the greeting with authentication, and again for the request. -/
  handshakeTimeout : Nat := 10
  /-- Seconds for a dial, and for the peer of a BIND. -/
  connectTimeout : Nat := 10
  deriving Repr, DecidableEq, Inhabited

namespace Policy

/-- Whether clients can authenticate at all. -/
def hasCredentials (p : Policy) : Bool := p.username.isSome && p.password.isSome

/-- The credentials that a client has to send. -/
def credentials (p : Policy) : Credentials := ⟨p.username.getD "", p.password.getD ""⟩

end Policy

end Socks5
