import Socks5.Error
import Socks5.Policy

/-!
# `Socks5.Config`: what a server is started with

A configuration is a listening address and a policy. `fault?` finds what
makes one unusable; of several faults it names the first in the order
of the definitions below.
-/

set_option autoImplicit false

namespace Socks5

/-- What makes a configuration unusable. -/
inductive ConfigFault where
  | emptyListenAddress
  /-- Authentication is required, but clients cannot authenticate. -/
  | missingCredentials
  | usernameLength
  | passwordLength
  /-- A deadline that nobody can meet. -/
  | zeroTimeout
  deriving Repr, DecidableEq, Inhabited

namespace ConfigFault

/-- The text of a fault. -/
def message : ConfigFault → String
  | .emptyListenAddress => "listen_addr is empty"
  | .missingCredentials => "Authentication required but no credentials configured"
  | .usernameLength => "username must be 1 to 255 bytes"
  | .passwordLength => "password must be 1 to 255 bytes"
  | .zeroTimeout => "Timeouts must be at least one second"

/-- The fault as the error that a service ends with. -/
def error (f : ConfigFault) : ServiceError := .config f.message

end ConfigFault

/-- What makes a policy unusable, if anything does. -/
def Policy.fault? (p : Policy) : Option ConfigFault :=
  if p.authRequired ∧ ¬ p.hasCredentials then some .missingCredentials
  else if p.username.any (!Credentials.fits ·) then some .usernameLength
  else if p.password.any (!Credentials.fits ·) then some .passwordLength
  else if p.handshakeTimeout = 0 ∨ p.connectTimeout = 0 then some .zeroTimeout
  else none

/-- What a server is started with. -/
structure Config where
  listenAddress : String := "127.0.0.1:1080"
  policy : Policy := {}
  deriving Repr, DecidableEq, Inhabited

/-- What makes a configuration unusable, if anything does. -/
def Config.fault? (c : Config) : Option ConfigFault :=
  if c.listenAddress = "" then some .emptyListenAddress else c.policy.fault?

end Socks5
