import Socks5.Request

/-!
# `Socks5.Reply`: how a server answers

A reply is the version, the code, a reserved byte and an address: on
success where the server is bound, on failure 0.0.0.0:0.
-/

set_option autoImplicit false

namespace Socks5

/-- The answer to a request. -/
structure Reply where
  code : ReplyCode
  address : Address
  deriving Repr, DecidableEq, Inhabited

namespace Reply

/-- The bytes of a reply. -/
def encode (r : Reply) : Except ProtocolError Bytes :=
  r.address.encode.map ([version, r.code.toByte, 0] ++ ·)

/-- The reply that grants a request. -/
def success (bound : Address) : Reply := ⟨.succeeded, bound⟩

/-- The reply that refuses a request. -/
def failure (code : ReplyCode) : Reply := ⟨code, .unspecified⟩

/-- Sends a reply. One that has no bytes is not sent at all. -/
def send (r : Reply) : Exchange Unit :=
  match r.encode with
  | .error e => throw e
  | .ok bytes => Exchange.send bytes

/-- Reads a reply. -/
def read : Exchange Reply := do
  let head ← Exchange.block 3
  if headVersion head ≠ version then throw (.unsupportedVersion (headVersion head))
  else do
    let address ← Address.read
    return { code := .ofByte (headCode head), address }

end Reply

end Socks5
