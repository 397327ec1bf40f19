import Socks5.Address.Text
import Socks5.Negotiation
import Socks5.Reply

/-!
# `Socks5.Client`: asking a server over an open stream

The client greets, authenticates if the server wants it to, sends one
request and reads one reply. The target is encoded first, so one that
does not parse fails before any byte is sent.
-/

set_option autoImplicit false

namespace Socks5.Client

/-- A byte as the log shows it: two hexadecimal digits. -/
def hexByte (b : UInt8) : String :=
  let digits := Nat.toDigits 16 b.toNat
  String.ofList (['0', 'x'] ++ List.replicate (2 - digits.length) '0' ++ digits)

/-- Carries out what the server selected. -/
def settle (selected : UInt8) (credentials : Option Credentials) : Exchange Unit :=
  if selected = Method.noAuth.toByte then return ()
  else
    match credentials with
    | some c =>
      if selected = Method.usernamePassword.toByte then Negotiation.sendCredentials c
      else unusable
    | none => unusable
where
  /-- The server selected what the client cannot do. -/
  unusable : Exchange Unit := do
    Exchange.note .debug s!"Server selected method {hexByte selected}"
    throw .noAcceptableMethod

/-- Carries out one request for a target and gives the address that the
server reports. -/
def handshake (command : Command) (target : String) (credentials : Option Credentials) :
    Exchange Address :=
  match Address.appendText (Request.header command) target with
  | (_, .error e) => throw e
  | (request, .ok ()) => do
    Exchange.send (Negotiation.greeting credentials)
    let selection ← Exchange.block 2
    if headVersion selection ≠ version then throw (.unsupportedVersion (headVersion selection))
    else do
      settle (headCode selection) credentials
      Exchange.send request
      let reply ← Reply.read
      if ¬ reply.code.isSuccess then throw (.rejected reply.code)
      else do
        Exchange.note .debug
          s!"SOCKS5 {command.text} to {target} granted, bound at {reply.address.toText}"
        return reply.address

/-- Carries out a CONNECT request. -/
def connect (target : String) (credentials : Option Credentials) : Exchange Address :=
  handshake .connect target credentials

end Socks5.Client
