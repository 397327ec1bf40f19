import Socks5.Dialogue
import Socks5.Method
import Socks5.Policy
import Socks5.Request

/-!
# `Socks5.Negotiation`: greeting, selection and password exchange

The client's greeting offers methods and the server answers with the one
it selects. If that is the password method, the client sends its
credentials and the server a status. Whoever offers the password method
to a server with credentials has to authenticate; otherwise a client may
pass without, unless the policy requires authentication.
-/

set_option autoImplicit false

namespace Socks5.Negotiation

/-! ### The server's side -/

/-- Reads a greeting and gives the methods that it offers. -/
def readGreeting : Exchange Bytes := do
  let v ← Exchange.byte
  if v ≠ version then throw (.unsupportedVersion v)
  else Exchange.counted

/-- The method that a policy selects from an offer. -/
def select (policy : Policy) (offer : Bytes) : Option Method :=
  if policy.hasCredentials ∧ Method.usernamePassword.toByte ∈ offer then
    some .usernamePassword
  else if ¬ policy.authRequired ∧ Method.noAuth.toByte ∈ offer then
    some .noAuth
  else none

/-- The byte that tells the client what was selected. -/
def selectionByte (selected : Option Method) : UInt8 :=
  (selected.map Method.toByte).getD Method.notAcceptable

/-- A selection is one of three bytes: 0, 2, or 255 if there is none. -/
theorem selectionByte_eq_iff {selected : Option Method} {b : UInt8} :
    selectionByte selected = b ↔ selected = some .noAuth ∧ b = 0 ∨
      selected = some .usernamePassword ∧ b = 2 ∨ selected = none ∧ b = 255 := by
  rcases selected with _ | _ | _ <;>
    simp [selectionByte, Method.toByte, Method.notAcceptable, eq_comm]

/-- The version of the password exchange. -/
def passwordVersion : UInt8 := 1

/-- The status that ends a password exchange. -/
def sendStatus (granted : Bool) : Exchange Unit :=
  Exchange.send [passwordVersion, if granted then 0 else 1]

/-- Refuses the credentials. The reason goes to the log only. -/
def refuse (reason : String) : Exchange Unit := do
  sendStatus false
  Exchange.note .debug reason
  throw .authFailed

/-- Reads credentials and checks them against the expected ones. A client
of another version is refused before its fields are read. -/
def authenticate (expected : Credentials) : Exchange Unit := do
  let v ← Exchange.byte
  if v ≠ passwordVersion then refuse s!"Invalid auth version: {v.toNat}"
  else do
    let username ← Exchange.counted
    let password ← Exchange.counted
    if username = [] ∨ password = [] then refuse "Empty username or password"
    else if username = utf8 expected.username ∧ password = utf8 expected.password then do
      sendStatus true
      Exchange.note .debug
        s!"Authentication successful for user: {Text.Utf8.decodeLossy username}"
    else refuse s!"Authentication failed for user: {Text.Utf8.decodeLossy username}"

/-- The offered bytes as the log shows them. -/
def offerText (offer : Bytes) : String :=
  "[" ++ ", ".intercalate (offer.map fun b => toString b.toNat) ++ "]"

/-- The server's side: reads the greeting, selects a method and carries it
out. -/
def negotiate (policy : Policy) : Exchange Method := do
  let offer ← readGreeting
  Exchange.note .debug s!"Client offered methods: {offerText offer}"
  let selected := select policy offer
  Exchange.send [version, selectionByte selected]
  match selected with
  | none => throw .noAcceptableMethod
  | some .noAuth => return .noAuth
  | some .usernamePassword => do
    authenticate policy.credentials
    return .usernamePassword

/-! ### The client's side -/

/-- The greeting of a client with or without credentials. -/
def greeting (credentials : Option Credentials) : Bytes :=
  match credentials with
  | some _ => [version, 2, Method.noAuth.toByte, Method.usernamePassword.toByte]
  | none => [version, 1, Method.noAuth.toByte]

/-- A greeting is 5, the number of methods, and the methods 0 and, if there are
credentials, 2. So a client with credentials can still be let in without them. -/
theorem greeting_eq_bytes (credentials : Option Credentials) :
    greeting credentials = if credentials.isSome then [5, 2, 0, 2] else [5, 1, 0] := by
  cases credentials <;> rfl

/-- The message that carries credentials. -/
def passwordMessage (c : Credentials) : Bytes :=
  passwordVersion :: lengthByte (utf8 c.username) :: utf8 c.username
    ++ lengthByte (utf8 c.password) :: utf8 c.password

/-- Sends credentials and waits for the status. Credentials that have no
message fail without a byte sent. -/
def sendCredentials (c : Credentials) : Exchange Unit :=
  if ¬ (Credentials.fits c.username ∧ Credentials.fits c.password) then do
    Exchange.note .debug "Credentials do not fit RFC 1929 length limits"
    throw .authFailed
  else do
    Exchange.send (passwordMessage c)
    let status ← Exchange.block 2
    if headCode status ≠ 0 then throw .authFailed
    else return ()

end Socks5.Negotiation
