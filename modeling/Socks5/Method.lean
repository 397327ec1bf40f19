import Socks5.Bytes

/-!
# `Socks5.Method`: how a client may authenticate

A greeting offers methods as bytes and the server selects one of the two
that it knows, or none.
-/

set_option autoImplicit false

namespace Socks5

/-- A way to authenticate. -/
inductive Method where
  /-- Not at all. -/
  | noAuth
  /-- By user name and password. -/
  | usernamePassword
  deriving Repr, DecidableEq, Inhabited

namespace Method

/-- The byte of a method. -/
def toByte : Method → UInt8
  | .noAuth => 0
  | .usernamePassword => 2

/-- Reads the byte of a method. -/
def ofByte? (b : UInt8) : Option Method :=
  if b = 0 then some .noAuth
  else if b = 2 then some .usernamePassword
  else none

/-- The byte that a server sends when it accepts none of the methods. -/
def notAcceptable : UInt8 := 0xFF

/-- The table of methods. Neither of the two is the byte that accepts none. -/
theorem toByte_eq_iff {m : Method} {b : UInt8} :
    m.toByte = b ↔ m = .noAuth ∧ b = 0 ∨ m = .usernamePassword ∧ b = 2 := by
  cases m <;> simp [toByte, eq_comm]

/-- Whatever byte is written for a method is read as that method. -/
@[simp] theorem ofByte?_toByte (m : Method) : ofByte? m.toByte = some m := by
  cases m <;> rfl

/-- The name of a method in the log. -/
def name : Method → String
  | .noAuth => "NoAuth"
  | .usernamePassword => "UsernamePassword"

end Method

end Socks5
