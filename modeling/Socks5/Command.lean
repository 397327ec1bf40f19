/-!
# `Socks5.Command`: what a client may ask for

Three requests have a byte of their own. Reading a byte and writing a
command are inverse to each other on those three.
-/

set_option autoImplicit false

namespace Socks5

/-- What a client asks for. -/
inductive Command where
  /-- Open a connection to the target. -/
  | connect
  /-- Accept one connection from the target. -/
  | bind
  /-- Relay datagrams. No server of this library grants it. -/
  | udpAssociate
  deriving Repr, DecidableEq, Inhabited

namespace Command

/-- Reads the byte of a command. -/
def ofByte? (b : UInt8) : Option Command :=
  if b = 1 then some .connect
  else if b = 2 then some .bind
  else if b = 3 then some .udpAssociate
  else none

/-- The byte of a command. -/
def toByte : Command → UInt8
  | .connect => 1
  | .bind => 2
  | .udpAssociate => 3

/-- The table of commands: they are numbered from 1. -/
theorem toByte_eq_iff {c : Command} {b : UInt8} :
    c.toByte = b ↔ c = .connect ∧ b = 1 ∨ c = .bind ∧ b = 2 ∨ c = .udpAssociate ∧ b = 3 := by
  cases c <;> simp [toByte, eq_comm]

/-- Whatever byte is written for a command is read as that command. -/
@[simp] theorem ofByte?_toByte (c : Command) : ofByte? c.toByte = some c := by
  cases c <;> rfl

/-- The byte of a command is the only one that names it. Every other byte is
unknown, and the request is refused with that byte in the error. -/
theorem ofByte?_eq_some_iff {b : UInt8} {c : Command} :
    ofByte? b = some c ↔ c.toByte = b := by
  constructor
  · intro h
    unfold ofByte? at h
    split at h
    · cases h; simp [toByte, *]
    · split at h
      · cases h; simp [toByte, *]
      · split at h <;> cases h
        simp [toByte, *]
  · rintro rfl
    exact ofByte?_toByte c

/-- The name of a command. -/
def text : Command → String
  | .connect => "CONNECT"
  | .bind => "BIND"
  | .udpAssociate => "UDP ASSOCIATE"

end Command

end Socks5
