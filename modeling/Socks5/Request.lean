import Socks5.Address.Frame
import Socks5.Address.Reader
import Socks5.Command

/-!
# `Socks5.Request`: what a client asks of a server

A request is the version, the command, a reserved byte and an address.
The reserved byte is written as zero and not looked at when reading. An
unknown command is refused only after the whole message has been read,
so that the stream stays in step and a reply can follow.
-/

set_option autoImplicit false

namespace Socks5

/-- The protocol version, first byte of every message but those of the
password exchange. -/
def version : UInt8 := 5

/-- The version that a message starts with. -/
def headVersion {n : Nat} (head : Vector UInt8 (n + 2)) : UInt8 := head[0]

/-- The byte of a message after its version: a command, a reply code, a method or a status. -/
def headCode {n : Nat} (head : Vector UInt8 (n + 2)) : UInt8 := head[1]

/-- What a client asks of a server. -/
structure Request where
  command : Command
  address : Address
  deriving Repr, DecidableEq, Inhabited

namespace Request

/-- The bytes of a request before its address. -/
def header (command : Command) : Bytes := [version, command.toByte, 0]

/-- A request starts with 5, the number of its command, and 0. -/
theorem header_eq (command : Command) : header command = [5, command.toByte, 0] := rfl

/-- The bytes of a request. -/
def encode (r : Request) : Except ProtocolError Bytes :=
  r.address.encode.map (header r.command ++ ·)

/-- Reads a request. -/
def read : Exchange Request := do
  let head ← Exchange.block 3
  if headVersion head ≠ version then throw (.unsupportedVersion (headVersion head))
  else do
    let address ← Address.read
    match Command.ofByte? (headCode head) with
    | none => throw (.commandNotSupported (headCode head))
    | some command => do
      Exchange.note .debug s!"Parsed SOCKS5 request: {command.text} to {address.toText}"
      return { command, address }

end Request

end Socks5
