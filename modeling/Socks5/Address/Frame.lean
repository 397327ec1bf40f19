import Socks5.Address

/-!
# `Socks5.Address.Frame`: the bytes of an address

A frame is the byte of the address type, the host and the port. Octets
stand as they are, a name follows its length. Every address but an
overlong name has a frame.
-/

set_option autoImplicit false

namespace Socks5.Address

open Net

/-- The bytes of an address in a message. -/
def encode : Address → Except ProtocolError Bytes
  | .ip (.v4 a p) => .ok (AddressType.ipv4.toByte :: a.octets ++ bigEndian p)
  | .ip (.v6 a p _ _) => .ok (AddressType.ipv6.toByte :: a.octets ++ bigEndian p)
  | .name host p =>
    if maxNameLength < host.length then .error (.domainTooLong host.length)
    else .ok (AddressType.domainName.toByte :: lengthByte host :: host ++ bigEndian p)

/-- The buffer after an attempt to append the address, and the error if
there was one. A buffer is never left half extended. -/
def appendTo (a : Address) (buffer : Bytes) : Bytes × Except ProtocolError Unit :=
  match a.encode with
  | .ok bytes => (buffer ++ bytes, .ok ())
  | .error e => (buffer, .error e)

end Socks5.Address
