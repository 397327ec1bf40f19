import Socks5.Dialogue

/-!
# `Socks5.Address.Reader`: reading the bytes of an address

The reader takes exactly the bytes of one frame. The byte of the address
type says how many they are; an unknown type is refused right after it.
-/

set_option autoImplicit false

namespace Socks5.Address

open Net

/-- Reads one address. -/
def read : Exchange Address := do
  let b ← Exchange.byte
  match AddressType.ofByte? b with
  | none => throw (.unsupportedAddressType b)
  | some .ipv4 => do
    let octets ← Exchange.block 4
    let port ← Exchange.port
    return .ip (.v4 (.ofOctets octets) port)
  | some .ipv6 => do
    let octets ← Exchange.block 16
    let port ← Exchange.port
    return .ip (.v6 (.ofOctets octets) port 0 0)
  | some .domainName => do
    let host ← Exchange.counted
    let port ← Exchange.port
    return .name host port

end Socks5.Address
