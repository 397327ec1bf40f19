import Socks5.Error
import Socks5.Net.Endpoint
import Socks5.Text.Utf8

/-!
# `Socks5.Address`: the addresses of requests and replies

An address is an IP endpoint or a host name with a port. A name is kept
as the bytes of the wire, which need not be UTF-8; only its text is
forced into characters.
-/

set_option autoImplicit false

namespace Socks5

open Net Text

/-- How an address is framed. -/
inductive AddressType where
  | ipv4
  | domainName
  | ipv6
  deriving Repr, DecidableEq, Inhabited

namespace AddressType

/-- Reads the byte of an address type. -/
def ofByte? (b : UInt8) : Option AddressType :=
  if b = 1 then some .ipv4
  else if b = 3 then some .domainName
  else if b = 4 then some .ipv6
  else none

/-- The byte of an address type. -/
def toByte : AddressType → UInt8
  | .ipv4 => 1
  | .domainName => 3
  | .ipv6 => 4

/-- The table of address types. The byte 2 is free, so no bound tells the types
from other bytes. -/
theorem toByte_eq_iff {t : AddressType} {b : UInt8} :
    t.toByte = b ↔ t = .ipv4 ∧ b = 1 ∨ t = .domainName ∧ b = 3 ∨ t = .ipv6 ∧ b = 4 := by
  cases t <;> simp [toByte, eq_comm]

/-- Whatever byte is written for a type is read as that type. -/
@[simp] theorem ofByte?_toByte (t : AddressType) : ofByte? t.toByte = some t := by
  cases t <;> rfl

/-- The byte of an address type is the only one that names it, so a frame that
has been read is the frame that would be written. -/
theorem ofByte?_eq_some_iff {b : UInt8} {t : AddressType} :
    ofByte? b = some t ↔ t.toByte = b := by
  constructor
  · intro h
    unfold ofByte? at h
    split at h
    · cases h; simp [toByte, *]
    · split at h
      · cases h; simp [toByte, *]
      · split at h <;> cases h
        simp [toByte, *]
  · rintro rfl
    exact ofByte?_toByte t

end AddressType

/-- Where a request goes or a reply comes from. -/
inductive Address where
  /-- A known IP address. -/
  | ip (endpoint : Endpoint)
  /-- A name still to be resolved. -/
  | name (host : Bytes) (port : UInt16)
  deriving Repr, DecidableEq

namespace Address

/-- The address 0.0.0.0:0, which failure replies carry. -/
def unspecified : Address := .ip .unspecified

instance : Inhabited Address := ⟨unspecified⟩

/-- The longest name that one length byte can frame. -/
def maxNameLength : Nat := 255

/-- The port of an address. -/
def port : Address → UInt16
  | .ip e => e.port
  | .name _ p => p

/-- How the address is framed. -/
def type : Address → AddressType
  | .ip (.v4 ..) => .ipv4
  | .ip (.v6 ..) => .ipv6
  | .name .. => .domainName

/-- The bytes of the host: the octets or the name. -/
def hostBytes : Address → Bytes
  | .ip e => e.ip.octets
  | .name host _ => host

/-- The text of the host. -/
def host : Address → String
  | .ip e => e.ip.toText
  | .name host _ => Utf8.decodeLossy host

/-- The text `host:port`. A name with a colon in it stands in brackets,
as an IPv6 address does. -/
def toText : Address → String
  | .ip e => e.toText
  | .name host p =>
    let text := Utf8.decodeLossy host
    if text.toList.contains ':' then s!"[{text}]:{p.toNat}" else s!"{text}:{p.toNat}"

/-- The address as a reader of its frame sees it: flow label and scope do
not travel. -/
def framed : Address → Address
  | .ip (.v6 a p _ _) => .ip (.v6 a p 0 0)
  | a => a

end Address

end Socks5
