/-!
# `Socks5.Bytes`: byte strings and big-endian ports

A message on the wire is a list of bytes. The only number wider than
one byte is the port, which travels high byte first; `bigEndian` and
`ofBigEndian` are inverse to each other.
-/

set_option autoImplicit false

namespace Socks5

/-- A string of bytes, in the order in which they travel. -/
abbrev Bytes := List UInt8

/-- The two bytes of a port, high byte first. -/
def bigEndian (n : UInt16) : Bytes := [(n >>> 8).toUInt8, n.toUInt8]

/-- The number whose high and low bytes are given. -/
def ofBigEndian (high low : UInt8) : UInt16 := (high.toUInt16 <<< 8) ||| low.toUInt16

/-- A port takes two bytes, whatever it is. -/
@[simp] theorem length_bigEndian (n : UInt16) : (bigEndian n).length = 2 := rfl

/-- The bytes of a string in UTF-8. -/
def utf8 (s : String) : Bytes := s.toList.flatMap String.utf8EncodeChar

/-- The byte of a length field. Callers pass lengths up to 255. -/
def lengthByte (bs : Bytes) : UInt8 := UInt8.ofNat bs.length

end Socks5
