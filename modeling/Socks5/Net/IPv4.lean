import Socks5.Bytes
import Socks5.Text.Digits

/-!
# `Socks5.Net.IPv4`: four-octet addresses and their dotted text

The text is four decimal octets with dots between them. An octet has
no leading zero, no sign and at most three digits, so each address has
exactly one text.
-/

set_option autoImplicit false

namespace Socks5.Net

open Text

/-- An IPv4 address, octet by octet. -/
structure IPv4 where
  o0 : UInt8
  o1 : UInt8
  o2 : UInt8
  o3 : UInt8
  deriving Repr, DecidableEq, Inhabited

namespace IPv4

/-- The address 0.0.0.0, which stands for any address. -/
def unspecified : IPv4 := ⟨0, 0, 0, 0⟩

/-- The octets in the order of the wire. -/
def octets (a : IPv4) : Bytes := [a.o0, a.o1, a.o2, a.o3]

/-- The address with the given octets. -/
def ofOctets (v : Vector UInt8 4) : IPv4 := ⟨v[0], v[1], v[2], v[3]⟩

/-- An IPv4 address takes four octets. Readers ask for this many before they know
any of them. -/
@[simp] theorem length_octets (a : IPv4) : a.octets.length = 4 := rfl

/-- The dotted text of an address. -/
def toChars (a : IPv4) : List Char :=
  decimal a.o0.toNat ++ '.' :: decimal a.o1.toNat ++ '.' :: decimal a.o2.toNat
    ++ '.' :: decimal a.o3.toNat

/-- The dotted text of an address, as a string. -/
def toText (a : IPv4) : String := String.ofList a.toChars

/-- Reads one octet: one to three digits, no leading zero, at most 255. -/
def octet? (cs : List Char) : Option UInt8 :=
  match decimal? cs with
  | none => none
  | some n =>
    if 3 < cs.length ∨ (cs.head? = some '0' ∧ 1 < cs.length) ∨ 255 < n then none
    else some (UInt8.ofNat n)

/-- Reads a dotted text. -/
def parse? (cs : List Char) : Option IPv4 :=
  match cs.splitOn '.' with
  | [a, b, c, d] => do return ⟨← octet? a, ← octet? b, ← octet? c, ← octet? d⟩
  | _ => none

end IPv4

end Socks5.Net
