import Socks5.Net.IPv6

/-!
# `Socks5.Net.IPv6.Reach`: addresses of one link only

Some IPv6 addresses mean something on one link only: those that begin
with the ten bits of `fe80::`, and groups of receivers (`ff..`) within an
interface or a link. Their text may name the link after a percent sign.
-/

set_option autoImplicit false

namespace Socks5.Net.IPv6

/-- Whether an address stands for one host on a link. -/
def isLinkLocal (a : IPv6) : Bool := a.g0 &&& 0xffc0 == 0xfe80

/-- Whether an address stands for a group of receivers. -/
def isMulticast (a : IPv6) : Bool := a.g0 >>> 8 == 0xff

/-- Whether an address means something on one link only. -/
def isOfLink (a : IPv6) : Bool :=
  a.isLinkLocal || a.g0 &&& 0xff0f == 0xff01 || a.g0 &&& 0xff0f == 0xff02

/-- Reads an address with a percent sign, and gives what follows the sign. -/
def splitScope? (cs : List Char) : Option (IPv6 × List Char) :=
  match cs.span (· != '%') with
  | (address, _ :: scope) => (parse? address).map fun a => (a, scope)
  | (_, []) => none

end Socks5.Net.IPv6
