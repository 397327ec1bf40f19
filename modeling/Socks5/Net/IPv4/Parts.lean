import Socks5.Net.IPv4

/-!
# `Socks5.Net.IPv4.Parts`: addresses in one to four parts

An older notation of IPv4 addresses has one to four numbers with dots
between them. Each but the last is one octet; the last fills all octets
that are left, so `127.1` is `127.0.0.1`. A number may be hexadecimal
after `0x`, octal after another leading zero, else it is decimal. Main
statement: parts make up a number that fits into their octets
(`joinParts?_lt`), so no octet is lost.
-/

set_option autoImplicit false

namespace Socks5.Net.IPv4

open Text

/-- The address whose octets, taken together, are a number. -/
def ofNat (n : Nat) : IPv4 :=
  ⟨UInt8.ofNat (n >>> 24), UInt8.ofNat (n >>> 16), UInt8.ofNat (n >>> 8), UInt8.ofNat n⟩

/-- The number that parts of an address with so many octets make up. -/
def joinParts? : Nat → List Nat → Option Nat
  | octets + 1, [n] => if n < Nat.pow 256 (octets + 1) then some n else none
  | octets + 1, n :: ns =>
    if n < 256 then (joinParts? octets ns).map (n * Nat.pow 256 octets + ·) else none
  | _, _ => none

/-- What parts make up fits into their octets. The last part may fill all octets
that the others leave over, which is why the bound is one for the whole and not
for each part. -/
theorem joinParts?_lt {octets : Nat} {parts : List Nat} {n : Nat}
    (h : joinParts? octets parts = some n) : n < Nat.pow 256 octets := by
  fun_induction joinParts? octets parts generalizing n with
  | case1 octets m hm => cases h; exact hm
  | case2 => cases h
  | case3 octets m ms _ hm ih =>
    obtain ⟨low, hlow, rfl⟩ := Option.map_eq_some_iff.1 h
    -- The first octet is at most 255, and what follows is below one unit of it.
    calc
      m * Nat.pow 256 octets + low < m * Nat.pow 256 octets + Nat.pow 256 octets := by
        exact Nat.add_lt_add_left (ih hlow) _
      _ = (m + 1) * Nat.pow 256 octets := (Nat.succ_mul m _).symm
      _ ≤ 256 * Nat.pow 256 octets := Nat.mul_le_mul_right _ hm
      _ = Nat.pow 256 (octets + 1) := (Nat.pow_succ').symm
  | case4 => cases h
  | case5 => cases h

/-- Reads one part. -/
def part? : List Char → Option Nat
  | '0' :: 'x' :: cs | '0' :: 'X' :: cs => inBase? 16 cs
  | '0' :: c :: cs => inBase? 8 (c :: cs)
  | cs => inBase? 10 cs

/-- Reads an address in parts. -/
def parseParts? (cs : List Char) : Option IPv4 := do
  let parts ← (cs.splitOn '.').mapM part?
  return ofNat (← joinParts? 4 parts)

end Socks5.Net.IPv4
