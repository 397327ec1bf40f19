/-!
# `Socks5.Text.Digits`: numbers written in digits

Decimal digits without a sign, and digits in any base up to sixteen, of
either case. Reading looks at ASCII digits only.
-/

set_option autoImplicit false

namespace Socks5.Text

/-- The decimal digits of a number. -/
def decimal (n : Nat) : List Char := Nat.toDigits 10 n

/-- The value of a decimal digit. -/
def digitValue (c : Char) : Nat := c.toNat - '0'.toNat

/-- The number that decimal digits denote, or `none` when there is none
of them or a character is no digit. Leading zeros do not count. -/
def decimal? (cs : List Char) : Option Nat :=
  if cs ≠ [] ∧ cs.all Char.isDigit then some (cs.foldl (fun n c => 10 * n + digitValue c) 0)
  else none

/-- The value of a hexadecimal digit of either case. -/
def hexDigit? (c : Char) : Option Nat :=
  if '0' ≤ c ∧ c ≤ '9' then some (c.toNat - '0'.toNat)
  else if 'a' ≤ c ∧ c ≤ 'f' then some (c.toNat - 'a'.toNat + 10)
  else if 'A' ≤ c ∧ c ≤ 'F' then some (c.toNat - 'A'.toNat + 10)
  else none

/-- The number that digits in a base denote, or `none` when there is none
of them or a character is no digit in that base. -/
def inBase? (base : Nat) (cs : List Char) : Option Nat :=
  if cs = [] then none
  else
    let step (n : Nat) (c : Char) : Option Nat := do
      let d ← hexDigit? c
      if d < base then some (base * n + d) else none
    cs.foldlM step 0

/-- Drops a plus sign at the front. -/
def dropPlus : List Char → List Char
  | '+' :: cs => cs
  | cs => cs

end Socks5.Text
