import Socks5.Text.Digits
import Socks5.Toml.Reader

/-!
# `Socks5.Toml.Number`: integers and floats

Underscores may stand between digits. An integer fits into 64 bits with
a sign; one in base 2, 8 or 16 has no sign. A float has a fraction, an
exponent or both, or is an infinity or not a number. A float that is
too large to be finite is refused; one that is too small is not.
-/

set_option autoImplicit false

namespace Socks5.Toml

open Reader Text

/-- Reads digits of a class, with single underscores between them. -/
def digitRun (p : Char → Bool) : Reader (List Char) := do
  let first ← satisfy p
  let rest ← many (satisfy p <|> do
    char '_'
    satisfy p)
  return first :: rest

/-- Reads a sign. True is minus. -/
def sign : Reader Bool := do
  return (← satisfy fun c => c == '+' || c == '-') == '-'

/-- Reads a sign if there is one. True is minus. -/
def optionalSign : Reader Bool := do return (← optional sign).getD false

/-- The number that digits denote in a base. -/
def ofDigits (base : Nat) (ds : List Char) : Nat :=
  ds.foldl (fun n c => base * n + (hexDigit? c).getD 0) 0

/-- Reads decimal digits without leading zeros. -/
def leadingDigits : Reader (List Char) :=
  (do
    let first ← satisfy fun c => '1' ≤ c && c ≤ '9'
    let rest ← optional (do
      let _ ← optional (char '_')
      digitRun Char.isDigit)
    return first :: rest.getD [])
  <|> (do return [← satisfy Char.isDigit])

/-! ### Integers -/

/-- The integers that fit into 64 bits. -/
def fitsInteger (n : Int) : Bool := Int64.minValue.toInt ≤ n && n ≤ Int64.maxValue.toInt

/-- Reads the digits of an integer in another base, after its mark. -/
def inBase (mark : String) (base : Nat) : Reader Int := do
  word mark
  let ds ← digitRun fun c => (hexDigit? c).any (· < base)
  return ofDigits base ds

/-- Reads an integer in base ten. -/
def inBaseTen : Reader Int := do
  let negative ← optionalSign
  let n : Int := ofDigits 10 (← leadingDigits)
  return if negative then -n else n

/-- Reads an integer. -/
def integer : Reader Int := do
  let n ← inBase "0x" 16 <|> inBase "0o" 8 <|> inBase "0b" 2 <|> inBaseTen
  if fitsInteger n then return n else failure

/-! ### Floats -/

/-- The least number that does not round to a finite float. -/
def floatBound : Nat := (1 <<< 1024) - (1 <<< 970)

/-- Whether a number is too large for a finite float. The digits are those
of a whole number, which is scaled by a power of ten. The number of its
digits decides all but the close cases. -/
def overflows (digits : List Char) (exponent : Int) : Bool :=
  let significant := digits.dropWhile (· == '0')
  let magnitude := significant.length + exponent
  if significant = [] ∨ magnitude < 309 then false
  else if 309 < magnitude then true
  else if 0 ≤ exponent then floatBound ≤ ofDigits 10 digits * Nat.pow 10 exponent.toNat
  else floatBound * Nat.pow 10 (-exponent).toNat ≤ ofDigits 10 digits

/-- Reads a fraction. -/
def fraction : Reader (List Char) := do
  char '.'
  digitRun Char.isDigit

/-- Reads an exponent. -/
def exponent : Reader Int := do
  let _ ← satisfy fun c => c == 'e' || c == 'E'
  let negative ← optionalSign
  let n : Int := ofDigits 10 (← digitRun Char.isDigit)
  return if negative then -n else n

/-- Reads what makes a float of the digits before it. -/
def fractionAndExponent : Reader (List Char × Int) :=
  (do return ([], ← exponent)) <|> do return (← fraction, (← optional exponent).getD 0)

/-- Reads a float that is written in digits. -/
def finiteFloat : Reader Unit := do
  let negative ← optionalSign
  let whole ← leadingDigits
  let (part, power) ← fractionAndExponent
  if !negative && overflows (whole ++ part) (power - part.length) then failure else return ()

/-- Reads an infinity or what is not a number. -/
def specialFloat : Reader Unit := do
  let _ ← optionalSign
  word "inf" <|> word "nan"

/-- Reads a float. Its value is not kept. -/
def float : Reader Unit := finiteFloat <|> specialFloat

end Socks5.Toml
