import Socks5.Net.IPv4

/-!
# `Socks5.Net.IPv6`: sixteen-octet addresses and their text

An address is eight groups of sixteen bits. Its text writes each group
in lower-case hexadecimal without leading zeros and replaces the first
of the longest runs of at least two zero groups by a double colon. An
address that embeds an IPv4 address (`::ffff:a.b.c.d`) shows it dotted.

Reading is wider than writing: groups may have leading zeros up to four
digits and capital letters, a double colon may stand for a single zero
group, and the last two groups of any address may be written dotted.
-/

set_option autoImplicit false

namespace Socks5.Net

open Text

/-- An IPv6 address, group by group. -/
structure IPv6 where
  g0 : UInt16
  g1 : UInt16
  g2 : UInt16
  g3 : UInt16
  g4 : UInt16
  g5 : UInt16
  g6 : UInt16
  g7 : UInt16
  deriving Repr, DecidableEq, Inhabited

namespace IPv6

/-- The address `::`, which stands for any address. -/
def unspecified : IPv6 := ⟨0, 0, 0, 0, 0, 0, 0, 0⟩

/-- The groups, from the highest to the lowest. -/
def groups (a : IPv6) : List UInt16 := [a.g0, a.g1, a.g2, a.g3, a.g4, a.g5, a.g6, a.g7]

/-- The octets in the order of the wire. -/
def octets (a : IPv6) : Bytes := a.groups.flatMap bigEndian

/-- The address with the given octets. -/
def ofOctets (v : Vector UInt8 16) : IPv6 :=
  ⟨ofBigEndian v[0] v[1], ofBigEndian v[2] v[3], ofBigEndian v[4] v[5],
   ofBigEndian v[6] v[7], ofBigEndian v[8] v[9], ofBigEndian v[10] v[11],
   ofBigEndian v[12] v[13], ofBigEndian v[14] v[15]⟩

/-- An IPv6 address takes sixteen octets. Readers ask for this many before they
know any of them. -/
@[simp] theorem length_octets (a : IPv6) : a.octets.length = 16 := rfl

/-- The address with the given groups, if they are eight. -/
def ofGroups? : List UInt16 → Option IPv6
  | [a, b, c, d, e, f, g, h] => some ⟨a, b, c, d, e, f, g, h⟩
  | _ => none

/-- The IPv4 address that an address of the form `::ffff:a.b.c.d` embeds. -/
def mapped? (a : IPv6) : Option IPv4 :=
  if a.g0 = 0 ∧ a.g1 = 0 ∧ a.g2 = 0 ∧ a.g3 = 0 ∧ a.g4 = 0 ∧ a.g5 = 0xffff then
    some ⟨(a.g6 >>> 8).toUInt8, a.g6.toUInt8, (a.g7 >>> 8).toUInt8, a.g7.toUInt8⟩
  else none

/-! ### Writing -/

/-- The lower-case hexadecimal digits of a group, without leading zeros. -/
def hex (g : UInt16) : List Char := Nat.toDigits 16 g.toNat

/-- Groups with colons between them. -/
def colonJoin : List UInt16 → List Char
  | [] => []
  | [g] => hex g
  | g :: gs => hex g ++ ':' :: colonJoin gs

/-- Start and length of the first of the longest runs of zero groups. -/
def longestZeros : List UInt16 → Nat × Nat
  | [] => (0, 0)
  | g :: gs =>
    let here := ((g :: gs).takeWhile (· == 0)).length
    let (start, len) := longestZeros gs
    if len ≤ here then (0, here) else (start + 1, len)

/-- The text of an address. -/
def toChars (a : IPv6) : List Char :=
  match a.mapped? with
  | some v4 => "::ffff:".toList ++ v4.toChars
  | none =>
    let (start, len) := longestZeros a.groups
    if 1 < len then
      colonJoin (a.groups.take start) ++ ':' :: ':' :: colonJoin (a.groups.drop (start + len))
    else colonJoin a.groups

/-- The text of an address, as a string. -/
def toText (a : IPv6) : String := String.ofList a.toChars

/-! ### Reading -/

/-- Reads one group: one to four hexadecimal digits. -/
def group? (cs : List Char) : Option UInt16 :=
  if cs = [] ∨ 4 < cs.length then none
  else do
    let digits ← cs.mapM hexDigit?
    return UInt16.ofNat (digits.foldl (fun n d => 16 * n + d) 0)

/-- The two groups that an IPv4 address fills. -/
def ofIPv4 (a : IPv4) : List UInt16 := [ofBigEndian a.o0 a.o1, ofBigEndian a.o2 a.o3]

/-- Reads the pieces between colons. Only the last may be dotted, and
only when `dotted` says so. -/
def pieces? (dotted : Bool) : List (List Char) → Option (List UInt16)
  | [] => some []
  | [p] =>
    match group? p with
    | some g => some [g]
    | none => if dotted then (IPv4.parse? p).map ofIPv4 else none
  | p :: ps => do return (← group? p) :: (← pieces? dotted ps)

/-- Reads groups with colons between them; no text is no group. -/
def run? (dotted : Bool) (cs : List Char) : Option (List UInt16) :=
  if cs = [] then some [] else pieces? dotted (cs.splitOn ':')

/-- The text before and after the first double colon. -/
def splitDoubleColon : List Char → Option (List Char × List Char)
  | ':' :: ':' :: rest => some ([], rest)
  | c :: cs => (splitDoubleColon cs).map fun (before, after) => (c :: before, after)
  | [] => none

/-- Reads the text of an address. A double colon stands for at least one
zero group, and what precedes it is not dotted. -/
def parse? (cs : List Char) : Option IPv6 :=
  match splitDoubleColon cs with
  | none => run? true cs >>= ofGroups?
  | some (before, after) => do
    let high ← run? false before
    let low ← run? true after
    if high.length + low.length ≤ 7 then
      ofGroups? (high ++ List.replicate (8 - high.length - low.length) 0 ++ low)
    else none

end IPv6

end Socks5.Net
