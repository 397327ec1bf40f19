import Socks5.Address.Frame

/-!
# `Socks5.Proofs.Frame`: what the bytes of an address say

The facts below the readers and writers: ports and octets are what their
bytes spell, and a text is known by its bytes. `encode_framed` says that a
frame does not show flow label and scope.
-/

set_option autoImplicit false

namespace Socks5

open Net

/-! ### Ports and lengths -/

/-- The number that two bytes spell. The shift loses nothing, since a byte moved
up by eight bits still fits, and the two bytes do not overlap. -/
theorem toNat_ofBigEndian (high low : UInt8) :
    (ofBigEndian high low).toNat = 256 * high.toNat + low.toNat := by
  have hhigh := high.toNat_lt
  have hlow := low.toNat_lt
  have hor : high.toNat <<< 8 ||| low.toNat = 256 * high.toNat + low.toNat := by
    rw [Nat.shiftLeft_eq, Nat.mul_comm]
    exact (Nat.two_pow_add_eq_or_of_lt (i := 8) hlow high.toNat).symm
  have hmod : high.toNat <<< 8 % 65536 = high.toNat <<< 8 := by
    rw [Nat.shiftLeft_eq]
    exact Nat.mod_eq_of_lt (by omega)
  simp [ofBigEndian, hmod, hor]

/-- A port is read as it was written. -/
theorem ofBigEndian_bigEndian (p : UInt16) :
    ofBigEndian (p >>> 8).toUInt8 p.toUInt8 = p := by
  have hp := p.toNat_lt
  rw [← UInt16.toNat_inj, toNat_ofBigEndian]
  simp [Nat.shiftRight_eq_div_pow]
  omega

/-- Two bytes are written as they were read, so a port is known by its bytes and
its bytes by the port. -/
theorem bigEndian_ofBigEndian (high low : UInt8) :
    bigEndian (ofBigEndian high low) = [high, low] := by
  have hhigh := high.toNat_lt
  have hlow := low.toNat_lt
  have h₁ : (ofBigEndian high low >>> 8).toUInt8 = high := by
    rw [← UInt8.toNat_inj]
    simp [toNat_ofBigEndian, Nat.shiftRight_eq_div_pow]
    omega
  have h₂ : (ofBigEndian high low).toUInt8 = low := by
    rw [← UInt8.toNat_inj]
    simp [toNat_ofBigEndian]
  rw [bigEndian, h₁, h₂]

/-- A length byte shows lengths up to 255. Longer strings have a length byte as
well, but it is wrong, which is why overlong names have no frame. -/
theorem toNat_lengthByte {bs : Bytes} (h : bs.length ≤ 255) :
    (lengthByte bs).toNat = bs.length := by
  simp [lengthByte]
  omega

/-- Counted blocks are told apart from what follows them: the length stands in
front, so no byte of the rest can be taken for one of the block. -/
theorem counted_append_inj {bs bs' rest rest' : Bytes} (h : bs.length ≤ 255)
    (h' : bs'.length ≤ 255)
    (heq : lengthByte bs :: (bs ++ rest) = lengthByte bs' :: (bs' ++ rest')) :
    bs = bs' ∧ rest = rest' := by
  rw [List.cons.injEq] at heq
  have hlen : bs.length = bs'.length := by
    rw [← toNat_lengthByte h, ← toNat_lengthByte h', heq.1]
  exact List.append_inj heq.2 hlen

/-- A block whose length was read from a byte has that byte as its length byte. -/
theorem lengthByte_toList {b : UInt8} (v : Vector UInt8 b.toNat) : lengthByte v.toList = b := by
  simp [lengthByte]

/-! ### Text -/

/-- The bytes of a text as a list are those that the library keeps as an array. -/
theorem toByteArray_utf8 (s : String) : (utf8 s).toByteArray = s.toByteArray := by
  rw [← String.utf8Encode_toList]
  rfl

/-- Two texts have the same bytes only if they are the same. So comparing
credentials as bytes is comparing them as texts. -/
theorem utf8_inj {s t : String} (h : utf8 s = utf8 t) : s = t := by
  rw [← String.toByteArray_inj, ← toByteArray_utf8, h, toByteArray_utf8]

/-! ### Octets -/

namespace Net

/-- Any four octets are those of the address that is read from them. -/
theorem IPv4.octets_ofOctets (v : Vector UInt8 4) : (IPv4.ofOctets v).octets = v.toList := by
  obtain ⟨⟨l⟩, hl⟩ := v
  match l, hl with
  | [_, _, _, _], _ => rfl

/-- Any sixteen octets are those of the address that is read from them, though the
address keeps them in groups of two. -/
theorem IPv6.octets_ofOctets (v : Vector UInt8 16) : (IPv6.ofOctets v).octets = v.toList := by
  obtain ⟨⟨l⟩, hl⟩ := v
  match l, hl with
  | [_, _, _, _, _, _, _, _, _, _, _, _, _, _, _, _], _ =>
    simp [IPv6.octets, IPv6.groups, IPv6.ofOctets, bigEndian_ofBigEndian]

/-- An IPv4 address is read as it was written. -/
theorem IPv4.ofOctets_octets (a : IPv4) : IPv4.ofOctets ⟨a.octets.toArray, rfl⟩ = a := rfl

/-- An IPv6 address is read as it was written. -/
theorem IPv6.ofOctets_octets (a : IPv6) : IPv6.ofOctets ⟨a.octets.toArray, rfl⟩ = a := by
  simp [IPv6.octets, IPv6.groups, IPv6.ofOctets, bigEndian, ofBigEndian_bigEndian]

end Net

/-! ### Frames -/

namespace Address

/-- A frame does not show flow label and scope, so an address and what travels of
it have the same frame. -/
@[simp] theorem encode_framed (a : Address) : a.framed.encode = a.encode := by
  cases a with
  | ip e => cases e <;> rfl
  | name host p => rfl

/-- What has travelled once travels unchanged. -/
@[simp] theorem framed_framed (a : Address) : a.framed.framed = a.framed := by
  cases a with
  | ip e => cases e <;> rfl
  | name host p => rfl

/-- A name has a frame when its length fits into a byte, whatever its bytes are.
-/
theorem encode_name {host : Bytes} (h : host.length ≤ 255) (p : UInt16) :
    (Address.name host p).encode
      = .ok (AddressType.domainName.toByte :: lengthByte host :: host ++ bigEndian p) := by
  have : ¬ maxNameLength < host.length := by simp [maxNameLength]; omega
  simp [encode, this]

end Address

end Socks5
