import Socks5.Bytes

/-!
# `Socks5.Text.Utf8`: reading bytes as UTF-8

A byte string is read as a sequence of characters and ill-formed
pieces. A piece is a maximal ill-formed subpart: the longest beginning
of a character that the bytes hold, or else a single byte. Strict
reading refuses any piece, lossy reading puts U+FFFD for each.
-/

set_option autoImplicit false

namespace Socks5.Text.Utf8

/-- What a first byte announces. -/
structure Lead where
  /-- The bits of the character that the byte carries. -/
  bits : Nat
  /-- How many bytes follow. -/
  more : Nat
  /-- Bounds of the byte that follows. Later ones lie in 80 to BF. -/
  low : UInt8
  high : UInt8

/-- Reads a first byte. `none` when no character starts with it. -/
def lead? (b : UInt8) : Option Lead :=
  if b < 0x80 then some ⟨b.toNat, 0, 0x80, 0xBF⟩
  else if b < 0xC2 then none
  else if b < 0xE0 then some ⟨b.toNat - 0xC0, 1, 0x80, 0xBF⟩
  else if b = 0xE0 then some ⟨0, 2, 0xA0, 0xBF⟩
  else if b = 0xED then some ⟨13, 2, 0x80, 0x9F⟩
  else if b < 0xF0 then some ⟨b.toNat - 0xE0, 2, 0x80, 0xBF⟩
  else if b = 0xF0 then some ⟨0, 3, 0x90, 0xBF⟩
  else if b < 0xF4 then some ⟨b.toNat - 0xF0, 3, 0x80, 0xBF⟩
  else if b = 0xF4 then some ⟨4, 3, 0x80, 0x8F⟩
  else none

/-- Takes the bytes that follow a first byte, as far as they fit. The
result is the code point, if all were there, and the bytes not taken. -/
def follow (acc : Nat) (low high : UInt8) : Nat → Bytes → Option Nat × Bytes
  | 0, bs => (some acc, bs)
  | _ + 1, [] => (none, [])
  | n + 1, b :: bs =>
    if low ≤ b ∧ b ≤ high then follow (64 * acc + b.toNat % 64) 0x80 0xBF n bs
    else (none, b :: bs)

/-- Following bytes are only ever taken, so the rest is no longer than the bytes
were. -/
theorem length_follow_le (n : Nat) (acc : Nat) (low high : UInt8) (bs : Bytes) :
    (follow acc low high n bs).2.length ≤ bs.length := by
  induction n generalizing acc low high bs with
  | zero => simp [follow]
  | succ n ih =>
    cases bs with
    | nil => simp [follow]
    | cons b bs =>
      unfold follow
      split
      · have h := ih (64 * acc + b.toNat % 64) 0x80 0xBF bs
        simp only [List.length_cons]
        omega
      · simp

/-- The first character, or `none` for an ill-formed piece, and the
bytes after it. -/
def step (b : UInt8) (bs : Bytes) : Option Char × Bytes :=
  match lead? b with
  | none => (none, bs)
  | some l =>
    let r := follow l.bits l.low l.high l.more bs
    (r.1.map Char.ofNat, r.2)

/-- A step takes no bytes back. Together with the first byte, which it has always
taken, this makes `pieces` come to an end. -/
theorem length_step_le (b : UInt8) (bs : Bytes) : (step b bs).2.length ≤ bs.length := by
  unfold step
  split
  · simp
  · exact length_follow_le ..

/-- The characters of a byte string, with `none` for each ill-formed piece. -/
def pieces : Bytes → List (Option Char)
  | [] => []
  | b :: bs => (step b bs).1 :: pieces (step b bs).2
termination_by bs => bs.length
decreasing_by
  have h := length_step_le b bs
  simp only [List.length_cons]
  omega

/-- Reads a byte string, or refuses it when it is not UTF-8. -/
def decode? (bs : Bytes) : Option String := ((pieces bs).mapM id).map String.ofList

/-- Reads a byte string with U+FFFD in place of each ill-formed piece. -/
def decodeLossy (bs : Bytes) : String :=
  String.ofList ((pieces bs).map fun c => c.getD '\uFFFD')

end Socks5.Text.Utf8
