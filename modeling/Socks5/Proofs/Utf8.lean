import Socks5.Text.Utf8

/-!
# `Socks5.Proofs.Utf8`: text survives its bytes

The bytes of a text are read as that text, since there is no ill-formed piece in
them (`pieces_utf8`). A character takes one to four bytes, and the first of them
says how many and bounds the second; the bounds leave out what no character is
encoded as.
-/

set_option autoImplicit false

namespace Socks5.Text.Utf8

deriving instance DecidableEq for Lead

/-! ### First bytes -/

/-- A first byte below 128 is a character of its own. All four lemmas of this kind
go through the values one by one, as there are few. -/
theorem lead?_one {v : Nat} (h : v < 128) :
    lead? (UInt8.ofNat v) = some ⟨v, 0, 0x80, 0xBF⟩ := by
  have hall : ∀ v : Fin 128, lead? (UInt8.ofNat v) = some ⟨v, 0, 0x80, 0xBF⟩ := by decide
  exact hall ⟨v, h⟩

/-- The first byte of two. No character of two bytes is below 128, so two of the
values are left out. -/
theorem lead?_two {k : Nat} (hlow : 2 ≤ k) (h : k < 32) :
    lead? (UInt8.ofNat (k + 0xC0)) = some ⟨k, 1, 0x80, 0xBF⟩ := by
  have hall : ∀ k : Fin 32, 2 ≤ k.val →
      lead? (UInt8.ofNat (k + 0xC0)) = some ⟨k, 1, 0x80, 0xBF⟩ := by decide
  exact hall ⟨k, h⟩ hlow

/-- Two first bytes of three bound the second one, so that no character is below
2048 and none is a surrogate. -/
theorem lead?_three {k : Nat} (h : k < 16) :
    lead? (UInt8.ofNat (k + 0xE0))
      = some ⟨k, 2, if k = 0 then 0xA0 else 0x80, if k = 13 then 0x9F else 0xBF⟩ := by
  have hall : ∀ k : Fin 16, lead? (UInt8.ofNat (k + 0xE0))
      = some ⟨k, 2, if k.val = 0 then 0xA0 else 0x80, if k.val = 13 then 0x9F else 0xBF⟩ := by
    decide
  exact hall ⟨k, h⟩

/-- Two first bytes of four bound the second one, so that no character is below
65536 or above the last one. -/
theorem lead?_four {k : Nat} (h : k < 5) :
    lead? (UInt8.ofNat (k + 0xF0))
      = some ⟨k, 3, if k = 0 then 0x90 else 0x80, if k = 4 then 0x8F else 0xBF⟩ := by
  have hall : ∀ k : Fin 5, lead? (UInt8.ofNat (k + 0xF0))
      = some ⟨k, 3, if k.val = 0 then 0x90 else 0x80, if k.val = 4 then 0x8F else 0xBF⟩ := by
    decide
  exact hall ⟨k, h⟩

/-! ### Characters -/

/-- A byte within the bounds is taken. Its six low bits are what it adds, and the
bounds of the bytes behind it are the usual ones. -/
theorem follow_cons {acc n x : Nat} {low high : UInt8} (hlow : low.toNat ≤ x + 0x80)
    (hhigh : x + 0x80 ≤ high.toNat) (hx : x < 64) (bs : Bytes) :
    follow acc low high (n + 1) (UInt8.ofNat (x + 0x80) :: bs)
      = follow (64 * acc + x) 0x80 0xBF n bs := by
  have hvalue : (UInt8.ofNat (x + 0x80)).toNat = x + 0x80 :=
    UInt8.toNat_ofNat_of_lt' (Nat.lt_of_lt_of_le (Nat.add_lt_add_right hx _) (by decide))
  rw [follow, if_pos, hvalue]
  · congr 2
    omega
  · rw [UInt8.le_iff_toNat_le, UInt8.le_iff_toNat_le, hvalue]
    exact ⟨hlow, hhigh⟩

/-- Only the second byte of a character has bounds of its own. -/
theorem follow_tail {acc n x : Nat} (hx : x < 64) (bs : Bytes) :
    follow acc 0x80 0xBF (n + 1) (UInt8.ofNat (x + 0x80) :: bs)
      = follow (64 * acc + x) 0x80 0xBF n bs := by
  refine follow_cons ?_ ?_ hx bs
  · simp
  · simp
    omega

section

variable {v : Nat} (rest : Bytes)

/-- A character of one byte is read as itself. -/
theorem step_one (h : v ≤ 0x7F) : step (UInt8.ofNat v) rest = (some (Char.ofNat v), rest) := by
  rw [step, lead?_one (by omega)]
  rfl

/-- A character of two bytes is read as itself. Its first byte is never one of the
two that only overlong forms would need. -/
theorem step_two (hlow : 0x7F < v) (h : v ≤ 0x7FF) :
    step (UInt8.ofNat (v / 64 % 0x20 + 0xC0)) (UInt8.ofNat (v % 0x40 + 0x80) :: rest)
      = (some (Char.ofNat v), rest) := by
  rw [Nat.mod_eq_of_lt (show v / 64 < 0x20 by omega), step, lead?_two (by omega) (by omega)]
  dsimp only
  rw [follow_tail (by omega), follow,
    show 64 * (v / 64) + v % 0x40 = v by omega]
  rfl

/-- A character of three bytes is read as itself. This is where surrogates have to
be ruled out. -/
theorem step_three (hlow : 0x7FF < v) (h : v ≤ 0xFFFF) (hvalid : v < 0xD800 ∨ 0xDFFF < v) :
    step (UInt8.ofNat (v / 4096 % 0x10 + 0xE0))
        (UInt8.ofNat (v / 64 % 0x40 + 0x80) :: UInt8.ofNat (v % 0x40 + 0x80) :: rest)
      = (some (Char.ofNat v), rest) := by
  -- Below 2048 and among the surrogates the second byte would be out of bounds.
  have hbound : (if v / 4096 = 0 then 0xA0 else 0x80 : UInt8).toNat ≤ v / 64 % 0x40 + 0x80 := by
    split
    · simp
      omega
    · simp
  have hbound' : v / 64 % 0x40 + 0x80 ≤ (if v / 4096 = 13 then 0x9F else 0xBF : UInt8).toNat := by
    split
    · simp
      omega
    · simp
      omega
  rw [Nat.mod_eq_of_lt (show v / 4096 < 0x10 by omega), step, lead?_three (by omega)]
  dsimp only
  rw [follow_cons hbound hbound' (by omega),
    follow_tail (by omega), follow,
    show 64 * (64 * (v / 4096) + v / 64 % 0x40) + v % 0x40 = v by omega]
  rfl

/-- A character of four bytes is read as itself. There are none beyond the last
one. -/
theorem step_four (hlow : 0xFFFF < v) (h : v < 0x110000) :
    step (UInt8.ofNat (v / 262144 % 0x08 + 0xF0))
        (UInt8.ofNat (v / 4096 % 0x40 + 0x80) :: UInt8.ofNat (v / 64 % 0x40 + 0x80)
          :: UInt8.ofNat (v % 0x40 + 0x80) :: rest)
      = (some (Char.ofNat v), rest) := by
  -- The bounds of the second byte: the first one excludes overlong forms, the second one
  -- what is beyond the last character.
  have hbound : (if v / 262144 = 0 then 0x90 else 0x80 : UInt8).toNat
      ≤ v / 4096 % 0x40 + 0x80 := by
    split
    · simp
      omega
    · simp
  have hbound' : v / 4096 % 0x40 + 0x80
      ≤ (if v / 262144 = 4 then 0x8F else 0xBF : UInt8).toNat := by
    split
    · simp
      omega
    · simp
      omega
  rw [Nat.mod_eq_of_lt (show v / 262144 < 0x08 by omega), step, lead?_four (by omega)]
  dsimp only
  rw [follow_cons hbound hbound' (by omega), follow_tail (by omega),
    follow_tail (by omega), follow,
    show 64 * (64 * (64 * (v / 262144) + v / 4096 % 0x40) + v / 64 % 0x40) + v % 0x40 = v by omega]
  rfl

/-- The bytes of a character are read as that character, and what is behind them
is left. The cases are those of the encoding. -/
theorem step_utf8EncodeChar (c : Char) :
    ∃ b bs, String.utf8EncodeChar c = b :: bs ∧ step b (bs ++ rest) = (some c, rest) := by
  -- No character is a surrogate, which matters for those of three bytes.
  have hvalid : c.toNat < 0xD800 ∨ 0xDFFF < c.toNat ∧ c.toNat < 0x110000 := c.valid
  rw [show some c = some (Char.ofNat c.toNat) by rw [Char.ofNat_toNat]]
  unfold String.utf8EncodeChar
  change ∃ b bs, (if c.toNat ≤ 0x7F then _ else if c.toNat ≤ 0x7FF then _ else
    if c.toNat ≤ 0xFFFF then _ else _) = b :: bs ∧ _
  split
  · rename_i h
    exact ⟨_, _, rfl, step_one rest h⟩
  · rename_i h₁
    split
    · rename_i h
      exact ⟨_, _, rfl, step_two rest (Nat.lt_of_not_le h₁) h⟩
    · rename_i h₂
      split
      · rename_i h
        exact ⟨_, _, rfl, step_three rest (Nat.lt_of_not_le h₂) h (hvalid.imp_right And.left)⟩
      · rename_i h₃
        have hlast : c.toNat < 0x110000 := by omega
        exact ⟨_, _, rfl, step_four rest (Nat.lt_of_not_le h₃) hlast⟩

end

/-! ### Texts -/

/-- The bytes of a text have no ill-formed piece: they fall apart into those of
its characters. -/
theorem pieces_utf8 (s : String) : pieces (utf8 s) = s.toList.map some := by
  unfold utf8
  induction s.toList with
  | nil => simp [pieces]
  | cons c cs ih =>
    rw [List.flatMap_cons]
    generalize cs.flatMap String.utf8EncodeChar = rest at ih ⊢
    obtain ⟨b, bs, hc, hstep⟩ := step_utf8EncodeChar rest c
    rw [hc, List.cons_append, pieces, hstep, ih]
    rfl

/-- A text is read back from its bytes. Nothing is lost, as nothing had to be
replaced. -/
@[simp] theorem decodeLossy_utf8 (s : String) : decodeLossy (utf8 s) = s := by
  rw [decodeLossy, pieces_utf8, List.map_map]
  simp [Function.comp_def]

end Socks5.Text.Utf8
