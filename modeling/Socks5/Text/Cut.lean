/-!
# `Socks5.Text.Cut`: cutting a text at byte offsets

An offset counts the bytes of a text in UTF-8. A cut inside a character
is not possible. Main statement: cutting at the end of a text's first
part gives its two parts (`dropBytes?_append`, `takeBytes?_append`).
-/

set_option autoImplicit false

namespace Socks5.Text

/-- The number of bytes of a text. -/
def byteLength : List Char → Nat
  | [] => 0
  | c :: cs => c.utf8Size + byteLength cs

/-- A text without its first `n` bytes. -/
def dropBytes? : Nat → List Char → Option (List Char)
  | 0, cs => some cs
  | _ + 1, [] => none
  | n + 1, c :: cs => if c.utf8Size ≤ n + 1 then dropBytes? (n + 1 - c.utf8Size) cs else none

/-- The first `n` bytes of a text. -/
def takeBytes? : Nat → List Char → Option (List Char)
  | 0, _ => some []
  | _ + 1, [] => none
  | n + 1, c :: cs =>
    if c.utf8Size ≤ n + 1 then (takeBytes? (n + 1 - c.utf8Size) cs).map (c :: ·) else none

/-- The bytes of a text from one offset up to another. -/
def cut? (start stop : Nat) (cs : List Char) : Option (List Char) :=
  (dropBytes? start cs).bind (takeBytes? (stop - start))

/-- Without any bytes the text is left as it is. The definition matches on the
number first, so this holds of every text. -/
@[simp] theorem dropBytes?_zero (cs : List Char) : dropBytes? 0 cs = some cs := by
  cases cs <;> rfl

/-- No bytes of a text make no text. -/
@[simp] theorem takeBytes?_zero (cs : List Char) : takeBytes? 0 cs = some [] := by
  cases cs <;> rfl

/-- A cut behind the first character lies as far into the rest as is left of the
offset. A character has at least one byte, so the offset is not zero here. -/
theorem dropBytes?_cons (c : Char) (n : Nat) (cs : List Char) :
    dropBytes? (c.utf8Size + n) (c :: cs) = dropBytes? n cs := by
  obtain ⟨m, hm⟩ : ∃ m, c.utf8Size + n = m + 1 :=
    ⟨c.utf8Size + n - 1, by have := c.utf8Size_pos; omega⟩
  rw [hm, dropBytes?, if_pos (by omega), ← hm, Nat.add_sub_cancel_left]

/-- The first bytes of a text that reach behind its first character are that
character and the first bytes of the rest. -/
theorem takeBytes?_cons (c : Char) (n : Nat) (cs : List Char) :
    takeBytes? (c.utf8Size + n) (c :: cs) = (takeBytes? n cs).map (c :: ·) := by
  obtain ⟨m, hm⟩ : ∃ m, c.utf8Size + n = m + 1 :=
    ⟨c.utf8Size + n - 1, by have := c.utf8Size_pos; omega⟩
  rw [hm, takeBytes?, if_pos (by omega), ← hm, Nat.add_sub_cancel_left]

/-- What follows a text's first part. Since the offset is the length of whole
characters, the cut is never inside one. -/
theorem dropBytes?_append (as bs : List Char) :
    dropBytes? (byteLength as) (as ++ bs) = some bs := by
  induction as with
  | nil => exact dropBytes?_zero bs
  | cons c as ih => rw [byteLength, List.cons_append, dropBytes?_cons, ih]

/-- A text's first part. Since the offset is the length of whole characters, the
cut is never inside one. -/
theorem takeBytes?_append (as bs : List Char) :
    takeBytes? (byteLength as) (as ++ bs) = some as := by
  induction as with
  | nil => exact takeBytes?_zero bs
  | cons c as ih => rw [byteLength, List.cons_append, takeBytes?_cons, ih, Option.map_some]

end Socks5.Text
