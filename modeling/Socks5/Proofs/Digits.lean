import Mathlib.Algebra.Group.Nat.Defs
import Mathlib.Data.List.Forall2
import Mathlib.Data.List.Induction
import Socks5.Text.Digits

/-!
# `Socks5.Proofs.Digits`: numbers and their digits

Reading digits gives the number that they denote, however many they are, and
writing a number in digits gives the only text without leading zeros that
denotes it.

* `decimal?_eq_some_iff`: which texts are decimal numbers, and which ones.
* `decimal_ofDigitChars`: a text without leading zeros is the decimal text of
  its value. The induction takes digits off the end, since a leading zero is
  only visible at the front.
* `exists_hexDigits`: hexadecimal digits read back as the number.
-/

set_option autoImplicit false

namespace Socks5.Text

/-! ### Decimal digits -/

/-- The texts that are decimal numbers are those of one digit or more. There is no
bound, so a number that no machine word holds is a number here, and whoever needs
a bound asks for it. -/
theorem decimal?_eq_some_iff {cs : List Char} {n : Nat} :
    decimal? cs = some n ↔
      cs ≠ [] ∧ (∀ c ∈ cs, c.isDigit = true) ∧ n = Nat.ofDigitChars 10 cs 0 := by
  unfold decimal?
  by_cases h : cs ≠ [] ∧ cs.all Char.isDigit
  · rw [if_pos h, Option.some.injEq]
    constructor
    · rintro rfl
      exact ⟨h.1, List.all_eq_true.mp h.2, rfl⟩
    · rintro ⟨-, -, rfl⟩
      rfl
  · rw [if_neg h]
    refine iff_of_false nofun ?_
    rintro ⟨hne, hdigits, -⟩
    exact h ⟨hne, List.all_eq_true.mpr hdigits⟩

/-- A number is written with at least one digit. -/
theorem decimal_ne_nil (n : Nat) : decimal n ≠ [] := Nat.toDigits_ne_nil

/-- A number is written with digits only. -/
theorem isDigit_of_mem_decimal {n : Nat} {c : Char} (h : c ∈ decimal n) : c.isDigit = true :=
  Nat.isDigit_of_mem_toDigits (by decide) (by decide) h

/-- What is written is read back. -/
@[simp] theorem decimal?_decimal (n : Nat) : decimal? (decimal n) = some n :=
  decimal?_eq_some_iff.mpr
    ⟨decimal_ne_nil n, fun _ => isDigit_of_mem_decimal, Nat.ofDigitChars_ten_toDigits.symm⟩

/-- A digit is that of its value. The digits are next to each other in the
alphabet, so the distance from zero is the value. -/
theorem exists_digitChar {c : Char} (h : c.isDigit = true) :
    ∃ d < 10, c = Nat.digitChar d ∧ c.toNat - '0'.toNat = d := by
  obtain ⟨hlow, hhigh⟩ := Char.isDigit_iff_toNat.mp h
  have hlow : 48 ≤ c.toNat := hlow
  have hhigh : c.toNat ≤ 57 := hhigh
  refine ⟨c.toNat - 48, by omega, ?_, rfl⟩
  apply Char.toNat_inj.mp
  rw [Nat.toNat_digitChar_of_lt_ten (by omega)]
  omega

/-- Only the number zero starts with a zero. The induction takes digits off the
end, because that is where `Nat.toDigits` puts the last one, while the condition
is about the front. -/
theorem decimal_ofDigitChars {cs : List Char} (hne : cs ≠ []) (hdigits : ∀ c ∈ cs, c.isDigit = true)
    (hlead : cs.head? = some '0' → cs.length ≤ 1) : decimal (Nat.ofDigitChars 10 cs 0) = cs := by
  induction cs using List.reverseRecOn with
  | nil => exact absurd rfl hne
  | append_singleton cs c ih =>
    obtain ⟨d, hd, rfl, hvalue⟩ := exists_digitChar (hdigits c (by simp))
    rw [Nat.ofDigitChars_append, Nat.ofDigitChars_cons, Nat.ofDigitChars_nil, hvalue]
    by_cases hnil : cs = []
    · subst hnil
      rw [Nat.ofDigitChars_nil, Nat.mul_zero, Nat.zero_add]
      exact Nat.toDigits_of_lt_base hd
    · -- The digits in front are a number of their own, and it is not zero.
      have hlead' : cs.head? ≠ some '0' := by
        intro hzero
        have hlen := hlead (by rw [List.head?_append_of_ne_nil cs hnil, hzero])
        have := List.length_pos_iff.mpr hnil
        simp only [List.length_append, List.length_singleton] at hlen
        omega
      have hfront := ih hnil (fun c hc => hdigits c (List.mem_append_left _ hc))
        fun h => absurd h hlead'
      have hpos : 0 < Nat.ofDigitChars 10 cs 0 := by
        rw [Nat.pos_iff_ne_zero]
        intro hzero
        rw [hzero] at hfront
        exact hlead' (by rw [← hfront]; rfl)
      rw [decimal, ← Nat.toDigits_append_toDigits (by decide) hpos hd,
        Nat.toDigits_of_lt_base hd]
      exact congrArg (· ++ [Nat.digitChar d]) hfront

/-- Only zero is written with a zero at the front. Again the last digit goes
first: the front is that of the number without it. -/
theorem eq_zero_of_head_decimal {n : Nat} (h : (decimal n).head? = some '0') : n = 0 := by
  unfold decimal at h
  induction n using Nat.base_induction 10 (by decide) with
  | single d hd =>
    rw [Nat.toDigits_of_lt_base hd] at h
    simpa using h
  | digit m d hd hm ih =>
    rw [← Nat.toDigits_append_toDigits (by decide) hm hd,
      List.head?_append_of_ne_nil _ Nat.toDigits_ne_nil] at h
    have := ih h
    omega

/-! ### Hexadecimal digits -/

/-- A hexadecimal digit is read back as its value. There are only sixteen of them.
-/
theorem hexDigit?_digitChar {d : Nat} (h : d < 16) : hexDigit? (Nat.digitChar d) = some d := by
  have hall : ∀ d : Fin 16, hexDigit? (Nat.digitChar d) = some d.val := by decide
  exact hall ⟨d, h⟩

/-- A hexadecimal digit is less than sixteen, be it a number or a letter in either
case. -/
theorem lt_of_hexDigit? {c : Char} {d : Nat} (h : hexDigit? c = some d) : d < 16 := by
  have hval : ∀ {a b : Char}, a ≤ b → a.toNat ≤ b.toNat := fun h => h
  unfold hexDigit? at h
  split_ifs at h with hc hc hc
  all_goals
    cases h
    have := hval hc.2
    simp only [Char.reduceToNat] at this ⊢
    omega

/-- The value that each character has as a hexadecimal digit. -/
def HexDigits (cs : List Char) (ds : List Nat) : Prop :=
  List.Forall₂ (fun c d => hexDigit? c = some d) cs ds

/-- The number that hexadecimal digits denote. -/
def hexValue (ds : List Nat) : Nat := ds.foldl (fun n d => 16 * n + d) 0

/-- Reading all characters as digits gives the digits in order, or nothing if one
of them is no digit. -/
theorem mapM_hexDigit?_eq_some_iff {cs : List Char} {ds : List Nat} :
    cs.mapM hexDigit? = some ds ↔ HexDigits cs ds := by
  induction cs generalizing ds with
  | nil => simp [HexDigits, eq_comm]
  | cons c cs ih =>
    rw [List.mapM_cons, HexDigits, List.forall₂_cons_left_iff]
    constructor
    · intro h
      obtain ⟨d, hd, h⟩ := Option.bind_eq_some_iff.mp h
      obtain ⟨ds', hds', h⟩ := Option.bind_eq_some_iff.mp h
      cases h
      exact ⟨d, ds', hd, ih.mp hds', rfl⟩
    · rintro ⟨d, ds', hd, hds', rfl⟩
      rw [hd, ih.mpr hds']
      rfl

/-- Digits fill no more than their places. The bound is proved for any number to
begin with, since the fold carries what it has read so far. -/
theorem HexDigits.hexValue_lt {cs : List Char} {ds : List Nat} (h : HexDigits cs ds) :
    hexValue ds < 16 ^ cs.length := by
  have hgo : ∀ n, ds.foldl (fun n d => 16 * n + d) n < 16 ^ cs.length * (n + 1) := by
    induction h with
    | nil => simp
    | @cons c d cs ds hd h ih =>
      intro n
      have hlt := lt_of_hexDigit? hd
      calc ds.foldl (fun n d => 16 * n + d) (16 * n + d)
          < 16 ^ cs.length * (16 * n + d + 1) := ih _
        _ ≤ 16 ^ cs.length * (16 * (n + 1)) := Nat.mul_le_mul_left _ (by omega)
        _ = 16 ^ (c :: cs).length * (n + 1) := by rw [List.length_cons, Nat.pow_succ, Nat.mul_assoc]
  simpa [hexValue] using hgo 0

/-- Each of the characters is a digit. So neither a colon nor a dot is found in a
group. -/
theorem HexDigits.isSome_of_mem {cs : List Char} {ds : List Nat} (h : HexDigits cs ds) {c : Char}
    (hc : c ∈ cs) : (hexDigit? c).isSome := by
  induction h with
  | nil => cases hc
  | cons hd h ih =>
    rcases List.mem_cons.mp hc with rfl | hc
    · rw [hd]
      rfl
    · exact ih hc

/-- A number is written in hexadecimal digits of its value. Together with
`hexValue_lt` it says that four digits are enough for a group of an IPv6 address.
-/
theorem exists_hexDigits (n : Nat) : ∃ ds, HexDigits (Nat.toDigits 16 n) ds ∧ hexValue ds = n := by
  induction n using Nat.base_induction 16 (by decide) with
  | single d hd =>
    rw [Nat.toDigits_of_lt_base hd]
    exact ⟨[d], .cons (hexDigit?_digitChar hd) .nil, by simp [hexValue]⟩
  | digit m d hd hm ih =>
    obtain ⟨ds, hds, hvalue⟩ := ih
    rw [← Nat.toDigits_append_toDigits (by decide) hm hd, Nat.toDigits_of_lt_base hd]
    refine ⟨ds ++ [d], List.rel_append hds (.cons (hexDigit?_digitChar hd) .nil), ?_⟩
    rw [hexValue, List.foldl_append]
    exact congrArg (16 * · + d) hvalue

end Socks5.Text
