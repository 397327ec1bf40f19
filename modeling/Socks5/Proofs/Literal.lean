import Socks5.Net.Endpoint
import Socks5.Proofs.Digits
import Socks5.Proofs.Frame

/-!
# `Socks5.Proofs.Literal`: the texts of IP addresses

Which texts are read as an address, and as which one, without a reader.

* `IPv4.parse?_eq_some_iff`: the text that an address is written as is the only
  one that is read as it.
* `IPv6.Literal`, `IPv6.parse?_eq_some_iff`: the grammar of an IPv6 address, and
  that it is what is read. A double colon is looked for first, so the proof has
  to say where the first one is: a run of groups has none, and no colon at either
  end that could make one (`Run.splitDoubleColon_append`).
* `IPv6.mapped?_eq_some_iff`: the mapped addresses are those of a block of 96 bits.
* `IPv6.literal_toChars`: an address is written as one of its literals, with or
  without a double colon and with a dotted end or without.
-/

set_option autoImplicit false

namespace Socks5.Net

open Text

namespace IPv4

/-! ### Dotted texts -/

/-- An octet has one text only: the decimal one, without zeros in front. This is
what makes the text of an IPv4 address unique. -/
theorem octet?_eq_some_iff {cs : List Char} {o : UInt8} :
    octet? cs = some o ↔ cs = decimal o.toNat := by
  constructor
  · intro h
    unfold octet? at h
    split at h
    · cases h
    · rename_i n hn
      obtain ⟨hne, hdigits, rfl⟩ := decimal?_eq_some_iff.mp hn
      split at h
      · cases h
      · rename_i hfits
        obtain ⟨hlen, hlead, hmax⟩ : cs.length ≤ 3 ∧
            (cs.head? = some '0' → cs.length ≤ 1) ∧ Nat.ofDigitChars 10 cs 0 ≤ 255 := by
          simpa [not_or, Nat.not_lt] using hfits
        cases h
        -- Without leading zeros the text is that of its value, which fits into a byte.
        rw [UInt8.toNat_ofNat_of_lt' (Nat.lt_succ_of_le hmax)]
        exact (decimal_ofDigitChars hne hdigits hlead).symm
  · rintro rfl
    have ho := o.toNat_lt
    have hlen : (decimal o.toNat).length ≤ 3 :=
      (Nat.length_toDigits_le_iff (by decide) (by decide)).mpr (by omega)
    have hlead : (decimal o.toNat).head? = some '0' → (decimal o.toNat).length ≤ 1 := by
      intro h
      rw [eq_zero_of_head_decimal h]
      decide
    unfold octet?
    rw [decimal?_decimal]
    dsimp only
    rw [if_neg]
    · simp
    · simp only [not_or, not_and, Nat.not_lt]
      exact ⟨hlen, hlead, by omega⟩

/-- No dot is in a number, so the dots of an address are those between its octets.
-/
theorem dot_not_mem_decimal (n : Nat) : '.' ∉ decimal n := by
  intro h
  exact absurd (isDigit_of_mem_decimal h) (by decide)

/-- The text of an address is the only one that is read as that address. From left
to right the pieces between the dots are the octets; back again, the text falls
apart at its dots. -/
theorem parse?_eq_some_iff {cs : List Char} {a : IPv4} : parse? cs = some a ↔ cs = a.toChars := by
  constructor
  · intro h
    unfold parse? at h
    split at h
    · rename_i w x y z hsplit
      have hcs : ['.'].intercalate (cs.splitOn '.') = cs := List.intercalate_splitOn '.'
      rw [hsplit] at hcs
      obtain ⟨o0, h0, h⟩ := Option.bind_eq_some_iff.mp h
      obtain ⟨o1, h1, h⟩ := Option.bind_eq_some_iff.mp h
      obtain ⟨o2, h2, h⟩ := Option.bind_eq_some_iff.mp h
      obtain ⟨o3, h3, h⟩ := Option.bind_eq_some_iff.mp h
      cases h
      -- The pieces are the octets, and they make up the text.
      rw [octet?_eq_some_iff] at h0 h1 h2 h3
      rw [← hcs, h0, h1, h2, h3]
      simp [toChars, List.intercalate]
    · cases h
  · rintro rfl
    have hsplit : a.toChars.splitOn '.'
        = [decimal a.o0.toNat, decimal a.o1.toNat, decimal a.o2.toNat, decimal a.o3.toNat] := by
      unfold toChars
      simp only [List.append_assoc, List.cons_append]
      rw [List.splitOn_append_cons_self_of_not_mem (dot_not_mem_decimal _),
        List.splitOn_append_cons_self_of_not_mem (dot_not_mem_decimal _),
        List.splitOn_append_cons_self_of_not_mem (dot_not_mem_decimal _),
        List.splitOn_eq_singleton (dot_not_mem_decimal _)]
    unfold parse?
    rw [hsplit]
    simp [octet?_eq_some_iff.mpr rfl]

/-- A dotted text has digits and dots only. -/
theorem mem_toChars {a : IPv4} {c : Char} (h : c ∈ a.toChars) : c = '.' ∨ c.isDigit = true := by
  simp only [toChars, List.mem_append, List.mem_cons] at h
  rcases h with (((h | rfl | h) | rfl | h) | rfl | h)
  all_goals first
    | exact .inr (isDigit_of_mem_decimal h)
    | exact .inl rfl

end IPv4

namespace IPv6

/-! ### Groups -/

/-- The texts of a group: one to four hexadecimal digits of either case. -/
structure GroupText (cs : List Char) (g : UInt16) : Prop where
  ne_nil : cs ≠ []
  length_le : cs.length ≤ 4
  value : ∃ ds, HexDigits cs ds ∧ g.toNat = hexValue ds

/-- Reading a group accepts just the texts of a group, in either case and with
zeros in front. -/
theorem group?_eq_some_iff {cs : List Char} {g : UInt16} :
    group? cs = some g ↔ GroupText cs g := by
  unfold group?
  constructor
  · intro h
    split at h
    · cases h
    · rename_i hform
      obtain ⟨hne, hlen⟩ := not_or.mp hform
      obtain ⟨ds, hds, h⟩ := Option.bind_eq_some_iff.mp h
      cases h
      have hlen : cs.length ≤ 4 := Nat.le_of_not_lt hlen
      have hds := mapM_hexDigit?_eq_some_iff.mp hds
      refine ⟨hne, hlen, ds, hds, UInt16.toNat_ofNat_of_lt' ?_⟩
      -- Four digits fit into a group.
      exact Nat.lt_of_lt_of_le hds.hexValue_lt (Nat.pow_le_pow_right (by decide) hlen)
  · rintro ⟨hne, hlen, ds, hds, hg⟩
    rw [if_neg (not_or.mpr ⟨hne, Nat.not_lt.mpr hlen⟩), mapM_hexDigit?_eq_some_iff.mpr hds]
    show some (UInt16.ofNat (hexValue ds)) = some g
    rw [← hg, UInt16.ofNat_toNat]

/-- A group has hexadecimal digits only. -/
theorem GroupText.isSome_of_mem {cs : List Char} {g : UInt16} (h : GroupText cs g) {c : Char}
    (hc : c ∈ cs) : (hexDigit? c).isSome := by
  obtain ⟨ds, hds, -⟩ := h.value
  exact hds.isSome_of_mem hc

/-- What is no digit is not in a group. It is used for colons and dots. -/
theorem GroupText.not_mem {cs : List Char} {g : UInt16} (h : GroupText cs g) {c : Char}
    (hc : hexDigit? c = none) : c ∉ cs := by
  intro hmem
  have hsome := h.isSome_of_mem hmem
  rw [hc] at hsome
  cases hsome

/-- A group is written as one of its texts, the one without zeros in front. -/
theorem groupText_hex (g : UInt16) : GroupText (hex g) g := by
  refine ⟨Nat.toDigits_ne_nil, ?_, ?_⟩
  · exact (Nat.length_toDigits_le_iff (by decide) (by decide)).mpr g.toNat_lt
  · obtain ⟨ds, hds, hvalue⟩ := exists_hexDigits g.toNat
    exact ⟨ds, hds, hvalue.symm⟩

/-! ### Runs of groups -/

/-- The texts of groups with colons between them. If `dotted`, the last two may be
written as an IPv4 address. -/
inductive Run (dotted : Bool) : List Char → List UInt16 → Prop where
  | group {cs : List Char} {g : UInt16} (h : GroupText cs g) : Run dotted cs [g]
  | embedded (h : dotted = true) (a : IPv4) : Run dotted a.toChars (ofIPv4 a)
  | cons {cs rest : List Char} {g : UInt16} {gs : List UInt16} (h : GroupText cs g)
      (hrest : Run dotted rest gs) : Run dotted (cs ++ ':' :: rest) (g :: gs)

section

variable {dotted : Bool}

/-- Only the last piece may be dotted. A piece with others behind it is a group or
nothing. -/
theorem pieces?_cons_eq_some_iff {p : List Char} {ps : List (List Char)} (hne : ps ≠ [])
    {gs : List UInt16} : pieces? dotted (p :: ps) = some gs ↔
      ∃ g gs', GroupText p g ∧ pieces? dotted ps = some gs' ∧ gs = g :: gs' := by
  rw [pieces?]
  · constructor
    · intro h
      obtain ⟨g, hg, h⟩ := Option.bind_eq_some_iff.mp h
      obtain ⟨gs', hgs', h⟩ := Option.bind_eq_some_iff.mp h
      cases h
      exact ⟨g, gs', group?_eq_some_iff.mp hg, hgs', rfl⟩
    · rintro ⟨g, gs', hg, hgs', rfl⟩
      rw [group?_eq_some_iff.mpr hg, hgs']
      rfl
  · exact hne

/-- The pieces between colons make up the text of a run. Induction on the pieces;
the last one is a case of its own, since only there a dotted address may stand. -/
theorem run_of_pieces? {ps : List (List Char)} {gs : List UInt16} (hne : ps ≠ [])
    (h : pieces? dotted ps = some gs) : Run dotted ([':'].intercalate ps) gs := by
  induction ps generalizing gs with
  | nil => exact absurd rfl hne
  | cons p ps ih =>
    cases ps with
    | nil =>
      rw [List.intercalate_singleton]
      rw [pieces?] at h
      cases hp : group? p with
      | some g =>
        rw [hp] at h
        cases h
        exact .group (group?_eq_some_iff.mp hp)
      | none =>
        -- The last piece may be dotted instead.
        simp only [hp] at h
        split at h
        · rename_i hdotted
          obtain ⟨a, ha, rfl⟩ := Option.map_eq_some_iff.mp h
          obtain rfl := IPv4.parse?_eq_some_iff.mp ha
          exact .embedded hdotted a
        · cases h
    | cons q ps =>
      obtain ⟨g, gs', hg, hgs', rfl⟩ := (pieces?_cons_eq_some_iff (by simp)).mp h
      rw [List.intercalate_cons_cons, List.append_assoc]
      exact .cons hg (ih (by simp) hgs')

/-- No colon is in a dotted text. -/
theorem colon_not_mem_toChars (a : IPv4) : ':' ∉ a.toChars := by
  intro h
  rcases IPv4.mem_toChars h with h | h
  · cases h
  · exact absurd h (by decide)

/-- A dotted text is no group, so it does not matter which of the two is tried
first. -/
theorem group?_toChars (a : IPv4) : group? a.toChars = none := by
  have hdot : '.' ∈ a.toChars := by simp [IPv4.toChars]
  rw [Option.eq_none_iff_forall_ne_some]
  intro g hg
  exact (group?_eq_some_iff.mp hg).not_mem (by decide) hdot

/-- The text of a run falls apart at its colons into the pieces that it was made
of. A group and a dotted end have none in them. -/
theorem pieces?_of_run {cs : List Char} {gs : List UInt16} (h : Run dotted cs gs) :
    pieces? dotted (cs.splitOn ':') = some gs := by
  induction h with
  | group h =>
    rw [List.splitOn_eq_singleton (h.not_mem (by decide)), pieces?, group?_eq_some_iff.mpr h]
  | embedded h a =>
    rw [List.splitOn_eq_singleton (colon_not_mem_toChars a), pieces?, group?_toChars, if_pos h,
      IPv4.parse?_eq_some_iff.mpr rfl]
    rfl
  | @cons cs rest g gs h hrest ih =>
    rw [List.splitOn_append_cons_self_of_not_mem (h.not_mem (by decide))]
    exact (pieces?_cons_eq_some_iff (List.splitOn_ne_nil _ _)).mpr ⟨g, gs, h, ih, rfl⟩

/-- The texts that fall apart into good pieces are those of a run. -/
theorem pieces?_splitOn_iff {cs : List Char} {gs : List UInt16} :
    pieces? dotted (cs.splitOn ':') = some gs ↔ Run dotted cs gs := by
  refine ⟨fun h => ?_, pieces?_of_run⟩
  have hrun := run_of_pieces? (List.splitOn_ne_nil _ _) h
  rwa [List.intercalate_splitOn] at hrun

/-- The texts of a run that may have no group at all. -/
def Side (dotted : Bool) (cs : List Char) (gs : List UInt16) : Prop :=
  cs = [] ∧ gs = [] ∨ Run dotted cs gs

/-- A run has at least one group, and a group at least one digit. -/
theorem Run.ne_nil {cs : List Char} {gs : List UInt16} (h : Run dotted cs gs) : cs ≠ [] := by
  cases h with
  | group h => exact h.ne_nil
  | embedded h a => simp [IPv4.toChars]
  | cons h hrest => simp

/-- Reading a run accepts the texts of a run, and the empty text for no group at
all. The empty one is needed beside a double colon only; elsewhere it fails for
its number of groups. -/
theorem run?_eq_some_iff {cs : List Char} {gs : List UInt16} :
    run? dotted cs = some gs ↔ Side dotted cs gs := by
  unfold run?
  by_cases hnil : cs = []
  · subst hnil
    rw [if_pos rfl, Option.some.injEq]
    constructor
    · rintro rfl
      exact .inl ⟨rfl, rfl⟩
    · rintro (⟨-, rfl⟩ | h)
      · rfl
      · exact absurd rfl h.ne_nil
  · rw [if_neg hnil, pieces?_splitOn_iff]
    exact ⟨.inr, fun h => h.resolve_left fun h => hnil h.1⟩

/-! ### The double colon -/

/-- No colon starts a run. A run starts with a group or a dotted address, and
these are not empty and have no colon in them. -/
theorem Run.head_ne {cs : List Char} {gs : List UInt16} (h : Run dotted cs gs) :
    cs.head? ≠ some ':' := by
  have hfree : ∀ {cs : List Char}, cs ≠ [] → ':' ∉ cs →
      ∀ rest, (cs ++ rest).head? ≠ some ':' := by
    intro cs hne hcolon rest hhead
    rw [List.head?_append_of_ne_nil cs hne] at hhead
    exact hcolon (List.mem_of_mem_head? hhead)
  cases h with
  | group h =>
    rw [← List.append_nil cs]
    exact hfree h.ne_nil (h.not_mem (by decide)) []
  | embedded h a =>
    rw [← List.append_nil a.toChars]
    exact hfree (by simp [IPv4.toChars]) (colon_not_mem_toChars a) []
  | cons h hrest => exact hfree h.ne_nil (h.not_mem (by decide)) _

/-- A character that starts no double colon stays in front of the first one. -/
theorem splitDoubleColon_cons {c : Char} {cs : List Char} (h : c = ':' → cs.head? ≠ some ':') :
    splitDoubleColon (c :: cs)
      = (splitDoubleColon cs).map fun (before, after) => (c :: before, after) := by
  rw [splitDoubleColon]
  rintro rest rfl rfl
  exact h rfl rfl

/-- What has no colon in it stays in front of the first double colon. With this a
group is taken off the text as a whole. -/
theorem splitDoubleColon_append {cs : List Char} (h : ':' ∉ cs) (rest : List Char) :
    splitDoubleColon (cs ++ rest)
      = (splitDoubleColon rest).map fun (before, after) => (cs ++ before, after) := by
  induction cs with
  | nil => simp
  | cons c cs ih =>
    obtain ⟨hc, hcs⟩ := not_or.mp (mt List.mem_cons.mpr h)
    rw [List.cons_append, splitDoubleColon_cons (fun h => absurd h.symm hc), ih hcs, Option.map_map]
    rfl

/-- So does a run: the colons between its groups stand alone. The induction has to
look at what follows each colon, since two that meet would be a double one. -/
theorem Run.splitDoubleColon_append {cs : List Char} {gs : List UInt16} (h : Run dotted cs gs)
    (rest : List Char) :
    splitDoubleColon (cs ++ rest)
      = (splitDoubleColon rest).map fun (before, after) => (cs ++ before, after) := by
  induction h with
  | group h => exact IPv6.splitDoubleColon_append (h.not_mem (by decide)) rest
  | embedded h a => exact IPv6.splitDoubleColon_append (colon_not_mem_toChars a) rest
  | @cons cs rest' g gs h hrest ih =>
    -- The colon behind a group stands alone, since none starts what follows it.
    have hhead : (rest' ++ rest).head? ≠ some ':' := by
      rw [List.head?_append_of_ne_nil rest' hrest.ne_nil]
      exact hrest.head_ne
    rw [List.append_assoc, IPv6.splitDoubleColon_append (h.not_mem (by decide)), List.cons_append,
      splitDoubleColon_cons (fun _ => hhead), ih, Option.map_map, Option.map_map]
    simp [Function.comp_def]

/-- The text around a double colon is what it is split into. It holds of any
double colon, and that the first one is found is not said here. -/
theorem eq_of_splitDoubleColon {cs before after : List Char}
    (h : splitDoubleColon cs = some (before, after)) : cs = before ++ ':' :: ':' :: after := by
  induction cs generalizing before with
  | nil => cases h
  | cons c cs ih =>
    by_cases hdouble : c = ':' ∧ cs.head? = some ':'
    · obtain ⟨rfl, hhead⟩ := hdouble
      obtain ⟨rest, rfl⟩ := List.head?_eq_some_iff.mp hhead
      cases h
      rfl
    · rw [splitDoubleColon_cons (not_and.mp hdouble)] at h
      obtain ⟨⟨before', after'⟩, hrest, heq⟩ := Option.map_eq_some_iff.mp h
      cases heq
      rw [ih hrest]
      rfl

/-- So a text with a run or nothing in front of a double colon is split there,
whatever comes after it, be it another double colon. -/
theorem Side.splitDoubleColon {cs : List Char} {gs : List UInt16} (h : Side dotted cs gs)
    (after : List Char) :
    IPv6.splitDoubleColon (cs ++ ':' :: ':' :: after) = some (cs, after) := by
  rcases h with ⟨rfl, rfl⟩ | h
  · rfl
  · rw [h.splitDoubleColon_append]
    simp [IPv6.splitDoubleColon]

end

/-! ### Literals -/

/-- The texts of an address: eight groups, or a double colon for a stretch of at
least one zero group. The last two groups may be written as an IPv4 address. -/
inductive Literal : List Char → IPv6 → Prop where
  | full {cs : List Char} {a : IPv6} (h : Run true cs a.groups) : Literal cs a
  | compressed {before after : List Char} {high low : List UInt16} {a : IPv6} {zeros : Nat}
      (hhigh : Side false before high) (hlow : Side true after low) (hzeros : 0 < zeros)
      (h : a.groups = high ++ List.replicate zeros 0 ++ low) :
      Literal (before ++ ':' :: ':' :: after) a

/-- An address has eight groups. -/
@[simp] theorem length_groups (a : IPv6) : a.groups.length = 8 := rfl

/-- Eight groups make the address that has them, and no other number of groups
makes one. -/
theorem ofGroups?_eq_some_iff {gs : List UInt16} {a : IPv6} :
    ofGroups? gs = some a ↔ gs = a.groups := by
  constructor
  · intro h
    unfold ofGroups? at h
    split at h
    · cases h
      rfl
    · cases h
  · rintro rfl
    rfl

/-- Just the literals of an address are read as that address. A double colon is
looked for first: with one the groups on both sides are at most seven, without one
they are eight. -/
theorem parse?_eq_some_iff {cs : List Char} {a : IPv6} : parse? cs = some a ↔ Literal cs a := by
  constructor
  · intro h
    unfold parse? at h
    split at h
    · obtain ⟨gs, hgs, h⟩ := Option.bind_eq_some_iff.mp h
      obtain rfl := ofGroups?_eq_some_iff.mp h
      rcases run?_eq_some_iff.mp hgs with ⟨-, hnil⟩ | hrun
      · -- No text has no group, and an address has eight.
        cases hnil
      · exact .full hrun
    · rename_i before after hsplit
      obtain ⟨high, hhigh, h⟩ := Option.bind_eq_some_iff.mp h
      obtain ⟨low, hlow, h⟩ := Option.bind_eq_some_iff.mp h
      split at h
      · rename_i hlen
        rw [eq_of_splitDoubleColon hsplit]
        exact .compressed (run?_eq_some_iff.mp hhigh) (run?_eq_some_iff.mp hlow) (by omega)
          (ofGroups?_eq_some_iff.mp h).symm
      · cases h
  · intro h
    cases h with
    | full h =>
      have hsplit : splitDoubleColon cs = none := by
        have := h.splitDoubleColon_append []
        rwa [List.append_nil] at this
      unfold parse?
      rw [hsplit]
      simp [run?_eq_some_iff.mpr (.inr h), ofGroups?_eq_some_iff.mpr rfl]
    | @compressed before after high low a zeros hhigh hlow hzeros h =>
      -- The groups that are written leave room for just this many zeros.
      have hlen := congrArg List.length h
      simp only [length_groups, List.length_append, List.length_replicate] at hlen
      obtain rfl : zeros = 8 - high.length - low.length := by omega
      unfold parse?
      rw [hhigh.splitDoubleColon after]
      simp only [run?_eq_some_iff.mpr hhigh, run?_eq_some_iff.mpr hlow, Option.bind_eq_bind,
        Option.bind_some]
      rw [if_pos (by omega), ofGroups?_eq_some_iff, h]

/-- Every literal has a colon in it, so it is no dotted text. One without a double
colon has eight groups, more than a single piece can stand for. -/
theorem Literal.colon_mem {cs : List Char} {a : IPv6} (h : Literal cs a) : ':' ∈ cs := by
  cases h with
  | full h =>
    generalize hgs : a.groups = gs at h
    cases h with
    | group | embedded =>
      have := congrArg List.length hgs
      simp [ofIPv4] at this
    | cons => simp
  | compressed => simp

/-- The characters of a literal. -/
def IsLiteralChar (c : Char) : Prop := c = ':' ∨ c = '.' ∨ (hexDigit? c).isSome

instance (c : Char) : Decidable (IsLiteralChar c) := inferInstanceAs (Decidable (_ ∨ _))

/-- The characters of a run are digits, colons between groups and dots in a dotted
end. -/
theorem Run.isLiteralChar {dotted : Bool} {cs : List Char} {gs : List UInt16}
    (h : Run dotted cs gs) {c : Char} (hc : c ∈ cs) : IsLiteralChar c := by
  induction h with
  | group h => exact .inr (.inr (h.isSome_of_mem hc))
  | embedded h a =>
    rcases IPv4.mem_toChars hc with hdot | hdigit
    · exact .inr (.inl hdot)
    · obtain ⟨d, hd, rfl, -⟩ := exists_digitChar hdigit
      rw [IsLiteralChar, hexDigit?_digitChar (by omega)]
      exact .inr (.inr rfl)
  | cons h hrest ih =>
    rcases List.mem_append.mp hc with hc | hc
    · exact .inr (.inr (h.isSome_of_mem hc))
    · rcases List.mem_cons.mp hc with hcolon | hc
      · exact .inl hcolon
      · exact ih hc

/-- A side has no other characters than a run, as it is one or empty. -/
theorem Side.isLiteralChar {dotted : Bool} {cs : List Char} {gs : List UInt16}
    (h : Side dotted cs gs) {c : Char} (hc : c ∈ cs) : IsLiteralChar c := by
  rcases h with ⟨rfl, -⟩ | h
  · cases hc
  · exact h.isLiteralChar hc

/-- So a literal has none but these. In particular there are no brackets in it, so
the text with its brackets is split where it should be. -/
theorem Literal.isLiteralChar {cs : List Char} {a : IPv6} (h : Literal cs a) {c : Char}
    (hc : c ∈ cs) : IsLiteralChar c := by
  cases h with
  | full h => exact h.isLiteralChar hc
  | compressed hhigh hlow hzeros h =>
    simp only [List.mem_append, List.mem_cons] at hc
    rcases hc with hc | rfl | rfl | hc
    · exact hhigh.isLiteralChar hc
    · exact .inl rfl
    · exact .inl rfl
    · exact hlow.isLiteralChar hc

/-! ### The text that is written -/

/-- Groups that are joined by colons are a run, or nothing if there are none. The
writer joins the groups on both sides of a double colon in this way. -/
theorem side_colonJoin (dotted : Bool) (gs : List UInt16) : Side dotted (colonJoin gs) gs := by
  induction gs with
  | nil => exact .inl ⟨rfl, rfl⟩
  | cons g gs ih =>
    cases gs with
    | nil => exact .inr (.group (groupText_hex g))
    | cons g' gs =>
      rcases ih with ⟨-, hnil⟩ | hrun
      · cases hnil
      · exact .inr (.cons (groupText_hex g) hrun)

/-- The zeros at the front, and what is behind them. The search for the longest
run counts the zeros and leaves as many out, and this says that it leaves nothing
else out. -/
theorem eq_of_takeWhile (gs : List UInt16) :
    gs = List.replicate (gs.takeWhile (· == 0)).length 0
      ++ gs.drop (gs.takeWhile (· == 0)).length := by
  have hzeros : gs.takeWhile (· == 0) = List.replicate (gs.takeWhile (· == 0)).length 0 := by
    refine List.eq_replicate_iff.mpr ⟨rfl, fun g hg => ?_⟩
    simpa using List.all_eq_true.mp List.all_takeWhile g hg
  rw [← hzeros]
  exact List.prefix_iff_eq_append.mp (List.takeWhile_prefix _) |>.symm

/-- The longest stretch of zeros is one. That it is the longest is not used: a
literal may leave out any stretch. -/
theorem eq_of_longestZeros (gs : List UInt16) :
    gs = gs.take (longestZeros gs).1 ++ List.replicate (longestZeros gs).2 0
      ++ gs.drop ((longestZeros gs).1 + (longestZeros gs).2) := by
  induction gs with
  | nil => rfl
  | cons g gs ih =>
    rw [longestZeros]
    dsimp only
    split
    · -- The stretch at the front.
      rw [List.take_zero, List.nil_append, Nat.zero_add]
      exact eq_of_takeWhile (g :: gs)
    · rw [Nat.add_right_comm, List.take_succ_cons, List.drop_succ_cons, List.cons_append,
        List.cons_append]
      exact congrArg (g :: ·) ih

/-- The address that a mapped address embeds fills its last two groups. The other
groups are fixed, so the embedded address is all there is to write. -/
theorem groups_of_mapped? {a : IPv6} {v4 : IPv4} (h : a.mapped? = some v4) :
    a.groups = List.replicate 5 0 ++ 0xffff :: ofIPv4 v4 := by
  unfold mapped? at h
  split at h
  · rename_i hprefix
    obtain ⟨h0, h1, h2, h3, h4, h5⟩ := hprefix
    cases h
    simp [groups, ofIPv4, ofBigEndian_bigEndian, h0, h1, h2, h3, h4, h5]
  · cases h

/-- Whether an address lies in `::ffff:0:0/96` and ends in the given IPv4 address. -/
def Embeds (a : IPv6) (v4 : IPv4) : Prop :=
  a.octets = List.replicate 10 0 ++ [0xff, 0xff] ++ v4.octets

/-- An address is known by its octets. -/
theorem octets_inj {a b : IPv6} (h : a.octets = b.octets) : a = b := by
  rw [← ofOctets_octets a, ← ofOctets_octets b]
  simp only [h]

/-- Just the addresses in `::ffff:0:0/96` are taken for the IPv4 address that they
end in. The code compares groups and the block is given in octets, so the proof
goes through both. -/
theorem mapped?_eq_some_iff {a : IPv6} {v4 : IPv4} : a.mapped? = some v4 ↔ a.Embeds v4 := by
  constructor
  · intro h
    rw [Embeds, octets, groups_of_mapped? h]
    simp only [ofIPv4, List.flatMap_append, List.flatMap_cons, bigEndian_ofBigEndian]
    rfl
  · intro h
    obtain ⟨o0, o1, o2, o3⟩ := v4
    -- There is one address with these octets.
    have ha : a = ⟨0, 0, 0, 0, 0, 0xffff, ofBigEndian o0 o1, ofBigEndian o2 o3⟩ := by
      apply octets_inj
      rw [h]
      simp only [octets, groups, List.flatMap_cons, bigEndian_ofBigEndian]
      rfl
    have hhigh := bigEndian_ofBigEndian o0 o1
    have hlow := bigEndian_ofBigEndian o2 o3
    simp only [bigEndian, List.cons.injEq, and_true] at hhigh hlow
    rw [ha, mapped?, if_pos ⟨rfl, rfl, rfl, rfl, rfl, rfl⟩, hhigh.1, hhigh.2, hlow.1, hlow.2]

/-- A mapped address is written with a double colon and a dotted end. -/
theorem literal_of_mapped? {a : IPv6} {v4 : IPv4} (h : a.mapped? = some v4) :
    Literal ("::ffff:".toList ++ v4.toChars) a := by
  have hgroup : GroupText ['f', 'f', 'f', 'f'] 0xffff := groupText_hex 0xffff
  have hlow : Side true (['f', 'f', 'f', 'f'] ++ ':' :: v4.toChars) (0xffff :: ofIPv4 v4) :=
    .inr (.cons hgroup (.embedded rfl v4))
  have hhigh : Side false [] [] := .inl ⟨rfl, rfl⟩
  exact .compressed hhigh hlow (Nat.succ_pos 4) (groups_of_mapped? h)

/-- An address is written as one of its literals. There are three ways to write
it, and each leads to a literal of its own kind. -/
theorem literal_toChars (a : IPv6) : Literal a.toChars a := by
  unfold toChars
  cases hmapped : a.mapped? with
  | some v4 => exact literal_of_mapped? hmapped
  | none =>
    dsimp only
    split
    · rename_i hlen
      exact .compressed (side_colonJoin false _) (side_colonJoin true _) (by omega)
        (eq_of_longestZeros a.groups)
    · rcases side_colonJoin true a.groups with ⟨-, hnil⟩ | hrun
      · cases hnil
      · exact .full hrun

end IPv6

/-! ### Either family -/

/-- Whether the text is neither an IPv4 nor an IPv6 literal. -/
def IsName (h : String) : Prop :=
  (∀ a : IPv4, h ≠ a.toText) ∧ ∀ a : IPv6, ¬ IPv6.Literal h.toList a

/-- A text and its characters, for IPv4 addresses. -/
theorem toList_eq_toChars_iff {h : String} {a : IPv4} : h.toList = a.toChars ↔ h = a.toText := by
  rw [IPv4.toText, ← String.toList_inj, String.toList_ofList]

namespace IP

/-- The texts that are read as an IPv4 address. -/
theorem parse?_eq_v4_iff {h : String} {a : IPv4} :
    parse? h.toList = some (.v4 a) ↔ h = a.toText := by
  rw [← toList_eq_toChars_iff, ← IPv4.parse?_eq_some_iff, parse?]
  cases IPv4.parse? h.toList <;> simp

/-- A text is not a literal of both families, so it does not matter which one is
tried first. An IPv6 literal has a colon, and a dotted text has none. -/
theorem parse?_eq_v6_iff {h : String} {a : IPv6} :
    parse? h.toList = some (.v6 a) ↔ IPv6.Literal h.toList a := by
  rw [← IPv6.parse?_eq_some_iff, parse?]
  cases hv4 : IPv4.parse? h.toList with
  | none => simp
  | some v4 =>
    refine iff_of_false (by simp) ?_
    intro hv6
    have hcolon := (IPv6.parse?_eq_some_iff.mp hv6).colon_mem
    rw [IPv4.parse?_eq_some_iff.mp hv4] at hcolon
    exact IPv6.colon_not_mem_toChars v4 hcolon

/-- What is no literal of either family is a name. No other test is made of a
name, so almost any text is one. -/
theorem parse?_eq_none_iff {h : String} : parse? h.toList = none ↔ IsName h := by
  simp only [IsName, Ne, ← parse?_eq_v4_iff, ← parse?_eq_v6_iff]
  cases parse? h.toList with
  | none => simp
  | some ip =>
    refine iff_of_false nofun ?_
    rintro ⟨hv4, hv6⟩
    cases ip with
    | v4 a => exact hv4 a rfl
    | v6 a => exact hv6 a rfl

end IP

end Socks5.Net
