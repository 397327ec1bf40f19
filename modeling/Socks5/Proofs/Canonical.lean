import Socks5.Proofs.Grammar
import Socks5.Proofs.Utf8

/-!
# `Socks5.Proofs.Canonical`: addresses that their text determines

Not every address can be read from its text: flow labels are not in it, a scope
is no part of a literal, a mapped address is read as the IPv4 address in it, and
a name may look like something else. `IsCanonical` says which addresses are left.

* `isCanonical_of_parse`: nothing else is ever read.
* `parse_toText`: the text of each of them is read as it.
* `parse_toText_exact`: so they are just those that come back from their text, and
  whatever is read has a canonical text.
-/

set_option autoImplicit false

namespace Socks5

open Net Text

/-! ### Characters of a text -/

namespace Net

/-- A port is written as one of its texts. There are others, since reading allows
leading zeros; the one that is written has none. -/
theorem portText_repr (port : UInt16) : PortText (toString port.toNat) port := by
  refine ⟨by simp, ?_, by simp⟩
  intro c hc
  rw [Nat.toString_eq_repr, Nat.toList_repr] at hc
  exact isDigit_of_mem_decimal hc

end Net

namespace Address

/-- A text whose characters are all of a kind has none of another kind in it. The
forbidden ones are a short list, so that none of them is of the kind is left to
`decide`. -/
theorem lacks_of_forall {cs forbidden : List Char} {P : Char → Prop} [DecidablePred P]
    (h : ∀ c ∈ cs, P c) (hforbidden : forbidden.any (fun c => P c) = false) :
    Lacks cs forbidden := by
  intro c hc hmem
  have hnone := List.any_eq_false.mp hforbidden c hmem
  exact hnone (decide_eq_true (h c hc))

/-- The text of a port has digits in it only, so it never looks like a part of the
host. -/
theorem lacks_port (port : UInt16) : Lacks (toString port.toNat).toList [':', '[', ']'] :=
  lacks_of_forall (portText_repr port).digits (by decide)

/-- The text of an IPv4 address needs no brackets, as there is no colon in it. -/
theorem lacks_v4 (a : IPv4) : Lacks a.toText.toList [':', '[', ']'] := by
  rw [toList_eq_toChars_iff.mpr rfl]
  exact lacks_of_forall (fun c => IPv4.mem_toChars) (by decide)

/-- A literal has no brackets in it, so brackets around it are found again. -/
theorem lacks_literal {h : String} {a : IPv6} (hh : IPv6.Literal h.toList a) :
    Lacks h.toList ['[', ']'] :=
  lacks_of_forall (fun c => hh.isLiteralChar) (by decide)

/-! ### Addresses -/

/-- Whether an address can be read from a text: an IPv4 address; an IPv6 address
that is not mapped and has neither flow label nor scope; or a name of at most 255
bytes that is text, has no brackets and is no literal. -/
def IsCanonical : Address → Prop
  | .ip (.v4 _ _) => True
  | .ip (.v6 a _ flow scope) => flow = 0 ∧ scope = 0 ∧ ∀ v4, ¬ a.Embeds v4
  | .name host _ =>
    host.length ≤ maxNameLength ∧
      ∃ h : String, host = utf8 h ∧ Lacks h.toList ['[', ']'] ∧ IsName h

/-- The host of a text that splits has no brackets in it, with or without brackets
around it. -/
theorem Splits.lacks_brackets {s h p : String} (hs : Splits s h p) : Lacks h.toList ['[', ']'] := by
  cases hs with
  | plain hh => exact (lacks_cons.mp hh).2
  | bracketed hh => exact hh

/-- Whatever is read from a text is canonical. Each way to read a host has its own
reason: a literal has no scope, one that embeds an IPv4 address is read as that,
and a name is looked at only after both kinds of addresses. -/
theorem isCanonical_of_parse {s : String} {a : Address} (h : parse s = .ok a) : IsCanonical a := by
  by_cases hs : ∃ h p, Splits s h p
  · obtain ⟨host, p, hs⟩ := hs
    obtain ⟨port, -, hdenotes⟩ := (parse_eq_ok_iff hs).mp h
    cases hdenotes with
    | v4 | embedded => trivial
    | v6 hh hne => exact ⟨rfl, rfl, hne⟩
    | name hh hlen => exact ⟨hlen, host, rfl, hs.lacks_brackets, hh⟩
  · rw [parse_of_not_splits hs] at h
    cases h

/-- The text of an IPv4 address with a port. -/
theorem toText_v4 (a : IPv4) (port : UInt16) :
    (Address.ip (.v4 a port)).toText = a.toText ++ ":" ++ toString port.toNat := rfl

/-- The text of an IPv6 address with a port. The flow label is not in it, and a
scope of zero is not written. -/
theorem toText_v6 (a : IPv6) (port : UInt16) (flow : UInt32) :
    (Address.ip (.v6 a port flow 0)).toText = "[" ++ a.toText ++ "]:" ++ toString port.toNat := rfl

/-- The text of a name that is text. Bytes that are text are decoded as they are,
and brackets stand around the name just if there is a colon in it. -/
theorem toText_name (h : String) (port : UInt16) :
    (Address.name (utf8 h) port).toText
      = if ':' ∈ h.toList then "[" ++ h ++ "]:" ++ toString port.toNat
        else h ++ ":" ++ toString port.toNat := by
  simp only [toText, Utf8.decodeLossy_utf8, List.contains_iff_mem]
  rfl

/-- A canonical address comes back from its text. In each case the text splits at
the place where it was put together, and the host denotes nothing but the address.
-/
theorem parse_toText {a : Address} (h : IsCanonical a) : parse a.toText = .ok a := by
  rcases a with (⟨a, port⟩ | ⟨a, port, flow, scope⟩) | ⟨host, port⟩
  · have hs := Splits.plain (lacks_v4 a) (lacks_port port)
    rw [toText_v4]
    exact (parse_eq_ok_iff hs).mpr ⟨port, portText_repr port, .v4 rfl⟩
  · obtain ⟨rfl, rfl, hne⟩ := h
    have hliteral : IPv6.Literal a.toText.toList a := by
      rw [IPv6.toText, String.toList_ofList]
      exact a.literal_toChars
    have hs := Splits.bracketed (lacks_literal hliteral) (lacks_port port)
    rw [toText_v6]
    exact (parse_eq_ok_iff hs).mpr ⟨port, portText_repr port, .v6 hliteral hne⟩
  · obtain ⟨hlen, h, rfl, hbrackets, hname⟩ := h
    -- The brackets are there just if a colon would be in the way.
    have hs : Splits (Address.name (utf8 h) port).toText h (toString port.toNat) := by
      rw [toText_name]
      by_cases hcolon : ':' ∈ h.toList
      · rw [if_pos hcolon]
        exact .bracketed hbrackets (lacks_port port)
      · rw [if_neg hcolon]
        exact .plain (lacks_cons.mpr ⟨hcolon, hbrackets⟩) (lacks_port port)
    exact (parse_eq_ok_iff hs).mpr ⟨port, portText_repr port, .name hname hlen⟩

/-- Just the canonical addresses come back from their text. Whatever is read from a
text is canonical, so it comes back from its own. -/
theorem parse_toText_exact :
    (∀ a : Address, parse a.toText = .ok a ↔ IsCanonical a) ∧
    ∀ (s : String) (a : Address), parse s = .ok a → IsCanonical a ∧ parse a.toText = .ok a := by
  refine ⟨fun a => ⟨isCanonical_of_parse, parse_toText⟩, ?_⟩
  intro s a h
  have hcanonical := isCanonical_of_parse h
  exact ⟨hcanonical, parse_toText hcanonical⟩

/-- The address `fe80::1` with the port 443 and a scope. -/
def linkAddress (scope : UInt32) : Address := .ip (.v6 ⟨0xfe80, 0, 0, 0, 0, 0, 0, 1⟩ 443 0 scope)

/-- Without a scope it is read from many texts and comes back from its own. With a
scope it does not come back. -/
theorem parse_toText_exact_of_link :
    parse "[FE80::0:1]:0443" = .ok (linkAddress 0) ∧
    parse (linkAddress 0).toText = .ok (linkAddress 0) ∧
    parse (linkAddress 7).toText ≠ .ok (linkAddress 7) := by
  have hread : parse "[FE80::0:1]:0443" = .ok (linkAddress 0) := by rfl
  refine ⟨hread, (parse_toText_exact.2 _ _ hread).2, ?_⟩
  rw [Ne, parse_toText_exact.1]
  rintro ⟨-, hscope, -⟩
  exact absurd hscope (by decide)

end Address

end Socks5
