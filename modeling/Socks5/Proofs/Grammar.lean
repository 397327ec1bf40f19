import Socks5.Address.Text
import Socks5.Proofs.Literal

/-!
# `Socks5.Proofs.Grammar`: which texts are addresses

The text of an address is a host, a colon and a port, with brackets around a host
that holds colons. The grammar stands here without a reader.

* `Splits`, `splitHostPort_eq_some_iff`: host and port are found where the grammar
  has them. Neither the first colon nor the first closing bracket can be the wrong
  one, since no other is allowed there.
* `Net.PortText`, `Net.port?_eq_none_iff`: which texts are ports.
* `Denotes`, `ofHost_eq_ok_iff`: the address of a host and a port.
* `parse_exact`: what is read, and which fault is found if there are several.
-/

set_option autoImplicit false

namespace Socks5

open Net Text

namespace Net

/-! ### Ports -/

/-- The texts of a port: decimal digits, any number of leading zeros. -/
structure PortText (p : String) (port : UInt16) : Prop where
  ne_empty : p ≠ ""
  digits : ∀ c ∈ p.toList, c.isDigit = true
  value : port.toNat = Nat.ofDigitChars 10 p.toList 0

/-- Reading a port gives the number that the text denotes, if it is a port at all.
The bound is checked on the number, not on the length of the text, so zeros in
front do no harm. -/
theorem port?_eq_some_iff {p : String} {port : UInt16} :
    port? p.toList = some port ↔ PortText p port := by
  unfold port?
  constructor
  · intro h
    split at h
    · rename_i n hn
      obtain ⟨hne, hdigits, rfl⟩ := decimal?_eq_some_iff.mp hn
      split at h
      · rename_i hmax
        cases h
        refine ⟨by simpa using hne, hdigits, UInt16.toNat_ofNat_of_lt' ?_⟩
        exact Nat.lt_succ_of_le hmax
      · cases h
    · cases h
  · rintro ⟨hne, hdigits, hvalue⟩
    have hlt := port.toNat_lt
    rw [decimal?_eq_some_iff.mpr ⟨by simpa using hne, hdigits, hvalue⟩]
    dsimp only
    rw [if_pos (by omega), UInt16.ofNat_toNat]

/-- The texts that are no port, without mention of a number: empty ones, those
with another character than a digit, and those that denote too much. This is how
the errors are told apart in `parse_exact`. -/
theorem port?_eq_none_iff {p : String} :
    port? p.toList = none ↔
      p = "" ∨ (∃ c ∈ p.toList, c.isDigit = false) ∨ 65535 < Nat.ofDigitChars 10 p.toList 0 := by
  cases h : port? p.toList with
  | some port =>
    obtain ⟨hne, hdigits, hvalue⟩ := port?_eq_some_iff.mp h
    have hlt := port.toNat_lt
    refine iff_of_false nofun ?_
    rintro (hempty | ⟨c, hc, hdigit⟩ | hmax)
    · exact hne hempty
    · rw [hdigits c hc] at hdigit
      cases hdigit
    · omega
  | none =>
    refine iff_of_true rfl ?_
    by_contra hgood
    obtain ⟨hne, hdigits, hmax⟩ : p ≠ "" ∧ (∀ c ∈ p.toList, c.isDigit = true) ∧
        Nat.ofDigitChars 10 p.toList 0 ≤ 65535 := by
      simpa [not_or, Nat.not_lt] using hgood
    -- Otherwise the text denotes a port, and would be read as it.
    have hport : PortText p (UInt16.ofNat (Nat.ofDigitChars 10 p.toList 0)) :=
      ⟨hne, hdigits, UInt16.toNat_ofNat_of_lt' (Nat.lt_succ_of_le hmax)⟩
    rw [port?_eq_some_iff.mpr hport] at h
    cases h

end Net

namespace Address

/-! ### Host and port -/

/-- Whether none of the given characters is in the text. -/
def Lacks (cs forbidden : List Char) : Prop := ∀ c ∈ cs, c ∉ forbidden

/-- Nothing forbidden is in no text. -/
theorem lacks_nil (cs : List Char) : Lacks cs [] := by simp [Lacks]

/-- A text lacks characters one by one. The reader tests for them at different
places, and with this the tests are put together. -/
theorem lacks_cons {cs forbidden : List Char} {c : Char} :
    Lacks cs (c :: forbidden) ↔ c ∉ cs ∧ Lacks cs forbidden := by
  simp only [Lacks, List.mem_cons, not_or]
  constructor
  · intro h
    exact ⟨fun hc => (h c hc).1 rfl, fun b hb => (h b hb).2⟩
  · rintro ⟨hc, h⟩ b hb
    exact ⟨fun hbc => hc (hbc ▸ hb), h b hb⟩

/-- The test that the reader makes for brackets. -/
theorem lacks_brackets_iff {cs : List Char} :
    ¬ cs.any (fun c => c = '[' ∨ c = ']') ↔ Lacks cs ['[', ']'] := by
  simp [Lacks]

/-- The test that the reader makes for colons and brackets. -/
theorem lacks_colon_brackets_iff {cs : List Char} :
    ¬ cs.any (fun c => c = ':' ∨ c = '[' ∨ c = ']') ↔ Lacks cs [':', '[', ']'] := by
  simp [Lacks]

/-- The texts that have a host and a port. -/
inductive Splits : String → String → String → Prop where
  /-- A host without colons or brackets. -/
  | plain {h p : String} (hh : Lacks h.toList [':', '[', ']'])
      (hp : Lacks p.toList [':', '[', ']']) : Splits (h ++ ":" ++ p) h p
  /-- A host in brackets, which may hold colons. -/
  | bracketed {h p : String} (hh : Lacks h.toList ['[', ']'])
      (hp : Lacks p.toList [':', '[', ']']) : Splits ("[" ++ h ++ "]:" ++ p) h p

/-- The first occurrence of a character has none in front of it. Read from right
to left it says that the split is unique: any place with no occurrence in front is
the first one. -/
theorem splitFirst_eq_some_iff {sep : Char} {cs before after : List Char} :
    splitFirst sep cs = some (before, after) ↔ cs = before ++ sep :: after ∧ sep ∉ before := by
  induction cs generalizing before with
  | nil => simp [splitFirst]
  | cons c cs ih =>
    rw [splitFirst]
    by_cases hc : c = sep
    · subst hc
      rw [if_pos rfl]
      constructor
      · rintro ⟨⟩
        simp
      · rintro ⟨heq, hfree⟩
        cases before with
        | nil => cases heq; rfl
        | cons b before =>
          -- An occurrence in front would have been the first.
          cases heq
          exact absurd List.mem_cons_self hfree
    · rw [if_neg hc]
      constructor
      · intro h
        obtain ⟨⟨before', after'⟩, hrest, heq⟩ := Option.map_eq_some_iff.mp h
        cases heq
        obtain ⟨rfl, hfree⟩ := ih.mp hrest
        refine ⟨rfl, ?_⟩
        rw [List.mem_cons, not_or]
        exact ⟨Ne.symm hc, hfree⟩
      · rintro ⟨heq, hfree⟩
        cases before with
        | nil =>
          cases heq
          exact absurd rfl hc
        | cons b before =>
          cases heq
          rw [List.mem_cons, not_or] at hfree
          rw [ih.mpr ⟨rfl, hfree.2⟩]
          rfl

/-- Without brackets a text is split at its only colon. The reader splits at the
first one and refuses a text with another, which comes to the same. -/
theorem splitPlain_eq_some_iff {cs h p : List Char} :
    splitPlain cs = some (h, p) ↔
      cs = h ++ ':' :: p ∧ Lacks h [':', '[', ']'] ∧ Lacks p [':', '[', ']'] := by
  unfold splitPlain
  rw [Option.bind_eq_bind, Option.bind_eq_some_iff]
  constructor
  · rintro ⟨⟨h', p'⟩, hsplit, heq⟩
    obtain ⟨rfl, hfree⟩ := splitFirst_eq_some_iff.mp hsplit
    dsimp only at heq
    split at heq
    · cases heq
    · rename_i hplain
      cases heq
      obtain ⟨hh, hp⟩ := not_or.mp hplain
      exact ⟨rfl, lacks_cons.mpr ⟨hfree, lacks_brackets_iff.mp hh⟩, lacks_colon_brackets_iff.mp hp⟩
  · rintro ⟨rfl, hh, hp⟩
    obtain ⟨hfree, hh⟩ := lacks_cons.mp hh
    refine ⟨(h, p), splitFirst_eq_some_iff.mpr ⟨rfl, hfree⟩, if_neg ?_⟩
    exact not_or.mpr ⟨lacks_brackets_iff.mpr hh, lacks_colon_brackets_iff.mpr hp⟩

/-- Behind an opening bracket a text is split at its only closing one, which a
colon must follow. Colons in front of it are part of the host. -/
theorem splitBracketed_eq_some_iff {cs h p : List Char} :
    splitBracketed cs = some (h, p) ↔
      cs = h ++ ']' :: ':' :: p ∧ Lacks h ['[', ']'] ∧ Lacks p [':', '[', ']'] := by
  unfold splitBracketed
  rw [Option.bind_eq_bind, Option.bind_eq_some_iff]
  constructor
  · rintro ⟨⟨h', after⟩, hsplit, heq⟩
    -- The first closing bracket is the split, so the host is free of closing ones. That
    -- it has no opening one and the port no bracket or colon is checked after.
    obtain ⟨rfl, hfree⟩ := splitFirst_eq_some_iff.mp hsplit
    dsimp only at heq
    split at heq
    · split at heq
      · cases heq
      · rename_i p' hplain
        cases heq
        obtain ⟨hh, hp⟩ := not_or.mp hplain
        have hopening : '[' ∉ h := by simpa using hh
        refine ⟨rfl, lacks_cons.mpr ⟨hopening, lacks_cons.mpr ⟨hfree, lacks_nil h⟩⟩, ?_⟩
        exact lacks_colon_brackets_iff.mp hp
    · cases heq
  · rintro ⟨rfl, hh, hp⟩
    obtain ⟨hopening, hh⟩ := lacks_cons.mp hh
    obtain ⟨hfree, -⟩ := lacks_cons.mp hh
    refine ⟨(h, ':' :: p), splitFirst_eq_some_iff.mpr ⟨rfl, hfree⟩, if_neg ?_⟩
    exact not_or.mpr ⟨by simpa using hopening, lacks_colon_brackets_iff.mpr hp⟩

/-- The characters of a text without brackets. -/
theorem toList_plain (h p : String) : (h ++ ":" ++ p).toList = h.toList ++ ':' :: p.toList := by
  simp

/-- The characters of a text with brackets, the opening one in front. -/
theorem toList_bracketed (h p : String) :
    ("[" ++ h ++ "]:" ++ p).toList = '[' :: (h.toList ++ ']' :: ':' :: p.toList) := by
  simp

/-- A text without a bracket in front is split at its first colon. -/
theorem splitHostPort_of_head {cs : List Char} (h : cs.head? ≠ some '[') :
    splitHostPort cs = splitPlain cs := by
  unfold splitHostPort
  split
  · exact absurd rfl h
  · rfl

/-- The split that is found is the one that the text has. Which of the two rules
applies is seen from the first character, since a host without brackets around it
has none in it. -/
theorem splitHostPort_eq_some_iff {s h p : String} :
    splitHostPort s.toList = some (h.toList, p.toList) ↔ Splits s h p := by
  constructor
  · intro heq
    by_cases hhead : s.toList.head? = some '['
    · obtain ⟨cs, hs⟩ := List.head?_eq_some_iff.mp hhead
      rw [hs] at heq
      obtain ⟨rfl, hh, hp⟩ := splitBracketed_eq_some_iff.mp heq
      obtain rfl : s = "[" ++ h ++ "]:" ++ p := by
        rw [← String.toList_inj, hs, toList_bracketed]
      exact .bracketed hh hp
    · rw [splitHostPort_of_head hhead] at heq
      obtain ⟨hs, hh, hp⟩ := splitPlain_eq_some_iff.mp heq
      obtain rfl : s = h ++ ":" ++ p := by
        rw [← String.toList_inj, hs, toList_plain]
      exact .plain hh hp
  · intro hsplits
    cases hsplits with
    | plain hh hp =>
      rw [toList_plain, splitHostPort_of_head, splitPlain_eq_some_iff.mpr ⟨rfl, hh, hp⟩]
      -- The host has no bracket in it, so none is in front.
      cases hcs : h.toList with
      | nil => simp
      | cons c cs =>
        rw [hcs] at hh
        have hc := hh c List.mem_cons_self
        intro heq
        cases heq
        exact hc (by simp)
    | bracketed hh hp =>
      rw [toList_bracketed, splitHostPort, splitBracketed_eq_some_iff.mpr ⟨rfl, hh, hp⟩]

/-- A text has at most one split. It is the one that the reader finds, and the
reader is a function. -/
theorem Splits.unique {s h p h' p' : String} (hs : Splits s h p) (hs' : Splits s h' p') :
    h' = h ∧ p' = p := by
  have heq := splitHostPort_eq_some_iff.mpr hs
  rw [splitHostPort_eq_some_iff.mpr hs'] at heq
  simpa [String.toList_inj] using heq

/-! ### Hosts -/

/-- The address that a host and a port stand for: that of the literal, where a
literal in `::ffff:0:0/96` stands for the IPv4 address that it ends in, or else a
name of at most 255 bytes. -/
inductive Denotes (h : String) (port : UInt16) : Address → Prop where
  | v4 {a : IPv4} (hh : h = a.toText) : Denotes h port (.ip (.v4 a port))
  | embedded {a : IPv6} {v4 : IPv4} (hh : IPv6.Literal h.toList a) (hv4 : a.Embeds v4) :
      Denotes h port (.ip (.v4 v4 port))
  | v6 {a : IPv6} (hh : IPv6.Literal h.toList a) (hne : ∀ v4, ¬ a.Embeds v4) :
      Denotes h port (.ip (.v6 a port 0 0))
  | name (hh : IsName h) (hlen : (utf8 h).length ≤ maxNameLength) :
      Denotes h port (.name (utf8 h) port)

/-- The address that is made of a host and a port is the one that they denote. The
order of the tries does not show: no text is a literal of both kinds, and names
are what is left. -/
theorem ofHost_eq_ok_iff {h : String} {port : UInt16} {a : Address} :
    ofHost h.toList port = .ok a ↔ Denotes h port a := by
  unfold ofHost
  rw [String.ofList_toList]
  constructor
  · intro hok
    split at hok
    · -- The text is an IPv4 literal.
      rename_i b hb
      cases hok
      exact .v4 (IP.parse?_eq_v4_iff.mp hb)
    · rename_i b hb
      -- The text is an IPv6 literal; one that embeds an IPv4 address stands for that
      -- address.
      have hliteral := IP.parse?_eq_v6_iff.mp hb
      split at hok
      · rename_i v4 hmapped
        cases hok
        exact .embedded hliteral (IPv6.mapped?_eq_some_iff.mp hmapped)
      · rename_i hmapped
        cases hok
        refine .v6 hliteral fun v4 hv4 => ?_
        rw [IPv6.mapped?_eq_some_iff.mpr hv4] at hmapped
        cases hmapped
    · -- The text is no literal, so it is a name, if it is short enough.
      rename_i hname
      dsimp only at hok
      split at hok
      · cases hok
      · rename_i hlen
        cases hok
        exact .name (IP.parse?_eq_none_iff.mp hname) (Nat.le_of_not_lt hlen)
  · intro hdenotes
    cases hdenotes with
    | v4 hh => rw [IP.parse?_eq_v4_iff.mpr hh]
    | embedded hh hv4 =>
      rw [IP.parse?_eq_v6_iff.mpr hh]
      dsimp only
      rw [IPv6.mapped?_eq_some_iff.mpr hv4]
    -- The grammar says that no address is embedded, the function that none is found.
    | @v6 a hh hne =>
      have hmapped : a.mapped? = none := by
        rw [Option.eq_none_iff_forall_ne_some]
        exact fun v4 hv4 => hne v4 (IPv6.mapped?_eq_some_iff.mp hv4)
      rw [IP.parse?_eq_v6_iff.mpr hh]
      dsimp only
      rw [hmapped]
    | name hh hlen =>
      rw [IP.parse?_eq_none_iff.mpr hh]
      exact if_neg (Nat.not_lt.mpr hlen)

/-- A host fails for one reason only: it is a name and too long. The error says
how long it is, in bytes and not in characters. -/
theorem ofHost_eq_error_iff {h : String} {port : UInt16} {e : ProtocolError} :
    ofHost h.toList port = .error e ↔
      IsName h ∧ maxNameLength < (utf8 h).length ∧ e = .domainTooLong (utf8 h).length := by
  unfold ofHost
  rw [← IP.parse?_eq_none_iff, String.ofList_toList]
  cases hip : IP.parse? h.toList with
  | none =>
    dsimp only
    split
    · rename_i hlen
      simp [hlen, eq_comm]
    · rename_i hlen
      simp [hlen]
  | some ip =>
    refine iff_of_false ?_ (by simp)
    cases ip with
    | v4 b => nofun
    | v6 b =>
      dsimp only
      cases b.mapped? <;> nofun

/-! ### Addresses -/

section

variable {s h p : String}

/-- With a host and a port, it is the port that is tried first. So a bad port is
reported even if the host is bad, too. -/
theorem parse_of_no_port (hs : Splits s h p) (hport : port? p.toList = none) :
    parse s = .error (.invalidPort p) := by
  simp only [parse, splitHostPort_eq_some_iff.mpr hs, hport, String.ofList_toList]

/-- With a good port the host decides. -/
theorem parse_of_port {port : UInt16} (hs : Splits s h p) (hport : port? p.toList = some port) :
    parse s = ofHost h.toList port := by
  simp only [parse, splitHostPort_eq_some_iff.mpr hs, hport]

/-- A text without a host and a port is malformed, and the error shows the text as
it is. -/
theorem parse_of_not_splits (hs : ¬ ∃ h p, Splits s h p) :
    parse s = .error (.malformedAddress s) := by
  rw [parse]
  cases hsplit : splitHostPort s.toList with
  | none => rfl
  | some split =>
    obtain ⟨h, p⟩ := split
    refine absurd ⟨String.ofList h, String.ofList p, ?_⟩ hs
    rw [← splitHostPort_eq_some_iff, String.toList_ofList, String.toList_ofList, hsplit]

/-- A text that splits is read as what its host and its port denote. -/
theorem parse_eq_ok_iff (hs : Splits s h p) {a : Address} :
    parse s = .ok a ↔ ∃ port, PortText p port ∧ Denotes h port a := by
  simp only [← port?_eq_some_iff, ← ofHost_eq_ok_iff]
  cases hport : port? p.toList with
  | none => simp [parse_of_no_port hs hport]
  | some port => simp [parse_of_port hs hport]

/-- A text that splits fails for its port or, if that is good, for its host. Of
the hosts only names fail, and those only for their length in bytes. -/
theorem parse_eq_error_iff (hs : Splits s h p) {e : ProtocolError} :
    parse s = .error e ↔ port? p.toList = none ∧ e = .invalidPort p ∨
      (∃ port, PortText p port) ∧ IsName h ∧ maxNameLength < (utf8 h).length ∧
        e = .domainTooLong (utf8 h).length := by
  simp only [← port?_eq_some_iff]
  cases hport : port? p.toList with
  | none => simp [parse_of_no_port hs hport, eq_comm]
  | some port =>
    rw [parse_of_port hs hport, ofHost_eq_error_iff]
    simp

end

/-- What a text is read as. It has a host and a port in one way at most, and is
malformed if it has none. If it has, the port comes first: it is invalid if it is
empty, has another character than the digits 0 to 9, or denotes more than 65535,
however long it is. With a good port the host decides: a name of more than 255
bytes is too long, and any other host is that of an address. -/
theorem parse_exact (s : String) :
    (parse s = .error (.malformedAddress s) ↔ ¬ ∃ h p, Splits s h p) ∧
    ∀ h p, Splits s h p →
      (∀ h' p', Splits s h' p' → h' = h ∧ p' = p) ∧
      (parse s = .error (.invalidPort p) ↔
        p = "" ∨ (∃ c ∈ p.toList, c.isDigit = false) ∨ 65535 < Nat.ofDigitChars 10 p.toList 0) ∧
      (∀ n, parse s = .error (.domainTooLong n) ↔
        (∃ port, PortText p port) ∧ IsName h ∧ n = (utf8 h).length ∧ 255 < n) ∧
      ∀ a, parse s = .ok a ↔ ∃ port, PortText p port ∧ Denotes h port a := by
  refine ⟨⟨?_, parse_of_not_splits⟩, fun h p hs => ⟨fun h' p' => hs.unique, ?_, ?_, ?_⟩⟩
  · -- A text that splits fails in two ways, and neither is to be malformed.
    rintro hmalformed ⟨h, p, hs⟩
    rcases (parse_eq_error_iff hs).mp hmalformed with ⟨-, he⟩ | ⟨-, -, -, he⟩ <;> cases he
  · rw [parse_eq_error_iff hs, port?_eq_none_iff]
    constructor
    · rintro (⟨hport, -⟩ | ⟨-, -, -, he⟩)
      · exact hport
      · cases he
    · intro hport
      exact .inl ⟨hport, rfl⟩
  · intro n
    rw [parse_eq_error_iff hs]
    constructor
    · rintro (⟨-, he⟩ | ⟨hport, hname, hlen, he⟩)
      · cases he
      · cases he
        exact ⟨hport, hname, rfl, hlen⟩
    · rintro ⟨hport, hname, rfl, hlen⟩
      exact .inr ⟨hport, hname, hlen, rfl⟩
  · exact fun a => parse_eq_ok_iff hs

/-- A mapped address and a port with zeros in front are read as the IPv4 address
and the port. A port that denotes 80 more than there are ports is none. -/
theorem parse_exact_of_brackets :
    Splits "[::ffff:1.2.3.4]:0080" "::ffff:1.2.3.4" "0080" ∧
    parse "[::ffff:1.2.3.4]:0080" = .ok (.ip (.v4 ⟨1, 2, 3, 4⟩ 80)) ∧
    Splits "[a:b]:65616" "a:b" "65616" ∧
    parse "[a:b]:65616" = .error (.invalidPort "65616") := by
  have hmapped : Splits "[::ffff:1.2.3.4]:0080" "::ffff:1.2.3.4" "0080" :=
    splitHostPort_eq_some_iff.mp (by decide)
  have hname : Splits "[a:b]:65616" "a:b" "65616" := splitHostPort_eq_some_iff.mp (by decide)
  obtain ⟨-, -, -, hok⟩ := (parse_exact _).2 _ _ hmapped
  obtain ⟨-, hport, -, -⟩ := (parse_exact _).2 _ _ hname
  refine ⟨hmapped, (hok _).mpr ⟨80, port?_eq_some_iff.mp (by decide), ?_⟩, hname, ?_⟩
  · have hliteral : IPv6.Literal "::ffff:1.2.3.4".toList ⟨0, 0, 0, 0, 0, 0xffff, 0x0102, 0x0304⟩ :=
      IPv6.parse?_eq_some_iff.mp (by decide)
    exact .embedded hliteral rfl
  · exact hport.mpr (.inr (.inr (by decide)))

end Address

end Socks5
