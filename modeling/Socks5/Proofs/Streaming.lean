import Socks5.Proofs.Codec
import Socks5.Proofs.ServedMessages

/-!
# `Socks5.Proofs.Streaming`: how far a reader goes

A reader finds its message at the front of the bytes that are to come, and
what it makes of them depends on nothing else.

* `Exchange.Makes`: what an exchange makes of bytes, in whatever pieces and
  after whatever waits they come.
* `Hears.decided`: for a reader that fails in no other way than by a read that
  fails, some front of the bytes decides everything, or all fronts are cut
  short. The induction is on the dialogue: a read that succeeds takes the same
  block from every string of bytes with that front.
* `Reads.makes_error_iff`: what is refused, and after which bytes.
* `readers_stream`: both laws for the readers of addresses, greetings,
  requests and replies.

A decisive front is never the front of another, so no message is the front of
another message of the same kind, and none is given a value before its end.
-/

set_option autoImplicit false

namespace Socks5

open Net Dialogue

variable {α β : Type}

namespace Exchange

/-! ### What an exchange makes of bytes -/

/-- Whether the exchange ends with the given result and leaves the given bytes
on every scene with just the bytes `bs` to come. What becomes of writes is not
changed by it. -/
def Makes (x : Exchange α) (bs : Bytes) (r : Except ProtocolError α) (rest : Bytes) : Prop :=
  ∀ (connector : Connector) (s : Scene), s.IsFlowing → s.ahead = bs →
    ∃ s', x.run.run connector s = .ended r s' ∧ s.Took s' rest

section

variable {x : Exchange α} {bs rest rest' : Bytes} {r r' : Except ProtocolError α}

/-- There is a scene with these bytes to come, so the result is determined. -/
theorem Makes.onBytes (h : x.Makes bs r rest) : x.onBytes bs = some (r, rest) := by
  obtain ⟨s, hrun, htook⟩ := h default _ (isFlowing_bytes bs) (ahead_bytes bs)
  rw [Exchange.onBytes, hrun]
  simp only [htook.ahead]

/-- What an exchange makes of bytes is one thing only. -/
theorem Makes.unique (h : x.Makes bs r rest) (h' : x.Makes bs r' rest') :
    r = r' ∧ rest = rest' := by
  have heq := h.onBytes.symm.trans h'.onBytes
  simpa using heq

/-- An exchange that is done takes nothing. -/
theorem makes_done (r : Except ProtocolError α) (bs : Bytes) :
    Makes (ExceptT.mk (.done r)) bs r bs := by
  intro connector s hs hahead
  exact ⟨s, rfl, hs, hahead, rfl⟩

/-- Noting takes nothing either. -/
theorem makes_note {entry : Log.Entry} {next : Dialogue (Except ProtocolError α)}
    (h : Makes (ExceptT.mk next) bs r rest) :
    Makes (ExceptT.mk (.note entry next)) bs r rest := by
  intro connector s hs hahead
  have hmark : (s.mark (.noted entry)).IsFlowing := ⟨hs.smooth, hs.free⟩
  obtain ⟨s', hrun, htook⟩ := h connector _ hmark hahead
  exact ⟨s', hrun, htook.flowing, htook.ahead, htook.outlet⟩

/-- A read is answered from the bytes, and what follows has the others. Too few
bytes make an answer as well, the error at the end of the stream. -/
theorem makes_recv {n : Nat} {shape : Shape}
    {k : Except IoError (Vector UInt8 n) → Dialogue (Except ProtocolError α)}
    (h : Makes (ExceptT.mk (k (shape.answer n bs))) (bs.drop n) r rest) :
    Makes (ExceptT.mk (.recv n shape k)) bs r rest := by
  intro connector s hs hahead
  subst hahead
  obtain ⟨s', hrun, htook⟩ := h connector _ (hs.drawn n) (hs.ahead_drawn n)
  refine ⟨s', ?_, htook.flowing, htook.ahead, htook.outlet⟩
  show Dialogue.run connector (.recv n shape k) s = _
  rw [run_recv, hs.answer_eq]
  exact hrun

end

/-! ### Decisive fronts -/

/-- Whether the exchange takes all these bytes and misses more. -/
def CutsShort (x : Exchange α) (bs : Bytes) : Prop :=
  ∃ e, x.Makes bs (.error (.truncated e)) []

/-- Whether the bytes `m` decide what the exchange does: it takes just them,
with the same result whatever follows, and every shorter front of them is cut
short. -/
structure Decides (x : Exchange α) (m : Bytes) (r : Except ProtocolError α) : Prop where
  whole : ∀ rest, x.Makes (m ++ rest) r rest
  cut : ∀ got, got <+: m → got ≠ m → x.CutsShort got

/-- A read without enough bytes takes them all and ends the reader. -/
theorem cutsShort_recv {n : Nat} {shape : Shape}
    {k : Except IoError (Vector UInt8 n) → Dialogue (Except ProtocolError α)}
    (hk : ∀ e, k (.error e) = .done (.error (.truncated e))) {got : Bytes}
    (hlen : got.length < n) : CutsShort (ExceptT.mk (.recv n shape k)) got := by
  refine ⟨shape.endError, makes_recv ?_⟩
  rw [Shape.answer, dif_neg (by omega), hk, List.drop_eq_nil_of_le (by omega)]
  exact makes_done _ _

/-- A read with enough bytes goes on with the block and the bytes behind it. The
block is given as what it is, so nothing has to be computed from the bytes. -/
theorem makes_recv_append {n : Nat} {shape : Shape}
    {k : Except IoError (Vector UInt8 n) → Dialogue (Except ProtocolError α)}
    (v : Vector UInt8 n) {bs rest : Bytes} {r : Except ProtocolError α}
    (h : Makes (ExceptT.mk (k (.ok v))) bs r rest) :
    Makes (ExceptT.mk (.recv n shape k)) (v.toList ++ bs) r rest := by
  apply makes_recv
  rw [answer_toList_append, List.drop_left' (by simp)]
  exact h

/-- A front of a block and what follows it is a front of the block, or the block
and a front of what follows. -/
theorem prefix_append_cases {a b got : Bytes} (h : got <+: a ++ b) :
    got.length < a.length ∨ ∃ got', got = a ++ got' ∧ got' <+: b := by
  rcases Nat.lt_or_ge got.length a.length with hlt | hge
  · exact .inl hlt
  · obtain ⟨got', rfl⟩ := List.prefix_of_prefix_length_le (List.prefix_append a b) h hge
    exact .inr ⟨got', rfl, (List.prefix_append_right_inj a).mp h⟩

/-- Bytes are a block and what follows it, if they are enough. -/
theorem exists_eq_append {n : Nat} {bs : Bytes} (h : n ≤ bs.length) :
    ∃ (v : Vector UInt8 n) (bs' : Bytes), bs = v.toList ++ bs' :=
  ⟨⟨(bs.take n).toArray, Shape.size_take h⟩, bs.drop n, (List.take_append_drop n bs).symm⟩

/-- Some front of the bytes decides what the exchange does with them, and not
by a truncated message, or each of their fronts is cut short. -/
def Decided (x : Exchange α) (bs : Bytes) : Prop :=
  (∃ m rest r, bs = m ++ rest ∧ (∀ e, r ≠ .error (.truncated e)) ∧ x.Decides m r) ∨
    ∀ got, got <+: bs → x.CutsShort got

/-- An exchange that is done has decided on no bytes at all. It must not be done
with a truncated message, which would ask for more. -/
theorem decided_done {r : Except ProtocolError α} (hr : ∀ e, r ≠ .error (.truncated e))
    (bs : Bytes) : Decided (ExceptT.mk (.done r)) bs := by
  refine .inl ⟨[], bs, r, rfl, hr, makes_done r, ?_⟩
  -- Nothing is shorter than no bytes.
  intro got hgot hne
  exact absurd (List.prefix_nil.mp hgot) hne

/-- Noting does not change which bytes are too few. -/
theorem cutsShort_note {entry : Log.Entry} {next : Dialogue (Except ProtocolError α)} {got : Bytes}
    (h : CutsShort (ExceptT.mk next) got) : CutsShort (ExceptT.mk (.note entry next)) got := by
  obtain ⟨e, he⟩ := h
  exact ⟨e, makes_note he⟩

/-- Nor does it change which bytes decide. -/
theorem decided_note {entry : Log.Entry} {next : Dialogue (Except ProtocolError α)} {bs : Bytes}
    (h : Decided (ExceptT.mk next) bs) : Decided (ExceptT.mk (.note entry next)) bs := by
  rcases h with ⟨m, rest, r, hbs, hr, hm⟩ | hcut
  · refine .inl ⟨m, rest, r, hbs, hr, fun rest => makes_note (hm.whole rest), ?_⟩
    exact fun got hgot hne => cutsShort_note (hm.cut got hgot hne)
  · exact .inr fun got hgot => cutsShort_note (hcut got hgot)

/-- What a block and the bytes behind it decide, the bytes behind it decide once
the block has been read. Fronts are told apart by whether they hold the block:
without it they are cut short here, with it they are what the rest of the reader
says. -/
theorem decided_recv {n : Nat} {shape : Shape}
    {k : Except IoError (Vector UInt8 n) → Dialogue (Except ProtocolError α)}
    (herror : ∀ e, k (.error e) = .done (.error (.truncated e)))
    (hok : ∀ v bs, Decided (ExceptT.mk (k (.ok v))) bs) (bs : Bytes) :
    Decided (ExceptT.mk (.recv n shape k)) bs := by
  by_cases hlen : n ≤ bs.length
  · obtain ⟨v, bs', rfl⟩ := exists_eq_append hlen
    -- A front without the whole block ends the reader, any other leaves it the block.
    have hfront : ∀ {got m : Bytes}, got <+: v.toList ++ m →
        (∀ got', got = v.toList ++ got' → got' <+: m →
          CutsShort (ExceptT.mk (k (.ok v))) got') →
        CutsShort (ExceptT.mk (.recv n shape k)) got := by
      intro got m hgot hafter
      rcases prefix_append_cases hgot with hlt | ⟨got', rfl, hgot'⟩
      · exact cutsShort_recv herror (by simpa using hlt)
      · obtain ⟨e, he⟩ := hafter got' rfl hgot'
        exact ⟨e, makes_recv_append v he⟩
    rcases hok v bs' with ⟨m, rest, r, rfl, hr, hm⟩ | hcut
    · refine .inl ⟨v.toList ++ m, rest, r, (List.append_assoc ..).symm, hr, ?_, ?_⟩
      · intro rest
        rw [List.append_assoc]
        exact makes_recv_append v (hm.whole rest)
      · intro got hgot hne
        refine hfront hgot fun got' heq hgot' => hm.cut got' hgot' ?_
        rintro rfl
        exact hne heq
    · exact .inr fun got hgot => hfront hgot fun got' _ hgot' => hcut got' hgot'
  · refine .inr fun got hgot => cutsShort_recv herror ?_
    have := hgot.length_le
    omega

/-- A reader that fails in no other way than by a read that fails decides on a
front of any bytes, or is cut short by all of them. -/
theorem Hears.decided {x : Exchange α} (hx : x.Hears fun e => ∀ i, e ≠ .truncated i)
    (bs : Bytes) : x.Decided bs := by
  have hgo : ∀ y : Dialogue (Except ProtocolError α), (y.Hears fun e => ∀ i, e ≠ .truncated i) →
      ∀ bs, Decided (ExceptT.mk y) bs := by
    intro y hy
    induction y with
    | done r => exact decided_done fun i hr => hy _ hr i rfl
    | note entry next ih => exact fun bs => decided_note (ih hy bs)
    | recv n shape k ih => exact decided_recv hy.1 fun v => ih (.ok v) (hy.2 v)
    | send | within | release | dial | listen | accept => exact hy.elim
  exact hgo x.run hx bs

/-- The streaming law of a reader. Whatever the bytes are, it takes a front of
them and leaves the rest. If the message was not truncated, the front decides:
the reader takes just it, with the same result, whatever follows, and every
shorter front is cut short. If the message was truncated, the front is all of
the bytes, and every front is cut short. -/
def Streams (x : Exchange α) : Prop :=
  ∀ bs, ∃ r m rest, bs = m ++ rest ∧ x.Makes bs r rest ∧
    ((∀ e, r ≠ .error (.truncated e)) →
      (∀ more, x.Makes (m ++ more) r more) ∧ ∀ got, got <+: m → got ≠ m → x.CutsShort got) ∧
    ((∃ e, r = .error (.truncated e)) → m = bs ∧ ∀ got, got <+: bs → x.CutsShort got)

/-- Such a reader obeys the streaming law. Its errors have to be told from a
truncation, as that is the one thing that more bytes can change. -/
theorem streams_of_hears {x : Exchange α} (hx : x.Hears fun e => ∀ i, e ≠ .truncated i) :
    x.Streams := by
  intro bs
  rcases hx.decided bs with ⟨m, rest, r, hbs, hr, hm⟩ | hcut
  · refine ⟨r, m, rest, hbs, hbs ▸ hm.whole rest, fun _ => ⟨hm.whole, hm.cut⟩, ?_⟩
    rintro ⟨e, he⟩
    exact absurd he (hr e)
  · obtain ⟨e, he⟩ := hcut bs (List.prefix_refl bs)
    refine ⟨_, bs, [], (List.append_nil bs).symm, he, ?_, fun _ => ⟨rfl, hcut⟩⟩
    intro hne
    exact absurd rfl (hne e)

/-- A message that an exchange gives a value is all that it takes. -/
theorem Gets.makes {x : Exchange α} {m : Bytes} {a : α} (hx : x.Gets m a) (rest : Bytes) :
    x.Makes (m ++ rest) (.ok a) rest := by
  intro connector s hs hahead
  exact run_gets connector hx hs hahead

/-! ### Refusals -/

/-- The exchange takes the bytes and refuses them. -/
def Refuses (x : Exchange α) (m : Bytes) (e : ProtocolError) : Prop :=
  ∃ h, Takes x.run m h (.done (.error e))

/-- An error that is thrown at once costs no bytes. -/
theorem refuses_throw (e : ProtocolError) : Refuses (throw e : Exchange α) [] e := ⟨[], .stop _⟩

/-- What the first part refuses, the whole refuses, after the same bytes. -/
theorem Refuses.bind {x : Exchange α} {m : Bytes} {e : ProtocolError} (hx : x.Refuses m e)
    (f : α → Exchange β) : (x >>= f).Refuses m e := by
  obtain ⟨h, hx⟩ := hx
  exact ⟨h, hx.bind (β := Except ProtocolError β) (ExceptT.bindCont f)⟩

/-- What the second part refuses, the whole refuses after the message of the first
part. -/
theorem Gets.bind_refuses {x : Exchange α} {f : α → Exchange β} {m m' : Bytes} {a : α}
    {e : ProtocolError} (hx : x.Gets m a) (hf : (f a).Refuses m' e) :
    (x >>= f).Refuses (m ++ m') e := by
  obtain ⟨h, hx⟩ := hx
  obtain ⟨h', hf⟩ := hf
  exact ⟨h ++ h', (hx.bind (β := Except ProtocolError β) (ExceptT.bindCont f)).trans hf⟩

/-- A message that leads to an error is refused at its end. -/
theorem Gets.refuses {x : Exchange α} {f : α → Exchange β} {m : Bytes} {a : α}
    {e : ProtocolError} (hx : x.Gets m a) (hf : f a = throw e) : (x >>= f).Refuses m e := by
  rw [← List.append_nil m]
  refine hx.bind_refuses ?_
  rw [hf]
  exact refuses_throw e

/-- Bytes that are refused are all that is taken. -/
theorem Refuses.makes {x : Exchange α} {m : Bytes} {e : ProtocolError} (hx : x.Refuses m e)
    (rest : Bytes) : x.Makes (m ++ rest) (.error e) rest := by
  intro connector s hs hahead
  obtain ⟨h, hx⟩ := hx
  exact run_takes connector hx hs hahead

/-- What a reader of a format refuses, and after which bytes: just what its format
says, if it refuses all of that. `Reads` alone does not say that it does: a reader
that gives up at once with a truncated message would read any format with a
message in it. -/
theorem Reads.makes_error_iff {x : Exchange α} {F : Format α} (hx : x.Reads F)
    (hrefuses : ∀ e m, F.refuses e m → x.Refuses m e) {bs rest : Bytes} {e : ProtocolError}
    (he : ∀ i, e ≠ .truncated i) :
    x.Makes bs (.error e) rest ↔ ∃ m, F.refuses e m ∧ bs = m ++ rest := by
  constructor
  · intro h
    have hs := isFlowing_bytes bs
    obtain ⟨s', hrun, htook⟩ := h default _ hs (ahead_bytes bs)
    obtain ⟨r, s, g, hrun', -, -, hstops, hahead⟩ := hx.run_isFlowing default hs
    rw [hrun] at hrun'
    cases hrun'
    rw [ahead_bytes, htook.ahead] at hahead
    cases hstops with
    | refused hm => exact ⟨g.receivedBytes, hm, hahead⟩
    | cut _ hbreak =>
      cases hbreak with
      | broken i => exact absurd rfl (he i)
  · rintro ⟨m, hm, rfl⟩
    exact (hrefuses e m hm).makes rest

end Exchange

/-! ### The readers -/

open Exchange

/-- An address type that is unknown is refused after its byte. -/
theorem refuses_address {e : ProtocolError} {m : Bytes} (h : Address.format.refuses e m) :
    Address.read.Refuses m e := by
  obtain ⟨b, hb, rfl, rfl⟩ := h
  refine (gets_byte b).refuses ?_
  rw [hb]

/-- A greeting of another version is refused after its first byte. -/
theorem refuses_greeting {e : ProtocolError} {m : Bytes}
    (h : Negotiation.greetingFormat.refuses e m) : Negotiation.readGreeting.Refuses m e := by
  obtain ⟨v, hv, rfl, rfl⟩ := h
  exact (gets_byte v).refuses (if_pos hv)

/-- A request is refused for its version, its address type or its command, in the
order of the reader and not of the bytes: the command is looked at last. -/
theorem refuses_request {e : ProtocolError} {m : Bytes} (h : Request.format.refuses e m) :
    Request.read.Refuses m e := by
  rcases h with ⟨v, c, x, hv, rfl, rfl⟩ | ⟨c, x, m, hm, rfl⟩ | ⟨c, x, a, m, hc, ha, rfl, rfl⟩
  · exact (gets_block #v[v, c, x]).refuses (if_pos hv)
  · refine (gets_block #v[version, c, x]).bind_refuses ?_
    exact (refuses_address hm).bind _
  · refine (gets_block #v[version, c, x]).bind_refuses ?_
    -- The command is looked at once the address has been read.
    have hcommand : Request.withCommand c a.framed = throw (.commandNotSupported c) := by
      unfold Request.withCommand
      rw [hc]
    exact (gets_address ha.2).refuses hcommand

/-- A reply is refused for its version or its address type. No code is refused. -/
theorem refuses_reply {e : ProtocolError} {m : Bytes} (h : Reply.format.refuses e m) :
    Reply.read.Refuses m e := by
  rcases h with ⟨v, c, x, hv, rfl, rfl⟩ | ⟨c, x, m, hm, rfl⟩
  · exact (gets_block #v[v, c, x]).refuses (if_pos hv)
  · refine (gets_block #v[version, c, x]).bind_refuses ?_
    exact (refuses_address hm).bind _

/-- The reader of addresses obeys the streaming law. -/
theorem streams_address : Address.read.Streams :=
  streams_of_hears (hears_address (by simp))

/-- So does the reader of greetings. -/
theorem streams_greeting : Negotiation.readGreeting.Streams :=
  streams_of_hears (hears_readGreeting (by simp))

/-- So does the reader of requests. -/
theorem streams_request : Request.read.Streams :=
  streams_of_hears (hears_request (by simp) (by simp) (by simp))

/-- So does the reader of replies. -/
theorem streams_reply : Reply.read.Streams := by
  refine streams_of_hears (hears_bind (hears_block 3) fun head => ?_)
  split
  · exact hears_throw (by simp)
  · exact hears_bind (hears_address (by simp)) fun a => hears_pure _

/-! ### What each reader refuses -/

section

variable {bs rest : Bytes} {e : ProtocolError}

/-- An address is refused for its type only, after one byte. Any host and any port
are taken, a host name of any bytes among them. -/
theorem makes_address_error_iff (he : ∀ i, e ≠ .truncated i) :
    Address.read.Makes bs (.error e) rest ↔
      ∃ b, AddressType.ofByte? b = none ∧ e = .unsupportedAddressType b ∧ bs = b :: rest := by
  rw [Address.reads_address.makes_error_iff (fun _ _ => refuses_address) he]
  constructor
  · rintro ⟨m, ⟨b, hb, rfl, rfl⟩, rfl⟩
    exact ⟨b, hb, rfl, rfl⟩
  · rintro ⟨b, hb, rfl, rfl⟩
    exact ⟨[b], ⟨b, hb, rfl, rfl⟩, rfl⟩

/-- A greeting is refused for its version only, after one byte. What methods it
offers, and whether any, is not the reader's business. -/
theorem makes_greeting_error_iff (he : ∀ i, e ≠ .truncated i) :
    Negotiation.readGreeting.Makes bs (.error e) rest ↔
      ∃ v, v ≠ version ∧ e = .unsupportedVersion v ∧ bs = v :: rest := by
  rw [Negotiation.reads_greeting.makes_error_iff (fun _ _ => refuses_greeting) he]
  constructor
  · rintro ⟨m, ⟨v, hv, rfl, rfl⟩, rfl⟩
    exact ⟨v, hv, rfl, rfl⟩
  · rintro ⟨v, hv, rfl, rfl⟩
    exact ⟨[v], ⟨v, hv, rfl, rfl⟩, rfl⟩

/-- Whether a message is refused for its version, after three bytes, or for its
address type, after the byte of that type. -/
def RefusedByHead (e : ProtocolError) (bs rest : Bytes) : Prop :=
  (∃ v c x, v ≠ version ∧ e = .unsupportedVersion v ∧ bs = v :: c :: x :: rest) ∨
    ∃ c x b, AddressType.ofByte? b = none ∧ e = .unsupportedAddressType b ∧
      bs = version :: c :: x :: b :: rest

/-- A request is refused for its head, or for its command once the whole frame has
been taken. -/
theorem makes_request_error_iff (he : ∀ i, e ≠ .truncated i) :
    Request.read.Makes bs (.error e) rest ↔ RefusedByHead e bs rest ∨
      ∃ c x a frame, Command.ofByte? c = none ∧ Address.encode a = .ok frame ∧
        e = .commandNotSupported c ∧ bs = version :: c :: x :: (frame ++ rest) := by
  rw [Request.reads_request.makes_error_iff (fun _ _ => refuses_request) he]
  constructor
  · rintro ⟨m, ⟨v, c, x, hv, rfl, rfl⟩ | ⟨c, x, m, ⟨b, hb, rfl, rfl⟩, rfl⟩ |
      ⟨c, x, a, m, hc, ha, rfl, rfl⟩, rfl⟩
    · exact .inl (.inl ⟨v, c, x, hv, rfl, rfl⟩)
    · exact .inl (.inr ⟨c, x, b, hb, rfl, rfl⟩)
    · exact .inr ⟨c, x, a, m, hc, ha.2, rfl, rfl⟩
  · rintro ((⟨v, c, x, hv, rfl, rfl⟩ | ⟨c, x, b, hb, rfl, rfl⟩) | ⟨c, x, a, m, hc, ha, rfl, rfl⟩)
    · exact ⟨[v, c, x], .inl ⟨v, c, x, hv, rfl, rfl⟩, rfl⟩
    · exact ⟨[version, c, x, b], .inr (.inl ⟨c, x, [b], ⟨b, hb, rfl, rfl⟩, rfl⟩), rfl⟩
    · -- The frame is that of an address as it travels.
      have hframed : Address.format.accepts a.framed m :=
        ⟨a.framed_framed, (a.encode_framed).trans ha⟩
      exact ⟨version :: c :: x :: m, .inr (.inr ⟨c, x, a.framed, m, hc, hframed, rfl, rfl⟩), rfl⟩

/-- A reply is refused for its head only: for its version after three bytes, or
for the type of its address after four. No code is refused. -/
theorem makes_reply_error_iff (he : ∀ i, e ≠ .truncated i) :
    Reply.read.Makes bs (.error e) rest ↔ RefusedByHead e bs rest := by
  rw [Reply.reads_reply.makes_error_iff (fun _ _ => refuses_reply) he]
  constructor
  · rintro ⟨m, ⟨v, c, x, hv, rfl, rfl⟩ | ⟨c, x, m, ⟨b, hb, rfl, rfl⟩, rfl⟩, rfl⟩
    · exact .inl ⟨v, c, x, hv, rfl, rfl⟩
    · exact .inr ⟨c, x, b, hb, rfl, rfl⟩
  · rintro (⟨v, c, x, hv, rfl, rfl⟩ | ⟨c, x, b, hb, rfl, rfl⟩)
    · exact ⟨[v, c, x], .inl ⟨v, c, x, hv, rfl, rfl⟩, rfl⟩
    · exact ⟨[version, c, x, b], .inr ⟨c, x, [b], ⟨b, hb, rfl, rfl⟩, rfl⟩, rfl⟩

end

/-- The readers of addresses, greetings, requests and replies go by a front of
the bytes that are to come: they take it and nothing behind it, and miss more
as long as it has not come as a whole.

Besides truncated messages they refuse nothing but the following, and just
after these bytes: an address for its type and a greeting for its version,
after one byte; a request or a reply for its version, after three bytes, or for
its address type, after the byte of that type and whatever its command is; and
a request for its command, after its whole frame. -/
theorem readers_stream :
    (Address.read.Streams ∧ Negotiation.readGreeting.Streams ∧ Request.read.Streams ∧
      Reply.read.Streams) ∧
    ∀ (bs rest : Bytes) (e : ProtocolError), (∀ i, e ≠ .truncated i) →
      (Address.read.Makes bs (.error e) rest ↔
        ∃ b, AddressType.ofByte? b = none ∧ e = .unsupportedAddressType b ∧ bs = b :: rest) ∧
      (Negotiation.readGreeting.Makes bs (.error e) rest ↔
        ∃ v, v ≠ version ∧ e = .unsupportedVersion v ∧ bs = v :: rest) ∧
      (Request.read.Makes bs (.error e) rest ↔ RefusedByHead e bs rest ∨
        ∃ c x a frame, Command.ofByte? c = none ∧ Address.encode a = .ok frame ∧
          e = .commandNotSupported c ∧ bs = version :: c :: x :: (frame ++ rest)) ∧
      (Reply.read.Makes bs (.error e) rest ↔ RefusedByHead e bs rest) := by
  refine ⟨⟨streams_address, streams_greeting, streams_request, streams_reply⟩, ?_⟩
  intro bs rest e he
  exact ⟨makes_address_error_iff he, makes_greeting_error_iff he, makes_request_error_iff he,
    makes_reply_error_iff he⟩

/-- A request with the unknown command 9 is refused for its command after its
frame, and every shorter front of it is cut short. With the unknown address type
2 as well it is refused for that, after four bytes. -/
theorem readers_stream_of_unknown :
    (∀ i, ProtocolError.commandNotSupported 9 ≠ .truncated i) ∧
    Request.read.Makes [5, 9, 0, 3, 0, 0, 80, 77] (.error (.commandNotSupported 9)) [77] ∧
    Request.read.CutsShort [5, 9, 0, 3, 0] ∧
    Request.read.Makes [5, 9, 0, 2, 77] (.error (.unsupportedAddressType 2)) [77] := by
  obtain ⟨⟨-, -, hstreams, -⟩, hrefuses⟩ := readers_stream
  have hcommand : ∀ i, ProtocolError.commandNotSupported 9 ≠ .truncated i := by simp
  have hwhole : Request.read.Makes [5, 9, 0, 3, 0, 0, 80, 77]
      (.error (.commandNotSupported 9)) [77] := by
    obtain ⟨-, -, hrequest, -⟩ := hrefuses [5, 9, 0, 3, 0, 0, 80, 77] [77] _ hcommand
    exact hrequest.mpr (.inr ⟨9, 0, .name [] 80, _, rfl, rfl, rfl, rfl⟩)
  refine ⟨hcommand, hwhole, ?_, ?_⟩
  · obtain ⟨r, m, rest, hbs, hmakes, hdecides, -⟩ := hstreams [5, 9, 0, 3, 0, 0, 80, 77]
    obtain ⟨rfl, rfl⟩ := hmakes.unique hwhole
    obtain rfl : m = [5, 9, 0, 3, 0, 0, 80] := List.append_cancel_right hbs.symm
    exact (hdecides (by simp)).2 [5, 9, 0, 3, 0] ⟨[0, 80], rfl⟩ (by simp)
  · obtain ⟨-, -, hrequest, -⟩ :=
      hrefuses [5, 9, 0, 2, 77] [77] (.unsupportedAddressType 2) (by simp)
    exact hrequest.mpr (.inl (.inr ⟨9, 0, 2, rfl, rfl, rfl⟩))

end Socks5
