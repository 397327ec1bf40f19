import Socks5.Negotiation
import Socks5.Proofs.Format
import Socks5.Proofs.Frame

/-!
# `Socks5.Proofs.Reading`: the formats of the messages

Each reader of the library reads one format, and the formats are given
here by the writers' side of the message:

* `reads_address`: an address is the frame that `Address.encode` writes.
  An unknown address type is refused after its one byte.
* `reads_greeting`: a greeting is the version and a counted offer.
* `reads_request`: a request is the version, a command, any byte and a
  frame. A wrong version is refused after three bytes, an unknown command
  after the whole message.
-/

set_option autoImplicit false

namespace Socks5

open Net Dialogue

/-! ### Numbers and blocks -/

namespace Format

/-- One byte. -/
def byte : Format UInt8 where
  accepts b m := m = [b]

/-- A port, high byte first. -/
def port : Format UInt16 where
  accepts p m := m = bigEndian p

/-- A block of bytes. -/
def block (n : Nat) : Format (Vector UInt8 n) where
  accepts v m := m = v.toList

/-- A block behind its length. -/
def counted : Format Bytes where
  accepts bs m := bs.length ≤ 255 ∧ m = lengthByte bs :: bs

end Format

namespace Exchange

variable {α β : Type}

/-- A single read of `n` bytes reads a format that accepts every `n` bytes. All
readers below are composed of such reads, so this is the only place where the
courses of a read are looked at. -/
theorem reads_recv {x : Exchange α} {n : Nat} {shape : Shape}
    {k : Except IoError (Vector UInt8 n) → Dialogue (Except ProtocolError α)}
    (g : Vector UInt8 n → α) {F : Format α} (hx : x.run = .recv n shape k)
    (hok : ∀ v, k (.ok v) = .done (.ok (g v)))
    (herror : ∀ e, k (.error e) = .done (.error (.truncated e)))
    (h : ∀ v, F.accepts (g v) v.toList) : Reads x F where
  plain := by
    rw [hx]
    rintro (e | v)
    · rw [herror]; trivial
    · rw [hok]; trivial
  stops := by
    intro _ _ _ _ _ _ _ hc
    rw [hx] at hc
    simp only [Course, hok, herror] at hc
    obtain ⟨v, h', rfl, rfl, rfl, -⟩ | ⟨bs, h', hbs, rfl, hr⟩ := hc
    · refine ⟨by simp [Event.IsQuiet], .accepted (a := g v) ?_⟩
      simpa [History.receivedBytes] using h v
    · -- The bytes that came are filled up to a block to see a message.
      have hcut : F.IsCut bs := by
        let v : Vector UInt8 n := ⟨(bs ++ List.replicate (n - bs.length) 0).toArray, by simp; omega⟩
        refine ⟨v.toList, .inl ⟨g v, h v⟩, ⟨_, rfl⟩, fun heq => ?_⟩
        have := congrArg List.length heq
        simp at this
        omega
      obtain ⟨e, rfl, rfl, -⟩ | ⟨rfl, -, rfl | ⟨-, rfl⟩⟩ := hr
      · exact ⟨by simp [Event.IsQuiet], .cut (by simpa [History.receivedBytes]) (.broken e)⟩
      · exact ⟨by simp [Event.IsQuiet], .cut (by simpa [History.receivedBytes]) .stuck⟩
      · exact ⟨by simp [Event.IsQuiet], .cut (by simpa [History.receivedBytes]) .late⟩

/-- One byte is read as itself. -/
theorem reads_byte : Reads byte .byte :=
  reads_recv (fun v => v[0]) rfl (fun _ => rfl) (fun _ => rfl) fun v => by
    obtain ⟨⟨l⟩, hl⟩ := v
    obtain ⟨b, rfl⟩ := List.length_eq_one_iff.mp hl
    rfl

/-- A block of two bytes, byte by byte. Patterns do not look into vectors, so the
bytes are named by this lemma. -/
theorem exists_eq_two (w : Vector UInt8 2) : ∃ a b, w = #v[a, b] := by
  obtain ⟨⟨l⟩, hl⟩ := w
  match l, hl with
  | [a, b], _ => exact ⟨a, b, rfl⟩

/-- A port is read from two bytes, high byte first. -/
theorem reads_port : Reads port .port :=
  reads_recv (fun v => ofBigEndian v[0] v[1]) rfl (fun _ => rfl) (fun _ => rfl) fun v => by
    obtain ⟨high, low, rfl⟩ := exists_eq_two v
    exact (bigEndian_ofBigEndian high low).symm

/-- A block is read as its bytes. -/
theorem reads_block (n : Nat) : Reads (block n) (.block n) :=
  reads_recv id rfl (fun _ => rfl) (fun _ => rfl) fun _ => rfl

/-- A block of three bytes, byte by byte: the front of a request or a reply. -/
theorem exists_eq_three (w : Vector UInt8 3) : ∃ a b c, w = #v[a, b, c] := by
  obtain ⟨⟨l⟩, hl⟩ := w
  match l, hl with
  | [a, b, c], _ => exact ⟨a, b, c, rfl⟩

/-- A note to the log costs no bytes, so it may stand anywhere in a reader. -/
theorem reads_note {level : Log.Level} {text : String} {F : Format Unit} (h : F.accepts () []) :
    Reads (note level text) F where
  plain := trivial
  stops := by
    rintro _ _ _ _ _ _ _ ⟨_, rfl, rfl, rfl, -⟩
    exact ⟨by simp [Event.IsQuiet], .accepted h⟩

/-- A length byte and as many bytes make up a counted block. Every byte is a
length, so there is nothing to refuse. -/
theorem counted_accepts {b : UInt8} (v : Vector UInt8 b.toNat) :
    Format.counted.accepts v.toList (b :: v.toList) := by
  have hb := b.toNat_lt
  exact ⟨by rw [Vector.length_toList]; omega, by rw [lengthByte_toList]⟩

/-- A counted block is read as what stands behind its length. The stream may break
off before the length, behind it or inside the block, and in each case it has
brought the front of some counted block. -/
theorem reads_counted : Reads counted .counted := by
  have hplain : counted.run.Plain :=
    plain_bind reads_byte.plain fun _ => plain_bind (reads_block _).plain fun _ => trivial
  -- The first goal is what the next reader does, the second that a message goes on.
  refine .bind hplain reads_byte ?_ (by simp [Format.byte]) ?_
  · rintro b _ rfl
    refine .bind (plain_bind (reads_block _).plain fun _ => trivial) (reads_block _) ?_
      (by simp [Format.block]) ?_
    · rintro v _ rfl
      refine .pure ?_
      simpa [Format.after] using counted_accepts v
    · rintro v _ rfl
      exact ⟨[], .inl ⟨v.toList, by simpa [Format.after] using counted_accepts v⟩⟩
  · rintro b _ rfl
    -- Any block of that length will do.
    exact ⟨_, .inl ⟨_, counted_accepts (.replicate b.toNat 0)⟩⟩

end Exchange

/-! ### Addresses -/

namespace Address

/-- Addresses as they travel: the frame of an address without flow label
and scope. -/
def format : Format Address where
  accepts a m := a.framed = a ∧ a.encode = .ok m
  refuses e m := ∃ b, AddressType.ofByte? b = none ∧ e = .unsupportedAddressType b ∧ m = [b]

/-- Four octets and a port behind the type are the frame of an IPv4 address. -/
theorem accepts_ipv4 (v : Vector UInt8 4) (p : UInt16) :
    format.accepts (.ip (.v4 (.ofOctets v) p))
      (AddressType.ipv4.toByte :: (v.toList ++ bigEndian p)) :=
  ⟨rfl, by simp [encode, IPv4.octets_ofOctets]⟩

/-- Sixteen octets and a port behind the type are the frame of an IPv6 address.
Flow label and scope are zero, since nothing in a frame says otherwise. -/
theorem accepts_ipv6 (v : Vector UInt8 16) (p : UInt16) :
    format.accepts (.ip (.v6 (.ofOctets v) p 0 0))
      (AddressType.ipv6.toByte :: (v.toList ++ bigEndian p)) :=
  ⟨rfl, by simp [encode, IPv6.octets_ofOctets]⟩

/-- A counted block and a port behind the type are the frame of a name. The name
may be empty, and it need not be text. -/
theorem accepts_name {host m : Bytes} (h : Format.counted.accepts host m) (p : UInt16) :
    format.accepts (.name host p) (AddressType.domainName.toByte :: (m ++ bigEndian p)) := by
  obtain ⟨hlen, rfl⟩ := h
  exact ⟨rfl, by simp [encode_name hlen]⟩

/-- Every first byte is the front of a message: of a frame if it names a type, and
of a refusal else. -/
theorem exists_isMessage (b : UInt8) : ∃ m, format.IsMessage (b :: m) := by
  cases ht : AddressType.ofByte? b with
  | none => exact ⟨[], .inr ⟨_, b, ht, rfl, rfl⟩⟩
  | some t =>
    obtain rfl := AddressType.ofByte?_eq_some_iff.mp ht
    cases t with
    | ipv4 => exact ⟨_, .inl ⟨_, accepts_ipv4 (.replicate _ 0) 0⟩⟩
    | ipv6 => exact ⟨_, .inl ⟨_, accepts_ipv6 (.replicate _ 0) 0⟩⟩
    | domainName =>
      have hempty : Format.counted.accepts [] [0] := ⟨by simp, rfl⟩
      exact ⟨_, .inl ⟨_, accepts_name hempty 0⟩⟩

/-- Reading a host and a port is plain, whichever host it is. -/
theorem plain_host_port {α : Type} {x : Exchange α} (f : α → UInt16 → Address)
    (hx : x.run.Plain) :
    (do return f (← x) (← Exchange.port) : Exchange Address).run.Plain :=
  Exchange.plain_bind hx fun _ => Exchange.plain_bind Exchange.reads_port.plain fun _ => trivial

/-- Reading an address is plain. The cases are those of the type: an unknown one
ends the reading, each of the three others has a host and a port. -/
theorem plain_read : read.run.Plain := by
  refine Exchange.plain_bind Exchange.reads_byte.plain fun b => ?_
  split
  · trivial
  · exact plain_host_port (fun v p => .ip (.v4 (.ofOctets v) p)) (Exchange.reads_block 4).plain
  · exact plain_host_port (fun v p => .ip (.v6 (.ofOctets v) p 0 0))
      (Exchange.reads_block 16).plain
  · exact plain_host_port .name Exchange.reads_counted.plain

/-- What stands between the address type and the port is read first, then the
port. The three types of addresses differ in the first part only, which is the
parameter `x` here. -/
theorem reads_host_port {α : Type} {x : Exchange α} {F : Format α} {b : UInt8}
    {f : α → UInt16 → Address} (hx : x.Reads F) (hrefuses : ∀ e m, ¬ F.refuses e m)
    (h : ∀ a m p, F.accepts a m → format.accepts (f a p) (b :: (m ++ bigEndian p))) :
    (do return f (← x) (← Exchange.port) : Exchange Address).Reads (format.after [b]) := by
  refine .bind (plain_host_port f hx.plain) hx ?_ (fun e m he => absurd he (hrefuses e m)) ?_
  · intro a m ha
    refine .bind (Exchange.plain_bind Exchange.reads_port.plain fun _ => trivial)
      Exchange.reads_port ?_ (by simp [Format.port]) ?_
    · rintro p _ rfl
      refine .pure ?_
      simpa [Format.after] using h a m p ha
    · rintro p _ rfl
      exact ⟨[], .inl ⟨f a p, by simpa [Format.after] using h a m p ha⟩⟩
  · intro a m ha
    exact ⟨bigEndian 0, .inl ⟨f a 0, by simpa [Format.after] using h a m 0 ha⟩⟩

/-- An address is read from its frame, and an unknown type is refused after its
one byte. So what is read determines the frame, and the reader takes nothing
behind it. -/
theorem reads_address : Address.read.Reads format := by
  refine .bind plain_read Exchange.reads_byte ?_ (by simp [Format.byte]) ?_
  · rintro b _ rfl
    -- The type byte decides which host is read.
    cases ht : AddressType.ofByte? b with
    | none => exact .throw ⟨b, ht, rfl, rfl⟩
    | some t =>
      obtain rfl := AddressType.ofByte?_eq_some_iff.mp ht
      cases t with
      | ipv4 =>
        refine reads_host_port (f := fun v p => .ip (.v4 (.ofOctets v) p))
          (Exchange.reads_block 4) (by simp [Format.block]) ?_
        rintro v _ p rfl
        exact accepts_ipv4 v p
      | ipv6 =>
        refine reads_host_port (f := fun v p => .ip (.v6 (.ofOctets v) p 0 0))
          (Exchange.reads_block 16) (by simp [Format.block]) ?_
        rintro v _ p rfl
        exact accepts_ipv6 v p
      | domainName =>
        exact reads_host_port (f := .name) Exchange.reads_counted (by simp [Format.counted])
          fun host m p h => accepts_name h p
  · rintro b _ rfl
    exact exists_isMessage b

end Address

/-! ### Greetings, credentials and requests -/

namespace Negotiation

/-- The greeting that offers the given methods. -/
def offerMessage (offer : Bytes) : Bytes := version :: lengthByte offer :: offer

/-- Greetings. Another version is refused after its one byte. -/
def greetingFormat : Format Bytes where
  accepts offer m := offer.length ≤ 255 ∧ m = offerMessage offer
  refuses e m := ∃ v, v ≠ version ∧ e = .unsupportedVersion v ∧ m = [v]

/-- Reading a greeting is plain. -/
theorem plain_readGreeting : readGreeting.run.Plain := by
  refine Exchange.plain_bind Exchange.reads_byte.plain fun v => ?_
  split
  · trivial
  · exact Exchange.reads_counted.plain

/-- A greeting is read from the version and a counted offer, and another version
is refused after its one byte. What is offered is not looked at here. -/
theorem reads_greeting : readGreeting.Reads greetingFormat := by
  refine .bind plain_readGreeting Exchange.reads_byte ?_ (by simp [Format.byte]) ?_
  · rintro v _ rfl
    by_cases hv : v = version
    · subst hv
      rw [if_neg (by simp)]
      exact Exchange.reads_counted.mono (fun _ _ ⟨hlen, hm⟩ => ⟨hlen, by rw [hm]; rfl⟩)
        (by simp [Format.counted])
    · rw [if_pos hv]
      exact .throw ⟨v, hv, rfl, rfl⟩
  · rintro v _ rfl
    by_cases hv : v = version
    · subst hv
      exact ⟨[0], .inl ⟨[], by simp, rfl⟩⟩
    · exact ⟨[], .inr ⟨_, v, hv, rfl, rfl⟩⟩

/-- The message that carries a user name and a password as bytes. -/
def fieldsMessage (username password : Bytes) : Bytes :=
  passwordVersion :: lengthByte username :: username ++ lengthByte password :: password

end Negotiation

namespace Request

/-- Requests. The third byte is not looked at. A wrong version is refused
after three bytes, an unknown address type after its byte and an unknown
command after the whole message. -/
def format : Format Request where
  accepts q m := ∃ x m', Address.format.accepts q.address m' ∧
    m = version :: q.command.toByte :: x :: m'
  refuses e m :=
    (∃ v c x, v ≠ version ∧ e = .unsupportedVersion v ∧ m = [v, c, x]) ∨
    (∃ c x m', Address.format.refuses e m' ∧ m = version :: c :: x :: m') ∨
    (∃ c x a m', Command.ofByte? c = none ∧ Address.format.accepts a m' ∧
      e = .commandNotSupported c ∧ m = version :: c :: x :: m')

/-- What is done with the command once the address has been read. -/
def withCommand (c : UInt8) (address : Address) : Exchange Request :=
  match Command.ofByte? c with
  | none => throw (.commandNotSupported c)
  | some command => do
    Exchange.note .debug s!"Parsed SOCKS5 request: {command.text} to {address.toText}"
    return { command, address }

/-- What is done with the command reads and sends nothing. -/
theorem plain_withCommand (c : UInt8) (a : Address) : (withCommand c a).run.Plain := by
  unfold withCommand
  split
  · trivial
  · exact Exchange.plain_bind trivial fun _ => trivial

/-- Behind the version and two bytes a frame makes up a message, of one kind or of
the other: the command is known, or it is refused. -/
theorem exists_isMessage (c x : UInt8) {a : Address} {m : Bytes}
    (ha : Address.format.accepts a m) : format.IsMessage (version :: c :: x :: m) := by
  cases hc : Command.ofByte? c with
  | none => exact .inr ⟨_, .inr (.inr ⟨c, x, a, m, hc, ha, rfl, rfl⟩)⟩
  | some command =>
    obtain rfl := Command.ofByte?_eq_some_iff.mp hc
    exact .inl ⟨⟨command, a⟩, x, m, ha, rfl⟩

/-- The command is judged when the whole message is there. A stream that is to be
answered is in step then, whether the command is known or not. -/
theorem reads_withCommand {c x : UInt8} {a : Address} {m : Bytes}
    (ha : Address.format.accepts a m) :
    (withCommand c a).Reads ((format.after [version, c, x]).after m) := by
  have hplain := plain_withCommand c a
  unfold withCommand at hplain ⊢
  cases hc : Command.ofByte? c with
  | none => exact .throw (.inr (.inr ⟨c, x, a, m, hc, ha, rfl, by simp⟩))
  | some command =>
    obtain rfl := Command.ofByte?_eq_some_iff.mp hc
    have hdone : ((format.after [version, command.toByte, x]).after m).accepts ⟨command, a⟩ [] :=
      ⟨x, m, ha, by simp⟩
    rw [hc] at hplain
    refine .bind hplain (Exchange.reads_note (F := ⟨fun _ m => m = [], fun _ _ => False⟩) rfl)
      ?_ (by simp) ?_
    · rintro _ _ rfl
      exact .pure hdone
    · rintro _ _ rfl
      exact ⟨[], .inl ⟨_, hdone⟩⟩

/-- Reading a request is plain. -/
theorem plain_read : read.run.Plain := by
  refine Exchange.plain_bind (Exchange.reads_block 3).plain fun head => ?_
  split
  · trivial
  · exact Exchange.plain_bind Address.plain_read fun a => plain_withCommand _ a

/-- A request is read from its message, with any third byte. The three refusals
come after three bytes, after the type of the address, and after the whole
message; no other bytes are taken for a request. -/
theorem reads_request : read.Reads format := by
  refine .bind plain_read (Exchange.reads_block 3) ?_ (by simp [Format.block]) ?_
  · rintro head _ rfl
    obtain ⟨v, c, x, rfl⟩ := Exchange.exists_eq_three head
    show (if v ≠ version then throw (.unsupportedVersion v)
      else Address.read >>= withCommand c : Exchange Request).Reads (format.after [v, c, x])
    by_cases hv : v = version
    · subst hv
      rw [if_neg (by simp)]
      -- The address is read before the command is looked at, so a bad command is only
      -- noticed behind a good address.
      refine .bind (Exchange.plain_bind Address.plain_read fun a => plain_withCommand c a)
        Address.reads_address (fun a m ha => reads_withCommand ha) ?_ ?_
      · intro e m he
        exact .inr (.inl ⟨c, x, m, he, rfl⟩)
      · intro a m ha
        exact ⟨[], by rw [List.append_nil]; exact exists_isMessage c x ha⟩
    · rw [if_pos hv]
      exact .throw (.inl ⟨v, c, x, hv, rfl, rfl⟩)
  · rintro head _ rfl
    obtain ⟨v, c, x, rfl⟩ := Exchange.exists_eq_three head
    by_cases hv : v = version
    · subst hv
      -- Three bytes of the right version are the front of a message with any address.
      have hzero := Address.accepts_ipv4 (.replicate 4 0) 0
      exact ⟨_, exists_isMessage c x hzero⟩
    · exact ⟨[], .inr ⟨_, .inl ⟨v, c, x, hv, rfl, rfl⟩⟩⟩

end Request

end Socks5
