import Socks5.Client
import Socks5.Proofs.Negotiation
import Socks5.Session

/-!
# `Socks5.Proofs.ReaderCompleteness`: what a reader makes of a message that is there

`Dialogue.Takes` follows a dialogue through bytes that are there, without
asking where they come from. `Exchange.Gets x m a` says that the exchange
`x` takes the message `m` and gives `a`. It is the other half of
`Exchange.Reads`: there no reader takes anything but a message of its
format, here it takes every message.

* `attend_takes`, `converse_takes`: both parties of a session follow, the
  server in its inbox and the client, once the server has left, in the
  outbox.
* `gets_address`, `gets_greeting`, `gets_credentials`, `gets_request`,
  `gets_reply`: the readers take what the writers write.
-/

set_option autoImplicit false

namespace Socks5

open Net

variable {α β : Type}

namespace Dialogue

/-- A dialogue takes bytes and writes to the log, and then goes on as
another. -/
inductive Takes : Dialogue α → Bytes → History → Dialogue α → Prop where
  | stop (x : Dialogue α) : Takes x [] [] x
  | recv {n : Nat} {shape : Shape} {k : Except IoError (Vector UInt8 n) → Dialogue α}
      {m : Bytes} {h : History} {y : Dialogue α} (v : Vector UInt8 n)
      (hk : Takes (k (.ok v)) m h y) : Takes (.recv n shape k) (v.toList ++ m) h y
  | note {entry : Log.Entry} {next y : Dialogue α} {m : Bytes} {h : History}
      (hnext : Takes next m h y) : Takes (.note entry next) m (.noted entry :: h) y

/-- Two stretches of a dialogue make one: the bytes they take stand one after the
other, and so do their entries in the history. Induction on the first stretch; the
second one is only appended where the first stops. -/
theorem Takes.trans {x y z : Dialogue α} {m m' : Bytes} {h h' : History} (hx : Takes x m h y)
    (hy : Takes y m' h' z) : Takes x (m ++ m') (h ++ h') z := by
  induction hx with
  | stop x => exact hy
  | recv v hk ih =>
    rw [List.append_assoc]
    exact .recv v (ih hy)
  | note hnext ih => exact .note (ih hy)

/-- A stretch of a dialogue is one of any dialogue that goes on from its end. `f`
is not called before the first part is done, so the same bytes are taken and the
same entries made. -/
theorem Takes.bind {x y : Dialogue α} {m : Bytes} {h : History} (hx : Takes x m h y)
    (f : α → Dialogue β) : Takes (x.bind f) m h (y.bind f) := by
  induction hx with
  | stop x => exact .stop _
  | recv v hk ih => exact .recv v ih
  | note hnext ih => exact .note ih

end Dialogue

/-! ### Both parties of a session -/

namespace Session

open Dialogue

/-- A block that stands at the front is the one that is taken. A block of `n`
bytes is a vector and a message is a list, so the two only agree after `toList`;
`h` is the proof of the length that the server and the client carry along. -/
theorem take_toList_append {n : Nat} (v : Vector UInt8 n) (rest : Bytes)
    (h : ((v.toList ++ rest).take n).toArray.size = n) :
    (⟨((v.toList ++ rest).take n).toArray, h⟩ : Vector UInt8 n) = v := by
  apply Vector.toList_inj.mp
  show (v.toList ++ rest).take n = v.toList
  rw [List.take_append_of_le_length (by simp), List.take_of_length_le (by simp)]

/-- The server takes what is in its inbox. It is not asked when the bytes came in:
all of the message is there, so the dialogue goes through it without a turn for
the client. -/
theorem attend_takes (connector : Connector) {x y : Dialogue β} {m : Bytes} {h : History}
    (hx : Takes x m h y) (d : Desk β) (rest : Bytes) (hinbox : d.inbox = m ++ rest) :
    attend connector x d
      = attend connector y { d with inbox := rest, history := d.history ++ h } := by
  -- The history grows as the dialogue goes, so the desk varies.
  induction hx generalizing d with
  | stop x =>
    obtain ⟨clock, inbox⟩ := d
    obtain rfl : inbox = rest := hinbox
    simp
  | @recv n shape k m h y v hk ih =>
    have hlen : n ≤ d.inbox.length := by
      rw [hinbox]
      simp
    have hdrop : d.inbox.drop n = m ++ rest := by
      rw [hinbox, List.append_assoc]
      exact List.drop_left' (by simp)
    rw [attend, dif_pos hlen]
    have hblock : ∀ hsize, (⟨(d.inbox.take n).toArray, hsize⟩ : Vector UInt8 n) = v := by
      rw [hinbox, List.append_assoc]
      exact take_toList_append v (m ++ rest)
    rw [hblock]
    exact ih { d with inbox := d.inbox.drop n } hdrop
  | @note entry next y m h hnext ih =>
    rw [attend, ih (d.mark (.noted entry)) hinbox]
    simp [Desk.mark]

/-- A client that waits for bytes gives the server its turn, and takes the bytes
if they are there then. As the outbox has enough of them, the client need not wait
until the server gives up, which is what `expire` is for. -/
theorem converse_recv (connector : Connector) {n : Nat} {shape : Shape}
    {k : Except IoError (Vector UInt8 n) → Dialogue α} {r r' : Stand β × Desk β}
    (v : Vector UInt8 n) (rest : Bytes) (hturn : turn connector r = r')
    (houtbox : r'.2.outbox = v.toList ++ rest) :
    converse connector (.recv n shape k) r
      = converse connector (k (.ok v)) (r'.1, { r'.2 with outbox := rest }) := by
  have hlen : n ≤ r'.2.outbox.length := by
    rw [houtbox]
    simp
  have hexpire : (if r'.2.outbox.length < n then expire connector r' else r') = r' :=
    if_neg (Nat.not_lt.mpr hlen)
  have hdrop : r'.2.outbox.drop n = rest := by
    rw [houtbox]
    exact List.drop_left' (by simp)
  have hblock : ∀ hsize, (⟨(r'.2.outbox.take n).toArray, hsize⟩ : Vector UInt8 n) = v := by
    rw [houtbox]
    exact take_toList_append v rest
  rw [converse]
  simp only [hturn, hexpire]
  rw [dif_pos hlen, hblock, hdrop]

/-- A client whose server has left takes what is in the outbox. A server that has
left does nothing in its turn, so the outbox stays as it is between two reads. -/
theorem converse_takes (connector : Connector) {x y : Dialogue α} {m : Bytes} {h : History}
    (hx : Takes x m h y) (b : β) (d : Desk β) (rest : Bytes) (houtbox : d.outbox = m ++ rest) :
    converse connector x (.left b, d)
      = converse connector y (.left b, { d with outbox := rest, history := d.history ++ h }) := by
  induction hx generalizing d with
  | stop x =>
    obtain ⟨clock, inbox, outbox⟩ := d
    obtain rfl : outbox = rest := houtbox
    simp
  | @recv n shape k m h y v hk ih =>
    rw [List.append_assoc] at houtbox
    rw [converse_recv connector v (m ++ rest) (r := (.left b, d)) rfl houtbox]
    exact ih { d with outbox := m ++ rest } rfl
  | @note entry next y m h hnext ih =>
    rw [converse, ih (d.mark (.noted entry)) houtbox]
    simp [Desk.mark]

end Session

/-! ### Readers -/

namespace Exchange

open Dialogue

/-- The exchange takes the message and gives the value. The history is left open,
since what a reader writes to the log is no part of its format. -/
def Gets (x : Exchange α) (m : Bytes) (a : α) : Prop :=
  ∃ h, Takes x.run m h (.done (.ok a))

/-- A value that is there already costs no bytes. -/
theorem Gets.pure (a : α) : Gets (Pure.pure a) [] a := ⟨[], .stop _⟩

/-- Readers in sequence take their messages in sequence, the second one as the
first one's value says. This is what the readers below are put together with. -/
theorem Gets.bind {x : Exchange α} {f : α → Exchange β} {m m' : Bytes} {a : α} {b : β}
    (hx : Gets x m a) (hf : Gets (f a) m' b) : Gets (x >>= f) (m ++ m') b := by
  obtain ⟨h, hx⟩ := hx
  obtain ⟨h', hf⟩ := hf
  exact ⟨h ++ h', (hx.bind (β := Except ProtocolError β) _).trans hf⟩

/-- A value that is computed at the end costs no bytes. It is `Gets.bind` without
the empty message that it would leave behind. -/
theorem Gets.bind_pure {x : Exchange α} {m : Bytes} {a : α} (hx : Gets x m a) (f : α → β) :
    Gets (x >>= fun a => Pure.pure (f a)) m (f a) := by
  have h := hx.bind (f := fun a => Pure.pure (f a)) (Gets.pure (f a))
  rwa [List.append_nil] at h

/-- A byte is read from itself. -/
theorem gets_byte (b : UInt8) : Gets byte [b] b := ⟨[], .recv #v[b] (.stop _)⟩

/-- A port is read from its two bytes, the high one first. Here `bigEndian` and
`ofBigEndian` meet, so that no reader further up has to know the order. -/
theorem gets_port (p : UInt16) : Gets port (bigEndian p) p := by
  refine ⟨[], ?_⟩
  have htake : Takes port.run (#v[(p >>> 8).toUInt8, p.toUInt8].toList ++ []) []
      (.done (.ok (ofBigEndian (p >>> 8).toUInt8 p.toUInt8))) := .recv _ (.stop _)
  rwa [ofBigEndian_bigEndian, List.append_nil] at htake

/-- A block is read from its bytes. -/
theorem gets_block {n : Nat} (v : Vector UInt8 n) : Gets (block n) v.toList v := by
  have htake : Takes (block n).run (v.toList ++ []) [] (.done (.ok v)) := .recv v (.stop _)
  rw [List.append_nil] at htake
  exact ⟨[], htake⟩

/-- Writing to the log takes no bytes. -/
theorem gets_note (level : Log.Level) (text : String) : Gets (note level text) [] () :=
  ⟨_, .note (.stop _)⟩

/-- A string is read from its length byte and its bytes. It must not be longer
than the byte can say: a longer one would be framed with its length modulo 256. -/
theorem gets_counted {bs : Bytes} (h : bs.length ≤ 255) :
    Gets counted (lengthByte bs :: bs) bs := by
  let v : Vector UInt8 (lengthByte bs).toNat := ⟨bs.toArray, by
    rw [List.size_toArray, toNat_lengthByte h]⟩
  exact (gets_byte (lengthByte bs)).bind ((gets_block v).bind_pure Vector.toList)

end Exchange

open Exchange

/-- What stands between the address type and the port is read first, then the
port. All three kinds of addresses end like this, and only `x` and `f` differ. -/
theorem gets_host_port {x : Exchange α} {m : Bytes} {a : α} (hx : Gets x m a)
    (f : α → UInt16 → Address) (p : UInt16) :
    Gets (do return f (← x) (← port)) (m ++ bigEndian p) (f a p) :=
  hx.bind ((gets_port p).bind_pure (f a))

/-- An address is read from its frame. What comes back is `framed`: flow label and
scope are not in the frame. That there is a frame at all rules out the names that
are too long. -/
theorem gets_address {a : Address} {frame : Bytes} (ha : a.encode = .ok frame) :
    Gets Address.read frame a.framed := by
  cases a with
  | ip e =>
    cases e with
    | v4 a p =>
      cases ha
      have hblock := gets_block (n := 4) ⟨a.octets.toArray, rfl⟩
      exact (gets_byte AddressType.ipv4.toByte).bind
        (gets_host_port hblock (fun v p => .ip (.v4 (.ofOctets v) p)) p)
    | v6 a p flow scope =>
      cases ha
      have hblock := gets_block (n := 16) ⟨a.octets.toArray, rfl⟩
      have hread : Gets Address.read (AddressType.ipv6.toByte :: a.octets ++ bigEndian p)
          (.ip (.v6 (.ofOctets ⟨a.octets.toArray, rfl⟩) p 0 0)) :=
        (gets_byte AddressType.ipv6.toByte).bind
          (gets_host_port hblock (fun v p => .ip (.v6 (.ofOctets v) p 0 0)) p)
      rw [IPv6.ofOctets_octets] at hread
      exact hread
  | name host p =>
    -- A longer name would have no frame.
    have hlen : host.length ≤ 255 := by
      by_cases hlen : host.length ≤ 255
      · exact hlen
      · rw [Address.encode, if_pos (by simp [Address.maxNameLength]; omega)] at ha
        cases ha
    rw [Address.encode_name hlen] at ha
    cases ha
    exact (gets_byte AddressType.domainName.toByte).bind
      (gets_host_port (gets_counted hlen) .name p)

/-- A greeting is read from its message, whatever methods it offers, also none. -/
theorem gets_greeting {offer : Bytes} (h : offer.length ≤ 255) :
    Gets Negotiation.readGreeting (Negotiation.offerMessage offer) offer :=
  (gets_byte version).bind (gets_counted h)

/-- Credentials are read from their message. Nothing is asked of the two fields
but their lengths: they may be empty, and need not be text. -/
theorem gets_credentials {username password : Bytes} (hu : username.length ≤ 255)
    (hp : password.length ≤ 255) :
    Gets Negotiation.readCredentials (Negotiation.fieldsMessage username password)
      (.ok (username, password)) :=
  (gets_byte Negotiation.passwordVersion).bind
    ((gets_counted hu).bind ((gets_counted hp).bind_pure fun password =>
      (.ok (username, password) : Except UInt8 (Bytes × Bytes))))

/-- A request is read from its message, whatever the reserved byte is. The reader
of a request does not look at that byte, so a client may send what it likes there.
-/
theorem gets_request (command : Command) (reserved : UInt8) {a : Address} {frame : Bytes}
    (ha : a.encode = .ok frame) :
    Gets Request.read ([version, command.toByte, reserved] ++ frame) ⟨command, a.framed⟩ := by
  have hcommand : Gets (Request.withCommand command.toByte a.framed) [] ⟨command, a.framed⟩ := by
    unfold Request.withCommand
    rw [Command.ofByte?_toByte]
    exact (gets_note _ _).bind (Gets.pure _)
  have hrest := (gets_address ha).bind hcommand
  rw [List.append_nil] at hrest
  exact (gets_block #v[version, command.toByte, reserved]).bind hrest

/-- A reply is read from its message, whatever the reserved byte is. Codes that
are not assigned are read as well, as `ReplyCode.ofByte` has a value for each
byte. -/
theorem gets_reply (code reserved : UInt8) {a : Address} {frame : Bytes}
    (ha : a.encode = .ok frame) :
    Gets Reply.read ([version, code, reserved] ++ frame) ⟨.ofByte code, a.framed⟩ :=
  (gets_block #v[version, code, reserved]).bind
    ((gets_address ha).bind_pure (Reply.mk (.ofByte code)))

end Socks5
