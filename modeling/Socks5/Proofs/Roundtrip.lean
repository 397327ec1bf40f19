import Socks5.Proofs.Buffer
import Socks5.Proofs.ObserverEquivalence

/-!
# `Socks5.Proofs.Roundtrip`: requests and replies there and back

A reply is written by the server and read by the client, a request the other
way round, and the request's address begins as a text. Reading and writing
undo each other, but for the reserved byte: it is written as zero and not
looked at.

* `Reply.onBytes_read_encode`, `Request.onBytes_read_appendText`: what is
  written is read back, and nothing behind it is touched.
* `Reply.encode_of_onBytes_read`, `Request.encode_of_onBytes_read`: whatever
  is read is the frame of what it was read as, with any reserved byte.
* `SkipsThird.run_veiled`: a reader that does not look at the third byte comes
  to the same end whatever that byte is, errors included.
* `frames_roundtrip`: all of it in one statement.
-/

set_option autoImplicit false

namespace Socks5

open Net Dialogue

variable {α : Type}

/-! ### The reserved byte -/

namespace Exchange

/-- Whether the exchange begins with a block of three bytes and goes on in the
same way whatever the third of them is. -/
def SkipsThird (x : Exchange α) : Prop :=
  ∃ k, x.run = .recv 3 .block k ∧ ∀ v c r r', k (.ok #v[v, c, r]) = k (.ok #v[v, c, r'])

/-- After the third byte the exchange comes to the same end, and leaves the same
bytes. Errors are among these ends, so a message that is refused is refused for
the same reason. -/
theorem SkipsThird.run_veiled (connector : Connector) {x : Exchange α} (hx : x.SkipsThird)
    (hplain : x.run.Plain) {s t : Scene} (hs : s.IsFlowing) (ht : t.IsFlowing)
    (hveiled : s.Veiled t) {v c r r' : UInt8} {rest : Bytes}
    (hsahead : s.ahead = v :: c :: r :: rest) (htahead : t.ahead = v :: c :: r' :: rest) :
    ∃ a s' t', x.run.run connector s = .ended a s' ∧ x.run.run connector t = .ended a t' ∧
      s'.Veiled t' ∧ s'.ahead = t'.ahead := by
  obtain ⟨k, hk, hskip⟩ := hx
  rw [hk] at hplain ⊢
  have hsanswer : s.answer 3 .block = some (.ok #v[v, c, r]) := by
    rw [hs.answer_eq, hsahead]
    exact congrArg some (answer_toList_append .block #v[v, c, r] rest)
  have htanswer : t.answer 3 .block = some (.ok #v[v, c, r']) := by
    rw [ht.answer_eq, htahead]
    exact congrArg some (answer_toList_append .block #v[v, c, r'] rest)
  rw [run_recv_of_answer hsanswer, run_recv_of_answer htanswer, hskip v c r r']
  -- From here on the same dialogue runs on the same bytes.
  have hdrawn : (s.drawn (s.draw 3)).Veiled (t.drawn (t.draw 3)) :=
    (Scene.Veiled.drawn s 3).symm.trans (hveiled.trans (Scene.Veiled.drawn t 3))
  have hahead : (s.drawn (s.draw 3)).ahead = (t.drawn (t.draw 3)).ahead := by
    rw [hs.ahead_drawn, ht.ahead_drawn, hsahead, htahead]
    rfl
  obtain ⟨a, s', t', hrun, hrun', -, -, hveiled', hahead'⟩ :=
    (hplain (.ok #v[v, c, r'])).run_veiled connector (hs.drawn 3) (ht.drawn 3) hdrawn hahead
  exact ⟨a, s', t', hrun, hrun', hveiled', hahead'⟩

/-- What is made of a string of bytes does not depend on its third byte. Two such
strings are read on scenes that show the same, as a reader that skips the byte
tells nothing of it. -/
theorem SkipsThird.onBytes_eq {x : Exchange α} (hx : x.SkipsThird) (hplain : x.run.Plain)
    (v c r r' : UInt8) (rest : Bytes) :
    x.onBytes (v :: c :: r :: rest) = x.onBytes (v :: c :: r' :: rest) := by
  have hs := isFlowing_bytes (v :: c :: r :: rest)
  have ht := isFlowing_bytes (v :: c :: r' :: rest)
  obtain ⟨a, s, t, hrun, hrun', -, hahead⟩ :=
    hx.run_veiled default hplain hs ht ⟨rfl, rfl, rfl, rfl⟩ (ahead_bytes _) (ahead_bytes _)
  rw [onBytes, onBytes, hrun, hrun']
  dsimp only
  rw [hahead]

end Exchange

/-! ### Replies -/

namespace Reply

/-- The reader of replies does not look at the third byte. -/
theorem skipsThird_read : read.SkipsThird := ⟨_, rfl, fun _ _ _ _ => rfl⟩

/-- A reply has bytes just if its address has. -/
theorem encode_of_encode {a : Address} {frame : Bytes} (ha : a.encode = .ok frame)
    (code : ReplyCode) :
    encode ⟨code, a⟩ = .ok ([version, code.toByte, 0] ++ frame) := by
  rw [encode, ha]
  rfl

/-- A reply is read back, and nothing behind it is touched. This holds for all 256
codes, as those that are not assigned are kept. -/
theorem onBytes_read_encode {a : Address} {frame : Bytes} (ha : a.encode = .ok frame) (b : UInt8)
    (rest : Bytes) :
    read.onBytes ([version, (ReplyCode.ofByte b).toByte, 0] ++ frame ++ rest)
      = some (.ok ⟨.ofByte b, a.framed⟩, rest) := by
  rw [ReplyCode.toByte_ofByte]
  exact Exchange.onBytes_of_gets (gets_reply b 0 ha) rest

/-- Whatever is read as a reply is the frame of that reply, but for the reserved
byte. -/
theorem encode_of_onBytes_read {bs rest : Bytes} {q : Reply}
    (h : read.onBytes bs = some (.ok q, rest)) :
    ∃ reserved frame, q.address.encode = .ok frame ∧
      bs = [version, q.code.toByte, reserved] ++ frame ++ rest := by
  obtain ⟨_, ⟨c, reserved, frame, hcode, ⟨-, hframe⟩, rfl⟩, hbs⟩ := reads_reply.of_onBytes h
  refine ⟨reserved, frame, hframe, ?_⟩
  rw [hbs, hcode, ReplyCode.toByte_ofByte]
  rfl

/-- A reply whose address has no frame is an overlong name. It is not sent,
and nothing else happens either. -/
theorem send_of_unframed {a : Address} (ha : ¬ ∃ frame, a.encode = .ok frame) (code : ReplyCode) :
    ∃ n, encode ⟨code, a⟩ = .error (.domainTooLong n) ∧
      ∀ connector s,
        (send ⟨code, a⟩).run.run connector s = .ended (.error (.domainTooLong n)) s := by
  rw [Address.exists_encode_iff, not_not] at ha
  cases a with
  | ip e => exact ha.elim
  | name host p =>
    have hlong : Address.maxNameLength < host.length := ha
    have hencode : encode ⟨code, .name host p⟩ = .error (.domainTooLong host.length) := by
      rw [encode, Address.encode, if_pos hlong]
      rfl
    refine ⟨host.length, hencode, fun connector s => ?_⟩
    unfold send
    rw [hencode]
    rfl

end Reply

/-! ### Requests -/

namespace Request

/-- The reader of requests does not look at the third byte either. -/
theorem skipsThird_read : read.SkipsThird := ⟨_, rfl, fun _ _ _ _ => rfl⟩

/-- A request is read back, whatever its reserved byte is, and nothing behind
it is touched. -/
theorem onBytes_read_encode {a : Address} {frame : Bytes} (ha : a.encode = .ok frame)
    (command : Command) (reserved : UInt8) (rest : Bytes) :
    read.onBytes ([version, command.toByte, reserved] ++ frame ++ rest)
      = some (.ok ⟨command, a.framed⟩, rest) :=
  Exchange.onBytes_of_gets (gets_request command reserved ha) rest

/-- What a client makes of a target is read as that target. A text gives no
address that would lose something on the way, so it is the same one. -/
theorem onBytes_read_appendText {target : String} {a : Address} (h : Address.parse target = .ok a) :
    ∃ added, (∀ buffer, Address.appendText buffer target = (buffer ++ added, .ok ())) ∧
      ∀ command rest, read.onBytes (header command ++ added ++ rest)
        = some (.ok ⟨command, a⟩, rest) := by
  obtain ⟨hframed, frame, hframe⟩ := Address.encode_of_parse h
  refine ⟨frame, fun buffer => ?_, fun command rest => ?_⟩
  · rw [Address.appendText, h]
    exact Address.appendTo_of_encode hframe buffer
  · have hread := onBytes_read_encode hframe command 0 rest
    rwa [hframed] at hread

/-- Whatever is read as a request is the frame of that request, but for the
reserved byte. -/
theorem encode_of_onBytes_read {bs rest : Bytes} {q : Request}
    (h : read.onBytes bs = some (.ok q, rest)) :
    ∃ reserved frame, q.address.encode = .ok frame ∧
      bs = [version, q.command.toByte, reserved] ++ frame ++ rest := by
  obtain ⟨_, ⟨reserved, frame, ⟨-, hframe⟩, rfl⟩, hbs⟩ := reads_request.of_onBytes h
  exact ⟨reserved, frame, hframe, hbs⟩

/-- Which bytes are read as a request for an address that travels unchanged: its
frame behind a header, one for each reserved byte. -/
theorem onBytes_read_eq_iff {a : Address} (ha : a.framed = a) (command : Command)
    (bs rest : Bytes) :
    read.onBytes bs = some (.ok ⟨command, a⟩, rest) ↔
      ∃ reserved frame, a.encode = .ok frame ∧
        bs = [version, command.toByte, reserved] ++ frame ++ rest := by
  refine ⟨encode_of_onBytes_read, ?_⟩
  rintro ⟨reserved, frame, hframe, rfl⟩
  have hread := onBytes_read_encode hframe command reserved rest
  rwa [ha] at hread

end Request

/-! ### Both messages -/

/-- Requests and replies come back from their frames, and their frames from
them.

A reply with any code and any address that has a frame is read back, with the
address without flow label and scope, and what stands behind it is left. A
reply whose address has no frame cannot be written, and sending it does
nothing. Bytes that are read as a reply are its frame, with some reserved
byte, and what is left.

What a client appends to the header of a request is read as the target's
address, and a request is read just from its frames, one for each reserved
byte. Neither reader ever looks at that byte. -/
theorem frames_roundtrip :
    (∀ (b : UInt8) (a : Address),
      ((∃ frame, a.encode = .ok frame) →
        ∃ m, Reply.encode ⟨.ofByte b, a⟩ = .ok m ∧
          ∀ rest, Reply.read.onBytes (m ++ rest) = some (.ok ⟨.ofByte b, a.framed⟩, rest)) ∧
      ((¬ ∃ frame, a.encode = .ok frame) →
        ∃ n, Reply.encode ⟨.ofByte b, a⟩ = .error (.domainTooLong n) ∧
          ∀ connector s, (Reply.send ⟨.ofByte b, a⟩).run.run connector s
            = .ended (.error (.domainTooLong n)) s)) ∧
    (∀ bs q rest, Reply.read.onBytes bs = some (.ok q, rest) →
      ∃ reserved frame, q.address.encode = .ok frame ∧
        bs = [version, q.code.toByte, reserved] ++ frame ++ rest) ∧
    (∀ (target : String) (a : Address), Address.parse target = .ok a →
      ∃ added, (∀ buffer, Address.appendText buffer target = (buffer ++ added, .ok ())) ∧
        ∀ command rest, Request.read.onBytes ([version, command.toByte, 0] ++ added ++ rest)
          = some (.ok ⟨command, a⟩, rest)) ∧
    (∀ (command : Command) (a : Address), a.framed = a → ∀ bs rest,
      Request.read.onBytes bs = some (.ok ⟨command, a⟩, rest) ↔
        ∃ reserved frame, a.encode = .ok frame ∧
          bs = [version, command.toByte, reserved] ++ frame ++ rest) ∧
    (Reply.read.SkipsThird ∧ Request.read.SkipsThird) ∧
    ∀ v c r r' rest,
      Reply.read.onBytes (v :: c :: r :: rest) = Reply.read.onBytes (v :: c :: r' :: rest) ∧
        Request.read.onBytes (v :: c :: r :: rest)
          = Request.read.onBytes (v :: c :: r' :: rest) := by
  refine ⟨fun b a => ⟨?_, ?_⟩, ?_, ?_, ?_, ?_, ?_⟩
  · rintro ⟨frame, hframe⟩
    exact ⟨_, Reply.encode_of_encode hframe _, Reply.onBytes_read_encode hframe b⟩
  · intro hunframed
    -- The frame is made before anything is sent, so the failure leaves the scene as it
    -- is.
    exact Reply.send_of_unframed hunframed _
  · intro bs q rest
    exact Reply.encode_of_onBytes_read
  · intro target a
    exact Request.onBytes_read_appendText
  · intro command a ha
    exact Request.onBytes_read_eq_iff ha command
  · exact ⟨Reply.skipsThird_read, Request.skipsThird_read⟩
  · intro v c r r' rest
    exact ⟨Reply.skipsThird_read.onBytes_eq Reply.plain_read v c r r' rest,
      Request.skipsThird_read.onBytes_eq Request.plain_read v c r r' rest⟩

/-- A request for 127.0.0.1:80 is read with any reserved byte. A reply with a
code without a meaning keeps it, and none is sent for a name of 256 bytes. -/
theorem frames_roundtrip_of_unassigned :
    Request.read.onBytes [5, 1, 77, 1, 127, 0, 0, 1, 0, 80, 9]
        = some (.ok ⟨.connect, .ip (.v4 (.ofOctets #v[127, 0, 0, 1]) 80)⟩, [9]) ∧
      (∃ m, Reply.encode ⟨.ofByte 200, Address.mappedAddress⟩ = .ok m ∧
        Reply.read.onBytes (m ++ [9])
          = some (.ok ⟨.unassigned 200, Address.mappedAddress.framed⟩, [9])) ∧
      ∃ n, Reply.encode ⟨.ofByte 200, .name (List.replicate 256 97) 80⟩
        = .error (.domainTooLong n) := by
  obtain ⟨hreply, -, -, hrequest, -⟩ := frames_roundtrip
  refine ⟨?_, ?_, ?_⟩
  · exact (hrequest .connect (.ip (.v4 (.ofOctets #v[127, 0, 0, 1]) 80)) rfl _ _).mpr
      ⟨77, [1, 127, 0, 0, 1, 0, 80], rfl, rfl⟩
  · obtain ⟨m, hm, hread⟩ := (hreply 200 Address.mappedAddress).1 ⟨_, rfl⟩
    exact ⟨m, hm, hread [9]⟩
  · have hlong : ¬ ∃ frame, (Address.name (List.replicate 256 97) 80).encode = .ok frame := by
      rw [Address.exists_encode_iff, not_not]
      exact Nat.lt_of_lt_of_eq (by decide) List.length_replicate.symm
    obtain ⟨n, hn, -⟩ := (hreply 200 _).2 hlong
    exact ⟨n, hn⟩

end Socks5
