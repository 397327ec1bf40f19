import Socks5.Proofs.FaultFreeRuns

/-!
# `Socks5.Proofs.Codec`: frames and addresses are the same thing

An address and its frame determine each other, as far as an address
travels: flow label and scope are lost, and a name of more than 255 bytes
has no frame.

* `exists_encode_iff`: which addresses have a frame.
* `onBytes_read_encode`: a frame is read back, and nothing behind it is
  touched.
* `encode_of_onBytes_read`: whatever is read is the frame of what it was
  read as. So there is one frame for each address that is read, and an
  address keeps its type: a mapped IPv6 address stays one.
* `encode_read_inverse`: both directions in one statement.
-/

set_option autoImplicit false

namespace Socks5

open Net Dialogue

variable {α : Type}

/-- What an exchange makes of a string of bytes: its result, and the bytes
that it leaves. -/
def Exchange.onBytes (x : Exchange α) (bs : Bytes) : Option (Except ProtocolError α × Bytes) :=
  match x.run.run default (.atStart { script := [.bytes bs] }) with
  | .ended r s => some (r, s.ahead)
  | .late _ | .stuck _ => none

namespace Exchange

/-- A stream of one segment flows. -/
theorem isFlowing_bytes (bs : Bytes) : (Scene.atStart { script := [.bytes bs] }).IsFlowing :=
  Scene.isFlowing_atStart (by simp [Script.IsSmooth, Step.IsSmooth])

/-- A stream of one segment has just that segment ahead of it. -/
theorem ahead_bytes (bs : Bytes) : (Scene.atStart { script := [.bytes bs] }).ahead = bs :=
  List.append_nil bs

/-- A message that stands at the front of the bytes is taken, and the rest is
left. Neither the value nor what is left depends on what the rest is. -/
theorem onBytes_of_gets {x : Exchange α} {m : Bytes} {a : α} (hx : x.Gets m a) (rest : Bytes) :
    x.onBytes (m ++ rest) = some (.ok a, rest) := by
  obtain ⟨s, hrun, htook⟩ := run_gets default hx (isFlowing_bytes _) (ahead_bytes (m ++ rest))
  rw [onBytes, hrun]
  simp only [htook.ahead]

/-- A value that a reader gives is that of a message at the front of the bytes. It
is the other direction of `onBytes_of_gets`: there a message is given and read,
here something was read and the message is found. -/
theorem Reads.of_onBytes {x : Exchange α} {F : Format α} (hx : x.Reads F) {bs rest : Bytes}
    {a : α} (h : x.onBytes bs = some (.ok a, rest)) : ∃ m, F.accepts a m ∧ bs = m ++ rest := by
  obtain ⟨r, s, g, hrun, -, -, hstops, hahead⟩ :=
    hx.run_isFlowing default (isFlowing_bytes bs)
  rw [onBytes, hrun] at h
  cases h
  rw [ahead_bytes] at hahead
  cases hstops with
  | accepted ha => exact ⟨g.receivedBytes, ha, hahead⟩
  | cut _ hbreak =>
    -- A reader that is cut short gives no value.
    cases hbreak

end Exchange

namespace Address

/-- Whether the address is a name that no length byte can frame. -/
def IsOverlong : Address → Prop
  | .ip _ => False
  | .name host _ => maxNameLength < host.length

/-- An address has a frame unless it is an overlong name. IP addresses always have
one, and a name has one as long as a single byte can say its length. -/
theorem exists_encode_iff (a : Address) : (∃ frame, a.encode = .ok frame) ↔ ¬ a.IsOverlong := by
  cases a with
  | ip e =>
    refine iff_of_true ?_ not_false
    cases e <;> exact ⟨_, rfl⟩
  | name host p =>
    by_cases hlen : maxNameLength < host.length
    · refine iff_of_false ?_ (not_not_intro hlen)
      rintro ⟨frame, hframe⟩
      rw [encode, if_pos hlen] at hframe
      cases hframe
    · exact ⟨fun _ => hlen, fun _ => ⟨_, encode_name (Nat.le_of_not_lt hlen) p⟩⟩

/-- An address with a frame is appended as that frame, whatever the buffer holds.
-/
theorem appendTo_of_encode {a : Address} {frame : Bytes} (h : a.encode = .ok frame)
    (buffer : Bytes) : a.appendTo buffer = (buffer ++ frame, .ok ()) := by
  rw [appendTo, h]

/-- Appending succeeds whenever there is a frame. The buffer plays no part in it.
-/
theorem appendTo_eq_ok_iff (a : Address) (buffer : Bytes) :
    (a.appendTo buffer).2 = .ok () ↔ ∃ frame, a.encode = .ok frame := by
  rw [appendTo]
  cases a.encode with
  | ok frame => exact ⟨fun _ => ⟨frame, rfl⟩, fun _ => rfl⟩
  | error e => exact ⟨nofun, nofun⟩

/-- A frame is read as its address, and nothing behind it is touched. Flow label
and scope do not come back, which is what `framed` says. -/
theorem onBytes_read_encode {a : Address} {frame : Bytes} (h : a.encode = .ok frame)
    (rest : Bytes) : read.onBytes (frame ++ rest) = some (.ok a.framed, rest) :=
  Exchange.onBytes_of_gets (gets_address h) rest

/-- Whatever is read as an address is the frame of that address. So two frames
that are read as the same address are the same, and no address has a second
spelling. -/
theorem encode_of_onBytes_read {bs rest : Bytes} {a : Address}
    (h : read.onBytes bs = some (.ok a, rest)) :
    ∃ frame, a.encode = .ok frame ∧ bs = frame ++ rest := by
  obtain ⟨frame, ⟨-, hframe⟩, hbs⟩ := reads_address.of_onBytes h
  exact ⟨frame, hframe, hbs⟩

/-- Writing and reading addresses are inverse to each other. An address that
is no overlong name, and no other, can be written, whatever stands in the
buffer; reading its frame gives the address without flow label and scope,
and leaves the bytes behind it. Bytes that are read as an address are the
frame of that address and what is left of them. -/
theorem encode_read_inverse :
    (∀ a : Address,
      ((∃ frame, a.encode = .ok frame) ↔ ¬ a.IsOverlong) ∧
      (∀ buffer, (a.appendTo buffer).2 = .ok () ↔ ¬ a.IsOverlong) ∧
      ∀ frame, a.encode = .ok frame →
        (∀ buffer, a.appendTo buffer = (buffer ++ frame, .ok ())) ∧
        ∀ rest, read.onBytes (frame ++ rest) = some (.ok a.framed, rest)) ∧
    ∀ bs a rest, read.onBytes bs = some (.ok a, rest) →
      ∃ frame, a.encode = .ok frame ∧ bs = frame ++ rest := by
  refine ⟨fun a => ⟨exists_encode_iff a, ?_, ?_⟩, fun bs a rest => encode_of_onBytes_read⟩
  · intro buffer
    rw [appendTo_eq_ok_iff, exists_encode_iff]
  · intro frame hframe
    exact ⟨appendTo_of_encode hframe, onBytes_read_encode hframe⟩

/-- The address `::ffff:1.2.3.4` with a scope. -/
def mappedAddress : Address := .ip (.v6 ⟨0, 0, 0, 0, 0, 0xffff, 0x0102, 0x0304⟩ 80 0 7)

/-- A mapped address is framed as the IPv6 address that it is, and comes back
without its scope; a name that is no text comes back as it was. -/
theorem encode_read_of_mapped :
    read.onBytes ([4, 0, 0, 0, 0, 0, 0, 0, 0, 0, 0, 255, 255, 1, 2, 3, 4, 0, 80] ++ [9])
        = some (.ok mappedAddress.framed, [9]) ∧
      ∃ frame, (Address.name [0xff, 0xfe] 80).encode = .ok frame ∧
        read.onBytes (frame ++ [9]) = some (.ok (.name [0xff, 0xfe] 80), [9]) := by
  have hmapped : mappedAddress.encode
      = .ok [4, 0, 0, 0, 0, 0, 0, 0, 0, 0, 0, 255, 255, 1, 2, 3, 4, 0, 80] := rfl
  have hname : (Address.name [0xff, 0xfe] 80).encode = .ok [3, 2, 0xff, 0xfe, 0, 80] := rfl
  obtain ⟨-, -, hread⟩ := encode_read_inverse.1 mappedAddress
  obtain ⟨-, -, hread'⟩ := encode_read_inverse.1 (.name [0xff, 0xfe] 80)
  exact ⟨(hread _ hmapped).2 [9], _, hname, (hread' _ hname).2 [9]⟩

end Address

end Socks5
