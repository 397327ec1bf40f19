import Mathlib.Data.List.Forall2
import Socks5.Proofs.Agreement
import Socks5.Proofs.Codec

/-!
# `Socks5.Proofs.Buffer`: many addresses in one buffer

Addresses are appended to a buffer one after the other, and some of their
texts are refused. `appendAll` makes the calls, `readAll` reads from a
string of bytes until an address cannot be read.

* `appendText_cases`: a call appends one frame or leaves the buffer alone.
* `readAll_flatten`: frames that stand next to each other are read one by
  one, whatever addresses they are of.
* `appendAll_atomic`: so the buffer holds what it held before and the frames
  of the accepted texts, and just these addresses are read from it.

No call looks at what the buffer holds, so there is no condition on it.
-/

set_option autoImplicit false

namespace Socks5.Address

open Net

/-! ### Appending -/

/-- Appends the addresses that the texts give to one buffer, in turn. -/
def appendAll (buffer : Bytes) : List String → Bytes × List (Except ProtocolError Unit)
  | [] => (buffer, [])
  | text :: texts =>
    let (buffer, r) := appendText buffer text
    let (buffer, rs) := appendAll buffer texts
    (buffer, r :: rs)

/-- The addresses of the texts that give one. -/
def accepted (texts : List String) : List Address :=
  texts.filterMap fun text => (parse text).toOption

/-- Whether the byte strings are the frames of the addresses, in order. -/
def Framed (as : List Address) (frames : List Bytes) : Prop :=
  List.Forall₂ (fun a frame => a.encode = .ok frame) as frames

/-- A text that gives an address adds it at the front. -/
theorem accepted_cons_of_ok {text : String} {a : Address} (h : parse text = .ok a)
    (texts : List String) : accepted (text :: texts) = a :: accepted texts := by
  simp [accepted, h, Except.toOption]

/-- A text that gives none adds nothing, whatever the error is. -/
theorem accepted_cons_of_error {text : String} {e : ProtocolError} (h : parse text = .error e)
    (texts : List String) : accepted (text :: texts) = accepted texts := by
  simp [accepted, h, Except.toOption]

/-- A call appends the frame of the address that the text gives. If the text gives
none, the call returns the same error and the buffer is what it was. There is no
third case: an address that was read from a text is no overlong name, so it has a
frame. -/
theorem appendText_cases (buffer : Bytes) (text : String) :
    (∃ a frame, parse text = .ok a ∧ a.encode = .ok frame ∧
      appendText buffer text = (buffer ++ frame, .ok ())) ∨
    ∃ e, parse text = .error e ∧ appendText buffer text = (buffer, .error e) := by
  cases hparse : parse text with
  | ok a =>
    obtain ⟨-, frame, hframe⟩ := encode_of_parse hparse
    refine .inl ⟨a, frame, rfl, hframe, ?_⟩
    simp [appendText, hparse, appendTo, hframe]
  | error e =>
    refine .inr ⟨e, rfl, ?_⟩
    simp [appendText, hparse]

/-- The buffer grows by the frames of the accepted texts, and each call returns
what reading its text returns. Induction on the texts, for every buffer, since a
call that succeeds leaves the next one a longer buffer. -/
theorem appendAll_eq (buffer : Bytes) (texts : List String) :
    ∃ frames, Framed (accepted texts) frames ∧
      appendAll buffer texts
        = (buffer ++ frames.flatten, texts.map fun text => (parse text).map fun _ => ()) := by
  induction texts generalizing buffer with
  | nil => exact ⟨[], .nil, by simp [appendAll]⟩
  | cons text texts ih =>
    obtain ⟨a, frame, hparse, hframe, happend⟩ | ⟨e, hparse, happend⟩ :=
      appendText_cases buffer text
    · obtain ⟨frames, hframes, hrest⟩ := ih (buffer ++ frame)
      refine ⟨frame :: frames, ?_, ?_⟩
      · rw [accepted_cons_of_ok hparse]
        exact .cons hframe hframes
      · simp [appendAll, happend, hrest, hparse, Except.map]
    · -- The next call finds the buffer as this one found it.
      obtain ⟨frames, hframes, hrest⟩ := ih buffer
      refine ⟨frames, ?_, ?_⟩
      · rw [accepted_cons_of_error hparse]
        exact hframes
      · simp [appendAll, happend, hrest, hparse, Except.map]

/-! ### Reading -/

/-- Every frame has a byte for the address type. So reading frames from a buffer
makes it shorter each time, and comes to an end. -/
theorem length_pos_of_encode {a : Address} {frame : Bytes} (h : a.encode = .ok frame) :
    0 < frame.length := by
  cases a with
  | ip e =>
    cases e <;> cases h <;> simp
  | name host p =>
    rw [encode] at h
    split at h <;> cases h
    simp

/-- Reading an address takes at least one byte. This is why `readAll` comes to an
end. -/
theorem length_lt_of_onBytes_read {bs rest : Bytes} {a : Address}
    (h : read.onBytes bs = some (.ok a, rest)) : rest.length < bs.length := by
  obtain ⟨frame, hframe, rfl⟩ := encode_of_onBytes_read h
  have hpos := length_pos_of_encode hframe
  simp
  omega

/-- Reads addresses until one cannot be read. Gives them with the error that
ended it and the bytes that were left then. -/
def readAll (bs : Bytes) : List Address × Option ProtocolError × Bytes :=
  match _h : read.onBytes bs with
  | some (.ok a, rest) =>
    let (as, e, left) := readAll rest
    (a :: as, e, left)
  | some (.error e, rest) => ([], some e, rest)
  | none => ([], none, bs)
termination_by bs.length
decreasing_by exact length_lt_of_onBytes_read _h

/-- An address that is read is followed by those that are read from the rest. This
is the equation of `readAll` without its proof that the rest is shorter. -/
theorem readAll_of_ok {bs rest : Bytes} {a : Address}
    (h : read.onBytes bs = some (.ok a, rest)) :
    readAll bs = (a :: (readAll rest).1, (readAll rest).2) := by
  rw [readAll]
  split
  · rename_i a' rest' h'
    cases h.symm.trans h'
    rfl
  · rename_i h'
    cases h.symm.trans h'
  · rename_i h'
    cases h.symm.trans h'

/-- The first address that cannot be read ends the reading, and the bytes it left
are what is left over all. -/
theorem readAll_of_error {bs rest : Bytes} {e : ProtocolError}
    (h : read.onBytes bs = some (.error e, rest)) : readAll bs = ([], some e, rest) := by
  rw [readAll]
  split
  · rename_i h'
    cases h.symm.trans h'
  · rename_i h'
    cases h.symm.trans h'
    rfl
  · rename_i h'
    cases h.symm.trans h'

/-- The end of the bytes is a truncated message, not an end of its own: the reader
has no way to tell that no further address was meant to come. -/
theorem readAll_nil : readAll [] = ([], some (.truncated IoKind.unexpectedEof.error), []) :=
  readAll_of_error rfl

/-- Frames next to each other are read one by one, and nothing is left. No
separator is needed, as a frame says itself where it ends. -/
theorem readAll_flatten {as : List Address} {frames : List Bytes} (h : Framed as frames) :
    readAll frames.flatten
      = (as.map framed, some (.truncated IoKind.unexpectedEof.error), []) := by
  induction h with
  | nil => exact readAll_nil
  | @cons a frame as frames hframe _ ih =>
    -- Whatever stands behind a frame is not touched when it is read.
    have hread : read.onBytes (frame ++ frames.flatten) = some (.ok a.framed, frames.flatten) :=
      onBytes_read_encode hframe frames.flatten
    rw [List.flatten_cons, readAll_of_ok hread, ih]
    rfl

/-- What a text gives is read back as it is. An address that comes from a text has
neither flow label nor scope, which are all that a frame leaves out. -/
theorem map_framed_accepted (texts : List String) :
    (accepted texts).map framed = accepted texts := by
  induction texts with
  | nil => rfl
  | cons text texts ih =>
    cases hparse : parse text with
    | ok a => rw [accepted_cons_of_ok hparse, List.map_cons, (encode_of_parse hparse).1, ih]
    | error e => rw [accepted_cons_of_error hparse, ih]

/-- Appending is atomic, and what was appended needs no separator. A call on
any buffer appends the frame of the address that its text gives, or returns
the error that reading the text gives and leaves the buffer as it was. After
any number of calls the buffer holds what it held before and the frames of
the accepted texts in order. Reading addresses from the part behind what it
held gives these addresses, and then a truncated message with nothing left. -/
theorem appendAll_atomic (buffer : Bytes) (texts : List String) :
    (∀ (buffer : Bytes) (text : String),
      match parse text with
      | .ok a => ∃ frame, a.encode = .ok frame ∧
          appendText buffer text = (buffer ++ frame, .ok ())
      | .error e => appendText buffer text = (buffer, .error e)) ∧
    (∃ frames, Framed (accepted texts) frames ∧
      appendAll buffer texts
        = (buffer ++ frames.flatten, texts.map fun text => (parse text).map fun _ => ())) ∧
    readAll ((appendAll buffer texts).1.drop buffer.length)
      = (accepted texts, some (.truncated IoKind.unexpectedEof.error), []) := by
  refine ⟨?_, appendAll_eq buffer texts, ?_⟩
  · intro buffer text
    obtain ⟨a, frame, hparse, hframe, happend⟩ | ⟨e, hparse, happend⟩ :=
      appendText_cases buffer text
    · rw [hparse]
      exact ⟨frame, hframe, happend⟩
    · rw [hparse]
      exact happend
  · obtain ⟨frames, hframes, happend⟩ := appendAll_eq buffer texts
    rw [happend, List.drop_left, readAll_flatten hframes, map_framed_accepted]

end Socks5.Address
