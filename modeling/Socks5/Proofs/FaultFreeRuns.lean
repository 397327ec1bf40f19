import Socks5.Proofs.ReaderCompleteness
import Socks5.Proofs.Relay

/-!
# `Socks5.Proofs.FaultFreeRuns`: runs that nothing disturbs

A scene is `Flowing` if its stream delivers bytes and waits, does nothing
else, and no deadline is set. Nothing but the bytes matters there, in
whatever pieces they come:

* `IsFlowing.answer_eq`: a wish for bytes is answered from the bytes that
  are still to come.
* `Plain.run_isFlowing`: a dialogue that reads, sends and notes comes to
  its end.
* `run_takes`: a message that is there is taken.
* `Reads.run_isFlowing`: a reader stops as its format says.

`run_bind` takes a run of a composed dialogue apart, and `Plain.run_keeps`
says what reading, sending and noting keep. Both hold of every scene.
-/

set_option autoImplicit false

namespace Socks5

open Net

variable {α β : Type}

/-! ### Bytes of a smooth script -/

/-- What a draw takes of a smooth script when there is no deadline. Segments may
be smaller or larger than the block and waits may stand anywhere; only the bytes
count, and the draw is full just if there are enough of them. -/
theorem Script.draw_of_isSmooth {script : Script} (h : script.IsSmooth) (n clock : Nat) :
    (draw none n clock script).taken = (bytes script).take n ∧
      (draw none n clock script).verdict
        = if n ≤ (bytes script).length then .full else .ended := by
  induction script generalizing n clock with
  | nil => cases n <;> simp [draw, bytes]
  | cons step rest ih =>
    obtain ⟨hstep, hrest⟩ := isSmooth_cons.mp h
    cases n with
    | zero => simp [draw]
    | succ n =>
      cases step with
      | bytes bs =>
        by_cases hlen : n + 1 ≤ bs.length
        · rw [draw, if_pos hlen]
          have hall : n + 1 ≤ (bytes (.bytes bs :: rest)).length := by
            simp only [bytes, List.length_append]
            omega
          exact ⟨by simp [bytes, List.take_append_of_le_length hlen], (if_pos hall).symm⟩
        · -- The segment is used up, and the rest of the block comes after it.
          obtain ⟨htaken, hverdict⟩ := ih hrest (n + 1 - bs.length) clock
          rw [draw, if_neg hlen]
          have htake : (bytes (.bytes bs :: rest)).take (n + 1)
              = bs ++ (bytes rest).take (n + 1 - bs.length) := by
            rw [bytes, List.take_append, List.take_of_length_le (by omega)]
          have hiff : n + 1 ≤ (bytes (.bytes bs :: rest)).length
              ↔ n + 1 - bs.length ≤ (bytes rest).length := by
            simp only [bytes, List.length_append]
            omega
          exact ⟨by rw [htake, ← htaken]; rfl, by simp only [hiff, ← hverdict]; rfl⟩
      | wait seconds => exact ih hrest (n + 1) (clock + seconds)
      | fault e => exact hstep.elim
      | stall => exact hstep.elim

/-- What the end of a block leaves of a smooth script. It follows from what was
taken, since a draw loses nothing. -/
theorem Script.bytes_rest_draw {script : Script} (h : script.IsSmooth) (n clock : Nat) :
    bytes (draw none n clock script).rest = (bytes script).drop n := by
  have hall := taken_append_bytes_rest none n clock script
  rw [(draw_of_isSmooth h n clock).1] at hall
  have hsplit := (List.take_append_drop n (bytes script)).symm
  exact List.append_cancel_left (hall.trans hsplit)

/-- The size that an answer has to prove: a front of `n` bytes has `n` bytes if
there are enough. -/
theorem Shape.size_take {n : Nat} {bs : Bytes} (h : n ≤ bs.length) :
    (bs.take n).toArray.size = n := by
  rw [List.size_toArray, List.length_take, Nat.min_eq_left h]

/-- The answer to a wish for `n` bytes when just the given ones are still to come.
Which error the end of the stream is depends on the shape of the wish. -/
def Shape.answer (shape : Shape) (n : Nat) (bs : Bytes) : Except IoError (Vector UInt8 n) :=
  if h : n ≤ bs.length then
    .ok ⟨(bs.take n).toArray, size_take h⟩
  else .error shape.endError

/-! ### Flowing scenes -/

namespace Scene

/-- Whether the stream delivers bytes and waits only, and no deadline is set. -/
structure IsFlowing (s : Scene) : Prop where
  smooth : s.stream.script.IsSmooth
  free : s.deadline = none

/-- The bytes that are still to come. -/
def ahead (s : Scene) : Bytes := Script.bytes s.stream.script

/-- The scene at the beginning of a stream. -/
def atStart (stream : Stream) : Scene := { stream }

/-- A stream that delivers bytes and waits flows from the beginning. There is no
deadline before anything has set one. -/
theorem isFlowing_atStart {stream : Stream} (h : stream.script.IsSmooth) :
    (atStart stream).IsFlowing := ⟨h, rfl⟩

variable {s : Scene}

/-- No deadline plays a part in a draw. -/
theorem IsFlowing.draw_eq (hs : s.IsFlowing) (n : Nat) :
    s.draw n = s.stream.script.draw none n s.clock := by
  rw [draw, hs.free]

/-- Drawing keeps a scene flowing, so the next wish is answered in the same way.
-/
theorem IsFlowing.drawn (hs : s.IsFlowing) (n : Nat) : (s.drawn (s.draw n)).IsFlowing :=
  ⟨hs.smooth.rest_draw, hs.free⟩

/-- A draw takes its bytes from the front of what is to come. This holds if there
are too few of them, too: then nothing is left. -/
theorem IsFlowing.ahead_drawn (hs : s.IsFlowing) (n : Nat) :
    (s.drawn (s.draw n)).ahead = s.ahead.drop n := by
  rw [hs.draw_eq]
  exact Script.bytes_rest_draw hs.smooth n s.clock

/-- The bytes that a draw takes are the front of what is to come. -/
theorem IsFlowing.taken_eq (hs : s.IsFlowing) (n : Nat) :
    (s.draw n).taken = s.ahead.take n := by
  rw [hs.draw_eq]
  exact (Script.draw_of_isSmooth hs.smooth n s.clock).1

/-- A wish for bytes is answered from the bytes that are still to come, and it is
always answered: neither a stall nor a deadline can keep the reader waiting. -/
theorem IsFlowing.answer_eq (hs : s.IsFlowing) (n : Nat) (shape : Shape) :
    s.answer n shape = some (shape.answer n s.ahead) := by
  have hverdict := (Script.draw_of_isSmooth hs.smooth n s.clock).2
  rw [← hs.draw_eq] at hverdict
  unfold Shape.answer
  by_cases hlen : n ≤ s.ahead.length
  · rw [answer_of_full (hverdict.trans (if_pos hlen)), dif_pos hlen]
    simp only [hs.taken_eq]
  · rw [answer_of_ended (hverdict.trans (if_neg hlen)), dif_neg hlen]

end Scene

/-! ### Plain dialogues -/

namespace Dialogue

/-- A run of a composed dialogue is a run of the first part, and of the second one
if the first ends. A run that is late or stuck never reaches the second part. The
first part has to be plain, since a deadline that it set would go with it. -/
theorem run_bind (connector : Connector) {x : Dialogue α} (hx : x.Plain) (f : α → Dialogue β)
    (s : Scene) :
    run connector (x.bind f) s = match run connector x s with
      | .ended a s' => run connector (f a) s'
      | .late s' => .late s'
      | .stuck s' => .stuck s' := by
  induction x generalizing s with
  | done a => rfl
  | recv n shape k ih =>
    simp only [bind]
    rw [run_recv, run_recv]
    cases s.answer n shape with
    | some r => exact ih r (hx r) _
    | none =>
      dsimp only
      -- No answer: both runs stop here, late or stuck by the same verdict.
      by_cases hlate : (s.draw n).verdict = .late
      · rw [if_pos hlate, if_pos hlate]
      · rw [if_neg hlate, if_neg hlate]
  | send bytes k ih => exact ih _ (hx _) _
  | note entry next ih => exact ih hx _
  -- None of these is plain.
  | within | release | dial | listen | accept => exact hx.elim

/-- What reading, sending and noting keep, a plain dialogue keeps. A plain
dialogue does nothing else, so three steps are all there is to show. -/
theorem Plain.run_keeps (connector : Connector) {P : Scene → Prop}
    (hread : ∀ s n, P s → P (s.drawn (s.draw n)))
    (hsend : ∀ s bytes, P s → P (s.send bytes).2)
    (hnote : ∀ s entry, P s → P (s.mark (.noted entry)))
    {x : Dialogue α} (hx : x.Plain) (s : Scene) (hs : P s) : P (run connector x s).scene := by
  induction x generalizing s with
  | done a => exact hs
  | recv n shape k ih =>
    have hs' := hread s n hs
    rw [run_recv]
    split
    · exact ih _ (hx _) _ hs'
    · split
      · exact hs'
      · exact hs'
  | send bytes k ih => exact ih _ (hx _) _ (hsend s bytes hs)
  | note entry next ih => exact ih hx _ (hnote s entry hs)
  | within | release | dial | listen | accept => exact hx.elim

/-- A plain dialogue that nothing disturbs comes to its end. Nothing is said about
the value: a reader may well end with an error, for instance when the bytes are
too few. -/
theorem Plain.run_isFlowing (connector : Connector) {x : Dialogue α} (hx : x.Plain) {s : Scene}
    (hs : s.IsFlowing) : ∃ a s', run connector x s = .ended a s' ∧ s'.IsFlowing := by
  induction x generalizing s with
  -- Each wish is answered, so the induction never meets a run that is late or stuck.
  | done a => exact ⟨a, s, rfl, hs⟩
  | recv n shape k ih =>
    rw [run_recv, hs.answer_eq]
    exact ih _ (hx _) (hs.drawn n)
  | send bytes k ih => exact ih _ (hx _) ⟨hs.smooth, hs.free⟩
  | note entry next ih => exact ih hx ⟨hs.smooth, hs.free⟩
  | within | release | dial | listen | accept => exact hx.elim

end Dialogue

/-! ### Messages that are there -/

/-- What a party has done that took some bytes and left the given ones. The outlet
is as it was: whoever takes a message sends nothing meanwhile. -/
structure Scene.Took (s s' : Scene) (rest : Bytes) : Prop where
  flowing : s'.IsFlowing
  ahead : s'.ahead = rest
  outlet : s'.stream.outlet = s.stream.outlet

/-- A party that took one message and then another has taken both, and what counts
is what the second one left. -/
theorem Scene.Took.trans {s s' s'' : Scene} {rest rest' : Bytes} (h : s.Took s' rest)
    (h' : s'.Took s'' rest') : s.Took s'' rest' :=
  ⟨h'.flowing, h'.ahead, h'.outlet.trans h.outlet⟩

namespace Dialogue

/-- A block that stands at the front is the answer to a wish for it. The shape of
the wish does not matter, as it is only used for the error at the end. -/
theorem answer_toList_append {n : Nat} (shape : Shape) (v : Vector UInt8 n) (rest : Bytes) :
    shape.answer n (v.toList ++ rest) = .ok v := by
  have hlen : n ≤ (v.toList ++ rest).length := by simp
  rw [Shape.answer, dif_pos hlen, Session.take_toList_append v rest]

/-- A message that is there is taken. The run of `x` from the scene is the run of
`y` from a later one, so a proof about a dialogue can go message by message. -/
theorem run_takes (connector : Connector) {x y : Dialogue α} {m : Bytes} {h : History}
    (hx : Takes x m h y) {s : Scene} (hs : s.IsFlowing) {rest : Bytes}
    (hahead : s.ahead = m ++ rest) :
    ∃ s', run connector x s = run connector y s' ∧ s.Took s' rest := by
  induction hx generalizing s with
  | stop x => exact ⟨s, rfl, hs, hahead, rfl⟩
  | @recv n shape k m h y v hk ih =>
    rw [List.append_assoc] at hahead
    have hdrop : (s.drawn (s.draw n)).ahead = m ++ rest := by
      rw [hs.ahead_drawn, hahead]
      exact List.drop_left' (by simp)
    obtain ⟨s', hrun, htook⟩ := ih (hs.drawn n) hdrop
    refine ⟨s', ?_, htook.flowing, htook.ahead, htook.outlet⟩
    rw [run_recv, hs.answer_eq, hahead, answer_toList_append]
    exact hrun
  | @note entry next y m h hnext ih =>
    have hmark : (s.mark (.noted entry)).IsFlowing := ⟨hs.smooth, hs.free⟩
    obtain ⟨s', hrun, htook⟩ := ih hmark hahead
    exact ⟨s', hrun, htook.flowing, htook.ahead, htook.outlet⟩

end Dialogue

namespace Exchange

open Dialogue

/-- An exchange whose message is there gives its value, and leaves what stands
behind the message to whoever reads next. -/
theorem run_gets (connector : Connector) {x : Exchange α} {m : Bytes} {a : α} (hx : x.Gets m a)
    {s : Scene} (hs : s.IsFlowing) {rest : Bytes} (hahead : s.ahead = m ++ rest) :
    ∃ s', x.run.run connector s = .ended (.ok a) s' ∧ s.Took s' rest := by
  obtain ⟨h, hx⟩ := hx
  exact run_takes connector hx hs hahead

/-- An exchange whose first message is there goes on with its value. It is
`run_takes` for the binding of exchanges, which passes errors on and values to
`f`. -/
theorem run_gets_bind (connector : Connector) {x : Exchange α} {m : Bytes} {a : α}
    (hx : x.Gets m a) (f : α → Exchange β) {s : Scene} (hs : s.IsFlowing) {rest : Bytes}
    (hahead : s.ahead = m ++ rest) :
    ∃ s', (x >>= f).run.run connector s = (f a).run.run connector s' ∧ s.Took s' rest := by
  obtain ⟨h, hx⟩ := hx
  exact run_takes connector (hx.bind (β := Except ProtocolError β) (ExceptT.bindCont f)) hs hahead

/-- An exchange that sends goes on if the message is delivered. A sure outlet
delivers everything and stays sure, and sending takes none of the bytes that are
to come. -/
theorem run_send_bind (connector : Connector) (bytes : Bytes) (f : Unit → Exchange β) {s : Scene}
    (hs : s.IsFlowing) (hsure : s.stream.outlet.Sure) :
    ∃ s', (send bytes >>= f).run.run connector s = (f ()).run.run connector s' ∧
      s.Took s' s.ahead := by
  have hsend := Outlet.send_of_sure hsure bytes
  refine ⟨(s.send bytes).2, ?_, ⟨hs.smooth, hs.free⟩, rfl, ?_⟩
  · show Dialogue.run connector (.send bytes _) s = _
    have hok : (s.send bytes).1 = .ok () := by
      rw [Scene.send, hsend]
    rw [Dialogue.run]
    dsimp only
    rw [hok]
    rfl
  · rw [Scene.send, hsend]
    rfl

/-- What a reader of a format makes of bytes that nothing disturbs: it stops as
the format says, and has taken the front of the bytes. So what a reader does with
a string of bytes can be looked up in its format. -/
theorem Reads.run_isFlowing (connector : Connector) {x : Exchange α} {F : Format α}
    (hx : x.Reads F) {s : Scene} (hs : s.IsFlowing) :
    ∃ r s' h, x.run.run connector s = .ended r s' ∧ s'.history = s.history ++ h ∧ h.IsQuiet ∧
      F.Stops h.receivedBytes (.ended r) ∧ s.ahead = h.receivedBytes ++ s'.ahead := by
  -- That there is an end comes from the stream, and how it looks from the courses of the
  -- reader.
  obtain ⟨r, s', hrun, -⟩ := hx.plain.run_isFlowing connector hs
  obtain ⟨h, hh, hc⟩ := run_course connector True x.run s false (.inr trivial) (by simp [hs.free])
  have hbytes := received_append_unread connector x.run s
  rw [hrun] at hh hc hbytes
  have hhistory : s'.history = s.history ++ h := hh
  obtain ⟨hquiet, hstops⟩ := hx.stops hc
  refine ⟨r, s', h, hrun, hhistory, hquiet, hstops, ?_⟩
  -- What the run has added to the history is what is gone from the stream.
  have hbytes : s'.history.receivedBytes ++ s'.ahead = s.history.receivedBytes ++ s.ahead := hbytes
  rw [hhistory, History.receivedBytes_append, List.append_assoc] at hbytes
  exact (List.append_cancel_left hbytes).symm

end Exchange

end Socks5
