import Socks5.Log.Entry
import Socks5.Script

/-!
# `Socks5.Relay`: moving bytes between two streams

A relay has two lanes, one for each direction. Whenever something
happens, the first lane moves on as far as it goes, then the second. A
lane that reaches the end of its source shuts its sink down and is done;
the first error of either lane ends the relay, interruptions apart. That
lanes move so, and in which chunks, are rules of `Socks5.Runtime`.
-/

set_option autoImplicit false

namespace Socks5.Relay

open Net

/-- How many bytes a lane has taken when its sink refuses one after the given
number. A chunk is taken before any of its bytes are written, so the chunk with
the refused byte is gone as a whole. -/
def takenBefore (delivered : Nat) : Nat := (delivered / chunkSize + 1) * chunkSize

/-- The refused byte itself is always among the bytes that are gone: its chunk was
taken before it was tried. -/
theorem lt_takenBefore (delivered : Nat) : delivered < takenBefore delivered := by
  unfold takenBefore chunkSize
  omega

/-- One direction of a relay. -/
structure Lane where
  /-- What still happens at the source. -/
  source : Script
  sink : Outlet
  /-- Whether bytes were written to the sink and not yet flushed. -/
  unflushed : Bool := false
  /-- The bytes delivered to the sink. -/
  moved : Bytes := []
  /-- Whether the sink has been shut down. -/
  closed : Bool := false
  deriving Repr, DecidableEq, Inhabited

/-- How far a lane got. -/
inductive Motion where
  | finished
  | waiting
  | failed (e : IoError)
  deriving Repr, DecidableEq, Inhabited

namespace Lane

/-- Stops until the source goes on. Bytes written before are flushed. -/
def pause (l : Lane) : Lane × Motion :=
  match l.unflushed, l.sink.flush with
  | true, .error e => (l, .failed e)
  | _, _ => ({ l with unflushed := false }, .waiting)

/-- Stops for good at the end of the source. -/
def finish (l : Lane) : Lane × Motion :=
  if l.closed then (l, .finished)
  else
    match l.sink.flush with
    | .error e => (l, .failed e)
    | .ok () => ({ l with unflushed := false, closed := true }, .finished)

/-- Moves on through the given steps of the source, as far as it goes. -/
def moveThrough : Script → Lane → Lane × Motion
  | [], l => { l with source := [] }.finish
  | .bytes bs :: rest, l =>
    match l.sink.write bs with
    | (sent, r, sink) =>
      let l := { l with
        sink
        moved := l.moved ++ sent
        unflushed := l.unflushed || !sent.isEmpty }
      match r with
      | .ok () => moveThrough rest l
      | .error e =>
        ({ l with source := .bytes (bs.drop (takenBefore sent.length)) :: rest }, .failed e)
  | .wait 0 :: rest, l => moveThrough rest l
  | .wait (n + 1) :: rest, l => { l with source := .wait (n + 1) :: rest }.pause
  | .fault e :: rest, l =>
    if e.isInterruption then moveThrough rest l else ({ l with source := rest }, .failed e)
  | .stall :: rest, l => { l with source := .stall :: rest }.pause

/-- Moves on as far as the lane goes. -/
def advance (l : Lane) : Lane × Motion := moveThrough l.source l

/-- The seconds until the source goes on. -/
def delay? (l : Lane) : Option Nat :=
  match l.source with
  | .wait n :: _ => some n
  | _ => none

/-- The lane after some seconds. A wait that is over is gone. -/
def elapse (seconds : Nat) (l : Lane) : Lane :=
  match l.source with
  | .wait n :: rest =>
    if n ≤ seconds then { l with source := rest }
    else { l with source := .wait (n - seconds) :: rest }
  | _ => l

/-- A lane that stops for a while keeps its source. -/
@[simp] theorem source_pause (l : Lane) : l.pause.1.source = l.source := by
  unfold pause; split <;> rfl

/-- A lane that stops for good keeps its source, which is empty by then. -/
@[simp] theorem source_finish (l : Lane) : l.finish.1.source = l.source := by
  unfold finish; split
  · rfl
  · split <;> rfl

/-- A move uses steps of the source up and never adds one, even where it cuts a
segment short. The induction is on the steps that are still to be gone through. -/
theorem length_moveThrough_le (steps : Script) (l : Lane) :
    (moveThrough steps l).1.source.length ≤ steps.length := by
  induction steps generalizing l with
  | nil => simp [moveThrough]
  | cons step rest ih =>
    -- A lane that goes through the step goes on with the rest, which is shorter.
    have step_le {m : Lane} : (moveThrough rest m).1.source.length ≤ (step :: rest).length :=
      Nat.le_trans (ih m) (by simp)
    cases step with
    | bytes bs =>
      simp only [moveThrough]
      split
      · exact step_le
      · simp
    | wait n =>
      cases n with
      | zero => exact step_le
      | succ n => simp [moveThrough]
    | fault e =>
      simp only [moveThrough]
      split
      · exact step_le
      · simp
    | stall => simp [moveThrough]

/-- A lane that moves on has no more steps before it than it had. -/
theorem length_advance_le (l : Lane) : l.advance.1.source.length ≤ l.source.length :=
  length_moveThrough_le l.source l

/-- Time uses up a wait or a part of it, and nothing else. -/
theorem length_elapse_le (n : Nat) (l : Lane) :
    (l.elapse n).source.length ≤ l.source.length := by
  unfold elapse; split
  · rename_i h
    split <;> simp [h]
  · exact Nat.le_refl _

/-- A lane that waits for so many seconds has used up its wait once they are over.
-/
theorem length_elapse_lt {n : Nat} {l : Lane} (h : l.delay? = some n) :
    (l.elapse n).source.length < l.source.length := by
  unfold delay? at h
  split at h
  · rename_i hs
    simp only [Option.some.injEq] at h
    subst h
    simp [elapse, hs]
  · simp at h

end Lane

/-- Why a relay ends. -/
inductive Ending where
  /-- Both lanes are done. -/
  | finished
  /-- One lane failed. -/
  | failed (e : IoError)
  /-- Nothing will ever happen. -/
  | stuck
  deriving Repr, DecidableEq, Inhabited

/-- What a relay did. -/
structure Outcome where
  up : Lane
  down : Lane
  /-- The seconds that it took. -/
  seconds : Nat
  ending : Ending
  deriving Repr, DecidableEq, Inhabited

/-- The seconds until one of two lanes goes on. -/
def delay? (up down : Lane) : Option Nat :=
  match up.delay?, down.delay? with
  | some a, some b => some (min a b)
  | some a, none => some a
  | none, b => b

/-- Time that passes until one of two lanes goes on uses up a wait of that lane.
This is why a relay comes to an end: what the two lanes have before them gets
shorter whenever time passes. -/
theorem length_elapse_lt {n : Nat} {up down : Lane} (h : delay? up down = some n) :
    (up.elapse n).source.length + (down.elapse n).source.length
      < up.source.length + down.source.length := by
  have hu := Lane.length_elapse_le n up
  have hd := Lane.length_elapse_le n down
  have hn : up.delay? = some n ∨ down.delay? = some n := by
    unfold delay? at h
    split at h
    · rename_i a b ha hb
      -- The nearer of the two waits is the one that is over.
      rcases Nat.le_total a b with hab | hab
      · left; rw [ha, ← h, Nat.min_eq_left hab]
      · right; rw [hb, ← h, Nat.min_eq_right hab]
    · rename_i a ha _
      left; rw [ha, h]
    · right; exact h
  rcases hn with hn | hn
  · have := Lane.length_elapse_lt hn
    omega
  · have := Lane.length_elapse_lt hn
    omega

/-- Runs a relay from the given moment on. -/
def run (seconds : Nat) (up down : Lane) : Outcome :=
  match _hu : up.advance with
  | (up', .failed e) => ⟨up', down, seconds, .failed e⟩
  | (up', up_motion) =>
    match _hd : down.advance with
    | (down', .failed e) => ⟨up', down', seconds, .failed e⟩
    | (down', down_motion) =>
      if up_motion = .finished ∧ down_motion = .finished then ⟨up', down', seconds, .finished⟩
      else
        match _h : delay? up' down' with
        | none => ⟨up', down', seconds, .stuck⟩
        | some n => run (seconds + n) (up'.elapse n) (down'.elapse n)
termination_by up.source.length + down.source.length
decreasing_by
  have h1 := length_elapse_lt _h
  have h2 := Lane.length_advance_le up
  have h3 := Lane.length_advance_le down
  simp_all
  omega

/-- The lanes between two streams. -/
def lanes (a b : Stream) : Lane × Lane :=
  ({ source := a.script, sink := b.outlet }, { source := b.script, sink := a.outlet })

/-- Relays between two streams. -/
def between (a b : Stream) : Outcome := run 0 (lanes a b).1 (lanes a b).2

/-- What the log shows of a relay that moved so many bytes either way. -/
def finishedEntry (up down : Nat) : Log.Entry :=
  ⟨.debug, s!"Relay finished: {up} bytes A->B, {down} bytes B->A"⟩

/-- What the log shows at the end of a relay. -/
def Outcome.log (o : Outcome) : List Log.Entry :=
  match o.ending with
  | .finished => [finishedEntry o.up.moved.length o.down.moved.length]
  | _ => []

end Socks5.Relay
