import Socks5.Bytes
import Socks5.Runtime

/-!
# `Socks5.Script`: streams whose behaviour is written down

A script says what the far end of a stream does: bytes arrive, time
passes, a read fails, or nothing happens ever again. After the last step
the stream ends. An outlet says what becomes of the bytes written to the
near end. Time is a number of seconds and passes only in waits.

`draw` takes a given number of bytes from a script. It stops early when
the script ends, a read fails, a deadline passes or the script stalls;
the bytes taken until then are gone either way. Which reads are tried
again, which deadlines pass and what a write delivers are rules of
`Socks5.Runtime`.
-/

set_option autoImplicit false

namespace Socks5

open Net

/-! ### The reading side -/

/-- What happens next at the far end of a stream. -/
inductive Step where
  /-- Bytes arrive. -/
  | bytes (bs : Bytes)
  /-- Nothing happens for some seconds. -/
  | wait (seconds : Nat)
  /-- One read fails, or is interrupted. -/
  | fault (e : IoError)
  /-- Nothing happens ever again. -/
  | stall
  deriving Repr, DecidableEq, Inhabited

/-- What happens at the far end of a stream, up to its end. -/
abbrev Script := List Step

/-- Nothing happens for some seconds, or never again if the clock cannot
show when they are over. -/
def Step.pause (seconds : Nat) : Step := if seconds < clockRange then .wait seconds else .stall

namespace Script

/-- All bytes that a script delivers. -/
def bytes : Script → Bytes
  | [] => []
  | .bytes bs :: rest => bs ++ bytes rest
  | .wait _ :: rest | .fault _ :: rest | .stall :: rest => bytes rest

/-- How an attempt to take bytes ends. -/
inductive Verdict where
  /-- All bytes were there. -/
  | full
  /-- The stream ended. -/
  | ended
  /-- A read failed. -/
  | failed (e : IoError)
  /-- The deadline passed. -/
  | late
  /-- Nothing will ever happen. -/
  | stuck
  deriving Repr, DecidableEq, Inhabited

/-- What an attempt to take bytes gives. -/
structure Draw where
  /-- The bytes taken. -/
  taken : Bytes
  /-- What is left of the script. -/
  rest : Script
  /-- The time afterwards. -/
  clock : Nat
  verdict : Verdict
  deriving Repr, DecidableEq, Inhabited

/-- The same attempt, had it taken the given bytes before. -/
def Draw.after (bs : Bytes) (d : Draw) : Draw := { d with taken := bs ++ d.taken }

/-- Takes `n` bytes. What arrives at the very moment of the deadline is
still in time. -/
def draw (deadline : Option Nat) : Nat → Nat → Script → Draw
  | 0, clock, script => ⟨[], script, clock, .full⟩
  | _ + 1, clock, [] => ⟨[], [], clock, .ended⟩
  | n + 1, clock, .bytes bs :: rest =>
    if n + 1 ≤ bs.length then
      ⟨bs.take (n + 1), .bytes (bs.drop (n + 1)) :: rest, clock, .full⟩
    else (draw deadline (n + 1 - bs.length) clock rest).after bs
  | n + 1, clock, .wait seconds :: rest =>
    match deadline with
    | some limit =>
      if limit < clock + seconds then
        ⟨[], .wait (clock + seconds - limit) :: rest, limit, .late⟩
      else draw deadline (n + 1) (clock + seconds) rest
    | none => draw deadline (n + 1) (clock + seconds) rest
  | n + 1, clock, .fault e :: rest =>
    if e.isInterruption then draw deadline (n + 1) clock rest
    else ⟨[], rest, clock, .failed e⟩
  | _ + 1, clock, .stall :: rest =>
    match deadline with
    | some limit => ⟨[], .stall :: rest, limit, .late⟩
    | none => ⟨[], .stall :: rest, clock, .stuck⟩

/-- A full draw has taken just what was asked for. Every other verdict may leave
it short, so nothing is said about those. -/
theorem length_taken_draw {deadline : Option Nat} {n clock : Nat} {script : Script}
    (h : (draw deadline n clock script).verdict = .full) :
    (draw deadline n clock script).taken.length = n := by
  fun_induction draw deadline n clock script <;> simp_all [Draw.after]
  omega

/-- Bytes taken and bytes left make up the script's bytes, whatever the verdict
is: a draw that fails gives the bytes before the failure up, but it does not lose
count of them. -/
theorem taken_append_bytes_rest (deadline : Option Nat) (n clock : Nat) (script : Script) :
    (draw deadline n clock script).taken ++ bytes (draw deadline n clock script).rest
      = bytes script := by
  -- A segment that is long enough is cut in two, and the two halves are put together again.
  fun_induction draw deadline n clock script <;> simp_all [bytes, Draw.after]
  rw [← List.append_assoc, List.take_append_drop]

end Script

/-! ### The writing side -/

/-- What becomes of bytes written to a stream. -/
structure Outlet where
  /-- How many more bytes are delivered. `none` sets no bound. -/
  room : Option Nat := none
  /-- The error of a write for which there is no room. -/
  refusal : IoError := IoKind.brokenPipe.error
  /-- The error of every flush, if flushing fails. -/
  flushFault : Option IoError := none
  deriving Repr, DecidableEq, Inhabited

namespace Outlet

/-- What a write delivers, its error, and the outlet afterwards. The part
that fits is delivered even when the write fails. -/
def write (o : Outlet) (bs : Bytes) : Bytes × Except IoError Unit × Outlet :=
  match o.room with
  | none => (bs, .ok (), o)
  | some room =>
    if bs.length ≤ room then (bs, .ok (), { o with room := some (room - bs.length) })
    else (bs.take room, .error o.refusal, { o with room := some 0 })

/-- The outcome of a flush. -/
def flush (o : Outlet) : Except IoError Unit :=
  match o.flushFault with
  | some e => .error e
  | none => .ok ()

/-- A write followed by a flush, which is skipped if the write fails. -/
def send (o : Outlet) (bs : Bytes) : Bytes × Except IoError Unit × Outlet :=
  match o.write bs with
  | (sent, .ok (), o) => (sent, o.flush, o)
  | r => r

end Outlet

/-- A stream with a written-down behaviour. -/
structure Stream where
  script : Script := []
  outlet : Outlet := {}
  deriving Repr, DecidableEq, Inhabited

end Socks5
