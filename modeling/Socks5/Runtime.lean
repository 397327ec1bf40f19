import Socks5.Net.IoError

/-!
# `Socks5.Runtime`: the rules of the runtime below

Timers, sockets and the copying between two sockets belong to a runtime below
this library. Its rules are no rules of the protocol, and no message depends on
them. They decide what a party sees that waits or fails. This is all that is
assumed of the runtime, and where it is used:

* Deadlines. `deadline?` says when a deadline passes. The clock has a range, and
  a deadline beyond it never passes. What is there at the very moment of the
  deadline is in time, so a deadline of no length lets through what is there
  already (`Script.draw`, `Attempt.await`, `Session.expire`).
* Reads. A read that is merely interrupted (`Net.IoError.isInterruption`) is
  tried again at once, by readers and by relays, and nobody sees it
  (`Script.draw`, `Relay.Lane.moveThrough`). A flush, a dial or a listener that
  is interrupted fails like any other.
* Ends. A stream that ends inside a number and one that ends inside a block are
  reported with different words (`Shape.endError`), and the bytes before the end
  are gone.
* Writes. The part of a message that fits is delivered even if the write fails,
  and only a write that succeeds is flushed (`Outlet.send`).
* Relays. A relay takes at most `Relay.chunkSize` bytes at once, and takes a
  chunk before it writes any of it. It flushes before it waits and at the end of
  a source, and the first error of either direction ends both
  (`Relay.Lane.moveThrough`, `Relay.run`).

Sockets keep to the same rules as scripts do: `Live.Party.allow` takes its
deadlines from `deadline?`, too.
-/

set_option autoImplicit false

namespace Socks5

/-! ### Deadlines -/

/-- The clock counts fewer seconds than this after any moment. -/
def clockRange : Nat := (1 <<< 63) - 2

/-- When the given number of seconds is over. `none` when the clock will
never show that. -/
def deadline? (clock seconds : Nat) : Option Nat :=
  if seconds < clockRange then some (clock + seconds) else none

/-- A deadline that the clock can show is as far off as was asked. Only the
number of seconds decides whether it can, and not the time at which they
begin. -/
theorem deadline?_eq_some {clock seconds : Nat} (h : seconds < clockRange) :
    deadline? clock seconds = some (clock + seconds) := if_pos h

/-- A deadline that passes at all passes when its seconds are over. -/
theorem eq_of_deadline?_eq_some {clock seconds limit : Nat}
    (h : deadline? clock seconds = some limit) : limit = clock + seconds := by
  unfold deadline? at h
  split at h <;> cases h
  rfl

/-- The deadlines that never pass are those that begin beyond the range of the
clock. Whoever waits under one of them waits as if there were none. -/
theorem deadline?_eq_none_iff {clock seconds : Nat} :
    deadline? clock seconds = none ↔ clockRange ≤ seconds := by
  simp [deadline?]

/-! ### Reads -/

/-- Whether an operation was merely interrupted. -/
def Net.IoError.isInterruption (e : IoError) : Bool := e.kind == .interrupted

/-! ### Relays -/

/-- The most bytes that a lane takes from its source at once. -/
def Relay.chunkSize : Nat := 8192

end Socks5
