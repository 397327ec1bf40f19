import Socks5.Address
import Socks5.Log.Entry

/-!
# `Socks5.History`: what an observer sees of a conversation

A history lists what happens in the order in which it happens: bytes go
over the stream, entries go to the log, targets are dialed or listened
for. The trace, the log and the lists of targets are views of it.
-/

set_option autoImplicit false

namespace Socks5

/-- Something that an observer sees. -/
inductive Event where
  /-- The party took bytes from the stream. -/
  | received (bytes : Bytes)
  /-- Bytes of the party were delivered. -/
  | sent (bytes : Bytes)
  | noted (entry : Log.Entry)
  | dialed (target : Address)
  | listened (target : Address)
  deriving Repr, DecidableEq, Inhabited

/-- What happened, in order. -/
abbrev History := List Event

/-- Bytes that went over a stream in one direction. -/
inductive Transfer where
  | received (bytes : Bytes)
  | sent (bytes : Bytes)
  deriving Repr, DecidableEq, Inhabited

namespace Transfer

/-- Puts a transfer before a trace. Neighbours of one direction become one
transfer and an empty transfer leaves no mark. -/
def before : Transfer → List Transfer → List Transfer
  | .received [], trace | .sent [], trace => trace
  | .received a, .received b :: trace => .received (a ++ b) :: trace
  | .sent a, .sent b :: trace => .sent (a ++ b) :: trace
  | t, trace => t :: trace

end Transfer

namespace History

/-- The bytes that went over the stream, with neighbours of one direction
together. -/
def trace : History → List Transfer
  | [] => []
  | .received bs :: rest => Transfer.before (.received bs) (trace rest)
  | .sent bs :: rest => Transfer.before (.sent bs) (trace rest)
  | .noted _ :: rest | .dialed _ :: rest | .listened _ :: rest => trace rest

/-- All bytes that were taken from the stream. -/
def receivedBytes : History → Bytes
  | [] => []
  | .received bs :: rest => bs ++ receivedBytes rest
  | .sent _ :: rest | .noted _ :: rest | .dialed _ :: rest | .listened _ :: rest =>
    receivedBytes rest

/-- All bytes that were delivered. -/
def sentBytes : History → Bytes
  | [] => []
  | .sent bs :: rest => bs ++ sentBytes rest
  | .received _ :: rest | .noted _ :: rest | .dialed _ :: rest | .listened _ :: rest =>
    sentBytes rest

/-- The log. -/
def log (h : History) : List Log.Entry :=
  h.filterMap fun
    | .noted entry => some entry
    | _ => none

/-- The targets that were dialed. -/
def dialed (h : History) : List Address :=
  h.filterMap fun
    | .dialed target => some target
    | _ => none

/-- The targets that were listened for. -/
def listened (h : History) : List Address :=
  h.filterMap fun
    | .listened target => some target
    | _ => none

/-- The bytes that were taken in two parts of a history, one after the other. The
induction is on the first part, event by event. -/
@[simp] theorem receivedBytes_append (g h : History) :
    receivedBytes (g ++ h) = receivedBytes g ++ receivedBytes h := by
  induction g with
  | nil => rfl
  | cons e g ih => cases e <;> simp [receivedBytes, ih]

/-- The bytes that were delivered in two parts of a history, one after the other.
-/
@[simp] theorem sentBytes_append (g h : History) :
    sentBytes (g ++ h) = sentBytes g ++ sentBytes h := by
  induction g with
  | nil => rfl
  | cons e g ih => cases e <;> simp [sentBytes, ih]

/-- The log of a history is read part by part. -/
@[simp] theorem log_append (g h : History) : log (g ++ h) = log g ++ log h :=
  List.filterMap_append

/-- The dialed targets of a history are read part by part. -/
@[simp] theorem dialed_append (g h : History) : dialed (g ++ h) = dialed g ++ dialed h :=
  List.filterMap_append

/-- The targets that were listened for are read part by part. -/
@[simp] theorem listened_append (g h : History) :
    listened (g ++ h) = listened g ++ listened h :=
  List.filterMap_append

end History

end Socks5
