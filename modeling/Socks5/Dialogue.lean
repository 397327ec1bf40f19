import Socks5.Address
import Socks5.Log.Entry

/-!
# `Socks5.Dialogue`: one party's side of a conversation

A dialogue says what one party does over a byte stream: it asks for a
number of bytes, sends bytes, writes to the log, sets itself a deadline
and lets others open connections for it. What it does next depends on
each answer. A dialogue is a finite tree, so every way of carrying one
out ends by recursion on the tree.

Dialogues compose as a monad. An `Exchange` is a dialogue that may fail
with a `ProtocolError`, and the small readers and writers at the end of
this file are what all messages are made of.
-/

set_option autoImplicit false

namespace Socks5

open Net

/-- What a party reads in one go. It decides how the end of the stream
inside of it is reported. -/
inductive Shape where
  /-- One number. -/
  | integer
  /-- A block of bytes. -/
  | block
  deriving Repr, DecidableEq, Inhabited

/-- The error of a stream that ends inside. -/
def Shape.endError : Shape → IoError
  | .integer => IoKind.unexpectedEof.error
  | .block => .earlyEof

/-- One party's side of a conversation. -/
inductive Dialogue (α : Type) where
  /-- The party is done. -/
  | done (a : α)
  /-- Asks for exactly `n` bytes. -/
  | recv (n : Nat) (shape : Shape) (k : Except IoError (Vector UInt8 n) → Dialogue α)
  /-- Sends bytes and makes sure that they leave. -/
  | send (bytes : Bytes) (k : Except IoError Unit → Dialogue α)
  /-- Writes to the log. -/
  | note (entry : Log.Entry) (next : Dialogue α)
  /-- Goes on with `next`, but with `late` once the given seconds have
  passed before a `release`. -/
  | within (seconds : Nat) (late next : Dialogue α)
  /-- Lifts the deadline. -/
  | release (next : Dialogue α)
  /-- Opens a connection; the answer is the local endpoint. -/
  | dial (target : Address) (k : Except IoError Endpoint → Dialogue α)
  /-- Opens a listener for a target; the answer is where it listens. -/
  | listen (target : Address) (k : Except IoError Endpoint → Dialogue α)
  /-- Waits for a peer at the listener; the answer is the peer. -/
  | accept (k : Except IoError Endpoint → Dialogue α)

namespace Dialogue

variable {α β γ : Type}

/-- Goes on with another dialogue once the first is done. -/
def bind (f : α → Dialogue β) : Dialogue α → Dialogue β
  | .done a => f a
  | .recv n shape k => .recv n shape fun r => bind f (k r)
  | .send bytes k => .send bytes fun r => bind f (k r)
  | .note entry next => .note entry (bind f next)
  | .within seconds late next => .within seconds (bind f late) (bind f next)
  | .release next => .release (bind f next)
  | .dial target k => .dial target fun r => bind f (k r)
  | .listen target k => .listen target fun r => bind f (k r)
  | .accept k => .accept fun r => bind f (k r)

instance : Monad Dialogue where
  pure := .done
  bind x f := bind f x

/-- Going on with nothing changes nothing: one half of what makes dialogues a
lawful monad. The other unit law holds by definition. -/
theorem bind_done (x : Dialogue α) : bind .done x = x := by
  induction x <;> simp_all [bind]

/-- Dialogues may be composed in any order, so a proof can take the first step of
a dialogue apart from the rest wherever `do` blocks have put the parentheses. -/
theorem bind_bind (f : α → Dialogue β) (g : β → Dialogue γ) (x : Dialogue α) :
    bind g (bind f x) = bind (fun a => bind g (f a)) x := by
  induction x <;> simp_all [bind]

instance : LawfulMonad Dialogue :=
  LawfulMonad.mk' Dialogue bind_done (fun _ _ => rfl) (fun x f g => bind_bind f g x)

end Dialogue

/-- A dialogue that may fail with a protocol error. -/
abbrev Exchange (α : Type) := ExceptT ProtocolError Dialogue α

/-- A dialogue that may fail with a service error. -/
abbrev Service (α : Type) := ExceptT ServiceError Dialogue α

namespace Exchange

/-- Reads one byte. -/
def byte : Exchange UInt8 := ExceptT.mk <|
  .recv 1 .integer fun
    | .ok v => .done (.ok v[0])
    | .error e => .done (.error (.truncated e))

/-- Reads a port. -/
def port : Exchange UInt16 := ExceptT.mk <|
  .recv 2 .integer fun
    | .ok v => .done (.ok (ofBigEndian v[0] v[1]))
    | .error e => .done (.error (.truncated e))

/-- Reads a block of `n` bytes. -/
def block (n : Nat) : Exchange (Vector UInt8 n) := ExceptT.mk <|
  .recv n .block fun
    | .ok v => .done (.ok v)
    | .error e => .done (.error (.truncated e))

/-- Reads a block whose length stands in the byte before it. -/
def counted : Exchange Bytes := do
  let length ← byte
  let v ← block length.toNat
  return v.toList

/-- Sends bytes. -/
def send (bytes : Bytes) : Exchange Unit := ExceptT.mk <|
  .send bytes fun
    | .ok () => .done (.ok ())
    | .error e => .done (.error (.io e))

/-- Writes to the log. -/
def note (level : Log.Level) (text : String) : Exchange Unit := ExceptT.mk <|
  .note { level, text } (.done (.ok ()))

end Exchange

end Socks5
