import Socks5.Address
import Socks5.Script

/-!
# `Socks5.Connector`: who opens connections for a server

A server never opens sockets itself. Its connector dials targets and
opens listeners; an attempt is settled after some seconds, or never.
-/

set_option autoImplicit false

namespace Socks5

open Net

/-- How an attempt turns out. -/
inductive Attempt (α : Type) where
  /-- It is settled after some seconds. -/
  | settled (seconds : Nat) (result : Except IoError α)
  /-- It is never settled. -/
  | never
  deriving Inhabited

namespace Attempt

/-- An attempt with the given result after some seconds, or never if the
clock cannot show when they are over. -/
def after {α : Type} (seconds : Nat) (r : Except IoError α) : Attempt α :=
  if seconds < clockRange then .settled seconds r else .never

/-- What a party that waits for an attempt sees. -/
inductive Sight (α : Type) where
  /-- The result, and when it is there. -/
  | result (clock : Nat) (r : Except IoError α)
  /-- The deadline, which passes first. -/
  | late (clock : Nat)
  /-- Nothing, ever. -/
  | nothing
  deriving Inhabited

/-- Waits for an attempt. A result at the very moment of the deadline is
still in time. -/
def await {α : Type} (deadline : Option Nat) (clock : Nat) : Attempt α → Sight α
  | .settled seconds r =>
    match deadline with
    | some limit => if limit < clock + seconds then .late limit else .result (clock + seconds) r
    | none => .result (clock + seconds) r
  | .never =>
    match deadline with
    | some limit => .late limit
    | none => .nothing

end Attempt

/-- An open connection. -/
structure Connection where
  /-- The near endpoint of a dialed connection, the far endpoint of an
  accepted one. -/
  endpoint : Endpoint
  stream : Stream
  deriving Repr, DecidableEq, Inhabited

/-- An open listener. -/
structure Listener where
  endpoint : Endpoint
  peer : Attempt Connection
  deriving Inhabited

/-- Who opens connections for a server. -/
structure Connector where
  dial : Address → Attempt Connection
  /-- Opens listeners. Unless it says otherwise, a connector has none. -/
  listen : Option (Address → Except IoError Listener) := none

/-- The error of a connector that opens no listeners. -/
def Connector.noListener : IoError := IoKind.unsupported.error

instance : Inhabited Connector := ⟨{ dial := fun _ => .never }⟩

end Socks5
