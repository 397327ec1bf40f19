import Socks5.Connector
import Socks5.Dialogue
import Socks5.History

/-!
# `Socks5.Replay`: a dialogue against a script

`run` carries out a dialogue on a stream whose behaviour is written
down, with a connector and a clock that moves only in waits. The scene
keeps the history of what an observer sees.
-/

set_option autoImplicit false

namespace Socks5

open Net

/-- What surrounds a dialogue, and what an observer has seen of it. -/
structure Scene where
  stream : Stream
  clock : Nat := 0
  /-- When the time for the present step is up. -/
  deadline : Option Nat := none
  history : History := []
  /-- The listener that was opened. -/
  listener : Option Listener := none
  /-- The connection that was dialed or accepted. -/
  remote : Option Connection := none
  deriving Inhabited

namespace Scene

/-- Adds an event to the history. -/
def mark (s : Scene) (e : Event) : Scene := { s with history := s.history ++ [e] }

/-- Sends bytes. -/
def send (s : Scene) (bs : Bytes) : Except IoError Unit × Scene :=
  let (delivered, r, outlet) := s.stream.outlet.send bs
  (r, { s with stream := { s.stream with outlet } }.mark (.sent delivered))

/-- Takes `n` bytes from the stream, as far as they are there. -/
def draw (s : Scene) (n : Nat) : Script.Draw :=
  s.stream.script.draw s.deadline n s.clock

/-- The scene after an attempt to take bytes. -/
def drawn (s : Scene) (d : Script.Draw) : Scene :=
  { s with stream := { s.stream with script := d.rest }, clock := d.clock }.mark
    (.received d.taken)

end Scene

/-- How far a dialogue gets. -/
inductive Progress (α : Type) where
  /-- It is done. -/
  | ended (a : α) (s : Scene)
  /-- The deadline passed. -/
  | late (s : Scene)
  /-- It waits for what never comes. -/
  | stuck (s : Scene)
  deriving Inhabited

namespace Dialogue

variable {α : Type}

/-- Carries out a dialogue. -/
def run (connector : Connector) : Dialogue α → Scene → Progress α
  | .done a, s => .ended a s
  | .recv n shape k, s =>
    let d := s.draw n
    let s' := s.drawn d
    match h : d.verdict with
    | .full =>
      run connector (k (.ok ⟨d.taken.toArray, by
        rw [List.size_toArray]; exact Script.length_taken_draw h⟩)) s'
    | .ended => run connector (k (.error shape.endError)) s'
    | .failed e => run connector (k (.error e)) s'
    | .late => .late s'
    | .stuck => .stuck s'
  | .send bytes k, s =>
    let (r, s') := s.send bytes
    run connector (k r) s'
  | .note entry next, s => run connector next (s.mark (.noted entry))
  | .within seconds late next, s =>
    match run connector next { s with deadline := deadline? s.clock seconds } with
    | .late s' => run connector late { s' with deadline := none }
    | p => p
  | .release next, s => run connector next { s with deadline := none }
  | .dial target k, s =>
    let s := s.mark (.dialed target)
    match (connector.dial target).await s.deadline s.clock with
    | .result clock (.ok c) =>
      run connector (k (.ok c.endpoint)) { s with clock, remote := some c }
    | .result clock (.error e) => run connector (k (.error e)) { s with clock }
    | .late clock => .late { s with clock }
    | .nothing => .stuck s
  | .listen target k, s =>
    match connector.listen with
    | none => run connector (k (.error Connector.noListener)) s
    | some openListener =>
      let s := s.mark (.listened target)
      match openListener target with
      | .ok l => run connector (k (.ok l.endpoint)) { s with listener := some l }
      | .error e => run connector (k (.error e)) s
  | .accept k, s =>
    match s.listener with
    | none => .stuck s
    | some l =>
      match l.peer.await s.deadline s.clock with
      | .result clock (.ok c) =>
        run connector (k (.ok c.endpoint)) { s with clock, remote := some c }
      | .result clock (.error e) => run connector (k (.error e)) { s with clock }
      | .late clock => .late { s with clock }
      | .nothing => .stuck s

end Dialogue

end Socks5
