import Socks5.Proofs.ImmediateScripts
import Socks5.Proofs.Limit
import Socks5.Proofs.Segmentation

/-!
# `Socks5.Proofs.ObserverEquivalence`: what a connection shows of itself

Everything in a history but the bytes that were taken is shown to others: to
the client, to the reader of the log, to the targets. Two scenes that show the
same are `Scene.Veiled`.

* `run_onto`: a run does not look at what happened before it.
* `halt_run_veiled`: so veiled scenes may be compared as if nothing had
  happened yet.
* `Silent.veiled_run`: a reader that notes nothing shows nothing.
* `Server.visitFrom_veiled`: visits that go on from veiled scenes show the
  same, with their relays, if the same bytes are before them.

Times are left out: a visit is shown without the time that it takes.
-/

set_option autoImplicit false

namespace Socks5

open Net Dialogue

variable {α β : Type}

/-! ### What is shown -/

/-- Whether others see an event. They see all but the bytes that were taken. -/
def Event.isShown : Event → Bool
  | .received _ => false
  | .sent _ | .noted _ | .dialed _ | .listened _ => true

namespace History

/-- What others see of a history. -/
def shown (h : History) : History := h.filter Event.isShown

/-- What is shown of two histories is shown of them one after the other. -/
@[simp] theorem shown_append (g h : History) : shown (g ++ h) = shown g ++ shown h :=
  List.filter_append g h

/-- What was sent, noted, dialed and listened for is shown. So scenes that show
the same agree on all that an observer can ask for. -/
theorem views_shown (h : History) :
    sentBytes h.shown = sentBytes h ∧ log h.shown = log h ∧ dialed h.shown = dialed h ∧
      listened h.shown = listened h := by
  induction h with
  | nil => exact ⟨rfl, rfl, rfl, rfl⟩
  | cons e h ih =>
    obtain ⟨hsent, hlog, hdialed, hlistened⟩ := ih
    cases e with
    | received bs => exact ⟨hsent, hlog, hdialed, hlistened⟩
    | sent bs => exact ⟨congrArg (bs ++ ·) hsent, hlog, hdialed, hlistened⟩
    | noted entry => exact ⟨hsent, congrArg (entry :: ·) hlog, hdialed, hlistened⟩
    | dialed target => exact ⟨hsent, hlog, congrArg (target :: ·) hdialed, hlistened⟩
    | listened target => exact ⟨hsent, hlog, hdialed, congrArg (target :: ·) hlistened⟩

end History

/-! ### The history before a run -/

namespace Scene

/-- The scene with more that happened before. -/
def onto (h : History) (s : Scene) : Scene := { s with history := h ++ s.history }

/-- The scene as if nothing had happened yet. -/
def bare (s : Scene) : Scene := { s with history := [] }

/-- A scene is its bare one with its history put back. -/
theorem onto_bare (s : Scene) : s.bare.onto s.history = s := by
  simp [bare, onto]

/-- An event comes after what happened before. -/
theorem onto_mark (h : History) (s : Scene) (e : Event) :
    (s.onto h).mark e = (s.mark e).onto h := by
  simp [onto, mark]

end Scene

namespace Dialogue

/-- A run adds to the history and does not look at it. So the history before a run
can be put aside and added again, which is what veiled scenes need: theirs differ.
-/
theorem run_onto (connector : Connector) (x : Dialogue α) (h : History) (s : Scene) :
    run connector x (s.onto h) = (run connector x s).map (Scene.onto h) := by
  induction x generalizing s with
  | done a => rfl
  | recv n shape k ih =>
    -- Reading looks at script, clock and deadline, which the longer history leaves as
    -- they are; the byte that is read is added at the end of either history.
    have hanswer : (s.onto h).answer n shape = s.answer n shape := rfl
    have hdraw : (s.onto h).draw n = s.draw n := rfl
    have hdrawn : (s.onto h).drawn (s.draw n) = (s.drawn (s.draw n)).onto h := by
      simp [Scene.drawn, Scene.mark, Scene.onto]
    rw [run_recv, run_recv, hanswer, hdraw, hdrawn]
    cases s.answer n shape with
    | some r => exact ih r _
    | none =>
      dsimp only
      by_cases hlate : (s.draw n).verdict = .late
      · rw [if_pos hlate, if_pos hlate]
        rfl
      · rw [if_neg hlate, if_neg hlate]
        rfl
  | send bytes k ih =>
    have hsend : (s.onto h).send bytes = ((s.send bytes).1, (s.send bytes).2.onto h) := by
      simp [Scene.send, Scene.mark, Scene.onto]
    rw [run, run, hsend]
    exact ih _ _
  | note entry next ih =>
    rw [run, run, Scene.onto_mark]
    exact ih _
  -- The inner run is compared first, since whether it is late decides what comes next.
  | within seconds late next ih_late ih_next =>
    have hnext := ih_next (s.armed seconds)
    rw [run_within_armed, run_within_armed, show (s.onto h).armed seconds
      = (s.armed seconds).onto h from rfl, hnext]
    cases run connector next (s.armed seconds) with
    | late s' => exact ih_late { s' with deadline := none }
    | ended | stuck => rfl
  | release next ih => exact ih { s with deadline := none }
  | dial target k ih =>
    rw [run_dial, run_dial, Scene.onto_mark]
    -- How an attempt is settled does not depend on the history either.
    exact runAttempt_map connector _ rfl rfl rfl (fun _ _ => rfl) fun r clock remote _ =>
      ih r { s.mark (.dialed target) with clock, remote }
  | listen target k ih =>
    rw [run, run]
    cases connector.listen with
    | none => exact ih _ s
    | some openListener =>
      dsimp only
      rw [Scene.onto_mark]
      cases openListener target with
      | ok l => exact ih _ { s.mark (.listened target) with listener := some l }
      | error e => exact ih _ (s.mark (.listened target))
  | accept k ih =>
    cases hl : s.listener with
    | none =>
      have hl' : (s.onto h).listener = none := hl
      rw [run, run, hl, hl']
      rfl
    | some l =>
      have hl' : (s.onto h).listener = some l := hl
      rw [run_accept connector hl, run_accept connector hl']
      exact runAttempt_map connector _ rfl rfl rfl (fun _ _ => rfl) fun r clock remote _ =>
        ih r { s with clock, remote }

end Dialogue

/-! ### Veiled scenes -/

/-- Whether two scenes take writes alike and show the same history and
connections. What was taken, and what is still to come, may differ. -/
structure Scene.Veiled (s t : Scene) : Prop where
  outlet : s.stream.outlet = t.stream.outlet
  shown : s.history.shown = t.history.shown
  listener : s.listener = t.listener
  remote : s.remote = t.remote

namespace Scene.Veiled

variable {s t u : Scene}

/-- A scene shows the same as itself. -/
theorem refl (s : Scene) : s.Veiled s := ⟨rfl, rfl, rfl, rfl⟩

/-- Showing the same goes both ways. -/
theorem symm (h : s.Veiled t) : t.Veiled s :=
  ⟨h.outlet.symm, h.shown.symm, h.listener.symm, h.remote.symm⟩

/-- Showing the same goes on from scene to scene. -/
theorem trans (h : s.Veiled t) (h' : t.Veiled u) : s.Veiled u :=
  ⟨h.outlet.trans h'.outlet, h.shown.trans h'.shown, h.listener.trans h'.listener,
    h.remote.trans h'.remote⟩

/-- Scenes that show the same still do so after the same event. -/
theorem mark (h : s.Veiled t) (e : Event) : (s.mark e).Veiled (t.mark e) := by
  refine ⟨h.outlet, ?_, h.listener, h.remote⟩
  show History.shown (s.history ++ [e]) = History.shown (t.history ++ [e])
  rw [History.shown_append, History.shown_append, h.shown]

/-- Scenes that show the same take a message alike. -/
theorem send (h : s.Veiled t) (bs : Bytes) :
    (s.send bs).1 = (t.send bs).1 ∧ (s.send bs).2.Veiled (t.send bs).2 := by
  unfold Scene.send
  rw [h.outlet]
  refine ⟨rfl, Veiled.mark ?_ _⟩
  exact ⟨rfl, h.shown, h.listener, h.remote⟩

/-- Nobody sees that bytes are taken. -/
theorem drawn (s : Scene) (n : Nat) : s.Veiled (s.drawn (s.draw n)) := by
  refine ⟨rfl, ?_, rfl, rfl⟩
  show _ = History.shown (s.history ++ [.received (s.draw n).taken])
  rw [History.shown_append]
  exact (List.append_nil _).symm

/-- Veiled scenes with the same bytes before them are alike but for their
histories. Their clocks and scripts need not agree, and `Alike` does not ask for
that. -/
theorem alike_bare (h : s.Veiled t) (hahead : s.ahead = t.ahead) : s.bare.Alike t.bare :=
  ⟨hahead, h.outlet, rfl, h.listener, h.remote⟩

end Scene.Veiled

/-- Alike scenes show the same after veiled histories. -/
theorem Scene.Alike.veiled_onto {s t : Scene} (halike : s.Alike t) {g h : History}
    (hshown : g.shown = h.shown) : (s.onto g).Veiled (t.onto h) := by
  refine ⟨halike.outlet, ?_, halike.listener, halike.remote⟩
  show History.shown (g ++ s.history) = History.shown (h ++ t.history)
  rw [History.shown_append, History.shown_append, hshown, halike.history]

namespace Dialogue

/-- What is the same for alike scenes shows the same for veiled ones. Any result
on alike scenes is carried over like this, without going through the run again. -/
theorem halt_run_veiled (connector : Connector) (x : Dialogue α) {s t : Scene}
    (hveiled : s.Veiled t)
    (hbare : (run connector x s.bare).halt = (run connector x t.bare).halt ∧
      (run connector x s.bare).scene.Alike (run connector x t.bare).scene) :
    (run connector x s).halt = (run connector x t).halt ∧
      (run connector x s).scene.Veiled (run connector x t).scene ∧
      (run connector x s).scene.ahead = (run connector x t).scene.ahead := by
  obtain ⟨hhalt, halike⟩ := hbare
  have hs := run_onto connector x s.history s.bare
  have ht := run_onto connector x t.history t.bare
  rw [Scene.onto_bare] at hs ht
  rw [hs, ht, Progress.halt_map, Progress.halt_map, Progress.scene_map, Progress.scene_map]
  exact ⟨hhalt, halike.veiled_onto hveiled.shown, halike.ahead⟩

/-- A plain dialogue shows the same on veiled scenes with the same bytes. Without
their histories the scenes are alike, and a run does not look at the history. -/
theorem Plain.run_veiled (connector : Connector) {x : Dialogue α} (hx : x.Plain) {s t : Scene}
    (hs : s.IsFlowing) (ht : t.IsFlowing) (hveiled : s.Veiled t) (hahead : s.ahead = t.ahead) :
    ∃ a s' t', run connector x s = .ended a s' ∧ run connector x t = .ended a t' ∧
      s'.IsFlowing ∧ t'.IsFlowing ∧ s'.Veiled t' ∧ s'.ahead = t'.ahead := by
  obtain ⟨a, s', hrun, hs'⟩ := hx.run_isFlowing connector hs
  obtain ⟨b, t', hrun', ht'⟩ := hx.run_isFlowing connector ht
  obtain ⟨c, u, v, hu, hv, -, -, halike⟩ :=
    hx.run_alike connector (s := s.bare) (t := t.bare) ⟨hs.smooth, hs.free⟩ ⟨ht.smooth, ht.free⟩
      (hveiled.alike_bare hahead)
  have hboth := halt_run_veiled connector x hveiled (by
    rw [hu, hv]
    exact ⟨rfl, halike⟩)
  rw [hrun, hrun'] at hboth
  obtain ⟨hhalt, hveiled', hahead'⟩ := hboth
  obtain rfl : a = b := Halt.ended.inj hhalt
  exact ⟨a, s', t', hrun, hrun', hs', ht', hveiled', hahead'⟩

/-! ### Silent readers -/

/-- Whether a dialogue does nothing but read. -/
def Silent : Dialogue α → Prop
  | .done _ => True
  | .recv _ _ k => ∀ r, Silent (k r)
  | .send .. | .note .. | .within .. | .release _ | .dial .. | .listen .. | .accept _ => False

/-- A dialogue made of two silent parts is silent. -/
theorem Silent.bind {x : Dialogue α} (hx : x.Silent) {f : α → Dialogue β}
    (hf : ∀ a, (f a).Silent) : (x.bind f).Silent := by
  induction x with
  | done a => exact hf a
  | recv n shape k ih => exact fun r => ih r (hx r)
  | send | note | within | release | dial | listen | accept => exact hx.elim

/-- A silent reader shows nothing. It takes bytes, and that is the one kind of
event that nobody sees. -/
theorem Silent.veiled_run (connector : Connector) {x : Dialogue α} (hx : x.Silent) (s : Scene) :
    s.Veiled (run connector x s).scene := by
  induction x generalizing s with
  | done a => exact .refl s
  | recv n shape k ih =>
    have hdrawn := Scene.Veiled.drawn s n
    rw [run_recv]
    split
    · exact hdrawn.trans (ih _ (hx _) _)
    · split
      · exact hdrawn
      · exact hdrawn
  | send | note | within | release | dial | listen | accept => exact hx.elim

end Dialogue

namespace Exchange

/-- The same for exchanges. -/
theorem silent_bind {x : Exchange α} (hx : x.run.Silent) {f : α → Exchange β}
    (hf : ∀ a, (f a).run.Silent) : (x >>= f).run.Silent := by
  refine Dialogue.Silent.bind hx ?_
  rintro (e | a)
  · trivial
  · exact hf a

/-- Reading a byte is silent. -/
theorem silent_byte : byte.run.Silent := by
  rintro (e | v) <;> trivial

/-- So is reading a block. -/
theorem silent_block (n : Nat) : (block n).run.Silent := by
  rintro (e | v) <;> trivial

/-- So is reading a string with its length. -/
theorem silent_counted : counted.run.Silent :=
  silent_bind silent_byte fun _ => silent_bind (silent_block _) fun _ => trivial

/-- So is reading a greeting. The note on it is made by whoever asked for it. -/
theorem silent_readGreeting : Negotiation.readGreeting.run.Silent := by
  refine silent_bind silent_byte fun v => ?_
  split
  · trivial
  · exact silent_counted

/-- So is reading credentials, and this is what a password is hidden by: it is
only ever read here. -/
theorem silent_readCredentials : Negotiation.readCredentials.run.Silent := by
  refine silent_bind silent_byte fun v => ?_
  split
  · trivial
  · exact silent_bind silent_counted fun _ => silent_bind silent_counted fun _ => trivial

/-- A silent reader whose message is there takes it unseen. What follows it runs
on a scene that shows the same as before, and has only the rest of the bytes. -/
theorem run_silent_bind (connector : Connector) {x : Exchange α} {m : Bytes} {a : α}
    (hx : x.Gets m a) (hsilent : x.run.Silent) (hplain : x.run.Plain) (f : α → Exchange β)
    {s : Scene} (hs : s.IsFlowing) {rest : Bytes} (hahead : s.ahead = m ++ rest) :
    ∃ s', (x >>= f).run.run connector s = (f a).run.run connector s' ∧ s.Took s' rest ∧
      s.Veiled s' := by
  obtain ⟨s', hrun, htook⟩ := run_gets connector hx hs hahead
  have hveiled := hsilent.veiled_run connector s
  rw [hrun] at hveiled
  refine ⟨s', ?_, htook, hveiled⟩
  show (x.run.bind (ExceptT.bindCont f)).run connector s = _
  rw [run_bind connector hplain, hrun]
  rfl

end Exchange

/-! ### Visits -/

namespace Server

/-- A visit as others see it, without a clock. -/
def Visited.shown : Visited → Visited
  | .stalled h => .stalled h.shown
  | .finished v => .finished { v with history := v.history.shown, unread := [], elapsed := 0 }

/-- What follows the negotiation shows the same on veiled scenes with the same
bytes before them. The bytes are all there, so no deadline can tell the scenes
apart. -/
theorem run_afterNegotiation_veiled (policy : Policy) (connector : Connector) {s t : Scene}
    (hs : s.IsFlowing) (ht : t.IsFlowing) (hveiled : s.Veiled t) (hahead : s.ahead = t.ahead)
    (hsb : s.stream.script.IsBytes) (htb : t.stream.script.IsBytes)
    (r : Except ServiceError Method) :
    (run connector (afterNegotiation policy r) s).halt
        = (run connector (afterNegotiation policy r) t).halt ∧
      (run connector (afterNegotiation policy r) s).scene.Veiled
        (run connector (afterNegotiation policy r) t).scene ∧
      (run connector (afterNegotiation policy r) s).scene.ahead
        = (run connector (afterNegotiation policy r) t).scene.ahead := by
  -- Bytes that are there make nobody wait.
  have hwaits : ∀ {u : Scene}, u.stream.script.IsBytes →
      Script.waits u.bare.stream.script ≤ policy.handshakeTimeout := by
    intro u hu
    show Script.waits u.stream.script ≤ policy.handshakeTimeout
    rw [hu.waits_eq]
    exact Nat.zero_le _
  exact halt_run_veiled connector _ hveiled
    (run_afterNegotiation_alike policy connector (s := s.bare) (t := t.bare)
      ⟨hs.smooth, hs.free⟩ ⟨ht.smooth, ht.free⟩ (hveiled.alike_bare hahead) (hwaits hsb)
      (hwaits htb) r)

/-- What others see of the relay that a served connection goes on with. They do
not see what it has left of the bytes of the client. -/
def relayFrom : Progress (Except ServiceError Unit) → Option Relay.Outcome
  | .ended (.ok ()) s => s.remote.map fun c => (Relay.between s.stream c.stream).leaving []
  | .ended (.error _) _ | .late _ | .stuck _ => none

/-- Relays for the same bytes show the same, in whatever pieces the bytes are
left. -/
theorem between_veiled {s t : Scene} (hveiled : s.Veiled t) (hahead : s.ahead = t.ahead)
    (hs : s.stream.script.IsBytes) (ht : t.stream.script.IsBytes) (remote : Stream) :
    (Relay.between s.stream remote).leaving [] = (Relay.between t.stream remote).leaving [] := by
  obtain ⟨source, hbetween⟩ := Relay.between_eq_of_bytes hs ht hahead hveiled.outlet remote
  rw [hbetween]
  rfl

/-- What others see of a visit through a tunnel: what happened before it, and its relay. -/
def shownThrough (h : History) (o : Relay.Outcome) : Visited :=
  let history := History.shown (h ++ (tunnelLog o).map .noted)
  match o.ending with
  | .stuck => .stalled history
  | .finished | .failed _ => .finished {
      result := .ok ()
      history
      unread := []
      elapsed := 0
      tunnel := some ⟨o.up.moved, o.down.moved, o.down.closed, o.up.closed⟩ }

/-- What is shown of a visit through a tunnel does not depend on what is left of
the client's bytes. -/
theorem shown_visitThrough (s : Scene) (remote : Stream) : (visitThrough s remote).shown
    = shownThrough s.history ((Relay.between s.stream remote).leaving []) := by
  unfold visitThrough
  obtain ⟨up, down, seconds, ending⟩ := Relay.between s.stream remote
  cases ending <;> rfl

/-- Tunnels for the same bytes show the same. -/
theorem visitThrough_veiled {s t : Scene} (hveiled : s.Veiled t) (hahead : s.ahead = t.ahead)
    (hs : s.stream.script.IsBytes) (ht : t.stream.script.IsBytes) (remote : Stream) :
    (visitThrough s remote).shown = (visitThrough t remote).shown := by
  rw [shown_visitThrough, shown_visitThrough, between_veiled hveiled hahead hs ht]
  simp only [shownThrough, History.shown_append, hveiled.shown]

/-- Visits that go on from veiled scenes show the same, if those that succeed have
the same bytes before them. A visit that fails may leave other bytes: nobody
relays them. -/
theorem visitFrom_veiled {p q : Progress (Except ServiceError Unit)} (hhalt : p.halt = q.halt)
    (hveiled : p.scene.Veiled q.scene)
    (hahead : p.halt = .ended (.ok ()) → p.scene.ahead = q.scene.ahead)
    (hp : p.scene.stream.script.IsBytes) (hq : q.scene.stream.script.IsBytes) :
    (visitFrom p).shown = (visitFrom q).shown ∧ relayFrom p = relayFrom q := by
  have hstalled : ∀ {s t : Scene}, s.Veiled t →
      (Visited.stalled s.history).shown = (Visited.stalled t.history).shown := by
    intro s t hveiled
    rw [Visited.shown, Visited.shown, hveiled.shown]
  cases p with
  | late s =>
    cases q with
    | late t => exact ⟨hstalled hveiled, rfl⟩
    | ended | stuck => cases hhalt
  | stuck s =>
    cases q with
    | stuck t => exact ⟨hstalled hveiled, rfl⟩
    | ended | late => cases hhalt
  | ended r s =>
    cases q with
    | late | stuck => cases hhalt
    | ended r' t =>
      obtain rfl : r = r' := Halt.ended.inj hhalt
      -- Without a tunnel a visit shows its result and its history, and nothing of the
      -- bytes left.
      have hwithout : (Visited.finished (visitWithoutTunnel r s)).shown
          = (Visited.finished (visitWithoutTunnel r t)).shown := by
        have hshown : s.history.shown = t.history.shown := hveiled.shown
        simp only [Visited.shown, visitWithoutTunnel, hshown]
      cases r with
      | error e => exact ⟨hwithout, rfl⟩
      | ok u =>
        have hremote : s.remote = t.remote := hveiled.remote
        rw [visitFrom, visitFrom, relayFrom, relayFrom, ← hremote]
        cases s.remote with
        | none => exact ⟨hwithout, rfl⟩
        -- With a tunnel the bytes left are relayed, so here they have to agree.
        | some c =>
          exact ⟨visitThrough_veiled hveiled (hahead rfl) hp hq c.stream,
            congrArg some (between_veiled hveiled (hahead rfl) hp hq c.stream)⟩

end Server

end Socks5
