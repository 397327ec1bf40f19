import Socks5.Proofs.AuthenticatedAccess
import Socks5.Proofs.Relay
import Socks5.Server.Visit

/-!
# `Socks5.Proofs.Tunnel`: from the request to the tunnel

No byte is lost, doubled or swallowed where the negotiation ends and the
relay begins.

* `Server.Way.granted`: a connection is served without an error only after
  the bytes of a negotiation and of a request, with the remote connection
  that the connector opened for it.
* `Server.visit_of_ended`: from there the visit is the tunnel.
* `Server.visitThrough_of_ended`: between clean streams it comes to its end.
  What the negotiation has taken and what the tunnel has moved up are the
  client's bytes, and the remote's bytes all went down.
* `Server.ended_of_visit`: a visit that succeeds has come that far.
-/

set_option autoImplicit false

namespace Socks5

open Net Dialogue

namespace Server

/-- Which connections a connector opens for a request. -/
inductive Remote (policy : Policy) (connector : Connector) (q : Request) (c : Connection) :
    Prop where
  | dialed {seconds : Nat} (hq : q.command = .connect)
      (hdial : connector.dial q.address = .settled seconds (.ok c)) : Remote policy connector q c
  | accepted {l : Listener} {seconds : Nat} (hq : q.command = .bind)
      (hbind : policy.allowBind = true) (hlisten : connector.listenFor q.address = .ok l)
      (hpeer : l.peer = .settled seconds (.ok c))
      (hallowed : peerAllowed q.address c.endpoint = true) : Remote policy connector q c

section

variable {policy : Policy} {connector : Connector} {faulty : Prop} {h : History}
  {remote : Option Connection}

/-- Whatever is served without an error has been requested, and has a remote
connection: the one that was dialed for the request, or the peer that was let in.
All other fates of a request end with an error or do not end. -/
theorem Way.granted (hway : Way policy connector faulty h (.ended (.ok ())) remote) :
    ∃ q c, Requested policy q h.receivedBytes ∧ Remote policy connector q c ∧ remote = some c := by
  generalize hr : Halt.ended (Except.ok ()) = r at hway
  cases hway with
  | unnegotiated hway hfails => cases hfails <;> cases hr
  | unrequested hway hg hstops hfails => cases hfails <;> cases hr
  | rejected => cases hr
  | @performed h g h' method q r remote hway hg hm hp =>
    cases hp with
    | cut => cases hr
    | @through opens replies _ _ hfate hdeeds =>
      have hopens : opens.receivedBytes = [] := by cases hfate.opens <;> rfl
      -- Nothing is taken between the request and the tunnel.
      have hgot : History.receivedBytes (h ++ g ++ h') = h.receivedBytes ++ g.receivedBytes := by
        rw [History.receivedBytes_append, History.receivedBytes_append,
          ← History.receivedBytes_deeds h', hdeeds, History.receivedBytes_append, hopens,
          History.receivedBytes_map_sent]
        simp
      rw [hgot]
      refine ⟨q, ?_⟩
      have hrequested : Requested policy q (h.receivedBytes ++ g.receivedBytes) :=
        ⟨_, _, _, hway.passed, hm, rfl⟩
      cases hfate with
      | connected hq hdial => exact ⟨_, hrequested, .dialed hq hdial, rfl⟩
      | peerWelcome hq hbind hlisten hpeer hallowed =>
        exact ⟨_, hrequested, .accepted hq hbind hlisten hpeer hallowed, rfl⟩
      | unserved | dialFailed | dialLate | dialStuck | listenFailed | acceptFailed | acceptLate
      | acceptStuck | peerRefused => cases hr

end

/-- A visit that carries every byte: what was taken for the negotiation and
the request and what went up are the client's bytes, what went down are
the remote's, and both streams were shut down. -/
structure Transparent (policy : Policy) (q : Request) (client remote : Stream) (v : Visit) :
    Prop where
  requested : Requested policy q v.history.receivedBytes
  tunnel : ∃ tunnel, v.tunnel = some tunnel ∧
    v.history.receivedBytes ++ tunnel.up = Script.bytes client.script ∧
    tunnel.down = Script.bytes remote.script ∧
    tunnel.clientClosed = true ∧ tunnel.remoteClosed = true
  unread : v.unread = []

/-- Which connection a served connection ends with, if it ends with a tunnel. -/
def Reached (policy : Policy) (connector : Connector) (client : Stream) (c : Connection) : Prop :=
  ((serve policy).run connector { stream := client }).scene.remote = some c

/-- Notes in a history take nothing from the stream. -/
theorem receivedBytes_noted (h : History) (entries : List Log.Entry) :
    History.receivedBytes (h ++ entries.map .noted) = h.receivedBytes := by
  have hnotes : History.receivedBytes (entries.map .noted) = [] := by
    induction entries with
    | nil => rfl
    | cons entry entries ih => exact ih
  rw [History.receivedBytes_append, hnotes, List.append_nil]

/-- A tunnel adds notes to the history only. What was taken from the client when it
opened is all that is ever taken outside of it. -/
theorem receivedBytes_visitThrough {s : Scene} {remote : Stream} {v : Visit}
    (h : visitThrough s remote = .finished v) :
    v.history.receivedBytes = s.history.receivedBytes := by
  unfold visitThrough at h
  dsimp only at h
  split at h <;> cases h
  exact receivedBytes_noted _ _

/-- Once the tunnel is open, a visit between clean streams is finished, and it is
transparent. The relay has all bytes of the client that were not taken before, so
nothing is lost where the two meet. -/
theorem visitThrough_isClean {policy : Policy} {q : Request} {client remote : Stream} {s : Scene}
    (hrequested : Requested policy q s.history.receivedBytes)
    (hbytes : s.history.receivedBytes ++ Script.bytes s.stream.script
      = Script.bytes client.script)
    (hstream : s.stream.IsClean) (hremote : remote.IsClean) :
    ∃ v, visitThrough s remote = .finished v ∧ v.result = .ok () ∧
      Transparent policy q client remote v := by
  have hcomplete := Relay.between_isClean hstream hremote
  unfold visitThrough
  dsimp only
  rw [hcomplete.ending]
  refine ⟨_, rfl, rfl, ?_, ⟨_, rfl, ?_, hcomplete.down_moved, hcomplete.down_closed,
    hcomplete.up_closed⟩, ?_⟩
  · rw [receivedBytes_noted]
    exact hrequested
  · rw [receivedBytes_noted, hcomplete.up_moved]
    exact hbytes
  · show Script.bytes (Relay.between s.stream remote).up.source = []
    rw [hcomplete.up_source]
    rfl

/-- A served connection has a remote connection, which was opened for the request
that was taken last, and the visit goes on with a tunnel to it. -/
theorem visit_of_ended {policy : Policy} {connector : Connector} {client : Stream} {s : Scene}
    (hrun : (serve policy).run connector { stream := client } = .ended (.ok ()) s) :
    ∃ q c, Requested policy q s.history.receivedBytes ∧ Remote policy connector q c ∧
      s.remote = some c ∧ visit policy connector client = visitThrough s c.stream := by
  obtain ⟨h, hh, hc⟩ := run_course connector True (serve policy) { stream := client } false
    (.inr trivial) (by simp)
  rw [hrun] at hh hc
  have hhistory : s.history = h := hh
  obtain ⟨q, c, hrequested, hremote, hopen⟩ := (way_of_course hc).granted
  have hopen : s.remote = some c := hopen
  rw [← hhistory] at hrequested
  exact ⟨q, c, hrequested, hremote, hopen, by simp only [visit, hrun, hopen]⟩

/-- If the streams on both sides are clean, such a visit comes to its end and is
transparent. The client's stream is still clean when the tunnel opens, and what it
has left is what the negotiation and the request have not taken. -/
theorem visitThrough_of_ended {policy : Policy} {connector : Connector} {client : Stream}
    {s : Scene} {q : Request} {remote : Stream} (hclient : client.IsClean)
    (hrun : (serve policy).run connector { stream := client } = .ended (.ok ()) s)
    (hrequested : Requested policy q s.history.receivedBytes) (hremote : remote.IsClean) :
    ∃ v, visitThrough s remote = .finished v ∧ v.result = .ok () ∧
      Transparent policy q client remote v := by
  have hbytes := received_append_unread connector (serve policy) { stream := client }
  have hstream := isClean_run connector (serve policy) { stream := client } hclient
  rw [hrun] at hbytes hstream
  exact visitThrough_isClean hrequested hbytes hstream hremote

/-- Only a served connection makes for a visit that succeeds. Whether the relay
fails later does not matter to the result. -/
theorem ended_of_visit {policy : Policy} {connector : Connector} {client : Stream} {v : Visit}
    (hv : visit policy connector client = .finished v) (hok : v.result = .ok ()) :
    ∃ s, (serve policy).run connector { stream := client } = .ended (.ok ()) s := by
  unfold visit at hv
  cases hrun : (serve policy).run connector { stream := client } with
  | late s =>
    rw [hrun] at hv
    cases hv
  | stuck s =>
    rw [hrun] at hv
    cases hv
  | ended r s =>
    rw [hrun] at hv
    cases r with
    | error e =>
      cases hv
      cases hok
    | ok u => exact ⟨s, rfl⟩

end Server

end Socks5
