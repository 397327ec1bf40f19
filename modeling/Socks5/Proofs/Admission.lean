import Socks5.Proofs.Deadline
import Socks5.Proofs.FailStop
import Socks5.Proofs.Literal

/-!
# `Socks5.Proofs.Admission`: who may use the listener of a BIND

A BIND names the peer that the client expects. `Invites` says which peers a
request names: all of them, by a name or an unspecified address, or those of one
host. An IPv4 address and its mapped form `::ffff:a.b.c.d` denote the same host
(`IP.SameHost`), and where texts are read the one is taken for the other.

* `peerAllowed_iff`: the server compares addresses of the same family only, so it
  admits fewer peers than are invited.
* `invites_not_admits_iff`: just those are turned away that come from the other
  form of the address. A listener for both families sees IPv4 peers in that form.
* `Called.run_eq`: when the peer has called in time, all that is left is to welcome
  it.
* `bind_admission`: the replies, the result and the relay follow from whether it is
  admitted. `bind_refuses_invited` is a case in which it should be and is not.
-/

set_option autoImplicit false

namespace Socks5

open Net Dialogue

/-! ### Hosts -/

namespace Net.IP

/-- The sixteen octets of an address. An IPv4 address has those of `::ffff:a.b.c.d`. -/
def hostOctets : IP → Bytes
  | .v4 a => List.replicate 10 0 ++ [0xff, 0xff] ++ a.octets
  | .v6 a => a.octets

/-- Whether two addresses denote the same host. -/
def SameHost (a b : IP) : Prop := a.hostOctets = b.hostOctets

instance (a b : IP) : Decidable (SameHost a b) := inferInstanceAs (Decidable (_ = _))

/-- Two IPv4 addresses denote the same host only if they are equal, since the
octets before them are the same for all. -/
theorem sameHost_v4_iff {a b : IPv4} : SameHost (.v4 a) (.v4 b) ↔ a = b := by
  constructor
  · intro h
    obtain ⟨o0, o1, o2, o3⟩ := a
    obtain ⟨p0, p1, p2, p3⟩ := b
    have hoctets : IPv4.octets ⟨o0, o1, o2, o3⟩ = IPv4.octets ⟨p0, p1, p2, p3⟩ :=
      List.append_cancel_left h
    simpa [IPv4.octets] using hoctets
  · rintro rfl
    rfl

/-- Within the other family every host has one address, too. -/
theorem sameHost_v6_iff {a b : IPv6} : SameHost (.v6 a) (.v6 b) ↔ a = b := by
  constructor
  · exact IPv6.octets_inj
  · rintro rfl
    rfl

/-- An IPv6 address denotes the host of an IPv4 address just if it embeds that
address. -/
theorem sameHost_mapped_iff {a : IPv6} {b : IPv4} :
    SameHost (.v6 a) (.v4 b) ↔ a.mapped? = some b :=
  IPv6.mapped?_eq_some_iff.symm

/-- The same with the two addresses exchanged. -/
theorem sameHost_mapped_iff' {a : IPv6} {b : IPv4} :
    SameHost (.v4 b) (.v6 a) ↔ a.mapped? = some b :=
  eq_comm.trans sameHost_mapped_iff

/-- Whether one address is the other one in its mapped form `::ffff:a.b.c.d`. -/
def Twins : IP → IP → Prop
  | .v6 a, .v4 b | .v4 b, .v6 a => a.mapped? = some b
  | .v4 _, .v4 _ | .v6 _, .v6 _ => False

end Net.IP

/-! ### Ports -/

/-- The endpoint at another port. -/
def Net.Endpoint.at (port : UInt16) : Endpoint → Endpoint
  | .v4 a _ => .v4 a port
  | .v6 a _ flow scope => .v6 a port flow scope

/-- The address with another port. -/
def Address.at (port : UInt16) : Address → Address
  | .ip e => .ip (e.at port)
  | .name host _ => .name host port

namespace Server

/-! ### Invitations -/

/-- Whether a request names a peer: any peer, by a name or by an unspecified address, or
the host of the peer. -/
def Invites (target : Address) (peer : Endpoint) : Prop :=
  match target with
  | .ip e => e.ip.isUnspecified = true ∨ e.ip.SameHost peer.ip
  | .name .. => True

/-- Whether a request names one host by an address of the family that the peer does not
come from. -/
def Crosses (target : Address) (peer : Endpoint) : Prop :=
  match target with
  | .ip e => e.ip.isUnspecified = false ∧ (Address.ip e).type ≠ (Address.ip peer).type
  | .name .. => False

/-- Whether a server lets a peer in: it is invited, and no address is compared with one of
the other family. -/
def Admits (target : Address) (peer : Endpoint) : Prop :=
  Invites target peer ∧ ¬ Crosses target peer

/-- The server admits a peer just if it is invited and no address is compared with
one of the other family. So the comparison of the server and the notion of a host
part ways in one case only. -/
theorem peerAllowed_iff (target : Address) (peer : Endpoint) :
    peerAllowed target peer = true ↔ Admits target peer := by
  cases target with
  | name host port => simp [peerAllowed, Admits, Invites, Crosses]
  | ip e =>
    have hequal : e.ip = peer.ip ↔
        e.ip.SameHost peer.ip ∧ (Address.ip e).type = (Address.ip peer).type := by
      cases e <;> cases peer <;>
        simp [Endpoint.ip, Address.type, IP.sameHost_v4_iff, IP.sameHost_v6_iff]
    by_cases hany : e.ip.isUnspecified = true
    · simp [peerAllowed, Admits, Invites, Crosses, hany]
    · simp [peerAllowed, Admits, Invites, Crosses, hany, hequal]

/-- Ports play no part in it: a peer calls from any port, and the port of a
request is not looked at. -/
theorem admits_at (target : Address) (peer : Endpoint) (port port' : UInt16) :
    Admits (target.at port) (peer.at port') ↔ Admits target peer := by
  cases target with
  | name host p => exact Iff.rfl
  | ip e => cases e <;> cases peer <;> exact Iff.rfl

/-- Who is invited and turned away all the same: a peer that comes from the mapped
form of the address that was asked for, or the other way round. -/
theorem invites_not_admits_iff (target : Address) (peer : Endpoint) :
    Invites target peer ∧ ¬ Admits target peer ↔
      ∃ e, target = .ip e ∧ e.ip.isUnspecified = false ∧ e.ip.Twins peer.ip := by
  cases target with
  | name host port => simp [Admits, Invites, Crosses]
  | ip e =>
    -- Twins are the addresses that name one host and differ in their family. Both halves
    -- below go through this form.
    have htwins : e.ip.Twins peer.ip ↔
        e.ip.SameHost peer.ip ∧ (Address.ip e).type ≠ (Address.ip peer).type := by
      cases e <;> cases peer <;>
        simp [Endpoint.ip, Address.type, IP.Twins, IP.sameHost_mapped_iff, IP.sameHost_mapped_iff']
    by_cases hany : e.ip.isUnspecified = true
    · -- An unspecified target invites everybody, and everybody is let in.
      simp [Admits, Invites, Crosses, hany]
    · rw [Bool.not_eq_true] at hany
      constructor
      · rintro ⟨hinvited, hturned⟩
        have hsame := hinvited.resolve_left (by simp [hany])
        refine ⟨e, rfl, hany, htwins.mpr ⟨hsame, ?_⟩⟩
        intro htype
        exact hturned ⟨hinvited, fun hcrosses => hcrosses.2 htype⟩
      · rintro ⟨_, ⟨⟩, -, hpair⟩
        obtain ⟨hsame, htype⟩ := htwins.mp hpair
        exact ⟨.inr hsame, fun hadmits => hadmits.2 ⟨hany, htype⟩⟩

/-! ### The wait for a peer -/

section

variable {connector : Connector} {policy : Policy} {client : Stream}

/-- What can be settled within a number of seconds is seen before a deadline that
is so far away, also at the very moment of the deadline. -/
theorem await_of_le {α : Type} {seconds limit : Nat} (h : seconds ≤ limit) (r : Except IoError α)
    (clock : Nat) :
    (Attempt.settled seconds r).await (deadline? clock limit) clock
      = .result (clock + seconds) r := by
  by_cases hrange : limit < clockRange
  · rw [deadline?_eq_some hrange]
    refine if_neg ?_
    omega
  · rw [deadline?_eq_none_iff.mpr (Nat.le_of_not_lt hrange)]
    rfl

/-- The scene once a peer has called. -/
def calledScene (seconds : Nat) (c : Connection) (s : Scene) : Scene :=
  { s with clock := s.clock + seconds, deadline := none, remote := some c }

/-- A peer that calls in time is what the server goes on with. The deadline is
lifted when the peer is there, so it plays no part in what follows. -/
theorem run_accept_of_le (connector : Connector) {β : Type} {l : Listener} {c : Connection}
    {seconds limit : Nat} (hpeer : l.peer = .settled seconds (.ok c)) (hintime : seconds ≤ limit)
    (late : Dialogue β) (k : Except IoError Endpoint → Dialogue β) {s : Scene}
    (hl : s.listener = some l) :
    run connector (.within limit late (.accept fun a => .release (k a))) s
      = run connector (k (.ok c.endpoint)) (calledScene seconds c s) := by
  have harmed : (s.armed limit).listener = some l := hl
  have hawait : l.peer.await (s.armed limit).deadline (s.armed limit).clock
      = .result (s.clock + seconds) (.ok c) := by
    rw [hpeer]
    exact await_of_le hintime (.ok c) s.clock
  have hcall : run connector (.accept fun a => .release (k a)) (s.armed limit)
      = run connector (k (.ok c.endpoint)) (calledScene seconds c s) := by
    rw [run_accept connector harmed, runAttempt_of_result hawait]
    rfl
  rw [run_within_armed, hcall]
  -- The deadline is lifted once the peer is there, so nothing is late behind it.
  have hfree : ∀ s', run connector (k (.ok c.endpoint)) (calledScene seconds c s) ≠ .late s' :=
    run_ne_late _ rfl
  cases hrun : run connector (k (.ok c.endpoint)) (calledScene seconds c s) with
  | late s' => exact absurd hrun (hfree s')
  | ended | stuck => rfl

/-! ### The second reply -/

/-- Writing to a sure outlet leaves the message in the history and changes nothing
else. -/
theorem send_of_sure {s : Scene} (hsure : s.stream.outlet.Sure) (bs : Bytes) :
    s.send bs = (.ok (), s.mark (.sent bs)) := by
  rw [Scene.send, Outlet.send_of_sure hsure]

/-- A message that was sent is the last one of the history. -/
theorem messages_mark_sent (s : Scene) (m : Bytes) :
    (s.mark (.sent m)).history.messages = s.history.messages ++ [m] :=
  History.messages_append s.history [.sent m]

/-- A note is no message. -/
theorem messages_mark_noted (s : Scene) (entry : Log.Entry) :
    (s.mark (.noted entry)).history.messages = s.history.messages :=
  (History.messages_append s.history [.noted entry]).trans (List.append_nil _)

/-- A peer that is admitted is welcomed with a reply that carries its address, and
the service succeeds. -/
theorem run_welcome_of_admits (connector : Connector) {target : Address} {peer : Endpoint}
    (h : Admits target peer) {s : Scene} (hsure : s.stream.outlet.Sure) :
    ∃ entry, run connector (welcome target peer) s = .ended (.ok ())
      ((s.mark (.sent (Reply.successFrame peer))).mark (.noted entry)) := by
  rw [welcome, if_pos ((peerAllowed_iff target peer).mpr h), run_grant, send_of_sure hsure]
  exact ⟨_, rfl⟩

/-- A peer that is not admitted is turned away. The client is told so with the
failure that rules forbid, and this is the error of the service, too. -/
theorem run_welcome_of_not_admits (connector : Connector) {target : Address} {peer : Endpoint}
    (h : ¬ Admits target peer) {s : Scene} (hsure : s.stream.outlet.Sure) :
    ∃ entry, run connector (welcome target peer) s
      = .ended (.error (.protocol (.rejected .connectionNotAllowed)))
        ((s.mark (.noted entry)).mark (.sent (Reply.failureFrame .connectionNotAllowed))) := by
  rw [welcome, if_neg (mt (peerAllowed_iff target peer).mp h)]
  generalize hentry : Log.Entry.mk .warn
    s!"BIND peer {peer.toText} does not match requested {target.toText}" = entry
  have hsend := send_of_sure (s := s.mark (.noted entry)) hsure
    (Reply.failureFrame .connectionNotAllowed)
  refine ⟨entry, ?_⟩
  show run connector (.note _ (.send (Reply.failureFrame .connectionNotAllowed) _)) s = _
  rw [run, hentry, run, hsend]
  rfl

/-- A request that was read in time has left its client's outlet sure: neither the
negotiation nor the reading of a request spoils it. -/
theorem Asked.sure {q : Request} {s : Scene} (h : Asked policy connector client q s)
    (hsure : client.outlet.Sure) : s.stream.outlet.Sure := by
  cases h with
  | @intro method q t s hnegotiated hread htime =>
    obtain ⟨hnegotiate, -⟩ := hnegotiated
    have hfirst := sure_run connector (Negotiation.negotiate policy).run (.atStart client) hsure
    rw [hnegotiate] at hfirst
    have hsecond := sure_run connector Request.read.run (negotiatedScene method t) hfirst
    rw [hread] at hsecond
    exact hsecond

/-- A client has asked for a listener, and has got one that a peer calls in time. -/
structure Called (policy : Policy) (connector : Connector) (client : Stream) (q : Request)
    (s : Scene) (l : Listener) (c : Connection) : Prop where
  asked : Asked policy connector client q s
  command : q.command = .bind
  allowed : policy.allowBind = true
  listens : connector.listenFor q.address = .ok l
  calls : ∃ seconds ≤ policy.connectTimeout, l.peer = .settled seconds (.ok c)

/-- A BIND whose peer calls in time comes down to whether the peer is welcome. By
then the client has been told where the server listens, and nothing else has
happened since the request. -/
theorem Called.run_eq {q : Request} {s : Scene} {l : Listener} {c : Connection}
    (h : Called policy connector client q s l c) (hsure : s.stream.outlet.Sure) :
    ∃ t, run connector (serve policy) (.atStart client)
        = run connector (welcome q.address c.endpoint) t ∧
      t.history.messages = s.history.messages ++ [Reply.successFrame l.endpoint] ∧
      t.stream = s.stream ∧ t.remote = some c := by
  have hgrant := send_of_sure (s := listeningScene q.address l (requestedScene q s)) hsure
    (Reply.successFrame l.endpoint)
  have hbegins : Begins policy connector client (.accept q.address l) _ :=
    .accept h.asked h.command h.allowed h.listens hgrant
  obtain ⟨seconds, hintime, hpeer⟩ := h.calls
  have hcalled := run_accept_of_le connector hpeer hintime
    (log .warn s!"No inbound connection on {l.endpoint.toText} before deadline"
      (failWith .ttlExpired (.timeout s!"BIND accept on {l.endpoint.toText}")))
    (afterAccept q.address) hbegins.listener_eq
  refine ⟨_, (run_of_begins hbegins).trans hcalled, ?_, rfl, rfl⟩
  simp [calledScene, acceptingScene, listeningScene, requestedScene, Scene.mark, History.messages]

end

/-! ### Admission -/

/-- How a visit goes whose client has asked for a listener in the scene `s`, and whose peer
`c` is let in: the second reply carries the address of the peer, and a relay has all that
the client still sends. -/
structure LetsIn (s : Scene) (l : Listener) (c : Connection)
    (p : Progress (Except ServiceError Unit)) (v : Visited) : Prop where
  halt : p.halt = .ended (.ok ())
  messages : p.scene.history.messages
    = s.history.messages ++ [Reply.successFrame l.endpoint, Reply.successFrame c.endpoint]
  stream : p.scene.stream = s.stream
  visit : v = visitThrough p.scene c.stream

/-- How it goes if the peer is turned away: the second reply is the failure, and it is the
last thing that is said. There is no tunnel, and what the client still sends is not read. -/
structure TurnsAway (s : Scene) (l : Listener) (p : Progress (Except ServiceError Unit))
    (v : Visited) : Prop where
  halt : p.halt = .ended (.error (.protocol (.rejected .connectionNotAllowed)))
  messages : p.scene.history.messages = s.history.messages ++
    [Reply.successFrame l.endpoint, Reply.failureFrame .connectionNotAllowed]
  visit : ∃ w, v = .finished w ∧
    w.result = .error (.protocol (.rejected .connectionNotAllowed)) ∧ w.tunnel = none ∧
    w.history = p.scene.history ∧ w.unread = Script.bytes s.stream.script

section

variable {policy : Policy} {connector : Connector} {client : Stream} {q : Request} {s : Scene}
  {l : Listener} {c : Connection}

/-- The relay of a connection that is granted is the one with its remote side. -/
theorem visitFrom_of_remote {u : Scene} (h : u.remote = some c) :
    visitFrom (.ended (.ok ()) u) = visitThrough u c.stream := by
  rw [visitFrom, h]

/-- A peer that is admitted is let in: the second reply names it, and the relay
has all that the client still sends. -/
theorem Called.letsIn (h : Called policy connector client q s l c) (hsure : client.outlet.Sure)
    (hadmits : Admits q.address c.endpoint) :
    LetsIn s l c (run connector (serve policy) (.atStart client))
      (visit policy connector client) := by
  obtain ⟨t, hrun, hmessages, hstream, hremote⟩ := h.run_eq (h.asked.sure hsure)
  have hsure : t.stream.outlet.Sure := hstream ▸ h.asked.sure hsure
  obtain ⟨entry, hwelcome⟩ := run_welcome_of_admits connector hadmits hsure
  rw [visit_eq, hrun, hwelcome]
  refine ⟨rfl, ?_, hstream, ?_⟩
  · show ((t.mark _).mark _).history.messages = _
    rw [messages_mark_noted, messages_mark_sent, hmessages, List.append_assoc]
    rfl
  · exact visitFrom_of_remote hremote

/-- A peer that is not admitted is turned away, and the visit is over with the
second reply. -/
theorem Called.turnsAway (h : Called policy connector client q s l c)
    (hsure : client.outlet.Sure) (hadmits : ¬ Admits q.address c.endpoint) :
    TurnsAway s l (run connector (serve policy) (.atStart client))
      (visit policy connector client) := by
  obtain ⟨t, hrun, hmessages, hstream, -⟩ := h.run_eq (h.asked.sure hsure)
  have hsure : t.stream.outlet.Sure := hstream ▸ h.asked.sure hsure
  obtain ⟨entry, hwelcome⟩ := run_welcome_of_not_admits connector hadmits hsure
  rw [visit_eq, hrun, hwelcome]
  refine ⟨rfl, ?_, _, rfl, rfl, rfl, rfl, ?_⟩
  · show ((t.mark _).mark _).history.messages = _
    rw [messages_mark_sent, messages_mark_noted, hmessages, List.append_assoc]
    rfl
  · show Script.bytes t.stream.script = _
    rw [hstream]

/-- Whom a server lets in that listens for a client. If the peer calls in time and the
client takes what is written, the peer is let in just if the request admits it, and else
turned away. Ports do not matter. Of the peers that a request invites it does not admit
those that come from the mapped form of the address that was asked for, or the other way
round. -/
theorem bind_admission (hcalled : Called policy connector client q s l c)
    (hsure : client.outlet.Sure) :
    (Admits q.address c.endpoint →
      LetsIn s l c (run connector (serve policy) (.atStart client))
        (visit policy connector client)) ∧
    (¬ Admits q.address c.endpoint →
      TurnsAway s l (run connector (serve policy) (.atStart client))
        (visit policy connector client)) ∧
    (∀ port port', Admits (q.address.at port) (c.endpoint.at port') ↔
      Admits q.address c.endpoint) ∧
    (Invites q.address c.endpoint ∧ ¬ Admits q.address c.endpoint ↔
      ∃ e, q.address = .ip e ∧ e.ip.isUnspecified = false ∧ e.ip.Twins c.endpoint.ip) :=
  ⟨hcalled.letsIn hsure, hcalled.turnsAway hsure, admits_at q.address c.endpoint,
    invites_not_admits_iff q.address c.endpoint⟩

end

/-- A client that asks for a listener for the given address, and says `hi`. -/
def listeningClient (frame : Bytes) : Stream where
  script := [.bytes [5, 1, 0], .bytes ([5, 2, 0] ++ frame), .bytes [104, 105]]

/-- A peer with the address 127.0.0.1. -/
def loopbackPeer : Connection where
  endpoint := .v4 ⟨127, 0, 0, 1⟩ 2222
  stream := {}

/-- A listener that it calls after three seconds. -/
def loopbackListener : Listener where
  endpoint := .v4 ⟨127, 0, 0, 1⟩ 1111
  peer := .settled 3 (.ok loopbackPeer)

/-- Whatever a listener is asked for, it is this one. -/
def callingConnector : Connector where
  dial _ := .never
  listen := some fun _ => .ok loopbackListener

/-- A peer is let in whose address was asked for, at another port. The check
compares addresses only: the port that the peer connects from is not known
beforehand. -/
theorem bind_admission_of_other_port :
    ∃ s, Called { allowBind := true } callingConnector
        (listeningClient [1, 127, 0, 0, 1, 0, 80]) ⟨.bind, .ip (.v4 ⟨127, 0, 0, 1⟩ 80)⟩ s
        loopbackListener loopbackPeer ∧
      (listeningClient [1, 127, 0, 0, 1, 0, 80]).outlet.Sure ∧
      LetsIn s loopbackListener loopbackPeer
        (run callingConnector (serve { allowBind := true })
          (.atStart (listeningClient [1, 127, 0, 0, 1, 0, 80])))
        (visit { allowBind := true } callingConnector
          (listeningClient [1, 127, 0, 0, 1, 0, 80])) := by
  have hnegotiated : Negotiated { allowBind := true } callingConnector
      (listeningClient [1, 127, 0, 0, 1, 0, 80]) .noAuth _ :=
    ⟨rfl, fun h => absurd (h _ _ rfl) (by decide)⟩
  have hasked : Asked { allowBind := true } callingConnector
      (listeningClient [1, 127, 0, 0, 1, 0, 80]) ⟨.bind, .ip (.v4 ⟨127, 0, 0, 1⟩ 80)⟩ _ :=
    ⟨hnegotiated, rfl, fun h => absurd (h _ _ rfl) (by decide)⟩
  have hcalled := Called.mk hasked rfl rfl rfl ⟨3, by decide, rfl⟩
  have hadmits : Admits (.ip (.v4 ⟨127, 0, 0, 1⟩ 80)) loopbackPeer.endpoint :=
    ⟨.inr (by decide), by simp [Crosses, loopbackPeer, Address.type]⟩
  exact ⟨_, hcalled, ⟨rfl, rfl⟩, (bind_admission hcalled ⟨rfl, rfl⟩).1 hadmits⟩

/-- The frame of `::ffff:127.0.0.1`, with the port 0. -/
def mappedFrame : Bytes :=
  [4, 0, 0, 0, 0, 0, 0, 0, 0, 0, 0, 255, 255, 127, 0, 0, 1, 0, 0]

/-- What is read from it. -/
def mappedLoopback : Address := .ip (.v6 ⟨0, 0, 0, 0, 0, 0xffff, 0x7f00, 1⟩ 0 0 0)

/-- A peer that is invited by the mapped form of its address is turned away. Both
name the same host, but the comparison is one of the two families, and they
differ. -/
theorem bind_refuses_invited :
    Invites mappedLoopback loopbackPeer.endpoint ∧
      ∃ s, Called { allowBind := true } callingConnector (listeningClient mappedFrame)
          ⟨.bind, mappedLoopback⟩ s loopbackListener loopbackPeer ∧
        (listeningClient mappedFrame).outlet.Sure ∧
        TurnsAway s loopbackListener
          (run callingConnector (serve { allowBind := true })
            (.atStart (listeningClient mappedFrame)))
          (visit { allowBind := true } callingConnector (listeningClient mappedFrame)) := by
  have hnegotiated : Negotiated { allowBind := true } callingConnector
      (listeningClient mappedFrame) .noAuth _ :=
    ⟨rfl, fun h => absurd (h _ _ rfl) (by decide)⟩
  have hasked : Asked { allowBind := true } callingConnector (listeningClient mappedFrame)
      ⟨.bind, mappedLoopback⟩ _ :=
    ⟨hnegotiated, rfl, fun h => absurd (h _ _ rfl) (by decide)⟩
  have hcalled := Called.mk hasked rfl rfl rfl ⟨3, by decide, rfl⟩
  have hcrosses : Crosses mappedLoopback loopbackPeer.endpoint :=
    ⟨rfl, by simp [loopbackPeer, Address.type]⟩
  refine ⟨.inr (by decide), _, hcalled, ⟨rfl, rfl⟩, hcalled.turnsAway ⟨rfl, rfl⟩ ?_⟩
  intro hadmits
  exact hadmits.2 hcrosses

end Server

end Socks5
