import Socks5.Proofs.Agreement
import Socks5.Proofs.Tunnel

/-!
# `Socks5.Proofs.Transparency`: a tunnel carries every byte

What holds of a visit (`Socks5.Proofs.Tunnel`) holds of a session, too:
once the handshake has granted a CONNECT, the remote side receives the
bytes that the client sends, and the client receives the remote's.

* `complete_relay`: the relay of a session with a clean remote moves every
  byte.
* `granted_of_meet`: only a dial that succeeds lets a handshake succeed.
  This needs no time for the handshake, since without time nothing
  succeeds (`meet_of_no_time`).
* `transparent`: visits and sessions.
-/

set_option autoImplicit false

namespace Socks5.Session

open Net Dialogue Server

/-- In a session the server moves first, and every byte still gets to where it
should: the lane that went ahead is fair afterwards, too. -/
theorem complete_relay (sent : Bytes) {remote : Stream} (hremote : remote.IsClean) :
    Relay.Complete sent (Script.bytes remote.script) (relay sent remote) := by
  let up : Relay.Lane := { source := [.bytes sent], sink := remote.outlet }
  let down : Relay.Lane := { source := remote.script, sink := {} }
  have hup : up.Fair sent := by
    refine Relay.Lane.fair_of_clean ?_ hremote.sure ?_
    · intro step hstep
      obtain rfl := List.mem_singleton.mp hstep
      trivial
    · simp [up, Script.bytes]
  have hdown : down.Fair (Script.bytes remote.script) :=
    Relay.Lane.fair_of_clean hremote.smooth ⟨rfl, rfl⟩ rfl
  simp only [relay, Relay.lanes]
  -- What the server moved before the client's first byte was there is on the
  -- books already.
  cases hadvance : down.advance with
  | mk down' motion =>
    obtain ⟨hdown', hrests⟩ := hdown.advance hadvance
    cases hrests with
    | finished => exact Relay.run_fair 0 up down' hup hdown'
    | waiting => exact Relay.run_fair 0 up down' hup hdown'

/-- A server without time to wait for bytes goes on late. On a script the bytes
could be there already; in a session the client has not sent any yet. -/
theorem turn_no_time {β : Type} (connector : Connector) (late : Dialogue β) {n : Nat} (hn : 0 < n)
    (shape : Shape) (k : Except IoError (Vector UInt8 n) → Dialogue β) :
    turn connector (.pending (.within 0 late (.recv n shape k)), {})
      = attend connector late {} := by
  -- The dialogue waits first, but its deadline is over when it does.
  have hlen : ¬ n ≤ ([] : Bytes).length := Nat.not_le.mpr hn
  have hdeadline : deadline? 0 0 = some 0 := deadline?_eq_some (by decide)
  have hattend : attend connector (.within 0 late (.recv n shape k)) {}
      = (.pending (.recv n shape k), { deadline := some (0, late) }) := by
    rw [attend, attend, dif_neg hlen, hdeadline]
    rfl
  simp only [turn, hattend]
  rfl

/-- A server without time for the handshake is gone before the client has sent
anything. The client notices when it writes its greeting, unless its target was no
address in the first place. -/
theorem meet_of_no_time {policy : Policy} (hs : policy.handshakeTimeout = 0)
    (connector : Connector) (command : Command) (target : String)
    (credentials : Option Credentials) :
    ∃ e r, meet policy connector command target credentials = some (.error e, r) := by
  obtain ⟨b, d, hstart⟩ : ∃ b d,
      turn connector (Stand.pending (serve policy), {}) = (.left b, d) := by
    rw [serve_eq, withDeadline_bind, hs]
    exact ⟨_, _, turn_no_time connector _ Nat.one_pos _ _⟩
  rw [meet, hstart]
  cases hparse : Address.parse target with
  | error e =>
    rw [handshake_of_error hparse]
    exact ⟨e, _, rfl⟩
  | ok a =>
    -- The pipe is broken, and the greeting is not delivered.
    obtain ⟨-, frame, ha⟩ := Address.encode_of_parse hparse
    rw [handshake_of_ok hparse ha]
    exact ⟨_, _, rfl⟩

/-- Only a dial that succeeds is granted. A dial that is late or refused is told
to the client with a failure. -/
theorem dial_of_granted {policy : Policy} {target : Address} {attempt : Attempt Connection}
    {c : Connection} (h : Treatment.ofDial policy target attempt = .granted c) :
    ∃ seconds, attempt = .settled seconds (.ok c) := by
  cases attempt with
  | never =>
    simp only [Treatment.ofDial] at h
    split at h <;> cases h
  | settled seconds r =>
    simp only [Treatment.ofDial] at h
    split at h
    · cases h
    · cases r with
      | ok c' =>
        cases h
        exact ⟨seconds, rfl⟩
      | error e => cases h

/-- Only a target that parses and answers its dial is granted. The case split
follows the order in which a session can fail: text, credentials, dial. -/
theorem parse_of_granted {policy : Policy} {connector : Connector} {target : String}
    {credentials : Option Credentials} {c : Connection}
    (h : Verdict.of policy connector .connect target credentials = .granted c) :
    ∃ a seconds, Address.parse target = .ok a ∧
      connector.dial a = .settled seconds (.ok c) := by
  unfold Verdict.of at h
  cases hparse : Address.parse target with
  | error e =>
    rw [hparse] at h
    cases h
  | ok a =>
    rw [hparse] at h
    dsimp only at h
    cases hquarrel : quarrel policy credentials with
    | some errors =>
      rw [hquarrel] at h
      cases h
    | none =>
      rw [hquarrel] at h
      -- Nothing but a dial that is granted makes the session granted.
      have htreatment : Treatment.ofDial policy a (connector.dial a) = .granted c := by
        change Verdict.ofTreatment (Treatment.ofDial policy a (connector.dial a)) = _ at h
        cases hdial : Treatment.ofDial policy a (connector.dial a) with
        | granted c' =>
          rw [hdial] at h
          cases h
          rfl
        | refused code e =>
          rw [hdial] at h
          cases h
        | endless =>
          rw [hdial] at h
          cases h
      obtain ⟨seconds, hdial⟩ := dial_of_granted htreatment
      exact ⟨a, seconds, rfl, hdial⟩

/-- Only a connection that the connector dialed for the target lets the handshake
of a CONNECT succeed. A server without time is excluded first, since the verdict
is about servers that have some. -/
theorem granted_of_meet {policy : Policy} {connector : Connector} {target : String}
    {credentials : Option Credentials} {bound : Address}
    {r : Stand (Except ServiceError Unit) × Desk (Except ServiceError Unit)}
    (hmeet : meet policy connector .connect target credentials = some (.ok bound, r)) :
    ∃ a seconds c, Address.parse target = .ok a ∧
      connector.dial a = .settled seconds (.ok c) ∧ bound = (Address.ip c.endpoint).framed ∧
      Comes connector (meet policy connector .connect target credentials) (.granted c) := by
  rcases Nat.eq_zero_or_pos policy.handshakeTimeout with hs | hs
  · obtain ⟨e, r', hmeet'⟩ := meet_of_no_time hs connector .connect target credentials
    rw [hmeet'] at hmeet
    cases hmeet
  · have hcomes := comes_handshake policy connector .connect target credentials hs nofun
    cases hv : Verdict.of policy connector .connect target credentials with
    | failed client server =>
      rw [hv, hmeet] at hcomes
      -- A verdict of failure means an error for the client, who has a success.
      obtain ⟨_, _, heq, -⟩ := hcomes
      cases heq
    | endless =>
      rw [hv, hmeet] at hcomes
      cases hcomes
    | granted c =>
      rw [hv] at hcomes
      obtain ⟨a, seconds, hparse, hdial⟩ := parse_of_granted hv
      refine ⟨a, seconds, c, hparse, hdial, ?_, hcomes⟩
      -- The address that the client was told is the one of this connection.
      obtain ⟨d, heq, -⟩ := hcomes
      rw [hmeet] at heq
      cases heq
      rfl

/-- A session whose handshake succeeds carries every byte both ways. The remote
side has to be clean; the client's end of the session is so by its nature. -/
theorem run_of_granted {policy : Policy} {connector : Connector} {command : Command}
    {target : String} {credentials : Option Credentials} {c : Connection}
    (hcomes : Comes connector (meet policy connector command target credentials) (.granted c))
    (hclean : c.stream.IsClean) (sent : Bytes) :
    (run policy connector command target credentials sent).map Outcome.ending
      = some ⟨.ok (Address.ip c.endpoint).framed, Script.bytes c.stream.script, .ok (), sent⟩ := by
  have hcomplete := complete_relay sent hclean
  rw [ending_of_comes hcomes sent, Verdict.ending]
  rw [hcomplete.ending, if_neg (by simp), hcomplete.down_moved, hcomplete.up_moved]

/-- No byte is lost, doubled, swallowed or moved out of its place where the
negotiation ends and the tunnel begins. A visit between clean streams that
succeeds has taken the negotiation and the request, and nothing else, before
the tunnel carries the rest of the client's bytes up and all of the remote's
bytes down. The remote side is the connection that the visit itself has opened
for that request, so another one that the connector might have opened does not
matter. In a session whose handshake succeeds with a CONNECT, the remote
side receives what the client sends, and the client what the remote sends. -/
theorem transparent (policy : Policy) (connector : Connector) :
    (∀ client v, client.IsClean → visit policy connector client = .finished v →
        v.result = .ok () →
      ∃ q c, Reached policy connector client c ∧ Requested policy q v.history.receivedBytes ∧
        Remote policy connector q c ∧
        (c.stream.IsClean → Transparent policy q client c.stream v)) ∧
    ∀ target credentials bound r,
        meet policy connector .connect target credentials = some (.ok bound, r) →
      ∃ a seconds c, Address.parse target = .ok a ∧
        connector.dial a = .settled seconds (.ok c) ∧
        (c.stream.IsClean → ∀ sent, ∃ o,
          run policy connector .connect target credentials sent = some o ∧
            o.client = .ok bound ∧ o.server = .ok () ∧ o.remoteGot = sent ∧
            o.received = Script.bytes c.stream.script) := by
  refine ⟨?_, ?_⟩
  · intro client v hclient hv hok
    obtain ⟨s, hrun⟩ := ended_of_visit hv hok
    -- The visit goes on through the connection that the run has left open. It is named
    -- before anything is asked of it.
    obtain ⟨q, c, hrequested, hremote, hopen, hvisit⟩ := visit_of_ended hrun
    rw [hvisit] at hv
    have hreached : Reached policy connector client c := by
      unfold Reached
      rw [hrun]
      exact hopen
    refine ⟨q, c, hreached, ?_, hremote, fun hclean => ?_⟩
    · rw [receivedBytes_visitThrough hv]
      exact hrequested
    · obtain ⟨v', hv', -, htransparent⟩ :=
        visitThrough_of_ended hclient hrun hrequested hclean
      cases hv.symm.trans hv'
      exact htransparent
  · intro target credentials bound r hmeet
    obtain ⟨a, seconds, c, hparse, hdial, rfl, hcomes⟩ := granted_of_meet hmeet
    refine ⟨a, seconds, c, hparse, hdial, fun hclean sent => ?_⟩
    obtain ⟨o, hrun, hending⟩ := Option.map_eq_some_iff.mp (run_of_granted hcomes hclean sent)
    refine ⟨o, hrun, ?_⟩
    obtain ⟨client, received, server, remoteGot, history⟩ := o
    cases hending
    exact ⟨rfl, rfl, rfl, rfl⟩

/-- A connector whose every dial reaches a remote side that says three
bytes. -/
def talkingConnector : Connector :=
  { dial := fun _ => .settled 0 (.ok ⟨.v4 ⟨10, 0, 0, 1⟩ 4000,
      { script := [.bytes [1, 2], .wait 5, .bytes [3]] }⟩) }

/-- A client that does not wait for any answer. -/
def eagerClient : Stream :=
  { script := [.bytes [5, 1, 2, 1, 1, 117, 1, 112, 5, 1, 0, 1, 127, 0, 0, 1, 0, 80, 8, 9]] }

/-- The stream of this client neither fails nor stalls, and takes all bytes. -/
theorem isClean_eagerClient : eagerClient.IsClean :=
  ⟨by simp [eagerClient, Script.IsSmooth, Step.IsSmooth], rfl, rfl⟩

/-- Every remote side of this connector is clean. -/
theorem isClean_talkingConnector {target : Address} {seconds : Nat} {c : Connection}
    (h : talkingConnector.dial target = .settled seconds (.ok c)) : c.stream.IsClean := by
  cases h
  exact ⟨by simp [Script.IsSmooth, Step.IsSmooth], rfl, rfl⟩

/-- So whatever this connector opens for a request is clean. -/
theorem isClean_of_remote {q : Request} {c : Connection}
    (h : Remote loginPolicy talkingConnector q c) : c.stream.IsClean := by
  cases h with
  | dialed hq hdial => exact isClean_talkingConnector hdial
  | accepted hq hbind hlisten => cases hlisten

/-- Whether a connection got as far as a tunnel. -/
def isServed : Progress (Except ServiceError Unit) → Bool
  | .ended (.ok ()) _ => true
  | _ => false

/-- The test says what it is named for. It is a Boolean so that a concrete visit
can be evaluated. -/
theorem ended_of_isServed {p : Progress (Except ServiceError Unit)} (h : isServed p = true) :
    ∃ s, p = .ended (.ok ()) s := by
  cases p with
  | ended r s =>
    cases r with
    | ok u => exact ⟨s, rfl⟩
    | error e => exact (Bool.false_ne_true h).elim
  | late s => exact (Bool.false_ne_true h).elim
  | stuck s => exact (Bool.false_ne_true h).elim

/-- The eager client is served, and the client of a session receives the
three bytes of the remote side. -/
theorem transparent_of_login :
    (∃ v q c, visit loginPolicy talkingConnector eagerClient = .finished v ∧
      Reached loginPolicy talkingConnector eagerClient c ∧
      Transparent loginPolicy q eagerClient (Connection.stream c) v) ∧
    ∃ o, run loginPolicy talkingConnector .connect "127.0.0.1:80" (some ⟨"u", "p"⟩) [8, 9]
        = some o ∧
      o.remoteGot = [8, 9] ∧ o.received = [1, 2, 3] := by
  refine ⟨?_, ?_⟩
  · have hserved : isServed ((serve loginPolicy).run talkingConnector
        { stream := eagerClient }) = true := by decide +kernel
    obtain ⟨s, hrun⟩ := ended_of_isServed hserved
    obtain ⟨q, c, hrequested, hremote, -, hvisit⟩ := visit_of_ended hrun
    obtain ⟨v, hv, hok, -⟩ :=
      visitThrough_of_ended isClean_eagerClient hrun hrequested (isClean_of_remote hremote)
    rw [← hvisit] at hv
    obtain ⟨q, c, hreached, -, hremote, htransparent⟩ :=
      (transparent loginPolicy talkingConnector).1 _ _ isClean_eagerClient hv hok
    exact ⟨v, q, c, hv, hreached, htransparent (isClean_of_remote hremote)⟩
  · have hcomes := comes_handshake loginPolicy talkingConnector .connect "127.0.0.1:80"
      (some ⟨"u", "p"⟩) (by decide) nofun
    obtain ⟨d, hmeet, -, -⟩ := hcomes
    obtain ⟨a, seconds, c, -, hdial, hsession⟩ :=
      (transparent loginPolicy talkingConnector).2 _ _ _ _ hmeet
    obtain ⟨o, hrun, -, -, hgot, hreceived⟩ := hsession (isClean_talkingConnector hdial) [8, 9]
    cases hdial
    exact ⟨o, hrun, hgot, hreceived⟩

end Socks5.Session
