import Socks5.Proofs.Handshake
import Socks5.Proofs.RelayEnding
import Socks5.Proofs.RunsUnderDeadline
import Socks5.Proofs.Transparency

/-!
# `Socks5.Proofs.Segmentation`: only the bytes count, not the segments

Two streams may bring the same bytes in other pieces and at other times
(`Stream.Recuts`). Nobody who reads them can tell, as long as there is time
for all waits.

* `Plain.run_alike`: a dialogue that reads, sends and notes does the same on
  both streams.
* `Deaf.run_inStep`: a dialogue that does not read does the same at both
  times, deadlines included.
* `Server.run_serve_alike`: so a served connection is the same up to the
  tunnel.
* `segmentation_free`: a visit, with its tunnel, and the reader of every
  message.
-/

set_option autoImplicit false

namespace Socks5

open Net Dialogue

variable {α β : Type}

/-- Whether two smooth streams bring the same bytes, each cut and timed as
it likes, and take writes alike. -/
structure Stream.Recuts (a b : Stream) : Prop where
  smooth : a.script.IsSmooth
  smooth' : b.script.IsSmooth
  bytes : Script.bytes a.script = Script.bytes b.script
  outlet : a.outlet = b.outlet

/-! ### Readers -/

/-- Whether two scenes have the same bytes before them, take writes alike, and
show the same history and connections. Their clocks may differ, and so may
the segments in which the bytes come. -/
structure Scene.Alike (s t : Scene) : Prop where
  ahead : s.ahead = t.ahead
  outlet : s.stream.outlet = t.stream.outlet
  history : s.history = t.history
  listener : s.listener = t.listener
  remote : s.remote = t.remote

namespace Scene

variable {s t : Scene}

/-- Streams that differ in their cuts only begin alike. -/
theorem alike_atStart {a b : Stream} (h : a.Recuts b) : (atStart a).Alike (atStart b) :=
  ⟨h.bytes, h.outlet, rfl, rfl, rfl⟩

/-- Scenes that are alike stay so after the same event. -/
theorem Alike.mark (h : s.Alike t) (e : Event) : (s.mark e).Alike (t.mark e) :=
  ⟨h.ahead, h.outlet, by rw [Scene.mark, Scene.mark, h.history], h.listener, h.remote⟩

/-- Scenes that are alike take a message alike, and stay so. -/
theorem Alike.send (h : s.Alike t) (bs : Bytes) :
    (s.send bs).1 = (t.send bs).1 ∧ (s.send bs).2.Alike (t.send bs).2 := by
  unfold Scene.send
  rw [h.outlet]
  refine ⟨rfl, Alike.mark ?_ _⟩
  exact ⟨h.ahead, rfl, h.history, h.listener, h.remote⟩

/-- Scenes that are alike stay so with the same remote side. -/
theorem Alike.connect (h : s.Alike t) (c : Connection) :
    Alike { s with remote := some c } { t with remote := some c } :=
  ⟨h.ahead, h.outlet, h.history, h.listener, rfl⟩

/-- Scenes that are alike stay so when the same number of bytes is wanted: both
take the same ones. This needs a stream that delivers and waits only, since a
fault has its place among the segments. -/
theorem Alike.drawn (h : s.Alike t) (hs : s.IsFlowing) (ht : t.IsFlowing) (n : Nat) :
    (s.drawn (s.draw n)).Alike (t.drawn (t.draw n)) where
  ahead := by rw [hs.ahead_drawn, ht.ahead_drawn, h.ahead]
  outlet := h.outlet
  history := by
    show s.history ++ [.received (s.draw n).taken] = t.history ++ [.received (t.draw n).taken]
    rw [hs.taken_eq, ht.taken_eq, h.ahead, h.history]
  listener := h.listener
  remote := h.remote

end Scene

namespace Dialogue

/-- What reads, sends and notes does the same on alike scenes. Both runs end, so
there is a result to compare. -/
theorem Plain.run_alike (connector : Connector) {x : Dialogue α} (hx : x.Plain) {s t : Scene}
    (hs : s.IsFlowing) (ht : t.IsFlowing) (h : s.Alike t) :
    ∃ a s' t', run connector x s = .ended a s' ∧ run connector x t = .ended a t' ∧
      s'.IsFlowing ∧ t'.IsFlowing ∧ s'.Alike t' := by
  induction x generalizing s t with
  | done a => exact ⟨a, s, t, rfl, rfl, hs, ht, h⟩
  | recv n shape k ih =>
    -- Both are answered from the same bytes.
    rw [run_recv_of_answer (hs.answer_eq n shape), run_recv_of_answer (ht.answer_eq n shape),
      h.ahead]
    exact ih _ (hx _) (hs.drawn n) (ht.drawn n) (h.drawn hs ht n)
  | send bytes k ih =>
    obtain ⟨hresult, halike⟩ := h.send bytes
    rw [run, run]
    dsimp only
    rw [hresult]
    exact ih _ (hx _) (s := (s.send bytes).2) (t := (t.send bytes).2) ⟨hs.smooth, hs.free⟩
      ⟨ht.smooth, ht.free⟩ halike
  | note entry next ih =>
    exact ih hx (s := s.mark (.noted entry)) (t := t.mark (.noted entry)) ⟨hs.smooth, hs.free⟩
      ⟨ht.smooth, ht.free⟩ (h.mark _)
  | within | release | dial | listen | accept => exact hx.elim

end Dialogue

/-! ### What does not read -/

namespace Dialogue

/-- Whether a dialogue never asks for bytes. -/
def Deaf : Dialogue α → Prop
  | .done _ => True
  | .recv _ _ _ => False
  | .send _ k => ∀ r, Deaf (k r)
  | .note _ next | .release next => Deaf next
  | .within _ late next => Deaf late ∧ Deaf next
  | .dial _ k | .listen _ k | .accept k => ∀ r, Deaf (k r)

end Dialogue

/-- Whether two alike scenes have as much time left. -/
structure Scene.InStep (s t : Scene) : Prop extends Alike s t where
  deadline : s.deadline = none ∧ t.deadline = none ∨
    ∃ left, s.deadline = some (s.clock + left) ∧ t.deadline = some (t.clock + left)

namespace Scene.InStep

variable {s t : Scene}

/-- Time passes for both, and takes both no further than to their deadline. -/
def Passes (s t : Scene) (seconds : Nat) : Prop :=
  InStep { s with clock := s.clock + seconds } { t with clock := t.clock + seconds }

/-- Scenes in step that get the same deadline, or none, are in step. The deadline
is counted from each scene's own clock. -/
theorem arm (h : s.InStep t) (seconds : Nat) :
    InStep { s with deadline := deadline? s.clock seconds }
      { t with deadline := deadline? t.clock seconds } := by
  refine ⟨⟨h.ahead, h.outlet, h.history, h.listener, h.remote⟩, ?_⟩
  by_cases hrange : seconds < clockRange
  · exact .inr ⟨seconds, deadline?_eq_some hrange, deadline?_eq_some hrange⟩
  · have hnone := Nat.le_of_not_lt hrange
    exact .inl ⟨deadline?_eq_none_iff.mpr hnone, deadline?_eq_none_iff.mpr hnone⟩

/-- Scenes without a deadline are in step. -/
theorem disarm (h : s.Alike t) : InStep { s with deadline := none } { t with deadline := none } :=
  ⟨⟨h.ahead, h.outlet, h.history, h.listener, h.remote⟩, .inl ⟨rfl, rfl⟩⟩

/-- An attempt is seen alike. What counts is how much time is left, which is the
same for both, and not what the clocks show. -/
theorem await (h : s.InStep t) (a : Attempt α) :
    (∃ seconds r, a.await s.deadline s.clock = .result (s.clock + seconds) r ∧
        a.await t.deadline t.clock = .result (t.clock + seconds) r ∧ Passes s t seconds) ∨
    (∃ seconds, a.await s.deadline s.clock = .late (s.clock + seconds) ∧
        a.await t.deadline t.clock = .late (t.clock + seconds) ∧ Passes s t seconds) ∨
    (a.await s.deadline s.clock = .nothing ∧ a.await t.deadline t.clock = .nothing) := by
  -- As much as is left for both may pass for both.
  have hpasses : ∀ seconds, (∀ left, s.deadline = some (s.clock + left) → seconds ≤ left) →
      Passes s t seconds := by
    intro seconds hle
    refine ⟨⟨h.ahead, h.outlet, h.history, h.listener, h.remote⟩, ?_⟩
    obtain hnone | ⟨left, hs, ht⟩ := h.deadline
    · exact .inl hnone
    · have hleft := hle left hs
      refine .inr ⟨left - seconds, ?_, ?_⟩
      · show s.deadline = some (s.clock + seconds + (left - seconds))
        rw [hs, Nat.add_assoc, Nat.add_sub_cancel' hleft]
      · show t.deadline = some (t.clock + seconds + (left - seconds))
        rw [ht, Nat.add_assoc, Nat.add_sub_cancel' hleft]
  obtain ⟨hs, ht⟩ | ⟨left, hs, ht⟩ := h.deadline
  · rw [hs, ht]
    cases a with
    | settled seconds r =>
      refine .inl ⟨seconds, r, rfl, rfl, hpasses seconds ?_⟩
      intro left hs'
      rw [hs] at hs'
      cases hs'
    | never => exact .inr (.inr ⟨rfl, rfl⟩)
  · -- The attempt is as far away from one clock as from the other, and so is the deadline.
    have hlate : Passes s t left := by
      refine hpasses left ?_
      intro left' hs'
      have heq := Option.some.inj (hs.symm.trans hs')
      omega
    rw [hs, ht]
    cases a with
    | settled seconds r =>
      unfold Attempt.await
      dsimp only
      by_cases hle : seconds ≤ left
      · rw [if_neg (by omega), if_neg (by omega)]
        refine .inl ⟨seconds, r, rfl, rfl, hpasses seconds ?_⟩
        intro left' hs'
        have heq := Option.some.inj (hs.symm.trans hs')
        omega
      · rw [if_pos (by omega), if_pos (by omega)]
        exact .inr (.inl ⟨left, rfl, rfl, hlate⟩)
    | never => exact .inr (.inl ⟨left, rfl, rfl, hlate⟩)

end Scene.InStep

namespace Dialogue

/-- Attempts are waited for alike if they are followed by what does the same. What
is seen of an attempt is the same for both, and so is the time that it takes. -/
theorem runAttempt_inStep (connector : Connector) (a : Attempt Connection)
    {k : Except IoError Endpoint → Dialogue α} {s t : Scene} (h : s.InStep t)
    (hk : ∀ r {s t : Scene}, s.InStep t →
      (run connector (k r) s).halt = (run connector (k r) t).halt ∧
        (run connector (k r) s).scene.InStep (run connector (k r) t).scene) :
    (runAttempt connector a k s).halt = (runAttempt connector a k t).halt ∧
      (runAttempt connector a k s).scene.InStep (runAttempt connector a k t).scene := by
  unfold runAttempt
  obtain ⟨seconds, r, hs, ht, hpass⟩ | ⟨seconds, hs, ht, hpass⟩ | ⟨hs, ht⟩ := h.await a
  · rw [hs, ht]
    cases r with
    | ok c => exact hk _ ⟨hpass.toAlike.connect c, hpass.deadline⟩
    | error e => exact hk _ hpass
  · rw [hs, ht]
    exact ⟨rfl, hpass⟩
  · rw [hs, ht]
    exact ⟨rfl, h⟩

/-- What does not read does the same on scenes in step. Without reading, the
script plays no part, and time passes in attempts only. -/
theorem Deaf.run_inStep (connector : Connector) {x : Dialogue α} (hx : x.Deaf) {s t : Scene}
    (h : s.InStep t) :
    (run connector x s).halt = (run connector x t).halt ∧
      (run connector x s).scene.InStep (run connector x t).scene := by
  induction x generalizing s t with
  | done a => exact ⟨rfl, h⟩
  | recv n shape k ih => exact hx.elim
  | send bytes k ih =>
    obtain ⟨hresult, halike⟩ := h.toAlike.send bytes
    rw [run, run]
    dsimp only
    rw [hresult]
    exact ih _ (hx _) ⟨halike, h.deadline⟩
  | note entry next ih => exact ih hx ⟨h.toAlike.mark _, h.deadline⟩
  | release next ih => exact ih hx (.disarm h.toAlike)
  | within seconds late next ih_late ih_next =>
    have hnext := ih_next hx.2 (h.arm seconds)
    rw [run, run]
    generalize run connector next { s with deadline := deadline? s.clock seconds } = p at *
    generalize run connector next { t with deadline := deadline? t.clock seconds } = q at *
    obtain ⟨hhalt, hscene⟩ := hnext
    -- One is late just if the other is.
    cases p with
    | ended a s' =>
      cases q with
      | ended b t' => exact ⟨hhalt, hscene⟩
      | late | stuck => cases hhalt
    | late s' =>
      cases q with
      | late t' => exact ih_late hx.1 (.disarm hscene.toAlike)
      | ended | stuck => cases hhalt
    | stuck s' =>
      cases q with
      | stuck t' => exact ⟨hhalt, hscene⟩
      | ended | late => cases hhalt
  | dial target k ih =>
    have hmark : (s.mark (.dialed target)).InStep (t.mark (.dialed target)) :=
      ⟨h.toAlike.mark _, h.deadline⟩
    rw [run_dial, run_dial]
    exact runAttempt_inStep connector _ hmark fun r _ _ h => ih r (hx r) h
  | listen target k ih =>
    have hmark : (s.mark (.listened target)).InStep (t.mark (.listened target)) :=
      ⟨h.toAlike.mark _, h.deadline⟩
    rw [run, run]
    cases connector.listen with
    | none => exact ih _ (hx _) h
    | some openListener =>
      dsimp only
      cases openListener target with
      | ok l =>
        have halike := hmark.toAlike
        exact ih _ (hx _)
          ⟨⟨halike.ahead, halike.outlet, halike.history, rfl, halike.remote⟩, hmark.deadline⟩
      | error e => exact ih _ (hx _) hmark
  | accept k ih =>
    have hlistener := h.listener
    cases hs : s.listener with
    | none =>
      rw [run, run, hs, ← hlistener, hs]
      exact ⟨rfl, h⟩
    | some l =>
      rw [run_accept connector hs, run_accept connector (hlistener.symm.trans hs)]
      exact runAttempt_inStep connector _ h fun r _ _ h => ih r (hx r) h

end Dialogue

/-! ### Served connections -/

namespace Server

/-- Telling of a failure reads nothing. -/
theorem deaf_failWith (code : ReplyCode) (e : ServiceError) : (failWith code e).Deaf := by
  intro r
  cases r with
  | ok u => trivial
  | error fault => trivial

/-- Granting a request reads nothing, so only what follows matters. -/
theorem deaf_grant (bound : Endpoint) {next : Dialogue (Except ServiceError Unit)}
    (hnext : next.Deaf) : (grant bound next).Deaf := by
  rw [grant, Reply.send_success]
  intro r
  cases r with
  | ok u => exact hnext
  | error e => trivial

/-- Nothing is read after a dial. From there on the bytes belong to the tunnel. -/
theorem deaf_afterDial (target : Address) (r : Except IoError Endpoint) :
    (afterDial target r).Deaf := by
  cases r with
  | ok bound => exact deaf_grant bound trivial
  | error e => exact deaf_failWith _ _

/-- Nor is anything read after a peer has come. Welcome or not, the client is only
told of it. -/
theorem deaf_afterAccept (target : Address) (r : Except IoError Endpoint) :
    (afterAccept target r).Deaf := by
  cases r with
  | ok peer =>
    show (welcome target peer).Deaf
    unfold welcome
    split
    · exact deaf_grant peer trivial
    · exact deaf_failWith _ _
  | error e => exact deaf_failWith _ _

/-- Nor while a peer is waited for: a client that leaves meanwhile is not noticed.
-/
theorem deaf_afterListen (policy : Policy) (target : Address) (r : Except IoError Endpoint) :
    (afterListen policy target r).Deaf := by
  cases r with
  | ok bound => exact deaf_grant bound ⟨deaf_failWith _ _, deaf_afterAccept target⟩
  | error e => exact deaf_failWith _ _

/-- Once the request has been read, the server reads nothing before the tunnel. So
bytes that a client sends early are left to the tunnel, whatever is requested. -/
theorem deaf_afterRequest (policy : Policy) (r : Except ServiceError Request) :
    (afterRequest policy r).Deaf := by
  cases r with
  | error e =>
    show (rejectRequest e).Deaf
    unfold rejectRequest
    split
    · split
      · exact deaf_failWith _ _
      · trivial
    · trivial
  | ok q =>
    show (perform policy q).Deaf
    unfold perform
    split
    · -- Whoever dials waits for a connection, not for bytes of the client.
      rw [connect_eq]
      exact ⟨deaf_failWith _ _, deaf_afterDial q.address⟩
    · split
      · rw [bind_eq]
        exact deaf_afterListen policy q.address
      · exact deaf_failWith _ _
    · exact deaf_failWith _ _

/-- A step of the negotiation does the same on alike scenes that have time for all
waits, and then they have time for the rest. The waits of the whole script are
compared with the limit, which is more than a step needs and is the same for all
steps. -/
theorem run_withDeadline_alike (connector : Connector) {x : Exchange α} (hx : x.run.Plain)
    {s t : Scene} (hs : s.IsFlowing) (ht : t.IsFlowing) (h : s.Alike t) {seconds : Nat}
    (hsw : Script.waits s.stream.script ≤ seconds) (htw : Script.waits t.stream.script ≤ seconds)
    (step : String) (f : Except ServiceError α → Dialogue β) :
    ∃ r s' t', run connector ((withDeadline seconds step x).run.bind f) s
        = run connector (f r) s' ∧
      run connector ((withDeadline seconds step x).run.bind f) t = run connector (f r) t' ∧
      s'.IsFlowing ∧ t'.IsFlowing ∧ s'.Alike t' ∧
      Script.waits s'.stream.script ≤ seconds ∧ Script.waits t'.stream.script ≤ seconds := by
  obtain ⟨r, s', t', hrun, hrun', hs', ht', halike⟩ := hx.run_alike connector hs ht h
  -- What was waited is what is gone of the waits, so there was time for it.
  have htime : ∀ {u u' : Scene}, u.IsFlowing → Script.waits u.stream.script ≤ seconds →
      run connector x.run u = .ended r u' →
      u'.clock ≤ u.clock + seconds ∧ Script.waits u'.stream.script ≤ seconds := by
    intro u u' hu hwaits hrun
    have hsum := hx.clock_add_waits_run connector hu.free
    have hle := hx.clock_le_run connector hu.free
    rw [hrun] at hsum hle
    simp only [Progress.scene] at hsum hle
    omega
  obtain ⟨htime₁, hwaits₁⟩ := htime hs hsw hrun
  obtain ⟨htime₂, hwaits₂⟩ := htime ht htw hrun'
  exact ⟨r.mapError .protocol, s', t', run_withDeadline hx hs.free hrun htime₁ step f,
    run_withDeadline hx ht.free hrun' htime₂ step f, hs', ht', halike, hwaits₁, hwaits₂⟩

/-- What follows the negotiation is the same for alike scenes that have time for
all waits. -/
theorem run_afterNegotiation_alike (policy : Policy) (connector : Connector) {s t : Scene}
    (hs : s.IsFlowing) (ht : t.IsFlowing) (halike : s.Alike t)
    (hsw : Script.waits s.stream.script ≤ policy.handshakeTimeout)
    (htw : Script.waits t.stream.script ≤ policy.handshakeTimeout)
    (r : Except ServiceError Method) :
    (run connector (afterNegotiation policy r) s).halt
        = (run connector (afterNegotiation policy r) t).halt ∧
      (run connector (afterNegotiation policy r) s).scene.Alike
        (run connector (afterNegotiation policy r) t).scene := by
  cases r with
  | error e => exact ⟨rfl, halike⟩
  | ok method =>
    obtain ⟨q, s', t', hrun, hrun', hs', ht', halike', -, -⟩ :=
      run_withDeadline_alike connector Request.plain_read
        (s := s.mark (.noted _)) (t := t.mark (.noted _)) ⟨hs.smooth, hs.free⟩
        ⟨ht.smooth, ht.free⟩ (halike.mark _) hsw htw "request" (afterRequest policy)
    rw [afterNegotiation, log, run, run, hrun, hrun']
    have hstep : s'.InStep t' := ⟨halike', .inl ⟨hs'.free, ht'.free⟩⟩
    obtain ⟨hhalt, hscene⟩ := (deaf_afterRequest policy q).run_inStep connector hstep
    exact ⟨hhalt, hscene.toAlike⟩

/-- A served connection is the same for streams with the same bytes, if there is
time for the waits of both. -/
theorem run_serve_alike (policy : Policy) (connector : Connector) {a b : Stream}
    (h : a.Recuts b) (ha : Script.waits a.script ≤ policy.handshakeTimeout)
    (hb : Script.waits b.script ≤ policy.handshakeTimeout) :
    (run connector (serve policy) (.atStart a)).halt
        = (run connector (serve policy) (.atStart b)).halt ∧
      (run connector (serve policy) (.atStart a)).scene.Alike
        (run connector (serve policy) (.atStart b)).scene := by
  rw [serve_eq]
  obtain ⟨r, s, t, hrun, hrun', hs, ht, halike, hsw, htw⟩ :=
    run_withDeadline_alike connector (Negotiation.plain_negotiate policy)
      (Scene.isFlowing_atStart h.smooth) (Scene.isFlowing_atStart h.smooth')
      (Scene.alike_atStart h) ha hb "greeting" (afterNegotiation policy)
  rw [hrun, hrun']
  exact run_afterNegotiation_alike policy connector hs ht halike hsw htw r

/-! ### Visits -/

/-- What becomes of a visit, if it comes to an end. -/
def Visited.result? : Visited → Option (Except ServiceError Unit)
  | .stalled _ => none
  | .finished v => some v.result

/-- A visit as an observer without a clock sees it. -/
def Visited.untimed : Visited → Visited
  | .stalled h => .stalled h
  | .finished v => .finished { v with elapsed := 0 }

/-- Whether the tunnel of a served connection, if one is opened, neither
fails nor stalls. -/
def TunnelEnds (p : Progress (Except ServiceError Unit)) : Prop :=
  ∀ s c, p = .ended (.ok ()) s → s.remote = some c →
    (Relay.between s.stream c.stream).ending = .finished

/-- A visit through a tunnel ends well, whatever becomes of the relay, unless it
never ends. -/
theorem result?_visitThrough (s : Scene) (remote : Stream) :
    (visitThrough s remote).result?
      = if (Relay.between s.stream remote).ending = .stuck then none else some (.ok ()) := by
  unfold visitThrough
  dsimp only
  split
  · rename_i hstuck
    rw [if_pos hstuck]
    rfl
  · rename_i hstuck
    rw [if_neg hstuck]
    rfl

/-- The visit through a tunnel that has moved every byte. Nothing in it depends on
when the bytes were moved but the time that it took. -/
theorem visitThrough_of_complete {s : Scene} {remote : Stream} {up down : Bytes}
    (h : Relay.Complete up down (Relay.between s.stream remote)) :
    (visitThrough s remote).untimed = .finished {
      result := .ok ()
      history := s.history ++
        [.noted (Relay.finishedEntry up.length down.length),
          .noted (closedEntry up.length down.length)]
      unread := []
      elapsed := 0
      tunnel := some ⟨up, down, true, true⟩ } := by
  unfold visitThrough
  dsimp only
  rw [h.ending, Visited.untimed, tunnelLog, Relay.Outcome.log, h.ending, h.up_moved, h.down_moved,
    h.up_source, h.up_closed, h.down_closed]
  rfl

/-- Tunnels for the same bytes end alike, and carry the same bytes if nothing goes
wrong. -/
theorem visitThrough_alike {s t : Scene} (halike : s.Alike t) (hs : s.stream.script.IsSmooth)
    (ht : t.stream.script.IsSmooth) (remote : Stream) :
    (visitThrough s remote).result? = (visitThrough t remote).result? ∧
      ((Relay.between s.stream remote).ending = .finished →
        (visitThrough s remote).untimed = (visitThrough t remote).untimed) := by
  -- The times differ, so the relays are compared through their ends only.
  obtain ⟨hfinished, hstuck⟩ := Relay.ends_alike remote hs ht halike.ahead halike.outlet
  refine ⟨?_, ?_⟩
  · rw [result?_visitThrough, result?_visitThrough]
    simp only [hstuck]
  · intro hends
    have hcomplete := Relay.complete_of_finished hends
    have hcomplete' := Relay.complete_of_finished (hfinished.mp hends)
    rw [show Script.bytes s.stream.script = Script.bytes t.stream.script from halike.ahead]
      at hcomplete
    rw [visitThrough_of_complete hcomplete, visitThrough_of_complete hcomplete', halike.history]

/-- Visits without a tunnel that end in alike scenes look the same without a
clock. -/
theorem visitWithoutTunnel_alike {s t : Scene} (halike : s.Alike t)
    (r : Except ServiceError Unit) :
    (Visited.finished (visitWithoutTunnel r s)).untimed
      = (Visited.finished (visitWithoutTunnel r t)).untimed := by
  have hunread : Script.bytes s.stream.script = Script.bytes t.stream.script := halike.ahead
  rw [visitWithoutTunnel, visitWithoutTunnel, halike.history, hunread]
  rfl

/-- How a visit goes on from a served connection. -/
def visitFrom : Progress (Except ServiceError Unit) → Visited
  | .late s | .stuck s => .stalled s.history
  | .ended (.error e) s => .finished (visitWithoutTunnel (.error e) s)
  | .ended (.ok ()) s =>
    match s.remote with
    | some c => visitThrough s c.stream
    | none => .finished (visitWithoutTunnel (.ok ()) s)

/-- A visit goes on from the run of the served connection. -/
theorem visit_eq (policy : Policy) (connector : Connector) (client : Stream) :
    visit policy connector client
      = visitFrom (run connector (serve policy) (.atStart client)) := rfl

/-- Visits that go on from alike scenes end alike, and look the same if their
tunnel ends. A tunnel that fails may have moved more or less by then, depending on
the segments. -/
theorem visitFrom_alike {p q : Progress (Except ServiceError Unit)} (hhalt : p.halt = q.halt)
    (halike : p.scene.Alike q.scene) (hp : p.scene.stream.script.IsSmooth)
    (hq : q.scene.stream.script.IsSmooth) :
    (visitFrom p).result? = (visitFrom q).result? ∧
      (TunnelEnds p → (visitFrom p).untimed = (visitFrom q).untimed) := by
  -- A visit that ends before the tunnel, or does not end, has no tunnel to compare.
  have hstalled : ∀ {s t : Scene}, s.Alike t →
      (Visited.stalled s.history).untimed = (Visited.stalled t.history).untimed := by
    intro s t halike
    rw [halike.history]
  cases p with
  | late s =>
    cases q with
    | late t => exact ⟨rfl, fun _ => hstalled halike⟩
    | ended | stuck => cases hhalt
  | stuck s =>
    cases q with
    | stuck t => exact ⟨rfl, fun _ => hstalled halike⟩
    | ended | late => cases hhalt
  | ended r s =>
    cases q with
    | late | stuck => cases hhalt
    | ended r' t =>
      obtain rfl : r = r' := Halt.ended.inj hhalt
      have hwithout := visitWithoutTunnel_alike halike r
      cases r with
      | error e => exact ⟨rfl, fun _ => hwithout⟩
      | ok u =>
        have hremote : s.remote = t.remote := halike.remote
        rw [visitFrom, visitFrom, ← hremote]
        cases hs : s.remote with
        | none => exact ⟨rfl, fun _ => hwithout⟩
        | some c =>
          obtain ⟨hresult, htunnel⟩ := visitThrough_alike halike hp hq c.stream
          exact ⟨hresult, fun hends => htunnel (hends s c rfl hs)⟩

end Server

/-! ### Everybody who reads -/

/-- Whether an exchange cannot tell two streams with the same bytes apart: it
comes to the same result, with the same history, and leaves the same bytes. -/
def Exchange.SegmentationFree (x : Exchange α) : Prop :=
  ∀ (connector : Connector) {a b : Stream}, a.Recuts b →
    ∃ r s t, x.run.run connector (.atStart a) = .ended r s ∧
      x.run.run connector (.atStart b) = .ended r t ∧
      s.history = t.history ∧ s.ahead = t.ahead

/-- Whatever reads, sends and notes cannot tell two cuts of the same bytes apart.
-/
theorem Exchange.SegmentationFree.of_plain {x : Exchange α} (hx : x.run.Plain) :
    x.SegmentationFree := by
  intro connector a b h
  obtain ⟨r, s, t, hrun, hrun', -, -, halike⟩ :=
    hx.run_alike connector (Scene.isFlowing_atStart h.smooth) (Scene.isFlowing_atStart h.smooth')
      (Scene.alike_atStart h)
  exact ⟨r, s, t, hrun, hrun', halike.history, halike.ahead⟩

namespace Server

/-- Segments and waits do not matter. Two clients that send the same bytes, cut and timed
as they like but within the time for the handshake, are served alike: the server comes to
the same end with the same history, and the same bytes are left. The visit ends with the
same result, or not at all, and unless the tunnel fails or stalls only the time differs.
Without a deadline the waits may even be as long as they like for every reader of a
message and for both sides of a negotiation. -/
theorem segmentation_free :
    (∀ (policy : Policy) (connector : Connector) {a b : Stream}, a.Recuts b →
      Script.waits a.script ≤ policy.handshakeTimeout →
      Script.waits b.script ≤ policy.handshakeTimeout →
      let p := run connector (serve policy) (.atStart a)
      let q := run connector (serve policy) (.atStart b)
      p.halt = q.halt ∧ p.scene.Alike q.scene ∧
        (visit policy connector a).result? = (visit policy connector b).result? ∧
        (TunnelEnds p →
          (visit policy connector a).untimed = (visit policy connector b).untimed)) ∧
    Address.read.SegmentationFree ∧ Negotiation.readGreeting.SegmentationFree ∧
    Request.read.SegmentationFree ∧ Reply.read.SegmentationFree ∧
    (∀ policy, (Negotiation.negotiate policy).SegmentationFree) ∧
    (∀ expected, (Negotiation.authenticate expected).SegmentationFree) ∧
    ∀ command target credentials,
      (Client.handshake command target credentials).SegmentationFree := by
  refine ⟨?_, .of_plain Address.plain_read,
    .of_plain Negotiation.plain_readGreeting,
    .of_plain Request.plain_read,
    .of_plain Reply.plain_read, ?_, ?_, ?_⟩
  · intro policy connector a b h ha hb
    obtain ⟨hhalt, halike⟩ := run_serve_alike policy connector h ha hb
    -- The two runs end in alike scenes with the same bytes left, so the tunnels move the
    -- same bytes.
    have hvisits := visitFrom_alike hhalt halike
      (isSmooth_run connector (serve policy) (.atStart a) h.smooth)
      (isSmooth_run connector (serve policy) (.atStart b) h.smooth')
    rw [← visit_eq, ← visit_eq] at hvisits
    exact ⟨hhalt, halike, hvisits⟩
  · intro policy
    exact .of_plain (Negotiation.plain_negotiate policy)
  · intro expected
    exact .of_plain (Negotiation.plain_authenticate expected)
  · intro command target credentials
    exact .of_plain (Client.plain_handshake command target credentials)

/-- A client that sends the bytes of the eager client one at a time, and
takes its time. -/
def patientClient : Stream :=
  { script := .wait 4 :: (Script.bytes Session.eagerClient.script).map fun b => .bytes [b] }

/-- The patient client is served like the eager one, which sends its
credentials and its data before it has any answer. -/
theorem segmentation_free_of_login :
    Session.eagerClient.Recuts patientClient ∧
      Script.waits patientClient.script ≤ loginPolicy.handshakeTimeout ∧
      (visit loginPolicy Session.talkingConnector Session.eagerClient).untimed
        = (visit loginPolicy Session.talkingConnector patientClient).untimed := by
  have hrecuts : Session.eagerClient.Recuts patientClient := by
    refine ⟨Session.isClean_eagerClient.smooth, ?_, by decide, rfl⟩
    intro step hstep
    obtain rfl | hbyte := List.mem_cons.mp hstep
    · trivial
    · obtain ⟨b, -, rfl⟩ := List.mem_map.mp hbyte
      trivial
  have hwaits : Script.waits Session.eagerClient.script ≤ loginPolicy.handshakeTimeout := by decide
  have hwaits' : Script.waits patientClient.script ≤ loginPolicy.handshakeTimeout := by decide
  have htunnel : TunnelEnds (run Session.talkingConnector (serve loginPolicy)
      (.atStart Session.eagerClient)) := by
    -- The remote side of this connector is clean, whatever is dialed.
    intro s c hrun hopen
    obtain ⟨q, c', -, hremote, hopen', -⟩ := visit_of_ended hrun
    cases hopen.symm.trans hopen'
    have hclean := isClean_run Session.talkingConnector (serve loginPolicy)
      (.atStart Session.eagerClient) Session.isClean_eagerClient
    rw [hrun] at hclean
    exact (Relay.between_isClean hclean (Session.isClean_of_remote hremote)).ending
  obtain ⟨-, -, -, hvisit⟩ := segmentation_free.1 loginPolicy Session.talkingConnector hrecuts
    hwaits hwaits'
  exact ⟨hrecuts, hwaits', hvisit htunnel⟩

end Server

end Socks5
