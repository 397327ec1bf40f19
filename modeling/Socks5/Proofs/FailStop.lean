import Socks5.Proofs.Order
import Socks5.Proofs.WriteCutoff

/-!
# `Socks5.Proofs.FailStop`: nothing follows a failure

A run takes a dialogue apart: it comes to one part after another, each in
the scene that is reached then (`Comes`). At some part it may meet with a
`Mishap`: a wish for bytes goes unanswered, a write fails, or the message
is one that tells the client of a failure.

* `FailStop`: after a mishap a run only notes. Nothing is taken, sent,
  dialed or listened for any more.
* `Says.failStop`: whatever says no more than a served connection may stops
  like that.
* `serve_in_order`: what goes over the stream of a served connection is the
  front of a conversation, it stops at the first mishap, and no byte of the
  client gets lost.
-/

set_option autoImplicit false

namespace Socks5

open Net Dialogue

variable {α : Type}

/-! ### The parts of a run -/

namespace Scene

/-- The scene after an attempt to connect. -/
def connected (clock : Nat) (r : Except IoError Connection) (s : Scene) : Scene :=
  match r with
  | .ok c => { s with clock, remote := some c }
  | .error _ => { s with clock }

/-- The scene after a wish to listen. -/
def listened (connector : Connector) (target : Address) (s : Scene) : Scene :=
  let s := { s with history := s.history ++ connector.listening target }
  match connector.listenFor target with
  | .ok l => { s with listener := some l }
  | .error _ => s

end Scene

namespace Dialogue

variable {connector : Connector}

/-- An attempt that is settled in time goes on with what it came to. Success and
failure are one case here: only the connection that is kept differs. -/
theorem runAttempt_of_result {a : Attempt Connection} {s : Scene} {clock : Nat}
    {r : Except IoError Connection} (h : a.await s.deadline s.clock = .result clock r)
    (k : Except IoError Endpoint → Dialogue α) :
    runAttempt connector a k s
      = run connector (k (r.map Connection.endpoint)) (s.connected clock r) := by
  unfold runAttempt
  rw [h]
  cases r <;> rfl

/-- A run goes on after a wish to listen, whatever comes of it. A connector
without listeners, one that refuses and one that opens a listener are one case
here. -/
theorem run_listen (target : Address) (k : Except IoError Endpoint → Dialogue α) (s : Scene) :
    run connector (.listen target k) s
      = run connector (k ((connector.listenFor target).map Listener.endpoint))
          (s.listened connector target) := by
  unfold Scene.listened Connector.listenFor Connector.listening
  rw [run]
  cases hl : connector.listen with
  | none => simp [Except.map]
  | some openListener =>
    dsimp only
    cases openListener target <;> rfl

/-- Whether a run of the first dialogue in the first scene comes to the second
dialogue in the second scene. -/
inductive Comes (connector : Connector) : Dialogue α → Scene → Dialogue α → Scene → Prop where
  | here {x : Dialogue α} {s : Scene} : Comes connector x s x s
  | recv {n : Nat} {shape : Shape} {k : Except IoError (Vector UInt8 n) → Dialogue α}
      {r : Except IoError (Vector UInt8 n)} {y : Dialogue α} {s t : Scene}
      (hr : s.answer n shape = some r) (h : Comes connector (k r) (s.drawn (s.draw n)) y t) :
      Comes connector (.recv n shape k) s y t
  | send {m : Bytes} {k : Except IoError Unit → Dialogue α} {y : Dialogue α} {s t : Scene}
      (h : Comes connector (k (s.send m).1) (s.send m).2 y t) : Comes connector (.send m k) s y t
  | note {entry : Log.Entry} {next y : Dialogue α} {s t : Scene}
      (h : Comes connector next (s.mark (.noted entry)) y t) :
      Comes connector (.note entry next) s y t
  | within {seconds : Nat} {late next y : Dialogue α} {s t : Scene}
      (h : Comes connector next (s.armed seconds) y t) :
      Comes connector (.within seconds late next) s y t
  /-- The deadline has passed. -/
  | late {seconds : Nat} {late next y : Dialogue α} {s s' t : Scene}
      (hlate : run connector next (s.armed seconds) = .late s')
      (h : Comes connector late { s' with deadline := none } y t) :
      Comes connector (.within seconds late next) s y t
  | release {next y : Dialogue α} {s t : Scene}
      (h : Comes connector next { s with deadline := none } y t) :
      Comes connector (.release next) s y t
  | dial {target : Address} {k : Except IoError Endpoint → Dialogue α} {clock : Nat}
      {r : Except IoError Connection} {y : Dialogue α} {s t : Scene}
      (hr : (connector.dial target).await s.deadline s.clock = .result clock r)
      (h : Comes connector (k (r.map Connection.endpoint))
        ((s.mark (.dialed target)).connected clock r) y t) :
      Comes connector (.dial target k) s y t
  | listen {target : Address} {k : Except IoError Endpoint → Dialogue α} {y : Dialogue α}
      {s t : Scene}
      (h : Comes connector (k ((connector.listenFor target).map Listener.endpoint))
        (s.listened connector target) y t) :
      Comes connector (.listen target k) s y t
  | accept {k : Except IoError Endpoint → Dialogue α} {l : Listener} {clock : Nat}
      {r : Except IoError Connection} {y : Dialogue α} {s t : Scene} (hl : s.listener = some l)
      (hr : l.peer.await s.deadline s.clock = .result clock r)
      (h : Comes connector (k (r.map Connection.endpoint)) (s.connected clock r) y t) :
      Comes connector (.accept k) s y t

end Dialogue

namespace Server

/-- Whether something fails at the first step of a dialogue, and the event that
is seen of it. -/
inductive Mishap (s : Scene) : Dialogue α → Event → Prop where
  /-- The stream ends, a read fails, the deadline passes or nothing comes. -/
  | unread {n : Nat} {shape : Shape} {k : Except IoError (Vector UInt8 n) → Dialogue α}
      (h : ∀ v, s.answer n shape ≠ some (.ok v)) :
      Mishap s (.recv n shape k) (.received (s.draw n).taken)
  /-- A write or a flush fails. -/
  | unsent {m : Bytes} {k : Except IoError Unit → Dialogue α} {e : IoError}
      (h : (s.send m).1 = .error e) :
      Mishap s (.send m k) (.sent (s.stream.outlet.send m).1)
  /-- The client is told of a failure, as far as the message can be delivered. -/
  | failure {m : Bytes} {k : Except IoError Unit → Dialogue α} (h : IsFailure m) :
      Mishap s (.send m k) (.sent (s.stream.outlet.send m).1)

/-- Whether a run does no more than note after a mishap. -/
def FailStop (connector : Connector) (x : Dialogue α) (s : Scene) : Prop :=
  ∀ y t e, Comes connector x s y t → Mishap t y e →
    ∃ entries : List Log.Entry,
      (run connector x s).scene.history = t.history ++ e :: entries.map .noted

section

variable {connector : Connector} {s : Scene}

/-! ### One step -/

/-- A dialogue that closes meets with no mishap: it only notes and lifts its
deadline. -/
theorem failStop_of_quits {x : Dialogue α} (hx : Quits x) (s : Scene) :
    FailStop connector x s := by
  obtain ⟨a, hx⟩ := hx
  intro y t e hc hm
  exfalso
  induction hx generalizing s with
  | done => cases hc; cases hm
  | note _ ih =>
    cases hc with
    | here => cases hm
    | note h => exact ih _ h
  | release _ ih =>
    cases hc with
    | here => cases hm
    | release h => exact ih _ h

/-- What is seen of a dialogue that closes after an event. The history before the
event and the event itself are fixed, and only notes come after them. -/
theorem history_of_quits {x : Dialogue α} (hx : Quits x) (e : Event) {t : Scene}
    (ht : t.history = s.history ++ [e]) :
    ∃ entries : List Log.Entry,
      (run connector x t).scene.history = s.history ++ e :: entries.map .noted := by
  obtain ⟨a, hx⟩ := hx
  obtain ⟨entries, t', hrun, hhistory, -⟩ := hx.run connector t
  refine ⟨entries, ?_⟩
  rw [hrun]
  show t'.history = _
  rw [hhistory, ht, List.append_assoc]
  rfl

/-- Reading stops at the first mishap if a failed read leads to a close. If
nothing comes at all, the run is over with the wish itself. -/
theorem failStop_recv {n : Nat} {shape : Shape}
    {k : Except IoError (Vector UInt8 n) → Dialogue α} (hbreak : ∀ e, Quits (k (.error e)))
    (hk : ∀ r s, FailStop connector (k r) s) : FailStop connector (.recv n shape k) s := by
  intro y t e hc hm
  cases hc with
  | here =>
    obtain ⟨hunread⟩ := hm
    rw [run_recv]
    cases hr : s.answer n shape with
    | none =>
      refine ⟨[], ?_⟩
      dsimp only
      split <;> rfl
    | some r =>
      cases r with
      | ok v => exact absurd hr (hunread v)
      | error fault => exact history_of_quits (hbreak fault) _ rfl
  | recv hr h =>
    rw [run_recv_of_answer hr]
    exact hk _ _ _ _ _ h hm

/-- Sending stops at the first mishap if a failed write leads to a close, and so
does a message that tells of a failure, even if it is delivered. -/
theorem failStop_send {m : Bytes} {k : Except IoError Unit → Dialogue α}
    (hbreak : ∀ e, Quits (k (.error e))) (hfailure : IsFailure m → Quits (k (.ok ())))
    (hk : ∀ s, FailStop connector (k (.ok ())) s) : FailStop connector (.send m k) s := by
  have hgo : ∀ r s, FailStop connector (k r) s := by
    rintro (e | u)
    · exact failStop_of_quits (hbreak e)
    · exact hk
  intro y t e hc hm
  cases hc with
  | here =>
    -- Either the outcome is an error, or the message leaves nothing to do.
    have hquits : Quits (k (s.send m).1) := by
      cases hm with
      | unsent h =>
        rw [h]
        exact hbreak _
      | failure h =>
        cases (s.send m).1 with
        | error fault => exact hbreak fault
        | ok u => exact hfailure h
    cases hm <;> exact history_of_quits hquits _ rfl
  | send h => exact hgo _ _ _ _ _ h hm

/-- A wait that is answered is not late any more. Dials and accepts are all that
such a deadline is about, and it is lifted as soon as they are settled. -/
theorem Waits.ne_late {x y : Dialogue α} {t : Scene} {e : Event} (hx : Waits x)
    (hc : Comes connector x s y t) (hm : Mishap t y e) (s' : Scene) :
    run connector x s ≠ .late s' := by
  cases hx with
  | dial =>
    cases hc with
    | here => cases hm
    | dial hr h =>
      rw [run_dial, runAttempt_of_result (s := s.mark _) hr]
      exact run_ne_late (s := { Scene.connected _ _ _ with deadline := none }) _ rfl s'
  | accept =>
    cases hc with
    | here => cases hm
    | accept hl hr h =>
      rw [run_accept connector hl, runAttempt_of_result hr]
      exact run_ne_late (s := { Scene.connected _ _ _ with deadline := none }) _ rfl s'

/-- What is done under a deadline stops at the first mishap, and what is done late
must not add to that. Either it only closes, or no mishap can come before it is
done. -/
theorem failStop_within {seconds : Nat} {late next : Dialogue α} (hover : Quits late ∨ Waits next)
    (hlate : ∀ s, FailStop connector late s) (hnext : ∀ s, FailStop connector next s) :
    FailStop connector (.within seconds late next) s := by
  intro y t e hc hm
  cases hc with
  | here => cases hm
  | within h =>
    obtain ⟨entries, hhistory⟩ := hnext _ _ _ _ h hm
    rw [run_within_armed]
    cases hrun : run connector next (s.armed seconds) with
    | ended a s' => exact ⟨entries, by rwa [hrun] at hhistory⟩
    | stuck s' => exact ⟨entries, by rwa [hrun] at hhistory⟩
    | late s' =>
      obtain ⟨a, hquits⟩ | hwaits := hover
      · -- What is done late adds its notes to those that are there.
        obtain ⟨more, s'', hrun', hhistory', -⟩ := hquits.run connector { s' with deadline := none }
        rw [hrun] at hhistory
        refine ⟨entries ++ more, ?_⟩
        show (run connector late { s' with deadline := none }).scene.history = _
        rw [hrun']
        show s''.history = _
        have hs' : s'.history = t.history ++ e :: entries.map .noted := hhistory
        rw [hhistory', hs']
        simp
      · exact absurd hrun (Waits.ne_late hwaits h hm s')
  | late hrun h =>
    rw [run_within_armed, hrun]
    exact hlate _ _ _ _ h hm

/-- A dial is no mishap, whatever comes of it: it fails by a message that tells of
it. -/
theorem failStop_dial {target : Address} {k : Except IoError Endpoint → Dialogue α}
    (hk : ∀ r s, FailStop connector (k r) s) : FailStop connector (.dial target k) s := by
  intro y t e hc hm
  cases hc with
  | here => cases hm
  | dial hr h =>
    rw [run_dial, runAttempt_of_result (s := s.mark _) hr]
    exact hk _ _ _ _ _ h hm

/-- Nor is a wish to listen. It may fail, but that is the connector's failure and
not one of the stream, so the client is still told. -/
theorem failStop_listen {target : Address} {k : Except IoError Endpoint → Dialogue α}
    (hk : ∀ r s, FailStop connector (k r) s) : FailStop connector (.listen target k) s := by
  intro y t e hc hm
  cases hc with
  | here => cases hm
  | listen h =>
    rw [run_listen]
    exact hk _ _ _ _ _ h hm

/-- Nor is the wait for a peer. A part of the run behind it is a part of the run
that goes on with what the wait came to. -/
theorem failStop_accept {k : Except IoError Endpoint → Dialogue α}
    (hk : ∀ r s, FailStop connector (k r) s) : FailStop connector (.accept k) s := by
  intro y t e hc hm
  cases hc with
  | here => cases hm
  | accept hl hr h =>
    rw [run_accept connector hl, runAttempt_of_result hr]
    exact hk _ _ _ _ _ h hm

/-! ### A whole run -/

/-- What says so at each stage stops at the first mishap. The cases are the steps
that a served connection may take, so there is nothing here that looks at the
server itself. -/
theorem Says.failStop {st : Stage} {x : Dialogue (Except ServiceError Unit)} (hx : Says st x)
    (s : Scene) : FailStop connector x s := by
  induction hx generalizing s with
  | done r => exact failStop_of_quits ⟨r, .done⟩ s
  -- A mishap needs a read or a write. So the stages that note, or lay a deadline down, just
  -- pass on to what follows them.
  | recv hbreak _ ih => exact failStop_recv hbreak ih
  | note _ ih =>
    intro y t e hc hm
    cases hc with
    | here => cases hm
    | note h => exact ih _ _ _ _ h hm
  | release _ ih =>
    intro y t e hc hm
    cases hc with
    | here => cases hm
    | release h => exact ih _ _ _ _ h hm
  | within hover _ _ ih_late ih_next => exact failStop_within hover ih_late ih_next
  | tell _ hio hfailure _ ih => exact failStop_send (fun e => ⟨_, hio e⟩) hfailure ih
  -- A refusal that is delivered is a mishap, too: nothing follows it either way.
  | refuse _ hk =>
    exact failStop_send (fun e => ⟨_, hk _⟩) (fun _ => ⟨_, hk _⟩)
      (failStop_of_quits ⟨_, hk _⟩)
  | dial _ ih => exact failStop_dial ih
  | listen _ ih => exact failStop_listen ih
  | accept _ ih => exact failStop_accept ih

end

/-- A visit without a tunnel shows the scene in which the connection ended. A
tunnel would take more from the client, so the bytes are only counted here if
there is none. -/
theorem seen_of_no_tunnel {p : Progress (Except ServiceError Unit)} {v : Visit}
    (hv : visitFrom p = .finished v) (htunnel : v.tunnel = none) :
    v.history = p.scene.history ∧ v.unread = Script.bytes p.scene.stream.script := by
  cases p with
  | late s => simp [visitFrom] at hv
  | stuck s => simp [visitFrom] at hv
  | ended r s =>
    have hwithout : visitWithoutTunnel r s = v → v.history = s.history ∧
        v.unread = Script.bytes s.stream.script := by
      rintro rfl
      exact ⟨rfl, rfl⟩
    cases r with
    | error e => exact hwithout (Visited.finished.inj hv)
    | ok u =>
      simp only [visitFrom] at hv
      cases hr : s.remote with
      | none =>
        rw [hr] at hv
        exact hwithout (Visited.finished.inj hv)
      | some c =>
        rw [hr] at hv
        simp only [visitThrough] at hv
        -- A visit that finishes through a tunnel has one.
        split at hv
        · simp at hv
        · rw [← Visited.finished.inj hv] at htunnel
          simp at htunnel

/-- A served connection keeps its order. Whatever the client sends and
however it does, whatever the connector does and wherever reading or
writing fails or a deadline passes: the bytes that go over the stream up to
the tunnel are the front of a conversation, maybe cut inside a message. So
nothing is said before the whole greeting is there, nothing of a request is
taken before the client has been told that it may ask, and nothing is
replied before the request is there, or the byte of an address type that is
unknown. The conversation is not cut if writing does not fail and the
connection ends, but not because a message did not come.

Nothing is taken, sent or opened after a read or a write that fails, or
after a message that tells the client of a failure. What was taken and what
is left are all that the client has sent, at the end of every run up to the
tunnel and of every visit without one. -/
theorem serve_in_order (policy : Policy) (connector : Connector) (client : Stream) :
    let p := (serve policy).run connector (.atStart client)
    let h := p.scene.history
    Follows (Conversation policy)
      (client.outlet.Sure ∧ ∀ step, ¬ Breaks policy.handshakeTimeout step p.halt) h.wire ∧
    FailStop connector (serve policy) (.atStart client) ∧
    h.receivedBytes ++ Script.bytes p.scene.stream.script = Script.bytes client.script ∧
    (∀ v, visit policy connector client = .finished v → v.tunnel = none →
      v.history.receivedBytes ++ v.unread = Script.bytes client.script) := by
  intro p h
  -- Writing fails only if the outlet is not sure.
  have hdelivers : Delivers connector (serve policy) (.atStart client) ∨ ¬ client.outlet.Sure :=
    (Classical.em client.outlet.Sure).imp_left (delivers_of_sure connector _ _)
  obtain ⟨g, hg, hc⟩ := run_course connector (¬ client.outlet.Sure) (serve policy)
    (.atStart client) false hdelivers (by simp [Scene.atStart])
  obtain rfl : h = g := hg
  have hbytes : h.receivedBytes ++ Script.bytes p.scene.stream.script
      = Script.bytes client.script :=
    received_append_unread connector (serve policy) (.atStart client)
  refine ⟨(way_of_course hc).follows.mono (And.imp_left not_not_intro),
    (says_serve policy).failStop _, hbytes, ?_⟩
  intro v hv htunnel
  obtain ⟨hhistory, hunread⟩ := seen_of_no_tunnel hv htunnel
  rw [hhistory, hunread]
  exact hbytes

/-- A client that sends a wrong password and, without waiting for the answer,
the beginning of a request. -/
def hastyClient : Stream :=
  { script := [.bytes [5, 1, 2, 1, 1, 117], .bytes [1, 120], .bytes [5, 1, 0]] }

/-- The server comes to the message that refuses the client. Each step is one of
the run: the greeting, the answer to it, the credentials byte by byte. -/
theorem comes_refusal_of_hasty :
    ∃ k t, Comes readyConnector (serve loginPolicy) (.atStart hastyClient) (.send [1, 1] k) t ∧
      t.stream.outlet = {} := by
  apply Exists.intro
  apply Exists.intro
  constructor
  · apply Comes.within
    apply Comes.recv (r := .ok #v[5]) rfl
    apply Comes.recv (r := .ok #v[1]) rfl
    apply Comes.recv (r := .ok #v[2]) rfl
    apply Comes.note
    apply Comes.send
    apply Comes.recv (r := .ok #v[1]) rfl
    apply Comes.recv (r := .ok #v[1]) rfl
    apply Comes.recv (r := .ok #v[117]) rfl
    apply Comes.recv (r := .ok #v[1]) rfl
    apply Comes.recv (r := .ok #v[120]) rfl
    exact .here
  · rfl

/-- The hasty client is refused at the end of a whole conversation, and the
beginning of its request stays where it is. -/
theorem serve_in_order_of_hasty :
    Conversation loginPolicy
        ((serve loginPolicy).run readyConnector (.atStart hastyClient)).scene.history.wire ∧
      (∃ pre entries, ((serve loginPolicy).run readyConnector (.atStart hastyClient)).scene.history
        = pre ++ .sent [1, 1] :: (entries : List Log.Entry).map .noted) ∧
      ∃ v, visit loginPolicy readyConnector hastyClient = .finished v ∧ v.tunnel = none ∧
        v.history.receivedBytes ++ v.unread = [5, 1, 2, 1, 1, 117, 1, 120, 5, 1, 0] := by
  obtain ⟨⟨c, hc, -, hwhole⟩, hstop, -, hvisit⟩ :=
    serve_in_order loginPolicy readyConnector hastyClient
  obtain ⟨k, t, hcomes, houtlet⟩ := comes_refusal_of_hasty
  obtain ⟨entries, hhistory⟩ := hstop _ _ _ hcomes (.failure (.inr (.inl rfl)))
  rw [houtlet] at hhistory
  have hhalt : ((serve loginPolicy).run readyConnector (.atStart hastyClient)).halt
      = .ended (.error (.protocol .authFailed)) := by rfl
  -- The run is long, and the rest of the proof need not see it.
  rw [visit_eq] at hvisit ⊢
  generalize (serve loginPolicy).run readyConnector (.atStart hastyClient) = p
    at hhistory hhalt hvisit hwhole ⊢
  have hbreaks : ∀ step, ¬ Breaks loginPolicy.handshakeTimeout step p.halt := by
    intro step hbreak
    rw [hhalt] at hbreak
    cases hbreak
  have hwire : p.scene.history.wire = c := hwhole ⟨⟨rfl, rfl⟩, hbreaks⟩
  have hv := visitFrom_of_error hhalt
  refine ⟨?_, ⟨_, entries, hhistory⟩, _, hv, rfl, hvisit _ hv rfl⟩
  rw [hwire]
  exact hc

end Server

end Socks5
