import Socks5.Proofs.RunsUnderDeadline

/-!
# `Socks5.Proofs.Deadline`: every wait of a served connection has an end

A served connection waits in four places, and each has a window of its own:
for the greeting with all that belongs to it, for the request, for a dial
and for the peer of a BIND. `Begins` says which of these waits begin, in
which scene, and `Window.Overruns` which of them are not over in time.

* `run_of_begins`: a wait that begins is what is left of the run.
* `expires`: a window that overruns ends the run when its time is up. The
  two windows of the negotiation end without a word, the others with a
  reply.
* `settles_serve`: if none overruns, the windows together bound the time up
  to the tunnel, and no timeout is reported.
* `deadlines_cover`: both in one statement.
-/

set_option autoImplicit false

namespace Socks5

open Net Dialogue

variable {α β : Type}

/-! ### What overruns -/

/-- Whether an exchange, left alone, waits longer than the limit: it never
comes to an end, or the waits that it sits through add up to more. -/
def Exchange.Overruns (x : Exchange α) (connector : Connector) (limit : Nat) (s : Scene) : Prop :=
  ∀ r s', x.run.run connector s = .ended r s' →
    Script.waits s'.stream.script + limit < Script.waits s.stream.script

/-- Whether an attempt is settled after the limit, or never. -/
def Attempt.Overruns (limit : Nat) : Attempt α → Prop
  | .settled seconds _ => limit < seconds
  | .never => True

/-- Waits that add up to more than the limit are time that passes beyond it.
`Overruns` speaks of the script, so that it can be read off what the client does;
the proofs need the clock, and there the two are the same as long as no deadline
cuts a wait short. -/
theorem Exchange.overruns_iff {x : Exchange α} (hx : x.run.Plain) (connector : Connector)
    (limit : Nat) {s : Scene} (hs : s.deadline = none) :
    x.Overruns connector limit s ↔
      ∀ r s', x.run.run connector s = .ended r s' → s.clock + limit < s'.clock := by
  refine forall_congr' fun r => forall_congr' fun s' => imp_congr_right fun hrun => ?_
  have hsum := hx.clock_add_waits_run connector hs
  rw [hrun] at hsum
  simp only [Progress.scene] at hsum
  omega

/-- Whatever does not overrun ends in time. `Overruns` holds of a wait without an
end, so its negation gives the end as well as the bound. -/
theorem Exchange.ends_of_not_overruns {x : Exchange α} (hx : x.run.Plain) {connector : Connector}
    {limit : Nat} {s : Scene} (hs : s.deadline = none) (h : ¬ x.Overruns connector limit s) :
    ∃ r s', x.run.run connector s = .ended r s' ∧ s'.clock ≤ s.clock + limit ∧
      s'.deadline = none := by
  rw [overruns_iff hx connector limit hs] at h
  simp only [Classical.not_forall, Nat.not_lt] at h
  obtain ⟨r, s', hrun, htime⟩ := h
  have hfree := hx.deadline_run connector s
  rw [hrun, hs] at hfree
  exact ⟨r, s', hrun, htime, hfree⟩

namespace Attempt

/-- An attempt that overruns is not seen before the deadline. The party stops
waiting just when the limit is over, not when the attempt is settled. -/
theorem await_of_overruns {a : Attempt α} {limit : Nat} (h : a.Overruns limit) (clock : Nat) :
    a.await (some (clock + limit)) clock = .late (clock + limit) := by
  cases a with
  | settled seconds r =>
    have hlate : clock + limit < clock + seconds := Nat.add_lt_add_left h clock
    exact if_pos hlate
  | never => rfl

/-- Any other attempt is seen when it is settled, also in the very second of the
deadline. -/
theorem await_of_not_overruns {a : Attempt α} {limit : Nat} (h : ¬ a.Overruns limit)
    (clock : Nat) :
    ∃ seconds r, a = .settled seconds r ∧ seconds ≤ limit ∧
      a.await (some (clock + limit)) clock = .result (clock + seconds) r := by
  cases a with
  | settled seconds r =>
    have hle : seconds ≤ limit := Nat.le_of_not_lt h
    refine ⟨seconds, r, rfl, hle, if_neg ?_⟩
    omega
  | never => exact absurd trivial h

end Attempt

namespace Server

/-! ### Windows -/

/-- The waits of a served connection. -/
inductive Window where
  /-- For the greeting, and for the credentials if they are asked for. -/
  | greeting
  | request
  | dial (target : Address)
  /-- For the peer at a listener that was opened for a target. -/
  | accept (target : Address) (l : Listener)

namespace Window

variable (policy : Policy) (connector : Connector)

/-- The seconds that a wait may take. -/
def limit : Window → Nat
  | .greeting | .request => policy.handshakeTimeout
  | .dial _ | .accept _ _ => policy.connectTimeout

/-- What the error says if it takes longer. -/
def text : Window → String
  | .greeting => s!"greeting not completed within {secondsText policy.handshakeTimeout}"
  | .request => s!"request not completed within {secondsText policy.handshakeTimeout}"
  | .dial target => s!"connect to {target.toText}"
  | .accept _ l => s!"BIND accept on {l.endpoint.toText}"

/-- What the client is told then. Before the request has been read it is
told nothing. -/
def code? : Window → Option ReplyCode
  | .greeting | .request => none
  | .dial _ => some .hostUnreachable
  | .accept _ _ => some .ttlExpired

/-- Whether a wait that begins in the given scene takes longer than it may. -/
def Overruns (s : Scene) : Window → Prop
  | .greeting => (Negotiation.negotiate policy).Overruns connector policy.handshakeTimeout s
  | .request => Request.read.Overruns connector policy.handshakeTimeout s
  | .dial target => (connector.dial target).Overruns policy.connectTimeout
  | .accept _ l => l.peer.Overruns policy.connectTimeout

/-- The scene in which such a wait is cut off. What comes in the very second
of the deadline is still taken. -/
def cutOff (s : Scene) : Window → Scene
  | .greeting =>
    (run connector (Negotiation.negotiate policy).run
      (s.due (s.clock + policy.handshakeTimeout))).scene
  | .request =>
    (run connector Request.read.run (s.due (s.clock + policy.handshakeTimeout))).scene
  | .dial target => s.mark (.dialed target)
  | .accept _ _ => s

/-- What is left to be done when a wait begins. -/
def dialogue : Window → Dialogue (Except ServiceError Unit)
  | .greeting => serve policy
  | .request =>
    (withDeadline policy.handshakeTimeout "request" Request.read).run.bind (afterRequest policy)
  | .dial target => connect policy target
  | .accept target l =>
    .within policy.connectTimeout
      (log .warn s!"No inbound connection on {l.endpoint.toText} before deadline"
        (failWith .ttlExpired (.timeout s!"BIND accept on {l.endpoint.toText}")))
      (.accept fun a => .release (afterAccept target a))

end Window

/-- What is delivered of the reply that the client is told, if any. -/
def told (code : Option ReplyCode) (o : Outlet) : History :=
  (code.map fun code => Event.sent (o.send (Reply.failureFrame code)).1).toList

/-- The scene once a method has been carried out. -/
def negotiatedScene (method : Method) (s : Scene) : Scene :=
  s.mark (.noted ⟨.debug, s!"Authentication completed with method: {method.name}"⟩)

/-- Noting that the negotiation is over takes no time. -/
@[simp] theorem clock_negotiatedScene (method : Method) (s : Scene) :
    (negotiatedScene method s).clock = s.clock := rfl

/-- Nor does it set a deadline, so the wait for the request begins without one. -/
@[simp] theorem deadline_negotiatedScene (method : Method) (s : Scene) :
    (negotiatedScene method s).deadline = s.deadline := rfl

/-- The scene once a request has been taken. -/
def requestedScene (q : Request) (s : Scene) : Scene :=
  s.mark (.noted ⟨.info, s!"SOCKS5 {q.command.text} request to {q.address.toText}"⟩)

/-- The scene once a listener has been opened for a target. -/
def listeningScene (target : Address) (l : Listener) (s : Scene) : Scene :=
  { s.mark (.listened target) with listener := some l }

/-- The scene once the client has been told where the listener is. -/
def acceptingScene (target : Address) (l : Listener) (s : Scene) : Scene :=
  s.mark (.noted ⟨.debug, s!"BIND listening on {l.endpoint.toText} for {target.toText}"⟩)

section

variable (policy : Policy) (connector : Connector) (client : Stream)

/-- The negotiation is over in time, with the given method. -/
inductive Negotiated : Method → Scene → Prop where
  | intro {method : Method} {s : Scene}
      (hrun : (Negotiation.negotiate policy).run.run connector (.atStart client)
        = .ended (.ok method) s)
      (htime : ¬ Window.greeting.Overruns policy connector (.atStart client)) :
      Negotiated method s

/-- So is the wait for the request, with the given one. -/
inductive Asked : Request → Scene → Prop where
  | intro {method : Method} {q : Request} {s t : Scene}
      (h : Negotiated policy connector client method s)
      (hrun : Request.read.run.run connector (negotiatedScene method s) = .ended (.ok q) t)
      (htime : ¬ Window.request.Overruns policy connector (negotiatedScene method s)) : Asked q t

/-- Which waits begin, and in which scenes. -/
inductive Begins : Window → Scene → Prop where
  | greeting : Begins .greeting (.atStart client)
  | request {method : Method} {s : Scene} (h : Negotiated policy connector client method s) :
      Begins .request (negotiatedScene method s)
  | dial {q : Request} {s : Scene} (h : Asked policy connector client q s)
      (hq : q.command = .connect) : Begins (.dial q.address) (requestedScene q s)
  | accept {q : Request} {l : Listener} {s t : Scene} (h : Asked policy connector client q s)
      (hq : q.command = .bind) (hbind : policy.allowBind = true)
      (hlisten : connector.listenFor q.address = .ok l)
      (hgrant : (listeningScene q.address l (requestedScene q s)).send
        (Reply.successFrame l.endpoint) = (.ok (), t)) :
      Begins (.accept q.address l) (acceptingScene q.address l t)

end

/-! ### What takes no time -/

/-- Notes are no deeds: what goes to the log is left out when deeds are compared.
-/
theorem deeds_mark_noted (s : Scene) (entry : Log.Entry) :
    (s.mark (.noted entry)).history.deeds = s.history.deeds := by
  show History.deeds (s.history ++ [.noted entry]) = _
  rw [History.deeds_append]
  exact List.append_nil _

/-- The client is told of a failure at once, as far as it can be. If the reply
cannot be delivered, that is noted and the error stays the one that the reply was
about. -/
theorem run_failWith (connector : Connector) (code : ReplyCode) (e : ServiceError) (s : Scene) :
    ∃ s', run connector (failWith code e) s = .ended (.error e) s' ∧ s'.clock = s.clock ∧
      s'.history.deeds = s.history.deeds ++ told (some code) s.stream.outlet := by
  -- The run is first written as a case split on how the sending goes. What both cases
  -- share, the clock and the deeds, is shown before the split.
  have hsend : run connector (failWith code e) s
      = match s.send (Reply.failureFrame code) with
        | (.ok (), s') => .ended (.error e) s'
        | (.error fault, s') => .ended (.error e) (s'.mark (.noted ⟨.debug,
            s!"Could not send '{code.text}' reply: {(ProtocolError.io fault).message}"⟩)) := by
    show run connector (.send (Reply.failureFrame code) _) s = _
    rw [run]
    rcases s.send (Reply.failureFrame code) with ⟨r, s'⟩
    cases r with
    | ok u => rfl
    | error fault => rfl
  have hhistory : (s.send (Reply.failureFrame code)).2.history.deeds
      = s.history.deeds ++ told (some code) s.stream.outlet := by
    show History.deeds (s.history ++ [.sent _]) = _
    rw [History.deeds_append]
    rfl
  have hclock : (s.send (Reply.failureFrame code)).2.clock = s.clock := rfl
  rw [hsend]
  -- Nothing more is needed of the sending itself, so it is forgotten here.
  generalize s.send (Reply.failureFrame code) = p at *
  obtain ⟨r, s'⟩ := p
  cases r with
  | ok u => exact ⟨s', rfl, hclock, hhistory⟩
  | error fault => exact ⟨_, rfl, hclock, (deeds_mark_noted s' _).trans hhistory⟩

section

variable {connector : Connector}

/-- A grant goes on at once, or fails. Unlike a failure it is lost if it cannot be
delivered: then the error is that of the write. -/
theorem run_grant (bound : Endpoint) (next : Dialogue (Except ServiceError Unit)) (s : Scene) :
    run connector (grant bound next) s
      = match s.send (Reply.successFrame bound) with
        | (.ok (), s') => run connector next s'
        | (.error e, s') => .ended (.error (.protocol (.io e))) s' := by
  rw [grant, Reply.send_success]
  show run connector (.send (Reply.successFrame bound) _) s = _
  rw [run]
  rcases s.send (Reply.successFrame bound) with ⟨r, s'⟩
  cases r with
  | ok u => rfl
  | error e => rfl

/-- Whether a dialogue comes to its end at once, and not with a timeout. -/
def Prompt (connector : Connector) (x : Dialogue (Except ServiceError Unit)) : Prop :=
  ∀ s, ∃ r s', run connector x s = .ended r s' ∧ (∀ text, r ≠ .error (.timeout text)) ∧
    s'.clock = s.clock

/-- A dialogue that is done is prompt, unless it is done with a timeout. -/
theorem prompt_done {r : Except ServiceError Unit} (h : ∀ text, r ≠ .error (.timeout text)) :
    Prompt connector (.done r) :=
  fun s => ⟨r, s, rfl, h, rfl⟩

/-- Noting something first takes no time. -/
theorem prompt_log (level : Log.Level) (text : String) {next : Dialogue (Except ServiceError Unit)}
    (h : Prompt connector next) : Prompt connector (log level text next) :=
  fun s => h (s.mark (.noted ⟨level, text⟩))

/-- Telling of a failure is prompt, unless the failure is a timeout itself. -/
theorem prompt_failWith (code : ReplyCode) {e : ServiceError} (he : ∀ text, e ≠ .timeout text) :
    Prompt connector (failWith code e) := by
  intro s
  obtain ⟨s', hrun, hclock, -⟩ := run_failWith connector code e s
  refine ⟨.error e, s', hrun, ?_, hclock⟩
  rintro text ⟨⟩
  exact he text rfl

/-- A grant is prompt if what comes after it is. The case where it cannot be
delivered ends at once. -/
theorem prompt_grant (bound : Endpoint) {next : Dialogue (Except ServiceError Unit)}
    (h : Prompt connector next) : Prompt connector (grant bound next) := by
  intro s
  have hclock : (s.send (Reply.successFrame bound)).2.clock = s.clock := rfl
  rw [run_grant]
  generalize s.send (Reply.successFrame bound) = p at *
  obtain ⟨r, s'⟩ := p
  cases r with
  | ok u =>
    obtain ⟨r, s'', hrun, hr, hclock'⟩ := h s'
    exact ⟨r, s'', hrun, hr, hclock'.trans hclock⟩
  | error e => exact ⟨_, s', rfl, nofun, hclock⟩

/-- Whatever a dial came to, nothing is waited for after it: the client is told
and the tunnel is left to the caller. -/
theorem prompt_afterDial (target : Address) (r : Except IoError Endpoint) :
    Prompt connector (afterDial target r) := by
  cases r with
  | ok bound => exact prompt_grant bound (prompt_log _ _ (prompt_done nofun))
  | error e => exact prompt_log _ _ (prompt_failWith _ nofun)

/-- The same holds of a peer that has come, be it welcome or not. Either way there
is only a message left to send. -/
theorem prompt_afterAccept (target : Address) (r : Except IoError Endpoint) :
    Prompt connector (afterAccept target r) := by
  cases r with
  | ok peer =>
    show Prompt connector (welcome target peer)
    unfold welcome
    split
    · exact prompt_grant peer (prompt_log _ _ (prompt_done nofun))
    · exact prompt_log _ _ (prompt_failWith _ nofun)
  | error e => exact prompt_log _ _ (prompt_failWith _ nofun)

/-- A command that is not carried out is refused at once. -/
theorem prompt_refuse (command : Command) : Prompt connector (refuse command) :=
  prompt_log _ _ (prompt_failWith _ nofun)

/-- A request that cannot be read is answered or not, but nothing is waited for.
-/
theorem prompt_rejectRequest (e : ProtocolError) :
    Prompt connector (rejectRequest (.protocol e)) := by
  rw [rejectRequest]
  cases e.reply? with
  | some code => exact prompt_failWith code nofun
  | none => exact prompt_done nofun

/-! ### Windows that are over in time -/

/-- A wait of the negotiation that ends without overrunning ends in time. It is
`Exchange.ends_of_not_overruns` for an end that is known already. -/
theorem inTime_of_not_overruns {x : Exchange α} (hx : x.run.Plain) {s s' : Scene} {limit : Nat}
    {r : Except ProtocolError α} (hs : s.deadline = none) (h : ¬ x.Overruns connector limit s)
    (hrun : x.run.run connector s = .ended r s') :
    s'.clock ≤ s.clock + limit ∧ s'.deadline = none := by
  obtain ⟨r', s'', hrun', htime, hfree⟩ := Exchange.ends_of_not_overruns hx hs h
  cases hrun.symm.trans hrun'
  exact ⟨htime, hfree⟩

variable {policy : Policy} {client : Stream}

/-- A negotiation that is over in time leaves no deadline behind. It began at
zero, so the clock shows at most the limit. -/
theorem Negotiated.free {method : Method} {s : Scene}
    (h : Negotiated policy connector client method s) :
    s.clock ≤ policy.handshakeTimeout ∧ s.deadline = none := by
  obtain ⟨hrun, htime⟩ := h
  have hinTime := inTime_of_not_overruns (Negotiation.plain_negotiate policy)
    (s := .atStart client) rfl htime hrun
  rwa [show (Scene.atStart client).clock = 0 from rfl, Nat.zero_add] at hinTime

/-- The run of a connection whose negotiation is over in time is that of the wait
for its request. -/
theorem run_of_negotiated {method : Method} {s : Scene}
    (h : Negotiated policy connector client method s) :
    run connector (serve policy) (.atStart client)
      = run connector (Window.request.dialogue policy) (negotiatedScene method s) := by
  obtain ⟨hrun, htime⟩ := h
  obtain ⟨hclock, -⟩ := inTime_of_not_overruns (Negotiation.plain_negotiate policy)
    (s := .atStart client) rfl htime hrun
  rw [serve_eq, run_withDeadline (Negotiation.plain_negotiate policy) rfl hrun hclock]
  rfl

/-- A request that was taken in time leaves no deadline behind, and the clock
shows at most two limits by then: the request has a whole one to itself. -/
theorem Asked.free {q : Request} {t : Scene} (h : Asked policy connector client q t) :
    t.clock ≤ 2 * policy.handshakeTimeout ∧ t.deadline = none := by
  obtain ⟨hnegotiated, hrun, htime⟩ := h
  obtain ⟨hclock, hfree⟩ := hnegotiated.free
  obtain ⟨hclock', hfree'⟩ := inTime_of_not_overruns Request.plain_read (by simpa using hfree)
    htime hrun
  refine ⟨?_, hfree'⟩
  rw [clock_negotiatedScene] at hclock'
  omega

/-- The run of a connection whose request was taken in time is what the request
asks for. -/
theorem run_of_asked {q : Request} {t : Scene} (h : Asked policy connector client q t) :
    run connector (serve policy) (.atStart client) = run connector (perform policy q) t := by
  obtain ⟨hnegotiated, hrun, htime⟩ := h
  obtain ⟨-, hfree⟩ := hnegotiated.free
  rw [← deadline_negotiatedScene] at hfree
  obtain ⟨hclock, -⟩ := inTime_of_not_overruns Request.plain_read hfree htime hrun
  rw [run_of_negotiated hnegotiated, Window.dialogue,
    run_withDeadline Request.plain_read hfree hrun hclock]
  rfl

/-- A CONNECT goes on to its dial. -/
theorem run_connect_eq {q : Request} (hq : q.command = .connect) (s : Scene) :
    run connector (perform policy q) s
      = run connector (connect policy q.address) (requestedScene q s) := by
  obtain ⟨command, address⟩ := q
  obtain rfl : command = .connect := hq
  rfl

/-- A BIND that is allowed goes on to its listener. Its only traces before that
are those of a request that was read. -/
theorem run_bind_eq {q : Request} (hq : q.command = .bind) (hbind : policy.allowBind = true)
    (s : Scene) :
    run connector (perform policy q) s
      = run connector (.listen q.address (afterListen policy q.address)) (requestedScene q s) := by
  obtain ⟨command, address⟩ := q
  obtain rfl : command = .bind := hq
  rw [← bind_eq]
  unfold perform
  rw [show (if policy.allowBind then bind policy address else refuse .bind) = bind policy address
    from if_pos hbind]
  rfl

/-- A listener that opens is there at once, with a mark in the history. No time
passes. -/
theorem run_listen_ok {target : Address} {l : Listener}
    (hlisten : connector.listenFor target = .ok l)
    (k : Except IoError Endpoint → Dialogue β) (s : Scene) :
    run connector (.listen target k) s
      = run connector (k (.ok l.endpoint)) (listeningScene target l s) := by
  unfold Connector.listenFor at hlisten
  rw [run]
  cases hl : connector.listen with
  | none =>
    rw [hl] at hlisten
    cases hlisten
  | some openListener =>
    rw [hl] at hlisten
    dsimp only at hlisten ⊢
    rw [hlisten]
    rfl

/-- One that does not open fails at once. The scene is left open, as a connector
without listeners leaves no trace in the history and any other one does. -/
theorem run_listen_error {target : Address} {e : IoError}
    (hlisten : connector.listenFor target = .error e)
    (k : Except IoError Endpoint → Dialogue β) (s : Scene) :
    ∃ s', run connector (.listen target k) s = run connector (k (.error e)) s' ∧
      s'.clock = s.clock := by
  unfold Connector.listenFor at hlisten
  rw [run]
  cases hl : connector.listen with
  | none =>
    rw [hl] at hlisten
    cases hlisten
    exact ⟨s, rfl, rfl⟩
  | some openListener =>
    rw [hl] at hlisten
    dsimp only at hlisten ⊢
    rw [hlisten]
    exact ⟨_, rfl, rfl⟩

/-- What a window stands for: a wait that begins is what is left of the run. So
what is shown of the wait alone is shown of the served connection. -/
theorem run_of_begins {w : Window} {t : Scene} (h : Begins policy connector client w t) :
    run connector (serve policy) (.atStart client) = run connector (w.dialogue policy) t := by
  cases h with
  | greeting => rfl
  | request h => exact run_of_negotiated h
  | dial h hq => rw [run_of_asked h, run_connect_eq hq, Window.dialogue]
  | accept h hq hbind hlisten hgrant =>
    rw [run_of_asked h, run_bind_eq hq hbind, run_listen_ok hlisten, afterListen, run_grant, hgrant]
    rfl

/-- No deadline is left from an earlier wait when a new one begins. So the limit
of a window is counted from its own beginning. -/
theorem Begins.free {w : Window} {t : Scene} (h : Begins policy connector client w t) :
    t.deadline = none := by
  cases h with
  | greeting => rfl
  | request h => exact h.free.2
  | dial h hq => exact h.free.2
  | accept h hq hbind hlisten hgrant =>
    have hkeep := congrArg (fun p => p.2.deadline) hgrant
    exact hkeep.symm.trans h.free.2

/-- The listener that a peer is waited for at is the one that was opened for the
target. -/
theorem Begins.listener_eq {target : Address} {l : Listener} {t : Scene}
    (h : Begins policy connector client (.accept target l) t) : t.listener = some l := by
  cases h with
  | accept h hq hbind hlisten hgrant =>
    have hkeep := congrArg (fun p => p.2.listener) hgrant
    exact hkeep.symm

/-! ### Windows that overrun -/

/-- An attempt that overruns makes the party late when its time is up. -/
theorem runAttempt_of_overruns (connector : Connector) {a : Attempt Connection} {seconds : Nat}
    (h : a.Overruns seconds) (k : Except IoError Endpoint → Dialogue β) (s : Scene) :
    runAttempt connector a k (s.due (s.clock + seconds))
      = .late { s.due (s.clock + seconds) with clock := s.clock + seconds } := by
  have hawait : a.await (s.due (s.clock + seconds)).deadline (s.due (s.clock + seconds)).clock
      = .late (s.clock + seconds) := Attempt.await_of_overruns h s.clock
  rw [runAttempt, hawait]

/-- A dial that overruns is cut off. The dial stays in the history: it was made,
only nothing came of it. -/
theorem run_dial_of_overruns {seconds : Nat} (hrange : seconds < clockRange) {target : Address}
    (h : (connector.dial target).Overruns seconds) (late : Dialogue β)
    (k : Except IoError Endpoint → Dialogue β) (s : Scene) :
    run connector (.within seconds late (.dial target k)) s
      = run connector late
        { s.mark (.dialed target) with clock := s.clock + seconds, deadline := none } := by
  have hdial := run_dial connector target k (s.due (s.clock + seconds))
  have hlate := runAttempt_of_overruns connector h k (s.mark (.dialed target))
  exact run_within_of_late hrange (hdial.trans hlate)

/-- So is the wait for a peer. The listener stays open meanwhile, and the deadline
is laid down before the client is told. -/
theorem run_accept_of_overruns {seconds : Nat} (hrange : seconds < clockRange) {l : Listener}
    (h : l.peer.Overruns seconds) (late : Dialogue β) (k : Except IoError Endpoint → Dialogue β)
    {s : Scene} (hl : s.listener = some l) :
    run connector (.within seconds late (.accept k)) s
      = run connector late { s with clock := s.clock + seconds, deadline := none } := by
  have hdue : (s.due (s.clock + seconds)).listener = some l := hl
  have hlate := runAttempt_of_overruns connector h k s
  exact run_within_of_late hrange ((run_accept connector hdue k).trans hlate)

/-- A wait that overruns ends the run when its time is up, with the error
that belongs to it. Nothing happens from then on but that the client is
told, if it has made a request. -/
theorem expires {w : Window} {t : Scene} (hhs : policy.handshakeTimeout < clockRange)
    (hct : policy.connectTimeout < clockRange) (hbegins : Begins policy connector client w t)
    (hover : w.Overruns policy connector t) :
    ∃ s, run connector (w.dialogue policy) t = .ended (.error (.timeout (w.text policy))) s ∧
      s.clock = t.clock + w.limit policy ∧
      s.history.deeds = (w.cutOff policy connector t).history.deeds
        ++ told w.code? (w.cutOff policy connector t).stream.outlet := by
  -- No deadline is left over, so each window sets its own and is the only one to end it.
  have hfree := hbegins.free
  cases w with
  | greeting =>
    have hplain := Negotiation.plain_negotiate policy
    have htime := (Exchange.overruns_iff hplain connector policy.handshakeTimeout hfree).mp hover
    obtain ⟨s, hlate, hclock, hrun⟩ := run_withDeadline_of_overrun hplain hfree hhs htime
      "greeting" (afterNegotiation policy)
    refine ⟨s.released, hrun, hclock, ?_⟩
    rw [Window.cutOff, hlate]
    exact (List.append_nil _).symm
  | request =>
    have hplain := Request.plain_read
    have htime := (Exchange.overruns_iff hplain connector policy.handshakeTimeout hfree).mp hover
    obtain ⟨s, hlate, hclock, hrun⟩ := run_withDeadline_of_overrun hplain hfree hhs htime
      "request" (afterRequest policy)
    refine ⟨s.released, hrun, hclock, ?_⟩
    rw [Window.cutOff, hlate]
    exact (List.append_nil _).symm
  | dial target =>
    rw [Window.dialogue, connect_eq, run_dial_of_overruns hct hover]
    obtain ⟨s, hrun, hclock, hhistory⟩ := run_failWith connector .hostUnreachable
      (.timeout s!"connect to {target.toText}")
      (Scene.mark { t.mark (.dialed target) with
        clock := t.clock + policy.connectTimeout, deadline := none } (.noted _))
    refine ⟨s, hrun, hclock, hhistory.trans ?_⟩
    rw [deeds_mark_noted]
    rfl
  | accept target l =>
    rw [Window.dialogue, run_accept_of_overruns hct hover _ _ hbegins.listener_eq]
    obtain ⟨s, hrun, hclock, hhistory⟩ := run_failWith connector .ttlExpired
      (.timeout s!"BIND accept on {l.endpoint.toText}")
      (Scene.mark { t with
        clock := t.clock + policy.connectTimeout, deadline := none } (.noted _))
    refine ⟨s, hrun, hclock, hhistory.trans ?_⟩
    rw [deeds_mark_noted]
    rfl

/-! ### Windows that do not overrun -/

/-- Whether a dialogue comes to its end within the given seconds, and not with
a timeout. -/
def Settles (connector : Connector) (seconds : Nat) (x : Dialogue (Except ServiceError Unit))
    (s : Scene) : Prop :=
  ∃ r s', run connector x s = .ended r s' ∧ (∀ text, r ≠ .error (.timeout text)) ∧
    s'.clock ≤ s.clock + seconds

/-- What comes to its end at once settles within any time. -/
theorem Prompt.settles {x : Dialogue (Except ServiceError Unit)} (h : Prompt connector x)
    (seconds : Nat) (s : Scene) : Settles connector seconds x s := by
  obtain ⟨r, s', hrun, hr, hclock⟩ := h s
  exact ⟨r, s', hrun, hr, by omega⟩

section

variable {seconds : Nat} (hrange : seconds < clockRange)
  (late : Dialogue (Except ServiceError Unit))
  {k : Except IoError Endpoint → Dialogue (Except ServiceError Unit)}
  (hk : ∀ r, Prompt connector (k r))

include hk

/-- An attempt that is settled in time leads to what takes no more time. The
deadline is lifted before anything else happens, so `hk` need not know of it. -/
theorem runAttempt_of_not_overruns {a : Attempt Connection} (h : ¬ a.Overruns seconds)
    (s : Scene) :
    ∃ r s', runAttempt connector a (fun r => .release (k r)) (s.due (s.clock + seconds))
        = .ended r s' ∧ (∀ text, r ≠ .error (.timeout text)) ∧ s'.clock ≤ s.clock + seconds := by
  obtain ⟨n, r, -, hle, hsettled⟩ := Attempt.await_of_not_overruns h s.clock
  have hawait : a.await (s.due (s.clock + seconds)).deadline (s.due (s.clock + seconds)).clock
      = .result (s.clock + n) r := hsettled
  rw [runAttempt, hawait]
  -- Whatever the attempt came to, the deadline is lifted first.
  cases r with
  | ok c =>
    obtain ⟨r, s', hrun, hr, hclock⟩ := hk (.ok c.endpoint)
      { s with clock := s.clock + n, deadline := none, remote := some c }
    exact ⟨r, s', hrun, hr, hclock ▸ Nat.add_le_add_left hle s.clock⟩
  | error e =>
    obtain ⟨r, s', hrun, hr, hclock⟩ := hk (.error e)
      { s with clock := s.clock + n, deadline := none }
    exact ⟨r, s', hrun, hr, hclock ▸ Nat.add_le_add_left hle s.clock⟩

include hrange

/-- So does a dial, as far as it is waited for under a deadline of its own. -/
theorem settles_dial {target : Address} (h : ¬ (connector.dial target).Overruns seconds)
    (s : Scene) :
    Settles connector seconds (.within seconds late (.dial target fun a => .release (k a))) s := by
  obtain ⟨r, s', hrun, hr, hclock⟩ := runAttempt_of_not_overruns hk h (s.mark (.dialed target))
  have hdial := run_dial connector target (fun a => .release (k a)) (s.due (s.clock + seconds))
  exact ⟨r, s', run_within_of_ended hrange (hdial.trans hrun), hr, hclock⟩

/-- So does the wait for a peer. -/
theorem settles_accept {l : Listener} (h : ¬ l.peer.Overruns seconds) {s : Scene}
    (hl : s.listener = some l) :
    Settles connector seconds (.within seconds late (.accept fun a => .release (k a))) s := by
  have hdue : (s.due (s.clock + seconds)).listener = some l := hl
  obtain ⟨r, s', hrun, hr, hclock⟩ := runAttempt_of_not_overruns hk h s
  exact ⟨r, s', run_within_of_ended hrange ((run_accept connector hdue _).trans hrun), hr, hclock⟩

end

/-! ### The whole connection -/

/-- A request that has nothing to wait for is answered at once. These are all but
a CONNECT and a BIND that is allowed. -/
theorem prompt_perform {q : Request} (hq : q.command ≠ .connect)
    (hbind : ¬ (q.command = .bind ∧ policy.allowBind = true)) :
    Prompt connector (perform policy q) := by
  obtain ⟨command, address⟩ := q
  refine prompt_log _ _ ?_
  cases command with
  | connect => exact absurd rfl hq
  | bind =>
    have hrefused : ¬ policy.allowBind = true := fun h => hbind ⟨rfl, h⟩
    show Prompt connector (if policy.allowBind then bind policy address else refuse .bind)
    rw [if_neg hrefused]
    exact prompt_refuse .bind
  | udpAssociate => exact prompt_refuse .udpAssociate

/-- A BIND is answered within the time for a peer, unless the peer overruns. A
listener that does not open and a client that cannot be told where it is end the
run before that. -/
theorem settles_bind {q : Request} {t : Scene} (hct : policy.connectTimeout < clockRange)
    (hasked : Asked policy connector client q t) (hq : q.command = .bind)
    (hallowed : policy.allowBind = true)
    (hnone : ∀ l t', Begins policy connector client (.accept q.address l) t' →
      ¬ l.peer.Overruns policy.connectTimeout) :
    Settles connector policy.connectTimeout (perform policy q) t := by
  -- Three things can go wrong before the wait: no listener, no grant, no peer.
  cases hlisten : connector.listenFor q.address with
  | error e =>
    obtain ⟨t', hrun, hclock⟩ := run_listen_error hlisten
      (afterListen policy q.address) (requestedScene q t)
    have hprompt : Prompt connector (afterListen policy q.address (.error e)) :=
      prompt_log _ _ (prompt_failWith _ nofun)
    obtain ⟨r, s, hrun', hr, hclock'⟩ := hprompt t'
    refine ⟨r, s, (run_bind_eq hq hallowed t).trans (hrun.trans hrun'), hr, ?_⟩
    rw [hclock', hclock]
    exact Nat.le_add_right _ _
  | ok l =>
    have hrun := (run_bind_eq hq hallowed t).trans
      (run_listen_ok hlisten (afterListen policy q.address) (requestedScene q t))
    rw [afterListen, run_grant] at hrun
    cases hgrant : (listeningScene q.address l (requestedScene q t)).send
        (Reply.successFrame l.endpoint) with
    | mk sent t' =>
      have hclock : t'.clock = t.clock := (congrArg (fun p => p.2.clock) hgrant).symm
      rw [hgrant] at hrun
      cases sent with
      | error e =>
        refine ⟨_, t', hrun, nofun, ?_⟩
        omega
      | ok u =>
        -- The client knows where the listener is, and a peer may come.
        have hbegins := Begins.accept hasked hq hallowed hlisten hgrant
        obtain ⟨r, s, hrun', hr, hclock'⟩ := settles_accept hct
          (log .warn s!"No inbound connection on {l.endpoint.toText} before deadline"
            (failWith .ttlExpired (.timeout s!"BIND accept on {l.endpoint.toText}")))
          (prompt_afterAccept q.address) (hnone _ _ hbegins) hbegins.listener_eq
        refine ⟨r, s, hrun.trans hrun', hr, ?_⟩
        rw [← hclock]
        exact hclock'

/-- A request is answered within the time for a dial or a peer, unless one of
them overruns. -/
theorem settles_perform {q : Request} {t : Scene} (hct : policy.connectTimeout < clockRange)
    (hasked : Asked policy connector client q t)
    (hnone : ∀ w t, Begins policy connector client w t → ¬ w.Overruns policy connector t) :
    Settles connector policy.connectTimeout (perform policy q) t := by
  by_cases hconnect : q.command = .connect
  · have hdial := hnone _ _ (.dial hasked hconnect)
    have hsettles := settles_dial hct
      (log .error s!"Connection timeout to {q.address.toText}"
        (failWith .hostUnreachable (.timeout s!"connect to {q.address.toText}")))
      (prompt_afterDial q.address) hdial (requestedScene q t)
    rw [← connect_eq] at hsettles
    obtain ⟨r, s, hrun, hr, hclock⟩ := hsettles
    exact ⟨r, s, (run_connect_eq hconnect t).trans hrun, hr, hclock⟩
  · by_cases hbind : q.command = .bind ∧ policy.allowBind = true
    · obtain ⟨hq, hallowed⟩ := hbind
      exact settles_bind hct hasked hq hallowed fun l t' hbegins => hnone _ t' hbegins
    · -- Every other request is refused, and there is nothing to wait for.
      exact (prompt_perform hconnect hbind).settles _ t

/-- If no wait overruns, the connection settles within the sum of the limits. The
three windows come one after the other, and each starts from a clock that the ones
before have bounded. -/
theorem settles_serve (hct : policy.connectTimeout < clockRange)
    (hnone : ∀ w t, Begins policy connector client w t → ¬ w.Overruns policy connector t) :
    Settles connector (2 * policy.handshakeTimeout + policy.connectTimeout) (serve policy)
      (.atStart client) := by
  -- The first window, which covers the greeting and the credentials.
  have hgreeting := hnone _ _ .greeting
  obtain ⟨r, s, hrun, htime, hfree⟩ :=
    Exchange.ends_of_not_overruns (Negotiation.plain_negotiate policy) rfl hgreeting
  have hserve : run connector (serve policy) (.atStart client)
      = run connector (afterNegotiation policy (r.mapError .protocol)) s := by
    rw [serve_eq]
    exact run_withDeadline (Negotiation.plain_negotiate policy) rfl hrun htime "greeting" _
  rw [show (Scene.atStart client).clock = 0 from rfl] at htime
  cases r with
  | error e =>
    refine ⟨_, s, hserve, nofun, ?_⟩
    show s.clock ≤ 0 + _
    omega
  | ok method =>
    have hnegotiated : Negotiated policy connector client method s := ⟨hrun, hgreeting⟩
    -- The request has a window of its own, as long as the first one.
    have hrequest := hnone _ _ (.request hnegotiated)
    rw [← deadline_negotiatedScene method] at hfree
    obtain ⟨r, t, hrun', htime', -⟩ :=
      Exchange.ends_of_not_overruns Request.plain_read hfree hrequest
    rw [clock_negotiatedScene] at htime'
    cases r with
    | error e =>
      have hread := run_withDeadline Request.plain_read hfree hrun' htime' "request"
        (afterRequest policy)
      have hprompt : Prompt connector (rejectRequest (.protocol e)) := prompt_rejectRequest e
      obtain ⟨r, t', hreject, hr, hclock⟩ := hprompt t
      refine ⟨r, t', (run_of_negotiated hnegotiated).trans (hread.trans hreject), hr, ?_⟩
      show t'.clock ≤ 0 + _
      omega
    | ok q =>
      -- And so has what it asks for.
      have hasked : Asked policy connector client q t := ⟨hnegotiated, hrun', hrequest⟩
      obtain ⟨r, t', hperform, hr, hclock⟩ := settles_perform hct hasked hnone
      refine ⟨r, t', (run_of_asked hasked).trans hperform, hr, ?_⟩
      show t'.clock ≤ 0 + _
      omega

/-- A wait begins early enough to be over within the sum of the limits. So a
window that does overrun ends the run no later than that, either. -/
theorem Begins.clock_add_limit_le {w : Window} {t : Scene}
    (h : Begins policy connector client w t) :
    t.clock + w.limit policy ≤ 2 * policy.handshakeTimeout + policy.connectTimeout := by
  cases h with
  | greeting =>
    show 0 + policy.handshakeTimeout ≤ _
    omega
  | @request method s h =>
    have hclock := h.free.1
    show s.clock + policy.handshakeTimeout ≤ _
    omega
  | @dial q s h hq =>
    have hclock := h.free.1
    show s.clock + policy.connectTimeout ≤ _
    omega
  | @accept q l s t h hq hbind hlisten hgrant =>
    have hclock := h.free.1
    have hkeep : s.clock = t.clock := congrArg (fun p => p.2.clock) hgrant
    show t.clock + policy.connectTimeout ≤ _
    omega

end

/-- Every wait up to the tunnel is covered by a deadline. If the clock can show the timeouts,
a served connection ends, or gets to its tunnel, within the sum of the limits of greeting,
request and dial. A wait that begins and overruns its limit ends it with the error that
belongs to the wait, just when the limit is over; what had been written then is all that is
ever written, but for the reply that tells of a dial or of a peer that did not come. And a
timeout has no other cause. -/
theorem deadlines_cover (policy : Policy) (connector : Connector) (client : Stream)
    (hhs : policy.handshakeTimeout < clockRange) (hct : policy.connectTimeout < clockRange) :
    ∃ r s, run connector (serve policy) (.atStart client) = .ended r s ∧
      s.clock ≤ 2 * policy.handshakeTimeout + policy.connectTimeout ∧
      (∀ w t, Begins policy connector client w t → w.Overruns policy connector t →
        r = .error (.timeout (w.text policy)) ∧ s.clock = t.clock + w.limit policy ∧
          s.history.deeds = (w.cutOff policy connector t).history.deeds
            ++ told w.code? (w.cutOff policy connector t).stream.outlet) ∧
      ∀ text, r = .error (.timeout text) →
        ∃ w t, Begins policy connector client w t ∧ w.Overruns policy connector t ∧
          text = w.text policy := by
  have hexpires : ∀ w t, Begins policy connector client w t → w.Overruns policy connector t →
      ∃ s, run connector (serve policy) (.atStart client)
          = .ended (.error (.timeout (w.text policy))) s ∧
        s.clock = t.clock + w.limit policy ∧
        s.history.deeds = (w.cutOff policy connector t).history.deeds
          ++ told w.code? (w.cutOff policy connector t).stream.outlet := by
    intro w t hbegins hover
    rw [run_of_begins hbegins]
    exact expires hhs hct hbegins hover
  by_cases h : ∃ w t, Begins policy connector client w t ∧ w.Overruns policy connector t
  · -- Whichever wait overruns, the run has only one end.
    obtain ⟨w, t, hbegins, hover⟩ := h
    obtain ⟨s, hrun, hclock, -⟩ := hexpires w t hbegins hover
    refine ⟨_, s, hrun, hclock ▸ hbegins.clock_add_limit_le, ?_, ?_⟩
    · intro w' t' hbegins' hover'
      obtain ⟨s', hrun', hclock', hhistory⟩ := hexpires w' t' hbegins' hover'
      obtain ⟨hresult, hscene⟩ := Progress.ended.inj (hrun.symm.trans hrun')
      exact ⟨hresult, hscene ▸ hclock', hscene ▸ hhistory⟩
    · intro text htext
      obtain rfl : w.text policy = text := by simpa using htext
      exact ⟨w, t, hbegins, hover, rfl⟩
  · have hnone : ∀ w t, Begins policy connector client w t → ¬ w.Overruns policy connector t :=
      fun w t hbegins hover => h ⟨w, t, hbegins, hover⟩
    obtain ⟨r, s, hrun, hr, hclock⟩ := settles_serve hct hnone
    rw [show (Scene.atStart client).clock = 0 from rfl, Nat.zero_add] at hclock
    exact ⟨r, s, hrun, hclock, fun w t hbegins hover => absurd hover (hnone w t hbegins),
      fun text htext => absurd htext (hr text)⟩

/-- A client that stops in the middle of its greeting. -/
def stalledClient : Stream :=
  { script := [.bytes [5, 1], .stall] }

/-- A client that pauses before its request. -/
def slowClient : Stream :=
  { script := [.bytes [5, 1, 0], .wait 9, .bytes [5, 1, 0, 1, 127, 0, 0, 1, 0, 80]] }

/-- Nothing is ever heard of what it dials. -/
def mutedConnector : Connector :=
  { dial := fun _ => .never }

/-- The stalled client is cut off without a word. The slow one has both its
windows, and the dial has all of its own from then on. -/
theorem deadlines_cover_of_silence :
    (∃ s, run mutedConnector (serve {}) (.atStart stalledClient)
        = .ended (.error (.timeout "greeting not completed within 10s")) s ∧
      s.clock = 10 ∧ s.history.sentBytes = []) ∧
    ∃ s, run mutedConnector (serve {}) (.atStart slowClient)
        = .ended (.error (.timeout "connect to 127.0.0.1:80")) s ∧
      s.clock = 19 ∧ s.history.sentBytes = [5, 0] ++ [5, 4, 0, 1, 0, 0, 0, 0, 0, 0] := by
  have hrange : (10 : Nat) < clockRange := by decide
  refine ⟨?_, ?_⟩
  · obtain ⟨r, s, hrun, -, hover, -⟩ :=
      deadlines_cover {} mutedConnector stalledClient hrange hrange
    -- Left alone, the server would wait for the greeting forever.
    have hstuck : (run mutedConnector (Negotiation.negotiate {}).run
        (.atStart stalledClient)).halt = .stuck := rfl
    have hoverruns : Window.greeting.Overruns {} mutedConnector (.atStart stalledClient) := by
      intro r s' hended
      rw [hended] at hstuck
      cases hstuck
    obtain ⟨hr, hclock, hdeeds⟩ := hover _ _ .greeting hoverruns
    have htext : Window.greeting.text {} = "greeting not completed within 10s" := by decide
    refine ⟨s, ?_, hclock, ?_⟩
    · rw [hrun, hr, htext]
    · rw [← History.sentBytes_deeds, hdeeds]
      rfl
  · obtain ⟨r, s, hrun, -, hover, -⟩ :=
      deadlines_cover {} mutedConnector slowClient hrange hrange
    have hnegotiated : Negotiated {} mutedConnector slowClient .noAuth _ :=
      ⟨rfl, fun h => absurd (h _ _ rfl) (by decide)⟩
    have hasked : Asked {} mutedConnector slowClient
        ⟨.connect, .ip (.v4 ⟨127, 0, 0, 1⟩ 80)⟩ _ :=
      ⟨hnegotiated, rfl, fun h => absurd (h _ _ rfl) (by decide)⟩
    obtain ⟨hr, hclock, hdeeds⟩ := hover _ _ (.dial hasked rfl) trivial
    have htext : Window.text {} (.dial (.ip (.v4 ⟨127, 0, 0, 1⟩ 80)))
        = "connect to 127.0.0.1:80" := by decide
    refine ⟨s, ?_, hclock, ?_⟩
    · rw [hrun, hr, htext]
    · rw [← History.sentBytes_deeds, hdeeds]
      rfl

end Server

end Socks5
