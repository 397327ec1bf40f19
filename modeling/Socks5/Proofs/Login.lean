import Socks5.Config
import Socks5.Proofs.Codec
import Socks5.Proofs.Schedule

/-!
# `Socks5.Proofs.Login`: which credentials there are

Three parts of the library have a rule for credentials of their own: a policy
refuses some when it is checked, a client refuses to send some, and a server
lets nobody in with some.

* `Policy.fault?_eq_none_iff`, `writes_iff`, `ended_iff`: all three have the
  same rule, 1 to 255 bytes for each field.
* `walk_login`: one run of a client that sends credentials to a server that
  expects some.
* `credentials_agree`: all runs end in that way, over any pipes and whoever
  goes on next.
-/

set_option autoImplicit false

namespace Socks5

open Net Dialogue

/-- A policy with credentials and with time to wait is usable just if they fit.
There are other faults, and the hypotheses leave only that of the credentials. -/
theorem Policy.fault?_eq_none_iff {policy : Policy} {c : Credentials}
    (hu : policy.username = some c.username) (hp : policy.password = some c.password)
    (hs : 1 ≤ policy.handshakeTimeout) (hc : 1 ≤ policy.connectTimeout) :
    policy.fault? = none ↔ Client.Fit c := by
  have hcredentials : policy.hasCredentials = true := by simp [hasCredentials, hu, hp]
  have htimes : ¬ (policy.handshakeTimeout = 0 ∨ policy.connectTimeout = 0) := by omega
  unfold fault? Client.Fit
  rw [if_neg (fun h => h.2 hcredentials), if_neg htimes, hu, hp]
  cases hfu : Credentials.fits c.username with
  | false => simp [hfu]
  | true =>
    cases hfp : Credentials.fits c.password with
    | false => simp [hfu, hfp]
    | true => simp [hfu, hfp]

/-- What an exchange makes of bytes is how it ends on a stream that brings them.
One segment is enough, since nothing is claimed here about other cuts. -/
theorem Exchange.ended_of_onBytes {α : Type} {x : Exchange α} {bs rest : Bytes}
    {r : Except ProtocolError α} (h : x.onBytes bs = some (r, rest)) :
    (x.run.run default (.atStart { script := [.bytes bs] })).halt = .ended r := by
  unfold onBytes at h
  split at h
  · rename_i r' s hrun
    cases h
    rw [hrun]
    rfl
  · cases h
  · cases h

namespace Negotiation

/-! ### The client -/

/-- Whether a client says its credentials: the first thing that it does on any
stream that takes its writes is to write their message. -/
def Writes (c : Credentials) : Prop :=
  ∀ (connector : Connector) (s : Scene), s.stream.outlet.Sure →
    ∃ h, ((sendCredentials c).run.run connector s).scene.history
      = s.history ++ .sent (passwordMessage c) :: h

/-- Whether a client keeps its credentials to itself: on any stream it gives up
at once, with a note and nothing else. -/
def Withholds (c : Credentials) : Prop :=
  ∀ (connector : Connector) (s : Scene),
    ∃ entry, (sendCredentials c).run.run connector s
      = .ended (.error .authFailed) (s.mark (.noted entry))

/-- A client that waits for its status. -/
def awaitStatus : Exchange Unit := do
  let status ← Exchange.block 2
  if headCode status ≠ 0 then throw .authFailed else return ()

/-- What a client does whose credentials fit. -/
theorem sendCredentials_of_fit {c : Credentials} (hfit : Client.Fit c) :
    sendCredentials c = (do Exchange.send (passwordMessage c); awaitStatus) := by
  unfold sendCredentials
  exact if_neg (not_not_intro hfit)

/-- A client whose credentials fit writes them. Whether the server then lets it in
plays no part. -/
theorem writes_of_fit {c : Credentials} (hfit : Client.Fit c) : Writes c := by
  intro connector s hsure
  obtain ⟨h, hhistory, hcourse⟩ := run_course connector False (sendCredentials c).run s true
    (.inl (delivers_of_sure connector _ s hsure)) (fun _ => rfl)
  rw [hhistory]
  rw [sendCredentials_of_fit hfit] at hcourse
  -- No write fails, so the message is in the history as a whole.
  obtain ⟨h', rfl, -⟩ | ⟨hfaulty, -⟩ := Exchange.course_of_send_bind hcourse
  · exact ⟨h', rfl⟩
  · exact hfaulty.elim

/-- A client whose credentials do not fit keeps them to itself, on every stream:
nothing is written, not even a front of the message. -/
theorem withholds_of_not_fit {c : Credentials} (hfit : ¬ Client.Fit c) : Withholds c := by
  have hwithhold : sendCredentials c = (do
      Exchange.note .debug "Credentials do not fit RFC 1929 length limits"
      throw .authFailed) := by
    unfold sendCredentials
    exact if_pos hfit
  intro connector s
  rw [hwithhold]
  exact ⟨_, rfl⟩

/-- A client does one or the other. A stream without bytes is enough to tell them
apart. -/
theorem not_writes_of_withholds {c : Credentials} (h : Withholds c) : ¬ Writes c := by
  intro hwrites
  obtain ⟨g, hg⟩ := hwrites default (.atStart {}) ⟨rfl, rfl⟩
  obtain ⟨entry, hrun⟩ := h default (.atStart {})
  rw [hrun] at hg
  cases hg

/-- A client writes its credentials just if they fit. -/
theorem writes_iff (c : Credentials) : Writes c ↔ Client.Fit c := by
  refine ⟨fun hwrites => ?_, writes_of_fit⟩
  by_cases hfit : Client.Fit c
  · exact hfit
  · exact absurd hwrites (not_writes_of_withholds (withholds_of_not_fit hfit))

/-! ### The server -/

/-- Whether two credentials are the same byte for byte. -/
def Matches (c expected : Credentials) : Prop :=
  utf8 c.username = utf8 expected.username ∧ utf8 c.password = utf8 expected.password

instance (c expected : Credentials) : Decidable (Matches c expected) :=
  inferInstanceAs (Decidable (_ ∧ _))

/-- What a server does with credentials that fit. Those that are empty never get
here, so the comparison is all that is left. -/
theorem judge_eq {c : Credentials} (hfit : Client.Fit c) (expected : Credentials) :
    judge expected (.ok (utf8 c.username, utf8 c.password)) =
      if Matches c expected then do
        sendStatus true
        Exchange.note .debug
          s!"Authentication successful for user: {Text.Utf8.decodeLossy (utf8 c.username)}"
      else
        refuse s!"Authentication failed for user: {Text.Utf8.decodeLossy (utf8 c.username)}" := by
  have hu := ((fits_iff _).mp hfit.1).1
  have hp := ((fits_iff _).mp hfit.2).1
  rw [judge, if_neg (not_or.mpr ⟨hu, hp⟩)]
  rfl

/-- A server is satisfied by the message of the credentials that it expects, if
they fit, and it takes the whole of it. -/
theorem onBytes_authenticate {c : Credentials} (hfit : Client.Fit c) :
    (authenticate c).onBytes (passwordMessage c) = some (.ok (), []) := by
  have hgets := gets_credentials ((fits_iff _).mp hfit.1).2 ((fits_iff _).mp hfit.2).2
  have hahead := (Exchange.ahead_bytes (passwordMessage c)).trans
    (List.append_nil (passwordMessage c)).symm
  obtain ⟨s, hrun, htook⟩ := Exchange.run_gets_bind default hgets (judge c)
    (Exchange.isFlowing_bytes _) hahead
  rw [judge_eq hfit, if_pos ⟨rfl, rfl⟩] at hrun
  have hsure : s.stream.outlet.Sure := htook.outlet ▸ ⟨rfl, rfl⟩
  obtain ⟨s', hrun', htook'⟩ := Exchange.run_send_bind default [passwordVersion, 0]
    (fun _ => Exchange.note .debug
      s!"Authentication successful for user: {Text.Utf8.decodeLossy (utf8 c.username)}")
    htook.flowing hsure
  rw [Exchange.onBytes, authenticate_eq, hrun.trans hrun']
  exact congrArg (fun rest => some (Except.ok (), rest)) (htook'.ahead.trans htook.ahead)

/-- A server that is ever satisfied expects credentials that fit, on whatever
stream. Others would have to be empty, which a server refuses, or longer than
their length bytes can say. -/
theorem fit_of_ended {c : Credentials} {connector : Connector} {client : Stream}
    (h : ((authenticate c).run.run connector (.atStart client)).halt = .ended (.ok ())) :
    Client.Fit c := by
  obtain ⟨g, -, hcourse⟩ := run_course connector True (authenticate c).run (.atStart client) false
    (.inr trivial) (by simp [Scene.atStart])
  rw [h] at hcourse
  have htrial := trial_of_course hcourse
  generalize hr : Halt.ended (Except.ok ()) = r at htrial
  cases htrial with
  | granted hg hm entry => exact ⟨hm.1, hm.2.1⟩
  | cut hg hcut hbreak => cases hbreak <;> cases hr
  | denied | unsent => cases hr

end Negotiation

/-! ### Both parties -/

namespace Party

variable {α : Type} {connector : Connector} {p p' : Party α}

/-- A party that goes on with a connection has written nothing. -/
theorem wrote_of_connect {k : Except IoError Endpoint → Dialogue α} {r : Attempt Connection}
    (h : p.connect k r = some p') : p'.wrote = p.wrote := by
  unfold connect at h
  split at h <;> cases h <;> rfl

/-- A party that thinks writes nothing. All cases are those of `Party.think`;
bytes are written by the moves that use a pipe. -/
theorem wrote_of_think (h : p.think connector = some p') : p'.wrote = p.wrote := by
  unfold think at h
  split at h
  -- A party that has left, or has bytes to write, does not think.
  case h_1 | h_5 => cases h
  case h_2 | h_4 | h_6 | h_7 | h_8 =>
    cases h
    rfl
  case h_3 n shape k heq =>
    split at h
    · cases h
      rfl
    · cases h
  -- The three moves that need the connector or a listener: to dial, to listen and to
  -- accept.
  case h_9 target k heq => exact (wrote_of_connect h).trans rfl
  case h_10 target k heq =>
    split at h
    · cases h
      rfl
    · split at h <;> cases h <;> rfl
  case h_11 k heq =>
    obtain ⟨l, -, hconnect⟩ := Option.bind_eq_some_iff.mp h
    exact wrote_of_connect hconnect

end Party

namespace Duplex

variable {ε α ε' β : Type} {connector : Connector}

/-- A client that notes and lifts deadlines only comes to its end, and has written
nothing more. The pipes are as they were. -/
theorem walk_closes (connector : Connector) {a : Except ε α} {x : Dialogue (Except ε α)}
    (hx : Closes a x) {p : Party (Except ε α)} (hp : p.phase = .busy x)
    (q : Party (Except ε' β)) (up down : Bytes) :
    ∃ n p', Walk (Beat connector 1 1) n ⟨p, q, up, down⟩ ⟨p', q, up, down⟩ ∧
      p'.phase = .left a ∧ p'.wrote = p.wrote := by
  induction hx generalizing p with
  | done =>
    have hthink : p.think connector = some { p with phase := .left a } := by
      rw [Party.think, hp]
    exact ⟨1, _, .single (.client (.think hthink)), rfl, rfl⟩
  | @note entry next _ ih =>
    have hthink : p.think connector = some { p.mark (.noted entry) with phase := .busy next } := by
      rw [Party.think, hp]
    obtain ⟨n, p', hwalk, hend⟩ := ih (p := { p.mark (.noted entry) with phase := .busy next }) rfl
    exact ⟨_, p', .step (.client (.think hthink)) hwalk, hend⟩
  | @release next _ ih =>
    have hthink : p.think connector = some { p with phase := .busy next, alarm := none } := by
      rw [Party.think, hp]
    obtain ⟨n, p', hwalk, hend⟩ := ih (p := { p with phase := .busy next, alarm := none }) rfl
    exact ⟨_, p', .step (.client (.think hthink)) hwalk, hend⟩

/-- A client says a message and the server answers with another one, and then both
are done. -/
theorem walk_question (connector : Connector) {x' : Dialogue (Except ε α)}
    {y : Dialogue (Except ε' β)} {m m' : Bytes} {h h' : History} {a : Except ε α}
    {b : Except ε' β} {k : Except IoError Unit → Dialogue (Except ε α)}
    {k' : Except IoError Unit → Dialogue (Except ε' β)} (hserver : Takes y m h (.send m' k'))
    (hclient : Takes (k (.ok ())) m' h' x') (hx : Closes a x') (hy : Closes b (k' (.ok ()))) :
    ∃ n, ∃ t : Duplex ε α ε' β,
      Walk (Beat connector 1 1) n
          { client := { phase := .busy (.send m k) }, server := { phase := .busy y } } t ∧
        t.Ended a b ∧ t.client.wrote = m ∧ t.server.wrote = m' := by
  obtain ⟨n₁, p₁, q₁, hwalk₁, ⟨hp₁, hgot₁, hwrote₁⟩, hq₁, -, hwrote₁'⟩ :=
    walk_message connector hserver (p := { phase := .busy (.send m k) })
      (q := { phase := .busy y }) rfl rfl rfl
  obtain ⟨n₂, q₂, p₂, hwalk₂, ⟨hq₂, -, hwrote₂'⟩, hp₂, -, hwrote₂⟩ :=
    walk_message connector hclient hq₁ hp₁ hgot₁
  obtain ⟨n₃, q₃, hwalk₃, hq₃, hwrote₃'⟩ := walk_closes connector hy hq₂ p₂ [] []
  obtain ⟨n₄, p₄, hwalk₄, hp₄, hwrote₄⟩ := walk_closes connector hx hp₂ q₃ [] []
  -- The server's walks are those of a client with the roles exchanged.
  have hanswer := (hwalk₂.trans hwalk₃).map (f := Duplex.flip) fun _ _ => Beat.flip
  refine ⟨_, ⟨p₄, q₃, [], []⟩, hwalk₁.trans (hanswer.trans hwalk₄), ⟨hp₄, hq₃, rfl, rfl⟩, ?_, ?_⟩
  · rw [hwrote₄, hwrote₂, hwrote₁, List.nil_append]
  · rw [hwrote₃', hwrote₂', hwrote₁', List.nil_append]

/-- Once the server has left, nobody takes what the client writes. So all that the
client still writes is found in its pipe. -/
theorem Beat.up_of_left {capUp capDown : Nat} {s t : Duplex ε α ε' β} {b : Except ε' β}
    (h : Beat connector capUp capDown s t) (hs : s.server.phase = .left b) :
    t.server.phase = .left b ∧
      ∃ written, t.up = s.up ++ written ∧ t.client.wrote = s.client.wrote ++ written := by
  cases h with
  | server h => exact absurd hs (h.phase_ne b)
  | @client p i o h =>
    refine ⟨hs, ?_⟩
    obtain ⟨client, server, up, down⟩ := s
    cases h with
    | think h =>
      refine ⟨[], (List.append_nil up).symm, ?_⟩
      rw [List.append_nil]
      exact Party.wrote_of_think h
    | take | finish => exact ⟨[], (List.append_nil up).symm, (List.append_nil _).symm⟩
    | put => exact ⟨[_], rfl, rfl⟩

/-- So if nothing is on its way at the end, the server had taken all that the
client ever wrote when it left. -/
theorem Ended.taken_of_left {capUp capDown n : Nat} {s t : Duplex ε α ε' β} {a : Except ε α}
    {b b' : Except ε' β} (hend : t.Ended a b) (h : Walk (Beat connector capUp capDown) n s t)
    (hs : s.server.phase = .left b') : s.client.wrote = t.client.wrote ∧ s.up = [] := by
  induction h with
  | stop s => exact ⟨rfl, hend.up⟩
  | step hbeat hrest ih =>
    obtain ⟨hleft, written, hup, hwrote⟩ := hbeat.up_of_left hs
    obtain ⟨heq, hnil⟩ := ih hend hleft
    rw [hup] at hnil
    obtain ⟨hsup, rfl⟩ := List.append_eq_nil_iff.mp hnil
    rw [List.append_nil] at hwrote
    exact ⟨hwrote.symm.trans heq, hsup⟩

end Duplex

namespace Negotiation

open Duplex

/-- How both parties end. -/
def verdict (c expected : Credentials) : Except ProtocolError Unit :=
  if Matches c expected then .ok () else .error .authFailed

/-- A client that sends credentials to a server that expects some, with nothing on
its way. -/
def login (c expected : Credentials) : Duplex ProtocolError Unit ProtocolError Unit where
  client := { phase := .busy (sendCredentials c).run }
  server := { phase := .busy (authenticate expected).run }

/-- What a server says to a client whose credentials fit, and that it is done
then. -/
theorem judge_of_fit {c : Credentials} (hfit : Client.Fit c) (expected : Credentials) :
    ∃ k, (judge expected (.ok (utf8 c.username, utf8 c.password))).run
        = .send [passwordVersion, if Matches c expected then 0 else 1] k ∧
      Closes (verdict c expected) (k (.ok ())) := by
  rw [judge_eq hfit, verdict]
  by_cases hmatch : Matches c expected
  · rw [if_pos hmatch, if_pos hmatch, if_pos hmatch]
    exact ⟨_, rfl, .note .done⟩
  · rw [if_neg hmatch, if_neg hmatch, if_neg hmatch]
    exact ⟨_, rfl, .note .done⟩

/-- What a client makes of the status: it ends as the server does. The status is
one of two bytes, and the client tells them apart by whether they are zero. -/
theorem takes_awaitStatus (c expected : Credentials) :
    ∃ h, Takes awaitStatus.run [passwordVersion, if Matches c expected then 0 else 1] h
      (.done (verdict c expected)) := by
  obtain ⟨h, htakes⟩ := Exchange.gets_block
    #v[passwordVersion, if Matches c expected then 0 else 1]
  have hstatus := htakes.bind (ExceptT.bindCont fun status =>
    (if headCode status ≠ 0 then throw .authFailed else return () : Exchange Unit))
  refine ⟨h, ?_⟩
  unfold verdict
  by_cases hmatch : Matches c expected
  · simp only [if_pos hmatch] at hstatus ⊢
    exact hstatus
  · simp only [if_neg hmatch] at hstatus ⊢
    exact hstatus

/-- One run of a login, over pipes of one byte. It is the run that all others are
compared with. -/
theorem walk_login (connector : Connector) {c : Credentials} (hfit : Client.Fit c)
    (expected : Credentials) :
    ∃ n t, Walk (Beat connector 1 1) n (login c expected) t ∧
      t.Ended (verdict c expected) (verdict c expected) ∧
      t.client.wrote = passwordMessage c ∧
      t.server.wrote = [passwordVersion, if Matches c expected then 0 else 1] := by
  obtain ⟨h, hgets⟩ :=
    gets_credentials ((fits_iff _).mp hfit.1).2 ((fits_iff _).mp hfit.2).2
  have hserver := hgets.bind (ExceptT.bindCont (judge expected))
  obtain ⟨k, hjudge, hcloses⟩ := judge_of_fit hfit expected
  change Takes _ _ _ (judge expected (.ok (utf8 c.username, utf8 c.password))).run at hserver
  rw [hjudge] at hserver
  obtain ⟨h', hclient⟩ := takes_awaitStatus c expected
  unfold login
  rw [sendCredentials_of_fit hfit, authenticate_eq]
  exact walk_question connector hserver hclient .done hcloses

/-- Policy, client and server agree on which credentials there are.

A policy that has them, with timeouts of at least a second, is usable just if a
client writes them, and a client that does not write them gives up without a
byte. A client writes them just if some bytes satisfy a server that expects
them, or some stream whatever.

Let a client write credentials to a server that expects some. Then there is one
end and one bound for pipes of all capacities of at least one byte and for
whoever goes on next. Both succeed if the credentials are the same byte for
byte, and both fail otherwise. No run has more steps than the bound, somebody
can make a step as long as somebody has not left, and a run that cannot go on is
at that end. Whenever the server has left, it has taken the whole message. -/
theorem credentials_agree (c : Credentials) :
    (∀ policy : Policy, policy.username = some c.username → policy.password = some c.password →
      1 ≤ policy.handshakeTimeout → 1 ≤ policy.connectTimeout →
      (policy.fault? = none ↔ Writes c)) ∧
    (¬ Writes c ↔ Withholds c) ∧
    (Writes c ↔ ∃ bs rest, (authenticate c).onBytes bs = some (.ok (), rest)) ∧
    (Writes c ↔ ∃ connector client,
      ((authenticate c).run.run connector (.atStart client)).halt = .ended (.ok ())) ∧
    (Writes c → ∀ (connector : Connector) (expected : Credentials), ∃ bound final,
      final.Ended (verdict c expected) (verdict c expected) ∧
      final.client.wrote = passwordMessage c ∧
      final.server.wrote = [passwordVersion, if Matches c expected then 0 else 1] ∧
      ∀ capUp capDown, 1 ≤ capUp → 1 ≤ capDown →
        ∀ n s, Walk (Duplex.Step connector capUp capDown) n (login c expected) s →
        n ≤ bound ∧
        (¬ ((∃ a, s.client.phase = .left a) ∧ ∃ b, s.server.phase = .left b) →
          ∃ t, Duplex.Step connector capUp capDown s t) ∧
        ((∀ t, ¬ Duplex.Step connector capUp capDown s t) → s = final) ∧
        ∀ b, s.server.phase = .left b → s.client.wrote = passwordMessage c ∧ s.up = []) := by
  -- What is said of a server goes round in a circle: credentials that fit are taken from
  -- some bytes, hence from some stream, and what any stream gets through fits.
  have hbytes : Client.Fit c → ∃ bs rest, (authenticate c).onBytes bs = some (.ok (), rest) :=
    fun hfit => ⟨passwordMessage c, [], onBytes_authenticate hfit⟩
  have hstream : (∃ bs rest, (authenticate c).onBytes bs = some (.ok (), rest)) →
      ∃ connector client,
        ((authenticate c).run.run connector (.atStart client)).halt = .ended (.ok ()) := by
    rintro ⟨bs, rest, h⟩
    exact ⟨_, _, Exchange.ended_of_onBytes h⟩
  have hfit : (∃ connector client,
      ((authenticate c).run.run connector (.atStart client)).halt = .ended (.ok ())) →
      Client.Fit c := by
    rintro ⟨connector, client, h⟩
    exact fit_of_ended h
  rw [writes_iff]
  refine ⟨fun policy => Policy.fault?_eq_none_iff, ?_, ⟨hbytes, hfit ∘ hstream⟩,
    ⟨hstream ∘ hbytes, hfit⟩, ?_⟩
  · rw [← writes_iff]
    exact ⟨fun h => withholds_of_not_fit (mt writes_of_fit h), not_writes_of_withholds⟩
  · intro hfit connector expected
    obtain ⟨bound, final, hbeats, hend, hwrote, hwrote'⟩ := walk_login connector hfit expected
    -- Neither side sets a deadline, so the one walk that is known stands for all of them.
    have hpatient : (login c expected).Patient := by
      refine ⟨⟨?_, nofun⟩, ⟨?_, nofun⟩⟩
      · rintro x ⟨⟩
        exact (Client.plain_sendCredentials c).patient
      · rintro x ⟨⟩
        exact (plain_authenticate expected).patient
    refine ⟨bound, final, hend, hwrote, hwrote', ?_⟩
    intro capUp capDown hup hdown n s hsteps
    have hwide := hbeats.mono fun _ _ => Beat.widen hup hdown
    obtain ⟨k, hwalk, hle, -⟩ := hend.of_steps hwide hpatient hsteps
    refine ⟨by omega, ?_, ?_, ?_⟩
    · -- A state that is not the last one has a step left, and the last one has nobody in
      -- it.
      intro hopen
      refine step_of_walk hwalk ?_
      rintro rfl
      exact hopen ⟨⟨_, hend.client⟩, _, hend.server⟩
    · intro hstuck
      by_cases hne : s = final
      · exact hne
      · obtain ⟨t, hstep⟩ := step_of_walk hwalk hne
        exact absurd hstep (hstuck t)
    · intro b hleft
      rw [← hwrote]
      exact hend.taken_of_left hwalk hleft

/-- The login policy is usable, so its credentials can be sent. A server that
expects another password refuses them, over a pipe of one byte and a pipe of
three. An empty user name is kept back. -/
theorem credentials_agree_of_mismatch :
    Server.loginPolicy.fault? = none ∧ Writes ⟨"u", "p"⟩ ∧ Withholds ⟨"", "p"⟩ ∧
      ∃ bound final, final.Ended (.error .authFailed) (.error .authFailed) ∧
        final.client.wrote = [1, 1, 117, 1, 112] ∧
        ∀ n s, Walk (Duplex.Step default 1 3) n (login ⟨"u", "p"⟩ ⟨"u", "q"⟩) s →
          n ≤ bound ∧ ((∀ t, ¬ Duplex.Step default 1 3 s t) → s = final) := by
  obtain ⟨husable, -, -, -, hruns⟩ := credentials_agree ⟨"u", "p"⟩
  obtain ⟨husable', hwithholds, -⟩ := credentials_agree ⟨"", "p"⟩
  have hlogin : Server.loginPolicy.fault? = none := by decide
  have hwrites := (husable Server.loginPolicy rfl rfl (by decide) (by decide)).mp hlogin
  have hempty : Withholds ⟨"", "p"⟩ := by
    -- If it were written, a policy with an empty user name would be usable.
    refine hwithholds.mp fun h => ?_
    have hfault := (husable' { Server.loginPolicy with username := some "" } rfl rfl (by decide)
      (by decide)).mpr h
    exact absurd hfault (by decide)
  obtain ⟨bound, final, hend, hwrote, -, hsteps⟩ := hruns hwrites default ⟨"u", "q"⟩
  have hverdict : verdict ⟨"u", "p"⟩ ⟨"u", "q"⟩ = .error .authFailed := if_neg (by decide)
  rw [hverdict] at hend
  refine ⟨hlogin, hwrites, hempty, bound, final, hend, hwrote, ?_⟩
  intro n s h
  obtain ⟨hle, -, hstuck, -⟩ := hsteps 1 3 (by decide) (by decide) n s h
  exact ⟨hle, hstuck⟩

end Negotiation

end Socks5
