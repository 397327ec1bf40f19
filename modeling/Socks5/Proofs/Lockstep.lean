import Socks5.Proofs.Agreement
import Socks5.Proofs.Duplex
import Socks5.Proofs.Limit

/-!
# `Socks5.Proofs.Lockstep`: one run of a handshake over small pipes

Two parties are in lockstep if one of them only speaks when the other one waits
for all that is said. Then pipes of one byte are enough, and one run is easily
followed: every message is passed on byte by byte.

* `Settles`: from where both parties are, with empty pipes, beats lead to an
  end with the given results.
* `Settles.say`, `Settles.answer`: a message is passed on.
* `settles_handshake`: a handshake settles as its verdict says, if the connector
  settles each dial at once and opens no listeners.

That all other runs come to the same end is not shown here.
-/

set_option autoImplicit false

namespace Socks5

open Net Dialogue

/-! ### Parties that think -/

section

variable {α : Type}

/-- Whether a party that is in one phase, and reads nothing, gets to another by
itself. -/
def Phase.Thinks (connector : Connector) (P P' : Phase α) : Prop :=
  ∀ p : Party α, p.phase = P → p.got = [] →
    ∃ p', p.think connector = some p' ∧ p'.phase = P' ∧ p'.got = []

namespace Phase

variable {connector : Connector} {next : Dialogue α}

/-- A party that is done leaves. -/
theorem thinks_done (a : α) : Thinks connector (.busy (.done a)) (.left a) := by
  intro p hp hgot
  refine ⟨{ p with phase := .left a }, ?_, rfl, hgot⟩
  rw [Party.think, hp]

/-- Noting needs no pipe. -/
theorem thinks_note {entry : Log.Entry} :
    Thinks connector (.busy (.note entry next)) (.busy next) := by
  intro p hp hgot
  refine ⟨{ p.mark (.noted entry) with phase := .busy next }, ?_, rfl, hgot⟩
  rw [Party.think, hp]

/-- Nor does setting a deadline. No time passes here, so what is done late is
never reached. -/
theorem thinks_within {seconds : Nat} {late : Dialogue α} :
    Thinks connector (.busy (.within seconds late next)) (.busy next) := by
  intro p hp hgot
  refine ⟨{ p with phase := .busy next, alarm := (deadline? 0 seconds).map (·, late) }, ?_, rfl,
    hgot⟩
  rw [Party.think, hp]

/-- Nor does lifting it. -/
theorem thinks_release : Thinks connector (.busy (.release next)) (.busy next) := by
  intro p hp hgot
  refine ⟨{ p with phase := .busy next, alarm := none }, ?_, rfl, hgot⟩
  rw [Party.think, hp]

/-- A dial that is settled at once is over. One that takes time would be stuck
here, since nobody moves the clock. -/
theorem thinks_dial {target : Address} {k : Except IoError Endpoint → Dialogue α}
    {r : Except IoError Connection} (hdial : connector.dial target = .settled 0 r) :
    Thinks connector (.busy (.dial target k)) (.busy (k (r.map Connection.endpoint))) := by
  intro p hp hgot
  rw [Party.think, hp]
  dsimp only
  rw [hdial]
  cases r with
  | ok c => exact ⟨_, rfl, rfl, hgot⟩
  | error e => exact ⟨_, rfl, rfl, hgot⟩

/-- Nobody listens without listeners, and the party goes on with the error. No
mark is left, as the connector was never asked. -/
theorem thinks_listen {target : Address} {k : Except IoError Endpoint → Dialogue α}
    (hlisten : connector.listen = none) :
    Thinks connector (.busy (.listen target k)) (.busy (k (.error Connector.noListener))) := by
  intro p hp hgot
  rw [Party.think, hp]
  dsimp only
  rw [hlisten]
  exact ⟨_, rfl, rfl, hgot⟩

end Phase

end

namespace Duplex

variable {ε α ε' β : Type} {connector : Connector}

/-! ### Settling -/

/-- Both parties have left with the given results, and nothing is on its way. -/
structure Ended (a : Except ε α) (b : Except ε' β) (s : Duplex ε α ε' β) : Prop where
  client : s.client.phase = .left a
  server : s.server.phase = .left b
  up : s.up = []
  down : s.down = []

/-- An end is one for both parties. -/
theorem Ended.flip {a : Except ε α} {b : Except ε' β} {s : Duplex ε α ε' β} (h : s.Ended a b) :
    s.flip.Ended b a := ⟨h.server, h.client, h.down, h.up⟩

/-- Whether a client and a server in the given phases, with nothing on its way,
come to an end over pipes that hold one byte, with results as described. -/
def Settles (connector : Connector) (P : Phase (Except ε α)) (Q : Phase (Except ε' β))
    (R : Except ε α → Except ε' β → Prop) : Prop :=
  ∀ (p : Party (Except ε α)) (q : Party (Except ε' β)), p.phase = P → p.got = [] →
    q.phase = Q → q.got = [] →
    ∃ n t a b, Walk (Beat connector 1 1) n { client := p, server := q } t ∧ t.Ended a b ∧ R a b

namespace Settles

variable {P P' : Phase (Except ε α)} {Q Q' : Phase (Except ε' β)} {a : Except ε α}
  {b : Except ε' β} {R : Except ε α → Except ε' β → Prop}

/-- Settling does not depend on who is called the client. -/
theorem flip (h : Settles connector P Q R) : Settles connector Q P (fun b a => R a b) := by
  intro q p hq hq' hp hp'
  obtain ⟨n, t, a, b, hwalk, hend, hR⟩ := h p q hp hp' hq hq'
  exact ⟨n, t.flip, b, a, hwalk.map (f := Duplex.flip) fun _ _ => Beat.flip, hend.flip, hR⟩

/-- Two parties that have left have settled. -/
theorem left (hR : R a b) : Settles connector (.left a) (.left b) R :=
  fun p q hp _ hq _ => ⟨0, ⟨p, q, [], []⟩, a, b, .stop _, ⟨hp, hq, rfl, rfl⟩, hR⟩

/-- A client may think before it settles. -/
theorem client (hP : P.Thinks connector P') (h : Settles connector P' Q R) :
    Settles connector P Q R := by
  intro p q hp hgot hq hgot'
  obtain ⟨p', hthink, hp', hgot⟩ := hP p hp hgot
  obtain ⟨n, t, a, b, hwalk, hend⟩ := h p' q hp' hgot hq hgot'
  exact ⟨n + 1, t, a, b, .step (.client (.think hthink)) hwalk, hend⟩

/-- So may a server. -/
theorem server (hQ : Q.Thinks connector Q') (h : Settles connector P Q' R) :
    Settles connector P Q R :=
  (h.flip.client hQ).flip

end Settles

/-! ### Passing messages on -/

/-- A block is passed on byte by byte to a party that waits for it. The pipe holds
one byte, so each one is written and then taken at once; it is empty again before
the next one. -/
theorem walk_block (connector : Connector) {p : Party (Except ε α)} {q : Party (Except ε' β)}
    {n : Nat} {shape : Shape} {k : Except IoError Unit → Dialogue (Except ε α)}
    {k' : Except IoError (Vector UInt8 n) → Dialogue (Except ε' β)} {bs rest : Bytes}
    (hp : p.phase = .busy (.send (bs ++ rest) k)) (hq : q.phase = .busy (.recv n shape k'))
    (hn : q.got.length + bs.length ≤ n) :
    ∃ m p', Walk (Beat connector 1 1) m ⟨p, q, [], []⟩ ⟨p', q.take bs, [], []⟩ ∧
      p'.phase = .busy (.send rest k) ∧ p'.got = p.got ∧ p'.wrote = p.wrote ++ bs := by
  induction bs generalizing p q with
  | nil =>
    have htake : q.take [] = q := by simp [Party.take]
    rw [htake]
    exact ⟨0, p, .stop _, hp, rfl, (List.append_nil p.wrote).symm⟩
  | cons b bs ih =>
    rw [List.length_cons] at hn
    obtain ⟨m, p', hwalk, hp', hgot, hwrote⟩ := ih (p := p.put [b] (bs ++ rest) k)
      (q := q.take [b]) rfl hq (by
        simp only [Party.take, List.length_append, List.length_singleton]
        omega)
    have htake : (q.take [b]).take bs = q.take (b :: bs) := by simp [Party.take]
    rw [htake] at hwalk
    -- The byte is written, and taken at once.
    have hwrite : Beat connector 1 1 ⟨p, q, [], []⟩ ⟨p.put [b] (bs ++ rest) k, q, [b], []⟩ :=
      .client (.put hp Nat.one_pos)
    have hlt : q.got.length < n := by omega
    have hread : Beat connector 1 1 ⟨p.put [b] (bs ++ rest) k, q, [b], []⟩
        ⟨p.put [b] (bs ++ rest) k, q.take [b], [], []⟩ :=
      .server (.take hq hlt)
    refine ⟨_, p', .step hwrite (.step hread hwalk), hp', hgot, ?_⟩
    rw [hwrote, Party.put, List.append_assoc]
    rfl

/-- A message is passed on to a party that takes it, and the party that wrote it
goes on. The message need not be taken in the blocks that it was written in, so
the induction is on how it is taken. -/
theorem walk_message (connector : Connector) {y y' : Dialogue (Except ε' β)} {m : Bytes}
    {h : History} (hy : Takes y m h y') {p : Party (Except ε α)} {q : Party (Except ε' β)}
    {k : Except IoError Unit → Dialogue (Except ε α)} (hp : p.phase = .busy (.send m k))
    (hq : q.phase = .busy y) (hgot : q.got = []) :
    ∃ n p' q', Walk (Beat connector 1 1) n ⟨p, q, [], []⟩ ⟨p', q', [], []⟩ ∧
      (p'.phase = .busy (k (.ok ())) ∧ p'.got = p.got ∧ p'.wrote = p.wrote ++ m) ∧
      q'.phase = .busy y' ∧ q'.got = [] ∧ q'.wrote = q.wrote := by
  induction hy generalizing p q with
  | stop y =>
    -- Nothing is left of the message.
    have hthink : p.think connector = some { p with phase := .busy (k (.ok ())) } := by
      rw [Party.think, hp]
    exact ⟨1, _, q, .single (.client (.think hthink)),
      ⟨rfl, rfl, (List.append_nil p.wrote).symm⟩, hq, hgot, rfl⟩
  | @recv n shape k' m h y v hk ih =>
    obtain ⟨i, p₁, hwalk, hp₁, hgot₁, hwrote₁⟩ := walk_block connector hp hq (by simp [hgot])
    -- The block is complete, and the party that took it goes on.
    have hsize : (q.take v.toList).got.length = n := by simp [Party.take, hgot]
    have hblock : (⟨(q.take v.toList).got.toArray, hsize⟩ : Vector UInt8 n) = v := by
      apply Vector.toList_inj.mp
      simp [Party.take, hgot, Vector.toList]
    have hthink : (q.take v.toList).think connector
        = some { q.take v.toList with phase := .busy (k' (.ok v)), got := [] } := by
      have hphase : (q.take v.toList).phase = .busy (.recv n shape k') := hq
      rw [Party.think, hphase]
      dsimp only
      rw [dif_pos hsize, hblock]
    obtain ⟨j, p', q', hrest, ⟨hp', hgot', hwrote'⟩, hq'⟩ :=
      ih hp₁ (q := { q.take v.toList with phase := .busy (k' (.ok v)), got := [] }) rfl rfl
    refine ⟨_, p', q', hwalk.trans (.step (.server (.think hthink)) hrest),
      ⟨hp', hgot'.trans hgot₁, ?_⟩, hq'⟩
    rw [hwrote', hwrote₁, List.append_assoc]
  | @note entry next y m h hnext ih =>
    have hthink : q.think connector
        = some { q.mark (.noted entry) with phase := .busy next } := by
      rw [Party.think, hq]
    obtain ⟨n, p', q', hwalk, hrest⟩ :=
      ih hp (q := { q.mark (.noted entry) with phase := .busy next }) rfl hgot
    exact ⟨_, p', q', .step (.server (.think hthink)) hwalk, hrest⟩

namespace Settles

variable {a : Except ε α} {b : Except ε' β} {R : Except ε α → Except ε' β → Prop}

/-- The client says what the server waits for, and both go on from there. The
server takes the whole message while it is written, which is why a pipe of one
byte is enough. -/
theorem say {y y' : Dialogue (Except ε' β)} {m : Bytes} {h : History} (hy : Takes y m h y')
    {k : Except IoError Unit → Dialogue (Except ε α)}
    (hrest : Settles connector (.busy (k (.ok ()))) (.busy y') R) :
    Settles connector (.busy (.send m k)) (.busy y) R := by
  intro p q hp hgot hq hgot'
  obtain ⟨n, p₁, q₁, hwalk, ⟨hp₁, hgot₁, -⟩, hq₁, hgot₁', -⟩ :=
    walk_message connector hy hp hq hgot'
  obtain ⟨n', t, a, b, hwalk', hend⟩ := hrest p₁ q₁ hp₁ (hgot₁.trans hgot) hq₁ hgot₁'
  exact ⟨_, t, a, b, hwalk.trans hwalk', hend⟩

/-- The server says what the client waits for, and both go on from there. -/
theorem answer {x x' : Dialogue (Except ε α)} {m : Bytes} {h : History} (hx : Takes x m h x')
    {k : Except IoError Unit → Dialogue (Except ε' β)}
    (hrest : Settles connector (.busy x') (.busy (k (.ok ()))) R) :
    Settles connector (.busy x) (.busy (.send m k)) R :=
  (say hx hrest.flip).flip

/-- One party has left, and the other is done up to what it notes and to a
deadline that is lifted. -/
theorem closing {y : Dialogue (Except ε' β)} (hy : Closes b y) (hR : R a b) :
    Settles connector (.left a) (.busy y) R := by
  induction hy with
  | done => exact (left hR).server (Phase.thinks_done b)
  | note _ ih => exact ih.server Phase.thinks_note
  | release _ ih => exact ih.server Phase.thinks_release

/-- Both parties are done but for that, and it does not matter who leaves first.
-/
theorem closes {x : Dialogue (Except ε α)} {y : Dialogue (Except ε' β)} (hx : Closes a x)
    (hy : Closes b y) (hR : R a b) : Settles connector (.busy x) (.busy y) R := by
  induction hx with
  | done => exact (closing hy hR).client (Phase.thinks_done a)
  | note _ ih => exact ih.client Phase.thinks_note
  | release _ ih => exact ih.client Phase.thinks_release

/-- A server that waits for a message finds that its client has failed and left.
It is the one place where the end of a stream comes up in lockstep. -/
theorem hungUp {n : Nat} (hn : 0 < n) {shape : Shape} {e : ε}
    {k : Except IoError (Vector UInt8 n) → Dialogue (Except ε' β)}
    (hk : Closes b (k (.error shape.endError))) (hR : R (.error e) b) :
    Settles connector (.busy (.done (.error e))) (.busy (.recv n shape k)) R := by
  refine client (Phase.thinks_done _) ?_
  intro p q hp hgot hq hgot'
  have hclosing : Settles connector (.left (.error e)) (.busy (k (.error shape.endError))) R :=
    closing hk hR
  obtain ⟨m, t, a, b, hwalk, hend⟩ := hclosing p (q.finish shape k) hp hgot rfl rfl
  have hdropped : p.dropped = true := by rw [Party.dropped, hp]
  have hlt : q.got.length < n := by
    rw [hgot']
    exact hn
  exact ⟨_, t, a, b, .step (.server (.finish hq hlt hdropped)) hwalk, hend⟩

end Settles

end Duplex

/-! ### A client and a server -/

namespace Session

open Duplex Exchange Server

variable {connector : Connector} {policy : Policy}

/-- Whether the client and the server end as a verdict says. -/
def Verdict.Ends : Verdict → Except ProtocolError Address → Except ServiceError Unit → Prop
  | .failed client server, a, b => a = .error client ∧ b = .error server
  | .granted c, a, b => a = .ok (Address.ip c.endpoint).framed ∧ b = .ok ()
  | .endless, _, _ => False

/-! ### The request -/

/-- A client that waits for the reply to its request. -/
def awaitReply (command : Command) (target : String) : Exchange Address :=
  Reply.read >>= judgeReply command target

variable {command : Command} {target : String}

/-- A refusal ends both parties. The client reads the code that the server sent,
and one of success would not be a refusal. -/
theorem settles_failWith {code : ReplyCode} (hcode : ReplyCode.ofByte code.toByte = code)
    (hfailed : code.isSuccess = false) (e : ServiceError) :
    Settles connector (.busy (awaitReply command target).run) (.busy (failWith code e))
      (Verdict.failed (.rejected code) e).Ends := by
  obtain ⟨h, htakes⟩ := gets_reply code.toByte 0 (a := .unspecified) rfl
  have hjudge : judgeReply command target ⟨.ofByte code.toByte, Address.unspecified.framed⟩
      = throw (.rejected code) := by
    rw [hcode, judgeReply, if_pos (by simp [hfailed])]
  have htakes := htakes.bind (ExceptT.bindCont (judgeReply command target))
  rw [failWith, Reply.send_failure]
  refine .answer htakes (.closes ?_ .done ⟨rfl, rfl⟩)
  show Closes _ (judgeReply command target ⟨.ofByte code.toByte, Address.unspecified.framed⟩).run
  rw [hjudge]
  exact .done

/-- A grant ends both parties, and the client is told the address that the server
is bound to. -/
theorem settles_grant (c : Connection) (entry : Log.Entry) :
    Settles connector (.busy (awaitReply command target).run)
      (.busy (grant c.endpoint (.note entry (.done (.ok ()))))) (Verdict.granted c).Ends := by
  obtain ⟨h, htakes⟩ := gets_reply 0 0 (Address.encode_ip_eq c.endpoint)
  have htakes := htakes.bind (ExceptT.bindCont (judgeReply command target))
  rw [grant, Reply.send_success]
  exact .answer htakes (.closes (.note .done) (.note .done) ⟨rfl, rfl⟩)

/-- A CONNECT is treated as its dial turns out. It is never late, as every dial is
settled at once here. -/
theorem settles_connect (a : Address) {r : Except IoError Connection}
    (hdial : connector.dial a = .settled 0 r) :
    Settles connector (.busy (awaitReply command target).run) (.busy (connect policy a))
      (Verdict.ofTreatment (.ofDial policy a (connector.dial a))).Ends := by
  have htreatment : Treatment.ofDial policy a (.settled 0 r) = .ofResult r := by
    rw [Treatment.ofDial, if_neg (fun hlate => Nat.not_lt_zero _ hlate.1)]
  rw [connect_eq, hdial, htreatment]
  refine (Settles.server Phase.thinks_release ?_).server (Phase.thinks_dial hdial)
    |>.server Phase.thinks_within
  cases r with
  | ok c => exact settles_grant c _
  | error e =>
    obtain ⟨hcode, hfailed⟩ := ReplyCode.ofByte_ofIoError e
    exact (settles_failWith hcode hfailed _).server Phase.thinks_note

/-- A request is treated as its command and its target ask for. No listener is
opened, so a BIND is refused in one way or another. -/
theorem settles_perform (hlisten : connector.listen = none)
    (hdial : ∀ a, ∃ r, connector.dial a = .settled 0 r) (q : Request) :
    Settles connector (.busy (awaitReply command target).run) (.busy (perform policy q))
      (Verdict.ofTreatment (.ofRequest policy connector q)).Ends := by
  refine Settles.server Phase.thinks_note ?_
  unfold Treatment.ofRequest
  cases q.command with
  | connect =>
    obtain ⟨r, hr⟩ := hdial q.address
    exact settles_connect _ hr
  | bind =>
    cases hbind : policy.allowBind with
    | true =>
      rw [bind_eq]
      exact ((settles_failWith rfl rfl _).server Phase.thinks_note).server
        (Phase.thinks_listen hlisten)
    | false => exact (settles_failWith rfl rfl _).server Phase.thinks_note
  | udpAssociate => exact (settles_failWith rfl rfl _).server Phase.thinks_note

/-- A request comes to the verdict on how the server treats it. The server sees
the framed address, which is not always the one that was asked for. -/
theorem settles_demand (hlisten : connector.listen = none)
    (hdial : ∀ a, ∃ r, connector.dial a = .settled 0 r) {a : Address} {frame : Bytes}
    (ha : a.encode = .ok frame) :
    Settles connector (.busy (demand command target (Request.header command ++ frame)).run)
      (.busy (awaitRequest policy))
      (Verdict.ofTreatment (.ofRequest policy connector ⟨command, a.framed⟩)).Ends := by
  obtain ⟨h, htakes⟩ := gets_request command 0 ha
  have htakes := htakes.bind (released (afterRequest policy))
  exact Settles.say htakes
    ((settles_perform hlisten hdial ⟨command, a.framed⟩).server Phase.thinks_release)

/-! ### The whole handshake -/

/-- A server whose negotiation has succeeded waits for a request. What it notes
and the deadline that it sets come in between. -/
theorem settles_negotiated {P : Phase (Except ProtocolError Address)} {v : Verdict}
    (h : Settles connector P (.busy (awaitRequest policy)) v.Ends) (method : Method) :
    Settles connector P (.busy (released (afterNegotiation policy) (.ok method))) v.Ends := by
  refine Settles.server Phase.thinks_release (Settles.server Phase.thinks_note ?_)
  rw [withDeadline_bind]
  exact h.server Phase.thinks_within

/-- A server that judges credentials. -/
def judging (policy : Policy) (username password : Bytes) : Dialogue (Except ServiceError Unit) :=
  (do Negotiation.judge policy.credentials (.ok (username, password))
      return Method.usernamePassword : Exchange Method).run.bind
    (released (afterNegotiation policy))

/-- A server that waits for credentials takes their message and judges it. The
message need not be that of text. -/
theorem takes_credentials (policy : Policy) {username password : Bytes} (hu : username.length ≤ 255)
    (hp : password.length ≤ 255) :
    ∃ h, Takes (awaitCredentials policy) (Negotiation.fieldsMessage username password) h
      (judging policy username password) := by
  obtain ⟨h, htakes⟩ := gets_credentials hu hp
  refine ⟨h, ?_⟩
  rw [awaitCredentials, Negotiation.authenticate_eq, bind_assoc, run_bind_bind]
  exact htakes.bind _

/-- A client that waits for the status of its credentials. -/
def awaitStatus (ask : Exchange Address) : Exchange Address :=
  Exchange.block 2 >>= fun status =>
    (if headCode status ≠ 0 then throw .authFailed else pure () : Exchange Unit) >>= fun _ => ask

/-- A client that waits for its status takes it, and goes on or gives up. The
version in front of the status is not looked at. -/
theorem takes_status (granted : Bool) (ask : Exchange Address) :
    ∃ h, Takes (awaitStatus ask).run [Negotiation.passwordVersion, if granted then 0 else 1] h
      (if granted then ask else throw .authFailed : Exchange Address).run := by
  obtain ⟨h, htakes⟩ := gets_block #v[Negotiation.passwordVersion, if granted then 0 else 1]
  have hrest := htakes.bind (ExceptT.bindCont fun status =>
    (if headCode status ≠ 0 then throw .authFailed else pure () : Exchange Unit) >>= fun _ => ask)
  refine ⟨h, ?_⟩
  cases granted with
  | true => exact hrest
  | false => exact hrest

/-- A client that has to authenticate comes to the verdict on its request, unless its
credentials are in the way. -/
theorem settles_sendCredentials {c : Credentials} {ask : Exchange Address} {v : Verdict}
    (hask : Settles connector (.busy ask.run) (.busy (awaitRequest policy)) v.Ends) :
    Settles connector (.busy (do Negotiation.sendCredentials c; ask : Exchange Address).run)
      (.busy (awaitCredentials policy)) (Verdict.after (mismatch policy.credentials c) v).Ends := by
  unfold Negotiation.sendCredentials mismatch
  by_cases hfits : Credentials.fits c.username ∧ Credentials.fits c.password
  · rw [if_neg (Decidable.not_not.mpr hfits), if_neg (Decidable.not_not.mpr hfits)]
    obtain ⟨hu₀, hu⟩ := (Negotiation.fits_iff _).mp hfits.1
    obtain ⟨hp₀, hp⟩ := (Negotiation.fits_iff _).mp hfits.2
    obtain ⟨h, hserver⟩ := takes_credentials policy hu hp
    simp only [bind_assoc]
    refine Settles.say hserver ?_
    change Settles connector (.busy (awaitStatus ask).run) _ _
    rw [judging, Negotiation.judge, if_neg (not_or.mpr ⟨hu₀, hp₀⟩)]
    by_cases hc : c = policy.credentials
    · rw [if_neg (Decidable.not_not.mpr hc), if_pos (by simp [hc])]
      obtain ⟨h', hclient⟩ := takes_status true ask
      exact Settles.answer hclient (Settles.server Phase.thinks_note (settles_negotiated hask _))
    · rw [if_pos hc, if_neg (mt eq_of_utf8_fields hc)]
      obtain ⟨h', hclient⟩ := takes_status false ask
      exact .answer hclient (.closes .done (.note (.release .done)) ⟨rfl, rfl⟩)
  · -- Nothing is sent, and the server still waits when the client leaves.
    rw [if_pos hfits, if_pos hfits]
    exact (Settles.hungUp Nat.one_pos (.release .done) ⟨rfl, rfl⟩).client Phase.thinks_note

/-- A client that cannot authenticate comes to the verdict on its request, unless the server
wants it to. -/
theorem settles_openMethod {credentials : Option Credentials} {request : Bytes} {v : Verdict}
    (hask : Settles connector (.busy (demand command target request).run)
      (.busy (awaitRequest policy)) v.Ends) :
    Settles connector
      (.busy (followSelection command target credentials request
        #v[version, Negotiation.selectionByte (openMethod policy)]).run)
      (.busy ((carryOut policy (openMethod policy)).run.bind
        (released (afterNegotiation policy))))
      (Verdict.after (exclusion policy) v).Ends := by
  unfold openMethod exclusion
  cases policy.authRequired with
  | true =>
    have hcloses : Closes (.error .noAcceptableMethod) (followSelection command target credentials
        request #v[version, Negotiation.selectionByte none]).run := by
      cases credentials <;> exact .note .done
    exact .closes hcloses (.release .done) ⟨rfl, rfl⟩
  | false => exact settles_negotiated hask .noAuth

/-- A greeting is answered with the method that the server selects, whatever the
client makes of it. -/
theorem settles_greeting {offer : Bytes} (hoffer : offer.length ≤ 255)
    {f : Vector UInt8 2 → Exchange Address} {v : Verdict}
    (hrest : Settles connector
      (.busy (f #v[version, Negotiation.selectionByte (Negotiation.select policy offer)]).run)
      (.busy ((carryOut policy (Negotiation.select policy offer)).run.bind
        (released (afterNegotiation policy)))) v.Ends) :
    Settles connector
      (.busy (do
        Exchange.send (Negotiation.offerMessage offer)
        f (← Exchange.block 2) : Exchange Address).run)
      (.busy (awaitGreeting policy)) v.Ends := by
  obtain ⟨h, hserver⟩ := gets_greeting hoffer
  obtain ⟨h', hclient⟩ :=
    gets_block #v[version, Negotiation.selectionByte (Negotiation.select policy offer)]
  rw [awaitGreeting, negotiate_eq, run_bind_bind]
  refine Settles.say (hserver.bind _) (Settles.server Phase.thinks_note ?_)
  exact Settles.answer (hclient.bind (ExceptT.bindCont f)) hrest

/-- A handshake settles as its verdict says. The cases are those of
`comes_handshake`, which follows the same handshake through a session with
unbounded inboxes. -/
theorem settles_handshake (policy : Policy) (connector : Connector) (command : Command)
    (target : String) (credentials : Option Credentials) (hlisten : connector.listen = none)
    (hdial : ∀ a, ∃ r, connector.dial a = .settled 0 r) :
    Settles connector (.busy (Client.handshake command target credentials).run)
      (.busy (serve policy)) (Verdict.of policy connector command target credentials).Ends := by
  rw [serve_eq, withDeadline_bind]
  refine Settles.server Phase.thinks_within ?_
  change Settles connector _ (.busy (awaitGreeting policy)) _
  rw [Verdict.of]
  cases hparse : Address.parse target with
  | error e =>
    -- The client leaves without a word, and the server still waits for the greeting.
    rw [handshake_of_error hparse]
    exact .hungUp Nat.one_pos (.release .done) ⟨rfl, rfl⟩
  | ok a =>
    obtain ⟨hframed, frame, ha⟩ := Address.encode_of_parse hparse
    have hask : Settles connector
        (.busy (demand command target (Request.header command ++ frame)).run)
        (.busy (awaitRequest policy))
        (Verdict.ofTreatment (.ofRequest policy connector ⟨command, a⟩)).Ends := by
      have hmeets : Settles connector
          (.busy (demand command target (Request.header command ++ frame)).run)
          (.busy (awaitRequest policy))
          (Verdict.ofTreatment (.ofRequest policy connector ⟨command, a.framed⟩)).Ends :=
        settles_demand hlisten hdial ha
      rwa [hframed] at hmeets
    rw [handshake_of_ok hparse ha, greeting_eq]
    refine settles_greeting (by cases credentials <;> simp [offerOf]) ?_
    rw [select_offerOf]
    cases credentials with
    | none =>
      -- Without credentials the password method is not even offered.
      rw [if_neg (by simp)]
      exact settles_openMethod hask
    | some c =>
      rw [quarrel]
      cases policy.hasCredentials with
      | false =>
        rw [if_neg (by simp), if_neg (by simp)]
        exact settles_openMethod hask
      | true =>
        rw [if_pos (by simp), if_pos rfl]
        exact settles_sendCredentials hask

end Session

end Socks5
