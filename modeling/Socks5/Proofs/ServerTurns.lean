import Socks5.Proofs.ReaderCompleteness
import Socks5.Proofs.Serve

/-!
# `Socks5.Proofs.ServerTurns`: the turns of the server in a session

A server that waits in a session waits for one of three messages: the
greeting, the credentials or the request. `Desk.Idle` says what its side
of the pipe looks like then. `Reaches` says how far a dialogue gets from
there without another message, and the lemmas of this module say what
the server makes of its next turn.

* `reaches_serve`: before the first message it waits for a greeting.
* `turn_greeting`, `turn_credentials`: the message has arrived. The server
  answers, and waits for the next message or leaves.
* `turn_request`: the request has arrived. `Treatment.ofRequest` says what
  the server makes of it.
* `turn_hungUp_greeting`, `turn_hungUp_credentials`: the client has left
  instead. The server takes that for a truncated message.

Histories play no part here. They only grow, so the lemmas give the desk
after a turn by what the client can still see of it.
-/

set_option autoImplicit false

namespace Socks5.Session

open Net Dialogue Exchange Server

variable {β γ : Type} {connector : Connector}

/-! ### A server that waits -/

/-- The desk of a server that has taken all that came and waits for more.
The outbox is what the client has not taken. -/
structure Desk.Idle (outbox : Bytes) (d : Desk β) : Prop where
  inbox : d.inbox = []
  outbox : d.outbox = outbox
  hungUp : d.hungUp = false
  clock : d.clock = 0
  /-- There is time left. -/
  deadline : ∀ p ∈ d.deadline, 0 < p.1

namespace Desk.Idle

variable {d : Desk β} {outbox : Bytes}

/-- Noting leaves the desk idle. -/
theorem mark (hd : d.Idle outbox) (e : Event) : (d.mark e).Idle outbox :=
  ⟨hd.inbox, hd.outbox, hd.hungUp, hd.clock, hd.deadline⟩

/-- So does lifting the deadline. -/
theorem release (hd : d.Idle outbox) : Idle outbox ({ d with deadline := none } : Desk β) :=
  ⟨hd.inbox, hd.outbox, hd.hungUp, hd.clock, by simp⟩

/-- So does sending: what is sent waits in the outbox until the client takes it.
-/
theorem send (hd : d.Idle outbox) (bytes : Bytes) :
    Idle (outbox ++ bytes) ({ d with outbox := d.outbox ++ bytes } : Desk β) :=
  ⟨hd.inbox, by rw [hd.outbox], hd.hungUp, hd.clock, hd.deadline⟩

/-- The client takes what is in the outbox. -/
theorem taken (hd : d.Idle outbox) : Idle [] ({ d with outbox := [] } : Desk β) :=
  ⟨hd.inbox, rfl, hd.hungUp, hd.clock, hd.deadline⟩

/-- A deadline some seconds away leaves time. One that is over at once would end
the next wait before it begins. -/
theorem within (hd : d.Idle outbox) {seconds : Nat} (hs : 1 ≤ seconds) (late : Dialogue β) :
    Idle outbox { d with deadline := (deadline? d.clock seconds).map (·, late) } := by
  refine ⟨hd.inbox, hd.outbox, hd.hungUp, hd.clock, ?_⟩
  intro p hp
  obtain ⟨limit, hlimit, rfl⟩ := Option.map_eq_some_iff.mp hp
  have hlater := eq_of_deadline?_eq_some hlimit
  show 0 < limit
  omega

end Desk.Idle

/-! ### How far a turn goes -/

/-- Wherever the server stands idle, its dialogue gets it as far as the
given stand, and it is idle there. -/
def Reaches (connector : Connector) (outbox : Bytes) (x : Dialogue β) (outbox' : Bytes)
    (s : Stand β) : Prop :=
  ∀ d : Desk β, d.Idle outbox → ∃ d' : Desk β, d'.Idle outbox' ∧ attend connector x d = (s, d')

namespace Reaches

variable {outbox outbox' : Bytes} {s : Stand β}

/-- A server that is done has left. -/
theorem done (b : β) : Reaches connector outbox (.done b) outbox (.left b) :=
  fun d hd => ⟨d, hd, rfl⟩

/-- A server that asks for bytes that are not there waits. Its turn ends there,
and it takes up the same dialogue when the client has said something. -/
theorem recv {n : Nat} (hn : 0 < n) (shape : Shape)
    (k : Except IoError (Vector UInt8 n) → Dialogue β) :
    Reaches connector outbox (.recv n shape k) outbox (.pending (.recv n shape k)) := by
  intro d hd
  have hlen : ¬ n ≤ d.inbox.length := by
    rw [hd.inbox]
    exact Nat.not_le.mpr hn
  refine ⟨d, hd, ?_⟩
  rw [attend, dif_neg hlen, if_neg (by simp [hd.hungUp])]

/-- Sending does not end a turn. The client has not left, so the bytes are
delivered. -/
theorem send {bytes : Bytes} {k : Except IoError Unit → Dialogue β}
    (hk : Reaches connector (outbox ++ bytes) (k (.ok ())) outbox' s) :
    Reaches connector outbox (.send bytes k) outbox' s := by
  intro d hd
  obtain ⟨d', hd', hattend⟩ := hk _ (hd.send bytes)
  refine ⟨d', hd', ?_⟩
  rw [attend, if_neg (by simp [hd.hungUp])]
  exact hattend

/-- Noting does not end a turn either. -/
theorem note {entry : Log.Entry} {next : Dialogue β}
    (hnext : Reaches connector outbox next outbox' s) :
    Reaches connector outbox (.note entry next) outbox' s :=
  fun _ hd => hnext _ (hd.mark (.noted entry))

/-- Nor does lifting the deadline. -/
theorem release {next : Dialogue β} (hnext : Reaches connector outbox next outbox' s) :
    Reaches connector outbox (.release next) outbox' s :=
  fun _ hd => hnext _ hd.release

/-- A deadline is set before the first bytes come, and the server waits under it.
-/
theorem within_recv {seconds : Nat} (hs : 1 ≤ seconds) {late : Dialogue β} {n : Nat} (hn : 0 < n)
    (shape : Shape) (k : Except IoError (Vector UInt8 n) → Dialogue β) :
    Reaches connector outbox (.within seconds late (.recv n shape k)) outbox
      (.pending (.recv n shape k)) := by
  intro d hd
  obtain ⟨d', hd', hattend⟩ := recv hn shape k _ (hd.within hs late)
  refine ⟨d', hd', ?_⟩
  rw [attend, hattend]

end Reaches

/-- The message that the server waits for arrives and is taken. Nothing else is in
its inbox, so nothing is left there. -/
theorem attend_message (connector : Connector) {x : Exchange γ} {m : Bytes} {a : γ}
    (hx : x.Gets m a) (f : Except ProtocolError γ → Dialogue β) {d : Desk β} {outbox : Bytes}
    (hd : d.Idle outbox) :
    ∃ d' : Desk β, d'.Idle outbox ∧
      attend connector (x.run.bind f) { d with inbox := d.inbox ++ m }
        = attend connector (f (.ok a)) d' := by
  obtain ⟨h, hx⟩ := hx
  refine ⟨{ d with inbox := [], history := d.history ++ h },
    ⟨rfl, hd.outbox, hd.hungUp, hd.clock, hd.deadline⟩, ?_⟩
  exact attend_takes connector (hx.bind f) _ [] (by simp [hd.inbox])

/-- A server that leaves does so in its turn. -/
theorem turn_left {x : Dialogue β} {d d' : Desk β} {b : β}
    (hattend : attend connector x d = (.left b, d')) :
    turn connector (.pending x, d) = (.left b, d') := by
  simp only [turn, hattend]

/-- A server that is idle at the end of its turn has time left, so its turn ends
where its dialogue got to. -/
theorem turn_of_attend {x : Dialogue β} {d d' : Desk β} {outbox : Bytes} {s : Stand β}
    (hd' : d'.Idle outbox) (hattend : attend connector x d = (s, d')) :
    turn connector (.pending x, d) = (s, d') := by
  -- A deadline that is over would end the wait at once.
  have hnot : d'.deadline.any (·.1 ≤ d'.clock) = false := by
    rw [hd'.clock]
    cases hlimit : d'.deadline with
    | none => rfl
    | some p =>
      have hp := hd'.deadline p hlimit
      simp only [Option.any_some, Nat.le_zero, decide_eq_false_iff_not]
      omega
  cases s with
  | pending y =>
    simp only [turn, hattend, hnot]
    rfl
  | left b => exact turn_left hattend
  | late => simp only [turn, hattend]
  | stuck => simp only [turn, hattend]

/-- The turn in which a message arrives: it is taken, and the server goes on as
far as it gets without another one. -/
theorem turn_message {x : Exchange γ} {m : Bytes} {a : γ} (hx : x.Gets m a)
    {f : Except ProtocolError γ → Dialogue β} {outbox outbox' : Bytes} {s : Stand β}
    (hf : Reaches connector outbox (f (.ok a)) outbox' s) {d : Desk β} (hd : d.Idle outbox) :
    ∃ d' : Desk β, d'.Idle outbox' ∧
      turn connector (.pending (x.run.bind f), { d with inbox := d.inbox ++ m }) = (s, d') := by
  obtain ⟨d₁, hd₁, hmessage⟩ := attend_message connector hx f hd
  obtain ⟨d', hd', hattend⟩ := hf d₁ hd₁
  exact ⟨d', hd', turn_of_attend hd' (hmessage.trans hattend)⟩

/-- The client leaves instead, and the server ends. How many bytes of the message
had come does not matter. -/
theorem turn_hungUp {n : Nat} (hn : 0 < n) {shape : Shape}
    {k : Except IoError (Vector UInt8 n) → Dialogue β} {b : β}
    (hk : k (.error shape.endError) = .release (.done b)) {d : Desk β} {outbox : Bytes}
    (hd : d.Idle outbox) :
    ∃ d', turn connector (.pending (.recv n shape k), { d with hungUp := true })
      = (.left b, d') := by
  have hlen : ¬ n ≤ d.inbox.length := by
    rw [hd.inbox]
    exact Nat.not_le.mpr hn
  -- What came of the message is thrown away with the inbox.
  have hattend : attend connector (.recv n shape k) { d with hungUp := true }
      = (.left b, { d with hungUp := true, inbox := [], deadline := none }) := by
    rw [attend, dif_neg hlen, if_pos rfl, hk]
    rfl
  exact ⟨_, turn_left hattend⟩

/-! ### What the server waits for -/

/-- An exchange that begins with another waits for the messages of that one. -/
theorem run_bind_bind {δ : Type} (x : Exchange γ) (f : γ → Exchange δ)
    (g : Except ProtocolError δ → Dialogue β) :
    (x >>= f).run.bind g
      = x.run.bind fun r => Dialogue.bind g (ExceptT.bindCont f r : Dialogue _) := by
  rw [← bind_bind]
  rfl

/-- A step of the negotiation ends: the deadline is lifted before what follows. -/
def released {α : Type} (f : Except ServiceError α → Dialogue β) (r : Except ProtocolError α) :
    Dialogue β :=
  .release (f (r.mapError .protocol))

/-- A server that waits for the greeting. -/
def awaitGreeting (policy : Policy) : Dialogue (Except ServiceError Unit) :=
  (Negotiation.negotiate policy).run.bind (released (afterNegotiation policy))

/-- A server that waits for the credentials. -/
def awaitCredentials (policy : Policy) : Dialogue (Except ServiceError Unit) :=
  (do Negotiation.authenticate policy.credentials; return Method.usernamePassword).run.bind
    (released (afterNegotiation policy))

/-- A server that waits for the request. -/
def awaitRequest (policy : Policy) : Dialogue (Except ServiceError Unit) :=
  Request.read.run.bind (released (afterRequest policy))

section

variable {policy : Policy} {d : Desk (Except ServiceError Unit)} {outbox : Bytes}

/-- Before the first message the server waits for a greeting. -/
theorem reaches_serve (policy : Policy) (connector : Connector) (hs : 1 ≤ policy.handshakeTimeout) :
    Reaches connector outbox (serve policy) outbox (.pending (awaitGreeting policy)) := by
  rw [serve_eq, withDeadline_bind]
  exact .within_recv hs Nat.one_pos _ _

/-- After the negotiation the server waits for a request. -/
theorem reaches_negotiated (hs : 1 ≤ policy.handshakeTimeout) (method : Method) :
    Reaches connector outbox (released (afterNegotiation policy) (.ok method)) outbox
      (.pending (awaitRequest policy)) := by
  refine .release (.note ?_)
  -- The request has a deadline of its own.
  rw [withDeadline_bind]
  exact .within_recv hs (Nat.succ_pos 2) _ _

/-! ### The greeting -/

/-- Carries out the selected method. -/
def carryOut (policy : Policy) : Option Method → Exchange Method
  | none => throw .noAcceptableMethod
  | some .noAuth => return .noAuth
  | some .usernamePassword => do
    Negotiation.authenticate policy.credentials
    return .usernamePassword

/-- Answers a greeting and carries out the selected method. -/
def answerOffer (policy : Policy) (offer : Bytes) : Exchange Method := do
  Exchange.note .debug s!"Client offered methods: {Negotiation.offerText offer}"
  Exchange.send [version, Negotiation.selectionByte (Negotiation.select policy offer)]
  carryOut policy (Negotiation.select policy offer)

/-- A negotiation reads the greeting and answers it. The answer is a function of
its own here, as it is followed through several modules. -/
theorem negotiate_eq (policy : Policy) :
    Negotiation.negotiate policy = Negotiation.readGreeting >>= answerOffer policy := by
  unfold Negotiation.negotiate answerOffer carryOut
  rfl

/-- Where a server with a policy stands after a greeting. -/
def standAfterGreeting (policy : Policy) : Option Method → Stand (Except ServiceError Unit)
  | none => .left (.error (.protocol .noAcceptableMethod))
  | some .noAuth => .pending (awaitRequest policy)
  | some .usernamePassword => .pending (awaitCredentials policy)

/-- Carrying out a method leads to where the server waits next, or to the end. For
that wait it needs some time, since a deadline of no length passes at once. -/
theorem reaches_carryOut (hs : 1 ≤ policy.handshakeTimeout) (selected : Option Method) :
    Reaches connector outbox
      ((carryOut policy selected).run.bind (released (afterNegotiation policy))) outbox
      (standAfterGreeting policy selected) := by
  match selected with
  | none => exact .release (.done _)
  | some .noAuth => exact reaches_negotiated hs .noAuth
  | some .usernamePassword => exact .recv Nat.one_pos _ _

/-- A greeting is answered with the method that the server selects. The answer is
all that is in the outbox then, and the server stands where the selection leads.
-/
theorem turn_greeting (policy : Policy) (connector : Connector)
    (hs : 1 ≤ policy.handshakeTimeout) (offer : Bytes) (hoffer : offer.length ≤ 255)
    (hd : d.Idle []) :
    ∃ d' : Desk _, d'.Idle [version, Negotiation.selectionByte (Negotiation.select policy offer)] ∧
      turn connector (.pending (awaitGreeting policy),
          { d with inbox := d.inbox ++ Negotiation.offerMessage offer })
        = (standAfterGreeting policy (Negotiation.select policy offer), d') := by
  have hanswer : Reaches connector []
      ((answerOffer policy offer).run.bind (released (afterNegotiation policy)))
      [version, Negotiation.selectionByte (Negotiation.select policy offer)]
      (standAfterGreeting policy (Negotiation.select policy offer)) :=
    .note (.send (reaches_carryOut hs _))
  rw [awaitGreeting, negotiate_eq, run_bind_bind]
  exact turn_message (gets_greeting hoffer) hanswer hd

/-- To a server that waits for a greeting, a client that leaves is a
truncated message. -/
theorem turn_hungUp_greeting (policy : Policy) (connector : Connector) (hd : d.Idle outbox) :
    ∃ d', turn connector (.pending (awaitGreeting policy), { d with hungUp := true })
      = (.left (.error (.protocol (.truncated Shape.integer.endError))), d') :=
  turn_hungUp Nat.one_pos rfl hd

/-! ### The credentials -/

/-- The server compares bytes, and texts with the same bytes are the same. -/
theorem eq_of_utf8_fields {c c' : Credentials}
    (h : utf8 c.username = utf8 c'.username ∧ utf8 c.password = utf8 c'.password) : c = c' := by
  obtain ⟨username, password⟩ := c
  exact Credentials.mk.injEq .. ▸ ⟨utf8_inj h.1, utf8_inj h.2⟩

/-- The expected credentials are accepted, and the server waits for the request.
-/
theorem reaches_judge_expected (hs : 1 ≤ policy.handshakeTimeout) {c : Credentials}
    (hu : utf8 c.username ≠ []) (hp : utf8 c.password ≠ []) (hc : c = policy.credentials) :
    Reaches connector outbox
      ((do Negotiation.judge policy.credentials (.ok (utf8 c.username, utf8 c.password))
           return Method.usernamePassword).run.bind (released (afterNegotiation policy)))
      (outbox ++ [Negotiation.passwordVersion, 0]) (.pending (awaitRequest policy)) := by
  rw [Negotiation.judge, if_neg (not_or.mpr ⟨hu, hp⟩), hc, if_pos ⟨rfl, rfl⟩]
  exact .send (.note (reaches_negotiated hs _))

/-- Other credentials are refused, and the server leaves. Their fields are not
empty, so the comparison is what decides. -/
theorem reaches_judge_other {c : Credentials} (hu : utf8 c.username ≠ [])
    (hp : utf8 c.password ≠ []) (hc : c ≠ policy.credentials) :
    Reaches connector outbox
      ((do Negotiation.judge policy.credentials (.ok (utf8 c.username, utf8 c.password))
           return Method.usernamePassword).run.bind (released (afterNegotiation policy)))
      (outbox ++ [Negotiation.passwordVersion, 1]) (.left (.error (.protocol .authFailed))) := by
  rw [Negotiation.judge, if_neg (not_or.mpr ⟨hu, hp⟩),
    if_neg (mt eq_of_utf8_fields hc)]
  exact .send (.note (.release (.done _)))

/-- The credentials are answered with a status. They must fit, since otherwise the
client sends none. -/
theorem turn_credentials (policy : Policy) (connector : Connector)
    (hs : 1 ≤ policy.handshakeTimeout) {c : Credentials}
    (hu : Credentials.fits c.username) (hp : Credentials.fits c.password) (hd : d.Idle []) :
    ∃ d' : Desk _,
      d'.Idle [Negotiation.passwordVersion, if c = policy.credentials then 0 else 1] ∧
      turn connector (.pending (awaitCredentials policy),
          { d with inbox := d.inbox ++ Negotiation.passwordMessage c })
        = (if c = policy.credentials then .pending (awaitRequest policy)
            else .left (.error (.protocol .authFailed)), d') := by
  obtain ⟨hu₀, hu⟩ := (Negotiation.fits_iff _).mp hu
  obtain ⟨hp₀, hp⟩ := (Negotiation.fits_iff _).mp hp
  rw [awaitCredentials, Negotiation.authenticate_eq, bind_assoc, run_bind_bind]
  refine turn_message (gets_credentials hu hp) ?_ hd
  by_cases hc : c = policy.credentials
  · rw [if_pos hc, if_pos hc]
    exact reaches_judge_expected hs hu₀ hp₀ hc
  · rw [if_neg hc, if_neg hc]
    exact reaches_judge_other hu₀ hp₀ hc

/-- To a server that waits for credentials, a client that leaves is a
truncated message. -/
theorem turn_hungUp_credentials (policy : Policy) (connector : Connector) (hd : d.Idle outbox) :
    ∃ d', turn connector (.pending (awaitCredentials policy), { d with hungUp := true })
      = (.left (.error (.protocol (.truncated Shape.integer.endError))), d') :=
  turn_hungUp Nat.one_pos rfl hd

end

/-! ### The request -/

/-- What a server makes of a request. -/
inductive Treatment where
  /-- The request is granted, and a connection is open. -/
  | granted (c : Connection)
  /-- The client is told a code and the server ends with an error. -/
  | refused (code : ReplyCode) (e : ServiceError)
  /-- The server waits for what never comes. -/
  | endless

namespace Treatment

/-- What the client is told. -/
def reply : Treatment → Bytes
  | granted c => Reply.successFrame c.endpoint
  | refused code _ => Reply.failureFrame code
  | endless => []

/-- Where the server stands. -/
def stand : Treatment → Stand (Except ServiceError Unit)
  | granted _ => .left (.ok ())
  | refused _ e => .left (.error e)
  | endless => .stuck

/-- A dial that missed its deadline. -/
def overdue (target : Address) : Treatment :=
  .refused .hostUnreachable (.timeout s!"connect to {target.toText}")

/-- What a server makes of a dial that is settled in time. -/
def ofResult : Except IoError Connection → Treatment
  | .ok c => .granted c
  | .error e => .refused (.ofIoError e) (.io e)

/-- What a server makes of a dial. The clock never shows a deadline that
is `clockRange` or more away. -/
def ofDial (policy : Policy) (target : Address) : Attempt Connection → Treatment
  | .settled seconds r =>
    if policy.connectTimeout < seconds ∧ policy.connectTimeout < clockRange then overdue target
    else ofResult r
  | .never => if policy.connectTimeout < clockRange then overdue target else .endless

/-- What a server that opens no listeners makes of a request. -/
def ofRequest (policy : Policy) (connector : Connector) (q : Request) : Treatment :=
  match q.command with
  | .connect => ofDial policy q.address (connector.dial q.address)
  | .bind =>
    if policy.allowBind then .refused .generalFailure (.io Connector.noListener)
    else .refused .commandNotSupported (.protocol (.commandNotSupported q.command.toByte))
  | .udpAssociate =>
    .refused .commandNotSupported (.protocol (.commandNotSupported q.command.toByte))

end Treatment

section

variable {policy : Policy} {d : Desk (Except ServiceError Unit)} {outbox : Bytes}

/-- The dialogue treats a request in the given way: the client is told so,
and a connection that is granted is open. -/
def Treats (connector : Connector) (x : Dialogue (Except ServiceError Unit)) (t : Treatment)
    (d : Desk (Except ServiceError Unit)) : Prop :=
  ∃ d' : Desk _, d'.outbox = d.outbox ++ t.reply ∧ (∀ c, t = .granted c → d'.remote = some c) ∧
    attend connector x d = (t.stand, d')

/-- Telling of a failure is a refusal. The client is still there, so the reply
gets to it. -/
theorem treats_failWith (hd : d.hungUp = false) (code : ReplyCode) (e : ServiceError) :
    Treats connector (failWith code e) (.refused code e) d := by
  refine ⟨{ d with outbox := d.outbox ++ Reply.failureFrame code }, rfl,
    fun _ hc => Treatment.noConfusion hc, ?_⟩
  rw [failWith, Reply.send_failure]
  show attend connector (.send (Reply.failureFrame code) _) d = _
  rw [attend, if_neg (by simp [hd])]
  rfl

/-- A grant is one for the connection that is open. What the client is told and
where the tunnel leads therefore come from one connection. -/
theorem treats_grant (hd : d.hungUp = false) {c : Connection} (hc : d.remote = some c)
    (entry : Log.Entry) :
    Treats connector (grant c.endpoint (.note entry (.done (.ok ())))) (.granted c) d := by
  refine ⟨{ d with outbox := d.outbox ++ Reply.successFrame c.endpoint }.mark (.noted entry),
    rfl, ?_, ?_⟩
  · rintro _ ⟨⟩
    exact hc
  · rw [grant, Reply.send_success]
    show attend connector (.send (Reply.successFrame c.endpoint) _) d = _
    rw [attend, if_neg (by simp [hd])]
    rfl

/-- Noting first changes nothing about the treatment. -/
theorem treats_note {entry : Log.Entry} {next : Dialogue (Except ServiceError Unit)}
    {t : Treatment} (hnext : Treats connector next t (d.mark (.noted entry))) :
    Treats connector (.note entry next) t d := by
  rw [Treats, attend]
  exact hnext

/-- Nor does lifting the deadline. -/
theorem treats_release {next : Dialogue (Except ServiceError Unit)} {t : Treatment}
    (hnext : Treats connector next t { d with deadline := none }) :
    Treats connector (.release next) t d := by
  rw [Treats, attend]
  exact hnext

/-- A dialogue that is late goes on without a deadline. It has said nothing before
it was late, so the treatment is that of what follows. -/
theorem treats_within_late {seconds : Nat} {late next : Dialogue (Except ServiceError Unit)}
    {t : Treatment} {d' : Desk (Except ServiceError Unit)}
    (hnext : attend connector next { d with deadline := (deadline? d.clock seconds).map (·, late) }
      = (.late, d')) (houtbox : d'.outbox = d.outbox)
    (hlate : Treats connector late t { d' with deadline := none }) :
    Treats connector (.within seconds late next) t d := by
  obtain ⟨d'', houtbox', hremote, hattend⟩ := hlate
  refine ⟨d'', ?_, hremote, ?_⟩
  · rw [← houtbox]
    exact houtbox'
  · rw [attend, hnext]
    exact hattend

/-- One that is not goes on as it does anyway. The treatment does not mention the
deadline, which may be laid down or not by then. -/
theorem treats_within {seconds : Nat} {late next : Dialogue (Except ServiceError Unit)}
    {t : Treatment}
    (hnext : Treats connector next t
      { d with deadline := (deadline? d.clock seconds).map (·, late) }) :
    Treats connector (.within seconds late next) t d := by
  obtain ⟨d', houtbox, hremote, hattend⟩ := hnext
  refine ⟨d', houtbox, hremote, ?_⟩
  rw [attend, hattend]
  cases t <;> rfl

/-- A dial is seen as far as the deadline allows. This is the equation of `attend`
for dials, with the mark in the history pulled out. -/
theorem attend_dial (connector : Connector) (target : Address)
    (k : Except IoError Endpoint → Dialogue β) (d : Desk β) :
    attend connector (.dial target k) d
      = match (connector.dial target).await (d.deadline.map (·.1)) d.clock with
        | .result clock (.ok c) => attend connector (k (.ok c.endpoint))
            { d.mark (.dialed target) with clock, remote := some c }
        | .result clock (.error e) => attend connector (k (.error e))
            { d.mark (.dialed target) with clock }
        | .late clock => (.late, { d.mark (.dialed target) with clock })
        | .nothing => (.stuck, d.mark (.dialed target)) := by
  rw [attend]
  rfl

/-- A dial that is settled in time is treated as its result says. The deadline is
lifted before the client is told. -/
theorem treats_dial {target : Address} {clock : Nat} {r : Except IoError Connection}
    (hd : d.hungUp = false)
    (hsight : (connector.dial target).await (d.deadline.map (·.1)) d.clock = .result clock r) :
    Treats connector (.dial target fun a => .release (afterDial target a)) (.ofResult r) d := by
  have hdial := attend_dial connector target
    (fun a => .release (afterDial target a)) d
  rw [hsight] at hdial
  cases r with
  | ok c =>
    obtain ⟨d', houtbox, hremote, hattend⟩ : Treats connector
        (.release (afterDial target (.ok c.endpoint))) (.granted c)
        { d.mark (.dialed target) with clock, remote := some c } :=
      treats_release (treats_grant (by exact hd) rfl _)
    exact ⟨d', houtbox, hremote, hdial.trans hattend⟩
  | error e =>
    obtain ⟨d', houtbox, hremote, hattend⟩ : Treats connector
        (.release (afterDial target (.error e))) (.refused (.ofIoError e) (.io e))
        { d.mark (.dialed target) with clock } :=
      treats_release (treats_note (treats_failWith (by exact hd) _ _))
    exact ⟨d', houtbox, hremote, hdial.trans hattend⟩

/-- A dial that is never settled, without a deadline, is waited for forever. That
it was tried is still marked. -/
theorem treats_dial_nothing {target : Address}
    {k : Except IoError Endpoint → Dialogue (Except ServiceError Unit)}
    (hsight : (connector.dial target).await (d.deadline.map (·.1)) d.clock = .nothing) :
    Treats connector (.dial target k) .endless d := by
  have hdial := attend_dial connector target k d
  rw [hsight] at hdial
  exact ⟨d.mark (.dialed target), (List.append_nil _).symm,
    fun _ hc => Treatment.noConfusion hc, hdial⟩

/-- How a dial is treated depends on what is seen of it. The verdict is put in
terms of the timeout alone, and the clock at which the dial begins drops out. -/
theorem Treatment.ofDial_eq (policy : Policy) (target : Address) (a : Attempt Connection)
    (clock : Nat) :
    ofDial policy target a = match a.await (deadline? clock policy.connectTimeout) clock with
      | .result _ r => ofResult r
      | .late _ => overdue target
      | .nothing => .endless := by
  unfold ofDial
  by_cases hrange : policy.connectTimeout < clockRange
  · rw [deadline?_eq_some hrange]
    cases a with
    | never => simp [hrange, Attempt.await]
    | settled seconds r =>
      by_cases hlate : policy.connectTimeout < seconds
      · simp [hrange, hlate, Attempt.await]
      · simp [hrange, hlate, Attempt.await]
  · rw [deadline?_eq_none_iff.mpr (Nat.le_of_not_lt hrange)]
    cases a with
    | never => simp [hrange, Attempt.await]
    | settled seconds r => simp [hrange, Attempt.await]

/-- A CONNECT is treated as its dial turns out: settled in time, late, or never
seen. The three cases are what `Attempt.await` can say. -/
theorem treats_connect (target : Address) (hd : d.hungUp = false) :
    Treats connector (connect policy target)
      (.ofDial policy target (connector.dial target)) d := by
  rw [connect_eq, Treatment.ofDial_eq policy target _ d.clock]
  -- What is done late matters only once it is late.
  generalize hlate : log .error s!"Connection timeout to {target.toText}" _ = late
  have hlimit : ((deadline? d.clock policy.connectTimeout).map (·, late)).map (·.1)
      = deadline? d.clock policy.connectTimeout := (Option.map_map ..).trans Option.map_id'
  rw [← hlimit]
  cases hsight : (connector.dial target).await
      (((deadline? d.clock policy.connectTimeout).map (·, late)).map (·.1)) d.clock with
  | result clock r => exact treats_within (treats_dial hd hsight)
  | nothing => exact treats_within (treats_dial_nothing hsight)
  | late clock =>
    have hdial := attend_dial connector target
      (fun a => .release (afterDial target a))
      { d with deadline := (deadline? d.clock policy.connectTimeout).map (·, late) }
    rw [hsight] at hdial
    -- The dial has missed its deadline, and the client is told so.
    refine treats_within_late hdial rfl ?_
    rw [← hlate]
    refine treats_note (treats_failWith ?_ _ _)
    exact hd

/-- Without listeners a BIND comes to nothing. -/
theorem treats_bind (hlisten : connector.listen = none) (target : Address)
    (hd : d.hungUp = false) :
    Treats connector (bind policy target) (.refused .generalFailure (.io Connector.noListener))
      d := by
  rw [bind_eq, Treats, attend, hlisten]
  exact treats_note (treats_failWith (by exact hd) _ _)

/-- A request is treated as its command and its target ask for. Only a BIND that
is allowed looks at the listeners, so nothing is asked of them for the other
commands. -/
theorem treats_perform (policy : Policy) {q : Request}
    (hlisten : q.command = .bind → connector.listen = none)
    (hd : d.hungUp = false) :
    Treats connector (perform policy q) (.ofRequest policy connector q) d := by
  refine treats_note ?_
  unfold Treatment.ofRequest
  cases hq : q.command with
  | connect => exact treats_connect _ hd
  | bind =>
    cases hbind : policy.allowBind with
    | true => exact treats_bind (hlisten hq) _ hd
    | false => exact treats_note (treats_failWith (by exact hd) _ _)
  | udpAssociate => exact treats_note (treats_failWith (by exact hd) _ _)

/-- The request is carried out in the turn in which it arrives. The server reads
nothing more, so its turn ends with a reply or with a dial that never comes. -/
theorem turn_request (policy : Policy) (connector : Connector) {command : Command} {a : Address}
    {frame : Bytes} (ha : a.encode = .ok frame)
    (hlisten : command = .bind → connector.listen = none) (hd : d.Idle []) :
    ∃ d' : Desk _, d'.outbox = (Treatment.ofRequest policy connector ⟨command, a.framed⟩).reply ∧
      (∀ c, Treatment.ofRequest policy connector ⟨command, a.framed⟩ = .granted c →
        d'.remote = some c) ∧
      turn connector (.pending (awaitRequest policy),
          { d with inbox := d.inbox ++ (Request.header command ++ frame) })
        = ((Treatment.ofRequest policy connector ⟨command, a.framed⟩).stand, d') := by
  -- The deadline is lifted once the request is there.
  have hgets : Exchange.Gets Request.read (Request.header command ++ frame) ⟨command, a.framed⟩ :=
    gets_request command 0 ha
  obtain ⟨d₁, hd₁, hmessage⟩ :=
    attend_message connector hgets (released (afterRequest policy)) hd
  obtain ⟨d', houtbox, hremote, hattend⟩ :=
    treats_perform policy (q := ⟨command, a.framed⟩) hlisten hd₁.release.hungUp
  refine ⟨d', ?_, hremote, ?_⟩
  · rw [houtbox, hd₁.release.outbox]
    rfl
  · have hperform := hmessage.trans hattend
    unfold turn awaitRequest
    simp only [hperform]
    cases Treatment.ofRequest policy connector ⟨command, a.framed⟩ <;> rfl

end

end Socks5.Session
