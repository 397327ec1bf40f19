import Mathlib.Algebra.Group.Nat.Defs
import Socks5.Proofs.ServerTurns

/-!
# `Socks5.Proofs.Agreement`: both ends of a session agree

`Verdict.of` says what the two ends of a session come to, from the policy,
the command, the text of the target, the credentials and how the dial
turns out. It knows nothing of messages. The rest of the module follows
the client message by message and finds just that.

* `comes_demand`, `comes_sendCredentials`, `comes_openMethod`: the parts of
  a handshake, last part first.
* `comes_handshake`: the handshake comes to its verdict.
* `run_agrees`: and so does the session.

The server must have time for the handshake. The time for the dial may be
none, and it may be more than the clock can show: then a dial that never
comes has no end (`run_eq_none_of_far_deadline`).
-/

set_option autoImplicit false

namespace Socks5

open Net

/-- An address that a text gives has a frame, and the frame shows all of it. A
text knows neither flow labels nor scopes, and a name that is too long for a frame
is refused when the text is read. -/
theorem Address.encode_of_parse {s : String} {a : Address} (h : Address.parse s = .ok a) :
    a.framed = a ∧ ∃ frame, a.encode = .ok frame := by
  unfold Address.parse at h
  split at h
  · cases h
  · split at h
    · cases h
    · rename_i host port _ _ p _
      unfold Address.ofHost at h
      split at h
      · cases h
        exact ⟨rfl, _, rfl⟩
      · split at h <;> cases h <;> exact ⟨rfl, _, rfl⟩
      · dsimp only at h
        split at h
        · cases h
        · rename_i hlen
          cases h
          exact ⟨rfl, _, Address.encode_name (Nat.le_of_not_lt hlen) p⟩

namespace Session

open Dialogue Exchange Server

/-! ### The verdict -/

/-- What both ends of a session come to. -/
inductive Verdict where
  /-- Both end with an error. -/
  | failed (client : ProtocolError) (server : ServiceError)
  /-- The request is granted, and a connection is open. -/
  | granted (c : Connection)
  /-- Both wait for what never comes. -/
  | endless

/-- The verdict on a request that is treated in the given way. -/
def Verdict.ofTreatment : Treatment → Verdict
  | .granted c => .granted c
  | .refused code e => .failed (.rejected code) e
  | .endless => .endless

/-- The errors of a client and a server over the client's credentials. A
client that cannot send its credentials leaves. -/
def mismatch (expected c : Credentials) : Option (ProtocolError × ProtocolError) :=
  if ¬ (Credentials.fits c.username ∧ Credentials.fits c.password) then
    some (.authFailed, .truncated Shape.integer.endError)
  else if c ≠ expected then some (.authFailed, .authFailed)
  else none

/-- The errors of a client and a server where the client cannot
authenticate. -/
def exclusion (policy : Policy) : Option (ProtocolError × ProtocolError) :=
  if policy.authRequired then some (.noAcceptableMethod, .noAcceptableMethod) else none

/-- The errors of a client and a server that do not agree on how the client
authenticates. -/
def quarrel (policy : Policy) : Option Credentials → Option (ProtocolError × ProtocolError)
  | some c => if policy.hasCredentials then mismatch policy.credentials c else exclusion policy
  | none => exclusion policy

/-- A verdict that a quarrel comes before. -/
def Verdict.after : Option (ProtocolError × ProtocolError) → Verdict → Verdict
  | some (client, server), _ => .failed client (.protocol server)
  | none, v => v

/-- What both ends of a session come to. -/
def Verdict.of (policy : Policy) (connector : Connector) (command : Command) (target : String)
    (credentials : Option Credentials) : Verdict :=
  match Address.parse target with
  | .error e => .failed e (.protocol (.truncated Shape.integer.endError))
  | .ok a => .after (quarrel policy credentials)
      (.ofTreatment (.ofRequest policy connector ⟨command, a⟩))

/-- The handshake of a session, with what it leaves. -/
def meet (policy : Policy) (connector : Connector) (command : Command) (target : String)
    (credentials : Option Credentials) :
    Option (Except ProtocolError Address × Stand (Except ServiceError Unit) ×
      Desk (Except ServiceError Unit)) :=
  converse connector (Client.handshake command target credentials).run
    (turn connector (Stand.pending (serve policy), {}))

/-- A handshake comes to a verdict: the client ends as it says, and so does
the server once the client has left. -/
def Comes (connector : Connector)
    (m : Option (Except ProtocolError Address × Stand (Except ServiceError Unit) ×
      Desk (Except ServiceError Unit))) : Verdict → Prop
  | .failed client server => ∃ r d, m = some (.error client, r) ∧
      turn connector (r.1, { r.2 with hungUp := true }) = (.left (.error server), d)
  | .granted c => ∃ d, m = some (.ok (Address.ip c.endpoint).framed, .left (.ok ()), d) ∧
      d.outbox = [] ∧ d.remote = some c
  | .endless => m = none

/-! ### The client's side -/

section

variable {α γ β : Type} {connector : Connector}

/-- What a client sends is there for a server that waits. The server has no turn
before the client waits, too. -/
theorem converse_send {m : Bytes} {f : Unit → Exchange α} {x : Dialogue β} {d : Desk β} :
    converse connector (Exchange.send m >>= f).run (.pending x, d)
      = converse connector (f ()).run (.pending x, { d with inbox := d.inbox ++ m }) := by
  show converse connector (.send m _) (.pending x, d) = _
  rw [converse]
  · rfl
  · intro b hb
    cases hb

/-- The client sends a message and takes the answer of the next turn. The answer
is all that is in the outbox, so nothing is left there for the next message. -/
theorem converse_ask {n : Nat} {m : Bytes} {f : Vector UInt8 n → Exchange α} {x : Dialogue β}
    {d d' : Desk β} {s : Stand β} (v : Vector UInt8 n)
    (hturn : turn connector (.pending x, { d with inbox := d.inbox ++ m }) = (s, d'))
    (houtbox : d'.outbox = v.toList) :
    converse connector (do Exchange.send m; let v ← Exchange.block n; f v).run (.pending x, d)
      = converse connector (f v).run (s, { d' with outbox := [] }) := by
  rw [converse_send]
  exact converse_recv connector v [] hturn (by simp [houtbox])

/-- A client whose server leaves in its turn takes what the server has left
behind. From then on the conversation is one with a server that has left. -/
theorem converse_turn {n : Nat} {shape : Shape} {k : Except IoError (Vector UInt8 n) → Dialogue α}
    {r : Stand β × Desk β} {b : β} {d : Desk β} (hturn : turn connector r = (.left b, d)) :
    converse connector (.recv n shape k) r = converse connector (.recv n shape k) (.left b, d) := by
  have hleft : turn connector (.left b, d) = (.left b, d) := rfl
  simp only [converse, hturn, hleft]

/-- A client whose server waits for what never comes waits, too. Giving up is of
no use: the server's wait is not for the client. -/
theorem converse_stuck {n : Nat} (hn : 0 < n) {shape : Shape}
    {k : Except IoError (Vector UInt8 n) → Dialogue α} {r : Stand β × Desk β} {d : Desk β}
    (hturn : turn connector r = (.stuck, d)) (houtbox : d.outbox = []) :
    converse connector (.recv n shape k) r = none := by
  have hlen : d.outbox.length < n := by
    rw [houtbox]
    exact hn
  have hexpire : expire connector (Stand.stuck, d) = (.stuck, d) := rfl
  rw [converse]
  simp only [hturn, if_pos hlen, hexpire]
  rw [dif_neg (Nat.not_le.mpr hlen)]

/-- The message that the server left behind is taken, and the remote side is the
one that the server left, too. -/
theorem converse_gets (connector : Connector) {x : Exchange γ} {m : Bytes} {a : γ}
    (hx : x.Gets m a) (f : γ → Exchange α) (b : β) {d : Desk β} (houtbox : d.outbox = m) :
    ∃ d' : Desk β, d'.outbox = [] ∧ d'.remote = d.remote ∧
      converse connector (x >>= f).run (.left b, d)
        = converse connector (f a).run (.left b, d') := by
  obtain ⟨h, hx⟩ := hx
  refine ⟨{ d with outbox := [], history := d.history ++ h }, rfl, rfl, ?_⟩
  exact converse_takes connector (hx.bind (ExceptT.bindCont f)) b d [] (by simp [houtbox])

end

/-! ### The request -/

section

variable {policy : Policy} {connector : Connector} {d : Desk (Except ServiceError Unit)}

/-- Whether a client takes the code for the refusal that it is. -/
def Treatment.Plain : Treatment → Prop
  | .refused code _ => ReplyCode.ofByte code.toByte = code ∧ code.isSuccess = false
  | _ => True

/-- The code for a dial that failed is one that the client reads as itself. Codes
that are made from an error of the network come from a table, which has its lemma.
-/
theorem Treatment.plain_ofDial (target : Address) (a : Attempt Connection) :
    (Treatment.ofDial policy target a).Plain := by
  cases a with
  | never =>
    simp only [ofDial]
    split
    · exact ⟨rfl, rfl⟩
    · trivial
  | settled seconds r =>
    simp only [ofDial]
    split
    · exact ⟨rfl, rfl⟩
    · cases r with
      | ok c => trivial
      | error e => exact ReplyCode.ofByte_ofIoError e

/-- The same holds of every request that is refused, whatever the command. -/
theorem Treatment.plain_ofRequest (policy : Policy) (connector : Connector) (q : Request) :
    (Treatment.ofRequest policy connector q).Plain := by
  unfold ofRequest
  split
  · exact plain_ofDial ..
  · split <;> exact ⟨rfl, rfl⟩
  · exact ⟨rfl, rfl⟩

/-- What a client makes of a reply. -/
def judgeReply (command : Command) (target : String) (reply : Reply) : Exchange Address :=
  if ¬ reply.code.isSuccess then throw (.rejected reply.code)
  else do
    Exchange.note .debug
      s!"SOCKS5 {command.text} to {target} granted, bound at {reply.address.toText}"
    return reply.address

/-- The part of a handshake that asks for the target. -/
def demand (command : Command) (target : String) (request : Bytes) : Exchange Address := do
  Exchange.send request
  judgeReply command target (← Reply.read)

/-- A request comes to the verdict on how the server treats it. If it is granted,
the connection is the one that the server has opened; if it is refused, the client
reads the code that the server sent. -/
theorem comes_demand (policy : Policy) {command : Command} (target : String) {a : Address}
    {frame : Bytes} (ha : a.encode = .ok frame)
    (hlisten : command = .bind → connector.listen = none) (hd : d.Idle []) :
    Comes connector
      (converse connector (demand command target (Request.header command ++ frame)).run
        (.pending (awaitRequest policy), d))
      (.ofTreatment (.ofRequest policy connector ⟨command, a.framed⟩)) := by
  obtain ⟨d', houtbox, hremote, hturn⟩ :=
    turn_request policy connector ha hlisten hd
  -- The treatment is all that is left of the request, so the cases are its own.
  have hplain := Treatment.plain_ofRequest policy connector ⟨command, a.framed⟩
  generalize Treatment.ofRequest policy connector ⟨command, a.framed⟩ = t at *
  rw [demand, converse_send]
  -- The server does not wait again, so all of its reply is there.
  cases t with
  | endless => exact converse_stuck (Nat.succ_pos 2) hturn houtbox
  | refused code e =>
    obtain ⟨hcode, hfailed⟩ := hplain
    have hgets := gets_reply code.toByte 0 (a := .unspecified) rfl
    obtain ⟨d'', -, -, hconverse⟩ := converse_gets connector hgets
      (judgeReply command target) (Except.error e) houtbox
    have hjudge : judgeReply command target ⟨.ofByte code.toByte, Address.unspecified.framed⟩
        = throw (.rejected code) := by
      -- The client reads back the code that the server sent.
      rw [hcode, judgeReply, if_pos (by simp [hfailed])]
    rw [hjudge] at hconverse
    exact ⟨_, _, (converse_turn hturn).trans hconverse, rfl⟩
  | granted c =>
    have hgets := gets_reply 0 0 (Address.encode_ip_eq c.endpoint)
    obtain ⟨d'', houtbox', hremote', hconverse⟩ := converse_gets connector hgets
      (judgeReply command target) (Except.ok ()) houtbox
    exact ⟨_, (converse_turn hturn).trans hconverse, houtbox', hremote'.trans (hremote c rfl)⟩

/-! ### The whole handshake -/

/-- The methods that a client offers. -/
def offerOf : Option Credentials → Bytes
  | some _ => [Method.noAuth.toByte, Method.usernamePassword.toByte]
  | none => [Method.noAuth.toByte]

/-- What a client says first is an offer of its methods. -/
theorem greeting_eq (credentials : Option Credentials) :
    Negotiation.greeting credentials = Negotiation.offerMessage (offerOf credentials) := by
  cases credentials <;> rfl

/-- What a server selects for a client that cannot authenticate. -/
def openMethod (policy : Policy) : Option Method :=
  if policy.authRequired then none else some .noAuth

/-- What a server selects from a client's offer. The password method is selected
just if both sides have credentials, and nothing else depends on what the client
has. -/
theorem select_offerOf (policy : Policy) (credentials : Option Credentials) :
    Negotiation.select policy (offerOf credentials) =
      if policy.hasCredentials ∧ credentials.isSome then some .usernamePassword
      else openMethod policy := by
  unfold Negotiation.select openMethod
  cases credentials <;> cases policy.hasCredentials <;> cases policy.authRequired <;> rfl

/-- What follows the selection. -/
def followSelection (command : Command) (target : String) (credentials : Option Credentials)
    (request : Bytes) (selection : Vector UInt8 2) : Exchange Address :=
  if headVersion selection ≠ version then throw (.unsupportedVersion (headVersion selection))
  else do
    Client.settle (headCode selection) credentials
    demand command target request

/-- A target that parses is asked for. The request is put together before the
greeting is sent, so that an error in it comes first. -/
theorem handshake_of_ok {command : Command} {target : String} {credentials : Option Credentials}
    {a : Address} {frame : Bytes} (hparse : Address.parse target = .ok a)
    (ha : a.encode = .ok frame) :
    Client.handshake command target credentials = (do
      Exchange.send (Negotiation.greeting credentials)
      followSelection command target credentials (Request.header command ++ frame)
        (← Exchange.block 2)) := by
  simp only [Client.handshake, Address.appendText, hparse, Address.appendTo, ha]
  rfl

/-- A target that does not parse fails before anything is sent. -/
theorem handshake_of_error {command : Command} {target : String}
    {credentials : Option Credentials} {e : ProtocolError}
    (hparse : Address.parse target = .error e) :
    (Client.handshake command target credentials).run = .done (.error e) := by
  simp only [Client.handshake, Address.appendText, hparse]
  rfl

/-- The server's first turn ends with a wait for the greeting. The time must be at
least a second, since a deadline that is over at once lets the server take nothing
at all. -/
theorem turn_start (policy : Policy) (connector : Connector) (hs : 1 ≤ policy.handshakeTimeout) :
    ∃ d : Desk _, d.Idle [] ∧
      turn connector (Stand.pending (serve policy), {}) = (.pending (awaitGreeting policy), d) := by
  obtain ⟨d, hd, hattend⟩ := reaches_serve policy connector hs
    ({} : Desk (Except ServiceError Unit)) ⟨rfl, rfl, rfl, rfl, nofun⟩
  exact ⟨d, hd, turn_of_attend hd hattend⟩

/-- A client that has to authenticate comes to the verdict on its request,
unless its credentials are in the way. -/
theorem comes_sendCredentials (hs : 1 ≤ policy.handshakeTimeout) {c : Credentials}
    {ask : Exchange Address} {v : Verdict}
    (hask : ∀ d : Desk _, d.Idle [] →
      Comes connector (converse connector ask.run (.pending (awaitRequest policy), d)) v)
    (hd : d.Idle []) :
    Comes connector
      (converse connector (do Negotiation.sendCredentials c; ask).run
        (.pending (awaitCredentials policy), d))
      (.after (mismatch policy.credentials c) v) := by
  unfold Negotiation.sendCredentials mismatch
  by_cases hfits : Credentials.fits c.username ∧ Credentials.fits c.password
  · rw [if_neg (Decidable.not_not.mpr hfits), if_neg (Decidable.not_not.mpr hfits)]
    obtain ⟨d', hd', hturn⟩ := turn_credentials policy connector hs
      hfits.1 hfits.2 hd
    simp only [bind_assoc]
    rw [converse_ask #v[Negotiation.passwordVersion, _] hturn hd'.outbox]
    by_cases hc : c = policy.credentials
    · simp only [if_pos hc]
      rw [if_neg (Decidable.not_not.mpr hc)]
      exact hask _ hd'.taken
    · simp only [if_neg hc]
      rw [if_pos hc]
      exact ⟨_, _, rfl, rfl⟩
  · -- Nothing is sent, and the server still waits when the client leaves.
    rw [if_pos hfits, if_pos hfits]
    exact ⟨_, _, rfl, (turn_hungUp_credentials policy connector (hd.mark _)).choose_spec⟩

/-- A client that cannot authenticate comes to the verdict on its request,
unless the server wants it to. -/
theorem comes_openMethod {command : Command} {target : String} {credentials : Option Credentials}
    {request : Bytes} {v : Verdict}
    (hask : ∀ d : Desk _, d.Idle [] →
      Comes connector (converse connector (demand command target request).run
        (.pending (awaitRequest policy), d)) v)
    (hd : d.Idle []) :
    Comes connector
      (converse connector
        (followSelection command target credentials request
          #v[version, Negotiation.selectionByte (openMethod policy)]).run
        (standAfterGreeting policy (openMethod policy), d))
      (.after (exclusion policy) v) := by
  unfold openMethod exclusion
  cases policy.authRequired with
  | true => cases credentials <;> exact ⟨_, _, rfl, rfl⟩
  | false => exact hask d hd

/-- A handshake comes to its verdict. Only a BIND cares whether the connector has
listeners. The cases are those of the verdict: a target that does not parse, no
credentials, credentials that the server does not want, and credentials that it
checks. -/
theorem comes_handshake (policy : Policy) (connector : Connector) (command : Command)
    (target : String) (credentials : Option Credentials) (hs : 1 ≤ policy.handshakeTimeout)
    (hlisten : command = .bind → connector.listen = none) :
    Comes connector (meet policy connector command target credentials)
      (.of policy connector command target credentials) := by
  obtain ⟨d, hd, hstart⟩ := turn_start policy connector hs
  rw [meet, hstart, Verdict.of]
  cases hparse : Address.parse target with
  | error e =>
    rw [handshake_of_error hparse]
    -- The client leaves without a word, and the server still waits for the greeting.
    obtain ⟨d', hhungUp⟩ := turn_hungUp_greeting policy connector hd
    exact ⟨_, d', rfl, hhungUp⟩
  | ok a =>
    obtain ⟨hframed, frame, ha⟩ := Address.encode_of_parse hparse
    have hask : ∀ d : Desk _, d.Idle [] → Comes connector
        (converse connector (demand command target (Request.header command ++ frame)).run
          (.pending (awaitRequest policy), d))
        (.ofTreatment (.ofRequest policy connector ⟨command, a⟩)) := by
      intro d hd
      have hcomes := comes_demand policy target ha hlisten hd
      rwa [hframed] at hcomes
    rw [handshake_of_ok hparse ha, greeting_eq]
    obtain ⟨d', hd', hturn⟩ := turn_greeting policy connector hs
      (offerOf credentials) (by cases credentials <;> simp [offerOf]) hd
    rw [converse_ask #v[version, _] hturn hd'.outbox, select_offerOf]
    cases credentials with
    | none =>
      -- Without credentials the password method is not even offered.
      rw [if_neg (by simp)]
      exact comes_openMethod hask hd'.taken
    | some c =>
      rw [quarrel]
      cases policy.hasCredentials with
      | false =>
        rw [if_neg (by simp), if_neg (by simp)]
        exact comes_openMethod hask hd'.taken
      | true =>
        rw [if_pos (by simp), if_pos rfl]
        exact comes_sendCredentials hs hask hd'.taken

/-! ### The whole session -/

/-- What an observer sees of a session, its history apart. -/
structure Ending where
  client : Except ProtocolError Address
  /-- What the client received after its handshake. -/
  received : Bytes
  server : Except ServiceError Unit
  /-- What the remote side received. -/
  remoteGot : Bytes

/-- What an observer sees of an outcome. -/
def Outcome.ending (o : Outcome) : Ending := ⟨o.client, o.received, o.server, o.remoteGot⟩

/-- How a session with the given verdict ends, if it ends. Once a request
is granted, the end is that of the relay. -/
def Verdict.ending (sent : Bytes) : Verdict → Option Ending
  | .failed client server => some ⟨.error client, [], .error server, []⟩
  | .granted c =>
    let o := relay sent c.stream
    if o.ending = .stuck then none
    else some ⟨.ok (Address.ip c.endpoint).framed, o.down.moved, .ok (), o.up.moved⟩
  | .endless => none

/-- A session ends as its handshake says. A handshake that is granted goes on as a
relay, and what each side gets is what the relay has moved. -/
theorem ending_of_comes {command : Command} {target : String} {credentials : Option Credentials}
    {v : Verdict} (hv : Comes connector (meet policy connector command target credentials) v)
    (sent : Bytes) :
    (run policy connector command target credentials sent).map Outcome.ending = v.ending sent := by
  simp only [run]
  unfold meet at hv
  cases v with
  | endless =>
    rw [show converse connector _ _ = none from hv]
    rfl
  | failed client server =>
    obtain ⟨r, d, hmeet, hturn⟩ := hv
    rw [hmeet]
    simp only [abandon, hturn]
    rfl
  | granted c =>
    obtain ⟨d, hmeet, houtbox, hremote⟩ := hv
    rw [hmeet]
    simp only [use, turn, houtbox, hremote, Verdict.ending]
    -- A relay that fails ends the session like one that finishes.
    cases (relay sent c.stream).ending with
    | stuck => rfl
    | finished => rfl
    | failed e => rfl

end

/-- Both ends of a session agree. The client and the server end as the
verdict says, with what the tunnel carried if one opens. A target that does
not parse fails before anything is sent. -/
theorem run_agrees (policy : Policy) (connector : Connector) (command : Command) (target : String)
    (credentials : Option Credentials) (sent : Bytes) (hs : 1 ≤ policy.handshakeTimeout)
    (hlisten : connector.listen = none) :
    (run policy connector command target credentials sent).map Outcome.ending
        = (Verdict.of policy connector command target credentials).ending sent ∧
      ∀ e, Address.parse target = .error e →
        (Client.handshake command target credentials).run = .done (.error e) :=
  ⟨ending_of_comes (comes_handshake _ _ _ _ _ hs fun _ => hlisten) sent,
    fun _ => handshake_of_error⟩

/-- A client that logs in to ask for a target that refuses connections. -/
theorem run_agrees_of_refused_dial :
    (run { authRequired := true, username := some "u", password := some "p" }
        { dial := fun _ => .settled 3 (.error IoKind.connectionRefused.error) } .connect
        "127.0.0.1:80" (some ⟨"u", "p"⟩) [1, 2]).map Outcome.ending
      = some ⟨.error (.rejected .connectionRefused), [],
          .error (.io IoKind.connectionRefused.error), []⟩ :=
  (run_agrees _ _ _ _ _ _ (by decide) rfl).1

/-- The clock never shows a deadline that is too far away. A dial that never
comes then leaves both ends waiting, and neither is told of a timeout. -/
theorem run_eq_none_of_far_deadline :
    run { connectTimeout := 2 ^ 64 - 1 } { dial := fun _ => .never } .connect "h:1" none [97]
      = none := by
  have hverdict : Verdict.of { connectTimeout := 2 ^ 64 - 1 } { dial := fun _ => .never } .connect
      "h:1" none = .endless := by rfl
  have hending := ending_of_comes (comes_handshake { connectTimeout := 2 ^ 64 - 1 }
    { dial := fun _ => .never } .connect "h:1" none (by decide) fun _ => rfl) [97]
  rw [hverdict] at hending
  exact Option.map_eq_none_iff.mp hending

end Session

end Socks5
