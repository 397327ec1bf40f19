import Socks5.Proofs.AuthenticatedAccess

/-!
# `Socks5.Proofs.Exit`: what the server has sent when it stops

`Server.Exit` lists the places where a served connection can stop, with
the bytes that were taken until then and the bytes that were sent.

* `exit_of_serve`: a run in which every write succeeds stops at one of
  these exits. Before the request has been read the client is told
  nothing but the answers of the negotiation. Then each request has one
  reply, but a BIND that is listened for has two, and a request that
  breaks off or is of another version has none.

A stuck connection has sent what its last step had sent. That happens
only if a deadline is too far off for the clock.
-/

set_option autoImplicit false

namespace Socks5

open Net Dialogue

namespace Server

open Negotiation

/-- How the service stops at a step whose message does not come. -/
inductive Breaks (seconds : Nat) (step : String) : Halt (Except ServiceError Unit) → Prop where
  | truncated (e : IoError) : Breaks seconds step (.ended (.error (.protocol (.truncated e))))
  | late : Breaks seconds step
      (.ended (.error (.timeout s!"{step} not completed within {secondsText seconds}")))
  | stuck : Breaks seconds step .stuck

/-- A message that does not come ends the service in one of three ways, and the
reader of the message decides which one. -/
theorem Fails.breaks {α : Type} {seconds : Nat} {step : String}
    {q : Halt (Except ProtocolError α)} {r : Halt (Except ServiceError Unit)}
    (hr : Fails seconds step q r) (hq : q.IsBreak) : Breaks seconds step r := by
  cases hq with
  | broken e => cases hr; exact .truncated e
  | late => cases hr; exact .late
  | stuck => cases hr; exact .stuck

/-- The exits of a served connection: the bytes that were taken, where it
stops, and the bytes that were sent. -/
inductive Exit (policy : Policy) (connector : Connector) :
    Bytes → Halt (Except ServiceError Unit) → Bytes → Prop where
  | greetingCut {got : Bytes} {r : Halt (Except ServiceError Unit)}
      (hcut : greetingFormat.IsCut got) (hr : Breaks policy.handshakeTimeout "greeting" r) :
      Exit policy connector got r []
  | greetingVersion {v : UInt8} (hv : v ≠ version) :
      Exit policy connector [v] (.ended (.error (.protocol (.unsupportedVersion v)))) []
  | noMethod {offer : Bytes} (hlen : offer.length ≤ 255) (hs : select policy offer = none) :
      Exit policy connector (offerMessage offer)
        (.ended (.error (.protocol .noAcceptableMethod))) [version, Method.notAcceptable]
  | credentialsCut {offer got : Bytes} {r : Halt (Except ServiceError Unit)}
      (hlen : offer.length ≤ 255) (hs : select policy offer = some .usernamePassword)
      (hcut : credentialsFormat.IsCut got) (hr : Breaks policy.handshakeTimeout "greeting" r) :
      Exit policy connector (offerMessage offer ++ got) r
        [version, Method.usernamePassword.toByte]
  | denied {offer got : Bytes} {m : Except UInt8 (Bytes × Bytes)} (hlen : offer.length ≤ 255)
      (hs : select policy offer = some .usernamePassword) (hm : credentialsFormat.accepts m got)
      (hne : ¬ IsExpected policy.credentials got) :
      Exit policy connector (offerMessage offer ++ got) (.ended (.error (.protocol .authFailed)))
        [version, Method.usernamePassword.toByte, passwordVersion, 1]
  | requestCut {passage answers got : Bytes} {r : Halt (Except ServiceError Unit)}
      (hpassed : Passed policy passage answers) (hcut : Request.format.IsCut got)
      (hr : Breaks policy.handshakeTimeout "request" r) :
      Exit policy connector (passage ++ got) r answers
  | requestVersion {passage answers : Bytes} {v c x : UInt8}
      (hpassed : Passed policy passage answers) (hv : v ≠ version) :
      Exit policy connector (passage ++ [v, c, x])
        (.ended (.error (.protocol (.unsupportedVersion v)))) answers
  | addressType {passage answers : Bytes} {c x b : UInt8}
      (hpassed : Passed policy passage answers) (hb : AddressType.ofByte? b = none) :
      Exit policy connector (passage ++ [version, c, x, b])
        (.ended (.error (.protocol (.unsupportedAddressType b))))
        (answers ++ Reply.failureFrame .addressTypeNotSupported)
  | command {passage answers frame : Bytes} {c x : UInt8} {target : Address}
      (hpassed : Passed policy passage answers) (hc : Command.ofByte? c = none)
      (htarget : Address.format.accepts target frame) :
      Exit policy connector (passage ++ version :: c :: x :: frame)
        (.ended (.error (.protocol (.commandNotSupported c))))
        (answers ++ Reply.failureFrame .commandNotSupported)
  | request {passage answers request : Bytes} {q : Request} {opens : History}
      {replies : List Bytes} {r : Halt (Except ServiceError Unit)} {remote : Option Connection}
      (hpassed : Passed policy passage answers) (hq : Request.format.accepts q request)
      (hfate : Fate policy connector q opens replies r remote) :
      Exit policy connector (passage ++ request) r (answers ++ replies.flatten)

section

variable {policy : Policy} {connector : Connector} {h : History}

/-- The exits of a negotiation that does not succeed. There is no exit for a write
that fails, as none does here. -/
theorem exit_of_unnegotiated {q : Halt (Except ProtocolError Method)}
    {r : Halt (Except ServiceError Unit)} (hway : Negotiation.Way policy False h q)
    (hr : Fails policy.handshakeTimeout "greeting" q r) :
    Exit policy connector h.receivedBytes r h.sentBytes := by
  -- A quiet stretch sends nothing, so only the messages are left of what was sent.
  cases hway with
  | cut hg hcut hbreak =>
    rw [hg.sentBytes_eq]
    exact .greetingCut hcut (hr.breaks hbreak)
  | refused hg hm hv =>
    cases hr
    rw [hg.sentBytes_eq, hm]
    exact .greetingVersion hv
  | unsent hf => exact hf.elim
  | @unacceptable g offer hg hm hs =>
    cases hr
    have hgot : History.receivedBytes (g ++ [.sent [version, Method.notAcceptable]])
        = offerMessage offer := by
      rw [History.receivedBytes_append, hm.2]
      exact List.append_nil _
    rw [hgot, History.sentBytes_append, hg.sentBytes_eq]
    exact .noMethod hm.1 hs
  | unauthenticated => cases hr
  | @tried g h offer q hg hm hs htrial =>
    have hgot : History.receivedBytes
        (g ++ .sent [version, Method.usernamePassword.toByte] :: h)
        = offerMessage offer ++ h.receivedBytes := by
      rw [History.receivedBytes_append, hm.2]
      rfl
    have hsent : History.sentBytes (g ++ .sent [version, Method.usernamePassword.toByte] :: h)
        = [version, Method.usernamePassword.toByte] ++ h.sentBytes := by
      rw [History.sentBytes_append, hg.sentBytes_eq]
      rfl
    rw [hgot, hsent]
    cases htrial with
    | @cut _ q hg' hcut hbreak =>
      rw [hg'.sentBytes_eq, List.append_nil]
      refine .credentialsCut hm.1 hs hcut (hr.breaks ?_)
      cases hbreak with
      | broken e => exact .broken e
      | late => exact .late
      | stuck => exact .stuck
    | granted => cases hr
    | @denied g' m hg' hm' hne entry =>
      cases hr
      have hgot' : History.receivedBytes (g' ++ [.sent [passwordVersion, 1], .noted entry])
          = g'.receivedBytes := by simp [History.receivedBytes]
      rw [hgot', History.sentBytes_append, hg'.sentBytes_eq]
      exact .denied hm.1 hs hm' hne
    | unsent hf => exact hf.elim

/-- The exits of a request that is not carried out. What the client is told is in
the table of `ProtocolError.reply?`. -/
theorem exit_of_unrequested {passage answers : Bytes} {e : ProtocolError} {got : Bytes}
    (hpassed : Passed policy passage answers) (he : Request.format.refuses e got) :
    Exit policy connector (passage ++ got) (.ended (.error (.protocol e)))
      (answers ++ match e.reply? with
        | some code => Reply.failureFrame code
        | none => []) := by
  obtain ⟨v, c, x, hv, rfl, rfl⟩ | ⟨c, x, _, ⟨b, hb, rfl, rfl⟩, rfl⟩ |
    ⟨c, x, a, m, hc, ha, rfl, rfl⟩ := he
  · simp only [ProtocolError.reply?, List.append_nil]
    exact .requestVersion hpassed hv
  · exact .addressType hpassed hb
  · exact .command hpassed hc ha

/-- Every way of a served connection without a failing write leads to an exit. The
ways list events, the exits count bytes; quiet stretches send nothing, and what is
opened takes nothing. -/
theorem Way.exit {r : Halt (Except ServiceError Unit)} {remote : Option Connection}
    (hway : Way policy connector False h r remote) :
    Exit policy connector h.receivedBytes r h.sentBytes := by
  cases hway with
  | unnegotiated hway hr => exact exit_of_unnegotiated hway hr
  | @unrequested h g method q r hway hg hstops hr hsilent =>
    rw [History.receivedBytes_append, History.sentBytes_append, hg.sentBytes_eq, List.append_nil]
    cases hstops with
    | accepted hm => cases hr
    | cut hcut hbreak => exact .requestCut hway.passed hcut (hr.breaks hbreak)
    | @refused e he =>
      cases hr
      -- An error that is told to nobody adds no frame.
      have hexit : Exit policy connector _ _ _ := exit_of_unrequested hway.passed he
      rw [hsilent e rfl] at hexit
      simpa using hexit
  | @rejected h g h' method e code hway hg hm hcode hdeeds =>
    -- No write fails, so the frame was sent as a whole.
    have hreply : h'.deeds = [.sent (Reply.failureFrame code)] :=
      hdeeds.resolve_right fun hf => hf.1
    have hexit : Exit policy connector _ _ _ := exit_of_unrequested hway.passed hm
    rw [hcode] at hexit
    rw [History.receivedBytes_append, History.receivedBytes_append, History.sentBytes_append,
      History.sentBytes_append, hg.sentBytes_eq, ← History.receivedBytes_deeds h',
      ← History.sentBytes_deeds h', hreply]
    simpa [History.receivedBytes, History.sentBytes] using hexit
  | @performed h g h' method q r remote hway hg hm hp =>
    cases hp with
    | cut hf => exact hf.elim
    | @through opens replies _ _ hfate hdeeds =>
      -- What is opened takes no bytes and sends none.
      have hopens : opens.receivedBytes = [] ∧ opens.sentBytes = [] := by
        cases hfate.opens <;> exact ⟨rfl, rfl⟩
      rw [History.receivedBytes_append, History.receivedBytes_append, History.sentBytes_append,
        History.sentBytes_append, hg.sentBytes_eq, ← History.receivedBytes_deeds h',
        ← History.sentBytes_deeds h', hdeeds, History.receivedBytes_append,
        History.sentBytes_append, hopens.1, hopens.2, History.receivedBytes_map_sent,
        History.sentBytes_map_sent]
      simpa using Exit.request hway.passed hm hfate

/-- Whether the client is told that no method is acceptable when none is
and only then, and that its credentials are refused likewise. -/
def ToldOfRefusal (r : Halt (Except ServiceError Unit)) (sent : Bytes) : Prop :=
  (r = .ended (.error (.protocol .noAcceptableMethod)) ↔
    sent = [version, Method.notAcceptable]) ∧
  (r = .ended (.error (.protocol .authFailed)) ↔
    sent = [version, Method.usernamePassword.toByte, passwordVersion, 1])

/-- Whether a connection stops for another reason than a refusal. -/
def NotRefused (r : Halt (Except ServiceError Unit)) : Prop :=
  r ≠ .ended (.error (.protocol .noAcceptableMethod)) ∧
    r ≠ .ended (.error (.protocol .authFailed))

/-- A request that was read is never refused by way of the negotiation. -/
theorem Fate.notRefused {q : Request} {opens : History} {replies : List Bytes}
    {r : Halt (Except ServiceError Unit)} {remote : Option Connection}
    (hfate : Fate policy connector q opens replies r remote) : NotRefused r := by
  cases hfate <;> simp [NotRefused]

/-- A message that does not come is no refusal either. -/
theorem Breaks.notRefused {seconds : Nat} {step : String} {r : Halt (Except ServiceError Unit)}
    (hr : Breaks seconds step r) : NotRefused r := by
  cases hr <;> simp [NotRefused]

/-- A negotiation that succeeds does not begin with the answers of one that fails.
So whatever follows it, the client cannot take it for a refusal. -/
theorem toldOfRefusal_of_passed {passage answers : Bytes} (more : Bytes)
    {r : Halt (Except ServiceError Unit)} (hpassed : Passed policy passage answers)
    (hr : NotRefused r) : ToldOfRefusal r (answers ++ more) := by
  -- The second byte, or else the fourth, tells them apart.
  have hne : answers ++ more ≠ [version, Method.notAcceptable] ∧
      answers ++ more ≠ [version, Method.usernamePassword.toByte, passwordVersion, 1] := by
    cases hpassed with
    | freely | authenticated => simp [Method.toByte, Method.notAcceptable, passwordVersion]
  exact ⟨iff_of_false hr.1 hne.1, iff_of_false hr.2 hne.2⟩

/-- At each exit the bytes that were sent say whether the client was refused. A
client that is cut off in the middle of its credentials has seen the selection
only, which is no refusal yet. -/
theorem Exit.toldOfRefusal {got sent : Bytes} {r : Halt (Except ServiceError Unit)}
    (hexit : Exit policy connector got r sent) : ToldOfRefusal r sent := by
  cases hexit with
  | greetingCut hcut hr =>
    exact ⟨iff_of_false hr.notRefused.1 (by simp), iff_of_false hr.notRefused.2 (by simp)⟩
  | greetingVersion hv => simp [ToldOfRefusal]
  | noMethod hlen hs => simp [ToldOfRefusal]
  | credentialsCut hlen hs hcut hr =>
    exact ⟨iff_of_false hr.notRefused.1 (by decide), iff_of_false hr.notRefused.2 (by decide)⟩
  | denied hlen hs hm hne => simp [ToldOfRefusal]
  | requestCut hpassed hcut hr =>
    simpa using toldOfRefusal_of_passed [] hpassed hr.notRefused
  | requestVersion hpassed hv =>
    simpa using toldOfRefusal_of_passed [] hpassed (by simp [NotRefused])
  | addressType hpassed hb => exact toldOfRefusal_of_passed _ hpassed (by simp [NotRefused])
  | command hpassed hc htarget =>
    exact toldOfRefusal_of_passed _ hpassed (by simp [NotRefused])
  | request hpassed hq hfate => exact toldOfRefusal_of_passed _ hpassed hfate.notRefused

end

/-- Reply discipline. In a run whose writes and flushes all succeed, the bytes
that are sent before any relay are those of the exit at which the run stops. The
two refusals of a negotiation are told exactly when they happen. -/
theorem exit_of_serve (policy : Policy) (connector : Connector) (client : Stream)
    (hdelivers : Delivers connector (serve policy) { stream := client }) :
    let p := (serve policy).run connector { stream := client }
    Exit policy connector p.scene.history.receivedBytes p.halt p.scene.history.sentBytes ∧
      ToldOfRefusal p.halt p.scene.history.sentBytes := by
  intro p
  obtain ⟨h, hh, hc⟩ := run_course connector False (serve policy) { stream := client } false
    (.inl hdelivers) (by simp)
  have hexit := (way_of_course hc).exit
  have hhistory : p.scene.history = h := by simpa using hh
  rw [hhistory]
  exact ⟨hexit, hexit.toldOfRefusal⟩

/-- A client that logs in and asks for datagrams to be relayed, which nobody
serves. -/
def datagramClient : Stream :=
  { script := [.bytes [5, 1, 2, 1, 1, 117, 1, 112], .bytes [5, 3, 0, 1, 127, 0, 0, 1, 0, 80]] }

/-- A client that sends another password than the configured one. -/
def guessingClient : Stream :=
  { script := [.bytes [5, 1, 2, 1, 1, 117, 1, 113]] }

/-- Three clients of one server, and all that they are told. The first one is
granted its request and the second one is refused it, in both cases after the two
answers of a login. The third one is refused the login, and its result follows from
what it is told. -/
theorem exit_of_login :
    (let p := (serve loginPolicy).run readyConnector { stream := loginClient }
    Exit loginPolicy readyConnector p.scene.history.receivedBytes p.halt
      [5, 2, 1, 0, 5, 0, 0, 1, 10, 0, 0, 1, 15, 160]) ∧
    (let p := (serve loginPolicy).run readyConnector { stream := datagramClient }
    Exit loginPolicy readyConnector p.scene.history.receivedBytes p.halt
      [5, 2, 1, 0, 5, 7, 0, 1, 0, 0, 0, 0, 0, 0]) ∧
    (let p := (serve loginPolicy).run readyConnector { stream := guessingClient }
    p.scene.history.sentBytes = [5, 2, 1, 1] ∧
      p.halt = .ended (.error (.protocol .authFailed))) := by
  refine ⟨?_, ?_, ?_⟩
  · have hexit := (exit_of_serve loginPolicy readyConnector loginClient
      (delivers_of_sure readyConnector (serve loginPolicy) { stream := loginClient }
        ⟨rfl, rfl⟩)).1
    have hsent : ((serve loginPolicy).run readyConnector
        { stream := loginClient }).scene.history.sentBytes
        = [5, 2, 1, 0, 5, 0, 0, 1, 10, 0, 0, 1, 15, 160] := by decide +kernel
    rwa [hsent] at hexit
  · -- The request is for a datagram relay, which no server offers.
    have hexit := (exit_of_serve loginPolicy readyConnector datagramClient
      (delivers_of_sure readyConnector (serve loginPolicy) { stream := datagramClient }
        ⟨rfl, rfl⟩)).1
    have hsent : ((serve loginPolicy).run readyConnector
        { stream := datagramClient }).scene.history.sentBytes
        = [5, 2, 1, 0, 5, 7, 0, 1, 0, 0, 0, 0, 0, 0] := by decide +kernel
    rwa [hsent] at hexit
  · -- Read backwards: that the login was refused follows from the bytes sent.
    have htold := (exit_of_serve loginPolicy readyConnector guessingClient
      (delivers_of_sure readyConnector (serve loginPolicy) { stream := guessingClient }
        ⟨rfl, rfl⟩)).2
    have hsent : ((serve loginPolicy).run readyConnector
        { stream := guessingClient }).scene.history.sentBytes = [5, 2, 1, 1] := by
      decide +kernel
    exact ⟨hsent, htold.2.mpr hsent⟩

end Server

end Socks5
