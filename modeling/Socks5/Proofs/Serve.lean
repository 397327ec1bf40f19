import Socks5.Proofs.Negotiation
import Socks5.Server

/-!
# `Socks5.Proofs.Serve`: the ways of a served connection

`Server.Fate` lists how a request can turn out when writing does not
fail: what is dialed or listened for, which reply frames are sent, where
it stops and which connection is open then. `Server.Performed` adds what
failing writes make of it: some fate is followed up to a frame of which
only a front is delivered, and there it ends with an error.

`Server.Way` puts negotiation, request and fate together, and
`way_of_course` says that a served connection goes one of these ways.
-/

set_option autoImplicit false

namespace Socks5

open Net Dialogue

/-! ### Deeds -/

namespace History

/-- A history without the entries of the log. -/
def deeds (h : History) : History :=
  h.filter fun
    | .noted _ => false
    | _ => true

/-- Where nothing happened nothing was done. -/
@[simp] theorem deeds_nil : deeds [] = [] := rfl

/-- The deeds of two parts of a history, one after the other. -/
@[simp] theorem deeds_append (g h : History) : deeds (g ++ h) = deeds g ++ deeds h :=
  List.filter_append ..

/-- A note is no deed. -/
@[simp] theorem deeds_noted (entry : Log.Entry) (h : History) :
    deeds (.noted entry :: h) = deeds h := rfl

/-- Taking bytes is a deed. -/
@[simp] theorem deeds_received (bs : Bytes) (h : History) :
    deeds (.received bs :: h) = .received bs :: deeds h := rfl

/-- Sending bytes is a deed. -/
@[simp] theorem deeds_sent (bs : Bytes) (h : History) :
    deeds (.sent bs :: h) = .sent bs :: deeds h := rfl

/-- Dialing is a deed. -/
@[simp] theorem deeds_dialed (target : Address) (h : History) :
    deeds (.dialed target :: h) = .dialed target :: deeds h := rfl

/-- Asking for a listener is a deed. -/
@[simp] theorem deeds_listened (target : Address) (h : History) :
    deeds (.listened target :: h) = .listened target :: deeds h := rfl

/-- The bytes that were taken are known from the deeds. -/
theorem receivedBytes_deeds (h : History) : h.deeds.receivedBytes = h.receivedBytes := by
  induction h with
  | nil => rfl
  | cons e h ih => cases e <;> simp [receivedBytes, ih]

/-- The bytes that were sent are known from the deeds. -/
theorem sentBytes_deeds (h : History) : h.deeds.sentBytes = h.sentBytes := by
  induction h with
  | nil => rfl
  | cons e h ih => cases e <;> simp [sentBytes, ih]

/-- What was dialed is known from the deeds. -/
theorem dialed_deeds (h : History) : h.deeds.dialed = h.dialed := by
  rw [dialed, deeds, List.filterMap_filter]
  congr 1
  funext e
  cases e <;> rfl

/-- What was listened for is known from the deeds. -/
theorem listened_deeds (h : History) : h.deeds.listened = h.listened := by
  rw [listened, deeds, List.filterMap_filter]
  congr 1
  funext e
  cases e <;> rfl

/-- Messages dial nothing. -/
theorem dialed_map_sent (frames : List Bytes) : dialed (frames.map .sent) = [] := by
  rw [dialed, List.filterMap_map]
  exact List.filterMap_eq_nil_iff.mpr fun _ _ => rfl

/-- Messages listen for nothing. -/
theorem listened_map_sent (frames : List Bytes) : listened (frames.map .sent) = [] := by
  rw [listened, List.filterMap_map]
  exact List.filterMap_eq_nil_iff.mpr fun _ _ => rfl

/-- Messages that are sent one after the other are their bytes in a row. -/
theorem sentBytes_map_sent (frames : List Bytes) :
    sentBytes (frames.map .sent) = frames.flatten := by
  induction frames with
  | nil => rfl
  | cons frame frames ih => simp [sentBytes, ih]

/-- Messages that are sent take nothing from the stream. -/
theorem receivedBytes_map_sent (frames : List Bytes) :
    receivedBytes (frames.map .sent) = [] := by
  induction frames with
  | nil => rfl
  | cons frame frames ih => simp [receivedBytes, ih]

end History

/-! ### Reply frames -/

/-- The frame of an endpoint in a message. -/
def Net.Endpoint.frame : Endpoint → Bytes
  | .v4 a p => AddressType.ipv4.toByte :: a.octets ++ bigEndian p
  | .v6 a p _ _ => AddressType.ipv6.toByte :: a.octets ++ bigEndian p

/-- The address of an endpoint always has a frame, unlike a name. -/
theorem Address.encode_ip_eq (e : Endpoint) : (Address.ip e).encode = .ok e.frame := by
  cases e <;> rfl

namespace Reply

/-- The bytes of a failure reply. -/
def failureFrame (code : ReplyCode) : Bytes := [version, code.toByte, 0, 1, 0, 0, 0, 0, 0, 0]

/-- The frames of the nine codes on the wire: they differ in their second byte, which
is the place of the code in the table, and carry the address 0.0.0.0:0. -/
theorem failureFrame_assigned (i : Nat) (h : i < ReplyCode.assigned.length) :
    failureFrame ReplyCode.assigned[i] = [5, UInt8.ofNat i, 0, 1, 0, 0, 0, 0, 0, 0] := by
  rw [failureFrame, ReplyCode.toByte_assigned i h]
  rfl

/-- The bytes of a success reply. -/
def successFrame (bound : Endpoint) : Bytes := [version, 0, 0] ++ bound.frame

/-- A failure reply is sent as its frame. It has one, since its address is not a
name, so the error for a reply without bytes does not come up. -/
theorem send_failure (code : ReplyCode) :
    (failure code).send = Exchange.send (failureFrame code) := rfl

/-- A success reply is sent as its frame, likewise. -/
theorem send_success (bound : Endpoint) :
    (success (.ip bound)).send = Exchange.send (successFrame bound) := by
  cases bound <;> rfl

end Reply

/-! ### Fates of a request -/

namespace Connector

/-- What comes of a wish to listen. -/
def listenFor (connector : Connector) (target : Address) : Except IoError Listener :=
  match connector.listen with
  | none => .error noListener
  | some openListener => openListener target

/-- What is seen of a wish to listen. -/
def listening (connector : Connector) (target : Address) : History :=
  if connector.listen.isSome then [.listened target] else []

end Connector

namespace Server

/-- How a request turns out when writing does not fail: what is opened,
the frames of the replies, where it stops and the connection that is open
then. -/
inductive Fate (policy : Policy) (connector : Connector) (q : Request) :
    History → List Bytes → Halt (Except ServiceError Unit) → Option Connection → Prop where
  | unserved (hq : q.command = .udpAssociate ∨ q.command = .bind ∧ policy.allowBind = false) :
      Fate policy connector q [] [Reply.failureFrame .commandNotSupported]
        (.ended (.error (.protocol (.commandNotSupported q.command.toByte)))) none
  | dialFailed {seconds : Nat} {e : IoError} (hq : q.command = .connect)
      (hdial : connector.dial q.address = .settled seconds (.error e)) :
      Fate policy connector q [.dialed q.address] [Reply.failureFrame (.ofIoError e)]
        (.ended (.error (.io e))) none
  | dialLate (hq : q.command = .connect) :
      Fate policy connector q [.dialed q.address] [Reply.failureFrame .hostUnreachable]
        (.ended (.error (.timeout s!"connect to {q.address.toText}"))) none
  | dialStuck (hq : q.command = .connect) (hdial : connector.dial q.address = .never) :
      Fate policy connector q [.dialed q.address] [] .stuck none
  | connected {seconds : Nat} {c : Connection} (hq : q.command = .connect)
      (hdial : connector.dial q.address = .settled seconds (.ok c)) :
      Fate policy connector q [.dialed q.address] [Reply.successFrame c.endpoint]
        (.ended (.ok ())) (some c)
  | listenFailed {e : IoError} (hq : q.command = .bind) (hbind : policy.allowBind = true)
      (hlisten : connector.listenFor q.address = .error e) :
      Fate policy connector q (connector.listening q.address)
        [Reply.failureFrame (.ofIoError e)] (.ended (.error (.io e))) none
  | acceptFailed {l : Listener} {seconds : Nat} {e : IoError} (hq : q.command = .bind)
      (hbind : policy.allowBind = true) (hlisten : connector.listenFor q.address = .ok l)
      (hpeer : l.peer = .settled seconds (.error e)) :
      Fate policy connector q (connector.listening q.address)
        [Reply.successFrame l.endpoint, Reply.failureFrame .generalFailure]
        (.ended (.error (.io e))) none
  | acceptLate {l : Listener} (hq : q.command = .bind) (hbind : policy.allowBind = true)
      (hlisten : connector.listenFor q.address = .ok l) :
      Fate policy connector q (connector.listening q.address)
        [Reply.successFrame l.endpoint, Reply.failureFrame .ttlExpired]
        (.ended (.error (.timeout s!"BIND accept on {l.endpoint.toText}"))) none
  | acceptStuck {l : Listener} (hq : q.command = .bind) (hbind : policy.allowBind = true)
      (hlisten : connector.listenFor q.address = .ok l) (hpeer : l.peer = .never) :
      Fate policy connector q (connector.listening q.address)
        [Reply.successFrame l.endpoint] .stuck none
  | peerRefused {l : Listener} {seconds : Nat} {c : Connection} (hq : q.command = .bind)
      (hbind : policy.allowBind = true) (hlisten : connector.listenFor q.address = .ok l)
      (hpeer : l.peer = .settled seconds (.ok c))
      (hallowed : peerAllowed q.address c.endpoint = false) :
      Fate policy connector q (connector.listening q.address)
        [Reply.successFrame l.endpoint, Reply.failureFrame .connectionNotAllowed]
        (.ended (.error (.protocol (.rejected .connectionNotAllowed)))) (some c)
  | peerWelcome {l : Listener} {seconds : Nat} {c : Connection} (hq : q.command = .bind)
      (hbind : policy.allowBind = true) (hlisten : connector.listenFor q.address = .ok l)
      (hpeer : l.peer = .settled seconds (.ok c))
      (hallowed : peerAllowed q.address c.endpoint = true) :
      Fate policy connector q (connector.listening q.address)
        [Reply.successFrame l.endpoint, Reply.successFrame c.endpoint] (.ended (.ok ())) (some c)

/-- What becomes of a request: its fate is followed to the end, or up to a
frame of which only a front can be delivered. -/
inductive Performed (policy : Policy) (connector : Connector) (faulty : Prop) (q : Request)
    (h : History) : Halt (Except ServiceError Unit) → Option Connection → Prop where
  | through {opens : History} {replies : List Bytes} {r : Halt (Except ServiceError Unit)}
      {remote : Option Connection} (hfate : Fate policy connector q opens replies r remote)
      (hdeeds : h.deeds = opens ++ replies.map .sent) :
      Performed policy connector faulty q h r remote
  | cut {opens : History} {front rest : List Bytes} {frame part : Bytes}
      {r : Halt (Except ServiceError Unit)} {remote remote' : Option Connection} (hf : faulty)
      (hfate : Fate policy connector q opens (front ++ frame :: rest) r remote)
      (hpart : part <+: frame) (hdeeds : h.deeds = opens ++ front.map .sent ++ [.sent part])
      (e : ServiceError) : Performed policy connector faulty q h (.ended (.error e)) remote'

section

variable {policy : Policy} {connector : Connector} {faulty : Prop} {armed : Bool} {o o' : Held}
  {h : History}

/-- A failure is told as far as it can be, and the error is the given one either
way. A write that fails here only adds a note. -/
theorem course_of_failWith {code : ReplyCode} {e : ServiceError}
    {r : Halt (Except ServiceError Unit)}
    (hc : Course connector faulty (failWith code e) armed o h r o') :
    r = .ended (.error e) ∧ o' = o ∧
      (h.deeds = [.sent (Reply.failureFrame code)] ∨
        faulty ∧ ∃ part, part <+: Reply.failureFrame code ∧ h.deeds = [.sent part]) := by
  obtain ⟨_, rfl, rfl, rfl, rfl⟩ | ⟨hf, part, _, _, hpart, rfl, _, rfl, rfl, rfl, rfl⟩ := hc
  · exact ⟨rfl, rfl, .inl rfl⟩
  · exact ⟨rfl, rfl, .inr ⟨hf, part, hpart, rfl⟩⟩

/-- A request is granted by a frame, and then it goes on. Unlike a failure, a
grant that cannot be sent replaces the result by the error of the write. -/
theorem course_of_grant {bound : Endpoint} {next : Dialogue (Except ServiceError Unit)}
    {r : Halt (Except ServiceError Unit)}
    (hc : Course connector faulty (grant bound next) armed o h r o') :
    (∃ h', h = .sent (Reply.successFrame bound) :: h' ∧
      Course connector faulty next armed o h' r o') ∨
    faulty ∧ ∃ part e, part <+: Reply.successFrame bound ∧ h = [.sent part] ∧
      r = .ended (.error (.protocol (.io e))) ∧ o' = o := by
  rw [grant, Reply.send_success] at hc
  obtain ⟨h', rfl, hc⟩ | ⟨hf, part, e, _, hpart, rfl, rfl, rfl, rfl⟩ := hc
  · exact .inl ⟨h', rfl, hc⟩
  · exact .inr ⟨hf, part, e, hpart, rfl, rfl, rfl⟩

/-- The fates of a failure that is told at the end, whatever was opened and sent
before it. All failures but those of `rejected` come about like this. -/
theorem Performed.of_failWith {q : Request} {opens : History} (front : List Bytes)
    {code : ReplyCode} {e : ServiceError} {r : Halt (Except ServiceError Unit)}
    {remote : Option Connection} {g : History}
    (hfate : Fate policy connector q opens (front ++ [Reply.failureFrame code])
      (.ended (.error e)) remote)
    (hg : g.deeds = opens ++ front.map .sent)
    (hc : Course connector faulty (failWith code e) armed o h r o') :
    Performed policy connector faulty q (g ++ h) r remote ∧ o' = o := by
  obtain ⟨rfl, rfl, hdeeds | ⟨hf, part, hpart, hdeeds⟩⟩ := course_of_failWith hc
  · exact ⟨.through hfate (by simp [hg, hdeeds]), rfl⟩
  · exact ⟨.cut hf hfate hpart (by simp [hg, hdeeds]) _, rfl⟩

/-- The fates of a grant after which nothing can fail any more: the connection is
open, and only a note follows. -/
theorem Performed.of_grant {q : Request} {opens : History} (front : List Bytes)
    {bound : Endpoint} {entry : Log.Entry} {r : Halt (Except ServiceError Unit)}
    {remote : Option Connection} {g : History}
    (hfate : Fate policy connector q opens (front ++ [Reply.successFrame bound])
      (.ended (.ok ())) remote)
    (hg : g.deeds = opens ++ front.map .sent)
    (hc : Course connector faulty (grant bound (.note entry (.done (.ok ())))) armed o h r o') :
    Performed policy connector faulty q (g ++ h) r remote ∧ o' = o := by
  obtain ⟨_, rfl, _, rfl, rfl, rfl, rfl⟩ | ⟨hf, part, e, hpart, rfl, rfl, rfl⟩ :=
    course_of_grant hc
  · exact ⟨.through hfate (by simp [hg]), rfl⟩
  · exact ⟨.cut hf hfate hpart (by simp [hg]) _, rfl⟩

/-- A dial under a deadline that the answer lifts: the attempt is settled, or
nothing comes of it, or the deadline passes. What follows the answer is never
late. -/
theorem course_of_dial {α : Type} {seconds : Nat} {late : Dialogue α} {target : Address}
    {k : Except IoError Endpoint → Dialogue α} {r : Halt α}
    (hc : Course connector faulty (.within seconds late (.dial target fun a => .release (k a)))
      armed o h r o') :
    ∃ h', h = .dialed target :: h' ∧
      ((∃ n c, connector.dial target = .settled n (.ok c) ∧
          Course connector faulty (k (.ok c.endpoint)) false { o with remote := some c } h' r o') ∨
        (∃ n e, connector.dial target = .settled n (.error e) ∧
          Course connector faulty (k (.error e)) false o h' r o') ∨
        (connector.dial target = .never ∧ h' = [] ∧ r = .stuck ∧ o' = o) ∨
        Course connector faulty late false o h' r o') := by
  obtain ⟨⟨h', rfl, hdial⟩, hr⟩ | ⟨h₁, h₂, o₁, rfl, ⟨h', rfl, hdial⟩, hlate⟩ := hc
  · refine ⟨h', rfl, ?_⟩
    obtain ⟨n, c, hd, hc⟩ | ⟨n, e, hd, hc⟩ | ⟨hh, ho, ⟨hd, hs⟩ | ⟨-, hs⟩⟩ := hdial
    · exact .inl ⟨n, c, hd, hc⟩
    · exact .inr (.inl ⟨n, e, hd, hc⟩)
    · exact .inr (.inr (.inl ⟨hd, hh, hs, ho⟩))
    · exact absurd hs hr
  · -- Only the wait itself can be late: the answer lifts the deadline.
    obtain ⟨_, _, -, hc⟩ | ⟨_, _, -, hc⟩ | ⟨rfl, rfl, -⟩ := hdial
    · exact absurd rfl (Course.ne_late (x := k _) hc)
    · exact absurd rfl (Course.ne_late (x := k _) hc)
    · exact ⟨h₂, rfl, .inr (.inr (.inr hlate))⟩

/-- The wait for a peer at a listener, likewise. The listener was opened before,
so it is at hand. -/
theorem course_of_accept {α : Type} {seconds : Nat} {late : Dialogue α} {l : Listener}
    {k : Except IoError Endpoint → Dialogue α} {r : Halt α} (hl : o.listener = some l)
    (hc : Course connector faulty (.within seconds late (.accept fun a => .release (k a)))
      armed o h r o') :
    (∃ n c, l.peer = .settled n (.ok c) ∧
      Course connector faulty (k (.ok c.endpoint)) false { o with remote := some c } h r o') ∨
    (∃ n e, l.peer = .settled n (.error e) ∧
      Course connector faulty (k (.error e)) false o h r o') ∨
    (l.peer = .never ∧ h = [] ∧ r = .stuck ∧ o' = o) ∨
    Course connector faulty late false o h r o' := by
  obtain ⟨listener, remote⟩ := o
  subst hl
  obtain ⟨haccept, hr⟩ | ⟨h₁, h₂, o₁, rfl, haccept, hlate⟩ := hc
  · obtain ⟨n, c, hp, hc⟩ | ⟨n, e, hp, hc⟩ | ⟨hh, ho, ⟨hp, hs⟩ | ⟨-, hs⟩⟩ := haccept
    · exact .inl ⟨n, c, hp, hc⟩
    · exact .inr (.inl ⟨n, e, hp, hc⟩)
    · exact .inr (.inr (.inl ⟨hp, hh, hs, ho⟩))
    · -- The deadline has passed, so this is no run that ended before it.
      exact absurd hs hr
  · -- The deadline has passed. A wait that was over releases it first, so the wait was
    -- not over, and the run goes on with `late`.
    obtain ⟨_, _, -, hc⟩ | ⟨_, _, -, hc⟩ | ⟨rfl, rfl, -⟩ := haccept
    · exact absurd rfl (Course.ne_late (x := k _) hc)
    · exact absurd rfl (Course.ne_late (x := k _) hc)
    · exact .inr (.inr (.inr hlate))

/-- What follows a dial. -/
def afterDial (target : Address) : Except IoError Endpoint → Dialogue (Except ServiceError Unit)
  | .ok bound =>
    grant bound (log .info s!"SOCKS5 tunnel established to {target.toText}" (.done (.ok ())))
  | .error e =>
    let code := ReplyCode.ofIoError e
    log .error s!"Failed to connect to {target.toText}: {e.message} ({code.text})"
      (failWith code (.io e))

/-- A CONNECT with its continuation under a name, so that what follows the dial
can be spoken of. -/
theorem connect_eq (policy : Policy) (target : Address) :
    connect policy target = .within policy.connectTimeout
      (log .error s!"Connection timeout to {target.toText}"
        (failWith .hostUnreachable (.timeout s!"connect to {target.toText}")))
      (.dial target fun a => .release (afterDial target a)) := by
  unfold connect
  congr 2
  funext a
  cases a <;> rfl

/-- A CONNECT is dialed for, and the result is told. Its four fates are the four
ends of a dial under a deadline. -/
theorem performed_of_connect {q : Request} (hq : q.command = .connect)
    {r : Halt (Except ServiceError Unit)}
    (hc : Course connector faulty (connect policy q.address) armed {} h r o') :
    Performed policy connector faulty q h r o'.remote := by
  rw [connect_eq] at hc
  obtain ⟨h', rfl, ⟨_, c, hdial, hgrant⟩ | ⟨_, e, hdial, h', rfl, hfail⟩ |
    ⟨hdial, rfl, rfl, rfl⟩ | ⟨h', rfl, hfail⟩⟩ := course_of_dial hc
  · obtain ⟨hp, rfl⟩ := Performed.of_grant [] (g := [.dialed q.address])
      (.connected hq hdial) rfl hgrant
    exact hp
  · obtain ⟨hp, rfl⟩ := Performed.of_failWith [] (g := [.dialed q.address, .noted _])
      (.dialFailed hq hdial) rfl hfail
    exact hp
  · exact .through (.dialStuck hq hdial) rfl
  · obtain ⟨hp, rfl⟩ := Performed.of_failWith [] (g := [.dialed q.address, .noted _])
      (.dialLate hq) rfl hfail
    exact hp

/-- What follows the wait for a peer. -/
def afterAccept (target : Address) : Except IoError Endpoint → Dialogue (Except ServiceError Unit)
  | .ok peer => welcome target peer
  | .error e =>
    log .error s!"BIND accept failed: {e.message}" (failWith .generalFailure (.io e))

/-- What follows a wish to listen. -/
def afterListen (policy : Policy) (target : Address) :
    Except IoError Endpoint → Dialogue (Except ServiceError Unit)
  | .error e =>
    log .error s!"Failed to open BIND listener: {e.message}" (failWith (.ofIoError e) (.io e))
  | .ok bound =>
    grant bound <| log .debug s!"BIND listening on {bound.toText} for {target.toText}" <|
      .within policy.connectTimeout
        (log .warn s!"No inbound connection on {bound.toText} before deadline"
          (failWith .ttlExpired (.timeout s!"BIND accept on {bound.toText}")))
        (.accept fun a => .release (afterAccept target a))

/-- A BIND with its continuations under names. What comes after the listener and
after the peer can so be treated by lemmas of their own. -/
theorem bind_eq (policy : Policy) (target : Address) :
    bind policy target = .listen target (afterListen policy target) := by
  unfold bind
  congr 1
  funext a
  cases a with
  | error e => rfl
  | ok bound =>
    dsimp only [afterListen]
    congr 4
    funext a
    cases a <;> rfl

/-- A wish to listen comes out as the connector says. A connector without
listeners refuses without a mark. -/
theorem course_of_listen {α : Type} {target : Address}
    {k : Except IoError Endpoint → Dialogue α} {r : Halt α}
    (hc : Course connector faulty (.listen target k) armed o h r o') :
    ∃ h', h = connector.listening target ++ h' ∧
      match connector.listenFor target with
      | .ok l =>
        Course connector faulty (k (.ok l.endpoint)) armed { o with listener := some l } h' r o'
      | .error e => Course connector faulty (k (.error e)) armed o h' r o' := by
  unfold Connector.listening Connector.listenFor
  unfold Course at hc
  cases hl : connector.listen with
  | none =>
    rw [hl] at hc
    exact ⟨h, rfl, hc⟩
  | some openListener =>
    rw [hl] at hc
    obtain ⟨h', rfl, hc⟩ := hc
    exact ⟨h', rfl, hc⟩

/-- A wish to listen leaves a deed or nothing, and never a note. -/
@[simp] theorem deeds_listening (target : Address) :
    (connector.listening target).deeds = connector.listening target := by
  unfold Connector.listening
  split <;> rfl

/-- A BIND is listened for, one peer may come, and both are told. The first reply
says where the server listens, and every fate but that of a refused listener
begins with it. -/
theorem performed_of_bind {q : Request} (hq : q.command = .bind) (hbind : policy.allowBind = true)
    {r : Halt (Except ServiceError Unit)}
    (hc : Course connector faulty (bind policy q.address) armed {} h r o') :
    Performed policy connector faulty q h r o'.remote := by
  rw [bind_eq] at hc
  obtain ⟨h, rfl, hlistened⟩ := course_of_listen hc
  cases hlisten : connector.listenFor q.address with
  | error e =>
    rw [hlisten] at hlistened
    obtain ⟨h', rfl, hfail⟩ := hlistened
    obtain ⟨hp, rfl⟩ := Performed.of_failWith []
      (g := connector.listening q.address ++ [.noted _]) (.listenFailed hq hbind hlisten)
      (by simp) hfail
    simpa using hp
  | ok l =>
    rw [hlisten] at hlistened
    obtain ⟨_, rfl, h', rfl, haccept⟩ | ⟨hf, part, e, hpart, rfl, rfl, rfl⟩ :=
      course_of_grant hlistened
    · -- The first reply and the note come before all that follows.
      generalize hg : connector.listening q.address ++
        [.sent (Reply.successFrame l.endpoint), .noted _] = g
      have hdeeds : g.deeds = connector.listening q.address ++
          [Reply.successFrame l.endpoint].map .sent := by simp [← hg]
      suffices Performed policy connector faulty q (g ++ h') r o'.remote by simpa [← hg] using this
      obtain ⟨_, c, hpeer, hwelcome⟩ | ⟨_, e, hpeer, h', rfl, hfail⟩ | ⟨hpeer, rfl, rfl, rfl⟩ |
        ⟨h', rfl, hfail⟩ := course_of_accept rfl haccept
      · change Course connector faulty (welcome q.address c.endpoint) _ _ _ _ _ at hwelcome
        unfold welcome at hwelcome
        split at hwelcome
        · rename_i hallowed
          obtain ⟨hp, rfl⟩ := Performed.of_grant [_]
            (.peerWelcome hq hbind hlisten hpeer hallowed) hdeeds hwelcome
          exact hp
        · rename_i hallowed
          obtain ⟨h', rfl, hfail⟩ := hwelcome
          obtain ⟨hp, rfl⟩ := Performed.of_failWith [_] (g := g ++ [.noted _])
            (.peerRefused hq hbind hlisten hpeer (by simpa using hallowed))
            (by simpa using hdeeds) hfail
          simpa using hp
      · obtain ⟨hp, rfl⟩ := Performed.of_failWith [_] (g := g ++ [.noted _])
          (.acceptFailed hq hbind hlisten hpeer) (by simpa using hdeeds) hfail
        simpa using hp
      · exact .through (.acceptStuck hq hbind hlisten hpeer) (by simpa using hdeeds)
      · obtain ⟨hp, rfl⟩ := Performed.of_failWith [_] (g := g ++ [.noted _])
          (.acceptLate hq hbind hlisten) (by simpa using hdeeds) hfail
        simpa using hp
    · -- Every fate of a listener begins with this frame.
      have hfate : Fate policy connector q (connector.listening q.address)
          ([] ++ Reply.successFrame l.endpoint :: [Reply.failureFrame .ttlExpired]) _ none :=
        .acceptLate hq hbind hlisten
      exact .cut hf hfate hpart (by simp) _

/-- A known command that is not served is told so, and nothing is opened. These
are the datagram relays, and BIND where it is not allowed. -/
theorem performed_of_refuse {q : Request}
    (hq : q.command = .udpAssociate ∨ q.command = .bind ∧ policy.allowBind = false)
    {r : Halt (Except ServiceError Unit)}
    (hc : Course connector faulty (refuse q.command) armed {} h r o') :
    Performed policy connector faulty q h r o'.remote := by
  obtain ⟨h', rfl, hfail⟩ := hc
  obtain ⟨hp, rfl⟩ := Performed.of_failWith [] (g := [.noted _]) (.unserved hq) rfl hfail
  exact hp

/-- A request that was read is performed, whatever its command is. The note at the
beginning is no deed, so the fates do not mention it. -/
theorem performed_of_perform {q : Request} {r : Halt (Except ServiceError Unit)}
    (hc : Course connector faulty (perform policy q) armed {} h r o') :
    Performed policy connector faulty q h r o'.remote := by
  obtain ⟨h', rfl, hrest⟩ := hc
  -- The note in front is no deed, so it can be left out of the history.
  suffices hp : Performed policy connector faulty q h' r o'.remote by
    cases hp with
    | through hfate hdeeds => exact .through hfate hdeeds
    | cut hf hfate hpart hdeeds e => exact .cut hf hfate hpart (by simpa using hdeeds) e
  have hrefuse := @performed_of_refuse policy connector faulty armed o' h' q
  cases hq : q.command with
  | connect =>
    rw [hq] at hrest
    exact performed_of_connect hq hrest
  | bind =>
    simp only [hq] at hrest hrefuse
    split at hrest
    · rename_i hbind
      exact performed_of_bind hq hbind hrest
    · rename_i hbind
      -- A server that does not allow it refuses a BIND as it refuses a datagram relay.
      exact hrefuse (.inr ⟨trivial, by simpa using hbind⟩) hrest
  | udpAssociate =>
    simp only [hq] at hrest hrefuse
    exact hrefuse (.inl trivial) hrest

end

/-! ### The whole service -/

/-- How the service stops at a step of the negotiation that does not
succeed. -/
inductive Fails {α : Type} (seconds : Nat) (step : String) :
    Halt (Except ProtocolError α) → Halt (Except ServiceError Unit) → Prop where
  | broken (e : ProtocolError) :
      Fails seconds step (.ended (.error e)) (.ended (.error (.protocol e)))
  | late : Fails seconds step .late
      (.ended (.error (.timeout s!"{step} not completed within {secondsText seconds}")))
  | stuck : Fails seconds step .stuck .stuck

/-- The ways of a served connection. -/
inductive Way (policy : Policy) (connector : Connector) (faulty : Prop) :
    History → Halt (Except ServiceError Unit) → Option Connection → Prop where
  /-- The negotiation does not succeed. -/
  | unnegotiated {h : History} {q : Halt (Except ProtocolError Method)}
      {r : Halt (Except ServiceError Unit)} (hway : Negotiation.Way policy faulty h q)
      (hr : Fails policy.handshakeTimeout "greeting" q r) : Way policy connector faulty h r none
  /-- The request does not come, or the client is told nothing. -/
  | unrequested {h g : History} {method : Method} {q : Halt (Except ProtocolError Request)}
      {r : Halt (Except ServiceError Unit)}
      (hway : Negotiation.Way policy faulty h (.ended (.ok method))) (hg : g.IsQuiet)
      (hstops : Request.format.Stops g.receivedBytes q)
      (hr : Fails policy.handshakeTimeout "request" q r)
      (hsilent : ∀ e, q = .ended (.error e) → e.reply? = none) :
      Way policy connector faulty (h ++ g) r none
  /-- The request is refused and the client is told why. -/
  | rejected {h g h' : History} {method : Method} {e : ProtocolError} {code : ReplyCode}
      (hway : Negotiation.Way policy faulty h (.ended (.ok method))) (hg : g.IsQuiet)
      (hm : Request.format.refuses e g.receivedBytes) (hcode : e.reply? = some code)
      (hdeeds : h'.deeds = [.sent (Reply.failureFrame code)] ∨
        faulty ∧ ∃ part, part <+: Reply.failureFrame code ∧ h'.deeds = [.sent part]) :
      Way policy connector faulty (h ++ g ++ h') (.ended (.error (.protocol e))) none
  /-- The request is carried out. -/
  | performed {h g h' : History} {method : Method} {q : Request}
      {r : Halt (Except ServiceError Unit)} {remote : Option Connection}
      (hway : Negotiation.Way policy faulty h (.ended (.ok method))) (hg : g.IsQuiet)
      (hm : Request.format.accepts q g.receivedBytes)
      (hp : Performed policy connector faulty q h' r remote) :
      Way policy connector faulty (h ++ g ++ h') r remote

section

variable {policy : Policy} {connector : Connector} {faulty : Prop} {armed : Bool} {o o' : Held}
  {h : History}

/-- How a step under a deadline goes on: what follows is under no deadline, and
the errors of the step are those of the service. -/
theorem withDeadline_bind {α β : Type} (seconds : Nat) (step : String) (x : Exchange α)
    (f : Except ServiceError α → Dialogue β) :
    (withDeadline seconds step x).run.bind f = .within seconds
      (f (.error (.timeout s!"{step} not completed within {secondsText seconds}")))
      (x.run.bind fun r => .release (f (r.mapError .protocol))) := by
  show Dialogue.within _ _ (Dialogue.bind f (Dialogue.bind _ x.run)) = _
  rw [bind_bind]
  congr 2
  funext r
  cases r <;> rfl

/-- A step under a deadline comes to its end, and the deadline is lifted for what
follows; or it is late, or it is stuck. It opens nothing, so what follows holds
what the step has held. -/
theorem course_of_withDeadline {α β : Type} {seconds : Nat} {step : String} {x : Exchange α}
    {f : Except ServiceError α → Dialogue β} {r : Halt β} (hx : x.run.Plain)
    (hc : Course connector faulty ((withDeadline seconds step x).run.bind f) armed o h r o') :
    ∃ h₁ q, Course connector faulty x.run true o h₁ q o ∧
      match q with
      | .ended (.ok a) => ∃ h₂, h = h₁ ++ h₂ ∧ Course connector faulty (f (.ok a)) false o h₂ r o'
      | .ended (.error e) =>
        ∃ h₂, h = h₁ ++ h₂ ∧ Course connector faulty (f (.error (.protocol e))) false o h₂ r o'
      | .late => ∃ h₂, h = h₁ ++ h₂ ∧ Course connector faulty
          (f (.error (.timeout s!"{step} not completed within {secondsText seconds}")))
          false o h₂ r o'
      | .stuck => h = h₁ ∧ r = .stuck ∧ o' = o := by
  rw [withDeadline_bind] at hc
  obtain ⟨hstep, hr⟩ | ⟨h₁, h₂, o₁, rfl, hstep, hlate⟩ := hc
  · obtain ⟨h₁, q, hx, hq⟩ := Course.of_bind hx hstep
    refine ⟨h₁, q, hx, ?_⟩
    match q, hq with
    | .ended (.ok a), hq => exact hq
    | .ended (.error e), hq => exact hq
    | .late, ⟨_, hlate, _⟩ => exact absurd hlate hr
    | .stuck, hq => exact hq
  · obtain ⟨h₁', q, hx, hq⟩ := Course.of_bind hx hstep
    -- After the step the deadline is lifted, so only the step itself is late.
    match q, hq with
    | .ended (.ok a), ⟨_, _, hc⟩ => exact absurd rfl (Course.ne_late (x := f _) hc)
    | .ended (.error e), ⟨_, _, hc⟩ => exact absurd rfl (Course.ne_late (x := f _) hc)
    | .late, ⟨hh, _, ho⟩ =>
      rw [hh]
      rw [ho] at hlate
      exact ⟨_, .late, hx, h₂, rfl, hlate⟩

/-- A request that could not be read is answered if there is a code for the error,
and the error is that of the reader in any case. -/
theorem course_of_rejectRequest {e : ProtocolError} {r : Halt (Except ServiceError Unit)}
    (hc : Course connector faulty (rejectRequest (.protocol e)) armed o h r o') :
    r = .ended (.error (.protocol e)) ∧ o' = o ∧
      match e.reply? with
      | none => h = []
      | some code => h.deeds = [.sent (Reply.failureFrame code)] ∨
          faulty ∧ ∃ part, part <+: Reply.failureFrame code ∧ h.deeds = [.sent part] := by
  unfold rejectRequest at hc
  cases hcode : e.reply? with
  | none =>
    simp only [hcode] at hc
    obtain ⟨rfl, rfl, rfl⟩ := hc
    exact ⟨rfl, rfl, rfl⟩
  | some code =>
    simp only [hcode] at hc
    exact course_of_failWith hc

/-- What follows the reading of a request. -/
def afterRequest (policy : Policy) :
    Except ServiceError Request → Dialogue (Except ServiceError Unit)
  | .error e => rejectRequest e
  | .ok request => perform policy request

/-- What follows the negotiation. -/
def afterNegotiation (policy : Policy) :
    Except ServiceError Method → Dialogue (Except ServiceError Unit)
  | .error e => .done (.error e)
  | .ok method =>
    log .debug s!"Authentication completed with method: {method.name}" <|
      (withDeadline policy.handshakeTimeout "request" Request.read).run.bind (afterRequest policy)

/-- A served connection with its continuations under names: a step under a
deadline, and what follows it. -/
theorem serve_eq (policy : Policy) :
    serve policy = (withDeadline policy.handshakeTimeout "greeting"
      (Negotiation.negotiate policy)).run.bind (afterNegotiation policy) := rfl

/-- After a negotiation the request is read, under a deadline of its own, and
carried out or answered. The reader's format says which errors it can end with,
and a message that broke off has no code. -/
theorem way_of_request {method : Method} {h₁ : History} {r : Halt (Except ServiceError Unit)}
    (hway : Negotiation.Way policy faulty h₁ (.ended (.ok method)))
    (hc : Course connector faulty (afterNegotiation policy (.ok method)) armed {} h r o') :
    Way policy connector faulty (h₁ ++ h) r o'.remote := by
  obtain ⟨h₂, rfl, hrequest⟩ := hc
  obtain ⟨g, q, hread, hq⟩ := course_of_withDeadline Request.plain_read hrequest
  obtain ⟨hg, hstops⟩ := Request.reads_request.stops hread
  -- The note on the method belongs to the quiet stretch of the request.
  generalize hnote : Event.noted _ = note
  have hg' : History.IsQuiet (note :: g) := by simp [← hnote, hg, Event.IsQuiet]
  have hgot : History.receivedBytes (note :: g) = g.receivedBytes := by rw [← hnote]; rfl
  rw [← hgot] at hstops
  cases q with
  | late =>
    obtain ⟨_, hh, hnil, hr, ho⟩ := hq
    rw [hh, hnil, List.append_nil, hr, ho]
    exact .unrequested hway hg' hstops .late (by simp)
  | stuck =>
    obtain ⟨hh, hr, ho⟩ := hq
    rw [hh, hr, ho]
    exact .unrequested hway hg' hstops .stuck (by simp)
  | ended requested =>
    cases requested with
    | ok request =>
      obtain ⟨h₃, hh, hperform⟩ := hq
      cases hstops with
      | cut _ hr => cases hr
      | accepted hm =>
        rw [hh, ← List.cons_append, ← List.append_assoc]
        exact .performed hway hg' hm (performed_of_perform hperform)
    | error e =>
      obtain ⟨h₃, hh, hreject⟩ := hq
      rw [hh, ← List.cons_append, ← List.append_assoc]
      obtain ⟨rfl, rfl, hdeeds⟩ := course_of_rejectRequest hreject
      cases hcode : e.reply? with
      | none =>
        simp only [hcode] at hdeeds
        rw [hdeeds, List.append_nil]
        exact .unrequested hway hg' hstops (.broken e) (by rintro _ ⟨⟩; exact hcode)
      | some code =>
        simp only [hcode] at hdeeds
        cases hstops with
        | refused hm => exact .rejected hway hg' hm hcode hdeeds
        | cut _ hr =>
          -- A message that broke off is not answered.
          cases hr
          cases hcode

/-- A served connection has no other ways than those of `Way`, whatever the
client, the connector and the deadlines do. Nearly all that is shown of the server
starts from here. -/
theorem way_of_course {r : Halt (Except ServiceError Unit)}
    (hc : Course connector faulty (serve policy) armed {} h r o') :
    Way policy connector faulty h r o'.remote := by
  rw [serve_eq] at hc
  -- The negotiation is plain, so its deadline is the only one that can pass meanwhile.
  obtain ⟨h₁, q, hnegotiate, hq⟩ :=
    course_of_withDeadline (Negotiation.plain_negotiate policy) hc
  have hway := Negotiation.way_of_course hnegotiate
  cases q with
  | late =>
    obtain ⟨_, hh, hnil, hr, ho⟩ := hq
    rw [hh, hnil, List.append_nil, hr, ho]
    exact .unnegotiated hway .late
  | stuck =>
    obtain ⟨hh, hr, ho⟩ := hq
    rw [hh, hr, ho]
    exact .unnegotiated hway .stuck
  | ended negotiated =>
    cases negotiated with
    | error e =>
      obtain ⟨_, hh, hnil, hr, ho⟩ := hq
      rw [hh, hnil, List.append_nil, hr, ho]
      exact .unnegotiated hway (.broken e)
    | ok method =>
      obtain ⟨_, hh, hrequest⟩ := hq
      rw [hh]
      exact way_of_request hway hrequest

end

end Server

end Socks5
