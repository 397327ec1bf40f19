import Socks5.Proofs.Exit
import Socks5.Proofs.ServedMessages

/-!
# `Socks5.Proofs.Order`: the order of a served connection

The bytes that go over the stream of a served connection, one by one and
with their direction, are the front of a `Conversation`: greeting,
selection, credentials, status, request and reply, each whole before the
next one begins. The grammar has three parts, one for each thing that the
client has to pass.

* `Asks`: what goes over the stream once the client may ask.
* `Tries`: what goes over the stream once credentials are wanted.
* `Conversation`: what goes over the stream from the beginning.
* `Way.follows`: no fault leads away from this order. It cuts the
  conversation somewhere, maybe inside a message, and nothing else does.
-/

set_option autoImplicit false

namespace Socks5

open Net Dialogue

/-! ### The bytes of a history -/

/-- A byte that went over a stream, with its direction. -/
inductive Octet where
  | taken (b : UInt8)
  | said (b : UInt8)
  deriving Repr, DecidableEq

/-- The bytes of a message that was taken. -/
def taking (m : Bytes) : List Octet := m.map .taken

/-- The bytes of a message that was said. -/
def saying (m : Bytes) : List Octet := m.map .said

/-- Taking two pieces is taking them together. How a message was cut does not
show. -/
theorem taking_append (a b : Bytes) : taking (a ++ b) = taking a ++ taking b := List.map_append

/-- The same holds of what is said. -/
theorem saying_append (a b : Bytes) : saying (a ++ b) = saying a ++ saying b := List.map_append

/-- The front of a message is a front on the wire, too. -/
theorem taking_mono {a b : Bytes} (h : a <+: b) : taking a <+: taking b := h.map _

/-- The same holds of what is said. -/
theorem saying_mono {a b : Bytes} (h : a <+: b) : saying a <+: saying b := h.map _

/-- The bytes of a transfer. -/
def Transfer.octets : Transfer → List Octet
  | .received bs => taking bs
  | .sent bs => saying bs

/-- Joining neighbours moves no byte. So the wire can be compared octet by octet,
and how the transfers were cut plays no part. -/
theorem Transfer.octets_before (t : Transfer) (trace : List Transfer) :
    (before t trace).flatMap octets = t.octets ++ trace.flatMap octets := by
  unfold before
  split
  · rfl
  · rfl
  · simp [octets, taking_append]
  · simp [octets, saying_append]
  · rfl

namespace History

/-- The bytes that went over the stream, in order. -/
def wire (h : History) : List Octet := h.trace.flatMap Transfer.octets

/-- Nothing has gone over the stream at the beginning. -/
@[simp] theorem wire_nil : wire [] = [] := rfl

/-- Bytes that were taken come first. -/
@[simp] theorem wire_received (bs : Bytes) (h : History) :
    wire (.received bs :: h) = taking bs ++ wire h := Transfer.octets_before _ _

/-- So do bytes that were said. -/
@[simp] theorem wire_sent (bs : Bytes) (h : History) :
    wire (.sent bs :: h) = saying bs ++ wire h := Transfer.octets_before _ _

/-- Notes do not go over the stream. -/
@[simp] theorem wire_noted (entry : Log.Entry) (h : History) :
    wire (.noted entry :: h) = wire h := rfl

/-- Nor do dials. -/
@[simp] theorem wire_dialed (target : Address) (h : History) :
    wire (.dialed target :: h) = wire h := rfl

/-- Nor do listeners. -/
@[simp] theorem wire_listened (target : Address) (h : History) :
    wire (.listened target :: h) = wire h := rfl

/-- Histories follow each other on the wire as they do in time. -/
@[simp] theorem wire_append (g h : History) : wire (g ++ h) = wire g ++ wire h := by
  induction g with
  | nil => rfl
  | cons e g ih => cases e <;> simp [ih]

/-- The bytes are those of the deeds. All that is left out there are notes, and
these do not go over the stream. -/
theorem wire_deeds (h : History) : h.deeds.wire = h.wire := by
  induction h with
  | nil => rfl
  | cons e h ih => cases e <;> simp [ih]

/-- Replies that follow each other are said as one string. -/
theorem wire_map_sent (frames : List Bytes) : wire (frames.map .sent) = saying frames.flatten := by
  induction frames with
  | nil => rfl
  | cons frame frames ih => simp [ih, saying_append]

/-- While nobody says anything the wire has only what was taken. This is the shape
of every history that a reader leaves. -/
theorem IsQuiet.wire_eq {h : History} (hq : h.IsQuiet) : h.wire = taking h.receivedBytes := by
  induction h with
  | nil => rfl
  | cons e h ih =>
    obtain ⟨he, hh⟩ := isQuiet_cons.mp hq
    cases e with
    | received bs => simp [receivedBytes, ih hh, taking_append]
    | noted entry => simp [receivedBytes, ih hh]
    | sent | dialed | listened => exact he.elim

end History

/-! ### Fronts of a conversation -/

/-- Whether bytes are the front of a conversation as given, and all of it under
the given condition. -/
def Follows (P : List Octet → Prop) (whole : Prop) (w : List Octet) : Prop :=
  ∃ c, P c ∧ w <+: c ∧ (whole → w = c)

section

variable {P Q : List Octet → Prop} {whole : Prop} {a c w : List Octet}

/-- A whole conversation is the front of itself. -/
theorem Follows.of_whole (hw : P w) : Follows P whole w :=
  ⟨w, hw, List.prefix_refl w, fun _ => rfl⟩

/-- A front of a conversation is enough where it need not be whole. -/
theorem Follows.of_cut (hc : P c) (hfront : w <+: c) (hcut : ¬ whole) : Follows P whole w :=
  ⟨c, hc, hfront, fun hwhole => absurd hwhole hcut⟩

/-- What comes before belongs to the conversation, too. -/
theorem Follows.append (h : Follows P whole w) (hP : ∀ c, P c → Q (a ++ c)) :
    Follows Q whole (a ++ w) := by
  obtain ⟨c, hc, hfront, hwhole⟩ := h
  refine ⟨a ++ c, hP c hc, (List.prefix_append_right_inj a).mpr hfront, ?_⟩
  intro h
  rw [hwhole h]

/-- What is whole under a condition is whole under a stronger one. -/
theorem Follows.mono {whole' : Prop} (h : Follows P whole w) (himp : whole' → whole) :
    Follows P whole' w := by
  obtain ⟨c, hc, hfront, hwhole⟩ := h
  exact ⟨c, hc, hfront, fun h => hwhole (himp h)⟩

end

/-- Whether an exchange ends with an error of its own: the far end was heard
out. -/
def Halt.IsRefused {α : Type} (r : Halt (Except ProtocolError α)) : Prop :=
  ∃ e, r = .ended (.error e) ∧ ∀ fault, e ≠ .truncated fault

/-- An exchange that breaks off has not heard the far end out. -/
theorem Halt.IsBreak.not_isRefused {α : Type} {r : Halt (Except ProtocolError α)}
    (hr : r.IsBreak) : ¬ r.IsRefused := by
  rintro ⟨e, rfl, he⟩
  cases hr with
  | broken fault => exact he fault rfl

namespace Server

open Negotiation (credentialsFormat fieldsMessage offerMessage passwordMessage passwordVersion
  select)

/-! ### The grammar -/

/-- What goes over the stream once the client may ask: a request and its
reply. -/
inductive Asks (policy : Policy) : List Octet → Prop where
  /-- A request of another version is not answered. -/
  | foreign {v c x : UInt8} (hv : v ≠ version) : Asks policy (taking [v, c, x])
  /-- An unknown address type is answered as soon as its byte is there. -/
  | untyped {c x b : UInt8} (hb : AddressType.ofByte? b = none) :
      Asks policy (taking [version, c, x, b] ++
        saying (Reply.failureFrame .addressTypeNotSupported))
  /-- An unknown command is answered once the whole request is there. -/
  | unknown {c x : UInt8} {a : Address} {m : Bytes} (hc : Command.ofByte? c = none)
      (ha : Address.format.accepts a m) :
      Asks policy (taking (version :: c :: x :: m) ++
        saying (Reply.failureFrame .commandNotSupported))
  /-- A request is answered by one reply. -/
  | answered {q : Request} {m reply : Bytes} (hm : Request.format.accepts q m)
      (hreply : IsGrant reply ∨ IsRefusal reply) : Asks policy (taking m ++ saying reply)
  /-- A BIND that is granted is answered again when the peer has come or is
  missing. -/
  | bound {q : Request} {m first second : Bytes} (hm : Request.format.accepts q m)
      (hq : q.command = .bind) (hbind : policy.allowBind = true) (hfirst : IsGrant first)
      (hsecond : IsGrant second ∨ IsRefusal second) :
      Asks policy (taking m ++ saying (first ++ second))

/-- What goes over the stream once credentials are wanted. -/
inductive Tries (policy : Policy) : List Octet → Prop where
  /-- Another version of the password exchange is refused after its byte. -/
  | foreign {v : UInt8} (hv : v ≠ passwordVersion) :
      Tries policy (taking [v] ++ saying [passwordVersion, 1])
  /-- Credentials are refused once they are all there. -/
  | denied {username password : Bytes} (hu : username.length ≤ 255)
      (hp : password.length ≤ 255) :
      Tries policy (taking (fieldsMessage username password) ++ saying [passwordVersion, 1])
  /-- The client has sent the expected credentials, is told so and may ask. -/
  | admitted {w : List Octet} (hw : Asks policy w) :
      Tries policy (taking (passwordMessage policy.credentials) ++
        (saying [passwordVersion, 0] ++ w))

/-- What goes over the stream of a served connection. -/
inductive Conversation (policy : Policy) : List Octet → Prop where
  /-- A greeting of another version is not answered. -/
  | foreign {v : UInt8} (hv : v ≠ version) : Conversation policy (taking [v])
  /-- No method of the greeting is acceptable. -/
  | unacceptable {offer : Bytes} (hoffer : offer.length ≤ 255) (hs : select policy offer = none) :
      Conversation policy (taking (offerMessage offer) ++
        saying [version, Method.notAcceptable])
  /-- The client need not authenticate and may ask. -/
  | free {offer : Bytes} {w : List Octet} (hoffer : offer.length ≤ 255)
      (hs : select policy offer = some .noAuth) (hw : Asks policy w) :
      Conversation policy (taking (offerMessage offer) ++
        (saying [version, Method.noAuth.toByte] ++ w))
  /-- The client has to send credentials. -/
  | challenged {offer : Bytes} {w : List Octet} (hoffer : offer.length ≤ 255)
      (hs : select policy offer = some .usernamePassword) (hw : Tries policy w) :
      Conversation policy (taking (offerMessage offer) ++
        (saying [version, Method.usernamePassword.toByte] ++ w))

section

variable {policy : Policy} {faulty : Prop} {connector : Connector}

/-! ### Every beginning goes on -/

/-- There is something to say once the client may ask. A conversation that is cut
needs a whole one to be the front of. -/
theorem exists_asks (policy : Policy) : ∃ w, Asks policy w :=
  ⟨_, .foreign (v := 0) (c := 0) (x := 0) (by decide)⟩

/-- Every request goes on to a conversation, be it accepted or refused. One that
is cut short is the front of such a message, so it goes on, too. -/
theorem asks_of_isMessage (policy : Policy) {m : Bytes} (hm : Request.format.IsMessage m) :
    ∃ w, Asks policy (taking m ++ w) := by
  obtain ⟨q, hq⟩ | ⟨e, ⟨v, c, x, hv, -, rfl⟩ | ⟨c, x, m', ⟨b, hb, -, rfl⟩, rfl⟩ |
    ⟨c, x, a, m', hc, ha, -, rfl⟩⟩ := hm
  · exact ⟨_, .answered hq (.inr ⟨.generalFailure, by decide, rfl⟩)⟩
  · exact ⟨[], by simpa using Asks.foreign hv⟩
  · exact ⟨_, .untyped hb⟩
  · exact ⟨_, .unknown hc ha⟩

/-- Credentials of any kind may be refused. So a message that was cut can always
be continued to the end of a trial, whatever it would have held. -/
theorem tries_of_accepts {m : Except UInt8 (Bytes × Bytes)} {got : Bytes}
    (hm : credentialsFormat.accepts m got) :
    Tries policy (taking got ++ saying [passwordVersion, 1]) := by
  match m, hm with
  | .error v, ⟨hv, hgot⟩ =>
    rw [hgot]
    exact .foreign hv
  | .ok (username, password), ⟨hu, hp, hgot⟩ =>
    rw [hgot]
    exact .denied hu hp

/-- Every offer is answered, whatever comes then. How the conversation goes on is
not known here, so some continuation is chosen for each selection. -/
theorem conversation_of_offer (policy : Policy) {offer : Bytes} (hoffer : offer.length ≤ 255) :
    ∃ w, Conversation policy (taking (offerMessage offer) ++
      (saying [version, Negotiation.selectionByte (select policy offer)] ++ w)) := by
  obtain ⟨w, hw⟩ := exists_asks policy
  match hs : select policy offer with
  | none => exact ⟨[], by rw [List.append_nil]; exact .unacceptable hoffer hs⟩
  | some .noAuth => exact ⟨w, .free hoffer hs hw⟩
  | some .usernamePassword => exact ⟨_, .challenged hoffer hs (.foreign (v := 0) (by decide))⟩

/-! ### The negotiation -/

/-- A password exchange goes as `Tries` says, up to where it is cut. It is whole
if no write fails and the client is refused; if it is let in, the request is still
to come. -/
theorem follows_of_trial {h : History} {r : Halt (Except ProtocolError Unit)}
    (htrial : Negotiation.Trial policy.credentials faulty h r) :
    Follows (Tries policy) (¬ faulty ∧ r.IsRefused) h.wire := by
  obtain ⟨w, hw⟩ := exists_asks policy
  cases htrial with
  | cut hg hcut hr =>
    obtain ⟨got, ⟨m, hm⟩ | ⟨e, he⟩, hfront, -⟩ := hcut
    · refine .of_cut (tries_of_accepts hm) ?_ fun hwhole => hr.not_isRefused hwhole.2
      rw [hg.wire_eq]
      exact (taking_mono hfront).trans (List.prefix_append _ _)
    · exact he.elim
  | @granted g hg hm entry =>
    refine .of_cut (.admitted hw) ?_ ?_
    · rw [← hm.2.2]
      simp [hg.wire_eq]
    · rintro ⟨-, e, he, -⟩
      cases he
  | @denied g m hg hm hne entry =>
    have hwire : History.wire (g ++ [.sent [passwordVersion, 1], .noted entry])
        = taking g.receivedBytes ++ saying [passwordVersion, 1] := by
      simp [hg.wire_eq]
    rw [hwire]
    exact .of_whole (tries_of_accepts hm)
  | @unsent g m s part hf hg hm hs hpart e =>
    have hwire : History.wire (g ++ [.sent part]) = taking g.receivedBytes ++ saying part := by
      simp [hg.wire_eq]
    -- The status is one that was about to be sent.
    obtain ⟨w', hw'⟩ : ∃ w', Tries policy
        (taking g.receivedBytes ++ (saying [passwordVersion, s] ++ w')) := by
      obtain ⟨rfl, hexp⟩ | rfl := hs
      · rw [hexp.2.2]
        exact ⟨w, .admitted hw⟩
      · exact ⟨[], by rw [List.append_nil]; exact tries_of_accepts hm⟩
    rw [hwire]
    refine .of_cut hw' ?_ fun hwhole => hwhole.1 hf
    exact (List.prefix_append_right_inj _).mpr
      ((saying_mono hpart).trans (List.prefix_append _ _))

/-- After a negotiation that succeeds the client may ask. So whatever conversation
of a request follows, the whole is one that began with a greeting. -/
theorem conversation_of_negotiated {h : History} {method : Method} {w : List Octet}
    (hway : Negotiation.Way policy faulty h (.ended (.ok method))) (hw : Asks policy w) :
    Conversation policy (h.wire ++ w) := by
  generalize hr : Halt.ended (Except.ok method) = r at hway
  cases hway with
  | cut _ _ hbreak => cases hbreak <;> cases hr
  | refused | unsent | unacceptable => cases hr
  | unauthenticated hg hm hs =>
    simpa [hg.wire_eq, hm.2] using Conversation.free hm.1 hs hw
  | tried hg hm hs htrial =>
    cases htrial with
    | cut _ _ hbreak => cases hbreak <;> cases hr
    | denied | unsent => cases hr
    | granted hg' hexp entry =>
      simpa [hg.wire_eq, hm.2, hg'.wire_eq, hexp.2.2] using
        Conversation.challenged hm.1 hs (.admitted hw)

/-- A negotiation goes as `Conversation` says, up to where it is cut. Where it is
cut, a whole conversation has to be found that goes on from there, and there
always is one: an offer can be answered, and credentials can be refused. -/
theorem follows_of_negotiation {h : History} {r : Halt (Except ProtocolError Method)}
    (hway : Negotiation.Way policy faulty h r) :
    Follows (Conversation policy) (¬ faulty ∧ r.IsRefused) h.wire := by
  cases hway with
  | cut hg hcut hr =>
    have hbreak : ¬ (¬ faulty ∧ r.IsRefused) := fun hwhole => hr.not_isRefused hwhole.2
    rw [hg.wire_eq]
    -- The front of a greeting that was cut goes on as an offer, or as a message of a
    -- foreign version.
    obtain ⟨m, ⟨offer, hoffer, rfl⟩ | ⟨e, v, hv, -, rfl⟩, hfront, -⟩ := hcut
    · obtain ⟨w, hw⟩ := conversation_of_offer policy hoffer
      exact .of_cut hw ((taking_mono hfront).trans (List.prefix_append _ _)) hbreak
    · exact .of_cut (.foreign hv) (taking_mono hfront) hbreak
  | refused hg hm hv =>
    rw [hg.wire_eq, hm]
    exact .of_whole (.foreign hv)
  | unsent hf hg hm hpart e =>
    -- The answer was cut, so the conversation goes on with the rest of it.
    obtain ⟨w, hw⟩ := conversation_of_offer policy hm.1
    rw [History.wire_append, hg.wire_eq, hm.2, History.wire_sent, History.wire_nil,
      List.append_nil]
    refine .of_cut hw ?_ fun hwhole => hwhole.1 hf
    exact (List.prefix_append_right_inj _).mpr
      ((saying_mono hpart).trans (List.prefix_append _ _))
  | unacceptable hg hm hs =>
    rw [History.wire_append, hg.wire_eq, hm.2, History.wire_sent, History.wire_nil,
      List.append_nil]
    exact .of_whole (.unacceptable hm.1 hs)
  | unauthenticated hg hm hs =>
    -- Nothing is whole yet: a client that was let in freely still has its request to
    -- make.
    obtain ⟨w, hw⟩ := exists_asks policy
    refine .of_cut (.free hm.1 hs hw) (by simp [hg.wire_eq, hm.2]) ?_
    rintro ⟨-, e, he, -⟩
    cases he
  -- What follows the challenge is a conversation of its own, with offer and answer in
  -- front.
  | @tried g h offer r hg hm hs htrial =>
    have hrefused : (r.map (Except.map fun _ => Method.usernamePassword)).IsRefused →
        r.IsRefused := by
      rintro ⟨e, he, hfault⟩
      match r, he with
      | .ended (.error _), rfl => exact ⟨_, rfl, hfault⟩
    rw [History.wire_append, hg.wire_eq, hm.2, History.wire_sent, ← List.append_assoc]
    refine ((follows_of_trial htrial).mono (And.imp_right hrefused)).append fun w hw => ?_
    rw [List.append_assoc]
    exact .challenged hm.1 hs hw

/-! ### The request -/

/-- A request that does not come, or is not answered. The reply is still owed to a
request that is accepted, so it is not whole then. -/
theorem follows_of_stops {got : Bytes} {q : Halt (Except ProtocolError Request)}
    (hstops : Request.format.Stops got q)
    (hsilent : ∀ e, q = .ended (.error e) → e.reply? = none) :
    Follows (Asks policy) (q.IsRefused) (taking got) := by
  cases hstops with
  | accepted hm =>
    refine .of_cut (.answered hm (.inr ⟨.generalFailure, by decide, rfl⟩))
      (List.prefix_append _ _) ?_
    rintro ⟨e, he, -⟩
    cases he
  | @refused e hm =>
    have hnone := hsilent e rfl
    -- Only the error about the version is silent. The errors about the address and the
    -- command have replies, so they are not meant here.
    obtain ⟨v, c, x, hv, rfl, rfl⟩ | ⟨c, x, m', ⟨b, hb, rfl, rfl⟩, rfl⟩ |
      ⟨c, x, a, m', hc, ha, rfl, rfl⟩ := hm
    · exact .of_whole (.foreign hv)
    · cases hnone
    · cases hnone
  | cut hcut hr =>
    obtain ⟨m, hm, hfront, -⟩ := hcut
    obtain ⟨w, hw⟩ := asks_of_isMessage policy hm
    exact .of_cut hw ((taking_mono hfront).trans (List.prefix_append _ _)) hr.not_isRefused

/-- A request that is refused has been read as far as it had to be. Only refusals
with a code of their own are answered. -/
theorem asks_of_refuses {e : ProtocolError} {code : ReplyCode} {m : Bytes}
    (hm : Request.format.refuses e m) (hcode : e.reply? = some code) :
    Asks policy (taking m ++ saying (Reply.failureFrame code)) := by
  obtain ⟨v, c, x, hv, rfl, rfl⟩ | ⟨c, x, m', ⟨b, hb, rfl, rfl⟩, rfl⟩ |
    ⟨c, x, a, m', hc, ha, rfl, rfl⟩ := hm
  · cases hcode
  · cases hcode
    exact .untyped hb
  · cases hcode
    exact .unknown hc ha

/-- The replies to a request are one reply or, for a BIND, two. Only a request
that nothing comes of has none. -/
theorem Fate.exists_asks {q : Request} {m : Bytes} {opens : History} {replies : List Bytes}
    {r : Halt (Except ServiceError Unit)} {remote : Option Connection}
    (hm : Request.format.accepts q m) (hfate : Fate policy connector q opens replies r remote) :
    ∃ w, Asks policy (taking m ++ (saying replies.flatten ++ w)) ∧ (r ≠ .stuck → w = []) := by
  have hone : ∀ {reply : Bytes}, IsGrant reply ∨ IsRefusal reply →
      ∃ w, Asks policy (taking m ++ (saying [reply].flatten ++ w)) ∧ (r ≠ .stuck → w = []) := by
    intro reply hreply
    exact ⟨[], by simpa using Asks.answered hm hreply, fun _ => rfl⟩
  have htwo : ∀ {l : Listener} {second : Bytes}, q.command = .bind → policy.allowBind = true →
      IsGrant second ∨ IsRefusal second →
      ∃ w, Asks policy (taking m ++
        (saying [Reply.successFrame l.endpoint, second].flatten ++ w)) ∧
          (r ≠ .stuck → w = []) := by
    intro l second hq hbind hsecond
    exact ⟨[], by simpa using Asks.bound hm hq hbind ⟨l.endpoint, rfl⟩ hsecond, fun _ => rfl⟩
  -- Connecting makes one reply, and so does every failure before a listener is open. Once
  -- the client knows of a listener there is a second one, unless the wait for a peer
  -- never ends.
  cases hfate with
  | unserved => exact hone (.inr ⟨_, by decide, rfl⟩)
  | dialFailed | listenFailed => exact hone (.inr ⟨_, ReplyCode.toByte_ofIoError_ne _, rfl⟩)
  | dialLate => exact hone (.inr ⟨_, by decide, rfl⟩)
  | dialStuck =>
    exact ⟨_, .answered hm (.inr ⟨.generalFailure, by decide, rfl⟩), fun h => absurd rfl h⟩
  | connected | acceptStuck => exact hone (.inl ⟨_, rfl⟩)
  | acceptFailed hq hbind | acceptLate hq hbind | peerRefused hq hbind =>
    exact htwo hq hbind (.inr ⟨_, by decide, rfl⟩)
  | peerWelcome hq hbind => exact htwo hq hbind (.inl ⟨_, rfl⟩)

/-- Opening connections says nothing to the client. -/
theorem Opens.wire_eq {q : Request} {opens : History} (ho : Opens policy q opens) :
    opens.wire = [] := by
  cases ho <;> rfl

/-- A request that is performed goes as `Asks` says, with all of its replies or up
to where writing fails. -/
theorem Performed.follows {q : Request} {m : Bytes} {h : History}
    {r : Halt (Except ServiceError Unit)} {remote : Option Connection}
    (hm : Request.format.accepts q m) (hp : Performed policy connector faulty q h r remote) :
    Follows (Asks policy) (¬ faulty ∧ r ≠ .stuck) (taking m ++ h.wire) := by
  cases hp with
  | @through opens replies _ _ hfate hdeeds =>
    obtain ⟨w, hw, hall⟩ := hfate.exists_asks hm
    -- What was dialed or listened for does not show on the wire.
    have hwire : h.wire = saying replies.flatten := by
      rw [← History.wire_deeds h, hdeeds, History.wire_append, hfate.opens.wire_eq,
        History.wire_map_sent, List.nil_append]
    refine ⟨_, hw, ?_, fun hwhole => ?_⟩
    · simp [hwire]
    · simp [hwire, hall hwhole.2]
  | @cut opens front rest frame part _ _ _ hf hfate hpart hdeeds e =>
    obtain ⟨w, hw, -⟩ := hfate.exists_asks hm
    -- The replies in front of the cut were delivered, and a part of the one that was cut.
    have hwire : h.wire = saying front.flatten ++ saying part := by
      simp [← History.wire_deeds h, hdeeds, hfate.opens.wire_eq, History.wire_map_sent]
    refine .of_cut hw ?_ fun hwhole => hwhole.1 hf
    simp only [hwire, List.flatten_append, List.flatten_cons, saying_append, List.append_assoc,
      List.prefix_append_right_inj]
    exact (saying_mono hpart).trans (List.prefix_append _ _)

/-! ### The whole connection -/

/-- A step that fails, and not because its message does not come, refuses it. A
fault of the stream, a deadline and a stall are what is excluded. -/
theorem Fails.isRefused {α : Type} {seconds : Nat} {step : String}
    {q : Halt (Except ProtocolError α)} {r : Halt (Except ServiceError Unit)}
    (hr : Fails seconds step q r) (hbreaks : ¬ Breaks seconds step r) : q.IsRefused := by
  cases hr with
  | broken e =>
    refine ⟨e, rfl, ?_⟩
    rintro fault rfl
    exact hbreaks (.truncated fault)
  | late => exact absurd .late hbreaks
  | stuck => exact absurd .stuck hbreaks

/-- Whatever fails and wherever it does: what went over the stream of a served
connection is the front of a conversation. It is all of one if writing does not
fail and the connection ends, but not because a message does not come. -/
theorem Way.follows {h : History} {r : Halt (Except ServiceError Unit)}
    {remote : Option Connection} (hway : Way policy connector faulty h r remote) :
    Follows (Conversation policy)
      (¬ faulty ∧ ∀ step, ¬ Breaks policy.handshakeTimeout step r) h.wire := by
  cases hway with
  | unnegotiated hway hr =>
    exact (follows_of_negotiation hway).mono (And.imp_right fun hbreaks => hr.isRefused (hbreaks _))
  | unrequested hway hg hstops hr hsilent =>
    rw [History.wire_append, hg.wire_eq]
    exact ((follows_of_stops hstops hsilent).mono fun hwhole =>
      hr.isRefused (hwhole.2 _)).append fun w hw => conversation_of_negotiated hway hw
  | @rejected h g h' method e code hway hg hm hcode hdeeds =>
    -- The refusal is written in full, or writing failed in the middle of it.
    have hasked : Follows (Asks policy) (¬ faulty) (taking g.receivedBytes ++ h'.wire) := by
      rw [← History.wire_deeds h']
      obtain hdeeds | ⟨hf, part, hpart, hdeeds⟩ := hdeeds
      · rw [hdeeds]
        exact .of_whole (by simpa using asks_of_refuses hm hcode)
      · refine .of_cut (asks_of_refuses hm hcode) ?_ fun hwhole => hwhole hf
        rw [hdeeds]
        simpa using saying_mono hpart
    rw [History.wire_append, History.wire_append, hg.wire_eq, List.append_assoc]
    exact (hasked.mono And.left).append fun w hw => conversation_of_negotiated hway hw
  | @performed h g h' method q _ _ hway hg hm hp =>
    rw [History.wire_append, History.wire_append, hg.wire_eq, List.append_assoc]
    refine ((hp.follows hm).mono (And.imp_right ?_)).append fun w hw =>
      conversation_of_negotiated hway hw
    -- A request that is stuck counts as broken off, which is excluded here.
    rintro hbreaks rfl
    exact hbreaks "request" .stuck

end

end Server

end Socks5
