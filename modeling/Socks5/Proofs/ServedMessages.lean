import Socks5.Proofs.Limit
import Socks5.Proofs.Segmentation

/-!
# `Socks5.Proofs.ServedMessages`: what a served connection says

A served connection sends answers while it negotiates, and then replies. A
reply grants a request or refuses it.

* `Says`: what may be said at each stage of a connection, and what a failed
  write leads to. After an answer or a grant it is the error; a refusal has
  an error of its own, which stays. A failed read and a failure that was told
  lead nowhere: nothing but notes follows.
* `says_serve`: a served connection says no more than that.

The readers in between say nothing (`Exchange.Hears`). Only a request needs to
be told which errors they may come to, so that no refusal looks like a grant.
-/

set_option autoImplicit false

namespace Socks5

open Net Dialogue

/-! ### Readers that only read and note -/

namespace Dialogue

variable {α β : Type}

/-- Whether a dialogue only reads and notes, and fails as given. After a read
that fails it does nothing any more. -/
def Hears (E : ProtocolError → Prop) : Dialogue (Except ProtocolError α) → Prop
  | .done r => ∀ e, r = .error e → E e
  | .recv _ _ k => (∀ e, k (.error e) = .done (.error (.truncated e))) ∧ ∀ v, Hears E (k (.ok v))
  | .note _ next => Hears E next
  | .send .. | .within .. | .release _ | .dial .. | .listen .. | .accept _ => False

end Dialogue

namespace Exchange

variable {α β : Type} {E : ProtocolError → Prop}

/-- Whether an exchange only reads and notes, and fails as given. -/
def Hears (E : ProtocolError → Prop) (x : Exchange α) : Prop := x.run.Hears E

/-- A reader made of two is one, if both fail as given. A read that fails in the
first part ends the second one, too, since it never begins. -/
theorem hears_bind {x : Exchange α} {f : α → Exchange β} (hx : x.Hears E)
    (hf : ∀ a, (f a).Hears E) : (x >>= f).Hears E := by
  have hgo : ∀ y : Dialogue (Except ProtocolError α), y.Hears E →
      Dialogue.Hears E (y.bind (ExceptT.bindCont f)) := by
    intro y hy
    induction y with
    | done r =>
      cases r with
      | ok a => exact hf a
      | error e =>
        -- An error of the first part is the error of the whole.
        rintro e' he
        cases he
        exact hy e rfl
    | recv n shape k ih =>
      refine ⟨fun e => ?_, fun v => ih _ (hy.2 v)⟩
      show (k (.error e)).bind (ExceptT.bindCont f) = _
      rw [hy.1 e]
      rfl
    | note entry next ih => exact ih hy
    | send | within | release | dial | listen | accept => exact hy.elim
  exact hgo x.run hx

/-- A value is no failure. -/
theorem hears_pure (a : α) : (pure a : Exchange α).Hears E := by
  rintro e he
  cases he

/-- An error may be thrown if it is a given one. -/
theorem hears_throw {e : ProtocolError} (he : E e) : (throw e : Exchange α).Hears E := by
  rintro e' he'
  cases he'
  exact he

/-- Noting is allowed. -/
theorem hears_note (level : Log.Level) (text : String) : (note level text).Hears E := by
  rintro e he
  cases he

/-- Reading a byte fails by a failed read only. -/
theorem hears_byte : byte.Hears E :=
  ⟨fun _ => rfl, fun _ _ he => by cases he⟩

/-- So does reading a port. -/
theorem hears_port : port.Hears E :=
  ⟨fun _ => rfl, fun _ _ he => by cases he⟩

/-- So does reading a block. -/
theorem hears_block (n : Nat) : (block n).Hears E :=
  ⟨fun _ => rfl, fun _ _ he => by cases he⟩

/-- So does reading a string with its length. -/
theorem hears_counted : counted.Hears E :=
  hears_bind hears_byte fun _ => hears_bind (hears_block _) fun _ => hears_pure _

/-- A greeting may also be refused for its version. -/
theorem hears_readGreeting (hversion : ∀ v, E (.unsupportedVersion v)) :
    Negotiation.readGreeting.Hears E := by
  refine hears_bind hears_byte fun v => ?_
  split
  · exact hears_throw (hversion v)
  · exact hears_counted

/-- Credentials are never refused by their reader: another version is a value
here, and it is for the server to refuse it. -/
theorem hears_readCredentials : Negotiation.readCredentials.Hears E := by
  refine hears_bind hears_byte fun v => ?_
  split
  · exact hears_pure _
  · exact hears_bind hears_counted fun _ => hears_bind hears_counted fun _ => hears_pure _

/-- What stands between the address type and the port decides how reading them
fails. -/
theorem hears_host_port {x : Exchange α} (hx : x.Hears E) (f : α → UInt16 → Address) :
    (do return f (← x) (← port) : Exchange Address).Hears E :=
  hears_bind hx fun _ => hears_bind hears_port fun _ => hears_pure _

/-- An address may be refused for its type. -/
theorem hears_address (htype : ∀ b, E (.unsupportedAddressType b)) : Address.read.Hears E := by
  refine hears_bind hears_byte fun b => ?_
  split
  · exact hears_throw (htype b)
  · exact hears_host_port (hears_block 4) fun v p => .ip (.v4 (.ofOctets v) p)
  · exact hears_host_port (hears_block 16) fun v p => .ip (.v6 (.ofOctets v) p 0 0)
  · exact hears_host_port hears_counted .name

/-- A request may be refused for its version, its address or its command. The
address is read in between, so its errors are among those of the request. -/
theorem hears_request (hversion : ∀ v, E (.unsupportedVersion v))
    (htype : ∀ b, E (.unsupportedAddressType b)) (hcommand : ∀ c, E (.commandNotSupported c)) :
    Request.read.Hears E := by
  refine hears_bind (hears_block 3) fun head => ?_
  split
  · exact hears_throw (hversion _)
  · refine hears_bind (hears_address htype) fun a => ?_
    split
    · exact hears_throw (hcommand _)
    · exact hears_bind (hears_note _ _) fun _ => hears_pure _

/-- Whether an error is not one that a server has reported to its client. -/
def Unreported (e : ProtocolError) : Prop := ∀ code, e ≠ .rejected code

/-- No request is refused with an error that only a reply can report. -/
theorem hears_request_unreported : Request.read.Hears Unreported :=
  hears_request (by simp [Unreported]) (by simp [Unreported]) (by simp [Unreported])

end Exchange

namespace Server

open Negotiation Exchange
open Session (answerOffer awaitCredentials carryOut negotiate_eq released run_bind_bind)

/-! ### What a connection says -/

/-- Whether the bytes are a reply that grants a request. -/
def IsGrant (m : Bytes) : Prop := ∃ bound, m = Reply.successFrame bound

/-- Whether the bytes are a reply that refuses a request. -/
def IsRefusal (m : Bytes) : Prop :=
  ∃ code : ReplyCode, code.toByte ≠ 0 ∧ m = Reply.failureFrame code

/-- Whether the bytes tell the client that it has failed. -/
def IsFailure (m : Bytes) : Prop :=
  m = [version, Method.notAcceptable] ∨ m = [passwordVersion, 1] ∨ IsRefusal m

/-- Whether nothing has been dialed or listened for, and nothing is open. -/
structure Unopened (h : History) (remote : Option Connection) : Prop where
  dialed : h.dialed = []
  listened : h.listened = []
  remote : remote = none

/-- Sending opens nothing. -/
theorem Unopened.sent {h : History} {remote : Option Connection} (ho : Unopened h remote)
    (m : Bytes) : Unopened (h ++ [.sent m]) remote where
  dialed := by rw [History.dialed_append, ho.dialed]; rfl
  listened := by rw [History.listened_append, ho.listened]; rfl
  remote := ho.remote

/-- The stages of a served connection, by what it may say next. -/
inductive Stage where
  /-- Nothing was said. -/
  | silent
  /-- The client was asked for credentials. -/
  | challenged
  /-- The negotiation is over. -/
  | negotiated
  /-- A target was listened for. -/
  | listening
  /-- A target was dialed, or the client knows of a listener. -/
  | engaged
  /-- A deadline has passed. -/
  | lost

/-- What is known at a stage of the history and of the remote connection. -/
def Stage.Holds : Stage → History → Option Connection → Prop
  | .silent, h, remote => h.messages = [] ∧ Unopened h remote
  | .challenged, h, remote =>
    h.messages = [[version, Method.usernamePassword.toByte]] ∧ Unopened h remote
  | .negotiated, h, remote => Unopened h remote
  | .listening, _, remote => remote = none
  | .engaged, h, _ => h.dialed ≠ [] ∨ ∃ m ∈ h.messages, IsGrant m
  | .lost, _, _ => True

/-- Whether a message is an answer to a client that has opened nothing, or a
grant. The first grant of a listener is said before there is a peer. -/
def IsSaid (h : History) (remote : Option Connection) (m : Bytes) : Prop :=
  (h.IsAnswer m ∧ Unopened h remote) ∨
  (IsGrant m ∧ (h.dialed = [] → (∀ m ∈ h.messages, ¬ IsGrant m) → remote = none))

/-- Whether a dialogue waits for a connection, and the answer lifts the
deadline. -/
inductive Waits {α : Type} : Dialogue α → Prop where
  | dial {target : Address} {k : Except IoError Endpoint → Dialogue α} :
      Waits (.dial target fun r => .release (k r))
  | accept {k : Except IoError Endpoint → Dialogue α} : Waits (.accept fun r => .release (k r))

/-- What a dialogue says from a stage on. If reading or writing fails it
closes, and so it does after a failure that it tells. -/
inductive Says : Stage → Dialogue (Except ServiceError Unit) → Prop where
  | done {st : Stage} (r : Except ServiceError Unit) : Says st (.done r)
  | recv {st : Stage} {n : Nat} {shape : Shape}
      {k : Except IoError (Vector UInt8 n) → Dialogue (Except ServiceError Unit)}
      (hbreak : ∀ e, Quits (k (.error e))) (h : ∀ r, Says st (k r)) : Says st (.recv n shape k)
  | note {st : Stage} {entry : Log.Entry} {next : Dialogue (Except ServiceError Unit)}
      (h : Says st next) : Says st (.note entry next)
  | release {st : Stage} {next : Dialogue (Except ServiceError Unit)} (h : Says st next) :
      Says st (.release next)
  /-- A deadline. Either nothing is done once it has passed, or all there is to
  be late is a wait. -/
  | within {st : Stage} {seconds : Nat} {late next : Dialogue (Except ServiceError Unit)}
      (hover : Quits late ∨ Waits next) (hlate : Says .lost late) (hnext : Says st next) :
      Says st (.within seconds late next)
  /-- An answer or a grant. A failed write is the error. -/
  | tell {st t : Stage} {m : Bytes}
      {k : Except IoError Unit → Dialogue (Except ServiceError Unit)}
      (hst : ∀ h remote, st.Holds h remote →
        IsSaid h remote m ∧ t.Holds (h ++ [.sent m]) remote)
      (hio : ∀ e, Closes (.error (.protocol (.io e))) (k (.error e)))
      (hfailure : IsFailure m → Quits (k (.ok ()))) (hok : Says t (k (.ok ()))) :
      Says st (.send m k)
  /-- A refusal. A failed write changes nothing. -/
  | refuse {st : Stage} {m : Bytes} {r : ServiceError}
      {k : Except IoError Unit → Dialogue (Except ServiceError Unit)} (hm : IsRefusal m)
      (h : ∀ outcome, Closes (.error r) (k outcome)) : Says st (.send m k)
  | dial {st : Stage} {target : Address}
      {k : Except IoError Endpoint → Dialogue (Except ServiceError Unit)}
      (h : ∀ r, Says .engaged (k r)) : Says st (.dial target k)
  | listen {target : Address}
      {k : Except IoError Endpoint → Dialogue (Except ServiceError Unit)}
      (h : ∀ r, Says .listening (k r)) : Says .negotiated (.listen target k)
  | accept {k : Except IoError Endpoint → Dialogue (Except ServiceError Unit)}
      (h : ∀ r, Says .engaged (k r)) : Says .engaged (.accept k)

/-- A stage is not left by taking bytes or by noting. What is known at a stage
speaks of messages, dials and listeners only. -/
theorem Stage.Holds.append {st : Stage} {h : History} {remote : Option Connection}
    (hst : st.Holds h remote) {e : Event} (he : e.IsQuiet) : st.Holds (h ++ [e]) remote := by
  have hview : History.messages [e] = [] ∧ History.dialed [e] = [] ∧ History.listened [e] = [] := by
    cases e with
    | received | noted => exact ⟨rfl, rfl, rfl⟩
    | sent | dialed | listened => exact he.elim
  obtain ⟨hmessages, hdialed, hlistened⟩ := hview
  have hunopened : Unopened h remote → Unopened (h ++ [e]) remote := by
    intro ho
    exact ⟨by simp [ho.dialed, hdialed], by simp [ho.listened, hlistened], ho.remote⟩
  cases st with
  | silent => exact ⟨by simp [hst.1, hmessages], hunopened hst.2⟩
  | challenged => exact ⟨by simp [hst.1, hmessages], hunopened hst.2⟩
  | negotiated => exact hunopened hst
  | listening => exact hst
  | engaged => simpa [Stage.Holds, hmessages, hdialed] using hst
  | lost => trivial

/-! ### Telling messages apart -/

/-- An answer of the negotiation has two bytes at most. -/
theorem length_le_of_isAnswer {h : History} {m : Bytes} (hm : h.IsAnswer m) : m.length ≤ 2 := by
  obtain ⟨-, _, hm⟩ | ⟨-, _, hm⟩ := hm
  · exact hm.length_le
  · exact hm.length_le

/-- A reply is longer than an answer. -/
theorem not_isAnswer_of_reply {h : History} {m : Bytes} (hm : IsGrant m ∨ IsRefusal m) :
    ¬ h.IsAnswer m := by
  intro hanswer
  have hshort := length_le_of_isAnswer hanswer
  obtain ⟨bound, rfl⟩ | ⟨code, -, rfl⟩ := hm
  · simp [Reply.successFrame] at hshort
  · simp [Reply.failureFrame] at hshort

/-- A refusal has another code than a grant. -/
theorem not_isGrant_of_isRefusal {m : Bytes} (hm : IsRefusal m) : ¬ IsGrant m := by
  obtain ⟨code, hcode, rfl⟩ := hm
  rintro ⟨bound, hgrant⟩
  simp only [Reply.failureFrame, Reply.successFrame, List.cons_append, List.cons.injEq] at hgrant
  exact hcode hgrant.2.1

/-- A failure is no grant. -/
theorem not_isGrant_of_isFailure {m : Bytes} (hm : IsFailure m) : ¬ IsGrant m := by
  obtain rfl | rfl | hm := hm
  · rintro ⟨bound, hgrant⟩
    simp [Reply.successFrame] at hgrant
  · rintro ⟨bound, hgrant⟩
    simp [Reply.successFrame] at hgrant
  · exact not_isGrant_of_isRefusal hm

/-- Of all statuses only 1 tells of a failure. -/
theorem eq_one_of_isFailure {status : UInt8} (hm : IsFailure [passwordVersion, status]) :
    status = 1 := by
  obtain hm | hm | ⟨code, -, hm⟩ := hm
  · simp [passwordVersion, version] at hm
  · simpa using hm
  · simp [Reply.failureFrame] at hm

/-- Of all selections only that of no method tells of a failure. The other kinds
of failure start with another byte or are longer. -/
theorem eq_none_of_isFailure {selected : Option Method}
    (hm : IsFailure [version, selectionByte selected]) : selected = none := by
  obtain hm | hm | ⟨code, -, hm⟩ := hm
  · match selected with
    | none => rfl
    | some .noAuth | some .usernamePassword => cases hm
  · simp [passwordVersion, version] at hm
  · simp [Reply.failureFrame] at hm

/-! ### A served connection -/

section

variable {st : Stage} {α : Type}

/-- What closes says nothing. -/
theorem Says.of_quits {x : Dialogue (Except ServiceError Unit)} (hx : Quits x) : Says st x := by
  obtain ⟨r, hx⟩ := hx
  induction hx with
  | done => exact .done r
  | note _ ih => exact .note ih
  | release _ ih => exact .release ih

/-- A reader says nothing, so what follows it says all. Induction on the reader:
after a failed read it goes on as if it had never been asked, and that closes. -/
theorem says_of_hears {E : ProtocolError → Prop} {x : Exchange α}
    {f : Except ProtocolError α → Dialogue (Except ServiceError Unit)} (hx : x.Hears E)
    (hbreak : ∀ e, Quits (f (.error (.truncated e)))) (herror : ∀ e, E e → Says st (f (.error e)))
    (hok : ∀ a, Says st (f (.ok a))) : Says st (x.run.bind f) := by
  have hgo : ∀ y : Dialogue (Except ProtocolError α), y.Hears E → Says st (y.bind f) := by
    intro y hy
    induction y with
    | done r =>
      cases r with
      | ok a => exact hok a
      | error e => exact herror e (hy e rfl)
    | recv n shape k ih =>
      -- A failed read ends the reader as truncated, and what follows then closes.
      have hquits : ∀ e, Quits ((k (.error e)).bind f) := by
        intro e
        rw [hy.1 e]
        exact hbreak e
      refine .recv hquits ?_
      rintro (e | v)
      · exact .of_quits (hquits e)
      · exact ih _ (hy.2 v)
    | note entry next ih => exact .note (ih hy)
    | send | within | release | dial | listen | accept => exact hy.elim
  exact hgo x.run hx

/-- A failure is told in a refusal. -/
theorem says_failWith {code : ReplyCode} (hcode : code.toByte ≠ 0) (r : ServiceError) :
    Says st (failWith code r) := by
  refine .refuse ⟨code, hcode, rfl⟩ (r := r) ?_
  rintro (e | u)
  · exact .note .done
  · exact .done

/-- A grant is told to a client for whom something was opened. The first grant of
a BIND comes before there is a peer, and every other one after something was
dialed or granted. -/
theorem says_grant (hst : st = .listening ∨ st = .engaged) (bound : Endpoint)
    {next : Dialogue (Except ServiceError Unit)} (hnext : Says .engaged next) :
    Says st (grant bound next) := by
  rw [grant, Reply.send_success]
  have hsuccess : ¬ IsFailure (Reply.successFrame bound) := fun hm =>
    not_isGrant_of_isFailure hm ⟨bound, rfl⟩
  refine .tell (t := .engaged) ?_ (fun _ => .done) (fun hm => absurd hm hsuccess) hnext
  intro h remote hholds
  refine ⟨.inr ⟨⟨bound, rfl⟩, ?_⟩, .inr ⟨_, by simp [History.messages], bound, rfl⟩⟩
  intro hdialed hfirst
  obtain rfl | rfl := hst
  · exact hholds
  · -- A target that was dialed or an earlier grant is excluded.
    obtain hdialed' | ⟨m, hm, hgrant⟩ := hholds
    · exact absurd hdialed hdialed'
    · exact absurd hgrant (hfirst m hm)

/-- A dial is followed by a grant or a refusal. -/
theorem says_afterDial (target : Address) (r : Except IoError Endpoint) :
    Says .engaged (afterDial target r) := by
  cases r with
  | ok bound => exact says_grant (.inr rfl) bound (.note (.done _))
  | error e => exact .note (says_failWith (ReplyCode.toByte_ofIoError_ne e) _)

/-- So is a peer that has come, or the failure to wait for one. The client knows
of the listener by then, so a second grant is in order. -/
theorem says_afterAccept (target : Address) (r : Except IoError Endpoint) :
    Says .engaged (afterAccept target r) := by
  cases r with
  | ok peer =>
    show Says .engaged (welcome target peer)
    unfold welcome
    split
    · exact says_grant (.inr rfl) peer (.note (.done _))
    · exact .note (says_failWith (by decide) _)
  | error e => exact .note (says_failWith (by decide) _)

/-- A listener is granted, and then there is a second reply; without one there is
a refusal. -/
theorem says_afterListen (policy : Policy) (target : Address) (r : Except IoError Endpoint) :
    Says .listening (afterListen policy target r) := by
  cases r with
  | ok bound =>
    refine says_grant (.inl rfl) bound (.note (.within (.inr .accept) ?_ ?_))
    · exact .note (says_failWith (by decide) _)
    · exact .accept fun r => .release (says_afterAccept target r)
  | error e => exact .note (says_failWith (ReplyCode.toByte_ofIoError_ne e) _)

/-- Whatever is requested, the client is told what comes of it. The cases are
those of the command, with BIND split by whether it is allowed. -/
theorem says_perform (policy : Policy) (q : Request) : Says .negotiated (perform policy q) := by
  refine .note ?_
  split
  · rw [connect_eq]
    refine .within (.inr .dial) ?_ (.dial fun r => .release (says_afterDial q.address r))
    exact .note (says_failWith (by decide) _)
  · split
    · rw [bind_eq]
      exact .listen (says_afterListen policy q.address)
    · exact .note (says_failWith (by decide) _)
  · exact .note (says_failWith (by decide) _)

/-- A request that could not be read is refused, if it is answered at all. Errors
that have no reply end the connection without a word. -/
theorem says_rejectRequest {e : ProtocolError} (he : Unreported e) :
    Says st (rejectRequest (.protocol e)) := by
  unfold rejectRequest
  cases e with
  | rejected code => exact absurd rfl (he code)
  | malformedAddress | invalidPort | domainTooLong | unsupportedAddressType
  | commandNotSupported => exact says_failWith (by decide) _
  | truncated | unsupportedVersion | noAcceptableMethod | authFailed | io => exact .done _

/-- After the negotiation the request is read and carried out. Nothing was opened
before, so the deadline of the request can end the connection at once. -/
theorem says_negotiated (policy : Policy) (method : Method) :
    Says .negotiated (released (afterNegotiation policy) (.ok method)) := by
  refine .release (.note ?_)
  rw [withDeadline_bind]
  refine .within (.inl ⟨_, .done⟩) (.done _) (says_of_hears hears_request_unreported ?_ ?_ ?_)
  · exact fun e => ⟨_, .release .done⟩
  · exact fun e he => .release (says_rejectRequest he)
  · exact fun q => .release (says_perform policy q)

/-- A status is an answer. After it nothing is open yet. What follows a refusal
has to be over at once, and what follows a failed write has to close with its
error. -/
theorem says_status (status : UInt8)
    {k : Except IoError Unit → Dialogue (Except ServiceError Unit)}
    (hio : ∀ e, Closes (.error (.protocol (.io e))) (k (.error e)))
    (hrefused : status = 1 → Quits (k (.ok ()))) (hok : Says .negotiated (k (.ok ()))) :
    Says .challenged (.send [passwordVersion, status] k) := by
  refine .tell (t := .negotiated) ?_ hio (fun hm => hrefused (eq_one_of_isFailure hm)) hok
  rintro h remote ⟨hmessages, hunopened⟩
  exact ⟨.inl ⟨.inr ⟨hmessages, status, List.prefix_refl _⟩, hunopened⟩, hunopened.sent _⟩

/-- The password exchange is answered with a status, whatever comes of it. The
three reasons to refuse are answered in the same way, so they are one case here.
-/
theorem says_awaitCredentials (policy : Policy) :
    Says .challenged (awaitCredentials policy) := by
  have hrefuse : ∀ reason, Says .challenged ((do
      Negotiation.refuse reason
      return Method.usernamePassword : Exchange Method).run.bind
        (released (afterNegotiation policy))) := fun reason =>
    says_status 1 (fun _ => .release .done) (fun _ => ⟨_, .note (.release .done)⟩)
      (.note (.release (.done _)))
  rw [awaitCredentials, authenticate_eq, bind_assoc, run_bind_bind]
  refine says_of_hears (hears_readCredentials (E := fun _ => True)) (fun e => ⟨_, .release .done⟩)
    (fun e _ => .release (.done _)) fun m => ?_
  · show Says .challenged ((judge policy.credentials m >>= fun _ =>
      pure Method.usernamePassword : Exchange Method).run.bind
        (released (afterNegotiation policy)))
    -- The order of the checks: version, empty fields, comparison. Only the last one can
    -- let the client in.
    unfold judge
    split
    · exact hrefuse _
    · split
      · exact hrefuse _
      · split
        · exact says_status 0 (fun _ => .release .done) (by simp)
            (.note (says_negotiated policy _))
        · exact hrefuse _

/-- The stage after a selection. -/
def stageAfter : Option Method → Stage
  | some .usernamePassword => .challenged
  | some .noAuth | none => .negotiated

/-- Each method that may be selected leads to its own stage, and no method to the
end. -/
theorem says_carryOut (policy : Policy) (selected : Option Method) :
    Says (stageAfter selected)
      ((carryOut policy selected).run.bind (released (afterNegotiation policy))) := by
  match selected with
  | none => exact .release (.done _)
  | some .noAuth => exact says_negotiated policy .noAuth
  | some .usernamePassword => exact says_awaitCredentials policy

/-- A selection is an answer. What follows depends on what was selected, and if
nothing was, the answer tells of a failure and the connection closes. -/
theorem says_answerOffer (policy : Policy) (offer : Bytes) :
    Says .silent ((answerOffer policy offer).run.bind (released (afterNegotiation policy))) := by
  have hrefused : IsFailure [version, selectionByte (select policy offer)] →
      Quits ((carryOut policy (select policy offer)).run.bind
        (released (afterNegotiation policy))) := by
    intro hm
    rw [eq_none_of_isFailure hm]
    exact ⟨_, .release .done⟩
  refine .note (.tell (t := stageAfter (select policy offer)) ?_ (fun _ => .release .done) hrefused
    (says_carryOut policy _))
  rintro h remote ⟨hmessages, hunopened⟩
  refine ⟨.inl ⟨.inl ⟨hmessages, _, List.prefix_refl _⟩, hunopened⟩, ?_⟩
  match select policy offer with
  | none | some .noAuth => exact hunopened.sent _
  | some .usernamePassword =>
    refine ⟨?_, hunopened.sent _⟩
    rw [History.messages_append, hmessages]
    rfl

/-- A served connection says what belongs to its stages. It begins in silence, and
the greeting is read before anything is said. -/
theorem says_serve (policy : Policy) : Says .silent (serve policy) := by
  rw [serve_eq, withDeadline_bind, negotiate_eq, run_bind_bind]
  refine .within (.inl ⟨_, .done⟩) (.done _) ?_
  exact says_of_hears (hears_readGreeting (E := fun _ => True) fun _ => trivial)
    (fun e => ⟨_, .release .done⟩) (fun e _ => .release (.done _))
    fun offer => says_answerOffer policy offer

end

end Server

end Socks5
