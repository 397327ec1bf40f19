import Socks5.Proofs.Serve

/-!
# `Socks5.Proofs.AuthenticatedAccess`: nothing is granted before the client is admitted

`Event.IsPrivileged` picks the events that only an admitted client may
cause: something is dialed or listened for, or a reply is sent. A client
is `Admitted` once it has sent a greeting that offers the password method
and the configured credentials, and has been told that they are right.

* `Way.modest_or_sequel`: either nothing privileged happens, or what is
  privileged comes after a negotiation that succeeded.
* `admitted_before_privileged`: if the policy requires authentication, or
  the client offered it to a server with credentials, every privileged
  event and every relay comes after the admission. At most one target is
  ever dialed or listened for, and it is the one of the request.

A connector without listeners leaves no mark when it is asked for one.
`run_refusing` says that it behaves like one that leaves the mark and
refuses, and `guarded_of_no_listener` that it is not even asked before the
client is admitted.
-/

set_option autoImplicit false

namespace Socks5

open Net Dialogue

/-! ### Connectors without listeners -/

/-- The connector that leaves a mark when it is asked for a listener, and
opens none. -/
def Connector.refusing (connector : Connector) : Connector :=
  { connector with listen := some fun _ => .error noListener }

/-- A history without the marks of listeners. -/
def History.unheard (h : History) : History :=
  h.filter fun
    | .listened _ => false
    | _ => true

/-- The progress with another history. -/
def Progress.withHistory {α : Type} (h : History) (p : Progress α) : Progress α :=
  p.map fun s => { s with history := h }

/-- But for the mark, a connector without listeners behaves like one that refuses
to listen. Both answer the wish with the same error, so the runs go on alike, and
only the histories differ. The induction is on the dialogue, for any two histories
that agree without the marks. -/
theorem run_refusing {α : Type} {connector : Connector} (hl : connector.listen = none)
    (x : Dialogue α) (s : Scene) (h : History) (hh : h.unheard = s.history.unheard) :
    ∃ h', h'.unheard = (run connector x s).scene.history.unheard ∧
      run connector.refusing x { s with history := h } = (run connector x s).withHistory h' := by
  have hmark : ∀ (s : Scene) (h : History) e, h.unheard = s.history.unheard →
      History.unheard (h ++ [e]) = (s.mark e).history.unheard := by
    intro s h e hh
    simp only [History.unheard, Scene.mark, List.filter_append] at hh ⊢
    rw [hh]
  induction x generalizing s h with
  | done a => exact ⟨h, hh, rfl⟩
  | recv n shape k ih =>
    have hdrawn := hmark
      { s with stream := { s.stream with script := (s.draw n).rest }, clock := (s.draw n).clock }
      h (.received (s.draw n).taken) hh
    have hanswer : Scene.answer { s with history := h } n shape = s.answer n shape := rfl
    rw [run_recv, run_recv, hanswer]
    cases s.answer n shape with
    | some r => exact ih r (s.drawn (s.draw n)) _ hdrawn
    | none =>
      show ∃ h', _ ∧ (if (s.draw n).verdict = .late then _ else _) = _
      dsimp only
      split
      · exact ⟨_, hdrawn, rfl⟩
      · exact ⟨_, hdrawn, rfl⟩
  | send bytes k ih =>
    have hsent := hmark
      { s with stream := { s.stream with outlet := (s.stream.outlet.send bytes).2.2 } }
      h (.sent (s.stream.outlet.send bytes).1) hh
    exact ih _ (s.send bytes).2 _ hsent
  | note entry next ih => exact ih _ _ (hmark s h _ hh)
  | within seconds late next ih_late ih_next =>
    -- Marks take no time, so both runs are late together.
    obtain ⟨h', hh', hrun⟩ := ih_next { s with deadline := deadline? s.clock seconds } h hh
    simp only [run, hrun]
    cases hnext : run connector next { s with deadline := deadline? s.clock seconds } with
    | ended a s' => exact ⟨h', by rwa [hnext] at hh', rfl⟩
    | late s' => exact ih_late { s' with deadline := none } h' (by rwa [hnext] at hh')
    | stuck s' => exact ⟨h', by rwa [hnext] at hh', rfl⟩
  | release next ih => exact ih { s with deadline := none } h hh
  | dial target k ih =>
    have hdialed := hmark s h (.dialed target) hh
    simp only [run, Connector.refusing, Scene.mark]
    cases (connector.dial target).await s.deadline s.clock with
    | result clock r =>
      cases r with
      | ok c => exact ih _ { s.mark (.dialed target) with clock, remote := some c } _ hdialed
      | error e => exact ih _ { s.mark (.dialed target) with clock } _ hdialed
    | late clock => exact ⟨_, hdialed, rfl⟩
    | nothing => exact ⟨_, hdialed, rfl⟩
  | listen target k ih =>
    have hheard : History.unheard (h ++ [.listened target]) = h.unheard := by
      simp [History.unheard]
    -- The refusal that is marked is the one that goes without a mark.
    simp only [run, Connector.refusing, hl]
    exact ih _ s _ (hheard.trans hh)
  | accept k ih =>
    obtain ⟨stream, clock, deadline, history, listener, remote⟩ := s
    cases listener with
    | none => exact ⟨h, hh, rfl⟩
    | some l =>
      simp only [run]
      cases l.peer.await deadline clock with
      | result clock r =>
        cases r with
        | ok c => exact ih _ ⟨stream, clock, deadline, history, some l, some c⟩ h hh
        | error e => exact ih _ ⟨stream, clock, deadline, history, some l, remote⟩ h hh
      | late clock => exact ⟨h, hh, rfl⟩
      | nothing => exact ⟨h, hh, rfl⟩

/-! ### Privileged events -/

namespace History

/-- The messages that were sent, each as far as it was delivered. -/
def messages (h : History) : List Bytes :=
  h.filterMap fun
    | .sent bs => some bs
    | _ => none

/-- The messages of two parts of a history, one after the other. -/
@[simp] theorem messages_append (g h : History) :
    messages (g ++ h) = messages g ++ messages h :=
  List.filterMap_append

/-- Whether the bytes belong to the answers of a negotiation: the first
message is the selection, and the second one the status if the password
method was selected. -/
def IsAnswer (before : History) (bs : Bytes) : Prop :=
  (before.messages = [] ∧ ∃ selected, bs <+: [version, Negotiation.selectionByte selected]) ∨
  (before.messages = [[version, Method.usernamePassword.toByte]] ∧
    ∃ status, bs <+: [Negotiation.passwordVersion, status])

end History

/-- Whether an event after the given history is more than a part of the
negotiation. -/
def Event.IsPrivileged (before : History) : Event → Prop
  | .dialed _ | .listened _ => True
  | .sent bs => ¬ before.IsAnswer bs
  | .received _ | .noted _ => False

namespace History

/-- Whether nothing in a history is privileged, when it follows another. -/
def IsModest (before h : History) : Prop :=
  ∀ pre e post, h = pre ++ e :: post → ¬ e.IsPrivileged (before ++ pre)

/-- A history may be cut anywhere: it is modest if its first part is, and its
second part is behind the first one. What counts as privileged depends on the
messages before it, hence the condition on where the second part stands. -/
theorem IsModest.append {before g h : History} (hg : IsModest before g)
    (hh : IsModest (before ++ g) h) : IsModest before (g ++ h) := by
  intro pre e post heq
  -- The event stands in the second part, or it stands in the first one.
  obtain ⟨pre', rfl, hrest⟩ | ⟨rest, rfl, hrest⟩ := List.append_eq_append_iff.mp heq
  · rw [← List.append_assoc]
    exact hh pre' e post hrest
  · cases rest with
    | nil =>
      have := hh [] e post hrest.symm
      simpa using this
    | cons e' rest =>
      obtain ⟨rfl, -⟩ := List.cons.inj hrest
      exact hg pre e rest rfl

/-- One event that is not privileged makes a modest history. What came before it
matters, since the same bytes may be an answer at one time and a reply at another.
-/
theorem isModest_singleton {before : History} {e : Event} (he : ¬ e.IsPrivileged before) :
    IsModest before [e] := by
  intro pre e' post heq
  cases pre with
  | nil =>
    obtain ⟨rfl, -⟩ := List.cons.inj heq
    simpa using he
  | cons _ pre => cases pre <;> cases heq

/-- An event that is not privileged may stand in front of a modest history. -/
theorem IsModest.cons {before h : History} {e : Event} (he : ¬ e.IsPrivileged before)
    (hh : IsModest (before ++ [e]) h) : IsModest before (e :: h) :=
  (isModest_singleton he).append hh

/-- Reading and noting are never privileged, whatever was said before. -/
theorem IsQuiet.isModest {before h : History} (hq : h.IsQuiet) : IsModest before h := by
  intro pre e post heq
  have := hq e (by simp [heq])
  cases e <;> first | exact this.elim | exact not_false

/-- Nothing is sent while a server reads and notes, so the answers of a
negotiation can be counted across quiet stretches. -/
theorem IsQuiet.messages_eq {h : History} (hq : h.IsQuiet) : h.messages = [] := by
  refine List.filterMap_eq_nil_iff.mpr fun e he => ?_
  have := hq e he
  cases e <;> first | rfl | exact this.elim

/-- A privileged event stands after everything that is not: if a history starts
with a modest part, the event is found in what follows that part. -/
theorem IsModest.exists_of_append {g h pre post : History} {e : Event} (hg : IsModest [] g)
    (heq : g ++ h = pre ++ e :: post) (he : e.IsPrivileged pre) :
    ∃ pre', pre = g ++ pre' ∧ h = pre' ++ e :: post := by
  obtain ⟨pre', rfl, hrest⟩ | ⟨rest, rfl, hrest⟩ := List.append_eq_append_iff.mp heq
  · exact ⟨pre', rfl, hrest⟩
  · cases rest with
    | nil => exact ⟨[], by simp, hrest.symm⟩
    | cons e' rest =>
      obtain ⟨rfl, -⟩ := List.cons.inj hrest
      exact absurd he (hg pre e rest rfl)

end History

namespace Negotiation

variable {policy : Policy} {faulty : Prop}

/-- Nothing in a password exchange is privileged. All that a server sends there is
one status, whole or cut off, and it comes behind the selection of the password
method. -/
theorem Trial.isModest {expected : Credentials} {before h : History}
    {r : Halt (Except ProtocolError Unit)}
    (hbefore : before.messages = [[version, Method.usernamePassword.toByte]])
    (htrial : Trial expected faulty h r) : History.IsModest before h := by
  -- Every message of the exchange is a front of some status.
  have hstatus : ∀ {g : History} {part : Bytes} {s : UInt8}, g.IsQuiet →
      part <+: [passwordVersion, s] → ¬ (Event.sent part).IsPrivileged (before ++ g) := by
    intro g part s hg hpart hne
    exact hne (.inr ⟨by simp [hbefore, hg.messages_eq], s, hpart⟩)
  cases htrial with
  | cut hg hcut hr => exact hg.isModest
  | granted hg hm entry =>
    exact hg.isModest.append (.cons (hstatus hg (List.prefix_refl _))
      (History.isModest_singleton not_false))
  | denied hg hm hne entry =>
    exact hg.isModest.append (.cons (hstatus hg (List.prefix_refl _))
      (History.isModest_singleton not_false))
  | unsent hf hg hm hs hpart e =>
    exact hg.isModest.append (History.isModest_singleton (hstatus hg hpart))

/-- Nothing in a negotiation is privileged, however it goes. What is sent are the
selection and, after passwords, the status. -/
theorem Way.isModest {h : History} {r : Halt (Except ProtocolError Method)}
    (hway : Way policy faulty h r) : History.IsModest [] h := by
  -- The first message is a front of some selection.
  have hselection : ∀ {g : History} {part : Bytes} (selected : Option Method), g.IsQuiet →
      part <+: [version, selectionByte selected] →
      ¬ (Event.sent part).IsPrivileged ([] ++ g) := by
    intro g part selected hg hpart hne
    exact hne (.inl ⟨hg.messages_eq, selected, hpart⟩)
  cases hway with
  | cut hg hcut hr => exact hg.isModest
  | refused hg hm hv => exact hg.isModest
  | unsent hf hg hm hpart e =>
    exact hg.isModest.append (History.isModest_singleton (hselection _ hg hpart))
  | unacceptable hg hm hs =>
    exact hg.isModest.append
      (History.isModest_singleton (hselection none hg (List.prefix_refl _)))
  | unauthenticated hg hm hs =>
    exact hg.isModest.append
      (History.isModest_singleton (hselection (some .noAuth) hg (List.prefix_refl _)))
  | tried hg hm hs htrial =>
    refine hg.isModest.append
      (.cons (hselection (some .usernamePassword) hg (List.prefix_refl _)) (htrial.isModest ?_))
    rw [List.nil_append, History.messages_append, hg.messages_eq]
    rfl

end Negotiation

/-! ### What a request opens -/

namespace Server

/-- What may be opened for a request. -/
inductive Opens (policy : Policy) (q : Request) : History → Prop where
  | nothing : Opens policy q []
  | dialed (hq : q.command = .connect) : Opens policy q [.dialed q.address]
  | listened (hq : q.command = .bind) (hbind : policy.allowBind = true) :
      Opens policy q [.listened q.address]

section

variable {policy : Policy} {connector : Connector} {faulty : Prop} {q : Request} {h : History}
  {r : Halt (Except ServiceError Unit)} {remote : Option Connection}

/-- A BIND that is allowed opens a listener, with a mark or without. -/
theorem opens_listening (hq : q.command = .bind) (hbind : policy.allowBind = true) :
    Opens policy q (connector.listening q.address) := by
  unfold Connector.listening
  split
  · exact .listened hq hbind
  · exact .nothing

/-- Whatever becomes of a request, it opens what a request of its command may
open. -/
theorem Fate.opens {opens : History} {replies : List Bytes}
    (hfate : Fate policy connector q opens replies r remote) : Opens policy q opens := by
  cases hfate with
  | unserved hq => exact .nothing
  | dialFailed hq | dialLate hq | dialStuck hq | connected hq => exact .dialed hq
  | listenFailed hq hbind | acceptFailed hq hbind | acceptLate hq hbind | acceptStuck hq hbind
  | peerRefused hq hbind | peerWelcome hq hbind => exact opens_listening hq hbind

/-- A request opens something first, if at all, and sends messages then. This
holds as well if a write fails, since the messages before it were sent. -/
theorem Performed.opens (hp : Performed policy connector faulty q h r remote) :
    ∃ opens, ∃ messages : List Bytes, Opens policy q opens ∧
      h.deeds = opens ++ messages.map .sent := by
  cases hp with
  | through hfate hdeeds => exact ⟨_, _, hfate.opens, hdeeds⟩
  | @cut _ front _ _ part _ _ _ hf hfate hpart hdeeds e =>
    exact ⟨_, front ++ [part], hfate.opens, by simp [hdeeds]⟩

/-- Whether the bytes are those of a negotiation that succeeds and of the
given request. -/
def Requested (policy : Policy) (q : Request) (got : Bytes) : Prop :=
  ∃ passage answers request, Negotiation.Passed policy passage answers ∧
    Request.format.accepts q request ∧ got = passage ++ request

/-- What can follow a negotiation and what was taken of a request: at most
one thing is opened, and then messages are sent. -/
structure Sequel (policy : Policy) (before h : History) : Prop where
  modest : History.IsModest [] before
  passed : ∃ passage rest, Negotiation.Passed policy passage before.sentBytes ∧
    before.receivedBytes = passage ++ rest
  deeds : ∃ opens, ∃ messages : List Bytes, h.deeds = opens ++ messages.map .sent ∧
    (opens = [] ∨ ∃ q, Opens policy q opens ∧ Requested policy q before.receivedBytes)

/-- The negotiation, the reading of a request, and what follows them. The part
before is quiet or belongs to the negotiation, so all that is privileged is in the
part that follows. -/
theorem sequel {g h' : History} {method : Method}
    (hway : Negotiation.Way policy faulty h (.ended (.ok method))) (hg : g.IsQuiet)
    (hdeeds : ∃ opens, ∃ messages : List Bytes, h'.deeds = opens ++ messages.map .sent ∧
      (opens = [] ∨ ∃ q, Opens policy q opens ∧ Request.format.accepts q g.receivedBytes)) :
    Sequel policy (h ++ g) h' where
  modest := hway.isModest.append hg.isModest
  passed := by
    refine ⟨_, g.receivedBytes, ?_, History.receivedBytes_append h g⟩
    rw [History.sentBytes_append, hg.sentBytes_eq, List.append_nil]
    exact hway.passed
  deeds := by
    obtain ⟨opens, messages, hdeeds, hopens⟩ := hdeeds
    refine ⟨opens, messages, hdeeds, hopens.imp_right ?_⟩
    rintro ⟨q, hopens, hq⟩
    exact ⟨q, hopens, _, _, _, hway.passed, hq, History.receivedBytes_append h g⟩

/-- Either nothing in the history of a served connection is privileged, or the
client has passed the negotiation. A rejected request is of the second kind, since
the failure that the client is told is privileged. -/
theorem Way.modest_or_sequel (hway : Way policy connector faulty h r remote) :
    (History.IsModest [] h ∧ r ≠ .ended (.ok ())) ∨
      ∃ before h', h = before ++ h' ∧ Sequel policy before h' := by
  cases hway with
  | unnegotiated hway hr => exact .inl ⟨hway.isModest, by cases hr <;> simp⟩
  | unrequested hway hg hstops hr hsilent =>
    exact .inl ⟨hway.isModest.append hg.isModest, by cases hr <;> simp⟩
  | rejected hway hg hm hcode hdeeds =>
    refine .inr ⟨_, _, rfl, sequel hway hg ?_⟩
    obtain hdeeds | ⟨-, part, -, hdeeds⟩ := hdeeds
    · exact ⟨[], [_], hdeeds, .inl rfl⟩
    · exact ⟨[], [part], hdeeds, .inl rfl⟩
  | performed hway hg hm hp =>
    obtain ⟨opens, messages, hopens, hdeeds⟩ := hp.opens
    exact .inr ⟨_, _, rfl, sequel hway hg ⟨opens, messages, hdeeds, .inr ⟨_, hopens, hm⟩⟩⟩

end

/-! ### Admission -/

/-- Whether the client has offered the password method and sent the
configured credentials, of 1 to 255 bytes each, and has been told that it
is admitted. -/
structure Admitted (policy : Policy) (h : History) : Prop where
  asked : ∃ username password offer, policy.username = some username ∧
    policy.password = some password ∧ Credentials.fits username ∧ Credentials.fits password ∧
    offer.length ≤ 255 ∧ Method.usernamePassword.toByte ∈ offer ∧
    Negotiation.offerMessage offer ++ Negotiation.passwordMessage ⟨username, password⟩
      <+: h.receivedBytes
  told : [version, Method.usernamePassword.toByte, Negotiation.passwordVersion, 0] <+: h.sentBytes

/-- Whether a client that sends the given bytes has to authenticate: the
policy requires it, or the client offers it and it can be done. -/
def MustAuthenticate (policy : Policy) (bytes : Bytes) : Prop :=
  policy.authRequired = true ∨ policy.hasCredentials = true ∧
    ∃ offer, offer.length ≤ 255 ∧ Method.usernamePassword.toByte ∈ offer ∧
      Negotiation.offerMessage offer <+: bytes

/-- A stream of bytes begins with one greeting at most, since the number of
methods stands in front of them. So it may be asked what a client has offered. -/
theorem offer_unique {offer offer' bytes : Bytes} (hlen : offer.length ≤ 255)
    (hlen' : offer'.length ≤ 255) (h : Negotiation.offerMessage offer <+: bytes)
    (h' : Negotiation.offerMessage offer' <+: bytes) : offer = offer' := by
  obtain ⟨rest, rfl⟩ := h
  obtain ⟨rest', h'⟩ := h'
  simp only [Negotiation.offerMessage, List.cons_append, List.cons.injEq, true_and] at h'
  have hcounted : lengthByte offer :: (offer ++ rest) = lengthByte offer' :: (offer' ++ rest') := by
    rw [h'.1, h'.2]
  exact (counted_append_inj hlen hlen' hcounted).1

/-- A client that had to authenticate and has passed was admitted. It could have
passed without only if nothing was required and it did not offer passwords to a
server that has them. -/
theorem Admitted.of_passed {policy : Policy} {bytes passage answers : Bytes} {h : History}
    (hmust : MustAuthenticate policy bytes)
    (hpassed : Negotiation.Passed policy passage answers) (hbytes : h.receivedBytes <+: bytes)
    (hgot : passage <+: h.receivedBytes) (htold : answers <+: h.sentBytes) :
    Admitted policy h := by
  cases hpassed with
  | @freely offer hlen hs =>
    -- The selection of no authentication contradicts the demand.
    exfalso
    obtain hrequired | ⟨hcredentials, offer', hlen', hmem, hoffer'⟩ := hmust
    · simp [Negotiation.select, hrequired] at hs
    · obtain rfl := offer_unique hlen' hlen hoffer' (hgot.trans hbytes)
      simp [Negotiation.select, hcredentials, hmem] at hs
  | @authenticated offer hlen hs hu hp =>
    obtain ⟨hcredentials, hmem⟩ := Negotiation.offered_of_select hs
    simp only [Policy.hasCredentials, Bool.and_eq_true, Option.isSome_iff_exists] at hcredentials
    -- The policy is asked for its credentials as they are configured, not for the empty ones
    -- that stand in for them.
    obtain ⟨⟨username, husername⟩, password, hpassword⟩ := hcredentials
    simp only [Policy.credentials, husername, hpassword, Option.getD_some] at hu hp hgot
    exact ⟨⟨username, password, offer, husername, hpassword, hu, hp, hlen, hmem, hgot⟩, htold⟩

/-- Who was admitted stays admitted: a history that grows still starts with what
it started with. -/
theorem Admitted.append {policy : Policy} {h : History} (ha : Admitted policy h) (g : History) :
    Admitted policy (h ++ g) := by
  obtain ⟨⟨username, password, offer, hu, hp, hfit, hfit', hlen, hmem, hgot⟩, htold⟩ := ha
  have hmore {a b c : Bytes} (hab : a <+: b) : a <+: b ++ c :=
    hab.trans (List.prefix_append b c)
  refine ⟨⟨username, password, offer, hu, hp, hfit, hfit', hlen, hmem, ?_⟩, ?_⟩
  · rw [History.receivedBytes_append]
    exact hmore hgot
  · rw [History.sentBytes_append]
    exact hmore htold

/-! ### The gate -/

section

variable {policy : Policy} {before h : History}

/-- A client that has passed the negotiation has been admitted, if it had to
authenticate. -/
theorem Sequel.admitted {bytes : Bytes} (hs : Sequel policy before h)
    (hmust : MustAuthenticate policy bytes) (hbytes : before.receivedBytes <+: bytes) :
    Admitted policy before := by
  obtain ⟨passage, rest, hpassed, hgot⟩ := hs.passed
  exact .of_passed hmust hpassed hbytes ⟨rest, hgot.symm⟩ (List.prefix_refl _)

/-- If at most one event and then messages happen, an event that is no message
happens first. This is how a dial is known to be the only one. -/
theorem first_of_opens {opens pre post : History} {messages : List Bytes} {e : Event}
    (hlen : opens.length ≤ 1) (he : ∀ bs, e ≠ .sent bs)
    (heq : pre ++ e :: post = opens ++ messages.map .sent) : pre = [] ∧ opens = [e] := by
  have hmessages : ∀ pre : History, pre ++ e :: post ≠ messages.map .sent := by
    intro pre hpre
    have hmem : e ∈ messages.map Event.sent := hpre ▸ by simp
    obtain ⟨bs, -, hbs⟩ := List.mem_map.mp hmem
    exact he bs hbs.symm
  -- Messages alone hold no such event, so it is the one that was opened.
  match opens, hlen with
  | [], _ => exact absurd heq (hmessages pre)
  | [opened], _ =>
    cases pre with
    | nil =>
      obtain ⟨rfl, -⟩ := List.cons.inj heq
      exact ⟨rfl, rfl⟩
    | cons _ pre => exact absurd (List.cons.inj heq).2 (hmessages pre)

/-- A request opens one thing at most. -/
theorem Opens.length_le {q : Request} {opens : History} (ho : Opens policy q opens) :
    opens.length ≤ 1 := by
  cases ho <;> simp

/-- What is opened after the negotiation is what the request asks for, and nothing
is taken from the stream in between. The request is the last thing that was read.
-/
theorem Sequel.opens_of_append {pre post : History} {e : Event} (hs : Sequel policy before h)
    (he : (∃ target, e = .dialed target) ∨ ∃ target, e = .listened target)
    (heq : h = pre ++ e :: post) :
    ∃ q, Opens policy q [e] ∧ Requested policy q (before ++ pre).receivedBytes := by
  obtain ⟨opens, messages, hdeeds, hopens⟩ := hs.deeds
  have hdeed : History.deeds (e :: post) = e :: post.deeds := by
    obtain ⟨target, rfl⟩ | ⟨target, rfl⟩ := he <;> rfl
  have hmessage : ∀ bs, e ≠ .sent bs := by
    rintro bs rfl
    obtain ⟨target, h⟩ | ⟨target, h⟩ := he <;> cases h
  have hsplit : pre.deeds ++ e :: post.deeds = opens ++ messages.map .sent := by
    rw [← hdeeds, heq, History.deeds_append, hdeed]
  have hlen : opens.length ≤ 1 := by
    obtain rfl | ⟨q, ho, -⟩ := hopens
    · simp
    · exact ho.length_le
  obtain ⟨hpre, rfl⟩ := first_of_opens hlen hmessage hsplit
  obtain hnil | ⟨q, ho, hq⟩ := hopens
  · cases hnil
  · refine ⟨q, ho, ?_⟩
    -- No deed comes before it, so nothing was taken since the request.
    rw [History.receivedBytes_append, ← History.receivedBytes_deeds pre, hpre]
    simpa [History.receivedBytes] using hq

/-- A modest history opens nothing, since whatever is dialed or listened for is
privileged. -/
theorem opened_of_isModest (hh : History.IsModest [] h) : h.dialed = [] ∧ h.listened = [] := by
  have hnone : ∀ e ∈ h, ¬ e.IsPrivileged [] ∨ ∃ bs, e = .sent bs := by
    intro e he
    obtain ⟨pre, post, rfl⟩ := List.append_of_mem he
    have := hh pre e post rfl
    cases e with
    | sent bs => exact .inr ⟨bs, rfl⟩
    | received | noted => exact .inl not_false
    | dialed | listened => exact absurd trivial this
  refine ⟨List.filterMap_eq_nil_iff.mpr ?_, List.filterMap_eq_nil_iff.mpr ?_⟩
  all_goals
    intro e he
    obtain hne | ⟨bs, rfl⟩ := hnone e he
    · cases e <;> first | rfl | exact absurd trivial hne
    · rfl

/-- At most one thing is opened on a connection, be it dialed or listened for.
Before the request nothing is opened, and what is done for the request is a single
wish. -/
theorem Sequel.length_opened_le (hs : Sequel policy before h) :
    (before ++ h).dialed.length + (before ++ h).listened.length ≤ 1 := by
  obtain ⟨hdialed, hlistened⟩ := opened_of_isModest hs.modest
  obtain ⟨opens, messages, hdeeds, hopens⟩ := hs.deeds
  rw [History.dialed_append, History.listened_append, hdialed, hlistened, List.nil_append,
    List.nil_append, ← History.dialed_deeds, ← History.listened_deeds, hdeeds,
    History.dialed_append, History.listened_append, History.dialed_map_sent,
    History.listened_map_sent, List.append_nil, List.append_nil]
  obtain rfl | ⟨q, ho, -⟩ := hopens
  · simp [History.dialed, History.listened]
  · cases ho <;> simp [History.dialed, History.listened]

/-- What the gate keeps. If the client whose bytes are given has to authenticate,
nothing privileged happens before it is admitted, and it does not end with a
tunnel. At most one target is dialed or listened for, and it is that of the
request, which is the last that was read. -/
structure Guarded (policy : Policy) (bytes : Bytes) (h : History)
    (r : Halt (Except ServiceError Unit)) : Prop where
  admitted : MustAuthenticate policy bytes →
    (∀ pre e post, h = pre ++ e :: post → e.IsPrivileged pre → Admitted policy pre) ∧
    (r = .ended (.ok ()) → Admitted policy h)
  single : h.dialed.length + h.listened.length ≤ 1
  dialed : ∀ (pre : History) target post, h = pre ++ .dialed target :: post →
    Requested policy ⟨.connect, target⟩ pre.receivedBytes
  listened : ∀ (pre : History) target post, h = pre ++ .listened target :: post →
    policy.allowBind = true ∧ Requested policy ⟨.bind, target⟩ pre.receivedBytes

/-- A history without privileged events is guarded, if it does not end with a
tunnel: there is nothing to be admitted to. -/
theorem guarded_of_isModest {bytes : Bytes} {r : Halt (Except ServiceError Unit)}
    (hmodest : History.IsModest [] h) (hne : r ≠ .ended (.ok ())) :
    Guarded policy bytes h r where
  admitted _ := by
    refine ⟨?_, fun hok => absurd hok hne⟩
    intro pre e post heq he
    exact absurd he (hmodest pre e post heq)
  single := by
    obtain ⟨hdialed, hlistened⟩ := opened_of_isModest hmodest
    rw [hdialed, hlistened]
    simp
  dialed pre target post heq := absurd trivial (hmodest pre _ post heq)
  listened pre target post heq := absurd trivial (hmodest pre _ post heq)

/-- What follows a negotiation that succeeded is guarded by it. Whatever is
privileged comes behind the negotiation, and what was true of the client then is
true of it later, since histories only grow. -/
theorem Sequel.guarded {bytes : Bytes} (hs : Sequel policy before h)
    (hbytes : (before ++ h).receivedBytes <+: bytes) (r : Halt (Except ServiceError Unit)) :
    Guarded policy bytes (before ++ h) r := by
  have hopen : ∀ (pre : History) e post,
      (∃ target, e = .dialed target) ∨ (∃ target, e = .listened target) →
      before ++ h = pre ++ e :: post →
      ∃ q, Opens policy q [e] ∧ Requested policy q pre.receivedBytes := by
    intro pre e post he heq
    have hprivileged : e.IsPrivileged pre := by
      obtain ⟨target, rfl⟩ | ⟨target, rfl⟩ := he <;> trivial
    -- What is opened is privileged, so it comes after the negotiation.
    obtain ⟨pre', rfl, hrest⟩ := hs.modest.exists_of_append heq hprivileged
    exact hs.opens_of_append he hrest
  have hadmitted : MustAuthenticate policy bytes → Admitted policy before := by
    intro hmust
    refine hs.admitted hmust (List.IsPrefix.trans ?_ hbytes)
    rw [History.receivedBytes_append]
    exact List.prefix_append _ _
  refine ⟨fun hmust => ⟨?_, fun _ => (hadmitted hmust).append h⟩, hs.length_opened_le, ?_, ?_⟩
  · intro pre e post heq he
    obtain ⟨pre', rfl, -⟩ := hs.modest.exists_of_append heq he
    exact (hadmitted hmust).append pre'
  · intro pre target post heq
    obtain ⟨⟨command, address⟩, ho, hq⟩ := hopen pre _ post (.inl ⟨target, rfl⟩) heq
    cases ho with
    | dialed hq' => cases hq'; exact hq
  · intro pre target post heq
    obtain ⟨⟨command, address⟩, ho, hq⟩ := hopen pre _ post (.inr ⟨target, rfl⟩) heq
    cases ho with
    | listened hq' hbind => cases hq'; exact ⟨hbind, hq⟩

end

/-- Every run is guarded, whatever the client sends and the connector does. Up to
the request it is the negotiation that says what is known of the client; from
there on the sequel of an admitted client is guarded as a whole. -/
theorem guarded_serve (policy : Policy) (connector : Connector) (client : Stream) :
    Guarded policy (Script.bytes client.script)
      ((serve policy).run connector { stream := client }).scene.history
      ((serve policy).run connector { stream := client }).halt := by
  obtain ⟨h, hh, hc⟩ := run_course connector True (serve policy) { stream := client } false
    (.inr trivial) (by simp)
  have htaken : ((serve policy).run connector
      { stream := client }).scene.history.receivedBytes <+: Script.bytes client.script :=
    ⟨_, received_append_unread connector (serve policy) { stream := client }⟩
  obtain rfl := hh.trans (List.nil_append h)
  obtain ⟨hmodest, hne⟩ | ⟨before, h', hh, hs⟩ := (way_of_course hc).modest_or_sequel
  · -- The negotiation failed, or the request did not come.
    exact guarded_of_isModest hmodest hne
  · rw [hh] at htaken ⊢
    exact hs.guarded htaken _

/-- The gate. Whatever the client sends and the connector does: if the
client has to authenticate, nothing is opened, no reply is written and no
tunnel is relayed before it is admitted. At most one target is dialed or
listened for, and it is that of the request, which is the last that was
read. -/
theorem admitted_before_privileged (policy : Policy) (connector : Connector) (client : Stream) :
    let p := (serve policy).run connector { stream := client }
    let h := p.scene.history
    (MustAuthenticate policy (Script.bytes client.script) →
      (∀ pre e post, h = pre ++ e :: post → e.IsPrivileged pre → Admitted policy pre) ∧
      (p.halt = .ended (.ok ()) → Admitted policy h)) ∧
    h.dialed.length + h.listened.length ≤ 1 ∧
    (∀ (pre : History) target post, h = pre ++ .dialed target :: post →
      Requested policy ⟨.connect, target⟩ pre.receivedBytes) ∧
    (∀ (pre : History) target post, h = pre ++ .listened target :: post →
      policy.allowBind = true ∧ Requested policy ⟨.bind, target⟩ pre.receivedBytes) := by
  intro p h
  obtain ⟨hadmitted, hsingle, hdialed, hlistened⟩ := guarded_serve policy connector client
  exact ⟨hadmitted, hsingle, hdialed, hlistened⟩

/-- The wish for a listener is guarded as well if the connector has none. Such a
connector is asked without leaving a mark, so its own history does not show when.
The history `h` is the one with the marks: it is that of the same connector if it
marked each wish and refused it, and without the marks it is the history of the
run. -/
theorem guarded_of_no_listener (policy : Policy) {connector : Connector}
    (hl : connector.listen = none) (client : Stream) :
    let p := (serve policy).run connector { stream := client }
    ∃ h : History, h.unheard = p.scene.history.unheard ∧
      (serve policy).run connector.refusing { stream := client } = p.withHistory h ∧
      Guarded policy (Script.bytes client.script) h p.halt := by
  intro p
  obtain ⟨h, hh, hrun⟩ := run_refusing hl (serve policy) { stream := client } [] rfl
  refine ⟨h, hh, hrun, ?_⟩
  have hguarded := guarded_serve policy connector.refusing client
  have hscene : ((serve policy).run connector.refusing { stream := client }).scene.history = h := by
    rw [hrun, Progress.withHistory, Progress.scene_map]
  have hhalt : ((serve policy).run connector.refusing { stream := client }).halt = p.halt := by
    rw [hrun, Progress.withHistory, Progress.halt_map]
  rwa [hscene, hhalt] at hguarded

/-- A policy that requires a user name and a password. -/
def loginPolicy : Policy := { authRequired := true, username := some "u", password := some "p" }

/-- A client that logs in and asks for a CONNECT to 127.0.0.1:80. -/
def loginClient : Stream :=
  { script := [.bytes [5, 1, 2, 1, 1, 117, 1, 112], .bytes [5, 1, 0, 1, 127, 0, 0, 1, 0, 80]] }

/-- A connector whose every dial succeeds at once. -/
def readyConnector : Connector :=
  { dial := fun _ => .settled 0 (.ok ⟨.v4 (.ofOctets #v[10, 0, 0, 1]) 4000, {}⟩) }

/-- The login client is admitted before its target is dialed. The run is found by
`decide`, and the theorem says what stands in front of its dial. -/
theorem admitted_before_dial_of_login :
    ∃ pre target post, ((serve loginPolicy).run readyConnector
      { stream := loginClient }).scene.history = pre ++ .dialed target :: post ∧
      Admitted loginPolicy pre := by
  have hsplit : ∀ (h : History) e, h[19]? = some e → h = h.take 19 ++ e :: h.drop 20 := by
    intro h e he
    obtain ⟨hlt, rfl⟩ := List.getElem?_eq_some_iff.mp he
    rw [List.getElem_cons_drop hlt, List.take_append_drop]
  have hdialed : ((serve loginPolicy).run readyConnector
      { stream := loginClient }).scene.history[19]?
        = some (.dialed (.ip (.v4 (.ofOctets #v[127, 0, 0, 1]) 80))) := by decide +kernel
  have hgate := (admitted_before_privileged loginPolicy readyConnector loginClient).1
  -- The run is long, and the rest of the proof need not see it.
  generalize (serve loginPolicy).run readyConnector { stream := loginClient } = p
    at hdialed hgate ⊢
  have hmust : MustAuthenticate loginPolicy (Script.bytes loginClient.script) := .inl (by decide)
  exact ⟨_, _, _, hsplit _ _ hdialed, (hgate hmust).1 _ _ _ (hsplit _ _ hdialed) trivial⟩

end Server

end Socks5
