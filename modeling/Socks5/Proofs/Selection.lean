import Socks5.Proofs.ObserverEquivalence
import Socks5.Proofs.ReadablePrefix
import Socks5.Proofs.ServerTurns

/-!
# `Socks5.Proofs.Selection`: which method a negotiation selects

A client that greets offers methods, and `choice` is the byte with which a
policy answers. A server answers whoever greets, and nobody else.

* `Chooses`: which byte that is. `chooses_choice` reads it off `select`.
* `choice_congr`, `choice_ne_of_subset`: an offer counts as a set of methods, and
  more methods do not spoil it.
* `run_of_greets`: after the answer the negotiation carries out what it has
  selected, on what the greeting and the answer leave of the stream. It does so as
  if it had just begun: a run looks neither at its history (`run_onto`) nor,
  without a deadline, at the clock (`Plain.run_delayed`).
* `selects_negotiate`, `negotiation_selects`: what comes of a negotiation, for each
  policy, on each stream.

The stream may fail or stall wherever it likes. A client greets if its greeting
comes before that. Of the password exchange nothing is said here but that it is
the one with the credentials of the policy; `authenticate_exact` says how it ends.
-/

set_option autoImplicit false

namespace Socks5

open Net Dialogue

variable {α β : Type}

/-! ### Runs at another time -/

namespace Scene

/-- The scene at a later time. -/
def delayed (seconds : Nat) (s : Scene) : Scene := { s with clock := seconds + s.clock }

end Scene

/-- Without a deadline a draw does not look at the clock: it takes the same bytes
later, and stops in the same way. -/
theorem Script.draw_delayed (seconds n clock : Nat) (script : Script) :
    draw none n (seconds + clock) script
      = { draw none n clock script with clock := seconds + (draw none n clock script).clock } := by
  -- A wish for no bytes does not look at the script at all.
  rcases Nat.eq_zero_or_pos n with rfl | hn
  · simp [draw]
  induction script generalizing n clock with
  | nil => rw [draw_nil hn, draw_nil hn]
  | cons step rest ih =>
    cases step with
    | bytes bs =>
      rcases Nat.lt_or_ge bs.length n with hlen | hlen
      · rw [draw_bytes_of_lt hn _ rest hlen, draw_bytes_of_lt hn _ rest hlen,
          ih (n - bs.length) clock (by omega)]
        rfl
      · rw [draw_bytes_of_le hn _ rest hlen, draw_bytes_of_le hn _ rest hlen]
    | wait time =>
      rw [draw_wait hn, draw_wait hn, Nat.add_assoc]
      exact ih n (clock + time) hn
    | fault e =>
      rw [draw_fault hn, draw_fault hn]
      by_cases he : e.isInterruption
      · rw [if_pos he, if_pos he]
        exact ih n clock hn
      · rw [if_neg he, if_neg he]
    | stall => rw [draw_stall hn, draw_stall hn]

/-- A dialogue that reads, sends and notes does the same at any time, if there is
no deadline. Dialogues that set deadlines or dial are left out, since an attempt
may be settled at a time that matters. -/
theorem Dialogue.Plain.run_delayed (connector : Connector) {x : Dialogue α} (hx : x.Plain)
    (seconds : Nat) {s : Scene} (hfree : s.deadline = none) :
    run connector x (s.delayed seconds) = (run connector x s).map (Scene.delayed seconds) := by
  induction x generalizing s with
  | done a => rfl
  | recv n shape k ih =>
    -- Only the clock of the draw is moved; verdict and bytes are the same, and so is the
    -- answer that the dialogue gets.
    have hdraw : (s.delayed seconds).draw n
        = { s.draw n with clock := seconds + (s.draw n).clock } := by
      rw [Scene.draw_of_free hfree, Scene.draw_of_free (s := s.delayed seconds) hfree]
      exact Script.draw_delayed seconds n s.clock _
    have hdrawn : (s.delayed seconds).drawn ((s.delayed seconds).draw n)
        = (s.drawn (s.draw n)).delayed seconds := by
      rw [hdraw]
      rfl
    have hverdict : ((s.delayed seconds).draw n).verdict = (s.draw n).verdict := by rw [hdraw]
    have hanswer : (s.delayed seconds).answer n shape = s.answer n shape :=
      Scene.answer_eq_of_taken shape (by rw [hdraw]) hverdict
    rw [run_recv, run_recv, hanswer, hdrawn, hverdict]
    cases s.answer n shape with
    | some r => exact ih r (hx r) hfree
    | none =>
      dsimp only
      by_cases hlate : (s.draw n).verdict = .late
      · rw [if_pos hlate, if_pos hlate]
        rfl
      · rw [if_neg hlate, if_neg hlate]
        rfl
  | send bytes k ih => exact ih _ (hx _) (s := (s.send bytes).2) hfree
  | note entry next ih => exact ih hx (s := s.mark (.noted entry)) hfree
  | within | release | dial | listen | accept => exact hx.elim

/-- If the writes of a composed dialogue succeed, so do those of its second part,
from the scene in which the first part ends. The induction follows the run of the
first part. -/
theorem Dialogue.Delivers.of_bind {connector : Connector} {x : Dialogue α} (hx : x.Plain)
    {f : α → Dialogue β} {s s' : Scene} (h : Delivers connector (x.bind f) s) {a : α}
    (hrun : run connector x s = .ended a s') : Delivers connector (f a) s' := by
  induction x generalizing s with
  | done b =>
    cases hrun
    exact h
  | recv n shape k ih =>
    rw [run_recv] at hrun
    split at hrun
    · rename_i r hanswer
      exact ih r (hx r) (h r hanswer) hrun
    · -- Without an answer the first part does not end, so there is no second one.
      split at hrun <;> cases hrun
  | send bytes k ih =>
    obtain ⟨hok, hrest⟩ := h
    rw [run] at hrun
    dsimp only at hrun
    rw [hok] at hrun
    exact ih _ (hx _) hrest hrun
  | note entry next ih => exact ih hx h hrun
  | within | release | dial | listen | accept => exact hx.elim

namespace Negotiation

open Session

/-! ### Choices -/

/-- The byte with which a policy answers an offer. -/
def choice (policy : Policy) (offer : Bytes) : UInt8 := selectionByte (select policy offer)

/-- Whether a policy serves clients that authenticate in the given way. -/
def Serves (policy : Policy) : Method → Prop
  | .usernamePassword => policy.hasCredentials = true
  | .noAuth => policy.authRequired = false

/-- The byte of a method is sent just if that method is selected, as the refusal
is no byte of a method. -/
theorem selectionByte_eq_toByte_iff (selected : Option Method) (method : Method) :
    selectionByte selected = method.toByte ↔ selected = some method := by
  rcases selected with _ | _ | _ <;> cases method <;> decide

/-- The refusal is sent just if nothing is selected. -/
theorem selectionByte_eq_notAcceptable_iff (selected : Option Method) :
    selectionByte selected = Method.notAcceptable ↔ selected = none := by
  rcases selected with _ | _ | _ <;> decide

section

variable (policy : Policy) (offer : Bytes)

/-- Passwords are selected whenever there are credentials and the client offers
them, also if it offers to go without. -/
theorem select_eq_password_iff :
    select policy offer = some .usernamePassword ↔
      Serves policy .usernamePassword ∧ Method.usernamePassword.toByte ∈ offer := by
  unfold select Serves
  split
  · simp_all
  · split <;> simp_all

/-- A client goes without authentication only if it does not offer passwords to a
server that has them. So it does not matter in which order it offers. -/
theorem select_eq_noAuth_iff :
    select policy offer = some .noAuth ↔
      ¬ (Serves policy .usernamePassword ∧ Method.usernamePassword.toByte ∈ offer) ∧
        Serves policy .noAuth ∧ Method.noAuth.toByte ∈ offer := by
  unfold select Serves
  split
  · simp_all
  · split <;> simp_all

/-- An offer is refused just if it contains no method that is served. A server
with credentials that are required serves passwords only. -/
theorem select_eq_none_iff :
    select policy offer = none ↔ ∀ method, Serves policy method → method.toByte ∉ offer := by
  unfold select
  constructor
  · intro h method hserves hoffered
    split at h
    · cases h
    · rename_i hpassword
      split at h
      · cases h
      · rename_i hfree
        cases method with
        | usernamePassword => exact hpassword ⟨hserves, hoffered⟩
        | noAuth => exact hfree ⟨Bool.eq_false_iff.mp hserves, hoffered⟩
  · intro h
    have hpassword : ¬ (policy.hasCredentials ∧ Method.usernamePassword.toByte ∈ offer) :=
      fun ⟨hserves, hoffered⟩ => h .usernamePassword hserves hoffered
    have hfree : ¬ (¬ policy.authRequired ∧ Method.noAuth.toByte ∈ offer) :=
      fun ⟨hserves, hoffered⟩ => h .noAuth (Bool.eq_false_iff.mpr hserves) hoffered
    rw [if_neg hpassword, if_neg hfree]

variable {policy offer}

/-- The same as a statement about bytes: this is what a client sees of the
selection. -/
theorem choice_eq_toByte_iff {method : Method} :
    choice policy offer = method.toByte ↔ select policy offer = some method :=
  selectionByte_eq_toByte_iff _ method

/-- The byte of the refusal is seen just if nothing is selected. -/
theorem choice_eq_notAcceptable_iff :
    choice policy offer = Method.notAcceptable ↔ select policy offer = none :=
  selectionByte_eq_notAcceptable_iff _

/-- Only what is offered is selected. The refusal is no selection: its byte is
told whether or not a client has offered it. -/
theorem mem_of_choice_ne (h : choice policy offer ≠ Method.notAcceptable) :
    choice policy offer ∈ offer := by
  rw [Ne, choice_eq_notAcceptable_iff] at h
  match hselect : select policy offer with
  | none => exact absurd hselect h
  | some .usernamePassword =>
    rw [choice_eq_toByte_iff.mpr hselect]
    exact ((select_eq_password_iff policy offer).mp hselect).2
  | some .noAuth =>
    rw [choice_eq_toByte_iff.mpr hselect]
    exact ((select_eq_noAuth_iff policy offer).mp hselect).2.2

/-- Neither the order nor the number of times that a method is offered matters.
The policy asks only whether a method is among those that are offered. -/
theorem choice_congr {offer' : Bytes} (h : ∀ m, m ∈ offer ↔ m ∈ offer') :
    choice policy offer = choice policy offer' := by
  unfold choice select
  simp only [h]

/-- An acceptable offer stays acceptable when methods are added. The choice itself
may change, from no authentication to passwords. -/
theorem choice_ne_of_subset {offer' : Bytes} (hsubset : offer ⊆ offer')
    (h : choice policy offer ≠ Method.notAcceptable) :
    choice policy offer' ≠ Method.notAcceptable := by
  intro hrefused
  rw [choice_eq_notAcceptable_iff, select_eq_none_iff] at hrefused
  refine h (choice_eq_notAcceptable_iff.mpr ((select_eq_none_iff policy offer).mpr ?_))
  intro method hserves hoffered
  exact hrefused method hserves (hsubset hoffered)

end

/-- Whether a byte is the method that a policy selects from an offer: the password
method if there are credentials and it is offered, else none if a client need not
authenticate and that is offered, else the refusal. -/
structure Chooses (policy : Policy) (offer : Bytes) (m : UInt8) : Prop where
  password : m = Method.usernamePassword.toByte ↔
    (policy.username.isSome ∧ policy.password.isSome) ∧ Method.usernamePassword.toByte ∈ offer
  free : m = Method.noAuth.toByte ↔ m ≠ Method.usernamePassword.toByte ∧
    policy.authRequired = false ∧ Method.noAuth.toByte ∈ offer
  refusal : m = Method.notAcceptable ↔
    m ≠ Method.usernamePassword.toByte ∧ m ≠ Method.noAuth.toByte
  offered : m ≠ Method.notAcceptable → m ∈ offer

/-- What a policy chooses, read off the conditions of `select`. The three cases
are disjoint, so the choice is one thing only. -/
theorem chooses_choice (policy : Policy) (offer : Bytes) :
    Chooses policy offer (choice policy offer) where
  password := by
    rw [choice_eq_toByte_iff, select_eq_password_iff]
    simp [Serves, Policy.hasCredentials]
  free := by
    rw [Ne, choice_eq_toByte_iff, choice_eq_toByte_iff, select_eq_noAuth_iff,
      select_eq_password_iff]
    rfl
  refusal := by
    rw [Ne, Ne, choice_eq_notAcceptable_iff, choice_eq_toByte_iff, choice_eq_toByte_iff]
    rcases select policy offer with _ | _ | _ <;> simp
  offered := mem_of_choice_ne

/-! ### Greetings -/

/-- Whether a client greets with an offer: its stream starts with the version, a
number and that many methods. -/
def Greets (client : Stream) (offer : Bytes) : Prop :=
  offer.length ≤ 255 ∧ offerMessage offer <+: client.script.lead

/-- The stream of a client whose offer has been read and answered. -/
def answered (client : Stream) (offer : Bytes) (m : UInt8) : Stream where
  script := (client.script.draw none (offerMessage offer).length 0).rest
  outlet := (client.outlet.send [version, m]).2.2

section

variable {policy : Policy} {connector : Connector} {client : Stream} {offer : Bytes}

/-- A greeting is read just if the stream starts with one, before it fails or
stalls. Nothing else of the stream matters, and the server learns just the offer.
-/
theorem readGreeting_ended_iff (connector : Connector) (client : Stream) (offer : Bytes) :
    (∃ s, readGreeting.run.run connector (.atStart client) = .ended (.ok offer) s) ↔
      Greets client offer := by
  have hhears : readGreeting.Hears fun _ => True := Exchange.hears_readGreeting fun _ => trivial
  rw [reads_greeting.ended_iff connector hhears (fun a m hm => hm.2 ▸ gets_greeting hm.1) rfl]
  constructor
  · rintro ⟨m, ⟨hlen, rfl⟩, hlead⟩
    exact ⟨hlen, hlead⟩
  · intro ⟨hlen, hlead⟩
    exact ⟨_, ⟨hlen, rfl⟩, hlead⟩

/-- A stream starts with one greeting only. The run that reads it is the same for
both. -/
theorem Greets.unique {offer' : Bytes} (h : Greets client offer) (h' : Greets client offer') :
    offer = offer' := by
  obtain ⟨s, hrun⟩ := (readGreeting_ended_iff default client offer).mpr h
  obtain ⟨s', hrun'⟩ := (readGreeting_ended_iff default client offer').mpr h'
  rw [hrun] at hrun'
  cases hrun'
  rfl

/-- A negotiation reads the greeting first. It goes on only if the reader ends,
and `ExceptT.bindCont` tells an offer from an error. -/
theorem run_negotiate (policy : Policy) (connector : Connector) (s : Scene) :
    (negotiate policy).run.run connector s = match readGreeting.run.run connector s with
      | .ended r s' => (ExceptT.bindCont (answerOffer policy) r).run connector s'
      | .late s' => .late s'
      | .stuck s' => .stuck s' := by
  rw [negotiate_eq]
  refine (run_bind connector plain_readGreeting (ExceptT.bindCont (answerOffer policy)) s).trans ?_
  cases readGreeting.run.run connector s <;> rfl

/-- Without a greeting a negotiation says nothing, and nobody passes. It may end
with an error, or wait for the rest of a greeting that never comes. -/
theorem run_of_not_greets (policy : Policy) (connector : Connector)
    (h : ∀ offer, ¬ Greets client offer) :
    ((negotiate policy).run.run connector (.atStart client)).scene.history.sentBytes = [] ∧
      ∀ method, ((negotiate policy).run.run connector (.atStart client)).halt
        ≠ .ended (.ok method) := by
  obtain ⟨g, hg, hcourse⟩ := run_course connector True readGreeting.run (.atStart client) false
    (.inr trivial) (by simp [Scene.atStart])
  -- Reading a greeting says nothing, however it stops.
  obtain ⟨hquiet, -⟩ := reads_greeting.stops hcourse
  have hsilent : (readGreeting.run.run connector
      (.atStart client)).scene.history.sentBytes = [] := by
    rw [hg]
    exact hquiet.sentBytes_eq
  have hrun := run_negotiate policy connector (.atStart client)
  cases hread : readGreeting.run.run connector (.atStart client) with
  | ended r s =>
    rw [hread] at hsilent hrun
    cases r with
    -- A greeting that was read is one that the client has made.
    | ok offer =>
      exact absurd ((readGreeting_ended_iff connector client offer).mp ⟨s, hread⟩) (h offer)
    | error e =>
      rw [hrun]
      exact ⟨hsilent, nofun⟩
  | late s | stuck s =>
    rw [hread] at hsilent hrun
    rw [hrun]
    exact ⟨hsilent, nofun⟩

/-- What is done about a selection is reading, sending and noting. So it does the
same at any time. -/
theorem plain_carryOut (policy : Policy) (selected : Option Method) :
    (carryOut policy selected).run.Plain := by
  match selected with
  | none | some .noAuth => trivial
  | some .usernamePassword => exact Exchange.plain_bind (plain_authenticate _) fun _ => trivial

/-- After a greeting a negotiation carries out what it has selected, on what is
left of the stream. The part `h` of the history is what has happened before, and
time may have passed; the rest of the run shows neither. -/
theorem run_of_greets (hgreets : Greets client offer)
    (hdelivers : Delivers connector (negotiate policy).run (.atStart client)) :
    ∃ h : History, h.receivedBytes = offerMessage offer ∧
      h.sentBytes = [version, choice policy offer] ∧
      ∃ seconds, (negotiate policy).run.run connector (.atStart client)
        = ((carryOut policy (select policy offer)).run.run connector
          (.atStart (answered client offer (choice policy offer)))).map
            fun s => (s.delayed seconds).onto h := by
  obtain ⟨hlen, hlead⟩ := hgreets
  obtain ⟨g, htakes⟩ := gets_greeting hlen
  obtain ⟨h, hread, hquiet, hreceived⟩ :=
    run_takes_of_lead connector htakes (s := .atStart client) rfl hlead
  generalize hs : (Scene.atStart client).past (offerMessage offer).length h = s at hread
  have hread : readGreeting.run.run connector (.atStart client) = .ended (.ok offer) s := hread
  generalize hbytes : [version, choice policy offer] = bytes
  generalize hnote : Event.noted ⟨.debug, s!"Client offered methods: {offerText offer}"⟩ = note
  -- The selection is the only write here, and it succeeds.
  have hok : ((s.mark note).send bytes).1 = .ok () := by
    rw [negotiate_eq] at hdelivers
    have hanswer := Delivers.of_bind plain_readGreeting hdelivers hread
    rw [← hbytes, ← hnote]
    exact hanswer.1
  have hsent : (s.stream.outlet.send bytes).1 = bytes := Outlet.send_of_ok hok
  refine ⟨h ++ [note, .sent bytes], ?_, ?_, s.clock, ?_⟩
  · simp [hreceived, History.receivedBytes, ← hnote]
  · simp [hquiet.sentBytes_eq, History.sentBytes, ← hnote]
  · have hafter : ((s.mark note).send bytes).2
        = ((Scene.atStart (answered client offer (choice policy offer))).delayed s.clock).onto
          (h ++ [note, .sent bytes]) := by
      have hsent' : ((s.mark note).stream.outlet.send bytes).1 = bytes := hsent
      simp only [Scene.send, hsent']
      rw [← hs, answered, hbytes]
      simp [Scene.past, Scene.atStart, Scene.mark, Scene.delayed, Scene.onto, Scene.draw]
    have hcarry : (negotiate policy).run.run connector (.atStart client)
        = (carryOut policy (select policy offer)).run.run connector
          ((s.mark note).send bytes).2 := by
      rw [run_negotiate, hread]
      show Dialogue.run connector (.note _ (.send [version, choice policy offer] _)) s = _
      rw [Dialogue.run, hnote, hbytes, Dialogue.run]
      dsimp only
      rw [hok]
      rfl
    rw [hcarry, hafter, run_onto, (plain_carryOut policy _).run_delayed connector s.clock rfl]
    cases (carryOut policy (select policy offer)).run.run connector
      (.atStart (answered client offer (choice policy offer))) <;> rfl

/-! ### Negotiations -/

/-- How a negotiation goes that has come to an end with its selection. -/
structure Ends (client : Stream) (offer : Bytes) (m : UInt8) (r : Except ProtocolError Method)
    (p : Progress (Except ProtocolError Method)) : Prop where
  halt : p.halt = .ended r
  received : p.scene.history.receivedBytes = offerMessage offer
  sent : p.scene.history.sentBytes = [version, m]
  stream : p.scene.stream = answered client offer m

/-- How a negotiation goes that leads to a password exchange: from its selection on
it is that exchange. -/
structure LeadsTo (offer : Bytes) (p : Progress (Except ProtocolError Method))
    (q : Progress (Except ProtocolError Unit)) : Prop where
  halt : p.halt = q.halt.map (Except.map fun _ => .usernamePassword)
  history : ∃ h : History, h.receivedBytes = offerMessage offer ∧
    h.sentBytes = [version, Method.usernamePassword.toByte] ∧
    p.scene.history = h ++ q.scene.history
  stream : p.scene.stream = q.scene.stream

/-- What comes of a negotiation with a client. -/
structure Selects (policy : Policy) (connector : Connector) (client : Stream)
    (p : Progress (Except ProtocolError Method)) : Prop where
  /-- A selection is what a client is told that greets, and it is the choice from its
  offer. -/
  told : ∀ m, [version, m] <+: p.scene.history.sentBytes ↔
    ∃ offer, Greets client offer ∧ m = choice policy offer
  /-- Nobody else is told anything. -/
  silent : (∀ offer, ¬ Greets client offer) → p.scene.history.sentBytes = []
  /-- A client passes without authentication just if it is told so. -/
  free : p.halt = .ended (.ok .noAuth) ↔
    [version, Method.noAuth.toByte] <+: p.scene.history.sentBytes
  passed : ∀ offer, Greets client offer → choice policy offer = Method.noAuth.toByte →
    Ends client offer Method.noAuth.toByte (.ok .noAuth) p
  refused : ∀ offer, Greets client offer → choice policy offer = Method.notAcceptable →
    Ends client offer Method.notAcceptable (.error .noAcceptableMethod) p
  tried : ∀ offer, Greets client offer → choice policy offer = Method.usernamePassword.toByte →
    ∃ c : Credentials, policy.username = some c.username ∧ policy.password = some c.password ∧
      LeadsTo offer p ((authenticate c).run.run connector
        (.atStart (answered client offer Method.usernamePassword.toByte)))

/-- A greeting whose selection says all that is to be said: no method is
acceptable, or none is needed. Nothing is read behind the greeting then. -/
theorem ends_of_greets (hgreets : Greets client offer)
    (hdelivers : Delivers connector (negotiate policy).run (.atStart client))
    {r : Except ProtocolError Method}
    (hcarry : (carryOut policy (select policy offer)).run = .done r) :
    Ends client offer (choice policy offer) r
      ((negotiate policy).run.run connector (.atStart client)) := by
  obtain ⟨h, hreceived, hsent, seconds, hrun⟩ := run_of_greets hgreets hdelivers
  rw [hcarry] at hrun
  have hscene : ((negotiate policy).run.run connector (.atStart client)).scene.history = h := by
    rw [hrun]
    exact List.append_nil h
  exact ⟨by rw [hrun]; rfl, by rw [hscene, hreceived], by rw [hscene, hsent], by rw [hrun]; rfl⟩

/-- A greeting that leads to a password exchange. How that ends is left to the
exchange; the negotiation only turns its success into the name of the method. -/
theorem leadsTo_of_greets (hgreets : Greets client offer)
    (hdelivers : Delivers connector (negotiate policy).run (.atStart client))
    (hselect : select policy offer = some .usernamePassword) :
    LeadsTo offer ((negotiate policy).run.run connector (.atStart client))
      ((authenticate policy.credentials).run.run connector
        (.atStart (answered client offer Method.usernamePassword.toByte))) := by
  have hchoice : choice policy offer = Method.usernamePassword.toByte :=
    choice_eq_toByte_iff.mpr hselect
  obtain ⟨h, hreceived, hsent, seconds, hrun⟩ := run_of_greets hgreets hdelivers
  rw [hselect, hchoice] at hrun
  generalize Scene.atStart (answered client offer Method.usernamePassword.toByte) = s at hrun ⊢
  have hcarry : (carryOut policy (some .usernamePassword)).run.run connector s = _ :=
    run_bind connector (plain_authenticate policy.credentials)
      (ExceptT.bindCont fun _ => (pure .usernamePassword : Exchange Method)) s
  rw [hcarry] at hrun
  -- What follows the exchange changes its value and nothing else.
  rw [hrun]
  cases (authenticate policy.credentials).run.run connector s with
  | ended r s' =>
    cases r with
    | ok u => exact ⟨rfl, ⟨h, hreceived, hchoice ▸ hsent, rfl⟩, rfl⟩
    | error e => exact ⟨rfl, ⟨h, hreceived, hchoice ▸ hsent, rfl⟩, rfl⟩
  | late s' | stuck s' => exact ⟨rfl, ⟨h, hreceived, hchoice ▸ hsent, rfl⟩, rfl⟩

/-- After a greeting a client has been told the choice from its offer, and no
other byte could be taken for it. -/
theorem told_of_greets (hgreets : Greets client offer)
    (hdelivers : Delivers connector (negotiate policy).run (.atStart client)) (m : UInt8) :
    [version, m] <+: ((negotiate policy).run.run connector
        (.atStart client)).scene.history.sentBytes ↔ m = choice policy offer := by
  obtain ⟨h, -, hsent, seconds, hrun⟩ := run_of_greets hgreets hdelivers
  rw [hrun, Progress.scene_map]
  show [version, m] <+: History.sentBytes (h ++ _) ↔ _
  rw [History.sentBytes_append, hsent]
  simp [List.cons_prefix_cons]

/-- How it ends tells whether a client has passed without authentication. A client
that has passed with a password ends with the other method. -/
theorem free_of_greets (hgreets : Greets client offer)
    (hdelivers : Delivers connector (negotiate policy).run (.atStart client)) :
    ((negotiate policy).run.run connector (.atStart client)).halt = .ended (.ok .noAuth) ↔
      choice policy offer = Method.noAuth.toByte := by
  rw [choice_eq_toByte_iff]
  match hselect : select policy offer with
  | none =>
    have hends := ends_of_greets hgreets hdelivers (r := .error .noAcceptableMethod)
      (by rw [hselect]; rfl)
    simp [hends.halt]
  | some .noAuth =>
    have hends := ends_of_greets hgreets hdelivers (r := .ok .noAuth) (by rw [hselect]; rfl)
    simp [hends.halt]
  | some .usernamePassword =>
    refine iff_of_false ?_ (by simp)
    rw [(leadsTo_of_greets hgreets hdelivers hselect).halt]
    cases ((authenticate policy.credentials).run.run connector
      (.atStart (answered client offer Method.usernamePassword.toByte))).halt with
    | ended r => cases r <;> simp [Halt.map, Except.map]
    | late | stuck => simp [Halt.map]

/-- All that comes of a negotiation, assembled from its two cases: a client that
greets, and one that does not. -/
theorem selects_negotiate
    (hdelivers : Delivers connector (negotiate policy).run (.atStart client)) :
    Selects policy connector client ((negotiate policy).run.run connector (.atStart client)) where
  -- The code that is told, and whether a client gets in freely, are iffs: without a
  -- greeting both sides are false.
  told m := by
    by_cases h : ∃ offer, Greets client offer
    · obtain ⟨offer, hgreets⟩ := h
      rw [told_of_greets hgreets hdelivers]
      constructor
      · intro hm
        exact ⟨offer, hgreets, hm⟩
      · rintro ⟨offer', hgreets', hm⟩
        rw [hgreets.unique hgreets', hm]
    · have hnone := not_exists.mp h
      rw [(run_of_not_greets policy connector hnone).1]
      refine iff_of_false (by simp) ?_
      rintro ⟨offer, hgreets, -⟩
      exact hnone offer hgreets
  silent h := (run_of_not_greets policy connector h).1
  free := by
    by_cases h : ∃ offer, Greets client offer
    · obtain ⟨offer, hgreets⟩ := h
      rw [free_of_greets hgreets hdelivers, told_of_greets hgreets hdelivers, eq_comm]
    · obtain ⟨hsilent, hnobody⟩ := run_of_not_greets policy connector (not_exists.mp h)
      rw [hsilent]
      exact iff_of_false (hnobody _) (by simp)
  passed offer hgreets hchoice := by
    rw [← hchoice]
    exact ends_of_greets hgreets hdelivers (by rw [choice_eq_toByte_iff.mp hchoice]; rfl)
  refused offer hgreets hchoice := by
    rw [← hchoice]
    exact ends_of_greets hgreets hdelivers (by rw [choice_eq_notAcceptable_iff.mp hchoice]; rfl)
  tried offer hgreets hchoice := by
    have hselect := choice_eq_toByte_iff.mp hchoice
    have hcredentials := ((select_eq_password_iff policy offer).mp hselect).1
    obtain ⟨hu, hp⟩ := Bool.and_eq_true_iff.mp hcredentials
    refine ⟨policy.credentials, ?_, ?_, leadsTo_of_greets hgreets hdelivers hselect⟩
    · exact (Option.getD_of_ne_none (Option.isSome_iff_ne_none.mp hu) "").symm
    · exact (Option.getD_of_ne_none (Option.isSome_iff_ne_none.mp hp) "").symm

end

/-- Which method is selected, and what follows from it. The two parts are about runs and
about choices.

If no write fails, a client is told a selection just if its stream starts with a
greeting, and the selection is the choice from the offer. The choice of no method ends
the negotiation with an error, and that of no authentication lets the client pass; in
both cases the greeting has been taken and the selection written, and nothing else.
After the choice of passwords the negotiation is the password exchange with the
credentials of the policy, on what is left of the stream.

The choice is that of `Chooses`. It depends on the set of the offered methods only, and
an offer that is acceptable stays so with more methods. -/
theorem negotiation_selects (policy : Policy) :
    (∀ (connector : Connector) (client : Stream),
      Delivers connector (negotiate policy).run (.atStart client) →
        Selects policy connector client
          ((negotiate policy).run.run connector (.atStart client))) ∧
    ∀ offer : Bytes, Chooses policy offer (choice policy offer) ∧
      ∀ offer' : Bytes,
        ((∀ m, m ∈ offer ↔ m ∈ offer') → choice policy offer = choice policy offer') ∧
        (offer ⊆ offer' → choice policy offer ≠ Method.notAcceptable →
          choice policy offer' ≠ Method.notAcceptable) := by
  constructor
  · intro connector client hdelivers
    exact selects_negotiate hdelivers
  · intro offer
    refine ⟨chooses_choice policy offer, ?_⟩
    intro offer'
    exact ⟨choice_congr, choice_ne_of_subset⟩

/-- A client that offers no authentication twice, in two segments, and whose stream then
fails. -/
def twiceOffering : Stream where
  script := [.bytes [5, 2, 0], .wait 3, .bytes [0, 77], .fault .earlyEof]

/-- It passes a policy without credentials, and the byte behind its greeting is left. An
offer in which the method stands once is answered alike, and so is one with another method
as well. -/
theorem negotiation_selects_of_twiceOffering :
    Delivers default (negotiate {}).run (.atStart twiceOffering) ∧
      Ends twiceOffering [0, 0] 0 (.ok .noAuth)
        ((negotiate {}).run.run default (.atStart twiceOffering)) ∧
      (answered twiceOffering [0, 0] 0).script = [.bytes [77], .fault .earlyEof] ∧
      choice {} [0, 0] = choice {} [0] ∧ choice {} [0, 7] ≠ Method.notAcceptable := by
  obtain ⟨hruns, hchoices⟩ := negotiation_selects {}
  have hdelivers : Delivers default (negotiate {}).run (.atStart twiceOffering) :=
    delivers_of_sure default _ _ ⟨rfl, rfl⟩
  have hgreets : Greets twiceOffering [0, 0] := ⟨by decide, [77], rfl⟩
  obtain ⟨-, honce⟩ := hchoices [0, 0]
  obtain ⟨-, hmore⟩ := hchoices [0]
  refine ⟨hdelivers, (hruns default twiceOffering hdelivers).passed [0, 0] hgreets rfl, rfl, ?_, ?_⟩
  · exact (honce [0]).1 (by simp)
  · exact (hmore [0, 7]).2 (by simp) (by decide)

end Negotiation

end Socks5
