import Socks5.Proofs.AuthenticatedAccess
import Socks5.Proofs.Handshake
import Socks5.Proofs.Lockstep

/-!
# `Socks5.Proofs.Schedule`: a handshake does not depend on scheduling

One run of a handshake over pipes of one byte comes to an end
(`Session.settles_handshake`). The beats of two parties can be exchanged, so
all runs over all pipes come to the same end. It remains to show that every
step is made of beats.

* `Ended.server_kept`: nobody is about to write to a party that has dropped its
  end. Nobody would ever take these bytes, but at the end nothing is left.
* `Ended.calm`: no deadline is over either, if all are at least a second away
  when they are set (`Dialogue.Patient`).
* `Ended.of_steps`: so every step leads nearer to the end.
* `schedule_free`: a handshake neither deadlocks nor depends on scheduling.

Time does not pass in any of these runs. The theorem says that it never has to.
-/

set_option autoImplicit false

namespace Socks5

open Net Dialogue

/-! ### Patient dialogues -/

namespace Dialogue

variable {α β : Type}

/-- Whether every deadline that a dialogue sets is at least a second away. -/
def Patient : Dialogue α → Prop
  | .done _ => True
  | .recv _ _ k => ∀ r, Patient (k r)
  | .send _ k => ∀ r, Patient (k r)
  | .note _ next | .release next => Patient next
  | .within seconds late next => 1 ≤ seconds ∧ Patient late ∧ Patient next
  | .dial _ k | .listen _ k | .accept k => ∀ r, Patient (k r)

/-- Who sets no deadline is patient. -/
theorem Plain.patient {x : Dialogue α} (hx : x.Plain) : x.Patient := by
  induction x with
  | done a => trivial
  | recv n shape k ih => exact fun r => ih r (hx r)
  | send bytes k ih => exact fun r => ih r (hx r)
  | note entry next ih => exact ih hx
  | within | release | dial | listen | accept => exact hx.elim

/-- A plain dialogue stays patient with what follows it. It sets no deadline, so
all deadlines are those of the second part. -/
theorem Plain.patient_bind {x : Dialogue α} (hx : x.Plain) {f : α → Dialogue β}
    (hf : ∀ a, (f a).Patient) : (x.bind f).Patient := by
  induction x with
  | done a => exact hf a
  | recv n shape k ih => exact fun r => ih r (hx r)
  | send bytes k ih => exact fun r => ih r (hx r)
  | note entry next ih => exact ih hx
  | within | release | dial | listen | accept => exact hx.elim

end Dialogue

namespace Server

/-- Telling of a failure sets no deadline. -/
theorem patient_failWith (code : ReplyCode) (e : ServiceError) : (failWith code e).Patient := by
  intro r
  cases r with
  | ok u => trivial
  | error fault => trivial

/-- Granting a request sets none either, so only what follows matters. -/
theorem patient_grant (bound : Endpoint) {next : Dialogue (Except ServiceError Unit)}
    (hnext : next.Patient) : (grant bound next).Patient := by
  rw [grant, Reply.send_success]
  intro r
  cases r with
  | ok u => exact hnext
  | error e => trivial

/-- A CONNECT sets one deadline, for its dial. Policies that are usable allow at
least a second for it, which is what patience asks for. -/
theorem patient_connect {policy : Policy} (hc : 1 ≤ policy.connectTimeout) (target : Address) :
    (connect policy target).Patient := by
  rw [connect_eq]
  refine ⟨hc, patient_failWith _ _, ?_⟩
  intro r
  cases r with
  | ok bound => exact patient_grant bound trivial
  | error e => exact patient_failWith _ _

/-- A BIND sets one deadline, for its peer. It is set only after the client has
been told where the listener is. -/
theorem patient_bind {policy : Policy} (hc : 1 ≤ policy.connectTimeout) (target : Address) :
    (bind policy target).Patient := by
  rw [bind_eq]
  intro r
  cases r with
  | error e => exact patient_failWith _ _
  | ok bound =>
    refine patient_grant bound ⟨hc, patient_failWith _ _, ?_⟩
    intro r
    cases r with
    | error e => exact patient_failWith _ _
    | ok peer =>
      show (welcome target peer).Patient
      unfold welcome
      split
      · exact patient_grant peer trivial
      · exact patient_failWith _ _

/-- Whatever is requested, only the timeout for a dial or a peer is set. The
deadline of the request itself is over by then. -/
theorem patient_afterRequest {policy : Policy} (hc : 1 ≤ policy.connectTimeout)
    (r : Except ServiceError Request) : (afterRequest policy r).Patient := by
  cases r with
  | error e =>
    show (rejectRequest e).Patient
    unfold rejectRequest
    split
    · split
      · exact patient_failWith _ _
      · trivial
    · trivial
  | ok q =>
    show (perform policy q).Patient
    unfold perform
    split
    · exact patient_connect hc q.address
    · split
      · exact patient_bind hc q.address
      · exact patient_failWith _ _
    · exact patient_failWith _ _

/-- After the negotiation there is the deadline of the request, too. A failed
negotiation ends the connection, so there is nothing to be patient about. -/
theorem patient_afterNegotiation {policy : Policy} (hs : 1 ≤ policy.handshakeTimeout)
    (hc : 1 ≤ policy.connectTimeout) (r : Except ServiceError Method) :
    (afterNegotiation policy r).Patient := by
  cases r with
  | error e => trivial
  | ok method =>
    show Patient ((withDeadline policy.handshakeTimeout "request" Request.read).run.bind
      (afterRequest policy))
    rw [withDeadline_bind]
    exact ⟨hs, patient_afterRequest hc _,
      Request.plain_read.patient_bind fun r => patient_afterRequest hc _⟩

/-- A server whose timeouts are at least a second is patient. With a timeout of
zero a deadline would be over as soon as it is set. -/
theorem patient_serve {policy : Policy} (hs : 1 ≤ policy.handshakeTimeout)
    (hc : 1 ≤ policy.connectTimeout) : (serve policy).Patient := by
  rw [serve_eq, withDeadline_bind]
  exact ⟨hs, patient_afterNegotiation hs hc _,
    (Negotiation.plain_negotiate policy).patient_bind fun r => patient_afterNegotiation hs hc _⟩

end Server

/-! ### Patient parties -/

namespace Party

variable {α : Type} {connector : Connector} {p p' : Party α}

/-- Whether a party is patient, and so is its deadline. -/
structure Patient (p : Party α) : Prop where
  phase : ∀ x, p.phase = .busy x → x.Patient
  alarm : ∀ limit late, p.alarm = some (limit, late) → 1 ≤ limit ∧ late.Patient

/-- A patient party stays patient when it goes on with its deadline as it is. -/
theorem Patient.goes (hp : p.Patient) {x : Dialogue α} (hx : x.Patient)
    (hphase : p'.phase = .busy x) (halarm : p'.alarm = p.alarm) : p'.Patient := by
  refine ⟨?_, halarm ▸ hp.alarm⟩
  rw [hphase]
  rintro y ⟨⟩
  exact hx

/-- A patient party stays patient when its attempt to connect is settled. Only
attempts that are settled at once are, so no time passes here. -/
theorem Patient.connect {k : Except IoError Endpoint → Dialogue α} {a : Attempt Connection}
    (hp : p.Patient) (hk : ∀ r, (k r).Patient) (h : p.connect k a = some p') : p'.Patient := by
  unfold Party.connect at h
  split at h
  · cases h
    exact hp.goes (hk _) rfl rfl
  · cases h
    exact hp.goes (hk _) rfl rfl
  · cases h
  · cases h

/-- A patient party stays patient when it thinks. A deadline is set in one case
only, and it is as far away as the dialogue says. -/
theorem Patient.think (hp : p.Patient) (h : p.think connector = some p') : p'.Patient := by
  unfold Party.think at h
  split at h
  case h_1 => cases h
  case h_2 =>
    cases h
    exact ⟨nofun, hp.alarm⟩
  -- A block is complete, so the party goes on with it.
  case h_3 n shape k heq =>
    split at h
    · cases h
      exact hp.goes (hp.phase _ heq _) rfl rfl
    · cases h
  case h_4 k heq =>
    cases h
    exact hp.goes (hp.phase _ heq _) rfl rfl
  case h_5 => cases h
  case h_6 entry next heq =>
    have hnext := hp.phase _ heq
    cases h
    exact hp.goes (x := next) hnext rfl rfl
  case h_7 seconds late next heq =>
    cases h
    -- The party sets a deadline. It is at least a second away, as the dialogue is
    -- patient.
    obtain ⟨hseconds, hlate, hnext⟩ := hp.phase _ heq
    refine ⟨?_, ?_⟩
    · rintro x ⟨⟩
      exact hnext
    · intro limit late' halarm
      obtain ⟨limit', hlimit, hpair⟩ := Option.map_eq_some_iff.mp halarm
      cases hpair
      have hlater := eq_of_deadline?_eq_some hlimit
      exact ⟨by omega, hlate⟩
  case h_8 next heq =>
    have hnext := hp.phase _ heq
    cases h
    refine ⟨?_, nofun⟩
    rintro x ⟨⟩
    exact hnext
  -- Dialing, listening and accepting go on with whatever comes of them.
  case h_9 target k heq =>
    have hmark : (p.mark (.dialed target)).Patient := ⟨hp.phase, hp.alarm⟩
    exact hmark.connect (hp.phase _ heq) h
  case h_10 target k heq =>
    split at h
    · cases h
      exact hp.goes (hp.phase _ heq _) rfl rfl
    · split at h
      · cases h
        exact hp.goes (hp.phase _ heq _) rfl rfl
      · cases h
        exact hp.goes (hp.phase _ heq _) rfl rfl
  case h_11 k heq =>
    obtain ⟨l, hl, hconnect⟩ := Option.bind_eq_some_iff.mp h
    exact hp.connect (hp.phase _ heq) hconnect

/-- A patient party stays patient when it moves. Bytes do not touch a deadline,
and one that is over leads to what is done late, which is patient as well. -/
theorem Patient.moves {cap : Nat} {gone : Bool} {i i' o o' : Bytes} (hp : p.Patient)
    (h : Moves connector cap gone p i o p' i' o') : p'.Patient := by
  cases h with
  | think h => exact hp.think h
  | take hphase => exact ⟨hp.phase, hp.alarm⟩
  | put hphase =>
    have hrest := hp.phase _ hphase
    refine hp.goes ?_ rfl rfl
    exact hrest
  | finish hphase => exact hp.goes (hp.phase _ hphase _) rfl rfl
  | refused hphase => exact hp.goes (hp.phase _ hphase _) rfl rfl
  | expire hthink hwaits hlate =>
    refine ⟨?_, nofun⟩
    rintro x ⟨⟩
    exact (hp.alarm _ _ hlate).2

end Party

/-! ### The end of a run -/

namespace Duplex

open Party

variable {ε α ε' β : Type} {connector : Connector} {capUp capDown : Nat}
  {s t u : Duplex ε α ε' β} {a : Except ε α} {b : Except ε' β} {n : Nat}

/-- Nobody beats after the end. -/
theorem Ended.no_beat (h : t.Ended a b) (u : Duplex ε α ε' β) :
    ¬ Beat connector capUp capDown t u := by
  rintro (hbeat | hbeat)
  · exact hbeat.phase_ne a h.client
  · exact hbeat.phase_ne b h.server

/-- Whether bytes are on their way, or about to be, to a server that has dropped its end. -/
def Clogged (s : Duplex ε α ε' β) : Prop :=
  s.server.dropped = true ∧
    (s.up ≠ [] ∨ ∃ m k, s.client.phase = .busy (.send m k) ∧ m ≠ [])

/-- Nobody takes these bytes, so they stay on their way. The server has left, and
a client that writes only adds to them. -/
theorem Beat.clogged (h : Beat connector capUp capDown s t) (hs : s.Clogged) : t.Clogged := by
  obtain ⟨hdropped, hup⟩ := hs
  obtain ⟨client, server, up, down⟩ := s
  cases h with
  | server h =>
    rw [h.dropped] at hdropped
    cases hdropped
  | client h =>
    refine ⟨hdropped, .inl ?_⟩
    obtain hup | ⟨m, k, hphase, hm⟩ := hup
    · cases h with
      | think | take | finish => exact hup
      | put => exact List.append_ne_nil_of_left_ne_nil hup _
    · obtain ⟨b, rest, rfl⟩ := List.exists_cons_of_ne_nil hm
      cases h with
      | think h => simp [think_send_cons hphase] at h
      | take hp | finish hp => cases hphase.symm.trans hp
      | put => exact List.append_ne_nil_of_right_ne_nil _ (List.cons_ne_nil _ _)

/-- If all comes to an end, no client is about to write to a server that has
dropped its end. Otherwise its bytes would still be on their way at the end. -/
theorem Ended.server_kept (hend : t.Ended a b) (h : Walk (Beat connector capUp capDown) n s t)
    {m : Bytes} {k : Except IoError Unit → Dialogue (Except ε α)}
    (hs : s.client.phase = .busy (.send m k)) (hm : m ≠ []) : s.server.dropped = false := by
  cases hdropped : s.server.dropped with
  | false => rfl
  | true =>
    obtain ⟨-, hup | ⟨m, k, hphase, -⟩⟩ :=
      h.keeps (P := Clogged) (fun _ _ => Beat.clogged) ⟨hdropped, .inr ⟨m, k, hs, hm⟩⟩
    · exact absurd hend.up hup
    · rw [hend.client] at hphase
      cases hphase

/-- Whether both parties are patient. -/
def Patient (s : Duplex ε α ε' β) : Prop := s.client.Patient ∧ s.server.Patient

/-- Patient parties stay patient from step to step. -/
theorem Step.patient (h : Step connector capUp capDown s t) (hs : s.Patient) : t.Patient := by
  cases h with
  | client h => exact ⟨hs.1.moves h, hs.2⟩
  | server h => exact ⟨hs.1, hs.2.moves h⟩

/-- Patient parties whose beats come to an end are calm. Nobody finds a pipe
dropped on the way, and no deadline passes, as each is at least a second away. -/
theorem Ended.calm (hend : t.Ended a b) (h : Walk (Beat connector capUp capDown) n s t)
    (hs : s.Patient) : s.Calm := by
  have hflip := h.map (f := Duplex.flip) fun _ _ => Beat.flip
  refine ⟨fun _ _ => hend.server_kept h, fun _ _ => hend.flip.server_kept hflip, ?_, ?_⟩
  · intro late hlate
    exact absurd (hs.1.alarm _ _ hlate).1 (by decide)
  · intro late hlate
    exact absurd (hs.2.alarm _ _ hlate).1 (by decide)

/-- If beats of patient parties come to an end, then all their steps lead there:
each step is one beat less at least. So the length of one walk of beats bounds the
steps of every run. -/
theorem Ended.of_steps (hend : u.Ended a b) (h : Walk (Beat connector capUp capDown) n s u)
    (hs : s.Patient) {m : Nat} (hsteps : Walk (Step connector capUp capDown) m s t) :
    ∃ k, Walk (Beat connector capUp capDown) k t u ∧ m + k ≤ n ∧ t.Patient := by
  induction hsteps generalizing n with
  | stop s => exact ⟨n, h, by omega, hs⟩
  | step hstep hrest ih =>
    obtain ⟨i, hbeats⟩ := hstep.walk (hend.calm h hs)
    obtain ⟨j, rfl, hleft⟩ := h.of_diamond (fun _ _ _ => Beat.diamond) hend.no_beat hbeats
    obtain ⟨k, hwalk, hle, hpatient⟩ := ih hleft (hstep.patient hs)
    exact ⟨k, hwalk, by omega, hpatient⟩

/-- Whoever is not at the end can make a step. -/
theorem step_of_walk (h : Walk (Beat connector capUp capDown) n s t) (hne : s ≠ t) :
    ∃ u, Step connector capUp capDown s u := by
  cases h with
  | stop s => exact absurd rfl hne
  | step hbeat hrest => exact hbeat.step

end Duplex

/-! ### Handshakes -/

namespace Session

open Duplex

/-- A client that begins its handshake with a server, with nothing on its way. -/
def opening (policy : Policy) (command : Command) (target : String)
    (credentials : Option Credentials) : Duplex ProtocolError Address ServiceError Unit where
  client := { phase := .busy (Client.handshake command target credentials).run }
  server := { phase := .busy (Server.serve policy) }

/-- A handshake neither deadlocks nor depends on scheduling. Take any client and any server
whose timeouts are at least a second, and a connector that settles each dial at once and opens
no listeners. Then there is one end, with the results that the verdict says, and one bound, for
pipes of all capacities of at least one byte and for whoever goes on next with however many bytes:
no run has more steps than the bound; on its way nobody writes to a party that has dropped its end
and no deadline is over; whoever has not left yet, somebody can make a step; and a run that cannot
go on is at that end, with the same bytes written and the same targets dialed. -/
theorem schedule_free (policy : Policy) (connector : Connector) (command : Command)
    (target : String) (credentials : Option Credentials) (hs : 1 ≤ policy.handshakeTimeout)
    (hc : 1 ≤ policy.connectTimeout) (hlisten : connector.listen = none)
    (hdial : ∀ a, ∃ r, connector.dial a = .settled 0 r) :
    ∃ a b bound, ∃ final : Duplex ProtocolError Address ServiceError Unit,
      (Verdict.of policy connector command target credentials).Ends a b ∧ final.Ended a b ∧
      ∀ capUp capDown, 1 ≤ capUp → 1 ≤ capDown →
        ∀ n s, Walk (Duplex.Step connector capUp capDown) n
          (opening policy command target credentials) s →
        n ≤ bound ∧ s.Calm ∧
        (¬ ((∃ a, s.client.phase = .left a) ∧ ∃ b, s.server.phase = .left b) →
          ∃ t, Duplex.Step connector capUp capDown s t) ∧
        ((∀ t, ¬ Duplex.Step connector capUp capDown s t) → s = final) := by
  obtain ⟨bound, final, a, b, hbeats, hend, hverdict⟩ :=
    settles_handshake policy connector command target credentials hlisten hdial
      (opening policy command target credentials).client
      (opening policy command target credentials).server rfl rfl rfl rfl
  have hpatient : (opening policy command target credentials).Patient := by
    refine ⟨⟨?_, nofun⟩, ⟨?_, nofun⟩⟩
    · rintro x ⟨⟩
      exact (Client.plain_handshake command target credentials).patient
    · rintro x ⟨⟩
      exact Server.patient_serve hs hc
  refine ⟨a, b, bound, final, hverdict, hend, ?_⟩
  intro capUp capDown hup hdown n s hsteps
  -- What one byte at a time allows, larger pipes allow.
  have hwide := hbeats.mono fun _ _ => Beat.widen hup hdown
  obtain ⟨k, hwalk, hle, hpatient'⟩ := hend.of_steps hwide hpatient hsteps
  refine ⟨by omega, hend.calm hwalk hpatient', ?_, ?_⟩
  · intro hopen
    refine step_of_walk hwalk ?_
    rintro rfl
    exact hopen ⟨⟨a, hend.client⟩, b, hend.server⟩
  · intro hstuck
    by_cases hne : s = final
    · exact hne
    · obtain ⟨t, hstep⟩ := step_of_walk hwalk hne
      exact absurd hstep (hstuck t)

/-- A client logs in for a CONNECT, over a pipe of one byte and a pipe of three.
Both get their results however the bytes are passed on. -/
theorem schedule_free_of_login :
    ∃ bound final,
      final.Ended (.ok (Address.ip (.v4 (.ofOctets #v[10, 0, 0, 1]) 4000))) (.ok ()) ∧
      ∀ n s, Walk (Duplex.Step Server.readyConnector 1 3) n
          (opening Server.loginPolicy .connect "127.0.0.1:80" (some ⟨"u", "p"⟩)) s →
        n ≤ bound ∧ ((∀ t, ¬ Duplex.Step Server.readyConnector 1 3 s t) → s = final) := by
  obtain ⟨a, b, bound, final, hverdict, hend, hruns⟩ :=
    schedule_free Server.loginPolicy Server.readyConnector .connect "127.0.0.1:80"
      (some ⟨"u", "p"⟩) (by decide) (by decide) rfl fun _ => ⟨_, rfl⟩
  have hgranted : Verdict.of Server.loginPolicy Server.readyConnector .connect "127.0.0.1:80"
      (some ⟨"u", "p"⟩) = .granted ⟨.v4 (.ofOctets #v[10, 0, 0, 1]) 4000, {}⟩ := by rfl
  rw [hgranted] at hverdict
  obtain ⟨rfl, rfl⟩ := hverdict
  refine ⟨bound, final, hend, ?_⟩
  intro n s hsteps
  obtain ⟨hle, -, -, hstuck⟩ := hruns 1 3 (by decide) (by decide) n s hsteps
  exact ⟨hle, hstuck⟩

end Session

end Socks5
