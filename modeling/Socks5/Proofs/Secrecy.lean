import Socks5.Proofs.ObserverEquivalence

/-!
# `Socks5.Proofs.Secrecy`: what a served connection tells about a password

A client that offers the password method to a server with credentials is asked
for them, whatever it sends next. Its credentials are read unseen and
answered.

* `run_negotiate_twins`: of a password a negotiation tells no more than
  whether it is right, and whether it is empty.
* `visit_refused`: wrong credentials are answered in one way (`refusal`),
  which depends on the outlet only.
* `password_noninterference`: both, for whole visits with their log and their
  tunnels.

Times are left out, and so is what the server has read.
-/

set_option autoImplicit false

namespace Socks5

open Net Dialogue

/-- Whether a client sends a greeting with the password method, credentials
and something else. The bytes may come in any pieces. -/
structure Stream.LogsIn (a : Stream) (offer username password rest : Bytes) : Prop where
  isBytes : a.script.IsBytes
  offers : Method.usernamePassword.toByte ∈ offer
  offer_le : offer.length ≤ 255
  username_le : username.length ≤ 255
  password_le : password.length ≤ 255
  bytes : Script.bytes a.script =
    Negotiation.offerMessage offer ++ (Negotiation.fieldsMessage username password ++ rest)

namespace Scene

variable {s t : Scene}

/-- Scenes that show the same have sent the same. -/
theorem Veiled.sentBytes (h : s.Veiled t) : s.history.sentBytes = t.history.sentBytes := by
  rw [← (History.views_shown s.history).1, ← (History.views_shown t.history).1, h.shown]

/-- A message adds to what was sent as much as is delivered of it. -/
theorem sentBytes_send (s : Scene) (bytes : Bytes) :
    (s.send bytes).2.history.sentBytes
      = s.history.sentBytes ++ (s.stream.outlet.send bytes).1 := by
  simp [Scene.send, Scene.mark, History.sentBytes]

end Scene

namespace Server

open Negotiation Exchange
open Session (answerOffer carryOut negotiate_eq)

variable (connector : Connector)

/-! ### The challenge -/

/-- The server asks a client with this offer for credentials: whether it could,
and the scene after it. -/
def challenge (offer : Bytes) (s : Scene) : Except IoError Unit × Scene :=
  (s.mark (.noted ⟨.debug, s!"Client offered methods: {offerText offer}"⟩)).send
    [version, Method.usernamePassword.toByte]

/-- Scenes that show the same ask for credentials alike. -/
theorem challenge_veiled {s t : Scene} (h : s.Veiled t) (offer : Bytes) :
    (challenge offer s).1 = (challenge offer t).1 ∧
      (challenge offer s).2.Veiled (challenge offer t).2 :=
  (h.mark _).send _

/-- What the challenge adds to the bytes that were sent. -/
theorem sentBytes_challenge (offer : Bytes) (s : Scene) :
    (challenge offer s).2.history.sentBytes = s.history.sentBytes
      ++ (s.stream.outlet.send [version, Method.usernamePassword.toByte]).1 := by
  rw [challenge, Scene.sentBytes_send]
  simp [Scene.mark, History.sentBytes]

/-- A client that offers the password method to a server with credentials is asked
for them. The greeting is read unseen, so nothing is shown before the challenge.
-/
theorem run_negotiate_challenge {policy : Policy} (hpolicy : policy.hasCredentials = true)
    {offer rest : Bytes} (hoffer : Method.usernamePassword.toByte ∈ offer)
    (hlen : offer.length ≤ 255) {s : Scene} (hs : s.IsFlowing)
    (hahead : s.ahead = offerMessage offer ++ rest) :
    ∃ s', s.Took s' rest ∧ s.Veiled s' ∧
      (negotiate policy).run.run connector s = match challenge offer s' with
        | (.ok (), t) => (carryOut policy (some .usernamePassword)).run.run connector t
        | (.error e, t) => .ended (.error (.io e)) t := by
  obtain ⟨s', hrun, htook, hveiled⟩ := run_silent_bind connector (gets_greeting hlen)
    silent_readGreeting plain_readGreeting (answerOffer policy) hs hahead
  have hselect : select policy offer = some .usernamePassword := if_pos ⟨hpolicy, hoffer⟩
  refine ⟨s', htook, hveiled, ?_⟩
  rw [negotiate_eq, hrun, answerOffer, hselect]
  show run connector (.note _ (.send _ _)) s' = _
  rw [run, run]
  show _ = match challenge offer s' with
    | (.ok (), t) => _
    | (.error e, t) => _
  -- What was sent is not looked at: both sides go on with its result.
  unfold challenge
  dsimp only [selectionByte, Option.map_some, Option.getD_some]
  generalize (s'.mark (.noted _)).send _ = sent
  obtain ⟨r, t⟩ := sent
  cases r with
  | ok u => rfl
  | error e => rfl

/-- Credentials that are there are read unseen and judged. What is left is the
judgement alone, on a scene that shows the same as before. -/
theorem run_carryOut_judge (policy : Policy) {username password rest : Bytes}
    (hu : username.length ≤ 255) (hp : password.length ≤ 255) {s : Scene} (hs : s.IsFlowing)
    (hahead : s.ahead = fieldsMessage username password ++ rest) :
    ∃ s', s.Took s' rest ∧ s.Veiled s' ∧
      (carryOut policy (some .usernamePassword)).run.run connector s
        = (do judge policy.credentials (.ok (username, password))
              return Method.usernamePassword : Exchange Method).run.run connector s' := by
  obtain ⟨s', hrun, htook, hveiled⟩ := run_silent_bind connector (gets_credentials hu hp)
    silent_readCredentials plain_readCredentials
    (fun m => do judge policy.credentials m; return Method.usernamePassword) hs hahead
  refine ⟨s', htook, hveiled, ?_⟩
  rw [← hrun, carryOut, authenticate_eq, bind_assoc]

/-! ### Two passwords -/

/-- Passwords that are right together, and empty together, are answered alike.
These are the two questions that the server asks about a password, and the log has
only the name in it. -/
theorem judge_twins {username : String} {password password' : String}
    {given given' : Bytes} (hright : given = utf8 password ↔ given' = utf8 password')
    (hempty : given = [] ↔ given' = []) (name : Bytes) :
    judge ⟨username, password⟩ (.ok (name, given))
      = judge ⟨username, password'⟩ (.ok (name, given')) := by
  unfold judge
  dsimp only
  simp only [hright, hempty]

section

variable {policy : Policy} {password password' : String} {a b : Stream}
  {offer username given given' rest : Bytes}

/-- From the challenge on, twin passwords are read unseen and judged alike. After
the reading both runs are of one and the same dialogue, on scenes that show the
same. -/
theorem run_carryOut_twins (policy : Policy)
    (hright : given = utf8 password ↔ given' = utf8 password')
    (hempty : given = [] ↔ given' = []) (hu : username.length ≤ 255) (hp : given.length ≤ 255)
    (hp' : given'.length ≤ 255) {s t : Scene} (hs : s.IsFlowing) (ht : t.IsFlowing)
    (hveiled : s.Veiled t) (hahead : s.ahead = fieldsMessage username given ++ rest)
    (hahead' : t.ahead = fieldsMessage username given' ++ rest) :
    ∃ r s' t',
      (carryOut { policy with password := some password } (some .usernamePassword)).run.run
        connector s = .ended r s' ∧
      (carryOut { policy with password := some password' } (some .usernamePassword)).run.run
        connector t = .ended r t' ∧
      s'.IsFlowing ∧ t'.IsFlowing ∧ s'.Veiled t' ∧ s'.ahead = t'.ahead := by
  obtain ⟨s₁, htook, hveiled₁, hrun⟩ := run_carryOut_judge connector
    { policy with password := some password } hu hp hs hahead
  obtain ⟨t₁, htook', hveiled₁', hrun'⟩ := run_carryOut_judge connector
    { policy with password := some password' } hu hp' ht hahead'
  -- The only place that looks at the passwords. It sees whether they are right or empty,
  -- and in that the twins agree.
  have hjudge : judge (Policy.credentials { policy with password := some password })
        (.ok (username, given))
      = judge (Policy.credentials { policy with password := some password' })
        (.ok (username, given')) := judge_twins hright hempty username
  have hplain : (do
      judge (Policy.credentials { policy with password := some password' })
        (.ok (username, given'))
      return Method.usernamePassword : Exchange Method).run.Plain :=
    Exchange.plain_bind (plain_judge _ _) fun _ => trivial
  rw [hrun, hrun', hjudge]
  exact hplain.run_veiled connector htook.flowing htook'.flowing
    ((hveiled₁.symm.trans hveiled).trans hveiled₁') (htook.ahead.trans htook'.ahead.symm)

/-- Negotiations with twin passwords come to the same result and show the same.
Those that succeed leave the same bytes; one that fails at the challenge leaves
the passwords unread. -/
theorem run_negotiate_twins (huser : policy.username.isSome = true)
    (ha : a.LogsIn offer username given rest) (hb : b.LogsIn offer username given' rest)
    (houtlet : a.outlet = b.outlet) (hright : given = utf8 password ↔ given' = utf8 password')
    (hempty : given = [] ↔ given' = []) :
    ∃ r s t, (negotiate { policy with password := some password }).run.run connector (.atStart a)
        = .ended r s ∧
      (negotiate { policy with password := some password' }).run.run connector (.atStart b)
        = .ended r t ∧
      s.IsFlowing ∧ t.IsFlowing ∧ s.Veiled t ∧ ∀ method, r = .ok method → s.ahead = t.ahead := by
  have hpolicy : ∀ w : String,
      Policy.hasCredentials { policy with password := some w } = true := by
    intro w
    simp [Policy.hasCredentials, huser]
  obtain ⟨s₁, htook, hveiled₁, hrun⟩ := run_negotiate_challenge connector (hpolicy password)
    ha.offers ha.offer_le (Scene.isFlowing_atStart ha.isBytes.isSmooth) ha.bytes
  obtain ⟨t₁, htook', hveiled₁', hrun'⟩ := run_negotiate_challenge connector
    (hpolicy password') hb.offers hb.offer_le (Scene.isFlowing_atStart hb.isBytes.isSmooth)
    hb.bytes
  -- Up to the challenge nothing depends on the password.
  have hstart : (Scene.atStart a).Veiled (.atStart b) := ⟨houtlet, rfl, rfl, rfl⟩
  obtain ⟨hresult, hveiled⟩ :=
    challenge_veiled ((hveiled₁.symm.trans hstart).trans hveiled₁') offer
  have hs : (challenge offer s₁).2.IsFlowing := ⟨htook.flowing.smooth, htook.flowing.free⟩
  have ht : (challenge offer t₁).2.IsFlowing := ⟨htook'.flowing.smooth, htook'.flowing.free⟩
  have hahead : (challenge offer s₁).2.ahead = fieldsMessage username given ++ rest := htook.ahead
  have hahead' : (challenge offer t₁).2.ahead = fieldsMessage username given' ++ rest :=
    htook'.ahead
  rw [hrun, hrun']
  generalize challenge offer s₁ = p at *
  generalize challenge offer t₁ = q at *
  obtain ⟨r, s₂⟩ := p
  obtain ⟨r', t₂⟩ := q
  obtain rfl : r = r' := hresult
  cases r with
  | error e =>
    refine ⟨.error (.io e), s₂, t₂, rfl, rfl, hs, ht, hveiled, ?_⟩
    intro method hmethod
    cases hmethod
  | ok u =>
    obtain ⟨r, s, t, hended, hended', hs', ht', hlast, hleft⟩ := run_carryOut_twins
      connector policy hright hempty ha.username_le ha.password_le hb.password_le hs ht hveiled
      hahead hahead'
    exact ⟨r, s, t, hended, hended', hs', ht', hlast, fun _ _ => hleft⟩

end

/-- A negotiation for which all bytes are there is over in time, as it takes none.
-/
theorem run_serve_of_negotiate {policy : Policy} {a : Stream} (ha : a.script.IsBytes)
    {r : Except ProtocolError Method} {s : Scene}
    (hrun : (negotiate policy).run.run connector (.atStart a) = .ended r s) :
    run connector (serve policy) (.atStart a)
      = run connector (afterNegotiation policy (r.mapError .protocol)) s := by
  have hclock := clock_run_of_bytes connector (plain_negotiate policy) (s := .atStart a) rfl ha
  rw [hrun] at hclock
  have hclock : s.clock = 0 := hclock
  rw [serve_eq]
  exact run_withDeadline (plain_negotiate policy) rfl hrun (by omega) "greeting" _

/-- Visits with twin passwords show the same. Up to the end of the negotiation it
is shown above, and what follows does not know the password. -/
theorem visit_twins {policy : Policy} {password password' : String} {a b : Stream}
    {offer username given given' rest : Bytes} (huser : policy.username.isSome = true)
    (ha : a.LogsIn offer username given rest) (hb : b.LogsIn offer username given' rest)
    (houtlet : a.outlet = b.outlet) (hright : given = utf8 password ↔ given' = utf8 password')
    (hempty : given = [] ↔ given' = []) :
    let server := { policy with password := some password }
    let server' := { policy with password := some password' }
    (visit server connector a).shown = (visit server' connector b).shown ∧
      relayFrom (run connector (serve server) (.atStart a))
        = relayFrom (run connector (serve server') (.atStart b)) := by
  intro server server'
  obtain ⟨r, s, t, hrun, hrun', hs, ht, hveiled, hahead⟩ :=
    run_negotiate_twins connector huser ha hb houtlet hright hempty
  have hsb := isBytes_run connector (negotiate server).run (.atStart a) ha.isBytes
  have htb := isBytes_run connector (negotiate server').run (.atStart b) hb.isBytes
  rw [hrun] at hsb
  rw [hrun'] at htb
  rw [visit_eq, visit_eq, run_serve_of_negotiate connector ha.isBytes hrun,
    run_serve_of_negotiate connector hb.isBytes hrun']
  -- The rest of the connection has nothing to do with the password.
  have hrest : afterNegotiation server = afterNegotiation server' := rfl
  rw [hrest]
  cases r with
  | error e => exact visitFrom_veiled rfl hveiled nofun hsb htb
  | ok method =>
    obtain ⟨hhalt, hscene, hleft⟩ := run_afterNegotiation_veiled server' connector hs ht hveiled
      (hahead method rfl) hsb htb (.ok method)
    exact visitFrom_veiled hhalt hscene (fun _ => hleft) (isBytes_run connector _ s hsb)
      (isBytes_run connector _ t htb)

/-! ### Wrong credentials -/

/-- The error and the bytes that wrong credentials get over an outlet. -/
def refusal (o : Outlet) : ProtocolError × Bytes :=
  match o.send [version, Method.usernamePassword.toByte] with
  | (sent, .error e, _) => (.io e, sent)
  | (sent, .ok (), o') =>
    match o'.send [passwordVersion, 1] with
    | (sent', .error e, _) => (.io e, sent ++ sent')
    | (sent', .ok (), _) => (.authFailed, sent ++ sent')

/-- Over an outlet that delivers everything, wrong credentials get a status of
one. -/
theorem refusal_of_sure {o : Outlet} (h : o.Sure) :
    refusal o = (.authFailed, [version, Method.usernamePassword.toByte, passwordVersion, 1]) := by
  simp [refusal, Outlet.send_of_sure h]

/-- Credentials that are not the expected ones are refused, and the reason is for
the log. It names the user and does not say which field was wrong. -/
theorem judge_wrong {expected : Credentials} {username password : Bytes} (hu : username ≠ [])
    (hp : password ≠ [])
    (hwrong : ¬ (username = utf8 expected.username ∧ password = utf8 expected.password)) :
    judge expected (.ok (username, password)) = Negotiation.refuse
      s!"Authentication failed for user: {Text.Utf8.decodeLossy username}" := by
  rw [judge, if_neg (by simp [hu, hp]), if_neg hwrong]

/-- A refusal is a status, and then the negotiation is over. If the status cannot
be delivered, the error of the write takes the place of the refusal. -/
theorem run_refuse (reason : String) (s : Scene) :
    ∃ s', (do Negotiation.refuse reason; return Method.usernamePassword
        : Exchange Method).run.run connector s
        = .ended (match (s.stream.outlet.send [passwordVersion, 1]).2.1 with
            | .ok () => .error .authFailed
            | .error e => .error (.io e)) s' ∧
      s'.history.sentBytes
        = s.history.sentBytes ++ (s.stream.outlet.send [passwordVersion, 1]).1 := by
  have hresult : (s.send [passwordVersion, 1]).1
      = (s.stream.outlet.send [passwordVersion, 1]).2.1 := rfl
  rw [← Scene.sentBytes_send, ← hresult]
  show ∃ s', run connector (.send [passwordVersion, 1] _) s = _ ∧ _
  rw [run]
  generalize s.send [passwordVersion, 1] = sent
  obtain ⟨r, t⟩ := sent
  cases r with
  | ok u =>
    refine ⟨t.mark (.noted ⟨.debug, reason⟩), rfl, ?_⟩
    simp [Scene.mark, History.sentBytes]
  | error e => exact ⟨t, rfl, rfl⟩

/-- Wrong credentials with two non-empty fields are refused in one way. Neither
the fields nor the policy are in `refusal`, so they cannot be told apart by it. -/
theorem run_negotiate_refused {policy : Policy} (hpolicy : policy.hasCredentials = true)
    {a : Stream} {offer username password rest : Bytes}
    (ha : a.LogsIn offer username password rest) (hu : username ≠ []) (hp : password ≠ [])
    (hwrong : ¬ (username = utf8 policy.credentials.username ∧
      password = utf8 policy.credentials.password)) :
    ∃ s, (negotiate policy).run.run connector (.atStart a)
        = .ended (.error (refusal a.outlet).1) s ∧
      s.history.sentBytes = (refusal a.outlet).2 := by
  obtain ⟨s₁, htook, hveiled, hrun⟩ := run_negotiate_challenge connector hpolicy
    ha.offers ha.offer_le (Scene.isFlowing_atStart ha.isBytes.isSmooth) ha.bytes
  have houtlet : a.outlet = s₁.stream.outlet := hveiled.outlet
  have hresult : (challenge offer s₁).1
      = (a.outlet.send [version, Method.usernamePassword.toByte]).2.1 := houtlet ▸ rfl
  have hleft : (challenge offer s₁).2.stream.outlet
      = (a.outlet.send [version, Method.usernamePassword.toByte]).2.2 := houtlet ▸ rfl
  have hsent : (challenge offer s₁).2.history.sentBytes
      = (a.outlet.send [version, Method.usernamePassword.toByte]).1 := by
    rw [sentBytes_challenge, ← hveiled.sentBytes, houtlet]
    rfl
  have hflow : (challenge offer s₁).2.IsFlowing := ⟨htook.flowing.smooth, htook.flowing.free⟩
  have hahead : (challenge offer s₁).2.ahead = fieldsMessage username password ++ rest :=
    htook.ahead
  rw [hrun]
  unfold refusal
  generalize challenge offer s₁ = p at *
  generalize a.outlet.send [version, Method.usernamePassword.toByte] = q at *
  obtain ⟨r, s₂⟩ := p
  obtain ⟨sent, r', left⟩ := q
  obtain rfl : r = r' := hresult
  obtain rfl : s₂.stream.outlet = left := hleft
  cases r with
  | error e => exact ⟨s₂, rfl, hsent⟩
  | ok u =>
    -- The client is asked, and its credentials are refused.
    obtain ⟨s₃, -, hveiled₃, hrun₃⟩ :=
      run_carryOut_judge connector policy ha.username_le ha.password_le hflow hahead
    obtain ⟨s, hended, hstatus⟩ := run_refuse connector
      s!"Authentication failed for user: {Text.Utf8.decodeLossy username}" s₃
    rw [judge_wrong hu hp hwrong, hended, ← hveiled₃.outlet] at hrun₃
    rw [← hveiled₃.outlet, ← hveiled₃.sentBytes, hsent] at hstatus
    dsimp only at hrun₃ hstatus ⊢
    rw [hrun₃]
    generalize s₂.stream.outlet.send [passwordVersion, 1] = status at *
    obtain ⟨sent', r, left⟩ := status
    cases r with
    | ok u => exact ⟨s, rfl, hstatus⟩
    | error e => exact ⟨s, rfl, hstatus⟩

/-- A visit with wrong credentials ends with its negotiation: no dial, no tunnel,
and the bytes and the error of the refusal. -/
theorem visit_refused {policy : Policy} (hpolicy : policy.hasCredentials = true) {a : Stream}
    {offer username password rest : Bytes} (ha : a.LogsIn offer username password rest)
    (hu : username ≠ []) (hp : password ≠ [])
    (hwrong : ¬ (username = utf8 policy.credentials.username ∧
      password = utf8 policy.credentials.password)) :
    ∃ v, visit policy connector a = .finished v ∧
      v.result = .error (.protocol (refusal a.outlet).1) ∧
      v.history.sentBytes = (refusal a.outlet).2 := by
  obtain ⟨s, hrun, hsent⟩ := run_negotiate_refused connector hpolicy ha hu hp hwrong
  refine ⟨visitWithoutTunnel _ s, ?_, rfl, hsent⟩
  rw [visit_eq, run_serve_of_negotiate connector ha.isBytes hrun]
  rfl

/-- Passwords do not show. Take two visits with one connector, to servers that differ in
their passwords only, of clients that write over alike outlets, and whose bytes differ in
the password only. If both passwords are right or both are wrong, and both are empty or
neither is, then both visits show the same: the same result, the same bytes sent, the same
log, the same targets and the same tunnel, with the same relay even if it stalls.

Wrong credentials with two non-empty fields do not even show which field is wrong. Any two
visits of such clients over alike outlets have the same error and the same bytes sent. -/
theorem password_noninterference (connector : Connector) :
    (∀ (policy : Policy) (password password' : String) {a b : Stream}
        {offer username given given' rest : Bytes}, policy.username.isSome = true →
      a.LogsIn offer username given rest → b.LogsIn offer username given' rest →
      a.outlet = b.outlet → (given = utf8 password ↔ given' = utf8 password') →
      (given = [] ↔ given' = []) →
      let server := { policy with password := some password }
      let server' := { policy with password := some password' }
      (visit server connector a).shown = (visit server' connector b).shown ∧
        relayFrom (run connector (serve server) (.atStart a))
          = relayFrom (run connector (serve server') (.atStart b))) ∧
    ∀ (policy policy' : Policy) {a b : Stream}
        {offer offer' username username' password password' rest rest' : Bytes},
      policy.hasCredentials = true → policy'.hasCredentials = true →
      a.LogsIn offer username password rest → b.LogsIn offer' username' password' rest' →
      a.outlet = b.outlet → username ≠ [] → password ≠ [] → username' ≠ [] → password' ≠ [] →
      ¬ (username = utf8 policy.credentials.username ∧
        password = utf8 policy.credentials.password) →
      ¬ (username' = utf8 policy'.credentials.username ∧
        password' = utf8 policy'.credentials.password) →
      ∃ v v', visit policy connector a = .finished v ∧
        visit policy' connector b = .finished v' ∧ v.result = v'.result ∧
        v.history.sentBytes = v'.history.sentBytes ∧
        (a.outlet.Sure → v.result = .error (.protocol .authFailed) ∧
          v.history.sentBytes = [version, Method.usernamePassword.toByte, passwordVersion, 1]) := by
  refine ⟨?_, ?_⟩
  · intro policy password password' a b offer username given given' rest huser ha hb houtlet
      hright hempty
    exact visit_twins connector huser ha hb houtlet hright hempty
  · intro policy policy' a b offer offer' username username' password password' rest rest'
      hpolicy hpolicy' ha hb houtlet hu hp hu' hp' hwrong hwrong'
    obtain ⟨v, hvisit, hresult, hsent⟩ := visit_refused connector hpolicy ha hu hp hwrong
    obtain ⟨v', hvisit', hresult', hsent'⟩ := visit_refused connector hpolicy' hb hu' hp' hwrong'
    refine ⟨v, v', hvisit, hvisit', ?_, ?_, ?_⟩
    · -- Both results are a function of the outlet alone, and the outlets are alike.
      rw [hresult, hresult', houtlet]
    · rw [hsent, hsent', houtlet]
    · intro hsure
      rw [refusal_of_sure hsure] at hresult hsent
      exact ⟨hresult, hsent⟩

/-- A client that logs in as the login client does, with the password `secret`
and in other pieces. -/
def secretClient : Stream :=
  { script := [.bytes [5, 1, 2, 1, 1, 117, 6, 115, 101, 99], .bytes [114, 101, 116, 5],
      .bytes [1, 0, 1, 127, 0, 0, 1, 0, 80]] }

/-- Each of two clients logs in with a password of its own, and shows what the
other does. Then one is refused for its password and the other for its name. -/
theorem password_noninterference_of_login :
    (visit { loginPolicy with password := some "p" } readyConnector loginClient).shown
        = (visit { loginPolicy with password := some "secret" } readyConnector
          secretClient).shown ∧
      ∃ v v', visit loginPolicy readyConnector secretClient = .finished v ∧
        visit { loginPolicy with username := some "v" } readyConnector loginClient
          = .finished v' ∧
        v.result = v'.result ∧ v.history.sentBytes = v'.history.sentBytes ∧
        v.result = .error (.protocol .authFailed) ∧ v.history.sentBytes = [5, 2, 1, 1] := by
  have hlogin : loginClient.LogsIn [2] [117] [112] [5, 1, 0, 1, 127, 0, 0, 1, 0, 80] :=
    ⟨by simp [loginClient, Script.IsBytes], by decide, by decide, by decide,
      by decide, by decide⟩
  have hsecret : secretClient.LogsIn [2] [117] [115, 101, 99, 114, 101, 116]
      [5, 1, 0, 1, 127, 0, 0, 1, 0, 80] :=
    ⟨by simp [secretClient, Script.IsBytes], by decide, by decide, by decide,
      by decide, by decide⟩
  obtain ⟨htwins, hwrong⟩ := password_noninterference readyConnector
  obtain ⟨hshown, -⟩ :=
    htwins loginPolicy "p" "secret" rfl hlogin hsecret rfl (by decide +kernel) (by decide)
  refine ⟨hshown, ?_⟩
  obtain ⟨v, v', hvisit, hvisit', hresult, hsent, hsure⟩ :=
    hwrong loginPolicy { loginPolicy with username := some "v" } rfl rfl hsecret hlogin rfl
      (by decide) (by decide) (by decide) (by decide) (by decide +kernel) (by decide +kernel)
  obtain ⟨hfailed, hbytes⟩ := hsure ⟨rfl, rfl⟩
  exact ⟨v, v', hvisit, hvisit', hresult, hsent, hfailed, hbytes⟩

end Server

end Socks5
