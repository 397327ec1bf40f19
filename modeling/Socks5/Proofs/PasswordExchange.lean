import Socks5.Proofs.Login
import Socks5.Proofs.Streaming

/-!
# `Socks5.Proofs.PasswordExchange`: what a server makes of any bytes

A server that waits for credentials can be sent anything. Three things can
come of it, and the bytes alone say which: their front is the message of the
expected credentials, they end within a message, or they are something else.

* `exists_message_or_unfinished`: a front of the bytes is a message, or they
  end within one.
* `run_judge`: the answer to a message, on a stream that takes it.
* `authenticate_exact`: what comes of any bytes, what is taken of them and
  what is answered.

Messages are told apart by their length bytes (`accepts_unique`), so no bytes
are at once the expected credentials and others that run together into the
same text.
-/

set_option autoImplicit false

namespace Socks5.Negotiation

open Net Dialogue Exchange

/-! ### Messages -/

/-- A message is taken as what it is. It is the converse of the reader's account,
for the format of credentials. -/
theorem gets_of_accepts {m : Except UInt8 (Bytes × Bytes)} {got : Bytes}
    (h : credentialsFormat.accepts m got) : readCredentials.Gets got m := by
  cases m with
  | error v =>
    obtain ⟨hv, rfl⟩ := h
    rw [← List.append_nil [v]]
    refine (gets_byte v).bind ?_
    rw [if_pos hv]
    exact .pure _
  | ok fields =>
    obtain ⟨hu, hp, rfl⟩ := h
    exact gets_credentials hu hp

/-- No message is the front of another. Both are read from the same bytes, and the
reader takes one only. -/
theorem accepts_unique {m m' : Except UInt8 (Bytes × Bytes)} {got got' bs : Bytes}
    (h : credentialsFormat.accepts m got) (h' : credentialsFormat.accepts m' got')
    (hfront : got <+: bs) (hfront' : got' <+: bs) : got = got' := by
  obtain ⟨rest, rfl⟩ := hfront
  obtain ⟨rest', hbs⟩ := hfront'
  have hmakes := (gets_of_accepts h).makes rest
  have hmakes' := (gets_of_accepts h').makes rest'
  rw [hbs] at hmakes'
  obtain ⟨-, rfl⟩ := hmakes.unique hmakes'
  exact (List.append_cancel_right hbs).symm

/-- Credentials that fit have a message. -/
theorem accepts_of_fit {c : Credentials} (hfit : Client.Fit c) :
    credentialsFormat.accepts (.ok (utf8 c.username, utf8 c.password)) (passwordMessage c) :=
  ⟨((fits_iff _).mp hfit.1).2, ((fits_iff _).mp hfit.2).2, rfl⟩

/-- Whether the bytes end before a message of a password exchange does: there are
none, or they start with its version and have not both fields behind it. -/
def Unfinished (bs : Bytes) : Prop :=
  bs = [] ∨ bs.head? = some passwordVersion ∧
    ∀ u p : Bytes, u.length ≤ 255 → p.length ≤ 255 → ¬ fieldsMessage u p <+: bs

/-- Bytes are unfinished just if no message stands at their front. `Unfinished`
says it in terms of the bytes; here it is in terms of the format. -/
theorem unfinished_iff (bs : Bytes) :
    Unfinished bs ↔ ∀ m got, credentialsFormat.accepts m got → ¬ got <+: bs := by
  cases bs with
  | nil =>
    refine iff_of_true (.inl rfl) ?_
    rintro (v | fields) got hm hfront
    · obtain rfl := List.prefix_nil.mp hfront
      cases hm.2
    · obtain rfl := List.prefix_nil.mp hfront
      cases hm.2.2
  | cons b bs =>
    constructor
    · rintro (h | ⟨hb, hfields⟩) m got hm hfront
      · cases h
      · cases m with
        | error v =>
          obtain ⟨hv, rfl⟩ := hm
          obtain ⟨rest, hrest⟩ := hfront
          cases hrest
          exact hv (Option.some.inj hb)
        | ok fields =>
          obtain ⟨hu, hp, rfl⟩ := hm
          exact hfields _ _ hu hp hfront
    · intro h
      refine .inr ⟨?_, fun u p hu hp => h (.ok (u, p)) _ ⟨hu, hp, rfl⟩⟩
      -- Another version would be a message of its own.
      by_cases hb : b = passwordVersion
      · rw [hb]
        rfl
      · exact absurd (List.prefix_append [b] bs) (h (.error b) [b] ⟨hb, rfl⟩)

/-- Whether the bytes start with the message of the expected credentials, and
these fit. -/
def Grants (expected : Credentials) (bs : Bytes) : Prop :=
  Client.Fit expected ∧ passwordMessage expected <+: bs

/-- Whether the bytes let a client in is seen from the message at their front. No
two messages are fronts of the same bytes, so it does not matter which one is
found. -/
theorem grants_iff (expected : Credentials) {m : Except UInt8 (Bytes × Bytes)} {got bs : Bytes}
    (hm : credentialsFormat.accepts m got) (hfront : got <+: bs) :
    Grants expected bs ↔ IsExpected expected got := by
  constructor
  · rintro ⟨hfit, hexpected⟩
    exact ⟨hfit.1, hfit.2, accepts_unique hm (accepts_of_fit hfit) hfront hexpected⟩
  · rintro ⟨hu, hp, rfl⟩
    exact ⟨⟨hu, hp⟩, hfront⟩

/-- Bytes that end within a message let nobody in. -/
theorem not_grants_of_unfinished {expected : Credentials} {bs : Bytes} (h : Unfinished bs) :
    ¬ Grants expected bs := by
  rintro ⟨hfit, hexpected⟩
  exact (unfinished_iff bs).mp h _ _ (accepts_of_fit hfit) hexpected

/-! ### Answers -/

section

variable (connector : Connector) {s : Scene}

/-- A status that a stream takes is in the history, with a note behind it, and
nothing is read meanwhile. -/
theorem run_sendStatus_note (granted : Bool) (text : String) (k : Unit → Exchange Unit)
    (hsure : s.stream.outlet.Sure) :
    ∃ s' : Scene, (do sendStatus granted; Exchange.note .debug text; k () : Exchange Unit).run.run
        connector s = (k ()).run.run connector s' ∧
      s'.history = s.history
        ++ [.sent [passwordVersion, if granted then 0 else 1], .noted ⟨.debug, text⟩] ∧
      s'.ahead = s.ahead := by
  generalize hbytes : [passwordVersion, if granted then (0 : UInt8) else 1] = bytes
  have hsend : s.send bytes = (.ok (), s.mark (.sent bytes)) := by
    rw [Scene.send, Outlet.send_of_sure hsure]
  refine ⟨(s.mark (.sent bytes)).mark (.noted ⟨.debug, text⟩), ?_, by simp [Scene.mark], rfl⟩
  show Dialogue.run connector (.send [passwordVersion, if granted then 0 else 1] _) s = _
  rw [hbytes, Dialogue.run, hsend]
  rfl

/-- The expected credentials are let in. The status is sent before the note is
made, and no byte behind the message is touched. -/
theorem run_judge_of_expected {expected : Credentials} {m : Except UInt8 (Bytes × Bytes)}
    {got : Bytes} (hm : credentialsFormat.accepts m got) (hexpected : IsExpected expected got)
    (hsure : s.stream.outlet.Sure) :
    ∃ s' entry, (judge expected m).run.run connector s = .ended (.ok ()) s' ∧
      s'.history = s.history ++ [.sent [passwordVersion, 0], .noted entry] ∧
      s'.ahead = s.ahead := by
  obtain ⟨u, p, rfl, -, -, rfl, rfl⟩ := (isExpected_iff hm).mp hexpected
  rw [judge_eq ⟨hexpected.1, hexpected.2.1⟩, if_pos ⟨rfl, rfl⟩]
  obtain ⟨s', hrun, hhistory, hahead⟩ :=
    run_sendStatus_note connector true _ pure hsure
  exact ⟨s', _, hrun, hhistory, hahead⟩

/-- A message that is not expected is refused. The reason is for the log, and the
client is told the same for all of them. -/
theorem judge_of_not_expected {expected : Credentials} {m : Except UInt8 (Bytes × Bytes)}
    {got : Bytes} (hm : credentialsFormat.accepts m got) (hne : ¬ IsExpected expected got) :
    ∃ reason, judge expected m = refuse reason := by
  cases m with
  | error v => exact ⟨_, rfl⟩
  | ok fields =>
    obtain ⟨u, p⟩ := fields
    by_cases hempty : u = [] ∨ p = []
    · exact ⟨_, if_pos hempty⟩
    · obtain ⟨hu, hp⟩ := not_or.mp hempty
      have hwrong : ¬ (u = utf8 expected.username ∧ p = utf8 expected.password) := by
        intro hmatch
        exact hne ((isExpected_iff hm).mpr ⟨u, p, rfl, hu, hp, hmatch⟩)
      exact ⟨_, (if_neg hempty).trans (if_neg hwrong)⟩

/-- A message that is not expected is answered by the status 1, and nothing more
is taken. -/
theorem run_judge_of_not_expected {expected : Credentials} {m : Except UInt8 (Bytes × Bytes)}
    {got : Bytes} (hm : credentialsFormat.accepts m got) (hne : ¬ IsExpected expected got)
    (hsure : s.stream.outlet.Sure) :
    ∃ s' entry, (judge expected m).run.run connector s = .ended (.error .authFailed) s' ∧
      s'.history = s.history ++ [.sent [passwordVersion, 1], .noted entry] ∧
      s'.ahead = s.ahead := by
  obtain ⟨reason, hjudge⟩ := judge_of_not_expected hm hne
  obtain ⟨s', hrun, hhistory, hahead⟩ :=
    run_sendStatus_note connector false reason (fun _ => throw .authFailed) hsure
  rw [hjudge]
  exact ⟨s', _, hrun, hhistory, hahead⟩

end

/-! ### The exchange -/

/-- A front of a message that is not all of it is unfinished. It holds no other
message, since none is the front of another. -/
theorem unfinished_of_isCut {bs : Bytes} (h : credentialsFormat.IsCut bs) : Unfinished bs := by
  obtain ⟨m, ⟨c, hc⟩ | ⟨e, he⟩, hfront, hne⟩ := h
  · rw [unfinished_iff]
    intro c' got hc' hgot
    obtain rfl := accepts_unique hc' hc (hgot.trans hfront) (List.prefix_refl m)
    exact hne (hfront.eq_of_length_le hgot.length_le)
  · exact he.elim

/-- The message is read first: it is there and is taken, or the bytes end within
it and all of them are. Nothing is sent meanwhile. -/
theorem run_readCredentials (connector : Connector) {client : Stream}
    (hsmooth : client.script.IsSmooth) :
    ∃ r s, readCredentials.run.run connector (.atStart client) = .ended r s ∧
      s.stream.outlet = client.outlet ∧ s.history.sentBytes = [] ∧
      client.script.bytes = s.history.receivedBytes ++ s.ahead ∧
      ((∃ m, r = .ok m ∧ credentialsFormat.accepts m s.history.receivedBytes) ∨
        ∃ e, r = .error (.truncated e) ∧ s.ahead = [] ∧ Unfinished client.script.bytes) := by
  have hflowing := Scene.isFlowing_atStart hsmooth
  obtain ⟨r, s, h, hrun, hhistory, hquiet, hstops, hahead⟩ :=
    reads_readCredentials.run_isFlowing connector hflowing
  obtain ⟨r', m, rest, hbs, hmakes, -, hcut⟩ :=
    streams_of_hears hears_readCredentials client.script.bytes
  -- Two facts about one run: where it stops, and what it leaves.
  obtain ⟨s', hrun', htook⟩ := hmakes connector _ hflowing rfl
  rw [hrun] at hrun'
  cases hrun'
  obtain rfl : s.history = h := hhistory
  refine ⟨r, s, hrun, htook.outlet, hquiet.sentBytes_eq, hahead, ?_⟩
  cases hstops with
  | accepted hm => exact .inl ⟨_, rfl, hm⟩
  | refused hm => exact hm.elim
  | cut hm hbreak =>
    cases hbreak with
    | broken e =>
      -- A reader that is cut short has taken all bytes.
      have hall : s.ahead = [] := by
        obtain ⟨rfl, -⟩ := hcut ⟨e, rfl⟩
        rw [htook.ahead]
        simpa using hbs
      have hbytes : client.script.bytes = s.history.receivedBytes := by
        rw [hall, List.append_nil] at hahead
        exact hahead
      exact .inr ⟨e, rfl, hall, hbytes ▸ unfinished_of_isCut hm⟩

/-- The ways of a password exchange with a client that sends the bytes `bs` and
takes what is answered: the result, the bytes that are taken and those that are
sent. -/
inductive Tried (expected : Credentials) (bs : Bytes) :
    Except ProtocolError Unit → Bytes → Bytes → Prop where
  | granted (h : Grants expected bs) :
      Tried expected bs (.ok ()) (passwordMessage expected) [passwordVersion, 0]
  | unfinished (h : Unfinished bs) (e : IoError) :
      Tried expected bs (.error (.truncated e)) bs []
  | refused {m : Except UInt8 (Bytes × Bytes)} {got : Bytes}
      (hm : credentialsFormat.accepts m got) (hfront : got <+: bs) (hne : ¬ Grants expected bs) :
      Tried expected bs (.error .authFailed) got [passwordVersion, 1]

namespace Tried

variable {expected : Credentials} {bs got said : Bytes} {r : Except ProtocolError Unit}

/-- The three ways exclude each other, so each result says how the bytes start. -/
theorem ok_iff (h : Tried expected bs r got said) : r = .ok () ↔ Grants expected bs := by
  cases h with
  | granted h => exact iff_of_true rfl h
  | unfinished h e => exact iff_of_false nofun (not_grants_of_unfinished h)
  | refused hm hfront hne => exact iff_of_false nofun hne

/-- A message that is missed is one that the bytes end within, and the other way
round. -/
theorem truncated_iff (h : Tried expected bs r got said) :
    (∃ e, r = .error (.truncated e)) ↔ Unfinished bs := by
  cases h with
  | granted h =>
    refine iff_of_false (by simp) ?_
    intro hunfinished
    exact not_grants_of_unfinished hunfinished h
  | unfinished h e => exact iff_of_true ⟨e, rfl⟩ h
  | refused hm hfront hne =>
    refine iff_of_false (by simp) ?_
    intro hunfinished
    exact (unfinished_iff bs).mp hunfinished _ _ hm hfront

/-- Whoever is let in has sent the expected message and is told so. -/
theorem of_ok (h : Tried expected bs (.ok ()) got said) :
    got = passwordMessage expected ∧ said = [passwordVersion, 0] := by
  cases h
  exact ⟨rfl, rfl⟩

/-- A message that is missed has cost all bytes, and there is no answer. -/
theorem of_truncated {e : IoError} (h : Tried expected bs (.error (.truncated e)) got said) :
    got = bs ∧ said = [] := by
  cases h with
  | unfinished => exact ⟨rfl, rfl⟩

/-- Whoever is refused has sent another version, or two fields of any length.
There is no other message of the format, so nothing else is ever taken before a
refusal. -/
theorem of_refused (h : Tried expected bs r got said) (hok : r ≠ .ok ())
    (htruncated : ∀ e, r ≠ .error (.truncated e)) :
    r = .error .authFailed ∧ said = [passwordVersion, 1] ∧
      ((∃ v, v ≠ passwordVersion ∧ got = [v]) ∨
        ∃ u p : Bytes, u.length ≤ 255 ∧ p.length ≤ 255 ∧ got = fieldsMessage u p) := by
  cases h with
  | granted => exact absurd rfl hok
  | unfinished h e => exact absurd rfl (htruncated e)
  | @refused m got hm hfront hne =>
    refine ⟨rfl, rfl, ?_⟩
    cases m with
    | error v => exact .inl ⟨v, hm.1, hm.2⟩
    | ok fields => exact .inr ⟨fields.1, fields.2, hm⟩

end Tried

/-- Every exchange goes in one of these ways. The message is read first, and the
answer depends on it alone; what is granted and what is not is then put in terms
of all bytes. -/
theorem tried_authenticate (expected : Credentials) (connector : Connector) {client : Stream}
    (hsmooth : client.script.IsSmooth) (hsure : client.outlet.Sure) :
    ∃ r s, (authenticate expected).run.run connector (.atStart client) = .ended r s ∧
      client.script.bytes = s.history.receivedBytes ++ s.ahead ∧
      Tried expected client.script.bytes r s.history.receivedBytes s.history.sentBytes := by
  obtain ⟨r, s, hread, houtlet, hsent, hbytes, hr⟩ := run_readCredentials connector hsmooth
  have hrun : (authenticate expected).run.run connector (.atStart client)
      = (ExceptT.bindCont (judge expected) r).run connector s := by
    rw [authenticate_eq]
    exact (run_bind connector plain_readCredentials _ _).trans (by rw [hread])
  rw [hrun]
  -- Only a message that is there is answered.
  rcases hr with ⟨m, rfl, hm⟩ | ⟨e, rfl, hall, hunfinished⟩
  · have hfront : s.history.receivedBytes <+: client.script.bytes := ⟨_, hbytes.symm⟩
    have hgrants := grants_iff expected hm hfront
    by_cases hexpected : IsExpected expected s.history.receivedBytes
    · obtain ⟨s', entry, hjudge, hhistory, hahead⟩ :=
        run_judge_of_expected connector hm hexpected (houtlet ▸ hsure)
      refine ⟨_, s', hjudge, ?_, ?_⟩
      · simpa [hhistory, hahead, History.receivedBytes] using hbytes
      · have htried := Tried.granted (hgrants.mpr hexpected)
        simpa [hhistory, hsent, hexpected.2.2, History.receivedBytes, History.sentBytes]
          using htried
    · obtain ⟨s', entry, hjudge, hhistory, hahead⟩ :=
        run_judge_of_not_expected connector hm hexpected (houtlet ▸ hsure)
      refine ⟨_, s', hjudge, ?_, ?_⟩
      · simpa [hhistory, hahead, History.receivedBytes] using hbytes
      · have htried := Tried.refused hm hfront (mt hgrants.mp hexpected)
        simpa [hhistory, hsent, History.receivedBytes, History.sentBytes] using htried
  · have hreceived : s.history.receivedBytes = client.script.bytes := by
      rw [hbytes, hall, List.append_nil]
    refine ⟨_, s, rfl, hbytes, ?_⟩
    rw [hsent, hreceived]
    exact .unfinished hunfinished e

/-- What comes of any bytes that a client sends before it closes its side, if it
takes what is answered. It is let in just if the bytes start with the message of
the expected credentials and these fit; then that message is taken and the
status 0 is the answer. The message is missed as truncated just if the bytes end
within a message; then all of them are taken and there is no answer. In every
other case the client is refused and the status 1 is the answer; then a foreign
version was taken, and nothing behind it, or a message with two fields of any
length. -/
theorem authenticate_exact (expected : Credentials) (connector : Connector) {client : Stream}
    (hsmooth : client.script.IsSmooth) (hsure : client.outlet.Sure) :
    ∃ r s, (authenticate expected).run.run connector (.atStart client) = .ended r s ∧
      client.script.bytes = s.history.receivedBytes ++ s.ahead ∧
      (r = .ok () ↔ Client.Fit expected ∧ passwordMessage expected <+: client.script.bytes) ∧
      (r = .ok () → s.history.receivedBytes = passwordMessage expected ∧
        s.history.sentBytes = [passwordVersion, 0]) ∧
      ((∃ e, r = .error (.truncated e)) ↔ Unfinished client.script.bytes) ∧
      ((∃ e, r = .error (.truncated e)) →
        s.history.receivedBytes = client.script.bytes ∧ s.history.sentBytes = []) ∧
      (r ≠ .ok () → (∀ e, r ≠ .error (.truncated e)) →
        r = .error .authFailed ∧ s.history.sentBytes = [passwordVersion, 1] ∧
        ((∃ v, v ≠ passwordVersion ∧ s.history.receivedBytes = [v]) ∨
          ∃ u p : Bytes, u.length ≤ 255 ∧ p.length ≤ 255 ∧
            s.history.receivedBytes = fieldsMessage u p)) := by
  obtain ⟨r, s, hrun, hbytes, htried⟩ := tried_authenticate expected connector hsmooth hsure
  refine ⟨r, s, hrun, hbytes, htried.ok_iff, ?_, htried.truncated_iff, ?_, htried.of_refused⟩
  · rintro rfl
    exact htried.of_ok
  · rintro ⟨e, rfl⟩
    exact htried.of_truncated

/-- A client that sends the user name `ab` and the password `c` in two pieces to a
server that expects `a` and `bc`, a byte behind them, and closes its side. The
fields read the same one after the other, but their lengths do not. -/
def shiftingClient : Stream where
  script := [.bytes [1, 2, 97], .wait 3, .bytes [98, 1, 99, 7]]

/-- The client is refused, and the byte behind its message is left. That the
message is this one and not a longer or shorter one follows from its being a
message at all. -/
theorem authenticate_exact_of_shifting :
    shiftingClient.script.IsSmooth ∧ shiftingClient.outlet.Sure ∧
    ∃ s, (authenticate ⟨"a", "bc"⟩).run.run default (.atStart shiftingClient)
        = .ended (.error .authFailed) s ∧
      s.history.receivedBytes = [1, 2, 97, 98, 1, 99] ∧ s.ahead = [7] ∧
      s.history.sentBytes = [1, 1] := by
  have hsmooth : shiftingClient.script.IsSmooth := by
    simp [shiftingClient, Script.IsSmooth, Step.IsSmooth]
  have hsure : shiftingClient.outlet.Sure := ⟨rfl, rfl⟩
  obtain ⟨r, s, hrun, hbytes, hok, -, hcut, -, hrefused⟩ :=
    authenticate_exact ⟨"a", "bc"⟩ default hsmooth hsure
  have hmessage : credentialsFormat.accepts (.ok ([97, 98], [99])) [1, 2, 97, 98, 1, 99] :=
    ⟨by decide, by decide, rfl⟩
  have hall : shiftingClient.script.bytes = [1, 2, 97, 98, 1, 99] ++ [7] := rfl
  have hfront : [1, 2, 97, 98, 1, 99] <+: shiftingClient.script.bytes := ⟨[7], hall.symm⟩
  -- Not let in: the bytes do not start with the expected message. Not truncated: they
  -- start with a whole message. So it is refused, and messages are unique.
  have hne : r ≠ .ok () := by
    rw [Ne, hok]
    rintro ⟨-, hother⟩
    exact absurd hother (by decide)
  have hwhole : ∀ e, r ≠ .error (.truncated e) := by
    intro e he
    exact (unfinished_iff _).mp (hcut.mp ⟨e, he⟩) _ _ hmessage hfront
  obtain ⟨rfl, hsent, hform⟩ := hrefused hne hwhole
  have hreceived : s.history.receivedBytes = [1, 2, 97, 98, 1, 99] := by
    have hgot : s.history.receivedBytes <+: shiftingClient.script.bytes := ⟨_, hbytes.symm⟩
    rcases hform with ⟨v, hv, hv'⟩ | ⟨u, p, hu, hp, hfields⟩
    · exact accepts_unique (m := .error v) ⟨hv, hv'⟩ hmessage hgot hfront
    · exact accepts_unique (m := .ok (u, p)) ⟨hu, hp, hfields⟩ hmessage hgot hfront
  rw [hall, hreceived] at hbytes
  exact ⟨hsmooth, hsure, s, hrun, hreceived, (List.append_cancel_left hbytes).symm, hsent⟩

end Socks5.Negotiation
