import Socks5.Proofs.Reading

/-!
# `Socks5.Proofs.Negotiation`: the ways of a negotiation

`Negotiation.Way` lists every way in which the server's side of a
negotiation can go, with the bytes that were taken, the bytes that were
sent and where it stopped; `way_of_course` says that there are no others.
The password exchange is part of it and has a list of its own,
`Negotiation.Trial`.

A way is a quiet stretch for each message that is read, and a `sent`
event for each that is written. A write that fails may have delivered any
front of its message.
-/

set_option autoImplicit false

namespace Socks5

open Net Dialogue

/-! ### Sending -/

/-- The halt with another value. -/
def Halt.map {α β : Type} (f : α → β) : Halt α → Halt β
  | .ended a => .ended (f a)
  | .late => .late
  | .stuck => .stuck

namespace Exchange

variable {connector : Connector} {faulty : Prop} {armed : Bool} {o o' : Held} {h : History}

/-- Sending is plain, with its error. -/
theorem plain_send (bytes : Bytes) : (send bytes).run.Plain := by
  rintro (e | u) <;> trivial

/-- A message is sent as a whole and the exchange goes on, or a front of it is
sent and the writing fails. In the second case the exchange ends there, since an
exchange passes on the error of a write. -/
theorem course_of_send_bind {α : Type} {bytes : Bytes} {f : Unit → Exchange α}
    {r : Halt (Except ProtocolError α)}
    (hc : Course connector faulty (send bytes >>= f).run armed o h r o') :
    (∃ h', h = .sent bytes :: h' ∧ Course connector faulty (f ()).run armed o h' r o') ∨
    faulty ∧ ∃ part e, part <+: bytes ∧ h = [.sent part] ∧ r = .ended (.error (.io e)) := by
  obtain ⟨h₁, q, hsend, hq⟩ := course_of_bind (plain_send bytes) hc
  obtain ⟨h', rfl, rfl, rfl, -⟩ | ⟨hf, part, e, h', hpart, rfl, rfl, rfl, -⟩ := hsend
  · exact .inl hq
  · obtain ⟨rfl, rfl, -⟩ := hq
    exact .inr ⟨hf, part, e, hpart, rfl, rfl⟩

/-- A value that is computed at the end changes nothing but the value: neither
what is taken and sent nor whether the exchange comes to an end. -/
theorem course_of_bind_pure {α β : Type} {x : Exchange α} {f : α → β}
    {r : Halt (Except ProtocolError β)} (hx : x.run.Plain)
    (hc : Course connector faulty (x >>= fun a => pure (f a)).run armed o h r o') :
    ∃ q, Course connector faulty x.run armed o h q o ∧ r = q.map (Except.map f) := by
  obtain ⟨h₁, q, hx, hq⟩ := course_of_bind hx hc
  refine ⟨q, ?_⟩
  match q, hq with
  | .ended (.ok a), ⟨h₂, hh, hnil, hr, _⟩ =>
    rw [hh, hnil, List.append_nil]
    exact ⟨hx, hr⟩
  | .ended (.error e), ⟨hh, hr, _⟩ => exact ⟨hh ▸ hx, hr⟩
  | .late, ⟨hh, hr, _⟩ => exact ⟨hh ▸ hx, hr⟩
  | .stuck, ⟨hh, hr, _⟩ => exact ⟨hh ▸ hx, hr⟩

end Exchange

namespace Negotiation

/-! ### The password exchange -/

/-- Reads the message of a password exchange. Of a message of another
version only the version is read. -/
def readCredentials : Exchange (Except UInt8 (Bytes × Bytes)) := do
  let v ← Exchange.byte
  if v ≠ passwordVersion then return .error v
  else do
    let username ← Exchange.counted
    let password ← Exchange.counted
    return .ok (username, password)

/-- Answers the message of a password exchange. -/
def judge (expected : Credentials) : Except UInt8 (Bytes × Bytes) → Exchange Unit
  | .error v => refuse s!"Invalid auth version: {v.toNat}"
  | .ok (username, password) =>
    if username = [] ∨ password = [] then refuse "Empty username or password"
    else if username = utf8 expected.username ∧ password = utf8 expected.password then do
      sendStatus true
      Exchange.note .debug
        s!"Authentication successful for user: {Text.Utf8.decodeLossy username}"
    else refuse s!"Authentication failed for user: {Text.Utf8.decodeLossy username}"

/-- The password exchange is a message and an answer. The program reads the fields
one by one and answers in between; this form separates what is read from what is
said. -/
theorem authenticate_eq (expected : Credentials) :
    authenticate expected = readCredentials >>= judge expected := by
  unfold authenticate readCredentials
  rw [bind_assoc]
  congr 1
  funext v
  split
  · rw [pure_bind]; rfl
  · simp only [bind_assoc, pure_bind]; rfl

/-- Messages of a password exchange. -/
def credentialsFormat : Format (Except UInt8 (Bytes × Bytes)) where
  accepts
    | .error v, m => v ≠ passwordVersion ∧ m = [v]
    | .ok (username, password), m =>
      username.length ≤ 255 ∧ password.length ≤ 255 ∧ m = fieldsMessage username password

/-- Reading credentials is plain. -/
theorem plain_readCredentials : readCredentials.run.Plain := by
  refine Exchange.plain_bind Exchange.reads_byte.plain fun v => ?_
  split
  · trivial
  · exact Exchange.plain_bind Exchange.reads_counted.plain fun _ =>
      Exchange.plain_bind Exchange.reads_counted.plain fun _ => trivial

/-- Credentials are read from the version and two counted fields. Of a message of
another version only the version is read, and that is no refusal yet: the client
is still to be told. -/
theorem reads_readCredentials : readCredentials.Reads credentialsFormat := by
  refine .bind plain_readCredentials Exchange.reads_byte ?_ (by simp [Format.byte]) ?_
  · rintro v _ rfl
    by_cases hv : v = passwordVersion
    · subst hv
      rw [if_neg (by simp)]
      -- The user name, and behind it the password, each with its length in front.
      refine .bind ?_ Exchange.reads_counted ?_ (by simp [Format.counted]) ?_
      · exact Exchange.plain_bind Exchange.reads_counted.plain fun _ =>
          Exchange.plain_bind Exchange.reads_counted.plain fun _ => trivial
      · rintro username _ ⟨hu, rfl⟩
        refine .bind ?_ Exchange.reads_counted ?_ (by simp [Format.counted]) ?_
        · exact Exchange.plain_bind Exchange.reads_counted.plain fun _ => trivial
        · rintro password _ ⟨hp, rfl⟩
          exact .pure ⟨hu, hp, by simp [fieldsMessage]⟩
        · rintro password _ ⟨hp, rfl⟩
          exact ⟨[], .inl ⟨.ok (username, password), hu, hp, by simp [fieldsMessage]⟩⟩
      · rintro username _ ⟨hu, rfl⟩
        -- A missing field can be filled in as an empty one.
        exact ⟨[0], .inl ⟨.ok (username, []), hu, by simp, by simp [fieldsMessage, lengthByte]⟩⟩
    · rw [if_pos hv]
      exact .pure ⟨hv, rfl⟩
  · rintro v _ rfl
    by_cases hv : v = passwordVersion
    · subst hv
      exact ⟨[0, 0], .inl ⟨.ok ([], []), by simp, by simp, rfl⟩⟩
    · exact ⟨[], .inl ⟨.error v, hv, rfl⟩⟩

/-- The message of the expected credentials, which must not be empty. -/
def IsExpected (expected : Credentials) (m : Bytes) : Prop :=
  Credentials.fits expected.username ∧ Credentials.fits expected.password ∧
    m = passwordMessage expected

/-- The ways of a password exchange. -/
inductive Trial (expected : Credentials) (faulty : Prop) :
    History → Halt (Except ProtocolError Unit) → Prop where
  /-- The message does not come. -/
  | cut {g : History} {r : Halt (Except ProtocolError Unit)} (hg : g.IsQuiet)
      (hcut : credentialsFormat.IsCut g.receivedBytes) (hr : r.IsBreak) : Trial expected faulty g r
  /-- The credentials are the expected ones. -/
  | granted {g : History} (hg : g.IsQuiet) (hm : IsExpected expected g.receivedBytes)
      (entry : Log.Entry) :
      Trial expected faulty (g ++ [.sent [passwordVersion, 0], .noted entry]) (.ended (.ok ()))
  /-- They are not, or no credentials came. -/
  | denied {g : History} {m : Except UInt8 (Bytes × Bytes)} (hg : g.IsQuiet)
      (hm : credentialsFormat.accepts m g.receivedBytes)
      (hne : ¬ IsExpected expected g.receivedBytes) (entry : Log.Entry) :
      Trial expected faulty (g ++ [.sent [passwordVersion, 1], .noted entry])
        (.ended (.error .authFailed))
  /-- The status cannot be sent. -/
  | unsent {g : History} {m : Except UInt8 (Bytes × Bytes)} {s : UInt8} {part : Bytes}
      (hf : faulty) (hg : g.IsQuiet) (hm : credentialsFormat.accepts m g.receivedBytes)
      (hs : s = 0 ∧ IsExpected expected g.receivedBytes ∨ s = 1)
      (hpart : part <+: [passwordVersion, s]) (e : IoError) :
      Trial expected faulty (g ++ [.sent part]) (.ended (.error (.io e)))

/-- The fields of a message are where its length bytes put them. So no two pairs
of fields run together into the same message. -/
theorem fieldsMessage_inj {u p u' p' : Bytes} (hu : u.length ≤ 255) (hp : p.length ≤ 255)
    (hu' : u'.length ≤ 255) (hp' : p'.length ≤ 255)
    (h : fieldsMessage u p = fieldsMessage u' p') : u = u' ∧ p = p' := by
  simp only [fieldsMessage, List.cons_append, List.cons.injEq, true_and] at h
  obtain ⟨rfl, hrest⟩ := counted_append_inj hu hu' (List.cons.injEq .. ▸ h)
  have hrest : lengthByte p :: (p ++ []) = lengthByte p' :: (p' ++ []) := by simpa using hrest
  exact ⟨rfl, (counted_append_inj hp hp' hrest).1⟩

/-- A field fits if it has 1 to 255 bytes. Characters do not count. -/
theorem fits_iff (field : String) :
    Credentials.fits field = true ↔ utf8 field ≠ [] ∧ (utf8 field).length ≤ 255 := by
  simp [Credentials.fits, Nat.one_le_iff_ne_zero]

/-- Which messages are the expected one: those whose fields are the bytes of the
expected credentials, and not empty. An empty field is refused even if the policy
expects one. -/
theorem isExpected_iff {expected : Credentials} {m : Except UInt8 (Bytes × Bytes)} {got : Bytes}
    (hm : credentialsFormat.accepts m got) :
    IsExpected expected got ↔
      ∃ u p, m = .ok (u, p) ∧ u ≠ [] ∧ p ≠ [] ∧
        u = utf8 expected.username ∧ p = utf8 expected.password := by
  unfold IsExpected
  rw [fits_iff, fits_iff]
  cases m with
  | error v =>
    obtain ⟨hv, rfl⟩ := hm
    refine iff_of_false ?_ (by simp)
    rintro ⟨-, -, h⟩
    simp [passwordMessage] at h
  | ok fields =>
    obtain ⟨u, p⟩ := fields
    obtain ⟨hu, hp, rfl⟩ := hm
    -- The fields are told apart by their lengths, so equal messages carry equal fields.
    constructor
    · rintro ⟨⟨hu₀, hu'⟩, ⟨hp₀, hp'⟩, h⟩
      obtain ⟨rfl, rfl⟩ := fieldsMessage_inj hu hp hu' hp' h
      exact ⟨_, _, rfl, hu₀, hp₀, rfl, rfl⟩
    · rintro ⟨_, _, ⟨⟩, hu₀, hp₀, rfl, rfl⟩
      exact ⟨⟨hu₀, hu⟩, ⟨hp₀, hp⟩, rfl⟩

/-- Refusing is plain. -/
theorem plain_refuse (reason : String) : (refuse reason).run.Plain :=
  Exchange.plain_bind (Exchange.plain_send _) fun _ =>
    Exchange.plain_bind trivial fun _ => trivial

/-- Answering a message is plain, whatever the answer is. The cases are those of
the checks: another version, an empty field, and the comparison. -/
theorem plain_judge (expected : Credentials) (m : Except UInt8 (Bytes × Bytes)) :
    (judge expected m).run.Plain := by
  unfold judge
  split
  · exact plain_refuse _
  · split
    · exact plain_refuse _
    · split
      · exact Exchange.plain_bind (Exchange.plain_send _) fun _ => trivial
      · exact plain_refuse _

/-- The password exchange is plain. -/
theorem plain_authenticate (expected : Credentials) : (authenticate expected).run.Plain := by
  rw [authenticate_eq]
  exact Exchange.plain_bind plain_readCredentials fun m => plain_judge expected m

section

variable {connector : Connector} {faulty : Prop} {armed : Bool} {o o' : Held} {h : History}

/-- A refusal is a status and a note, if the status can be sent. If not, the
reason never gets to the log. -/
theorem course_of_refuse {reason : String} {r : Halt (Except ProtocolError Unit)}
    (hc : Course connector faulty (refuse reason).run armed o h r o') :
    (∃ entry, h = [.sent [passwordVersion, 1], .noted entry] ∧ r = .ended (.error .authFailed)) ∨
    faulty ∧ ∃ part e, part <+: [passwordVersion, 1] ∧ h = [.sent part] ∧
      r = .ended (.error (.io e)) := by
  obtain ⟨h', rfl, h'', rfl, rfl, rfl, -⟩ | hlost := Exchange.course_of_send_bind hc
  · exact .inl ⟨_, rfl, rfl⟩
  · exact .inr hlost

/-- The password exchange has no other ways than those of `Trial`. Its proof
follows the message first, and then the answer through the order of its
conditions. -/
theorem trial_of_course {expected : Credentials} {r : Halt (Except ProtocolError Unit)}
    (hc : Course connector faulty (authenticate expected).run armed o h r o') :
    Trial expected faulty h r := by
  rw [authenticate_eq] at hc
  obtain ⟨g, q, hread, hq⟩ := Exchange.course_of_bind plain_readCredentials hc
  obtain ⟨hg, hstops⟩ := reads_readCredentials.stops hread
  cases hstops with
  | refused he => exact he.elim
  | cut hcut hr =>
    cases hr <;> obtain ⟨rfl, rfl, -⟩ := hq
    · exact .cut hg hcut (.broken _)
    · exact .cut hg hcut .late
    · exact .cut hg hcut .stuck
  | @accepted m hm =>
    obtain ⟨h₂, rfl, hjudge⟩ := hq
    -- All three refusals differ in their note only.
    have hrefuse : ∀ {reason}, ¬ IsExpected expected g.receivedBytes →
        Course connector faulty (refuse reason).run armed o h₂ r o' →
        Trial expected faulty (g ++ h₂) r := by
      intro reason hne hc
      obtain ⟨entry, rfl, rfl⟩ | ⟨hf, part, e, hpart, rfl, rfl⟩ := course_of_refuse hc
      · exact .denied hg hm hne entry
      · exact .unsent hf hg hm (.inr rfl) hpart e
    rw [isExpected_iff hm] at hrefuse
    unfold judge at hjudge
    split at hjudge
    · exact hrefuse (by simp) hjudge
    · rename_i u p
      split at hjudge
      · rename_i hempty
        refine hrefuse ?_ hjudge
        rintro ⟨_, _, ⟨⟩, hu, hp, -⟩
        exact hempty.elim hu hp
      · rename_i hnonempty
        obtain ⟨hu, hp⟩ := not_or.mp hnonempty
        split at hjudge
        · rename_i hmatch
          have hexp : IsExpected expected g.receivedBytes :=
            (isExpected_iff hm).mpr ⟨u, p, rfl, hu, hp, hmatch⟩
          obtain ⟨h', rfl, h'', rfl, rfl, rfl, -⟩ | ⟨hf, part, e, hpart, rfl, rfl⟩ :=
            Exchange.course_of_send_bind hjudge
          · exact .granted hg hexp _
          · exact .unsent hf hg hm (.inl ⟨rfl, hexp⟩) hpart e
        · rename_i hmatch
          refine hrefuse ?_ hjudge
          rintro ⟨_, _, ⟨⟩, -, -, hfields⟩
          exact hmatch hfields

/-! ### The whole negotiation -/

end

/-- The ways of a negotiation. -/
inductive Way (policy : Policy) (faulty : Prop) :
    History → Halt (Except ProtocolError Method) → Prop where
  /-- The greeting does not come. -/
  | cut {g : History} {r : Halt (Except ProtocolError Method)} (hg : g.IsQuiet)
      (hcut : greetingFormat.IsCut g.receivedBytes) (hr : r.IsBreak) : Way policy faulty g r
  /-- The greeting is of another version. -/
  | refused {g : History} {v : UInt8} (hg : g.IsQuiet) (hm : g.receivedBytes = [v])
      (hv : v ≠ version) : Way policy faulty g (.ended (.error (.unsupportedVersion v)))
  /-- The selection cannot be sent. -/
  | unsent {g : History} {offer part : Bytes} (hf : faulty) (hg : g.IsQuiet)
      (hm : greetingFormat.accepts offer g.receivedBytes)
      (hpart : part <+: [version, selectionByte (select policy offer)]) (e : IoError) :
      Way policy faulty (g ++ [.sent part]) (.ended (.error (.io e)))
  /-- No offered method is acceptable. -/
  | unacceptable {g : History} {offer : Bytes} (hg : g.IsQuiet)
      (hm : greetingFormat.accepts offer g.receivedBytes) (hs : select policy offer = none) :
      Way policy faulty (g ++ [.sent [version, Method.notAcceptable]])
        (.ended (.error .noAcceptableMethod))
  /-- The client need not authenticate. -/
  | unauthenticated {g : History} {offer : Bytes} (hg : g.IsQuiet)
      (hm : greetingFormat.accepts offer g.receivedBytes)
      (hs : select policy offer = some .noAuth) :
      Way policy faulty (g ++ [.sent [version, Method.noAuth.toByte]]) (.ended (.ok .noAuth))
  /-- The client has to authenticate. -/
  | tried {g h : History} {offer : Bytes} {r : Halt (Except ProtocolError Unit)} (hg : g.IsQuiet)
      (hm : greetingFormat.accepts offer g.receivedBytes)
      (hs : select policy offer = some .usernamePassword)
      (htrial : Trial policy.credentials faulty h r) :
      Way policy faulty (g ++ .sent [version, Method.usernamePassword.toByte] :: h)
        (r.map (Except.map fun _ => .usernamePassword))

section

variable {connector : Connector} {faulty : Prop} {armed : Bool} {o o' : Held} {h : History}

/-- The negotiation is plain: it sets no deadline of its own and opens nothing. So
the deadline around it is the only one while it runs. -/
theorem plain_negotiate (policy : Policy) : (negotiate policy).run.Plain := by
  refine Exchange.plain_bind plain_readGreeting fun offer => ?_
  refine Exchange.plain_bind trivial fun _ => ?_
  refine Exchange.plain_bind (Exchange.plain_send _) fun _ => ?_
  split
  · trivial
  · trivial
  · exact Exchange.plain_bind (plain_authenticate _) fun _ => trivial

/-- The negotiation has no other ways than those of `Way`, on any stream. The
greeting is read first; then each of the three selections is followed by itself.
-/
theorem way_of_course {policy : Policy} {r : Halt (Except ProtocolError Method)}
    (hc : Course connector faulty (negotiate policy).run armed o h r o') :
    Way policy faulty h r := by
  obtain ⟨g, q, hread, hq⟩ := Exchange.course_of_bind plain_readGreeting hc
  obtain ⟨hg, hstops⟩ := reads_greeting.stops hread
  cases hstops with
  | refused he =>
    obtain ⟨v, hv, rfl, hm⟩ := he
    obtain ⟨rfl, rfl, -⟩ := hq
    exact .refused hg hm hv
  | cut hcut hr =>
    cases hr <;> obtain ⟨rfl, rfl, -⟩ := hq
    · exact .cut hg hcut (.broken _)
    · exact .cut hg hcut .late
    · exact .cut hg hcut .stuck
  | @accepted offer hm =>
    obtain ⟨_, rfl, h₂, rfl, hsend⟩ := hq
    -- The note on the offer belongs to the quiet stretch before the selection.
    generalize hnote : Event.noted _ = note
    have hg' : History.IsQuiet (g ++ [note]) := by simp [← hnote, hg, Event.IsQuiet]
    have hm' : greetingFormat.accepts offer (History.receivedBytes (g ++ [note])) := by
      simpa [← hnote, History.receivedBytes] using hm
    rw [show g ++ note :: h₂ = (g ++ [note]) ++ h₂ by simp]
    obtain ⟨h₃, rfl, hrest⟩ | ⟨hf, part, e, hpart, rfl, rfl⟩ :=
      Exchange.course_of_send_bind hsend
    · -- The selection was sent, and decides what follows it.
      cases hs : select policy offer with
      | none =>
        rw [hs] at hrest
        obtain ⟨rfl, rfl, -⟩ := hrest
        exact .unacceptable hg' hm' hs
      | some method =>
        rw [hs] at hrest
        cases method with
        | noAuth =>
          obtain ⟨rfl, rfl, -⟩ := hrest
          exact .unauthenticated hg' hm' hs
        | usernamePassword =>
          obtain ⟨q, htry, rfl⟩ := Exchange.course_of_bind_pure (plain_authenticate _) hrest
          exact .tried hg' hm' hs (trial_of_course htry)
    · exact .unsent hf hg' hm' hpart e

end

/-! ### Negotiations that succeed -/

/-- The password method is selected only if it can be carried out and the client
has offered it. -/
theorem offered_of_select {policy : Policy} {offer : Bytes}
    (hs : select policy offer = some .usernamePassword) :
    policy.hasCredentials = true ∧ Method.usernamePassword.toByte ∈ offer := by
  unfold select at hs
  split at hs
  · assumption
  · split at hs <;> cases hs

/-- What the server has taken and sent once a client has passed the
negotiation. -/
inductive Passed (policy : Policy) : Bytes → Bytes → Prop where
  | freely {offer : Bytes} (hlen : offer.length ≤ 255) (hs : select policy offer = some .noAuth) :
      Passed policy (offerMessage offer) [version, Method.noAuth.toByte]
  | authenticated {offer : Bytes} (hlen : offer.length ≤ 255)
      (hs : select policy offer = some .usernamePassword)
      (hu : Credentials.fits policy.credentials.username)
      (hp : Credentials.fits policy.credentials.password) :
      Passed policy (offerMessage offer ++ passwordMessage policy.credentials)
        [version, Method.usernamePassword.toByte, passwordVersion, 0]

/-- A negotiation that succeeds has taken and sent the bytes of `Passed`, and no
others. So what a client was told and what it has said are known from its success
alone. -/
theorem Way.passed {policy : Policy} {faulty : Prop} {h : History} {method : Method}
    (hway : Way policy faulty h (.ended (.ok method))) :
    Passed policy h.receivedBytes h.sentBytes := by
  generalize hr : Halt.ended (Except.ok method) = r at hway
  cases hway with
  | cut hg hcut hbreak => cases hbreak <;> cases hr
  -- Only two ways end well: a client that may come in freely, and one that is tried and
  -- let in.
  | refused | unsent | unacceptable => cases hr
  | @unauthenticated g offer hg hm hs =>
    have hsent : History.sentBytes (g ++ [.sent [version, Method.noAuth.toByte]])
        = [version, Method.noAuth.toByte] := by
      simp [hg.sentBytes_eq, History.sentBytes]
    rw [hsent, History.receivedBytes_append, hm.2]
    simpa [History.receivedBytes] using Passed.freely hm.1 hs
  | @tried g h offer q hg hm hs htrial =>
    cases htrial with
    | cut _ _ hbreak => cases hbreak <;> cases hr
    | denied | unsent => cases hr
    | @granted g' hg' hexp entry =>
      obtain ⟨hu, hp, hcredentials⟩ := hexp
      simpa [History.sentBytes, History.receivedBytes, hg.sentBytes_eq, hg'.sentBytes_eq, hm.2,
        hcredentials] using Passed.authenticated hm.1 hs hu hp

end Negotiation

end Socks5
