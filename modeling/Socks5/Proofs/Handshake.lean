import Socks5.Proofs.Agreement
import Socks5.Proofs.FaultFreeRuns

/-!
# `Socks5.Proofs.Handshake`: a client against any server

The server may send any bytes. A client greets first, is let in or not
(`Access`), and then asks for its target. Each message that it writes is
the consequence of what it has read until then.

* `way_of_course`: the ways of a handshake. There are no others, whatever
  the stream does.
* `Way.orderly`: the credentials are sent after the selection of the
  password method only, and the request after the client was let in only.
* `run_asks`: a server that lets the client in and replies is understood.
* `handshake_exact`: for which bytes a handshake succeeds, for which it is
  refused, and what the client says.
-/

set_option autoImplicit false

namespace Socks5

open Net Dialogue

/-! ### Replies -/

namespace Reply

/-- Replies. The third byte is not looked at. A wrong version is refused
after three bytes and an unknown address type after its byte. -/
def format : Format Reply where
  accepts q m := ∃ c x m', q.code = .ofByte c ∧ Address.format.accepts q.address m' ∧
    m = version :: c :: x :: m'
  refuses e m :=
    (∃ v c x, v ≠ version ∧ e = .unsupportedVersion v ∧ m = [v, c, x]) ∨
    ∃ c x m', Address.format.refuses e m' ∧ m = version :: c :: x :: m'

/-- Reading a reply neither sends nor opens anything. -/
theorem plain_read : read.run.Plain := by
  refine Exchange.plain_bind (Exchange.reads_block 3).plain fun head => ?_
  split
  · trivial
  · exact Exchange.plain_bind Address.plain_read fun _ => trivial

/-- The reader of replies reads the format. It goes in the order of the bytes:
version, code and reserved byte in one block, then the address. -/
theorem reads_reply : read.Reads format := by
  refine .bind plain_read (Exchange.reads_block 3) ?_ (by simp [Format.block]) ?_
  · rintro head _ rfl
    obtain ⟨v, c, x, rfl⟩ := Exchange.exists_eq_three head
    show (if v ≠ version then throw (.unsupportedVersion v)
      else Address.read >>= fun a => pure ⟨.ofByte c, a⟩ : Exchange Reply).Reads
        (format.after [v, c, x])
    by_cases hv : v = version
    · subst hv
      rw [if_neg (by simp)]
      -- Behind the right version comes the address. Its faults are faults of the reply,
      -- and its messages, with three bytes in front, are messages of the reply.
      refine .bind (Exchange.plain_bind Address.plain_read fun _ => trivial)
        Address.reads_address ?_ ?_ ?_
      · intro a m ha
        refine .pure ⟨c, x, m, rfl, ha, ?_⟩
        simp
      · intro e m he
        exact .inr ⟨c, x, m, he, rfl⟩
      · intro a m ha
        exact ⟨[], .inl ⟨⟨.ofByte c, a⟩, c, x, m, rfl, ha, by simp⟩⟩
    · rw [if_pos hv]
      exact .throw (.inl ⟨v, c, x, hv, rfl, rfl⟩)
  · rintro head _ rfl
    obtain ⟨v, c, x, rfl⟩ := Exchange.exists_eq_three head
    by_cases hv : v = version
    · subst hv
      -- Three bytes can always be completed, here by the address 0.0.0.0 with port 0.
      have hzero := Address.accepts_ipv4 (.replicate 4 0) 0
      exact ⟨_, .inl ⟨⟨.ofByte c, _⟩, c, x, _, rfl, hzero, rfl⟩⟩
    · exact ⟨[], .inr ⟨_, .inl ⟨v, c, x, hv, rfl, rfl⟩⟩⟩

end Reply

/-- A block of two bytes, as a client looks at it. -/
theorem Exchange.toList_two (v : Vector UInt8 2) : v.toList = [headVersion v, headCode v] := by
  obtain ⟨version, code, rfl⟩ := exists_eq_two v
  rfl

/-! ### The order of what is written -/

namespace History

/-- Whether each message of a history is allowed after the bytes that were
taken before it. The given bytes were taken before the history begins. -/
def Orderly (Allowed : Bytes → Bytes → Prop) (got : Bytes) (h : History) : Prop :=
  ∀ (pre : History) (bs : Bytes) (post : History), h = pre ++ .sent bs :: post →
    Allowed (got ++ pre.receivedBytes) bs

variable {Allowed : Bytes → Bytes → Prop} {got : Bytes} {g h : History}

/-- Where nothing is written, nothing is written out of order. -/
theorem IsQuiet.orderly (hg : g.IsQuiet) : Orderly Allowed got g := by
  rintro pre bs post rfl
  have hsent := (isQuiet_append.mp hg).2
  exact (isQuiet_cons.mp hsent).1.elim

/-- A message in front must be allowed after what was taken before the history.
The messages behind it are judged as they were, as sending takes nothing. -/
theorem Orderly.sent {bs : Bytes} (hbs : Allowed got bs) (hh : Orderly Allowed got h) :
    Orderly Allowed got (.sent bs :: h) := by
  intro pre bs' post heq
  cases pre with
  | nil =>
    obtain ⟨⟨⟩, -⟩ := List.cons.inj heq
    show Allowed (got ++ []) bs
    rwa [List.append_nil]
  | cons e pre =>
    obtain ⟨rfl, hrest⟩ := List.cons.inj heq
    exact hh pre bs' post hrest

/-- Two histories are in order if the second one is after what the first one has
taken. -/
theorem Orderly.append (hg : Orderly Allowed got g)
    (hh : Orderly Allowed (got ++ g.receivedBytes) h) : Orderly Allowed got (g ++ h) := by
  intro pre bs post heq
  -- The message stands in the first part or in the second one.
  obtain ⟨mid, rfl, hmid⟩ | ⟨mid, rfl, hmid⟩ := List.append_eq_append_iff.mp heq
  · rw [receivedBytes_append, ← List.append_assoc]
    exact hh mid bs post hmid
  · cases mid with
    | nil =>
      have hallowed := hh [] bs post hmid.symm
      rw [List.append_nil] at hallowed
      rwa [show History.receivedBytes [] = [] from rfl, List.append_nil] at hallowed
    | cons e mid =>
      obtain ⟨rfl, -⟩ := List.cons.inj hmid
      exact hg pre bs mid rfl

end History

/-! ### The ways of a client -/

/-- Whether a halt is neither a success nor a refusal by a reply. -/
def Halt.IsMute {α : Type} : Halt (Except ProtocolError α) → Prop
  | .ended (.ok _) | .ended (.error (.rejected _)) => False
  | _ => True

/-- An error that is mute stays mute for a result of another kind. The first part
of a handshake gives no address, so its errors have to be carried over. -/
theorem Halt.IsMute.error {α β : Type} {e : ProtocolError}
    (h : (.ended (.error e) : Halt (Except ProtocolError α)).IsMute) :
    (.ended (.error e) : Halt (Except ProtocolError β)).IsMute := by
  cases e <;> exact h

namespace Client

/-- Whether both fields of the credentials fit behind their length bytes. -/
def Fit (c : Credentials) : Prop :=
  Credentials.fits c.username = true ∧ Credentials.fits c.password = true

/-- The bytes with which a server lets a client in. -/
inductive Clearance (credentials : Option Credentials) : Bytes → Prop where
  /-- The server asks for no authentication. -/
  | unasked : Clearance credentials [version, Method.noAuth.toByte]
  /-- The server asks for the password and is content with it. -/
  | password {c : Credentials} (hc : credentials = some c) (hfit : Fit c) (v : UInt8) :
      Clearance credentials [version, Method.usernamePassword.toByte, v, 0]

/-- What a client may write after the bytes that it has taken: its
credentials after the selection of the password method, and its request
once it is let in. -/
inductive MaySay (credentials : Option Credentials) (request got : Bytes) : Bytes → Prop where
  | credentials {c : Credentials} (hc : credentials = some c) (hfit : Fit c)
      (hgot : got = [version, Method.usernamePassword.toByte]) :
      MaySay credentials request got (Negotiation.passwordMessage c)
  | request (hgot : Clearance credentials got) : MaySay credentials request got request

/-- How the first part of a handshake goes, up to where the client is let
in. -/
inductive Access (credentials : Option Credentials) :
    History → Halt (Except ProtocolError Unit) → Prop where
  | free {g : History} (hg : g.IsQuiet)
      (hgot : g.receivedBytes = [version, Method.noAuth.toByte]) :
      Access credentials g (.ended (.ok ()))
  | login {c : Credentials} {g g' : History} {v : UInt8} (hc : credentials = some c)
      (hfit : Fit c) (hg : g.IsQuiet)
      (hgot : g.receivedBytes = [version, Method.usernamePassword.toByte]) (hg' : g'.IsQuiet)
      (hstatus : g'.receivedBytes = [v, 0]) :
      Access credentials (g ++ .sent (Negotiation.passwordMessage c) :: g') (.ended (.ok ()))
  /-- Nothing is selected that the client can do. -/
  | barred {g : History} {r : Halt (Except ProtocolError Unit)} (hg : g.IsQuiet) (hr : r.IsMute) :
      Access credentials g r
  /-- The credentials are not accepted. -/
  | denied {c : Credentials} {g g' : History} {r : Halt (Except ProtocolError Unit)}
      (hc : credentials = some c) (hfit : Fit c) (hg : g.IsQuiet)
      (hgot : g.receivedBytes = [version, Method.usernamePassword.toByte]) (hg' : g'.IsQuiet)
      (hr : r.IsMute) :
      Access credentials (g ++ .sent (Negotiation.passwordMessage c) :: g') r

/-- What a reply means for a client. -/
def outcome (q : Reply) : Except ProtocolError Address :=
  if q.code.isSuccess then .ok q.address else .error (.rejected q.code)

/-- How a client takes the bytes of a reply. -/
inductive Verdict (got : Bytes) : Halt (Except ProtocolError Address) → Prop where
  | answered {q : Reply} (hq : Reply.format.accepts q got) : Verdict got (.ended (outcome q))
  | none {r : Halt (Except ProtocolError Address)} (hr : r.IsMute) : Verdict got r

/-- The ways of a handshake whose target has the given request. -/
inductive Way (credentials : Option Credentials) (request : Bytes) :
    History → Halt (Except ProtocolError Address) → Prop where
  | unasked {g : History} {q : Halt (Except ProtocolError Unit)}
      {r : Halt (Except ProtocolError Address)} (hg : Access credentials g q) (hr : r.IsMute) :
      Way credentials request (.sent (Negotiation.greeting credentials) :: g) r
  | asked {g h : History} {r : Halt (Except ProtocolError Address)}
      (hg : Access credentials g (.ended (.ok ()))) (hh : h.IsQuiet)
      (hr : Verdict h.receivedBytes r) :
      Way credentials request
        (.sent (Negotiation.greeting credentials) :: (g ++ .sent request :: h)) r

/-- The first part of a handshake. -/
def access (credentials : Option Credentials) : Exchange Unit := do
  let selection ← Exchange.block 2
  if headVersion selection ≠ version then throw (.unsupportedVersion (headVersion selection))
  else settle (headCode selection) credentials

/-- A handshake greets, gets in and asks. The three parts are looked at one by one
below, and each has its own account of what is written after which bytes. -/
theorem handshake_eq {command : Command} {target : String} {credentials : Option Credentials}
    {a : Address} {frame : Bytes} (hparse : Address.parse target = .ok a)
    (ha : a.encode = .ok frame) :
    handshake command target credentials = (do
      Exchange.send (Negotiation.greeting credentials)
      access credentials
      Session.demand command target (Request.header command ++ frame)) := by
  rw [Session.handshake_of_ok hparse ha]
  unfold access Session.followSelection
  simp only [bind_assoc]
  congr 1
  funext _
  congr 1
  funext selection
  split
  · rfl
  · rfl

/-- Sending credentials is plain, whether they fit or not. -/
theorem plain_sendCredentials (c : Credentials) : (Negotiation.sendCredentials c).run.Plain := by
  unfold Negotiation.sendCredentials
  split
  · exact Exchange.plain_bind trivial fun _ => trivial
  · refine Exchange.plain_bind (Exchange.plain_send _) fun _ => ?_
    refine Exchange.plain_bind (Exchange.reads_block 2).plain fun status => ?_
    split <;> trivial

/-- So is what follows the selection, whatever was selected. The only case in
which anything is sent is that of credentials. -/
theorem plain_settle (selected : UInt8) (credentials : Option Credentials) :
    (settle selected credentials).run.Plain := by
  have hunusable : (settle.unusable selected).run.Plain :=
    Exchange.plain_bind trivial fun _ => trivial
  unfold settle
  split
  · trivial
  · split
    · split
      · exact plain_sendCredentials _
      · exact hunusable
    · exact hunusable

/-- So is the whole first part. -/
theorem plain_access (credentials : Option Credentials) : (access credentials).run.Plain := by
  refine Exchange.plain_bind (Exchange.reads_block 2).plain fun selection => ?_
  split
  · trivial
  · exact plain_settle _ _

/-- So is judging a reply. -/
theorem plain_judgeReply (command : Command) (target : String) (reply : Reply) :
    (Session.judgeReply command target reply).run.Plain := by
  unfold Session.judgeReply
  split
  · trivial
  · exact Exchange.plain_bind trivial fun _ => trivial

/-- So is asking for the target. -/
theorem plain_demand (command : Command) (target : String) (request : Bytes) :
    (Session.demand command target request).run.Plain :=
  Exchange.plain_bind (Exchange.plain_send _) fun _ =>
    Exchange.plain_bind Reply.plain_read fun reply => plain_judgeReply command target reply

/-- A handshake reads, sends and notes, and that is all. So its runs are known
once its courses are, and a stream that nothing disturbs brings it to its end. -/
theorem plain_handshake (command : Command) (target : String) (credentials : Option Credentials) :
    (handshake command target credentials).run.Plain := by
  cases hparse : Address.parse target with
  | error e =>
    rw [Session.handshake_of_error hparse]
    trivial
  | ok a =>
    obtain ⟨-, frame, ha⟩ := Address.encode_of_parse hparse
    rw [handshake_eq hparse ha]
    exact Exchange.plain_bind (Exchange.plain_send _) fun _ =>
      Exchange.plain_bind (plain_access credentials) fun _ => plain_demand _ _ _

section

variable {connector : Connector} {armed : Bool} {o o' : Held} {credentials : Option Credentials}
  {g h : History}

/-- A read that is the first part of an exchange succeeds, or the exchange stops
there, mute. The end of the stream, an error and a stall are all of the second
kind. -/
theorem course_of_block_bind {α : Type} {n : Nat} {f : Vector UInt8 n → Exchange α}
    {r : Halt (Except ProtocolError α)}
    (hc : Course connector False (Exchange.block n >>= f).run armed o h r o') :
    ∃ h₁, h₁.IsQuiet ∧
      ((∃ v h₂, h₁.receivedBytes = v.toList ∧ h = h₁ ++ h₂ ∧
          Course connector False (f v).run armed o h₂ r o') ∨
        h = h₁ ∧ r.IsMute) := by
  obtain ⟨h₁, q, hblock, hq⟩ := Exchange.course_of_bind (Exchange.reads_block n).plain hc
  obtain ⟨hquiet, hstops⟩ := (Exchange.reads_block n).stops hblock
  refine ⟨h₁, hquiet, ?_⟩
  cases hstops with
  | accepted hv =>
    obtain ⟨h₂, hh, hf⟩ := hq
    exact .inl ⟨_, h₂, hv, hh, hf⟩
  | refused he => exact he.elim
  | cut _ hr =>
    cases hr <;> obtain ⟨rfl, rfl, -⟩ := hq <;> exact .inr ⟨rfl, trivial⟩

/-- The ways of sending credentials. They go out only if they fit, and the client
is let in only by a status of zero. -/
theorem access_of_sendCredentials {c : Credentials} {r : Halt (Except ProtocolError Unit)}
    (hcredentials : credentials = some c) (hg : g.IsQuiet)
    (hgot : g.receivedBytes = [version, Method.usernamePassword.toByte])
    (hc : Course connector False (Negotiation.sendCredentials c).run armed o h r o') :
    Access credentials (g ++ h) r := by
  unfold Negotiation.sendCredentials at hc
  split at hc
  · -- Credentials that do not fit are noted and not sent.
    obtain ⟨_, rfl, rfl, rfl, -⟩ := hc
    exact .barred (History.isQuiet_append.mpr ⟨hg, by simp [Event.IsQuiet]⟩) trivial
  · rename_i hfit
    have hfit : Fit c := by
      rw [Fit]
      exact Decidable.not_not.mp hfit
    obtain ⟨h', rfl, hanswer⟩ | ⟨hfaulty, -⟩ := Exchange.course_of_send_bind hc
    · obtain ⟨h₁, hquiet, ⟨status, h₂, hstatus, rfl, hjudge⟩ | ⟨rfl, hr⟩⟩ :=
        course_of_block_bind hanswer
      · split at hjudge
        · obtain ⟨rfl, rfl, -⟩ := hjudge
          rw [List.append_nil]
          exact .denied hcredentials hfit hg hgot hquiet trivial
        · rename_i hzero
          obtain ⟨rfl, rfl, -⟩ := hjudge
          rw [List.append_nil]
          refine .login hcredentials hfit hg hgot hquiet (v := headVersion status) ?_
          rw [hstatus, Exchange.toList_two, Decidable.not_not.mp hzero]
      · exact .denied hcredentials hfit hg hgot hquiet hr
    · exact hfaulty.elim

/-- The ways of the first part. What is written in it are credentials, and only
after the selection of the password method by a server of the right version. -/
theorem access_of_course {r : Halt (Except ProtocolError Unit)}
    (hc : Course connector False (access credentials).run armed o h r o') :
    Access credentials h r := by
  obtain ⟨g, hg, ⟨selection, h', hgot, rfl, hsettle⟩ | ⟨rfl, hr⟩⟩ := course_of_block_bind hc
  · rw [Exchange.toList_two] at hgot
    -- Whatever the client cannot do is noted at most.
    have hunusable : ∀ {h' : History} {r : Halt (Except ProtocolError Unit)},
        Course connector False (settle.unusable (headCode selection)).run armed o h' r o' →
        Access credentials (g ++ h') r := by
      rintro h' r ⟨_, rfl, rfl, rfl, -⟩
      exact .barred (History.isQuiet_append.mpr ⟨hg, by simp [Event.IsQuiet]⟩) trivial
    split at hsettle
    · obtain ⟨rfl, rfl, -⟩ := hsettle
      rw [List.append_nil]
      exact .barred hg trivial
    · rename_i hversion
      rw [Decidable.not_not.mp hversion] at hgot
      unfold settle at hsettle
      split at hsettle
      · rename_i hselected
        obtain ⟨rfl, rfl, -⟩ := hsettle
        rw [List.append_nil]
        exact .free hg (by rw [hgot, hselected])
      · split at hsettle
        · split at hsettle
          · rename_i hselected
            exact access_of_sendCredentials rfl hg (by rw [hgot, hselected]) hsettle
          · exact hunusable hsettle
        · exact hunusable hsettle
  · exact .barred hg hr

/-- Judging a reply takes no bytes and says nothing. What it comes to is fixed by
the reply. -/
theorem verdict_of_judgeReply {command : Command} {target : String} {reply : Reply} {got : Bytes}
    {r : Halt (Except ProtocolError Address)} (hreply : Reply.format.accepts reply got)
    (hc : Course connector False (Session.judgeReply command target reply).run armed o h r o') :
    h.receivedBytes = [] ∧ h.IsQuiet ∧ Verdict got r := by
  have hanswered : Verdict got (.ended (outcome reply)) := .answered hreply
  unfold Session.judgeReply at hc
  unfold outcome at hanswered
  split at hc
  · rename_i hcode
    rw [if_neg hcode] at hanswered
    obtain ⟨rfl, rfl, -⟩ := hc
    exact ⟨rfl, History.isQuiet_nil, hanswered⟩
  · rename_i hcode
    rw [if_pos (Decidable.not_not.mp hcode)] at hanswered
    obtain ⟨_, rfl, rfl, rfl, -⟩ := hc
    exact ⟨rfl, by simp [Event.IsQuiet], hanswered⟩

/-- The ways of asking for the target: the request goes out first, and nothing
after it. -/
theorem verdict_of_demand {command : Command} {target : String} {request : Bytes}
    {r : Halt (Except ProtocolError Address)}
    (hc : Course connector False (Session.demand command target request).run armed o h r o') :
    ∃ h' : History, h = .sent request :: h' ∧ h'.IsQuiet ∧ Verdict h'.receivedBytes r := by
  obtain ⟨h', rfl, hanswer⟩ | ⟨hfaulty, -⟩ := Exchange.course_of_send_bind hc
  · refine ⟨h', rfl, ?_⟩
    obtain ⟨h₁, q, hread, hq⟩ := Exchange.course_of_bind Reply.plain_read hanswer
    obtain ⟨hquiet, hstops⟩ := Reply.reads_reply.stops hread
    cases hstops with
    | accepted hreply =>
      obtain ⟨h₂, rfl, hjudge⟩ := hq
      obtain ⟨hnone, hquiet₂, hverdict⟩ := verdict_of_judgeReply hreply hjudge
      refine ⟨History.isQuiet_append.mpr ⟨hquiet, hquiet₂⟩, ?_⟩
      rwa [History.receivedBytes_append, hnone, List.append_nil]
    | refused he =>
      obtain ⟨rfl, rfl, -⟩ := hq
      refine ⟨hquiet, .none ?_⟩
      -- A reply that is not understood is not one that rejects.
      obtain ⟨_, _, _, -, rfl, -⟩ | ⟨_, _, _, ⟨_, -, rfl, -⟩, -⟩ := he
      · trivial
      · trivial
    | cut _ hr =>
      cases hr <;> obtain ⟨rfl, rfl, -⟩ := hq <;> exact ⟨hquiet, .none trivial⟩
  · exact hfaulty.elim

/-- The ways of a handshake with a target that parses, on a stream that takes
every message. A write that fails is left out by `False`: there is no such course.
-/
theorem way_of_course {command : Command} {target : String} {a : Address} {frame : Bytes}
    {r : Halt (Except ProtocolError Address)} (hparse : Address.parse target = .ok a)
    (ha : a.encode = .ok frame)
    (hc : Course connector False (handshake command target credentials).run armed o h r o') :
    Way credentials (Request.header command ++ frame) h r := by
  rw [handshake_eq hparse ha] at hc
  obtain ⟨h', rfl, hgreeted⟩ | ⟨hfaulty, -⟩ := Exchange.course_of_send_bind hc
  · -- Only a first part that ends well is followed by the request.
    obtain ⟨g, q, haccess, hq⟩ := Exchange.course_of_bind (plain_access credentials) hgreeted
    have hway := access_of_course haccess
    match q, hq with
    | .ended (.ok ()), ⟨h₂, hh, hdemand⟩ =>
      obtain ⟨h₃, rfl, hquiet, hverdict⟩ := verdict_of_demand hdemand
      rw [hh]
      exact .asked hway hquiet hverdict
    | .ended (.error e), ⟨hh, hr, _⟩ =>
      rw [hh, hr]
      refine .unasked hway ?_
      -- The first part knows no replies, so its errors are mute.
      cases hway with
      | barred hg hmute => exact hmute.error
      | denied hc hfit hg hgot hg' hmute => exact hmute.error
    | .late, ⟨hh, hr, _⟩ =>
      rw [hh, hr]
      exact .unasked hway trivial
    | .stuck, ⟨hh, hr, _⟩ =>
      rw [hh, hr]
      exact .unasked hway trivial
  · exact hfaulty.elim

end

/-! ### What the ways say -/

section

variable {credentials : Option Credentials} {request : Bytes} {g h : History}

/-- In the first part the client writes nothing but its credentials, and those in
their place. -/
theorem Access.orderly {q : Halt (Except ProtocolError Unit)} (hg : Access credentials g q) :
    g.Orderly (MaySay credentials request) [] := by
  cases hg with
  | free hg hgot => exact hg.orderly
  | barred hg hr => exact hg.orderly
  | login hc hfit hg hgot hg' hstatus =>
    refine .append hg.orderly (.sent ?_ hg'.orderly)
    exact .credentials hc hfit hgot
  | denied hc hfit hg hgot hg' hr =>
    refine .append hg.orderly (.sent ?_ hg'.orderly)
    exact .credentials hc hfit hgot

/-- Whoever is let in has taken the bytes that let a client in. Both ways in are
read off the history, and the two ways that fail are no success. -/
theorem Access.clearance (hg : Access credentials g (.ended (.ok ()))) :
    Clearance credentials g.receivedBytes := by
  cases hg with
  | free hg hgot =>
    rw [hgot]
    exact .unasked
  | @login c g g' v hc hfit hg hgot hg' hstatus =>
    rw [History.receivedBytes_append, hgot]
    show Clearance credentials (_ ++ g'.receivedBytes)
    rw [hstatus]
    exact .password hc hfit v
  | barred hg hr => exact hr.elim
  | denied hc hfit hg hgot hg' hr => exact hr.elim

/-- A client that is neither mute nor let down was let in and has a reply. The
bytes that it has taken are those that let it in, and then those of the reply. -/
theorem Way.answered {r : Halt (Except ProtocolError Address)} (hway : Way credentials request h r)
    (hr : ¬ r.IsMute) :
    ∃ passage q m, Clearance credentials passage ∧ Reply.format.accepts q m ∧
      h.receivedBytes = passage ++ m ∧ r = .ended (outcome q) := by
  cases hway with
  | unasked hg hmute => exact absurd hmute hr
  | @asked g h r hg hh hverdict =>
    cases hverdict with
    | none hmute => exact absurd hmute hr
    | @answered q hq =>
      refine ⟨g.receivedBytes, q, h.receivedBytes, hg.clearance, hq, ?_, rfl⟩
      show History.receivedBytes (g ++ .sent request :: h) = _
      rw [History.receivedBytes_append]
      rfl

/-- A client greets, and whatever it writes after that it may write. Nothing has
been taken before the greeting, which is why the rest begins with no bytes. -/
theorem Way.orderly {r : Halt (Except ProtocolError Address)} (hway : Way credentials request h r) :
    ∃ g : History, h = .sent (Negotiation.greeting credentials) :: g ∧
      g.Orderly (MaySay credentials request) [] := by
  cases hway with
  | @unasked g _ _ hg hr => exact ⟨g, rfl, hg.orderly⟩
  | asked hg hh hr =>
    -- The request is written once the client is let in, and nothing after it.
    refine ⟨_, rfl, .append hg.orderly (.sent ?_ hh.orderly)⟩
    exact .request hg.clearance

end

/-! ### Servers that let a client in -/

section

variable {β : Type} (connector : Connector) {s : Scene} {rest : Bytes}

/-- A client with credentials that fit sends them and takes a zero status. The
version in front of the status is not looked at, so it may be any byte. -/
theorem run_sendCredentials {c : Credentials} (hfit : Fit c) (v : UInt8) (f : Unit → Exchange β)
    (hs : s.IsFlowing) (hsure : s.stream.outlet.Sure) (hahead : s.ahead = [v, 0] ++ rest) :
    ∃ s', (Negotiation.sendCredentials c >>= f).run.run connector s
        = (f ()).run.run connector s' ∧ s.Took s' rest := by
  have hsend : Negotiation.sendCredentials c = (do
      Exchange.send (Negotiation.passwordMessage c)
      let status ← Exchange.block 2
      if headCode status ≠ 0 then throw .authFailed else return ()) := by
    rw [Negotiation.sendCredentials]
    exact if_neg (not_not_intro hfit)
  rw [hsend, bind_assoc]
  obtain ⟨s₁, hrun₁, htook₁⟩ := Exchange.run_send_bind connector
    (Negotiation.passwordMessage c) _ hs hsure
  rw [hrun₁, bind_assoc]
  obtain ⟨s₂, hrun₂, htook₂⟩ := Exchange.run_gets_bind connector (Exchange.gets_block #v[v, 0]) _
    htook₁.flowing (htook₁.ahead.trans hahead)
  exact ⟨s₂, hrun₂, htook₁.trans htook₂⟩

/-- The bytes that let a client in let it in. It takes just those, and what
follows is left for the reply. -/
theorem run_access {credentials : Option Credentials} {passage : Bytes}
    (hclear : Clearance credentials passage) (f : Unit → Exchange β) (hs : s.IsFlowing)
    (hsure : s.stream.outlet.Sure) (hahead : s.ahead = passage ++ rest) :
    ∃ s', (access credentials >>= f).run.run connector s = (f ()).run.run connector s' ∧
      s.Took s' rest := by
  rw [access, bind_assoc]
  cases hclear with
  -- The server asks for nothing, so its selection is all that is taken.
  | unasked =>
    exact Exchange.run_gets_bind connector (Exchange.gets_block #v[version, Method.noAuth.toByte])
      _ hs hahead
  | @password c hc hfit v =>
    subst hc
    -- The selection comes first, then the status. The credentials are written in between
    -- and take nothing from the server's stream.
    have hahead : s.ahead = [version, Method.usernamePassword.toByte] ++ ([v, 0] ++ rest) := hahead
    obtain ⟨s₁, hrun₁, htook₁⟩ := Exchange.run_gets_bind connector
      (Exchange.gets_block #v[version, Method.usernamePassword.toByte])
      (fun selection => (if headVersion selection ≠ version then
        throw (.unsupportedVersion (headVersion selection))
        else settle (headCode selection) (some c) : Exchange Unit) >>= f)
      hs hahead
    obtain ⟨s₂, hrun₂, htook₂⟩ := run_sendCredentials connector hfit v f htook₁.flowing
      (htook₁.outlet ▸ hsure) htook₁.ahead
    exact ⟨s₂, hrun₁.trans hrun₂, htook₁.trans htook₂⟩

/-- A client that has a reply does what the reply says, and takes nothing for it.
-/
theorem run_judgeReply (command : Command) (target : String) (q : Reply) (s : Scene) :
    ∃ s', (Session.judgeReply command target q).run.run connector s = .ended (outcome q) s' ∧
      s'.ahead = s.ahead := by
  unfold Session.judgeReply outcome
  by_cases hcode : q.code.isSuccess = true
  · rw [if_neg (not_not_intro hcode), if_pos hcode]
    exact ⟨_, rfl, rfl⟩
  · rw [if_pos hcode, if_neg hcode]
    exact ⟨_, rfl, rfl⟩

/-- A handshake with a server that lets the client in and replies comes to what
the reply says, and takes nothing of what follows. The server need not wait for
the client: all of its bytes may be there from the beginning. -/
theorem run_asks {command : Command} {target : String} {credentials : Option Credentials}
    {a bound : Address} {frame passage reply : Bytes} {c x : UInt8} {server : Stream}
    (hparse : Address.parse target = .ok a) (ha : a.encode = .ok frame)
    (hserver : server.IsClean) (hclear : Clearance credentials passage)
    (hreply : bound.encode = .ok reply)
    (hbytes : Script.bytes server.script = passage ++ [version, c, x] ++ reply ++ rest) :
    ∃ s, (handshake command target credentials).run.run connector (.atStart server)
        = .ended (outcome ⟨.ofByte c, bound.framed⟩) s ∧ s.ahead = rest := by
  rw [handshake_eq hparse ha]
  -- The handshake in its order: the greeting is sent, access is gained, the request is
  -- sent, the reply is read and judged. Sending leaves what the server has to say as it
  -- is.
  obtain ⟨s₁, hrun₁, htook₁⟩ := Exchange.run_send_bind connector (Negotiation.greeting credentials)
    (fun _ => access credentials >>= fun _ => Session.demand command target _)
    (Scene.isFlowing_atStart hserver.smooth) hserver.sure
  have hsure₁ : s₁.stream.outlet.Sure := htook₁.outlet ▸ hserver.sure
  have hahead₁ : s₁.ahead = passage ++ ([version, c, x] ++ reply ++ rest) := by
    rw [htook₁.ahead]
    show Script.bytes server.script = _
    rw [hbytes]
    simp
  obtain ⟨s₂, hrun₂, htook₂⟩ := run_access connector hclear
    (fun _ => Session.demand command target (Request.header command ++ frame))
    htook₁.flowing hsure₁ hahead₁
  obtain ⟨s₃, hrun₃, htook₃⟩ := Exchange.run_send_bind connector
    (Request.header command ++ frame) (fun _ => Reply.read >>= Session.judgeReply command target)
    htook₂.flowing (htook₂.outlet ▸ hsure₁)
  obtain ⟨s₄, hrun₄, htook₄⟩ := Exchange.run_gets_bind connector (gets_reply c x hreply)
    (Session.judgeReply command target) htook₃.flowing (htook₃.ahead.trans htook₂.ahead)
  obtain ⟨s₅, hrun₅, hahead₅⟩ := run_judgeReply connector command target _ s₄
  refine ⟨s₅, ?_, hahead₅.trans htook₄.ahead⟩
  exact hrun₁.trans (hrun₂.trans (hrun₃.trans (hrun₄.trans hrun₅)))

end

/-! ### The whole handshake -/

/-- The code zero is the only one that grants. Codes that are not assigned are
kept as they are, so none of them is taken for it. -/
theorem isSuccess_ofByte_iff (c : UInt8) : (ReplyCode.ofByte c).isSuccess = true ↔ c = 0 := by
  constructor
  · intro hsuccess
    have hcode : ReplyCode.ofByte c = .succeeded := by simpa [ReplyCode.isSuccess] using hsuccess
    rw [← ReplyCode.toByte_ofByte c, hcode]
    rfl
  · rintro rfl
    rfl

/-- What a handshake with a target that parses comes to, and the bytes of the
server that it comes from. It always ends, as the server's stream does. -/
theorem run_handshake (connector : Connector) {command : Command} {target : String}
    {credentials : Option Credentials} {a : Address} {frame : Bytes} {server : Stream}
    (hparse : Address.parse target = .ok a) (ha : a.encode = .ok frame)
    (hserver : server.IsClean) :
    ∃ r s, (handshake command target credentials).run.run connector (.atStart server)
        = .ended r s ∧
      Way credentials (Request.header command ++ frame) s.history (.ended r) ∧
      Script.bytes server.script = s.history.receivedBytes ++ s.ahead := by
  -- Three facts about one run: it ends, it goes one of the possible ways, and no byte is
  -- lost. They speak of the same scene after the run is named.
  have hplain := plain_handshake command target credentials
  obtain ⟨r, s, hrun, -⟩ := hplain.run_isFlowing connector
    (Scene.isFlowing_atStart hserver.smooth)
  have hdelivers := delivers_of_sure connector (handshake command target credentials).run
    (.atStart server) hserver.sure
  obtain ⟨h, hh, hc⟩ := run_course connector False _ (.atStart server) false
    (.inl hdelivers) nofun
  have hbytes := received_append_unread connector (handshake command target credentials).run
    (.atStart server)
  rw [hrun] at hh hc hbytes
  have hhistory : s.history = h := hh
  rw [← hhistory] at hc
  exact ⟨r, s, hrun, way_of_course hparse ha hc, hbytes.symm⟩

/-- A reply grants an address just if its code does and the address is in it. -/
theorem outcome_eq_ok_iff {q : Reply} {bound : Address} :
    outcome q = .ok bound ↔ q.code.isSuccess = true ∧ q.address = bound := by
  unfold outcome
  split <;> simp_all

/-- A reply rejects with a code just if the code is its own and does not grant. -/
theorem outcome_eq_rejected_iff {q : Reply} {code : ReplyCode} :
    outcome q = .error (.rejected code) ↔ ¬ q.code.isSuccess = true ∧ q.code = code := by
  unfold outcome
  split <;> simp_all

/-- A client that is neither mute nor let down has taken the bytes that let it in
and a whole reply, and does what the reply says. It is `Way.answered` with the
bytes of the reply spelt out. -/
theorem Way.heard {credentials : Option Credentials} {request bytes rest : Bytes} {h : History}
    {r : Except ProtocolError Address} (hway : Way credentials request h (.ended r))
    (hbytes : bytes = h.receivedBytes ++ rest) (hr : ¬ (Halt.ended r).IsMute) :
    ∃ passage c x bound reply, Clearance credentials passage ∧ Address.framed bound = bound ∧
      bound.encode = .ok reply ∧ bytes = passage ++ [version, c, x] ++ reply ++ rest ∧
      r = outcome ⟨.ofByte c, bound⟩ := by
  obtain ⟨passage, q, _, hclear, ⟨c, x, reply, hcode, ⟨hframed, hreply⟩, rfl⟩, hgot, hr⟩ :=
    hway.answered hr
  refine ⟨passage, c, x, q.address, reply, hclear, hframed, hreply, ?_, ?_⟩
  · rw [hbytes, hgot]
    simp
  · rw [Halt.ended.inj hr, ← hcode]

/-- Only the selection of the password method makes a client say more than its
request. What the client has taken is the front of what the server sent, so a
server that does not begin with the selection has not made it. -/
theorem sent_of_orderly {credentials : Option Credentials} {request all : Bytes} {h : History}
    (horderly : h.Orderly (MaySay credentials request) []) (hall : h.receivedBytes <+: all)
    (hpassword : ¬ [version, Method.usernamePassword.toByte] <+: all) {bs : Bytes}
    (hbs : .sent bs ∈ h) : bs = request := by
  obtain ⟨pre, post, rfl⟩ := List.append_of_mem hbs
  cases horderly pre bs post rfl with
  | request => rfl
  | credentials hc hfit hgot =>
    -- What was taken before is the front of what the server sent.
    refine absurd (List.IsPrefix.trans ?_ hall) hpassword
    rw [History.receivedBytes_append]
    rw [List.nil_append] at hgot
    rw [hgot]
    exact List.prefix_append _ _

/-- What a client says and hears from any server that takes its messages.
A target that does not parse costs no byte. For any other target the
handshake ends; it is granted or rejected just if the server lets the client
in and sends a whole reply, and then nothing behind the reply is taken. The
greeting comes first, the credentials only after the selection of the
password method, and the request only once the client is let in. So a server
that does not select the password method hears the greeting and, at most,
the request. -/
theorem handshake_exact (connector : Connector) (command : Command) (target : String)
    (credentials : Option Credentials) {server : Stream} (hserver : server.IsClean) :
    ∃ r s, (handshake command target credentials).run.run connector (.atStart server)
        = .ended r s ∧
      (∀ e, Address.parse target = .error e → r = .error e ∧ s = .atStart server) ∧
      ∀ a, Address.parse target = .ok a → ∃ frame, a.encode = .ok frame ∧
        (∀ bound rest, r = .ok bound ∧ s.ahead = rest ↔
          ∃ passage x reply, Clearance credentials passage ∧ bound.framed = bound ∧
            bound.encode = .ok reply ∧
            Script.bytes server.script = passage ++ [version, 0, x] ++ reply ++ rest) ∧
        (∀ code, r = .error (.rejected code) ↔
          ∃ passage c x bound reply rest, Clearance credentials passage ∧ c ≠ 0 ∧
            code = .ofByte c ∧ Address.encode bound = .ok reply ∧
            Script.bytes server.script = passage ++ [version, c, x] ++ reply ++ rest) ∧
        ∃ h : History, s.history = .sent (Negotiation.greeting credentials) :: h ∧
          h.Orderly (MaySay credentials (Request.header command ++ frame)) [] ∧
          (¬ [version, Method.usernamePassword.toByte] <+: Script.bytes server.script →
            ∀ bs, .sent bs ∈ h → bs = Request.header command ++ frame) := by
  cases hparse : Address.parse target with
  | error e =>
    rw [Session.handshake_of_error hparse]
    exact ⟨.error e, _, rfl, by rintro _ ⟨⟩; exact ⟨rfl, rfl⟩, nofun⟩
  | ok a =>
    obtain ⟨-, frame, ha⟩ := Address.encode_of_parse hparse
    obtain ⟨r, s, hrun, hway, hbytes⟩ := run_handshake connector hparse ha hserver
    refine ⟨r, s, hrun, nofun, ?_⟩
    rintro _ ⟨⟩
    -- A reply that the client gets to decides the result.
    have hasks : ∀ {passage reply rest : Bytes} {c x : UInt8} {bound : Address},
        Clearance credentials passage → bound.encode = .ok reply →
        Script.bytes server.script = passage ++ [version, c, x] ++ reply ++ rest →
        r = outcome ⟨.ofByte c, bound.framed⟩ ∧ s.ahead = rest := by
      intro passage reply rest c x bound hclear hreply hserved
      obtain ⟨s', hrun', hahead⟩ := run_asks connector hparse ha hserver hclear hreply hserved
      cases hrun.symm.trans hrun'
      exact ⟨rfl, hahead⟩
    refine ⟨frame, ha, ?_, ?_, ?_⟩
    · intro bound rest
      constructor
      · rintro ⟨rfl, rfl⟩
        obtain ⟨passage, c, x, _, reply, hclear, hframed, hreply, hserved, hr⟩ :=
          hway.heard hbytes not_false
        obtain ⟨hsuccess, rfl⟩ := outcome_eq_ok_iff.mp hr.symm
        obtain rfl := (isSuccess_ofByte_iff c).mp hsuccess
        exact ⟨passage, x, reply, hclear, hframed, hreply, hserved⟩
      · rintro ⟨passage, x, reply, hclear, hframed, hreply, hserved⟩
        obtain ⟨hr, hahead⟩ := hasks hclear hreply hserved
        rw [hframed] at hr
        exact ⟨hr, hahead⟩
    · intro code
      constructor
      · rintro rfl
        obtain ⟨passage, c, x, bound, reply, hclear, -, hreply, hserved, hr⟩ :=
          hway.heard hbytes not_false
        obtain ⟨hfailure, rfl⟩ := outcome_eq_rejected_iff.mp hr.symm
        have hc : c ≠ 0 := mt (isSuccess_ofByte_iff c).mpr hfailure
        exact ⟨passage, c, x, bound, reply, s.ahead, hclear, hc, rfl, hreply, hserved⟩
      · rintro ⟨passage, c, x, bound, reply, rest, hclear, hc, rfl, hreply, hserved⟩
        obtain ⟨hr, -⟩ := hasks hclear hreply hserved
        rw [hr]
        exact outcome_eq_rejected_iff.mpr ⟨mt (isSuccess_ofByte_iff c).mp hc, rfl⟩
    · obtain ⟨h, hh, horderly⟩ := hway.orderly
      refine ⟨h, hh, horderly, ?_⟩
      intro hpassword bs hbs
      refine sent_of_orderly horderly ?_ hpassword hbs
      rw [hbytes, hh]
      exact List.prefix_append _ _

/-- A server that asks for a password, grants the request and says one byte
more. -/
def passwordServer : Stream :=
  { script := [.bytes [5, 2], .wait 1, .bytes [1, 0, 5, 0, 7, 1, 10, 0, 0, 1, 15],
      .bytes [160, 9]] }

/-- The client of that server is told the address 10.0.0.1:4000, and does
not take the last byte. -/
theorem handshake_exact_of_password :
    passwordServer.IsClean ∧
      ∃ s, (handshake .connect "127.0.0.1:80" (some ⟨"u", "p"⟩)).run.run default
          (.atStart passwordServer)
        = .ended (.ok (.ip (.v4 (.ofOctets #v[10, 0, 0, 1]) 4000))) s ∧ s.ahead = [9] := by
  have hclean : passwordServer.IsClean :=
    ⟨by simp [passwordServer, Script.IsSmooth, Step.IsSmooth], rfl, rfl⟩
  have hparse : Address.parse "127.0.0.1:80" = .ok (.ip (.v4 (.ofOctets #v[127, 0, 0, 1]) 80)) := by
    rfl
  obtain ⟨r, s, hrun, -, hanswer⟩ :=
    handshake_exact default .connect "127.0.0.1:80" (some ⟨"u", "p"⟩) hclean
  obtain ⟨frame, -, hgranted, -⟩ := hanswer _ hparse
  have hfit : Fit ⟨"u", "p"⟩ := ⟨by decide, by decide⟩
  obtain ⟨rfl, hahead⟩ := (hgranted (.ip (.v4 (.ofOctets #v[10, 0, 0, 1]) 4000)) [9]).mpr
    ⟨[5, 2, 1, 0], 7, [1, 10, 0, 0, 1, 15, 160], .password rfl hfit 1, rfl, rfl, rfl⟩
  exact ⟨hclean, s, hrun, hahead⟩

end Client

end Socks5
