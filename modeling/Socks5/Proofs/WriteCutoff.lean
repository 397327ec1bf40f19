import Socks5.Proofs.ServedMessages

/-!
# `Socks5.Proofs.WriteCutoff`: a client that stops taking bytes

A run whose writes all succeed is compared with the same run cut off after
`n` bytes. The cut falls into one message, and what becomes of the
connection depends on what that message is.

* `Severed`: how the two runs compare.
* `Says.cuts`: whatever says no more than a served connection may is cut off
  like that.
* `cut_by_write_failure`: so the client gets the first `n` bytes, no tunnel is
  opened, and the reason for a refusal is never lost.

Flushing may fail in both runs. The kind of the write error does not matter.
-/

set_option autoImplicit false

namespace Socks5

open Net Dialogue

namespace Server

/-! ### The cut -/

/-- What the cut in a message means: which message it is, how the whole run
stops, the error of the run that is cut off, and its remote connection. -/
inductive Loss (e : IoError) (before : History) (m : Bytes) :
    Halt (Except ServiceError Unit) → ServiceError → Option Connection → Prop where
  | said {whole : Halt (Except ServiceError Unit)} {remote : Option Connection}
      (h : IsSaid before remote m) : Loss e before m whole (.protocol (.io e)) remote
  | refusal {r : ServiceError} {remote : Option Connection} (h : IsRefusal m) :
      Loss e before m (.ended (.error r)) r remote

/-- How a run that is cut off after `n` bytes compares with the whole run:
the cut falls into the message `m`, and then nothing more is said. -/
structure Severed (n : Nat) (e : IoError) (whole cut : Progress (Except ServiceError Unit))
    (before : History) (m : Bytes) (r : ServiceError) : Prop where
  said : before ++ [.sent m] <+: whole.scene.history
  fits : before.sentBytes.length ≤ n
  exceeds : n < before.sentBytes.length + m.length
  history : ∃ entries : List Log.Entry, cut.scene.history
    = before ++ .sent (m.take (n - before.sentBytes.length)) :: entries.map .noted
  halt : cut.halt = .ended (.error r)
  loss : Loss e before m whole.halt r cut.scene.remote

section

variable {connector : Connector} {n : Nat} {e : IoError}

/-- Whether a dialogue is cut off properly from a scene on, if at all. -/
def Cuts (connector : Connector) (n : Nat) (e : IoError)
    (x : Dialogue (Except ServiceError Unit)) (s : Scene) : Prop :=
  n < (run connector x s).scene.history.sentBytes.length →
    ∃ before m r, Severed n e (run connector x s) (run connector x (s.limited n e)) before m r

/-- The cut falls into the message that is sent next, and the dialogue closes. Why
that is no loss has to be given, as it depends on what the message is. -/
theorem severed_of_closes {m : Bytes} {r : ServiceError}
    {k : Except IoError Unit → Dialogue (Except ServiceError Unit)} {s : Scene} (hs : s.Roomy)
    (hfits : s.history.sentBytes.length ≤ n)
    (hover : n < s.history.sentBytes.length + m.length) (hk : Closes (.error r) (k (.error e)))
    (hloss : Loss e s.history m (run connector (.send m k) s).halt r s.remote) :
    Severed n e (run connector (.send m k) s) (run connector (.send m k) (s.limited n e))
      s.history m r := by
  -- The limited run delivers the front of the message and gets the error. What it does
  -- then is close, with notes only.
  obtain ⟨outlet, hsend⟩ := Scene.send_limited_of_lt (e := e) hfits hover
  obtain ⟨entries, s', hrun, hhistory, hremote⟩ := hk.run connector
    ({ s with stream := { s.stream with outlet } }.mark
      (.sent (m.take (n - s.history.sentBytes.length))))
  have hcut : run connector (.send m k) (s.limited n e) = .ended (.error r) s' := by
    rw [run, hsend]
    exact hrun
  refine ⟨?_, hfits, hover, ⟨entries, ?_⟩, ?_, ?_⟩
  · rw [run_send_roomy connector hs]
    exact history_prefix_run connector _ (s.mark (.sent m))
  · rw [hcut]
    simpa [Progress.scene, Scene.mark] using hhistory
  · rw [hcut]
    rfl
  · rw [hcut]
    have hremote : s'.remote = s.remote := hremote
    show Loss e s.history m _ r s'.remote
    rw [hremote]
    exact hloss

/-- Of a dialogue that closes after a message that fits nothing is cut off. -/
theorem not_over_of_closes {m : Bytes} {r : Except ServiceError Unit}
    {x : Dialogue (Except ServiceError Unit)} {s : Scene} (hx : Closes r x)
    (hfit : s.history.sentBytes.length + m.length ≤ n) :
    ¬ n < (run connector x (s.mark (.sent m))).scene.history.sentBytes.length := by
  rw [hx.sentBytes_run]
  simpa [Scene.mark, History.sentBytes] using hfit

/-- A wait for a connection is cut off as what follows it is. The wait itself
sends nothing. -/
theorem cuts_runAttempt (a : Attempt Connection)
    {k : Except IoError Endpoint → Dialogue (Except ServiceError Unit)} {s : Scene}
    (hfits : s.history.sentBytes.length ≤ n)
    (hk : ∀ r clock remote, Cuts connector n e (k r) { s with clock, remote })
    (hover : n < (runAttempt connector a k s).scene.history.sentBytes.length) :
    ∃ before m r, Severed n e (runAttempt connector a k s)
      (runAttempt connector a k (s.limited n e)) before m r := by
  -- The attempt does not see the limit, so it is settled alike in both runs.
  have hsight : a.await (s.limited n e).deadline (s.limited n e).clock
      = a.await s.deadline s.clock := rfl
  unfold runAttempt at hover ⊢
  rw [hsight]
  cases hawait : a.await s.deadline s.clock with
  | result clock r =>
    rw [hawait] at hover
    cases r with
    | ok c => exact hk _ clock (some c) hover
    | error fault => exact hk _ clock s.remote hover
  | late clock =>
    rw [hawait] at hover
    exact absurd hover (Nat.not_lt.mpr hfits)
  | nothing =>
    rw [hawait] at hover
    exact absurd hover (Nat.not_lt.mpr hfits)

/-- Under a deadline the cut falls into the step or into what is done late. A step
that is cut off ends, although the same step may be late without the cut. -/
theorem cuts_within {seconds : Nat} {late next : Dialogue (Except ServiceError Unit)} {s : Scene}
    (hs : s.Roomy) (hnext : Cuts connector n e next (s.armed seconds))
    (hlate : ∀ s', run connector next (s.armed seconds) = .late s' →
      s'.history.sentBytes.length ≤ n → Cuts connector n e late { s' with deadline := none }) :
    Cuts connector n e (.within seconds late next) s := by
  intro hover
  have harmed : (s.limited n e).armed seconds = (s.armed seconds).limited n e := rfl
  by_cases hpart : n < (run connector next (s.armed seconds)).scene.history.sentBytes.length
  · obtain ⟨before, m, r, hsevered⟩ := hnext hpart
    -- The run that is cut off ends, so for it no deadline passes.
    have hcut : run connector (.within seconds late next) (s.limited n e)
        = run connector next ((s.armed seconds).limited n e) := by
      have hended := hsevered.halt
      rw [run_within_armed, harmed]
      cases hrun : run connector next ((s.armed seconds).limited n e) with
      | late s' =>
        rw [hrun] at hended
        cases hended
      | ended a s' | stuck s' => rfl
    refine ⟨before, m, r, ?_⟩
    rw [hcut]
    cases hrun : run connector next (s.armed seconds) with
    | late s' =>
      rw [hrun] at hsevered
      have hwhole : run connector (.within seconds late next) s
          = run connector late { s' with deadline := none } := by
        rw [run_within_armed, hrun]
      have hgrows := history_prefix_run connector late { s' with deadline := none }
      refine ⟨?_, hsevered.fits, hsevered.exceeds, hsevered.history, hsevered.halt, ?_⟩
      · rw [hwhole]
        exact hsevered.said.trans hgrows
      · -- A refusal is the last thing that happens, so the whole run was not late.
        cases hsevered.loss with
        | said h => exact .said h
    | ended a s' =>
      have hwhole : run connector (.within seconds late next) s = .ended a s' := by
        rw [run_within_armed, hrun]
      rwa [hwhole, ← hrun]
    | stuck s' =>
      have hwhole : run connector (.within seconds late next) s = .stuck s' := by
        rw [run_within_armed, hrun]
      rwa [hwhole, ← hrun]
  · -- The step is the same in both runs, so it is late in both.
    have hsame := run_limited connector next (s := s.armed seconds) hs e (Nat.not_lt.mp hpart)
    have hboth := run_within_armed connector seconds late next (s.limited n e)
    rw [harmed, hsame] at hboth
    rw [run_within_armed] at hover
    rw [run_within_armed, hboth]
    cases hrun : run connector next (s.armed seconds) with
    | late s' =>
      rw [hrun] at hover hpart
      exact hlate s' hrun (Nat.not_lt.mp hpart) hover
    | ended a s' | stuck s' =>
      rw [hrun] at hover hpart
      exact absurd hover hpart

/-- A wish for bytes is answered alike in both runs, and the cut falls into what
follows. A limit on writing does not touch what comes in. -/
theorem cuts_recv {m : Nat} {shape : Shape}
    {k : Except IoError (Vector UInt8 m) → Dialogue (Except ServiceError Unit)} {s : Scene}
    (hfits : (s.drawn (s.draw m)).history.sentBytes.length ≤ n)
    (hk : ∀ r, Cuts connector n e (k r) (s.drawn (s.draw m))) :
    Cuts connector n e (.recv m shape k) s := by
  intro hover
  have hanswer : (s.limited n e).answer m shape = s.answer m shape := rfl
  have hdraw : (s.limited n e).draw m = s.draw m := rfl
  rw [run_recv] at hover
  rw [run_recv, run_recv, hanswer, hdraw, ← Scene.limited_drawn]
  cases hr : s.answer m shape with
  | some r =>
    rw [hr] at hover
    exact hk r hover
  | none =>
    -- Nothing is sent after a wish that is not answered.
    rw [hr] at hover
    dsimp only at hover
    split at hover <;> exact absurd hover (Nat.not_lt.mpr hfits)

/-- A message that fits is sent in both runs, and the cut falls into what follows.
If flushing it fails, both runs close, and there is no cut. -/
theorem cuts_send {m : Bytes} {k : Except IoError Unit → Dialogue (Except ServiceError Unit)}
    {s : Scene} (hs : s.Roomy) (hfit : s.history.sentBytes.length + m.length ≤ n)
    (hok : Cuts connector n e (k (.ok ())) (s.mark (.sent m)))
    (hio : ∀ fault, ∃ r, Closes r (k (.error fault))) : Cuts connector n e (.send m k) s := by
  intro hover
  rw [run_send_roomy connector hs] at hover ⊢
  rw [run, Scene.send_limited_of_le hfit]
  cases hflush : s.stream.outlet.flush with
  | ok u =>
    rw [hflush] at hover
    exact hok hover
  | error fault =>
    rw [hflush] at hover
    obtain ⟨r, hk⟩ := hio fault
    exact absurd hover (not_over_of_closes hk hfit)

/-- Listening is the same in both runs, and the cut falls into what follows.
Whether the listener opens is up to the connector. -/
theorem cuts_listen {target : Address}
    {k : Except IoError Endpoint → Dialogue (Except ServiceError Unit)} {s : Scene}
    (hnone : ∀ r, Cuts connector n e (k r) s)
    (hopen : ∀ r listener,
      Cuts connector n e (k r) { s.mark (.listened target) with listener }) :
    Cuts connector n e (.listen target k) s := by
  intro hover
  rw [run] at hover
  rw [run, run]
  cases hlisten : connector.listen with
  -- No listeners, and no mark: the dialogue goes on from where it was.
  | none =>
    rw [hlisten] at hover
    exact hnone _ hover
  | some openListener =>
    rw [hlisten] at hover
    dsimp only at hover ⊢
    rw [← Scene.limited_mark rfl]
    cases hopened : openListener target with
    | ok l =>
      rw [hopened] at hover
      exact hopen _ (some l) hover
    | error fault =>
      rw [hopened] at hover
      exact hopen _ s.listener hover

/-- What says so at each stage is cut off properly. The stage says what the
message is that the cut falls into, so nothing has to be known of the rest of the
run. -/
theorem Says.cuts {st : Stage} {x : Dialogue (Except ServiceError Unit)} (hx : Says st x)
    {s : Scene} (hs : s.Roomy) (hst : st.Holds s.history s.remote)
    (hfits : s.history.sentBytes.length ≤ n) : Cuts connector n e x s := by
  induction hx generalizing s with
  -- Nothing is sent any more, so the whole run would stay within the limit.
  | done r => exact fun hover => absurd hover (Nat.not_lt.mpr hfits)
  | @recv st m shape k _ _ ih =>
    have hdrawn : (s.drawn (s.draw m)).history.sentBytes.length ≤ n := by
      simpa [Scene.drawn, Scene.mark, History.sentBytes] using hfits
    exact cuts_recv hdrawn fun r =>
      ih r (s := s.drawn (s.draw m)) hs (hst.append trivial) hdrawn
  | @note st entry next _ ih =>
    have hmark : (s.mark (.noted entry)).history.sentBytes.length ≤ n := by
      simpa [Scene.mark, History.sentBytes] using hfits
    intro hover
    rw [run] at hover
    rw [run, run, ← Scene.limited_mark rfl]
    exact ih (s := s.mark (.noted entry)) hs (hst.append trivial) hmark hover
  | release _ ih => exact ih (s := { s with deadline := none }) hs hst hfits
  | @within st seconds late next _ _ _ ih_late ih_next =>
    refine cuts_within hs (ih_next (s := s.armed seconds) hs hst hfits) ?_
    intro s' hrun hfits'
    -- What is late goes on from the end of the inner run, which has no limit either.
    have hroomy := roomy_run connector next (s := s.armed seconds) hs
    rw [hrun] at hroomy
    exact ih_late (s := { s' with deadline := none }) hroomy trivial hfits'
  | @tell st t m k hmeant hio _ hok ih =>
    obtain ⟨hsaid, hst'⟩ := hmeant s.history s.remote hst
    -- Either the message is still within the limit and the cut comes later, or the cut
    -- falls into it.
    by_cases hfit : s.history.sentBytes.length + m.length ≤ n
    · have hmark : (s.mark (.sent m)).history.sentBytes.length ≤ n := by
        simpa [Scene.mark, History.sentBytes] using hfit
      exact cuts_send hs hfit (ih (s := s.mark (.sent m)) hs hst' hmark) fun fault =>
        ⟨_, hio fault⟩
    · exact fun _ =>
        ⟨_, _, _, severed_of_closes hs hfits (Nat.not_le.mp hfit) (hio e) (.said hsaid)⟩
  | @refuse st m r k hm hk =>
    by_cases hfit : s.history.sentBytes.length + m.length ≤ n
    · refine cuts_send hs hfit (fun hover => ?_) fun _ => ⟨_, hk _⟩
      exact absurd hover (not_over_of_closes (hk _) hfit)
    · refine fun _ => ⟨_, _, _, severed_of_closes hs hfits (Nat.not_le.mp hfit) (hk _) ?_⟩
      obtain ⟨entries, s', hrun, -⟩ := (hk s.stream.outlet.flush).run connector (s.mark (.sent m))
      rw [run_send_roomy connector hs, hrun]
      exact .refusal hm
  | @dial st target k _ ih =>
    have hmark : (s.mark (.dialed target)).history.sentBytes.length ≤ n := by
      simpa [Scene.mark, History.sentBytes] using hfits
    -- From here on something has been dialed, so no answer of a negotiation may follow.
    have hdialed : Stage.engaged.Holds (s.mark (.dialed target)).history s.remote := by
      left
      simp [Scene.mark, History.dialed]
    intro hover
    rw [run_dial] at hover
    rw [run_dial, run_dial, ← Scene.limited_mark rfl]
    exact cuts_runAttempt _ hmark (fun r clock remote =>
      ih r (s := { s.mark (.dialed target) with clock, remote }) hs hdialed hmark) hover
  | @listen target k _ ih =>
    have hmark : (s.mark (.listened target)).history.sentBytes.length ≤ n := by
      simpa [Scene.mark, History.sentBytes] using hfits
    exact cuts_listen (fun r => ih r hs hst.remote hfits) fun r listener =>
      ih r (s := { s.mark (.listened target) with listener }) hs hst.remote hmark
  | @accept k _ ih =>
    intro hover
    cases hl : s.listener with
    | none =>
      rw [run, hl] at hover
      exact absurd hover (Nat.not_lt.mpr hfits)
    | some l =>
      have hl' : (s.limited n e).listener = some l := hl
      rw [run_accept connector hl] at hover
      rw [run_accept connector hl, run_accept connector hl']
      exact cuts_runAttempt _ hfits (fun r clock remote =>
        ih r (s := { s with clock, remote }) hs hst hfits) hover

end

/-! ### The two runs -/

variable {n : Nat} {e : IoError} {whole cut : Progress (Except ServiceError Unit)}
  {before : History} {m : Bytes} {r : ServiceError}

/-- What is sent before the cut is the front of what is sent without it. The
message that was cut is the last one, and only notes follow. -/
theorem Severed.sentBytes_eq (h : Severed n e whole cut before m r) :
    cut.scene.history.sentBytes = whole.scene.history.sentBytes.take n := by
  obtain ⟨after, hafter⟩ := h.said
  obtain ⟨entries, hentries⟩ := h.history
  have hcut : n - before.sentBytes.length ≤ m.length := by
    have hover := h.exceeds
    omega
  rw [hentries, ← hafter]
  simp only [History.sentBytes_append, History.sentBytes, sentBytes_map_noted, List.append_nil,
    List.append_assoc]
  rw [List.take_append, List.take_of_length_le h.fits, List.take_append_of_le_length hcut]

/-- A served connection that ends with an error has no tunnel. This holds even
where a remote side was opened before the error. -/
theorem visitFrom_of_error {p : Progress (Except ServiceError Unit)}
    (h : p.halt = .ended (.error r)) :
    visitFrom p = .finished (visitWithoutTunnel (.error r) p.scene) := by
  cases p with
  | ended a s =>
    obtain rfl := Halt.ended.inj h
    rfl
  | late s | stuck s => cases h

/-- Notes open nothing. -/
theorem opened_map_noted (entries : List Log.Entry) :
    History.dialed (entries.map .noted) = [] ∧ History.listened (entries.map .noted) = [] := by
  induction entries with
  | nil => exact ⟨rfl, rfl⟩
  | cons entry entries ih => exact ih

/-- Nothing is opened after the cut. What was opened before it is the same in both
runs, so it is read off the history they share. -/
theorem Severed.opened_eq (h : Severed n e whole cut before m r) :
    cut.scene.history.dialed = before.dialed ∧ cut.scene.history.listened = before.listened := by
  obtain ⟨entries, hentries⟩ := h.history
  obtain ⟨hdialed, hlistened⟩ := opened_map_noted entries
  have hsplit : before ++ .sent (m.take (n - before.sentBytes.length)) :: entries.map .noted
      = before ++ [.sent (m.take (n - before.sentBytes.length))] ++ entries.map .noted := by simp
  rw [hentries, hsplit, History.dialed_append, History.listened_append, hdialed, hlistened,
    List.append_nil, List.append_nil, History.dialed_append, History.listened_append]
  exact ⟨List.append_nil _, List.append_nil _⟩

/-- A client that takes `n` bytes is cut off from a served connection in the
message that the byte after them belongs to. -/
theorem severed_serve (policy : Policy) (connector : Connector) {client : Stream}
    (hroom : client.outlet.room = none) (e : IoError)
    (hover : n < (run connector (serve policy) (.atStart client)).scene.history.sentBytes.length) :
    ∃ before m r, Severed n e (run connector (serve policy) (.atStart client))
      (run connector (serve policy) (.atStart (client.limited n e))) before m r :=
  (says_serve policy).cuts (s := .atStart client) hroom ⟨rfl, rfl, rfl, rfl⟩ (Nat.zero_le n) hover

/-- A write that fails cuts the connection off cleanly and hides no other
error. A client that takes only the first `n` of the bytes that are sent
before any relay gets just these, and no tunnel is opened for it. If the next
byte belongs to a refusal, the connection ends with the same error as without
the limit; if it belongs to an answer of the negotiation or to a grant, it
ends with the error of the write. No answer is cut after anything was dialed
or listened for, and the first grant of a BIND is not cut after a peer came. -/
theorem cut_by_write_failure (policy : Policy) (connector : Connector) (client : Stream)
    (hroom : client.outlet.room = none) (n : Nat) (e : IoError)
    (hover : n < (run connector (serve policy) (.atStart client)).scene.history.sentBytes.length) :
    let p := run connector (serve policy) (.atStart client)
    let q := run connector (serve policy) (.atStart (client.limited n e))
    q.scene.history.sentBytes = p.scene.history.sentBytes.take n ∧
    ∃ (before : History) (m : Bytes) (r : ServiceError),
      before ++ [.sent m] <+: p.scene.history ∧
      before.sentBytes.length ≤ n ∧ n < before.sentBytes.length + m.length ∧
      visit policy connector (client.limited n e)
        = .finished (visitWithoutTunnel (.error r) q.scene) ∧
      (IsRefusal m →
        visit policy connector client = .finished (visitWithoutTunnel (.error r) p.scene)) ∧
      (¬ IsRefusal m → (before.IsAnswer m ∨ IsGrant m) ∧ r = .protocol (.io e)) ∧
      (before.IsAnswer m → q.scene.history.dialed = [] ∧ q.scene.history.listened = []) ∧
      (IsGrant m → before.dialed = [] → (∀ m ∈ before.messages, ¬ IsGrant m) →
        q.scene.remote = none) := by
  intro p q
  obtain ⟨before, m, r, hsevered⟩ := severed_serve policy connector hroom e hover
  obtain ⟨hdialed, hlistened⟩ := hsevered.opened_eq
  have hcut : visit policy connector (client.limited n e)
      = .finished (visitWithoutTunnel (.error r) q.scene) := visitFrom_of_error hsevered.halt
  refine ⟨hsevered.sentBytes_eq, before, m, r, hsevered.said, hsevered.fits, hsevered.exceeds, hcut,
    ?_⟩
  rw [hdialed, hlistened]
  have hloss : Loss e before m p.halt r q.scene.remote := hsevered.loss
  generalize hhalt : p.halt = halt at hloss
  -- The message that was cut is an answer, a grant or a refusal. It is just one of the
  -- three, so the statements about the other two do not apply.
  cases hloss with
  | said hsaid =>
    obtain ⟨hanswer, hunopened⟩ | ⟨hgrant, hfirst⟩ := hsaid
    · refine ⟨fun hm => ?_, fun _ => ⟨.inl hanswer, rfl⟩,
        fun _ => ⟨hunopened.dialed, hunopened.listened⟩, fun hm => ?_⟩
      · exact absurd hanswer (not_isAnswer_of_reply (.inr hm))
      · exact absurd hanswer (not_isAnswer_of_reply (.inl hm))
    · refine ⟨fun hm => ?_, fun _ => ⟨.inr hgrant, rfl⟩, fun hm => ?_, fun _ => hfirst⟩
      · exact absurd hgrant (not_isGrant_of_isRefusal hm)
      · exact absurd hm (not_isAnswer_of_reply (.inl hgrant))
  | refusal hm =>
    refine ⟨fun _ => visitFrom_of_error hhalt, fun hne => absurd hm hne, fun hanswer => ?_,
      fun hgrant => ?_⟩
    · exact absurd hanswer (not_isAnswer_of_reply (.inr hm))
    · exact absurd hgrant (not_isGrant_of_isRefusal hm)

/-- The login client, if it takes only the answers of the negotiation and the
first byte of the grant, gets these and no tunnel. -/
theorem cut_by_write_failure_of_login :
    ((serve loginPolicy).run readyConnector
      (.atStart (loginClient.limited 5 IoKind.brokenPipe.error))).scene.history.sentBytes
      = [5, 2, 1, 0, 5] ∧
    ∃ v, visit loginPolicy readyConnector (loginClient.limited 5 IoKind.brokenPipe.error)
      = .finished v ∧ v.tunnel = none := by
  have hsent : ((serve loginPolicy).run readyConnector
      (.atStart loginClient)).scene.history.sentBytes
      = [5, 2, 1, 0, 5, 0, 0, 1, 10, 0, 0, 1, 15, 160] := by decide +kernel
  have hover : 5 < ((serve loginPolicy).run readyConnector
      (.atStart loginClient)).scene.history.sentBytes.length := by
    rw [hsent]
    decide
  obtain ⟨hbytes, before, m, r, -, -, -, hvisit, -⟩ :=
    cut_by_write_failure loginPolicy readyConnector loginClient rfl 5 IoKind.brokenPipe.error hover
  rw [hsent] at hbytes
  exact ⟨hbytes, _, hvisit, rfl⟩

end Server

end Socks5
