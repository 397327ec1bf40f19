import Socks5.Proofs.RunsUnderDeadline

/-!
# `Socks5.Proofs.Limit`: a run and the same run with less room

A client that takes every byte is compared with one that takes only the
first `n` and refuses the rest. The room of a limited scene is counted from
the beginning of the history, so both runs speak of the same `n`.

* `Outlet.send_limited`: a message is delivered alike, or its front is, and
  then writing fails.
* `run_limited`: as long as all messages fit, the two runs are the same.
* `Closes.run`: a dialogue that only notes comes to its end and sends
  nothing. This is what both parties do once a write has failed.
-/

set_option autoImplicit false

namespace Socks5

open Net Dialogue

variable {α : Type}

/-! ### Limits -/

/-- The outlet that delivers so many bytes and refuses the rest. -/
def Outlet.limited (n : Nat) (e : IoError) (o : Outlet) : Outlet :=
  { o with room := some n, refusal := e }

/-- The stream that takes so many bytes and refuses the rest. -/
def Stream.limited (n : Nat) (e : IoError) (s : Stream) : Stream :=
  { s with outlet := s.outlet.limited n e }

/-- The scene in which `n` bytes are delivered in all, those of its history
included. -/
def Scene.limited (n : Nat) (e : IoError) (s : Scene) : Scene :=
  { s with stream := s.stream.limited (n - s.history.sentBytes.length) e }

/-- Whether every byte that is written is delivered. A flush may fail. -/
def Scene.Roomy (s : Scene) : Prop := s.stream.outlet.room = none

/-- With room a message is delivered, and flushing decides the outcome. -/
theorem Outlet.send_roomy {o : Outlet} (ho : o.room = none) (bytes : Bytes) :
    o.send bytes = (bytes, o.flush, o) := by
  simp [Outlet.send, Outlet.write, ho]

/-- A limited outlet delivers a message that fits as one with room does, and has
that much less room from then on. -/
theorem Outlet.send_limited_of_le {o : Outlet} {n : Nat} {bytes : Bytes}
    (h : bytes.length ≤ n) (e : IoError) :
    (o.limited n e).send bytes = (bytes, o.flush, o.limited (n - bytes.length) e) := by
  simp [Outlet.send, Outlet.write, Outlet.limited, Outlet.flush, h]

/-- Of a message that does not fit the front is delivered, and the rest is
refused. There is no room left then, so every later message fails as a whole. -/
theorem Outlet.send_limited_of_lt {o : Outlet} {n : Nat} {bytes : Bytes}
    (h : n < bytes.length) (e : IoError) :
    (o.limited n e).send bytes = (bytes.take n, .error e, o.limited 0 e) := by
  simp [Outlet.send, Outlet.write, Outlet.limited, Nat.not_le.mpr h]

namespace Scene

variable {s : Scene} {n : Nat} {e : IoError} {bytes : Bytes}

/-- In a scene with room a message goes to the history as it is. -/
theorem send_roomy (hs : s.Roomy) (bytes : Bytes) :
    s.send bytes = (s.stream.outlet.flush, s.mark (.sent bytes)) := by
  rw [Scene.send, Outlet.send_roomy hs]

/-- Events that send nothing do not change how much room is left. -/
theorem limited_mark {ev : Event} (hev : History.sentBytes [ev] = []) :
    (s.mark ev).limited n e = (s.limited n e).mark ev := by
  simp [Scene.limited, Scene.mark, hev]

/-- Reading does not change it either. -/
theorem limited_drawn (d : Script.Draw) : (s.drawn d).limited n e = (s.limited n e).drawn d := by
  simp [Scene.limited, Scene.drawn, Scene.mark, History.sentBytes, Stream.limited]

/-- A message within the limit is sent alike. The limit is one for the whole
history, so it is the sum that has to fit. -/
theorem send_limited_of_le (h : s.history.sentBytes.length + bytes.length ≤ n) :
    (s.limited n e).send bytes
      = (s.stream.outlet.flush, (s.mark (.sent bytes)).limited n e) := by
  have hfit : bytes.length ≤ n - s.history.sentBytes.length := by omega
  have hroom : n - s.history.sentBytes.length - bytes.length
      = n - (s.history.sentBytes.length + bytes.length) := by omega
  simp [Scene.send, Scene.limited, Scene.mark, Stream.limited,
    Outlet.send_limited_of_le hfit, History.sentBytes, hroom]

/-- A message across the limit is cut there, and writing fails. Nothing is said
about the outlet that is left, as no later message is compared. -/
theorem send_limited_of_lt (hs : s.history.sentBytes.length ≤ n)
    (h : n < s.history.sentBytes.length + bytes.length) :
    ∃ outlet, (s.limited n e).send bytes = (.error e,
      { s with stream := { s.stream with outlet } }.mark
        (.sent (bytes.take (n - s.history.sentBytes.length)))) := by
  have hcut : n - s.history.sentBytes.length < bytes.length := by omega
  refine ⟨s.stream.outlet.limited 0 e, ?_⟩
  simp [Scene.send, Scene.limited, Scene.mark, Stream.limited, Outlet.send_limited_of_lt hcut]

end Scene

/-! ### Histories grow -/

/-- A run adds to the history and takes nothing back. So the history at any
earlier moment is a front of the one at the end. -/
theorem history_prefix_run (connector : Connector) (x : Dialogue α) (s : Scene) :
    s.history <+: (run connector x s).scene.history := by
  refine run_keeps connector (P := fun s' => s.history <+: s'.history) ?_ ?_ ?_ ?_ x s
    (List.prefix_refl _)
  · intro s' n hs'
    exact hs'.trans (List.prefix_append _ _)
  · intro s' bytes hs'
    exact hs'.trans (List.prefix_append _ _)
  · intro s' e _ _ hs'
    exact hs'.trans (List.prefix_append _ _)
  · intro s' _ _ _ _ hs'
    exact hs'

/-- No byte that was sent is taken back. -/
theorem length_sentBytes_le_run (connector : Connector) (x : Dialogue α) (s : Scene) :
    s.history.sentBytes.length ≤ (run connector x s).scene.history.sentBytes.length := by
  obtain ⟨h, hh⟩ := history_prefix_run connector x s
  rw [← hh]
  simp

/-- Room does not run out: it is there for every byte or was not there at the
beginning. -/
theorem roomy_run (connector : Connector) (x : Dialogue α) {s : Scene} (hs : s.Roomy) :
    (run connector x s).scene.Roomy := by
  refine run_keeps connector (P := Scene.Roomy) (fun _ _ h => h) ?_ (fun _ _ _ _ h => h)
    (fun _ _ _ _ _ h => h) x s hs
  intro s' bytes hs'
  rw [Scene.send_roomy hs']
  exact hs'

/-- With room a message is delivered, and the run goes on with the flush. -/
theorem run_send_roomy (connector : Connector) {m : Bytes}
    {k : Except IoError Unit → Dialogue α} {s : Scene} (hs : s.Roomy) :
    run connector (.send m k) s
      = run connector (k s.stream.outlet.flush) (s.mark (.sent m)) := by
  rw [run, Scene.send_roomy hs]

/-- The scene in which the deadline of a step has been set. -/
def Scene.armed (seconds : Nat) (s : Scene) : Scene :=
  { s with deadline := deadline? s.clock seconds }

/-- A step under a deadline ends, or what is done late follows. -/
theorem run_within_armed (connector : Connector) (seconds : Nat) (late next : Dialogue α)
    (s : Scene) :
    run connector (.within seconds late next) s = match run connector next (s.armed seconds) with
      | .late s' => run connector late { s' with deadline := none }
      | p => p := rfl

/-! ### Below the limit -/

/-- A wait for a connection is the same in a scene that differs only in what the
wait does not look at, if what follows it is. That has to be shown for the one way
that the wait takes, which is why `hk` may assume where the run ends. -/
theorem runAttempt_map (connector : Connector) (a : Attempt Connection) {f : Scene → Scene}
    {k : Except IoError Endpoint → Dialogue α} {s : Scene}
    (hdeadline : (f s).deadline = s.deadline) (hclock : (f s).clock = s.clock)
    (hremote : (f s).remote = s.remote)
    (hf : ∀ clock remote, f { s with clock, remote } = { f s with clock, remote })
    (hk : ∀ r clock remote,
      (runAttempt connector a k s).scene = (run connector (k r) { s with clock, remote }).scene →
      run connector (k r) { f s with clock, remote }
        = (run connector (k r) { s with clock, remote }).map f) :
    runAttempt connector a k (f s) = (runAttempt connector a k s).map f := by
  -- Setting the clock leaves the connection as it was.
  have hset : ∀ clock, { f s with clock } = { f s with clock, remote := s.remote } := by
    intro clock
    rw [← hremote]
  have hsight : a.await (f s).deadline (f s).clock = a.await s.deadline s.clock := by
    rw [hdeadline, hclock]
  unfold runAttempt at hk ⊢
  rw [hsight]
  cases hs : a.await s.deadline s.clock with
  | result clock r =>
    rw [hs] at hk
    cases r with
    | ok c => exact hk _ clock (some c) rfl
    | error fault =>
      dsimp only
      rw [hset]
      exact hk _ clock s.remote rfl
  | late clock =>
    dsimp only
    rw [hset, ← hf]
    rfl
  | nothing => rfl

/-- As long as all that is sent fits, a limited scene makes no difference.
Induction on the dialogue: what a part sends is no more than what the whole run
sends, so the bound holds of each part. -/
theorem run_limited (connector : Connector) (x : Dialogue α) {s : Scene} (hs : s.Roomy) {n : Nat}
    (e : IoError) (hfit : (run connector x s).scene.history.sentBytes.length ≤ n) :
    run connector x (s.limited n e) = (run connector x s).map (Scene.limited n e) := by
  induction x generalizing s with
  | done a => rfl
  | recv m shape k ih =>
    have hanswer : (s.limited n e).answer m shape = s.answer m shape := rfl
    have hdraw : (s.limited n e).draw m = s.draw m := rfl
    rw [run_recv] at hfit ⊢
    rw [run_recv, hanswer, hdraw, ← Scene.limited_drawn]
    cases hr : s.answer m shape with
    | some r =>
      rw [hr] at hfit
      exact ih r hs hfit
    | none =>
      dsimp only
      split <;> rfl
  | send bytes k ih =>
    rw [run_send_roomy connector hs] at hfit
    have hsent := Nat.le_trans (length_sentBytes_le_run connector _ _) hfit
    -- What was sent so far and this message are part of what the run sends.
    have hle : s.history.sentBytes.length + bytes.length ≤ n := by
      simpa [Scene.mark, History.sentBytes] using hsent
    rw [run_send_roomy connector hs, run, Scene.send_limited_of_le hle]
    exact ih _ (s := s.mark (.sent bytes)) hs hfit
  | note entry next ih =>
    rw [run, run, ← Scene.limited_mark rfl]
    exact ih (s := s.mark (.noted entry)) hs hfit
  | within seconds late next ih_late ih_next =>
    -- Under the deadline no more is sent than in the whole run.
    have hpart : (run connector next (s.armed seconds)).scene.history.sentBytes.length ≤ n := by
      refine Nat.le_trans ?_ hfit
      rw [run_within_armed]
      cases run connector next (s.armed seconds) with
      | late s' => exact length_sentBytes_le_run connector late { s' with deadline := none }
      | ended a s' => exact Nat.le_refl _
      | stuck s' => exact Nat.le_refl _
    have hnext := ih_next (s := s.armed seconds) hs hpart
    have hroomy := roomy_run connector next (s := s.armed seconds) hs
    have harmed : (s.limited n e).armed seconds = (s.armed seconds).limited n e := rfl
    rw [run_within_armed] at hfit ⊢
    rw [run_within_armed, harmed, hnext]
    cases hrun : run connector next (s.armed seconds) with
    | late s' =>
      rw [hrun] at hfit hroomy
      exact ih_late (s := { s' with deadline := none }) hroomy hfit
    | ended a s' => rfl
    | stuck s' => rfl
  | release next ih =>
    exact ih (s := { s with deadline := none }) hs hfit
  | dial target k ih =>
    rw [run_dial] at hfit
    rw [run_dial, run_dial, ← Scene.limited_mark rfl]
    refine runAttempt_map connector _ rfl rfl rfl (fun _ _ => rfl) fun r clock remote hscene => ?_
    rw [hscene] at hfit
    exact ih r (s := { s.mark (.dialed target) with clock, remote }) hs hfit
  | listen target k ih =>
    rw [run] at hfit
    rw [run, run]
    cases hlisten : connector.listen with
    | none =>
      rw [hlisten] at hfit
      exact ih _ hs hfit
    | some openListener =>
      rw [hlisten] at hfit
      dsimp only at hfit ⊢
      rw [← Scene.limited_mark rfl]
      cases hopen : openListener target with
      | ok l =>
        rw [hopen] at hfit
        exact ih _ (s := { s.mark (.listened target) with listener := some l }) hs hfit
      | error fault =>
        rw [hopen] at hfit
        exact ih _ (s := s.mark (.listened target)) hs hfit
  | accept k ih =>
    cases hl : s.listener with
    | none =>
      have hl' : (s.limited n e).listener = none := hl
      rw [run, run, hl, hl']
      rfl
    | some l =>
      have hl' : (s.limited n e).listener = some l := hl
      rw [run_accept connector hl] at hfit
      rw [run_accept connector hl, run_accept connector hl']
      refine runAttempt_map connector _ rfl rfl rfl (fun _ _ => rfl) fun r clock remote hscene => ?_
      rw [hscene] at hfit
      exact ih r (s := { s with clock, remote }) hs hfit

/-! ### After a failed write -/

/-- Whether a dialogue notes and lifts deadlines only, and ends with the given
value. -/
inductive Closes (a : α) : Dialogue α → Prop where
  | done : Closes a (.done a)
  | note {entry : Log.Entry} {next : Dialogue α} (h : Closes a next) :
      Closes a (.note entry next)
  | release {next : Dialogue α} (h : Closes a next) : Closes a (.release next)

/-- Whether a dialogue only notes and lifts deadlines and ends. -/
def Quits (x : Dialogue α) : Prop := ∃ a, Closes a x

/-- A dialogue that closes adds entries of the log and opens nothing. Neither
reads nor writes are in it, so it ends in every scene. -/
theorem Closes.run {a : α} {x : Dialogue α} (hx : Closes a x) (connector : Connector)
    (s : Scene) :
    ∃ (entries : List Log.Entry) (s' : Scene), x.run connector s = .ended a s' ∧
      s'.history = s.history ++ entries.map .noted ∧ s'.remote = s.remote := by
  induction hx generalizing s with
  | done => exact ⟨[], s, rfl, by simp, rfl⟩
  | @note entry next _ ih =>
    obtain ⟨entries, s', hrun, hhistory, hremote⟩ := ih (s.mark (.noted entry))
    exact ⟨entry :: entries, s', hrun, by simp [hhistory, Scene.mark], hremote⟩
  | release _ ih => exact ih { s with deadline := none }

/-- Entries of the log are no bytes that were sent. -/
theorem sentBytes_map_noted (entries : List Log.Entry) :
    History.sentBytes (entries.map .noted) = [] := by
  induction entries with
  | nil => rfl
  | cons entry entries ih => exact ih

/-- A dialogue that closes sends nothing. -/
theorem Closes.sentBytes_run {a : α} {x : Dialogue α} (hx : Closes a x) (connector : Connector)
    (s : Scene) : (x.run connector s).scene.history.sentBytes = s.history.sentBytes := by
  obtain ⟨entries, s', hrun, hhistory, -⟩ := hx.run connector s
  rw [hrun]
  show s'.history.sentBytes = _
  rw [hhistory, History.sentBytes_append, sentBytes_map_noted, List.append_nil]

end Socks5
