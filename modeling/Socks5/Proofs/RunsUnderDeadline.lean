import Socks5.Proofs.FaultFreeRuns
import Socks5.Proofs.Serve

/-!
# `Socks5.Proofs.RunsUnderDeadline`: runs under a deadline

A deadline changes nothing about a run that is over in time, and cuts
every other one. So a run under a deadline is known from the same run
without one.

* `Script.draw_of_inTime`, `Script.draw_of_overrun`: the law for one wish
  for bytes.
* `Plain.run_due`, `Plain.run_due_of_overrun`: the law for a dialogue that
  reads, sends and notes.
* `run_within`, `run_within_of_overrun`: a window, which is such a dialogue
  under a deadline of its own that is lifted for what follows.
* `Server.run_withDeadline`: the law for a step of the negotiation.
* `run_dial`, `run_accept`: a dial and the wait for a peer are the same kind
  of wait.

Time passes only in waits. `Plain.clock_add_waits_run` turns the time that
a run takes into the waits that it leaves behind.
-/

set_option autoImplicit false

namespace Socks5

open Net

variable {α β : Type}

/-! ### One wish for bytes -/

namespace Script

/-- The seconds of all waits of a script. -/
def waits : Script → Nat
  | [] => 0
  | .wait seconds :: rest => seconds + waits rest
  | .bytes _ :: rest | .fault _ :: rest | .stall :: rest => waits rest

/-- Without a deadline the waits that are gone are the time that passed. Bytes
come at no cost of time, and neither do interruptions. -/
theorem clock_add_waits_draw (n clock : Nat) (script : Script) :
    (draw none n clock script).clock + waits (draw none n clock script).rest
      = clock + waits script := by
  fun_induction draw none n clock script <;> simp_all [waits, Draw.after]
  omega

/-- Time does not go back. -/
theorem clock_le_draw (n clock : Nat) (script : Script) :
    clock ≤ (draw none n clock script).clock := by
  fun_induction draw none n clock script <;> simp_all [Draw.after]
  omega

/-- A wish that is over in time does not see the deadline. What comes in the very
second of the deadline is in time. -/
theorem draw_of_inTime {limit n clock : Nat} {script : Script}
    (hverdict : (draw none n clock script).verdict ≠ .stuck)
    (htime : (draw none n clock script).clock ≤ limit) :
    draw (some limit) n clock script = draw none n clock script := by
  induction script generalizing n clock with
  | nil => cases n <;> rfl
  | cons step rest ih =>
    cases n with
    | zero => rfl
    | succ n =>
      cases step with
      | bytes bs =>
        by_cases hlen : n + 1 ≤ bs.length
        · rw [draw, draw, if_pos hlen, if_pos hlen]
        · rw [draw, if_neg hlen] at hverdict htime
          rw [draw, draw, if_neg hlen, if_neg hlen, ih hverdict htime]
      | wait seconds =>
        -- The wait is over before the whole wish is.
        have hle := clock_le_draw (n + 1) (clock + seconds) rest
        rw [draw] at hverdict htime
        rw [draw, draw]
        exact (if_neg (by omega)).trans (ih hverdict htime)
      | fault e =>
        by_cases he : e.isInterruption
        · rw [draw, if_pos he] at hverdict htime
          rw [draw, draw, if_pos he, if_pos he, ih hverdict htime]
        · rw [draw, draw, if_neg he, if_neg he]
      | stall => exact absurd rfl hverdict

/-- Any other wish ends with the deadline, with what has come by then. A wish that
would never be answered is one of them. -/
theorem draw_of_overrun {limit n clock : Nat} {script : Script} (hclock : clock ≤ limit)
    (h : (draw none n clock script).verdict = .stuck ∨
      limit < (draw none n clock script).clock) :
    (draw (some limit) n clock script).verdict = .late ∧
      (draw (some limit) n clock script).clock = limit := by
  induction script generalizing n clock with
  | nil => cases n <;> simp [draw] at h <;> omega
  | cons step rest ih =>
    cases n with
    | zero =>
      simp [draw] at h
      omega
    | succ n =>
      cases step with
      | bytes bs =>
        by_cases hlen : n + 1 ≤ bs.length
        · -- All bytes are there: such a wish ends at once and is no overrun.
          rw [draw, if_pos hlen] at h
          simp at h
          omega
        · rw [draw, if_neg hlen] at h
          rw [draw, if_neg hlen]
          exact ih hclock h
      | wait seconds =>
        rw [draw] at h
        rw [draw]
        -- Either this wait passes the deadline, or a later one does.
        by_cases hlate : limit < clock + seconds
        · simp only [if_pos hlate, and_self]
        · simp only [if_neg hlate]
          exact ih (Nat.le_of_not_lt hlate) h
      | fault e =>
        by_cases he : e.isInterruption
        · rw [draw, if_pos he] at h
          rw [draw, if_pos he]
          exact ih hclock h
        · -- A fault ends the wish at once, too, so it is no overrun either.
          rw [draw, if_neg he] at h
          simp at h
          omega
      | stall => exact ⟨rfl, rfl⟩

end Script

/-! ### Deadlines of a scene -/

namespace Scene

/-- The same scene with a deadline. -/
def due (s : Scene) (limit : Nat) : Scene := { s with deadline := some limit }

/-- The same scene without a deadline. -/
def released (s : Scene) : Scene := { s with deadline := none }

/-- Lifting a deadline gives the scene back that it was set in. -/
theorem released_due {s : Scene} (h : s.deadline = none) (limit : Nat) :
    (s.due limit).released = s := by
  obtain ⟨stream, clock, deadline⟩ := s
  obtain rfl : deadline = none := h
  rfl

/-- The answer to a wish is known from the draw. -/
theorem answer_congr {s t : Scene} {n : Nat} (shape : Shape) (h : s.draw n = t.draw n) :
    s.answer n shape = t.answer n shape :=
  answer_eq_of_taken shape (by rw [h]) (by rw [h])

variable {s : Scene} {n limit : Nat} {shape : Shape}

/-- Without a deadline a wish has no answer only if nothing ever comes. The end of
the stream and a failure are answers, too. -/
theorem answer_eq_none_iff (hs : s.deadline = none) :
    s.answer n shape = none ↔ (s.draw n).verdict = .stuck := by
  cases hv : (s.draw n).verdict with
  | full => simp [answer_of_full hv]
  | ended => simp [answer_of_ended hv]
  | failed e => simp [answer_of_failed hv]
  | late =>
    have hsome := Script.isSome_of_verdict_late hv
    rw [hs] at hsome
    cases hsome
  | stuck => simp [answer_of_unanswered (.inr hv)]

/-- A wish that is answered in time does not see the deadline. -/
theorem draw_due (hs : s.deadline = none) (hanswer : s.answer n shape ≠ none)
    (htime : (s.draw n).clock ≤ limit) : (s.due limit).draw n = s.draw n := by
  have hverdict : (s.draw n).verdict ≠ .stuck := mt (answer_eq_none_iff hs).mpr hanswer
  rw [draw, hs] at hverdict htime
  show s.stream.script.draw (some limit) n s.clock = s.draw n
  rw [draw, hs]
  exact Script.draw_of_inTime hverdict htime

/-- Any other wish ends with the deadline. -/
theorem draw_due_of_overrun (hs : s.deadline = none) (hclock : s.clock ≤ limit)
    (h : s.answer n shape = none ∨ limit < (s.draw n).clock) :
    ((s.due limit).draw n).verdict = .late ∧ ((s.due limit).draw n).clock = limit := by
  rw [answer_eq_none_iff hs, draw, hs] at h
  exact Script.draw_of_overrun hclock h

end Scene

namespace Dialogue

variable {connector : Connector}

/-- Without a deadline nothing is late. Deadlines that the dialogue sets itself
are dealt with inside of it, so none of them gets out. -/
theorem run_ne_late (x : Dialogue α) {s : Scene} (h : s.deadline = none) (s' : Scene) :
    run connector x s ≠ .late s' := by
  obtain ⟨_, -, hc⟩ := run_course connector True x s false (.inr trivial) (by simp [h])
  intro hrun
  rw [hrun] at hc
  exact Course.ne_late hc rfl

/-- A wish that is answered goes on with the answer. -/
theorem run_recv_of_answer {n : Nat} {shape : Shape}
    {k : Except IoError (Vector UInt8 n) → Dialogue α} {s : Scene}
    {r : Except IoError (Vector UInt8 n)} (h : s.answer n shape = some r) :
    run connector (.recv n shape k) s = run connector (k r) (s.drawn (s.draw n)) := by
  rw [run_recv, h]

/-- A wish that is late makes the party late. -/
theorem run_recv_of_late {n : Nat} {shape : Shape}
    {k : Except IoError (Vector UInt8 n) → Dialogue α} {s : Scene}
    (h : (s.draw n).verdict = .late) :
    run connector (.recv n shape k) s = .late (s.drawn (s.draw n)) := by
  rw [run_recv, Scene.answer_of_unanswered (.inl h)]
  exact if_pos h

namespace Plain

variable {x : Dialogue α} {s : Scene}

/-- A plain dialogue leaves the deadline as it is. -/
theorem deadline_run (connector : Connector) (hx : x.Plain) (s : Scene) :
    (run connector x s).scene.deadline = s.deadline :=
  hx.run_keeps connector (P := fun s' => s'.deadline = s.deadline)
    (fun _ _ h => h) (fun _ _ h => h) (fun _ _ h => h) s rfl

/-- Without a deadline the waits that are gone are the time that passed. So how
long a run takes can be seen from the script that it leaves. -/
theorem clock_add_waits_run (connector : Connector) (hx : x.Plain) (hs : s.deadline = none) :
    (run connector x s).scene.clock + Script.waits (run connector x s).scene.stream.script
      = s.clock + Script.waits s.stream.script := by
  refine (hx.run_keeps connector (P := fun s' => s'.deadline = none ∧
    s'.clock + Script.waits s'.stream.script = s.clock + Script.waits s.stream.script)
    ?_ (fun _ _ h => h) (fun _ _ h => h) s ⟨hs, rfl⟩).2
  rintro s' n ⟨hfree, hclock⟩
  refine ⟨hfree, ?_⟩
  rw [← hclock]
  show (s'.draw n).clock + Script.waits (s'.draw n).rest = _
  rw [Scene.draw, hfree]
  exact Script.clock_add_waits_draw n s'.clock s'.stream.script

/-- Time does not go back in a plain dialogue. Only reading takes time there, so
this is what `Script.clock_le_draw` says, along the run. -/
theorem clock_le_run (connector : Connector) (hx : x.Plain) (hs : s.deadline = none) :
    s.clock ≤ (run connector x s).scene.clock := by
  refine (hx.run_keeps connector (P := fun s' => s'.deadline = none ∧ s.clock ≤ s'.clock)
    ?_ (fun _ _ h => h) (fun _ _ h => h) s ⟨hs, Nat.le_refl _⟩).2
  rintro s' n ⟨hfree, hclock⟩
  refine ⟨hfree, Nat.le_trans hclock ?_⟩
  show s'.clock ≤ (s'.draw n).clock
  rw [Scene.draw, hfree]
  exact Script.clock_le_draw n s'.clock s'.stream.script

/-- A run that is over in time does not see its deadline. Each wish in it is over
before the whole run is, so the law for one wish applies to all of them. -/
theorem run_due (hx : x.Plain) (hs : s.deadline = none) {limit : Nat} {a : α} {s' : Scene}
    (hrun : run connector x s = .ended a s') (htime : s'.clock ≤ limit) :
    run connector x (s.due limit) = .ended a (s'.due limit) := by
  -- Time does not go back, so if the whole run is over in time each wish in it is.
  induction x generalizing s with
  | done b =>
    cases hrun
    rfl
  | recv n shape k ih =>
    cases hanswer : s.answer n shape with
    | none =>
      rw [run_recv, hanswer] at hrun
      dsimp only at hrun
      split at hrun <;> cases hrun
    | some r =>
      rw [run_recv_of_answer hanswer] at hrun
      have hclock : (s.draw n).clock ≤ s'.clock := by
        have hle := clock_le_run connector (hx r) (s := s.drawn (s.draw n)) hs
        rwa [hrun] at hle
      have hsome : s.answer n shape ≠ none := by
        rw [hanswer]
        exact Option.some_ne_none r
      have hdraw := Scene.draw_due hs hsome (Nat.le_trans hclock htime)
      rw [run_recv_of_answer ((Scene.answer_congr shape hdraw).trans hanswer), hdraw]
      exact ih r (hx r) (s := s.drawn (s.draw n)) hs hrun
  | send bytes k ih => exact ih _ (hx _) (s := (s.send bytes).2) hs hrun
  | note entry next ih => exact ih hx (s := s.mark (.noted entry)) hs hrun
  | within | release | dial | listen | accept => exact hx.elim

/-- Any other run is late when its deadline passes. Either the first wish
overruns, or it is answered in time and the rest of the run overruns. -/
theorem run_due_of_overrun (hx : x.Plain) (hs : s.deadline = none) {limit : Nat}
    (hclock : s.clock ≤ limit)
    (h : ∀ a s', run connector x s = .ended a s' → limit < s'.clock) :
    ∃ s', run connector x (s.due limit) = .late s' ∧ s'.clock = limit := by
  induction x generalizing s with
  | done a => exact absurd (h a s rfl) (Nat.not_lt.mpr hclock)
  | recv n shape k ih =>
    by_cases hover : s.answer n shape = none ∨ limit < (s.draw n).clock
    · obtain ⟨hverdict, hlimit⟩ := Scene.draw_due_of_overrun hs hclock hover
      exact ⟨_, run_recv_of_late hverdict, hlimit⟩
    · -- This wish is answered in time, so it is a later one that is not.
      obtain ⟨hanswer, htime⟩ := not_or.mp hover
      have hdraw := Scene.draw_due hs hanswer (Nat.le_of_not_lt htime)
      obtain ⟨r, hr⟩ := Option.ne_none_iff_exists'.mp hanswer
      rw [run_recv_of_answer ((Scene.answer_congr shape hdraw).trans hr), hdraw]
      refine ih r (hx r) (s := s.drawn (s.draw n)) hs (Nat.le_of_not_lt htime) ?_
      intro a s' hrun
      exact h a s' ((run_recv_of_answer hr).trans hrun)
  | send bytes k ih => exact ih _ (hx _) (s := (s.send bytes).2) hs hclock h
  | note entry next ih => exact ih hx (s := s.mark (.noted entry)) hs hclock h
  | within | release | dial | listen | accept => exact hx.elim

end Plain

/-! ### Attempts -/

/-- How a run goes on that waits for an attempt to connect. -/
def runAttempt (connector : Connector) (a : Attempt Connection)
    (k : Except IoError Endpoint → Dialogue α) (s : Scene) : Progress α :=
  match a.await s.deadline s.clock with
  | .result clock (.ok c) =>
    run connector (k (.ok c.endpoint)) { s with clock, remote := some c }
  | .result clock (.error e) => run connector (k (.error e)) { s with clock }
  | .late clock => .late { s with clock }
  | .nothing => .stuck s

/-- A dial is the wait for an attempt, with a mark in the history that says so.
The mark is set first, so it is there even if the dial never comes to anything. -/
theorem run_dial (connector : Connector) (target : Address)
    (k : Except IoError Endpoint → Dialogue α) (s : Scene) :
    run connector (.dial target k) s
      = runAttempt connector (connector.dial target) k (s.mark (.dialed target)) := by
  cases hawait : (connector.dial target).await s.deadline s.clock with
  | result clock r => cases r <;> simp only [run, runAttempt, Scene.mark, hawait]
  | late clock => simp only [run, runAttempt, Scene.mark, hawait]
  | nothing => simp only [run, runAttempt, Scene.mark, hawait]

/-- Waiting for a peer is the wait for an attempt at the listener, if there is
one. -/
theorem run_accept (connector : Connector) {s : Scene} {l : Listener} (h : s.listener = some l)
    (k : Except IoError Endpoint → Dialogue α) :
    run connector (.accept k) s = runAttempt connector l.peer k s := by
  obtain ⟨stream, clock, deadline, history, listener, remote⟩ := s
  obtain rfl : listener = some l := h
  cases hawait : l.peer.await deadline clock with
  | result clock r => cases r <;> simp only [run, runAttempt, hawait]
  | late clock => simp only [run, runAttempt, hawait]
  | nothing => simp only [run, runAttempt, hawait]

/-! ### Windows -/

section

variable {x : Dialogue α} {f : α → Dialogue β} {late : Dialogue β} {s : Scene} {seconds : Nat}

/-- A window that is over in time is gone: what follows runs as if there had been
no deadline. It holds for deadlines beyond the clock, too, as these are none. -/
theorem run_within (hx : x.Plain) (hs : s.deadline = none) {a : α} {s' : Scene}
    (hrun : run connector x s = .ended a s') (htime : s'.clock ≤ s.clock + seconds) :
    run connector (.within seconds late (x.bind fun a => .release (f a))) s
      = run connector (f a) s' := by
  have hs' : s'.deadline = none := by
    have hkeep := hx.deadline_run connector s
    rwa [hrun, hs] at hkeep
  have hnext : run connector (x.bind fun a => .release (f a))
      { s with deadline := deadline? s.clock seconds } = run connector (f a) s' := by
    by_cases hrange : seconds < clockRange
    · rw [deadline?_eq_some hrange, run_bind connector hx]
      rw [show run connector x { s with deadline := some (s.clock + seconds) } = _ from
        hx.run_due hs hrun htime]
      show run connector (f a) (s'.due (s.clock + seconds)).released = _
      rw [Scene.released_due hs']
    · -- The clock never shows such a deadline.
      have hnone : { s with deadline := deadline? s.clock seconds } = s := by
        rw [deadline?_eq_none_iff.mpr (Nat.le_of_not_lt hrange)]
        exact Scene.released_due hs 0
      rw [hnone, run_bind connector hx, hrun]
      show run connector (f a) s'.released = _
      rw [← Scene.released_due hs' 0]
      rfl
  rw [run, hnext]
  -- The deadline is lifted, so what follows is not late, and ends as it does.
  cases hf : run connector (f a) s' with
  | late s'' => exact absurd hf (run_ne_late _ hs' s'')
  | ended b s'' => rfl
  | stuck s'' => rfl

/-- What is late under its own deadline goes on late, and without that deadline.
The range is needed since a deadline beyond it is none at all. -/
theorem run_within_of_late {next : Dialogue β} {s' : Scene} (hrange : seconds < clockRange)
    (h : run connector next (s.due (s.clock + seconds)) = .late s') :
    run connector (.within seconds late next) s = run connector late s'.released := by
  have hnext : run connector next { s with deadline := deadline? s.clock seconds } = .late s' := by
    rw [deadline?_eq_some hrange]
    exact h
  rw [run, hnext]
  rfl

/-- What ends under its own deadline ends. Nothing is said of the deadline that is
left: laying it down is up to the dialogue. -/
theorem run_within_of_ended {next : Dialogue β} {b : β} {s' : Scene} (hrange : seconds < clockRange)
    (h : run connector next (s.due (s.clock + seconds)) = .ended b s') :
    run connector (.within seconds late next) s = .ended b s' := by
  have hnext : run connector next { s with deadline := deadline? s.clock seconds }
      = .ended b s' := by
    rw [deadline?_eq_some hrange]
    exact h
  rw [run, hnext]

/-- Any other window is cut off when its time is up. Here the clock must be able
to show the deadline, since otherwise nobody ever notices. -/
theorem run_within_of_overrun (hx : x.Plain) (hs : s.deadline = none)
    (hrange : seconds < clockRange)
    (h : ∀ a s', run connector x s = .ended a s' → s.clock + seconds < s'.clock) :
    ∃ s', run connector x (s.due (s.clock + seconds)) = .late s' ∧
      s'.clock = s.clock + seconds ∧
      run connector (.within seconds late (x.bind fun a => .release (f a))) s
        = run connector late s'.released := by
  obtain ⟨s', hlate, hclock⟩ := hx.run_due_of_overrun hs (Nat.le_add_right s.clock seconds) h
  refine ⟨s', hlate, hclock, run_within_of_late hrange ?_⟩
  rw [run_bind connector hx, hlate]

end

end Dialogue

namespace Server

open Dialogue

/-- A step of the negotiation that is over in time does not see its deadline. It
comes to what it would come to without one, and an error is named as one of the
protocol. -/
theorem run_withDeadline {connector : Connector} {x : Exchange α} (hx : x.run.Plain)
    {s s' : Scene} {seconds : Nat} {r : Except ProtocolError α} (hs : s.deadline = none)
    (hrun : x.run.run connector s = .ended r s') (htime : s'.clock ≤ s.clock + seconds)
    (step : String) (f : Except ServiceError α → Dialogue β) :
    run connector ((withDeadline seconds step x).run.bind f) s
      = run connector (f (r.mapError .protocol)) s' := by
  rw [withDeadline_bind]
  exact run_within hx hs hrun htime

/-- Any other step ends when its time is up, with an error that names it. The
scene is the one in which the step was cut off, so what it had sent by then can be
read off. -/
theorem run_withDeadline_of_overrun {connector : Connector} {x : Exchange α} (hx : x.run.Plain)
    {s : Scene} {seconds : Nat} (hs : s.deadline = none) (hrange : seconds < clockRange)
    (h : ∀ r s', x.run.run connector s = .ended r s' → s.clock + seconds < s'.clock)
    (step : String) (f : Except ServiceError α → Dialogue β) :
    ∃ s', run connector x.run (s.due (s.clock + seconds)) = .late s' ∧
      s'.clock = s.clock + seconds ∧
      run connector ((withDeadline seconds step x).run.bind f) s
        = run connector
          (f (.error (.timeout s!"{step} not completed within {secondsText seconds}")))
          s'.released := by
  rw [withDeadline_bind]
  exact run_within_of_overrun hx hs hrange h

end Server

end Socks5
