import Socks5.Replay

/-!
# `Socks5.Proofs.PossibleRuns`: the courses that a dialogue can take

`Dialogue.run` carries out a dialogue against one script and one clock.
`Course` forgets both: a course is any way through the dialogue in which
the far end may send what it likes, break off wherever it likes and let
any deadline pass. Only the connector is kept. What holds of every course
holds of every run:

* `run_course`: what a run adds to the history is a course, and the run
  stops as the course does.
* `Course.of_bind`: a course of a composed dialogue is a course of the
  first part followed by one of the second. The first part must be
  `Plain`, because a deadline that it sets would reach into the second.
* `Course.ne_late`: without a deadline nothing is late.
-/

set_option autoImplicit false

namespace Socks5

open Net

/-- How a dialogue stops. -/
inductive Halt (α : Type) where
  /-- It is done. -/
  | ended (a : α)
  /-- The deadline passed. -/
  | late
  /-- It waits for what never comes. -/
  | stuck
  deriving Inhabited

/-- What a party holds open besides its stream. -/
structure Held where
  listener : Option Listener := none
  remote : Option Connection := none
  deriving Inhabited

namespace Progress

variable {α : Type}

/-- How the dialogue stopped. -/
def halt : Progress α → Halt α
  | .ended a _ => .ended a
  | .late _ => .late
  | .stuck _ => .stuck

/-- The scene in which it stopped. -/
def scene : Progress α → Scene
  | .ended _ s | .late s | .stuck s => s

/-- The same progress in another scene. -/
def map (f : Scene → Scene) : Progress α → Progress α
  | .ended a s => .ended a (f s)
  | .late s => .late (f s)
  | .stuck s => .stuck (f s)

/-- Where a dialogue stopped does not depend on the scene. -/
@[simp] theorem halt_map (f : Scene → Scene) (p : Progress α) : (p.map f).halt = p.halt := by
  cases p <;> rfl

/-- The scene of a progress that was put into another scene. -/
@[simp] theorem scene_map (f : Scene → Scene) (p : Progress α) :
    (p.map f).scene = f p.scene := by
  cases p <;> rfl

end Progress

/-- What a scene holds open. -/
def Scene.held (s : Scene) : Held := ⟨s.listener, s.remote⟩

/-! ### Reads and writes of one step -/

/-- A draw that is not full has taken less than was asked for. Together with
`length_taken_draw` the number of bytes tells full draws from all others. -/
theorem Script.length_taken_draw_lt {deadline : Option Nat} {n clock : Nat} {script : Script}
    (h : (draw deadline n clock script).verdict ≠ .full) :
    (draw deadline n clock script).taken.length < n := by
  fun_induction draw deadline n clock script
  -- A segment is used up and the draw goes on: what it has taken is the segment and what the
  -- rest gives.
  case case4 ih =>
    have := ih h
    simp only [Draw.after, List.length_append]
    omega
  all_goals simp_all

/-- Only a deadline makes a draw late: a script that stalls without one is stuck.
-/
theorem Script.isSome_of_verdict_late {deadline : Option Nat} {n clock : Nat} {script : Script}
    (h : (draw deadline n clock script).verdict = .late) : deadline.isSome = true := by
  fun_induction draw deadline n clock script <;> simp_all [Draw.after]

namespace Outlet

/-- Whether every write and every flush succeeds. -/
def Sure (o : Outlet) : Prop := o.room = none ∧ o.flushFault = none

/-- A sure outlet delivers a message as a whole, and is as sure as before. -/
theorem send_of_sure {o : Outlet} (h : o.Sure) (bs : Bytes) : o.send bs = (bs, .ok (), o) := by
  obtain ⟨hroom, hflush⟩ := h
  simp [send, write, flush, hroom, hflush]

/-- What is delivered is the front of what was sent, also when the write fails
halfway and when the flush fails after it. -/
theorem send_prefix (o : Outlet) (bs : Bytes) : (o.send bs).1 <+: bs := by
  unfold send write
  split
  · rename_i sent o' h
    split at h
    · cases h; exact List.prefix_refl _
    · split at h <;> cases h
      exact List.prefix_refl _
  · split
    · exact List.prefix_refl _
    · split
      · exact List.prefix_refl _
      · exact List.take_prefix _ _

/-- Without an error everything was delivered. The converse fails, since a flush
can fail after the last byte. -/
theorem send_of_ok {o : Outlet} {bs : Bytes} (h : (o.send bs).2.1 = .ok ()) :
    (o.send bs).1 = bs := by
  revert h
  unfold send write
  split
  · rename_i h
    split at h
    · cases h; simp
    · split at h <;> cases h
      simp
  · split
    · simp
    · split <;> simp

/-- Writing does not make an outlet sure that was not, and does not spoil one. An
outlet with room for so many bytes has such a bound for good, even while all
messages fit. -/
theorem sure_send_iff (o : Outlet) (bs : Bytes) : (o.send bs).2.2.Sure ↔ o.Sure := by
  cases hroom : o.room with
  | none => simp [send, write, hroom]
  | some room =>
    have hne : ¬ o.Sure := by simp [Sure, hroom]
    refine iff_of_false ?_ hne
    by_cases hfit : bs.length ≤ room <;> simp [send, write, hroom, hfit, Sure]

end Outlet

/-- An attempt is seen with its result, or the deadline passes, or nothing ever
comes of it. Dials and waits for a peer are attempts alike, so both are taken
apart by this one case split. -/
theorem Attempt.await_cases {α : Type} (deadline : Option Nat) (clock : Nat) (a : Attempt α) :
    (∃ seconds r, a = .settled seconds r ∧ a.await deadline clock = .result (clock + seconds) r) ∨
    (∃ limit, deadline = some limit ∧ a.await deadline clock = .late limit) ∨
    (a = .never ∧ a.await deadline clock = .nothing) := by
  cases a with
  | settled seconds r =>
    cases deadline with
    | none => exact .inl ⟨seconds, r, rfl, rfl⟩
    | some limit =>
      by_cases h : limit < clock + seconds
      · exact .inr (.inl ⟨limit, rfl, by simp [await, h]⟩)
      · exact .inl ⟨seconds, r, rfl, by simp [await, h]⟩
  | never =>
    cases deadline with
    | none => exact .inr (.inr ⟨rfl, rfl⟩)
    | some limit => exact .inr (.inl ⟨limit, rfl, rfl⟩)

namespace Scene

/-- The answer to a wish for bytes, if there is one. -/
def answer (s : Scene) (n : Nat) (shape : Shape) : Option (Except IoError (Vector UInt8 n)) :=
  match h : (s.draw n).verdict with
  | .full => some (.ok ⟨(s.draw n).taken.toArray, by
      rw [List.size_toArray]; exact Script.length_taken_draw h⟩)
  | .ended => some (.error shape.endError)
  | .failed e => some (.error e)
  | .late | .stuck => none

variable {s : Scene} {n : Nat} {shape : Shape}

/-- The answer to a full draw is what it has taken. The vector carries the proof
that it is as long as was asked for. -/
theorem answer_of_full (h : (s.draw n).verdict = .full) :
    s.answer n shape = some (.ok ⟨(s.draw n).taken.toArray, by
      rw [List.size_toArray]; exact Script.length_taken_draw h⟩) := by
  unfold answer
  split <;> simp_all

/-- The answer at the end of the stream is an error, and which one depends on what
was asked for. -/
theorem answer_of_ended (h : (s.draw n).verdict = .ended) :
    s.answer n shape = some (.error shape.endError) := by
  unfold answer
  split <;> simp_all

/-- The answer to a read that fails is the error of that read. -/
theorem answer_of_failed {e : IoError} (h : (s.draw n).verdict = .failed e) :
    s.answer n shape = some (.error e) := by
  unfold answer
  split <;> simp_all

/-- A draw that is late or stuck has no answer: the party never gets to go on with
it. -/
theorem answer_of_unanswered (h : (s.draw n).verdict = .late ∨ (s.draw n).verdict = .stuck) :
    s.answer n shape = none := by
  unfold answer
  split <;> simp_all

/-- The answer to a wish is known from what was taken and why no more was. What is
left of the stream and what time it is do not enter it. -/
theorem answer_eq_of_taken {s t : Scene} {n : Nat} (shape : Shape)
    (htaken : (s.draw n).taken = (t.draw n).taken)
    (hverdict : (s.draw n).verdict = (t.draw n).verdict) :
    s.answer n shape = t.answer n shape := by
  cases hv : (t.draw n).verdict with
  | full =>
    rw [answer_of_full (hverdict.trans hv), answer_of_full hv]
    simp only [htaken]
  | ended => rw [answer_of_ended (hverdict.trans hv), answer_of_ended hv]
  | failed e => rw [answer_of_failed (hverdict.trans hv), answer_of_failed hv]
  | late => rw [answer_of_unanswered (.inl (hverdict.trans hv)), answer_of_unanswered (.inl hv)]
  | stuck => rw [answer_of_unanswered (.inr (hverdict.trans hv)), answer_of_unanswered (.inr hv)]

/-- The bytes of an answer are the bytes of the draw. -/
theorem toList_of_answer {v : Vector UInt8 n} (h : s.answer n shape = some (.ok v)) :
    v.toList = (s.draw n).taken := by
  unfold answer at h
  split at h <;> cases h
  rfl

/-- Only a full draw is answered with bytes, so a wish that was not has taken less
than was asked for. -/
theorem length_taken_of_answer (shape : Shape) (h : ∀ v, s.answer n shape ≠ some (.ok v)) :
    (s.draw n).taken.length < n := by
  refine Script.length_taken_draw_lt fun hfull => ?_
  exact h _ (answer_of_full hfull)

end Scene

namespace Dialogue

variable {α β : Type}

/-- A wish for bytes is answered, or it is late or stuck. `run` splits by the
verdict instead, with a proof in one of the branches; this form hides the proof in
`Scene.answer`. -/
theorem run_recv (connector : Connector) (n : Nat) (shape : Shape)
    (k : Except IoError (Vector UInt8 n) → Dialogue α) (s : Scene) :
    run connector (.recv n shape k) s =
      match s.answer n shape with
      | some r => run connector (k r) (s.drawn (s.draw n))
      | none =>
        if (s.draw n).verdict = .late then .late (s.drawn (s.draw n))
        else .stuck (s.drawn (s.draw n)) := by
  simp only [run]
  split
  · rename_i hv
    rw [Scene.answer_of_full hv]
  · rename_i hv
    rw [Scene.answer_of_ended hv]
  · rename_i e hv
    rw [Scene.answer_of_failed hv]
  · rename_i hv
    rw [Scene.answer_of_unanswered (.inl hv)]
    exact (if_pos hv).symm
  · rename_i hv
    rw [Scene.answer_of_unanswered (.inr hv)]
    exact (if_neg (by simp [hv])).symm

/-- The courses of a dialogue. A course starts with or without a deadline
(`armed`) and with what the party holds open; it leaves a history, stops
somehow and ends with what is held open then. Writes fail only if
`faulty`. -/
def Course (connector : Connector) (faulty : Prop) :
    Dialogue α → Bool → Held → History → Halt α → Held → Prop
  | .done a, _, o, h, r, o' => h = [] ∧ r = .ended a ∧ o' = o
  | .recv n _ k, armed, o, h, r, o' =>
    (∃ v h', h = .received v.toList :: h' ∧ Course connector faulty (k (.ok v)) armed o h' r o') ∨
    ∃ bs h', bs.length < n ∧ h = .received bs :: h' ∧
      ((∃ e, Course connector faulty (k (.error e)) armed o h' r o') ∨
        h' = [] ∧ o' = o ∧ (r = .stuck ∨ armed = true ∧ r = .late))
  | .send bytes k, armed, o, h, r, o' =>
    (∃ h', h = .sent bytes :: h' ∧ Course connector faulty (k (.ok ())) armed o h' r o') ∨
    (faulty ∧ ∃ part e h', part <+: bytes ∧ h = .sent part :: h' ∧
      Course connector faulty (k (.error e)) armed o h' r o')
  | .note entry next, armed, o, h, r, o' =>
    ∃ h', h = .noted entry :: h' ∧ Course connector faulty next armed o h' r o'
  | .within _ late next, _, o, h, r, o' =>
    (Course connector faulty next true o h r o' ∧ r ≠ .late) ∨
    ∃ h₁ h₂ o₁, h = h₁ ++ h₂ ∧ Course connector faulty next true o h₁ .late o₁ ∧
      Course connector faulty late false o₁ h₂ r o'
  | .release next, _, o, h, r, o' => Course connector faulty next false o h r o'
  | .dial target k, armed, o, h, r, o' =>
    ∃ h', h = .dialed target :: h' ∧
      ((∃ seconds c, connector.dial target = .settled seconds (.ok c) ∧
          Course connector faulty (k (.ok c.endpoint)) armed { o with remote := some c } h' r o') ∨
        (∃ seconds e, connector.dial target = .settled seconds (.error e) ∧
          Course connector faulty (k (.error e)) armed o h' r o') ∨
        h' = [] ∧ o' = o ∧
          (connector.dial target = .never ∧ r = .stuck ∨ armed = true ∧ r = .late))
  | .listen target k, armed, o, h, r, o' =>
    match connector.listen with
    | none => Course connector faulty (k (.error Connector.noListener)) armed o h r o'
    | some openListener =>
      ∃ h', h = .listened target :: h' ∧
        match openListener target with
        | .ok l =>
          Course connector faulty (k (.ok l.endpoint)) armed { o with listener := some l } h' r o'
        | .error e => Course connector faulty (k (.error e)) armed o h' r o'
  | .accept k, armed, o, h, r, o' =>
    match o.listener with
    | none => h = [] ∧ r = .stuck ∧ o' = o
    | some l =>
      (∃ seconds c, l.peer = .settled seconds (.ok c) ∧
          Course connector faulty (k (.ok c.endpoint)) armed { o with remote := some c } h r o') ∨
      (∃ seconds e, l.peer = .settled seconds (.error e) ∧
          Course connector faulty (k (.error e)) armed o h r o') ∨
      h = [] ∧ o' = o ∧ (l.peer = .never ∧ r = .stuck ∨ armed = true ∧ r = .late)

/-- Without a deadline nothing is late. A run need not be looked at for this,
since it already holds of every course. -/
theorem Course.ne_late {connector : Connector} {faulty : Prop} {x : Dialogue α} {o o' : Held}
    {h : History} {r : Halt α} (hc : Course connector faulty x false o h r o') : r ≠ .late := by
  -- Only `within` sets a deadline, and what it does late runs without one.
  induction x generalizing o h with
  | done a => obtain ⟨-, rfl, -⟩ := hc; simp
  | recv n shape k ih =>
    obtain ⟨v, h', -, hc⟩ | ⟨bs, h', -, -, ⟨e, hc⟩ | ⟨-, -, rfl | ⟨harmed, -⟩⟩⟩ := hc
    · exact ih _ hc
    · exact ih _ hc
    · simp
    · cases harmed
  | send bytes k ih =>
    obtain ⟨h', -, hc⟩ | ⟨-, part, e, h', -, -, hc⟩ := hc
    · exact ih _ hc
    · exact ih _ hc
  | note entry next ih => obtain ⟨h', -, hc⟩ := hc; exact ih hc
  | within seconds late next ih_late _ =>
    obtain ⟨-, hr⟩ | ⟨h₁, h₂, o₁, -, -, hc⟩ := hc
    · exact hr
    · exact ih_late hc
  | release next ih => exact ih hc
  | dial target k ih =>
    obtain ⟨h', -, ⟨_, c, -, hc⟩ | ⟨_, e, -, hc⟩ | ⟨-, -, ⟨-, rfl⟩ | ⟨harmed, -⟩⟩⟩ := hc
    · exact ih _ hc
    · exact ih _ hc
    · simp
    · cases harmed
  | listen target k ih =>
    unfold Course at hc
    split at hc
    · exact ih _ hc
    · obtain ⟨h', -, hc⟩ := hc
      split at hc
      · exact ih _ hc
      · exact ih _ hc
  | accept k ih =>
    unfold Course at hc
    split at hc
    · obtain ⟨-, rfl, -⟩ := hc; simp
    · obtain ⟨_, c, -, hc⟩ | ⟨_, e, -, hc⟩ | ⟨-, -, ⟨-, rfl⟩ | ⟨harmed, -⟩⟩ := hc
      · exact ih _ hc
      · exact ih _ hc
      · simp
      · cases harmed

/-- What every step keeps, a run keeps. The steps are reading, sending, marking an
event, and setting anything but stream and history. Properties of a scene that
last are shown by these four facts, without another induction over dialogues. -/
theorem run_keeps (connector : Connector) {P : Scene → Prop}
    (hread : ∀ s n, P s → P (s.drawn (s.draw n)))
    (hsend : ∀ s bytes, P s → P (s.send bytes).2)
    (hmark : ∀ s e, (∀ bs, e ≠ .received bs) → (∀ bs, e ≠ .sent bs) → P s → P (s.mark e))
    (hset : ∀ s clock deadline listener remote, P s →
      P { s with clock, deadline, listener, remote })
    (x : Dialogue α) (s : Scene) (hs : P s) : P (run connector x s).scene := by
  induction x generalizing s with
  | done a => exact hs
  | recv n shape k ih =>
    have hs' := hread s n hs
    rw [run_recv]
    split
    · exact ih _ _ hs'
    · split
      · exact hs'
      · exact hs'
  | send bytes k ih => exact ih _ _ (hsend s bytes hs)
  | note entry next ih => exact ih _ (hmark s _ (by simp) (by simp) hs)
  | within seconds late next ih_late ih_next =>
    -- The inner run keeps the property, whether or not it is late.
    have hnext := ih_next { s with deadline := deadline? s.clock seconds } (hset s _ _ _ _ hs)
    simp only [run]
    split
    · rename_i s' hrun
      rw [hrun] at hnext
      exact ih_late _ (hset s' _ _ _ _ hnext)
    · exact hnext
  | release next ih => exact ih _ (hset s _ _ _ _ hs)
  | dial target k ih =>
    -- The mark is set before the attempt is settled, so the property has to pass it in
    -- all four cases.
    have hs' := hmark s (.dialed target) (by simp) (by simp) hs
    simp only [run]
    split
    · exact ih _ _ (hset _ _ _ _ _ hs')
    · exact ih _ _ (hset _ _ _ _ _ hs')
    · exact hset _ _ _ _ _ hs'
    · exact hs'
  | listen target k ih =>
    have hs' := hmark s (.listened target) (by simp) (by simp) hs
    simp only [run]
    split
    · exact ih _ _ hs
    · split
      · exact ih _ _ (hset _ _ _ _ _ hs')
      · exact ih _ _ hs'
  | accept k ih =>
    simp only [run]
    split
    · exact hs
    · split
      · exact ih _ _ (hset _ _ _ _ _ hs)
      · exact ih _ _ (hset _ _ _ _ _ hs)
      · exact hset _ _ _ _ _ hs
      · exact hs

/-- No byte of the far end is lost or made up: what a run has taken and what it
has left are what was there before. This holds of runs that fail, that are late
and that are stuck as well. -/
theorem received_append_unread (connector : Connector) (x : Dialogue α) (s : Scene) :
    (run connector x s).scene.history.receivedBytes ++
        Script.bytes (run connector x s).scene.stream.script
      = s.history.receivedBytes ++ Script.bytes s.stream.script := by
  refine run_keeps connector (P := fun s' =>
    s'.history.receivedBytes ++ Script.bytes s'.stream.script
      = s.history.receivedBytes ++ Script.bytes s.stream.script) ?_ ?_ ?_ ?_ x s rfl
  · intro s' n hs'
    rw [← hs']
    simp only [Scene.drawn, Scene.mark, History.receivedBytes_append, History.receivedBytes,
      List.append_nil, List.append_assoc]
    -- Drawing splits the script: the bytes that it takes and those that it leaves.
    rw [Scene.draw, Script.taken_append_bytes_rest]
  · intro s' bytes hs'
    simpa [Scene.send, Scene.mark, History.receivedBytes] using hs'
  · intro s' e hreceived _ hs'
    rw [← hs']
    -- Only what is received is counted, and `run_keeps` marks no such event here.
    cases e with
    | received bs => exact absurd rfl (hreceived bs)
    | sent | noted | dialed | listened => simp [Scene.mark, History.receivedBytes]
  · intro s' _ _ _ _ hs'
    exact hs'

/-! ### Runs without a failing write -/

/-- Whether every write and every flush of a run succeeds. -/
def Delivers (connector : Connector) : Dialogue α → Scene → Prop
  | .done _, _ => True
  | .recv n shape k, s =>
    ∀ r, s.answer n shape = some r → Delivers connector (k r) (s.drawn (s.draw n))
  | .send bytes k, s =>
    (s.send bytes).1 = .ok () ∧ Delivers connector (k (.ok ())) (s.send bytes).2
  | .note entry next, s => Delivers connector next (s.mark (.noted entry))
  | .within seconds late next, s =>
    Delivers connector next { s with deadline := deadline? s.clock seconds } ∧
      ∀ s', run connector next { s with deadline := deadline? s.clock seconds } = .late s' →
        Delivers connector late { s' with deadline := none }
  | .release next, s => Delivers connector next { s with deadline := none }
  | .dial target k, s =>
    let s := s.mark (.dialed target)
    match (connector.dial target).await s.deadline s.clock with
    | .result clock (.ok c) =>
      Delivers connector (k (.ok c.endpoint)) { s with clock, remote := some c }
    | .result clock (.error e) => Delivers connector (k (.error e)) { s with clock }
    | .late _ | .nothing => True
  | .listen target k, s =>
    match connector.listen with
    | none => Delivers connector (k (.error Connector.noListener)) s
    | some openListener =>
      let s := s.mark (.listened target)
      match openListener target with
      | .ok l => Delivers connector (k (.ok l.endpoint)) { s with listener := some l }
      | .error e => Delivers connector (k (.error e)) s
  | .accept k, s =>
    match s.listener with
    | none => True
    | some l =>
      match l.peer.await s.deadline s.clock with
      | .result clock (.ok c) =>
        Delivers connector (k (.ok c.endpoint)) { s with clock, remote := some c }
      | .result clock (.error e) => Delivers connector (k (.error e)) { s with clock }
      | .late _ | .nothing => True

/-- A run leaves an outlet sure if it was, so what follows the run can still
write. -/
theorem sure_run (connector : Connector) (x : Dialogue α) (s : Scene)
    (h : s.stream.outlet.Sure) : (run connector x s).scene.stream.outlet.Sure :=
  run_keeps connector (P := fun s => s.stream.outlet.Sure) (fun _ _ h => h)
    (fun s bytes h => (Outlet.sure_send_iff s.stream.outlet bytes).mpr h) (fun _ _ _ _ h => h)
    (fun _ _ _ _ _ h => h) x s h

/-- A sure outlet delivers whatever is written, so on such a stream nothing has to
be shown about the messages of a dialogue. -/
theorem delivers_of_sure (connector : Connector) (x : Dialogue α) (s : Scene)
    (h : s.stream.outlet.Sure) : Delivers connector x s := by
  induction x generalizing s with
  | done a => trivial
  | recv n shape k ih => exact fun r _ => ih r _ h
  | send bytes k ih =>
    refine ⟨?_, ih _ _ ((Outlet.sure_send_iff s.stream.outlet bytes).mpr h)⟩
    rw [Scene.send, Outlet.send_of_sure h]
  | note entry next ih => exact ih _ h
  | within seconds late next ih_late ih_next =>
    refine ⟨ih_next _ h, fun s' hrun => ih_late _ ?_⟩
    -- A late inner run has written as well, and has left the outlet sure.
    have hsure := sure_run connector next { s with deadline := deadline? s.clock seconds } h
    rwa [hrun] at hsure
  | release next ih => exact ih _ h
  | dial target k ih =>
    simp only [Delivers]
    split
    · exact ih _ _ h
    · exact ih _ _ h
    · trivial
    · trivial
  | listen target k ih =>
    simp only [Delivers]
    split
    · exact ih _ _ h
    · split
      · exact ih _ _ h
      · exact ih _ _ h
  | accept k ih =>
    unfold Delivers
    split
    · trivial
    · split
      · exact ih _ _ h
      · exact ih _ _ h
      · trivial
      · trivial

/-! ### Runs are courses -/

/-- Whether every run of a dialogue adds one of its courses to the history.
A run with failing writes is allowed if `faulty`, and one with a deadline if
the course is armed. -/
def HasCourses (connector : Connector) (faulty : Prop) (x : Dialogue α) : Prop :=
  ∀ (s : Scene) (armed : Bool), Delivers connector x s ∨ faulty →
    (s.deadline.isSome = true → armed = true) →
    ∃ h, (run connector x s).scene.history = s.history ++ h ∧
      Course connector faulty x armed s.held h (run connector x s).halt
        (run connector x s).scene.held

section

variable {connector : Connector} {faulty : Prop}

/-- A run that wishes for bytes takes one of the three courses that a wish has: it
is answered in full, with an error, or not at all. In the last two the bytes
before the break are gone, and they are less than was asked for. -/
theorem hasCourses_recv {n : Nat} {shape : Shape}
    {k : Except IoError (Vector UInt8 n) → Dialogue α}
    (ih : ∀ r, HasCourses connector faulty (k r)) :
    HasCourses connector faulty (.recv n shape k) := by
  intro s armed hdelivers harmed
  rw [run_recv]
  cases hr : s.answer n shape with
  | some r =>
    -- The continuation starts where the draw stopped, and the draw is its first event.
    obtain ⟨h, hh, hc⟩ := ih r (s.drawn (s.draw n)) armed (hdelivers.imp_left fun hd => hd r hr)
      harmed
    refine ⟨.received (s.draw n).taken :: h, ?_, ?_⟩
    · rw [hh]
      simp [Scene.drawn, Scene.mark]
    cases r with
    | ok v => exact .inl ⟨v, h, by rw [Scene.toList_of_answer hr], hc⟩
    | error e =>
      have hshort : (s.draw n).taken.length < n :=
        Scene.length_taken_of_answer shape (by simp [hr])
      exact .inr ⟨_, h, hshort, rfl, .inl ⟨e, hc⟩⟩
  | none =>
    have hshort : (s.draw n).taken.length < n := Scene.length_taken_of_answer shape (by simp [hr])
    -- What came before the deadline or the silence has been taken, too.
    refine ⟨[.received (s.draw n).taken], ?_, .inr ⟨_, [], hshort, rfl, .inr ⟨rfl, ?_, ?_⟩⟩⟩
    · dsimp only
      split <;> rfl
    · dsimp only
      split <;> rfl
    · dsimp only
      split
      · rename_i hlate
        exact .inr ⟨harmed (Script.isSome_of_verdict_late hlate), rfl⟩
      · exact .inl rfl

/-- A run that sends delivers the whole message or, if writes may fail, a front of
it. Without `faulty` the second case is excluded by `Delivers`. -/
theorem hasCourses_send {bytes : Bytes} {k : Except IoError Unit → Dialogue α}
    (ih : ∀ r, HasCourses connector faulty (k r)) :
    HasCourses connector faulty (.send bytes k) := by
  intro s armed hdelivers harmed
  -- Both cases go on in the same way and differ only in what is known of the write.
  have hgo : ∀ r, (s.send bytes).1 = r → (Delivers connector (k r) (s.send bytes).2 ∨ faulty) →
      ∃ h, (run connector (.send bytes k) s).scene.history
        = s.history ++ .sent (s.stream.outlet.send bytes).1 :: h ∧
      Course connector faulty (k r) armed s.held h (run connector (.send bytes k) s).halt
        (run connector (.send bytes k) s).scene.held := by
    rintro _ rfl hd
    obtain ⟨h, hh, hc⟩ := ih (s.send bytes).1 (s.send bytes).2 armed hd harmed
    exact ⟨h, by simp only [run]; rw [hh]; simp [Scene.send, Scene.mark], hc⟩
  cases hr : (s.send bytes).1 with
  | ok u =>
    obtain ⟨h, hh, hc⟩ := hgo (.ok ()) hr (hdelivers.imp_left fun hd => hd.2)
    exact ⟨_, hh, .inl ⟨h, by rw [Outlet.send_of_ok hr], hc⟩⟩
  | error e =>
    have hfaulty : faulty := hdelivers.resolve_left fun hd => by
      rw [hd.1] at hr
      cases hr
    obtain ⟨h, hh, hc⟩ := hgo (.error e) hr (.inr hfaulty)
    exact ⟨_, hh, .inr ⟨hfaulty, _, e, h, Outlet.send_prefix _ _, rfl, hc⟩⟩

/-- If the deadline passes, the course goes on with what is done then. Else it is
a course under a deadline that does not stop late. -/
theorem hasCourses_within {seconds : Nat} {late next : Dialogue α}
    (ih_late : HasCourses connector faulty late) (ih_next : HasCourses connector faulty next) :
    HasCourses connector faulty (.within seconds late next) := by
  intro s armed hdelivers _
  obtain ⟨h, hh, hc⟩ := ih_next { s with deadline := deadline? s.clock seconds } true
    (hdelivers.imp_left fun hd => hd.1) fun _ => rfl
  simp only [run]
  split
  · rename_i s' hrun
    rw [hrun] at hh hc
    -- What is done late starts with an open end, so its course is not armed.
    obtain ⟨h₂, hh₂, hc₂⟩ := ih_late { s' with deadline := none } false
      (hdelivers.imp_left fun hd => hd.2 s' hrun) (by simp)
    refine ⟨h ++ h₂, ?_, .inr ⟨h, h₂, s'.held, rfl, hc, hc₂⟩⟩
    rw [hh₂]
    simp only [Progress.scene] at hh
    rw [hh, List.append_assoc]
  · rename_i hne
    refine ⟨h, hh, .inl ⟨hc, ?_⟩⟩
    intro hlate
    cases hrun : run connector next { s with deadline := deadline? s.clock seconds } with
    | ended a s' => simp [hrun, Progress.halt] at hlate
    | late s' => exact hne s' hrun
    | stuck s' => simp [hrun, Progress.halt] at hlate

/-- A run that dials leaves a mark first, and then has the result of the dial, the
deadline or silence before it. -/
theorem hasCourses_dial {target : Address} {k : Except IoError Endpoint → Dialogue α}
    (ih : ∀ r, HasCourses connector faulty (k r)) :
    HasCourses connector faulty (.dial target k) := by
  intro s armed hdelivers harmed
  -- Both results of a dial go on from the same mark.
  have hgo : ∀ r clock remote,
      (Delivers connector (k r) { s.mark (.dialed target) with clock, remote } ∨ faulty) → ∃ h,
      (run connector (k r) { s.mark (.dialed target) with clock, remote }).scene.history
        = s.history ++ .dialed target :: h ∧
      Course connector faulty (k r) armed { s.held with remote } h
        (run connector (k r) { s.mark (.dialed target) with clock, remote }).halt
        (run connector (k r) { s.mark (.dialed target) with clock, remote }).scene.held := by
    intro r clock remote hd
    obtain ⟨h, hh, hc⟩ :=
      ih r { s.mark (.dialed target) with clock, remote } armed hd harmed
    exact ⟨h, by rw [hh]; simp [Scene.mark], hc⟩
  simp only [run, Delivers, Scene.mark] at hdelivers ⊢
  obtain ⟨seconds, r, hdial, hawait⟩ | ⟨limit, hlimit, hawait⟩ | ⟨hdial, hawait⟩ :=
    Attempt.await_cases s.deadline s.clock (connector.dial target)
  · rw [hawait] at hdelivers ⊢
    cases r with
    | ok c =>
      obtain ⟨h, hh, hc⟩ := hgo (.ok c.endpoint) (s.clock + seconds) (some c) hdelivers
      exact ⟨_, hh, h, rfl, .inl ⟨seconds, c, hdial, hc⟩⟩
    | error e =>
      obtain ⟨h, hh, hc⟩ := hgo (.error e) (s.clock + seconds) s.remote hdelivers
      exact ⟨_, hh, h, rfl, .inr (.inl ⟨seconds, e, hdial, hc⟩)⟩
  · have : armed = true := harmed (by simp [hlimit])
    rw [hawait]
    exact ⟨_, rfl, [], rfl, .inr (.inr ⟨rfl, rfl, .inr ⟨this, rfl⟩⟩)⟩
  · rw [hawait]
    exact ⟨_, rfl, [], rfl, .inr (.inr ⟨rfl, rfl, .inl ⟨hdial, rfl⟩⟩)⟩

/-- A run that wishes for a listener leaves a mark only if the connector has any.
-/
theorem hasCourses_listen {target : Address} {k : Except IoError Endpoint → Dialogue α}
    (ih : ∀ r, HasCourses connector faulty (k r)) :
    HasCourses connector faulty (.listen target k) := by
  intro s armed hdelivers harmed
  simp only [run, Course, Delivers] at hdelivers ⊢
  cases hlisten : connector.listen with
  -- Without listeners nothing is marked, and the dialogue is told so.
  | none =>
    rw [hlisten] at hdelivers
    exact ih _ s armed hdelivers harmed
  | some openListener =>
    rw [hlisten] at hdelivers
    cases hl : openListener target with
    | ok l =>
      simp only [hl] at hdelivers ⊢
      obtain ⟨h, hh, hc⟩ := ih (.ok l.endpoint)
        { s.mark (.listened target) with listener := some l } armed hdelivers harmed
      exact ⟨.listened target :: h, by rw [hh]; simp [Scene.mark], h, rfl, hc⟩
    | error e =>
      simp only [hl] at hdelivers ⊢
      obtain ⟨h, hh, hc⟩ := ih (.error e) (s.mark (.listened target)) armed hdelivers harmed
      exact ⟨.listened target :: h, by rw [hh]; simp [Scene.mark], h, rfl, hc⟩

/-- A run that waits for a peer needs a listener, else it is stuck. The rest is as
with a dial, but without a mark. -/
theorem hasCourses_accept {k : Except IoError Endpoint → Dialogue α}
    (ih : ∀ r, HasCourses connector faulty (k r)) :
    HasCourses connector faulty (.accept k) := by
  intro s armed hdelivers harmed
  obtain ⟨stream, clock, deadline, history, listener, remote⟩ := s
  cases listener with
  | none => exact ⟨[], by simp [run, Progress.scene], rfl, rfl, rfl⟩
  | some l =>
    simp only [run, Course, Scene.held, Delivers] at hdelivers ⊢
    -- A peer comes or the wait fails; the deadline passes first; or nobody ever comes.
    obtain ⟨seconds, r, hpeer, hawait⟩ | ⟨limit, hlimit, hawait⟩ | ⟨hpeer, hawait⟩ :=
      Attempt.await_cases deadline clock l.peer
    · rw [hawait] at hdelivers ⊢
      cases r with
      | ok c =>
        obtain ⟨h, hh, hc⟩ := ih (.ok c.endpoint)
          ⟨stream, clock + seconds, deadline, history, some l, some c⟩ armed hdelivers harmed
        exact ⟨h, hh, .inl ⟨seconds, c, hpeer, hc⟩⟩
      | error e =>
        obtain ⟨h, hh, hc⟩ := ih (.error e)
          ⟨stream, clock + seconds, deadline, history, some l, remote⟩ armed hdelivers harmed
        exact ⟨h, hh, .inr (.inl ⟨seconds, e, hpeer, hc⟩)⟩
    · have : armed = true := harmed (by simp [hlimit])
      rw [hawait]
      exact ⟨[], by simp [Progress.scene], .inr (.inr ⟨rfl, rfl, .inr ⟨this, rfl⟩⟩)⟩
    · rw [hawait]
      exact ⟨[], by simp [Progress.scene], .inr (.inr ⟨rfl, rfl, .inl ⟨hpeer, rfl⟩⟩)⟩

end

/-- What a run adds to the history is a course of its dialogue. This is the step
from runs to courses, and everything that is shown of all courses is shown of all
scripts, clocks and deadlines by it. -/
theorem run_course (connector : Connector) (faulty : Prop) (x : Dialogue α) :
    HasCourses connector faulty x := by
  induction x with
  | done a => exact fun s _ _ _ => ⟨[], by simp [run, Progress.scene], rfl, rfl, rfl⟩
  | recv n shape k ih => exact hasCourses_recv ih
  | send bytes k ih => exact hasCourses_send ih
  | note entry next ih =>
    intro s armed hdelivers harmed
    obtain ⟨h, hh, hc⟩ := ih (s.mark (.noted entry)) armed hdelivers harmed
    exact ⟨.noted entry :: h, by simp only [run]; rw [hh]; simp [Scene.mark], h, rfl, hc⟩
  | within seconds late next ih_late ih_next => exact hasCourses_within ih_late ih_next
  | release next ih =>
    exact fun s _ hdelivers _ => ih { s with deadline := none } false hdelivers (by simp)
  | dial target k ih => exact hasCourses_dial ih
  | listen target k ih => exact hasCourses_listen ih
  | accept k ih => exact hasCourses_accept ih

/-! ### Composition -/

/-- A dialogue that reads, sends and notes, and does nothing else. -/
def Plain : Dialogue α → Prop
  | .done _ => True
  | .recv _ _ k => ∀ r, Plain (k r)
  | .send _ k => ∀ r, Plain (k r)
  | .note _ next => Plain next
  | .within .. | .release _ | .dial .. | .listen .. | .accept _ => False

/-- What is composed of plain dialogues is plain. The second part has to be plain
for every value, as any of them may come out of the first one. -/
theorem Plain.bind {f : α → Dialogue β} {x : Dialogue α} (hx : x.Plain) (hf : ∀ a, (f a).Plain) :
    (x.bind f).Plain := by
  induction x with
  | done a => exact hf a
  | recv n shape k ih => exact fun r => ih r (hx r)
  | send bytes k ih => exact fun r => ih r (hx r)
  | note entry next ih => exact ih hx
  | within | release | dial | listen | accept => exact hx.elim

section

variable {connector : Connector} {faulty : Prop} {armed : Bool} {o o' : Held} {h : History}

/-- A course of a composed dialogue is a course of the first part that ends
followed by one of the second, or the first part does not end. The first part
holds nothing open that it did not hold before, so the second one starts with the
same. -/
theorem Course.of_bind {f : α → Dialogue β} {x : Dialogue α} {r : Halt β} (hx : x.Plain)
    (hc : Course connector faulty (x.bind f) armed o h r o') :
    ∃ h₁ q, Course connector faulty x armed o h₁ q o ∧
      match q with
      | .ended a => ∃ h₂, h = h₁ ++ h₂ ∧ Course connector faulty (f a) armed o h₂ r o'
      | .late => h = h₁ ∧ r = .late ∧ o' = o
      | .stuck => h = h₁ ∧ r = .stuck ∧ o' = o := by
  -- A plain dialogue opens nothing, so the second part holds what the first one held.
  induction x generalizing h with
  | done a => exact ⟨[], .ended a, ⟨rfl, rfl, rfl⟩, h, rfl, hc⟩
  | recv n shape k ih =>
    obtain ⟨v, h', rfl, hc⟩ | ⟨bs, h', hbs, rfl, ⟨e, hc⟩ | ⟨rfl, rfl, hr⟩⟩ := hc
    · obtain ⟨h₁, q, hc₁, hq⟩ := ih _ (hx _) hc
      refine ⟨_ :: h₁, q, .inl ⟨v, h₁, rfl, hc₁⟩, ?_⟩
      cases q <;> simpa using hq
    · obtain ⟨h₁, q, hc₁, hq⟩ := ih _ (hx _) hc
      refine ⟨_ :: h₁, q, .inr ⟨bs, h₁, hbs, rfl, .inl ⟨e, hc₁⟩⟩, ?_⟩
      cases q <;> simpa using hq
    · obtain rfl | ⟨harmed, rfl⟩ := hr
      · exact ⟨_, .stuck, .inr ⟨bs, [], hbs, rfl, .inr ⟨rfl, rfl, .inl rfl⟩⟩, rfl, rfl, rfl⟩
      · exact ⟨_, .late, .inr ⟨bs, [], hbs, rfl, .inr ⟨rfl, rfl, .inr ⟨harmed, rfl⟩⟩⟩,
          rfl, rfl, rfl⟩
  | send bytes k ih =>
    obtain ⟨h', rfl, hc⟩ | ⟨hf, part, e, h', hpart, rfl, hc⟩ := hc
    · obtain ⟨h₁, q, hc₁, hq⟩ := ih _ (hx _) hc
      refine ⟨_ :: h₁, q, .inl ⟨h₁, rfl, hc₁⟩, ?_⟩
      cases q <;> simpa using hq
    · obtain ⟨h₁, q, hc₁, hq⟩ := ih _ (hx _) hc
      refine ⟨_ :: h₁, q, .inr ⟨hf, part, e, h₁, hpart, rfl, hc₁⟩, ?_⟩
      cases q <;> simpa using hq
  | note entry next ih =>
    obtain ⟨h', rfl, hc⟩ := hc
    obtain ⟨h₁, q, hc₁, hq⟩ := ih hx hc
    refine ⟨_ :: h₁, q, ⟨h₁, rfl, hc₁⟩, ?_⟩
    cases q <;> simpa using hq
  | within | release | dial | listen | accept => exact hx.elim

end

end Dialogue

end Socks5
