import Socks5.Proofs.ServedMessages

/-!
# `Socks5.Proofs.ReadablePrefix`: what leads a stream

A reader without a deadline sees the bytes that come before a read fails or
nothing happens any more, and nothing behind them. They lead the stream.

* `Script.draw_eq_lead`: a draw takes what leads the script.
* `run_takes_of_lead`: a message that leads the stream is taken, and the stream
  is left as one draw of that length leaves it (`Script.draw_add`).
* `Reads.ended_iff`: a reader comes to a value just if a message of that value
  leads the stream. The induction for one half is on the message, and for the
  other half on the dialogue: a read that fails ends a reader, so all that it has
  taken before it comes to a value are full reads.
-/

set_option autoImplicit false

namespace Socks5

open Net Dialogue

variable {α β : Type}

namespace Script

/-- The bytes that a script brings before a read fails or nothing happens any
more. Interruptions are passed over, as a reader passes over them. -/
def lead : Script → Bytes
  | [] => []
  | .bytes bs :: rest => bs ++ lead rest
  | .wait _ :: rest => lead rest
  | .fault e :: rest => if e.isInterruption then lead rest else []
  | .stall :: _ => []

/-! The steps of a draw that asks for something. -/

section

variable {n : Nat} (hn : 0 < n) (clock : Nat) (rest : Script)

include hn

/-- A segment that is long enough is cut, and what is left of it stays in front.
The definition of `draw` matches on the number first, so this lemma and the next
ones ask for a positive one. -/
theorem draw_bytes_of_le {bs : Bytes} (hlen : n ≤ bs.length) :
    draw none n clock (.bytes bs :: rest)
      = ⟨bs.take n, .bytes (bs.drop n) :: rest, clock, .full⟩ := by
  cases n with
  | zero => cases hn
  | succ n => rw [draw, if_pos hlen]

/-- A segment that is too short is used up, and the draw goes on behind it. -/
theorem draw_bytes_of_lt {bs : Bytes} (hlen : bs.length < n) :
    draw none n clock (.bytes bs :: rest) = (draw none (n - bs.length) clock rest).after bs := by
  cases n with
  | zero => cases hn
  | succ n => rw [draw, if_neg (Nat.not_le_of_lt hlen)]

/-- Without a deadline a wait only costs time. -/
theorem draw_wait (seconds : Nat) :
    draw none n clock (.wait seconds :: rest) = draw none n (clock + seconds) rest := by
  cases n with
  | zero => cases hn
  | succ n => rw [draw]

/-- An interruption is passed over, and any other fault ends the draw. The fault
is gone then, so the next read goes on behind it. -/
theorem draw_fault (e : IoError) :
    draw none n clock (.fault e :: rest)
      = if e.isInterruption then draw none n clock rest else ⟨[], rest, clock, .failed e⟩ := by
  cases n with
  | zero => cases hn
  | succ n => rw [draw]

/-- Behind a stall nothing is ever taken. -/
theorem draw_stall : draw none n clock (.stall :: rest) = ⟨[], .stall :: rest, clock, .stuck⟩ := by
  cases n with
  | zero => cases hn
  | succ n => rw [draw]

/-- At the end of a script nothing is taken, and the draw says so. -/
theorem draw_nil : draw none n clock [] = ⟨[], [], clock, .ended⟩ := by
  cases n with
  | zero => cases hn
  | succ n => rw [draw]

end

/-- A draw takes what leads the script, and is full if that is enough. What leads
the rest is known only then: a draw that is not full may stop at a fault, and the
bytes behind the fault lead the rest. -/
theorem draw_eq_lead (script : Script) (n clock : Nat) :
    (draw none n clock script).taken = (lead script).take n ∧
      ((draw none n clock script).verdict = .full ↔ n ≤ (lead script).length) ∧
      (n ≤ (lead script).length → lead (draw none n clock script).rest = (lead script).drop n) := by
  rcases Nat.eq_zero_or_pos n with rfl | hn
  · simp [draw]
  induction script generalizing n clock with
  | nil => simp [draw_nil hn, lead, Nat.ne_of_gt hn]
  | cons step rest ih =>
    cases step with
    | bytes bs =>
      rcases Nat.lt_or_ge bs.length n with hlen | hlen
      · -- The segment is used up, and the rest of the block comes after it.
        obtain ⟨htaken, hfull, hrest⟩ := ih (n - bs.length) clock (by omega)
        have hiff : n - bs.length ≤ (lead rest).length ↔ n ≤ (bs ++ lead rest).length := by
          rw [List.length_append]
          omega
        rw [draw_bytes_of_lt hn clock rest hlen, lead]
        refine ⟨?_, hfull.trans hiff, ?_⟩
        · rw [List.take_append, List.take_of_length_le (Nat.le_of_lt hlen), ← htaken]
          rfl
        · intro h
          rw [List.drop_append, List.drop_eq_nil_of_le (Nat.le_of_lt hlen)]
          exact hrest (hiff.mpr h)
      · have hall : n ≤ bs.length + (lead rest).length := by omega
        rw [draw_bytes_of_le hn clock rest hlen]
        simp [lead, hall, List.take_append_of_le_length hlen, List.drop_append_of_le_length hlen]
    | wait seconds =>
      rw [draw_wait hn]
      exact ih n (clock + seconds) hn
    | fault e =>
      rw [draw_fault hn, lead]
      by_cases he : e.isInterruption
      · rw [if_pos he, if_pos he]
        exact ih n clock hn
      · rw [if_neg he, if_neg he]
        simp [Nat.ne_of_gt hn]
    | stall => simp [draw_stall hn, lead, Nat.ne_of_gt hn]

/-- A full draw followed by another one is a single draw. The second one may fail,
but not the first one, since a failure uses up a fault and the two draws would go
on behind it. -/
theorem draw_add {script : Script} {a clock : Nat}
    (hfull : (draw none a clock script).verdict = .full) (b : Nat) :
    draw none (a + b) clock script
      = (draw none b (draw none a clock script).clock (draw none a clock script).rest).after
          (draw none a clock script).taken := by
  rcases Nat.eq_zero_or_pos a with rfl | ha
  · simp [draw, Draw.after]
  rcases Nat.eq_zero_or_pos b with rfl | hb
  · have hdone : draw none a clock script
        = ⟨(draw none a clock script).taken, (draw none a clock script).rest,
          (draw none a clock script).clock, .full⟩ := by rw [← hfull]
    simp [draw, Draw.after, ← hdone]
  have hab : 0 < a + b := by omega
  induction script generalizing a clock with
  | nil =>
    rw [draw_nil ha] at hfull
    cases hfull
  | cons step rest ih =>
    cases step with
    | bytes bs =>
      by_cases hall : a + b ≤ bs.length
      · -- One segment covers both.
        have hrest : b ≤ (bs.drop a).length := by
          rw [List.length_drop]
          omega
        rw [draw_bytes_of_le ha clock rest (by omega), draw_bytes_of_le hab clock rest hall,
          draw_bytes_of_le hb clock rest hrest]
        simp [Draw.after, List.take_add]
      · have hall : bs.length < a + b := Nat.lt_of_not_le hall
        rw [draw_bytes_of_lt hab clock rest hall]
        rcases Nat.lt_or_ge bs.length a with hlen | hlen
        · rw [draw_bytes_of_lt ha clock rest hlen] at hfull ⊢
          rw [Nat.sub_add_comm (Nat.le_of_lt hlen), ih hfull (by omega) (by omega)]
          simp [Draw.after]
        · -- The first draw ends within the segment.
          have hrest : (bs.drop a).length < b := by
            rw [List.length_drop]
            omega
          have hmore : a + b - bs.length = b - (bs.drop a).length := by
            rw [List.length_drop]
            omega
          rw [draw_bytes_of_le ha clock rest hlen, draw_bytes_of_lt hb clock rest hrest, hmore]
          simp [Draw.after, ← List.append_assoc]
    | wait seconds =>
      rw [draw_wait ha] at hfull ⊢
      rw [draw_wait hab]
      exact ih hfull ha hab
    | fault e =>
      rw [draw_fault ha] at hfull ⊢
      rw [draw_fault hab]
      by_cases he : e.isInterruption
      · rw [if_pos he] at hfull ⊢
        rw [if_pos he]
        exact ih hfull ha hab
      · rw [if_neg he] at hfull
        cases hfull
    | stall =>
      rw [draw_stall ha] at hfull
      cases hfull

end Script

/-! ### Scenes -/

namespace Scene

/-- The bytes that lead the stream of a scene. -/
def lead (s : Scene) : Bytes := Script.lead s.stream.script

/-- The scene once `n` bytes of its stream have been taken, with what has been
seen meanwhile. -/
def past (s : Scene) (n : Nat) (h : History) : Scene :=
  { s with
    stream := { s.stream with script := (s.draw n).rest }
    clock := (s.draw n).clock
    history := s.history ++ h }

variable {s : Scene} (hfree : s.deadline = none)

/-- No bytes are taken by taking none, and no time passes. -/
theorem past_zero (s : Scene) : s.past 0 [] = s := by simp [past, draw, Script.draw]

include hfree

/-- Without a deadline a draw of a scene is a draw without a deadline. -/
theorem draw_of_free (n : Nat) : s.draw n = s.stream.script.draw none n s.clock := by
  rw [draw, hfree]

/-- What a scene without a deadline gives is a front of what leads its stream. -/
theorem taken_of_lead (n : Nat) : (s.draw n).taken = s.lead.take n := by
  rw [draw_of_free hfree]
  exact (Script.draw_eq_lead _ n s.clock).1

/-- A wish is granted in full just if enough bytes lead the stream. -/
theorem verdict_eq_full_iff (n : Nat) : (s.draw n).verdict = .full ↔ n ≤ s.lead.length := by
  rw [draw_of_free hfree]
  exact (Script.draw_eq_lead _ n s.clock).2.1

/-- Behind a wish that was granted in full, the rest of what led the stream leads
it. -/
theorem lead_drawn {n : Nat} (hn : n ≤ s.lead.length) :
    (s.drawn (s.draw n)).lead = s.lead.drop n := by
  rw [draw_of_free hfree]
  exact (Script.draw_eq_lead _ n s.clock).2.2 hn

/-- A wish is answered from what leads the stream, if that is enough. So a reader
can be followed on the bytes alone, without the script they come from. -/
theorem answer_of_lead {n : Nat} (hn : n ≤ s.lead.length) (shape : Shape) :
    s.answer n shape = some (shape.answer n s.lead) := by
  rw [answer_of_full ((verdict_eq_full_iff hfree n).mpr hn), Shape.answer, dif_pos hn]
  simp only [taken_of_lead hfree]

/-- If what leads the stream is not enough, there are no bytes for an answer.
There may be an error, or no answer at all. -/
theorem answer_ne_ok {n : Nat} (hn : s.lead.length < n) (shape : Shape) (v : Vector UInt8 n) :
    s.answer n shape ≠ some (.ok v) := by
  intro hanswer
  have hlen : (s.draw n).taken.length = n := by
    rw [← toList_of_answer hanswer, Vector.length_toList]
  rw [taken_of_lead hfree, List.length_take] at hlen
  omega

/-- A block and what is taken after it are taken together, so a scene behind a
message is reached in one step however many reads it took. -/
theorem past_drawn {n : Nat} (hn : n ≤ s.lead.length) (m : Nat) (h : History) :
    (s.drawn (s.draw n)).past m h = s.past (n + m) (.received (s.draw n).taken :: h) := by
  have hfull := (verdict_eq_full_iff hfree n).mpr hn
  have hdraw : (s.drawn (s.draw n)).draw m
      = Script.draw none m (s.draw n).clock (s.draw n).rest := by
    rw [draw_of_free (s := s.drawn (s.draw n)) hfree]
    rfl
  have hboth : s.draw (n + m)
      = (Script.draw none m (s.draw n).clock (s.draw n).rest).after (s.draw n).taken := by
    rw [draw_of_free hfree] at hfull ⊢
    rw [draw_of_free hfree, Script.draw_add hfull]
  rw [past, past, hdraw, hboth]
  simp [drawn, mark, Script.Draw.after]

end Scene

/-! ### Readers -/

namespace Dialogue

/-- A message that leads the stream is taken, whatever comes behind it: neither a
fault nor a stall behind the message is noticed. The induction is on how the
dialogue takes the message. -/
theorem run_takes_of_lead (connector : Connector) {x y : Dialogue α} {m : Bytes} {g : History}
    (hx : Takes x m g y) {s : Scene} (hfree : s.deadline = none) (hlead : m <+: s.lead) :
    ∃ h : History, run connector x s = run connector y (s.past m.length h) ∧ h.IsQuiet ∧
      h.receivedBytes = m := by
  induction hx generalizing s with
  | stop x => exact ⟨[], by rw [List.length_nil, Scene.past_zero], History.isQuiet_nil, rfl⟩
  | @recv n shape k m g y v hk ih =>
    obtain ⟨rest, hrest⟩ := hlead
    rw [List.append_assoc] at hrest
    -- The block lies within the part that can be read, so the draw comes back full.
    have hn : n ≤ s.lead.length := by
      rw [← hrest, List.length_append, Vector.length_toList]
      omega
    have htaken : (s.draw n).taken = v.toList := by
      rw [Scene.taken_of_lead hfree, ← hrest]
      exact List.take_left' (by simp)
    -- The rest of the message leads what the draw leaves.
    have hbehind : m <+: (s.drawn (s.draw n)).lead := by
      rw [Scene.lead_drawn hfree hn, ← hrest, List.drop_left' (by simp)]
      exact List.prefix_append m rest
    obtain ⟨h, hrun, hquiet, hreceived⟩ := ih (s := s.drawn (s.draw n)) hfree hbehind
    refine ⟨.received v.toList :: h, ?_, by simp [hquiet, Event.IsQuiet], ?_⟩
    · rw [run_recv_of_answer (Scene.answer_of_lead hfree hn shape), ← hrest, answer_toList_append,
        hrun, Scene.past_drawn hfree hn, htaken, List.length_append, Vector.length_toList]
    · simp [History.receivedBytes, hreceived]
  | @note entry next y m g hnext ih =>
    obtain ⟨h, hrun, hquiet, hreceived⟩ := ih (s := s.mark (.noted entry)) hfree hlead
    refine ⟨.noted entry :: h, ?_, by simp [hquiet, Event.IsQuiet], hreceived⟩
    show run connector next (s.mark (.noted entry)) = _
    rw [hrun]
    simp [Scene.past, Scene.mark, Scene.draw]

/-- What a reader has taken when it comes to a value leads the stream. A reader
that goes on after a failed read could take bytes from behind the fault; this one
does not, by `Hears`. -/
theorem Hears.prefix_lead (connector : Connector) {E : ProtocolError → Prop}
    {x : Dialogue (Except ProtocolError α)} (hx : x.Hears E) {s s' : Scene}
    (hfree : s.deadline = none) {a : α} (hrun : run connector x s = .ended (.ok a) s') :
    ∃ h, s'.history = s.history ++ h ∧ h.receivedBytes <+: s.lead := by
  induction x generalizing s with
  | done r =>
    cases hrun
    exact ⟨[], (List.append_nil _).symm, List.nil_prefix⟩
  | recv n shape k ih =>
    rw [run_recv] at hrun
    split at hrun
    · rename_i r hanswer
      cases r with
      | ok v =>
        have hn : n ≤ s.lead.length := by
          refine Nat.le_of_not_lt fun hlt => ?_
          exact Scene.answer_ne_ok hfree hlt shape v hanswer
        obtain ⟨h, hhistory, hprefix⟩ := ih _ (hx.2 v) (s := s.drawn (s.draw n)) hfree hrun
        refine ⟨.received (s.draw n).taken :: h, ?_, ?_⟩
        · rw [hhistory]
          simp [Scene.drawn, Scene.mark]
        · rw [Scene.lead_drawn hfree hn] at hprefix
          obtain ⟨rest, hrest⟩ := hprefix
          refine ⟨rest, ?_⟩
          rw [History.receivedBytes, List.append_assoc, hrest, Scene.taken_of_lead hfree,
            List.take_append_drop]
      | error e =>
        -- A read that fails is the end of a reader.
        rw [hx.1 e] at hrun
        cases hrun
    · split at hrun <;> cases hrun
  | note entry next ih =>
    obtain ⟨h, hhistory, hprefix⟩ := ih hx (s := s.mark (.noted entry)) hfree hrun
    refine ⟨.noted entry :: h, ?_, hprefix⟩
    rw [hhistory]
    simp [Scene.mark]
  | send | within | release | dial | listen | accept => exact hx.elim

end Dialogue

namespace Exchange

/-- A reader comes to a value just if a message of that value leads the stream.
The message is the one of its format, and the reader both takes no other (`hx`)
and takes each of them (`hgets`). -/
theorem Reads.ended_iff (connector : Connector) {E : ProtocolError → Prop} {x : Exchange α}
    {F : Format α} (hx : x.Reads F) (hhears : x.Hears E)
    (hgets : ∀ a m, F.accepts a m → x.Gets m a) {s : Scene} (hfree : s.deadline = none) (a : α) :
    (∃ s', x.run.run connector s = .ended (.ok a) s') ↔ ∃ m, F.accepts a m ∧ m <+: s.lead := by
  constructor
  · rintro ⟨s', hrun⟩
    obtain ⟨h, hhistory, hprefix⟩ := Dialogue.Hears.prefix_lead connector hhears hfree hrun
    obtain ⟨g, hg, hcourse⟩ := run_course connector True x.run s false (.inr trivial)
      (by simp [hfree])
    rw [hrun] at hg hcourse
    -- Two views of what the run has added to the history.
    obtain rfl : h = g := List.append_cancel_left (hhistory.symm.trans hg)
    obtain ⟨-, hstops⟩ := hx.stops hcourse
    cases hstops with
    | accepted hm => exact ⟨_, hm, hprefix⟩
    | cut hm hbreak => cases hbreak
  · rintro ⟨m, hm, hlead⟩
    obtain ⟨g, htakes⟩ := hgets a m hm
    obtain ⟨h, hrun, -, -⟩ := run_takes_of_lead connector htakes hfree hlead
    exact ⟨_, hrun⟩

end Exchange

end Socks5
