import Socks5.Proofs.Relay

/-!
# `Socks5.Proofs.RelayEnding`: how a relay ends

A relay moves its lanes on whenever something happens, so the waits of both
sources decide what happens first. They do not decide how it ends. A lane
that is followed alone, without its waits, comes to the end of its source,
to a stall or to a failure: that is its outlook.

* `Lane.keeps_moveThrough`: a move keeps the outlook, and stops as it says.
* `ends_run`: a relay is finished if both lanes come to their end, fails if
  one of them fails, and hangs otherwise.
* `complete_of_finished`: a relay that is finished has moved every byte.
* `ends_alike`: streams that deliver the same bytes at other times make for
  relays that end alike.
-/

set_option autoImplicit false

namespace Socks5

open Net

namespace Outlet

/-- Writing does not change how a flush turns out. -/
theorem flush_write (o : Outlet) (bs : Bytes) : (o.write bs).2.2.flush = o.flush := by
  unfold write
  split
  · rfl
  · split
    · rfl
    · rfl

/-- A write that succeeds has delivered all of its bytes. A write that is cut
short is an error. -/
theorem write_of_ok {o o' : Outlet} {bs sent : Bytes} (h : o.write bs = (sent, .ok (), o')) :
    sent = bs := by
  unfold write at h
  cases hroom : o.room with
  | none =>
    rw [hroom] at h
    cases h
    rfl
  | some room =>
    rw [hroom] at h
    dsimp only at h
    split at h
    · cases h
      rfl
    · simp at h

end Outlet

namespace Relay

open Lane

/-- What a lane comes to in the end. -/
inductive Outlook where
  | over
  | stall
  | failure
  deriving DecidableEq

namespace Outlook

/-- What a lane comes to that still has the given steps before it. The waits
play no part in it. -/
def ofSteps : Script → Outlet → Bool → Outlook
  | [], sink, _ =>
    match sink.flush with
    | .ok () => .over
    | .error _ => .failure
  | .bytes bs :: rest, sink, unflushed =>
    match sink.write bs with
    | (sent, .ok (), sink) => ofSteps rest sink (unflushed || !sent.isEmpty)
    | (_, .error _, _) => .failure
  | .wait _ :: rest, sink, unflushed => ofSteps rest sink unflushed
  | .fault e :: rest, sink, unflushed =>
    if e.isInterruption then ofSteps rest sink unflushed else .failure
  | .stall :: _, sink, unflushed =>
    match sink.flush with
    | .ok () => .stall
    | .error _ => if unflushed then .failure else .stall

/-- If flushing works, it does not matter what is left to be flushed. Writing
cannot change that, so it holds for the whole script. -/
theorem ofSteps_of_flush_ok (steps : Script) {sink : Outlet} (h : sink.flush = .ok ())
    (b b' : Bool) : ofSteps steps sink b = ofSteps steps sink b' := by
  induction steps generalizing sink b b' with
  | nil => rfl
  | cons step rest ih =>
    cases step with
    | bytes bs =>
      -- The sink of the rest flushes as this one does.
      have hflush := sink.flush_write bs
      rw [ofSteps, ofSteps]
      rcases hwrite : sink.write bs with ⟨sent, r, sink'⟩
      rw [hwrite] at hflush
      cases r with
      | ok u => exact ih (hflush.trans h) _ _
      | error e => rfl
    | wait n => exact ih h b b'
    | fault e =>
      rw [ofSteps, ofSteps]
      split
      · exact ih h b b'
      · rfl
    | stall => rw [ofSteps, ofSteps, h]

/-- If flushing fails, whatever is left to be flushed makes the lane fail. It
comes to a flush in any case, at the end of the source or at a stall, unless it
fails before. -/
theorem ofSteps_of_flush_error (steps : Script) {sink : Outlet} {e : IoError}
    (h : sink.flush = .error e) : ofSteps steps sink true = .failure := by
  induction steps generalizing sink with
  | nil => rw [ofSteps, h]
  | cons step rest ih =>
    cases step with
    | bytes bs =>
      -- Once a write has worked, the rest has something to flush again.
      have hflush := sink.flush_write bs
      rw [ofSteps]
      rcases hwrite : sink.write bs with ⟨sent, r, sink'⟩
      rw [hwrite] at hflush
      cases r with
      | ok u => exact ih (hflush.trans h)
      | error e' => rfl
    | wait n => exact ih h
    | fault e' =>
      rw [ofSteps]
      split
      · exact ih h
      · rfl
    | stall =>
      rw [ofSteps, h]
      rfl

/-- A lane comes to its end just if all bytes find their way into its sink. So
neither waits nor the size of the segments matter, and interruptions are only
tried again. -/
theorem ofSteps_eq_over_iff (steps : Script) (sink : Outlet) (b : Bool) :
    ofSteps steps sink b = .over ↔
      steps.IsPassable ∧ sink.Takes (Script.bytes steps).length := by
  induction steps generalizing sink b with
  | nil =>
    rw [ofSteps]
    cases hflush : sink.flush with
    | ok u =>
      exact iff_of_true rfl ⟨Script.isPassable_nil, fun room _ => Nat.zero_le room, hflush⟩
    | error e =>
      refine iff_of_false nofun ?_
      rintro ⟨-, htakes⟩
      cases hflush.symm.trans htakes.flush
  | cons step rest ih =>
    cases step with
    | bytes bs =>
      have hlength : (Script.bytes (.bytes bs :: rest)).length
          = bs.length + (Script.bytes rest).length := List.length_append
      -- The room that the whole source needs is used up by this segment first.
      rw [ofSteps, hlength, Outlet.takes_add_iff, Script.isPassable_cons]
      rcases hwrite : sink.write bs with ⟨sent, r, sink'⟩
      cases r with
      | ok u =>
        obtain rfl := Outlet.write_of_ok hwrite
        dsimp only
        rw [ih]
        constructor
        · rintro ⟨hpass, htakes⟩
          exact ⟨⟨trivial, hpass⟩, sink', rfl, htakes⟩
        · rintro ⟨⟨-, hpass⟩, _, ⟨⟩, htakes⟩
          exact ⟨hpass, htakes⟩
      | error e =>
        refine iff_of_false nofun ?_
        rintro ⟨-, _, hok, -⟩
        cases hok
    | wait n =>
      rw [ofSteps, ih, Script.isPassable_cons]
      exact and_congr_left fun _ => (and_iff_right trivial).symm
    | fault e =>
      rw [ofSteps, Script.isPassable_cons]
      split
      · -- An interruption is passed over.
        rename_i hinterruption
        rw [ih]
        exact and_congr_left fun _ => (and_iff_right hinterruption).symm
      · rename_i hinterruption
        refine iff_of_false nofun ?_
        rintro ⟨⟨hstep, -⟩, -⟩
        exact hinterruption hstep
    | stall =>
      rw [ofSteps, Script.isPassable_cons]
      -- No lane gets past a stall, whatever its sink does.
      refine iff_of_false ?_ fun h => h.1.1
      split
      · nofun
      · split <;> nofun

/-- A smooth source does not stall: it comes to its end, or its sink fails. Stalls
are steps of the source, and a smooth one has none. -/
theorem ofSteps_ne_stall {steps : Script} (h : steps.IsSmooth) (sink : Outlet) (b : Bool) :
    ofSteps steps sink b ≠ .stall := by
  induction steps generalizing sink b with
  | nil =>
    rw [ofSteps]
    split <;> nofun
  | cons step rest ih =>
    obtain ⟨hstep, hrest⟩ := Script.isSmooth_cons.mp h
    cases step with
    | bytes bs =>
      rw [ofSteps]
      split
      · exact ih hrest _ _
      · nofun
    | wait n => exact ih hrest sink b
    | fault e => exact hstep.elim
    | stall => exact hstep.elim

/-- Of a smooth source only the bytes matter. A lane with one never stalls, so it
fails or comes to its end, and the bytes alone decide about that. -/
theorem ofSteps_of_isSmooth {steps steps' : Script} (h : steps.IsSmooth) (h' : steps'.IsSmooth)
    (hbytes : Script.bytes steps = Script.bytes steps') (sink : Outlet) (b : Bool) :
    ofSteps steps sink b = ofSteps steps' sink b := by
  -- Neither stalls, so both fail unless they come to the end, as both do or neither.
  have hover : ofSteps steps sink b = .over ↔ ofSteps steps' sink b = .over := by
    rw [ofSteps_eq_over_iff, ofSteps_eq_over_iff, hbytes]
    exact and_congr_left fun _ => iff_of_true h.isPassable h'.isPassable
  have hstall := ofSteps_ne_stall h sink b
  have hstall' := ofSteps_ne_stall h' sink b
  generalize ofSteps steps sink b = o at *
  generalize ofSteps steps' sink b = o' at *
  cases o <;> cases o' <;> simp_all

end Outlook

/-! ### Lanes -/

namespace Lane

/-- What a lane comes to. -/
def outlook (l : Lane) : Outlook := .ofSteps l.source l.sink l.unflushed

/-- Whether a lane is at the end of its source, with everything flushed. -/
def IsOver (l : Lane) : Prop := l.source = [] ∧ l.sink.flush = .ok ()

/-- A lane that is over has come to its end. -/
theorem IsOver.outlook_eq {l : Lane} (h : l.IsOver) : l.outlook = .over := by
  rw [outlook, h.1, Outlook.ofSteps, h.2]

/-- How a lane of the given outlook stops for now. A lane that waits has its
sink open, and its outlook is still the same. -/
inductive Keeps (o : Outlook) : Lane × Motion → Prop where
  | failed {l : Lane} {e : IoError} (ho : o = .failure) : Keeps o (l, .failed e)
  | finished {l : Lane} (ho : o = .over) (hl : l.IsOver) : Keeps o (l, .finished)
  | waiting {l : Lane} (hopen : l.closed ≠ true) (ho : l.outlook = o)
      (hsource : (∃ n rest, l.source = .wait n :: rest) ∨ o = .stall) : Keeps o (l, .waiting)

/-- At the end of its source a lane is done if it can flush. A sink that was shut
down before was flushed then, which is why that has to be known. -/
theorem keeps_finish {l : Lane} (hsource : l.source = [])
    (hl : l.closed = true → l.sink.flush = .ok ()) : Keeps l.outlook l.finish := by
  unfold finish
  by_cases hclosed : l.closed = true
  · rw [if_pos hclosed]
    have hover : l.IsOver := ⟨hsource, hl hclosed⟩
    exact .finished hover.outlook_eq hover
  · rw [if_neg hclosed, outlook, hsource, Outlook.ofSteps]
    cases hflush : l.sink.flush with
    | ok u => exact .finished rfl ⟨rfl, hflush⟩
    | error e => exact .failed rfl

/-- Before a wait or a stall a lane flushes, if it has to. A flush that fails
makes the lane fail where it stands, and it would have failed later anyway. -/
theorem keeps_pause {l : Lane} (hopen : l.closed ≠ true)
    (hsource : (∃ n rest, l.source = .wait n :: rest) ∨ ∃ rest, l.source = .stall :: rest) :
    Keeps l.outlook l.pause := by
  have hstall : ∀ {l : Lane}, l.unflushed = false → l.source.head? = some .stall →
      l.outlook = .stall := by
    intro l hflushed hhead
    obtain ⟨rest, hrest⟩ := List.head?_eq_some_iff.mp hhead
    rw [outlook, hrest, hflushed, Outlook.ofSteps]
    split <;> rfl
  -- What is flushed has the same outlook, and a stall is one then.
  have hwaits : ∀ {o : Outlook}, { l with unflushed := false }.outlook = o →
      Keeps o ({ l with unflushed := false }, .waiting) := by
    rintro _ rfl
    refine .waiting hopen rfl ?_
    obtain hwait | ⟨rest, hrest⟩ := hsource
    · exact .inl hwait
    · refine .inr (hstall rfl ?_)
      show l.source.head? = some .stall
      rw [hrest]
      rfl
  unfold pause
  cases hunflushed : l.unflushed with
  | false =>
    refine hwaits ?_
    rw [outlook, outlook, hunflushed]
  | true =>
    cases hflush : l.sink.flush with
    | ok u =>
      refine hwaits ?_
      rw [outlook, outlook, hunflushed]
      exact Outlook.ofSteps_of_flush_ok _ hflush _ _
    | error e =>
      refine .failed ?_
      rw [outlook, hunflushed]
      exact Outlook.ofSteps_of_flush_error _ hflush

/-- One move of a lane keeps the outlook. The steps are what is still to come, and
only a lane with none has shut its sink down. -/
theorem keeps_moveThrough (steps : Script) (l : Lane)
    (hl : l.closed = true → steps = [] ∧ l.sink.flush = .ok ()) :
    Keeps (.ofSteps steps l.sink l.unflushed) (moveThrough steps l) := by
  induction steps generalizing l with
  | nil => exact keeps_finish (l := { l with source := [] }) rfl fun h => (hl h).2
  | cons step rest ih =>
    -- There is a step left, so the sink has not been shut down.
    have hopen : l.closed ≠ true := fun h => List.cons_ne_nil step rest (hl h).1
    cases step with
    | bytes bs =>
      rw [Outlook.ofSteps, moveThrough]
      rcases l.sink.write bs with ⟨sent, r, sink⟩
      cases r with
      | ok u =>
        exact ih { l with
          sink
          moved := l.moved ++ sent
          unflushed := l.unflushed || !sent.isEmpty } fun h => absurd h hopen
      | error e => exact .failed rfl
    | wait n =>
      cases n with
      -- A wait that is over is no step any more.
      | zero => exact ih l fun h => absurd h hopen
      | succ n =>
        exact keeps_pause (l := { l with source := .wait (n + 1) :: rest }) hopen
          (.inl ⟨n + 1, rest, rfl⟩)
    | fault e =>
      rw [Outlook.ofSteps, moveThrough]
      split
      · exact ih l fun h => absurd h hopen
      · exact .failed rfl
    | stall => exact keeps_pause (l := { l with source := .stall :: rest }) hopen (.inr ⟨rest, rfl⟩)

/-- One move from the lane's own source keeps the outlook. -/
theorem keeps_advance {l l' : Lane} {motion : Motion} (hl : l.closed = true → l.IsOver)
    (h : l.advance = (l', motion)) : Keeps l.outlook (l', motion) := by
  have hkeeps := keeps_moveThrough l.source l hl
  rwa [show moveThrough l.source l = (l', motion) from h] at hkeeps

/-- Time that passes changes no outlook, and shuts no sink down. Waits are no part
of the outlook, so a shorter one or none is the same. -/
theorem outlook_elapse (l : Lane) (n : Nat) : (l.elapse n).outlook = l.outlook := by
  unfold Lane.elapse
  split
  · rename_i m rest hsource
    rw [outlook, outlook, hsource]
    split
    · rfl
    · rfl
  · rfl

/-- A lane whose sink is shut down stays over while time passes. Time only
shortens waits, and there are none before such a lane. -/
theorem isOver_elapse {l : Lane} (hl : l.closed = true → l.IsOver) (n : Nat)
    (h : (l.elapse n).closed = true) : (l.elapse n).IsOver := by
  unfold Lane.elapse at h ⊢
  split at h
  · -- A lane that waits is not over, so its sink is open.
    rename_i m rest hsource
    have hclosed : l.closed = true := by
      split at h
      · exact h
      · exact h
    rw [(hl hclosed).1] at hsource
    cases hsource
  · exact hl h

variable {o : Outlook} {l : Lane} {motion : Motion}

/-- A lane that does not fail still has its outlook, and its sink is shut down
only if it is over. These are the two facts that a round needs from the one before
it. -/
theorem Keeps.next (h : Keeps o (l, motion)) (hmotion : ∀ e, motion ≠ .failed e) :
    l.outlook = o ∧ (l.closed = true → l.IsOver) := by
  cases h with
  | failed => exact absurd rfl (hmotion _)
  | finished ho hl => exact ⟨hl.outlook_eq.trans ho.symm, fun _ => hl⟩
  | waiting hopen ho hsource => exact ⟨ho, fun h => absurd h hopen⟩

/-- A lane that is not done and does not wait for a known time stalls. So a relay
without a next time to wake up at has come to an end or will never come to one. -/
theorem Keeps.stalls (h : Keeps o (l, motion)) (hmotion : ∀ e, motion ≠ .failed e)
    (hdelay : l.delay? = none) : motion = .finished ∧ o = .over ∨ o = .stall := by
  cases h with
  | failed => exact absurd rfl (hmotion _)
  | finished ho hl => exact .inl ⟨rfl, ho⟩
  | waiting hopen ho hsource =>
    obtain ⟨n, rest, hwait⟩ | hstall := hsource
    · rw [delay?, hwait] at hdelay
      cases hdelay
    · exact .inr hstall

end Lane

/-! ### Relays -/

/-- How a relay ends whose lanes come to the given ends. -/
def Ends (up down : Outlook) : Ending → Prop
  | .finished => up = .over ∧ down = .over
  | .failed _ => up = .failure ∨ down = .failure
  | .stuck => up ≠ .failure ∧ down ≠ .failure ∧ ¬ (up = .over ∧ down = .over)

section

variable {up down : Outlook} {e : Ending}

/-- A relay is finished just if both lanes come to their ends. A failure of either
lane ends both, and a stall of one leaves the relay stuck. -/
theorem Ends.finished_iff (h : Ends up down e) : e = .finished ↔ up = .over ∧ down = .over := by
  cases e with
  | finished => exact iff_of_true rfl h
  | failed =>
    refine iff_of_false nofun ?_
    rintro ⟨rfl, rfl⟩
    obtain h | h := h <;> cases h
  | stuck => exact iff_of_false nofun h.2.2

/-- A relay hangs if nothing fails and one lane at least never comes to its end.
-/
theorem Ends.stuck_iff (h : Ends up down e) :
    e = .stuck ↔ up ≠ .failure ∧ down ≠ .failure ∧ ¬ (up = .over ∧ down = .over) := by
  cases e with
  | finished => exact iff_of_false nofun fun hstuck => hstuck.2.2 h
  | failed => exact iff_of_false nofun fun hstuck => h.elim hstuck.1 hstuck.2.1
  | stuck => exact iff_of_true rfl h

end

/-- If there is no next time for the relay, there is none for either lane. It is
the smaller of the two times, if there are any. -/
theorem delay?_eq_none {up down : Lane} (h : delay? up down = none) :
    up.delay? = none ∧ down.delay? = none := by
  unfold delay? at h
  split at h
  · cases h
  · cases h
  · rename_i hup
    exact ⟨hup, h⟩

/-- A relay ends as the outlooks of its lanes say. The outlooks stay what they are
from round to round, and the lanes are looked at only when the relay stops. -/
theorem ends_run (seconds : Nat) (up down : Lane) (hup : up.closed = true → up.IsOver)
    (hdown : down.closed = true → down.IsOver) :
    Ends up.outlook down.outlook (run seconds up down).ending := by
  -- The cases are: a lane fails, both are finished, nothing is waited for, another round.
  fun_induction run seconds up down with
  | case1 seconds up down up' e hu =>
    cases keeps_advance hup hu with
    | failed ho => exact .inl ho
  | case2 seconds up down up' _ _ hu down' e hd =>
    cases keeps_advance hdown hd with
    | failed ho => exact .inr ho
  | case3 seconds up down up' _ _ hu down' _ _ hd hfinished =>
    obtain ⟨rfl, rfl⟩ := hfinished
    cases keeps_advance hup hu with
    | finished ho hl =>
      cases keeps_advance hdown hd with
      | finished ho' hl' => exact ⟨ho, ho'⟩
  | case4 seconds up down up' _ hfailed hu down' _ hfailed' hd hunfinished hdelay =>
    obtain ⟨hdelay, hdelay'⟩ := delay?_eq_none hdelay
    have hstalls := (keeps_advance hup hu).stalls hfailed hdelay
    have hstalls' := (keeps_advance hdown hd).stalls hfailed' hdelay'
    -- Only a stall keeps a lane from its end here.
    obtain ⟨hmotion, hover⟩ | hstall := hstalls
    · obtain ⟨hmotion', -⟩ | hstall' := hstalls'
      · exact absurd ⟨hmotion, hmotion'⟩ hunfinished
      · rw [hover, hstall']
        simp [Ends]
    · obtain ⟨-, hover'⟩ | hstall' := hstalls'
      · rw [hstall, hover']
        simp [Ends]
      · rw [hstall, hstall']
        simp [Ends]
  | case5 seconds up down up' _ hfailed hu down' _ hfailed' hd _ n _ ih =>
    obtain ⟨houtlook, hnext⟩ := (keeps_advance hup hu).next hfailed
    obtain ⟨houtlook', hnext'⟩ := (keeps_advance hdown hd).next hfailed'
    have hends := ih (isOver_elapse hnext n) (isOver_elapse hnext' n)
    rwa [outlook_elapse, outlook_elapse, houtlook, houtlook'] at hends

/-- A relay between two streams ends as the outlooks of its lanes say. Both begin
with nothing to flush. -/
theorem ends_between (a b : Stream) :
    Ends (.ofSteps a.script b.outlet false) (.ofSteps b.script a.outlet false)
      (between a b).ending := by
  have hopen : ∀ l : Lane, l.closed = false → l.closed = true → l.IsOver := by
    intro l hfalse htrue
    rw [hfalse] at htrue
    cases htrue
  exact ends_run 0 (lanes a b).1 (lanes a b).2 (hopen _ rfl) (hopen _ rfl)

/-- A relay that is finished has moved every byte. How it got there is known from
the fairness of runs, once both lanes are known to come to their ends. -/
theorem complete_of_finished {a b : Stream} (h : (between a b).ending = .finished) :
    Complete (Script.bytes a.script) (Script.bytes b.script) (between a b) := by
  have hends := ends_between a b
  rw [h] at hends
  obtain ⟨hup, hdown⟩ := hends
  rw [Outlook.ofSteps_eq_over_iff] at hup hdown
  exact run_fair 0 _ _ ⟨⟨hup.1, hup.2⟩, rfl⟩ ⟨⟨hdown.1, hdown.2⟩, rfl⟩

/-- How a relay ends does not depend on when the bytes of a smooth stream come. A
failure is left out: which of two failures is met first may well depend on it. -/
theorem ends_alike {a a' : Stream} (b : Stream) (hsmooth : a.script.IsSmooth)
    (hsmooth' : a'.script.IsSmooth) (hbytes : Script.bytes a.script = Script.bytes a'.script)
    (houtlet : a.outlet = a'.outlet) :
    ((between a b).ending = .finished ↔ (between a' b).ending = .finished) ∧
      ((between a b).ending = .stuck ↔ (between a' b).ending = .stuck) := by
  have hends := ends_between a b
  have hends' := ends_between a' b
  rw [Outlook.ofSteps_of_isSmooth hsmooth hsmooth' hbytes, houtlet] at hends
  exact ⟨hends.finished_iff.trans hends'.finished_iff.symm,
    hends.stuck_iff.trans hends'.stuck_iff.symm⟩

end Relay

end Socks5
