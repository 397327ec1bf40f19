import Socks5.Proofs.PossibleRuns
import Socks5.Relay

/-!
# `Socks5.Proofs.Relay`: a relay moves every byte

A lane passes if its source neither fails nor stalls and its sink has room
for all that is to come. `Lane.Fair` keeps the books of such a direction:
the bytes that were moved and the bytes that are still to come are always
the same bytes.

* `Lane.fair_moveThrough`: one move keeps the books, and the lane is done
  or waits for a known time.
* `run_fair`: a relay of fair lanes comes to its end, with all bytes moved
  and both sinks shut down.
-/

set_option autoImplicit false

namespace Socks5

open Net

/-! ### Clean streams -/

/-- Whether a step neither fails nor stalls. -/
def Step.IsSmooth : Step → Prop
  | .bytes _ | .wait _ => True
  | .fault _ | .stall => False

/-- Whether a step lets a reader go on. -/
def Step.IsPassable : Step → Prop
  | .bytes _ | .wait _ => True
  | .fault e => e.isInterruption = true
  | .stall => False

namespace Script

/-- Whether a script delivers bytes and waits, and does nothing else. -/
def IsSmooth (script : Script) : Prop := ∀ step ∈ script, step.IsSmooth

/-- A script is smooth step by step. -/
theorem isSmooth_cons {step : Step} {rest : Script} :
    IsSmooth (step :: rest) ↔ step.IsSmooth ∧ rest.IsSmooth := List.forall_mem_cons

/-- Whether a reader gets to the end of a script. -/
def IsPassable (script : Script) : Prop := ∀ step ∈ script, step.IsPassable

/-- A reader gets to the end of an empty script at once. -/
theorem isPassable_nil : IsPassable [] := by simp [IsPassable]

/-- A script is passable step by step. -/
theorem isPassable_cons {step : Step} {rest : Script} :
    IsPassable (step :: rest) ↔ step.IsPassable ∧ rest.IsPassable := List.forall_mem_cons

/-- What neither fails nor stalls lets a reader pass. The converse fails, since
interruptions are passed over. -/
theorem IsSmooth.isPassable {script : Script} (h : script.IsSmooth) : script.IsPassable := by
  intro step hstep
  cases step with
  | bytes | wait => trivial
  | fault | stall => exact (h _ hstep).elim

/-- What a draw leaves of a smooth script is smooth, even if a deadline has cut a
wait in two. -/
theorem IsSmooth.rest_draw {deadline : Option Nat} {n clock : Nat} {script : Script}
    (h : script.IsSmooth) : (draw deadline n clock script).rest.IsSmooth := by
  fun_induction draw deadline n clock script <;>
    simp_all [isSmooth_cons, Step.IsSmooth, Draw.after]

end Script

/-- Whether a stream delivers bytes and waits, and takes every write. -/
structure Stream.IsClean (s : Stream) : Prop where
  smooth : s.script.IsSmooth
  sure : s.outlet.Sure

/-- A run leaves a smooth script smooth, so a tunnel that opens behind it has a
source that comes to its end. -/
theorem isSmooth_run {α : Type} (connector : Connector) (x : Dialogue α) (s : Scene)
    (h : s.stream.script.IsSmooth) : (x.run connector s).scene.stream.script.IsSmooth :=
  Dialogue.run_keeps connector (P := fun s => s.stream.script.IsSmooth)
    (fun _ _ hs => hs.rest_draw) (fun _ _ hs => hs) (fun _ _ _ _ hs => hs)
    (fun _ _ _ _ _ hs => hs) x s h

/-- A run leaves a clean stream clean. -/
theorem isClean_run {α : Type} (connector : Connector) (x : Dialogue α) (s : Scene)
    (h : s.stream.IsClean) : (x.run connector s).scene.stream.IsClean :=
  ⟨isSmooth_run connector x s h.smooth, Dialogue.sure_run connector x s h.sure⟩

/-! ### Outlets with room -/

namespace Outlet

/-- Whether so many bytes can be written, and everything flushed. -/
structure Takes (o : Outlet) (n : Nat) : Prop where
  room : ∀ room, o.room = some room → n ≤ room
  flush : o.flush = .ok ()

/-- A sure outlet has room for any number of bytes. -/
theorem Sure.takes {o : Outlet} (h : o.Sure) (n : Nat) : o.Takes n := by
  obtain ⟨hroom, hflush⟩ := h
  exact ⟨by simp [hroom], by rw [flush, hflush]⟩

/-- There is room for some bytes and more to come just if the bytes are written
and there is room for the rest then. So the room for a whole source is used up
segment by segment. -/
theorem takes_add_iff {o : Outlet} (bs : Bytes) (n : Nat) :
    o.Takes (bs.length + n) ↔ ∃ o', o.write bs = (bs, .ok (), o') ∧ o'.Takes n := by
  unfold write
  cases hroom : o.room with
  | none =>
    constructor
    · intro h
      exact ⟨o, rfl, by simp [hroom], h.flush⟩
    · -- An outlet without a limit is left as it was.
      rintro ⟨_, h, htakes⟩
      cases h
      exact ⟨by simp [hroom], htakes.flush⟩
  | some room =>
    constructor
    · intro h
      have hfit := h.room room hroom
      refine ⟨{ o with room := some (room - bs.length) }, if_pos (by omega), ?_, h.flush⟩
      rintro _ ⟨⟩
      omega
    · rintro ⟨o', h, htakes⟩
      dsimp only at h
      split at h
      · cases h
        -- What was written is known to fit, and what is to come fits into the rest.
        have hfit := htakes.room _ rfl
        refine ⟨?_, htakes.flush⟩
        intro room' hroom'
        cases hroom.symm.trans hroom'
        omega
      · simp at h

end Outlet

namespace Relay

namespace Lane

/-- Whether all that is to come of a source finds its way into the sink. -/
structure Passes (l : Lane) : Prop where
  passable : l.source.IsPassable
  takes : l.sink.Takes (Script.bytes l.source).length

/-- The books of a lane that passes: what was moved and what is still to
come make up the given bytes. -/
structure Fair (all : Bytes) (l : Lane) : Prop extends Passes l where
  books : l.moved ++ Script.bytes l.source = all

/-- A lane between clean streams is fair, whatever it has moved already. -/
theorem fair_of_clean {all : Bytes} {l : Lane} (hsmooth : l.source.IsSmooth) (hsure : l.sink.Sure)
    (hbooks : l.moved ++ Script.bytes l.source = all) : Fair all l where
  passable := hsmooth.isPassable
  takes := hsure.takes _
  books := hbooks

/-- How a fair lane stops: it is done and has shut its sink down, or its
source goes on after some seconds. -/
inductive Rests : Lane × Motion → Prop where
  | finished {l : Lane} (hsource : l.source = []) (hclosed : l.closed = true) :
      Rests (l, .finished)
  | waiting {l : Lane} {n : Nat} {rest : Script} (hsource : l.source = .wait n :: rest) :
      Rests (l, .waiting)

/-- At the end of its source a lane shuts its sink down. It may have done so
before, if the other lane took longer. -/
theorem rests_finish {all : Bytes} {l : Lane} (hl : Fair all l) (hsource : l.source = []) :
    Fair all l.finish.1 ∧ Rests l.finish := by
  unfold finish
  by_cases hclosed : l.closed = true
  · rw [if_pos hclosed]
    exact ⟨hl, .finished hsource hclosed⟩
  · rw [if_neg hclosed, hl.takes.flush]
    exact ⟨⟨⟨hl.passable, hl.takes⟩, hl.books⟩, .finished hsource rfl⟩

/-- Before a wait a lane stops, and the wait is still before it. Whether anything
had to be flushed makes no difference. -/
theorem rests_pause {all : Bytes} {l : Lane} {n : Nat} {rest : Script} (hl : Fair all l)
    (hsource : l.source = .wait n :: rest) : Fair all l.pause.1 ∧ Rests l.pause := by
  unfold pause
  rw [hl.takes.flush]
  cases l.unflushed with
  | true => exact ⟨⟨⟨hl.passable, hl.takes⟩, hl.books⟩, .waiting hsource⟩
  | false => exact ⟨⟨⟨hl.passable, hl.takes⟩, hl.books⟩, .waiting hsource⟩

/-- One move of a lane. The lane's own source plays no part in it: the steps are
what is still to come, and the books are kept over them. -/
theorem fair_moveThrough {all : Bytes} (steps : Script) (l : Lane) (hpass : steps.IsPassable)
    (htakes : l.sink.Takes (Script.bytes steps).length)
    (hbooks : l.moved ++ Script.bytes steps = all) :
    Fair all (moveThrough steps l).1 ∧ Rests (moveThrough steps l) := by
  -- The books run over the steps that are left, so the lane varies.
  induction steps generalizing l with
  | nil => exact rests_finish ⟨⟨Script.isPassable_nil, htakes⟩, hbooks⟩ rfl
  | cons step rest ih =>
    obtain ⟨hstep, hrest⟩ := Script.isPassable_cons.mp hpass
    cases step with
    | bytes bs =>
      have hlength : (Script.bytes (.bytes bs :: rest)).length
          = bs.length + (Script.bytes rest).length := List.length_append
      rw [hlength] at htakes
      obtain ⟨sink, hwrite, htakes⟩ := (Outlet.takes_add_iff bs _).mp htakes
      simp only [moveThrough, hwrite]
      refine ih _ hrest htakes ?_
      rw [List.append_assoc]
      exact hbooks
    | wait n =>
      cases n with
      | zero => exact ih l hrest htakes hbooks
      | succ n => exact rests_pause ⟨⟨hpass, htakes⟩, hbooks⟩ rfl
    | fault e =>
      have hinterruption : e.isInterruption = true := hstep
      rw [moveThrough, if_pos hinterruption]
      exact ih l hrest htakes hbooks
    | stall => exact hstep.elim

variable {all : Bytes} {l : Lane}

/-- A fair lane that moves on is fair, and done or waiting for a known time. -/
theorem Fair.advance (hl : Fair all l) {l' : Lane} {motion : Motion}
    (h : l.advance = (l', motion)) : Fair all l' ∧ Rests (l', motion) := by
  have hmove : Fair all l.advance.1 ∧ Rests l.advance :=
    fair_moveThrough l.source l hl.passable hl.takes hl.books
  rwa [h] at hmove

/-- Time that passes moves no bytes. It makes a wait shorter, or it uses it up,
and neither changes what the source has left or what the sink takes. -/
theorem Fair.elapse (hl : Fair all l) (n : Nat) : Fair all (l.elapse n) := by
  unfold Lane.elapse
  split
  · rename_i m rest hsource
    have hbytes : Script.bytes l.source = Script.bytes rest := by rw [hsource, Script.bytes]
    have htakes : l.sink.Takes (Script.bytes rest).length := hbytes ▸ hl.takes
    have hbooks : l.moved ++ Script.bytes rest = all := hbytes ▸ hl.books
    obtain ⟨-, hrest⟩ := Script.isPassable_cons.mp (hsource ▸ hl.passable)
    split
    · exact ⟨⟨hrest, htakes⟩, hbooks⟩
    · exact ⟨⟨Script.isPassable_cons.mpr ⟨trivial, hrest⟩, htakes⟩, hbooks⟩
  · exact hl

/-- A lane at the end of its source has moved everything. -/
theorem Fair.moved_eq (hl : Fair all l) (hsource : l.source = []) : l.moved = all := by
  rw [← hl.books, hsource]
  exact (List.append_nil _).symm

end Lane

open Lane

/-- How a relay between clean streams ends: every byte was moved and both
sinks are shut down. -/
structure Complete (a b : Bytes) (o : Outcome) : Prop where
  ending : o.ending = .finished
  up_moved : o.up.moved = a
  down_moved : o.down.moved = b
  up_source : o.up.source = []
  up_closed : o.up.closed = true
  down_closed : o.down.closed = true

/-- A relay of fair lanes comes to its end. The induction is the recursion of the
relay; fair lanes exclude its failures and its silence, since whoever is not done
waits for a known time. -/
theorem run_fair {a b : Bytes} (seconds : Nat) (up down : Lane) (hup : Fair a up)
    (hdown : Fair b down) : Complete a b (run seconds up down) := by
  fun_induction run seconds up down with
  | case1 seconds up down up' e hu =>
    -- A fair lane does not fail.
    cases (hup.advance hu).2
  | case2 seconds up down up' motion _ _ down' e hd =>
    cases (hdown.advance hd).2
  | case3 seconds up down up' _ _ hu down' _ _ hd hfinished =>
    obtain ⟨rfl, rfl⟩ := hfinished
    obtain ⟨hup', hrests⟩ := hup.advance hu
    obtain ⟨hdown', hrests'⟩ := hdown.advance hd
    cases hrests with
    | finished hsource hclosed =>
      cases hrests' with
      | finished hsource' hclosed' =>
        exact ⟨rfl, hup'.moved_eq hsource, hdown'.moved_eq hsource', hsource, hclosed, hclosed'⟩
  | case4 seconds up down up' _ _ hu down' _ _ hd hunfinished hdelay =>
    -- Whoever is not done waits, so some time helps.
    exfalso
    cases (hup.advance hu).2 with
    | finished =>
      cases (hdown.advance hd).2 with
      | finished => exact hunfinished ⟨rfl, rfl⟩
      | waiting hsource =>
        unfold delay? Lane.delay? at hdelay
        rw [hsource] at hdelay
        split at hdelay <;> simp_all
    | waiting hsource =>
      unfold delay? Lane.delay? at hdelay
      rw [hsource] at hdelay
      split at hdelay <;> simp_all
  | case5 seconds up down up' _ _ hu down' _ _ hd _ n _ ih =>
    exact ih ((hup.advance hu).1.elapse n) ((hdown.advance hd).1.elapse n)

/-- A relay between clean streams comes to its end, with all bytes moved both
ways. -/
theorem between_isClean {a b : Stream} (ha : a.IsClean) (hb : b.IsClean) :
    Complete (Script.bytes a.script) (Script.bytes b.script) (between a b) :=
  run_fair 0 _ _ (fair_of_clean ha.smooth hb.sure rfl) (fair_of_clean hb.smooth ha.sure rfl)

end Relay

end Socks5
