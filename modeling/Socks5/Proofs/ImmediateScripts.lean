import Socks5.Proofs.RelayEnding
import Socks5.Proofs.RunsUnderDeadline

/-!
# `Socks5.Proofs.ImmediateScripts`: sources whose bytes are all there

A script that consists of bytes only makes nobody wait. It does not matter in
how many pieces the bytes come, not even to a relay that fails.

* `Script.IsBytes`: such scripts. They stay so while they are read.
* `Lane.moveThrough_eq_fill`: a lane writes all of its source at once, or
  fails on the way. Only what is left of the source depends on the pieces.
* `between_eq_of_bytes`: so relays for the same bytes do the same.
-/

set_option autoImplicit false

namespace Socks5

open Net Dialogue

variable {α : Type}

/-! ### Scripts of bytes -/

namespace Script

/-- Whether a script brings bytes and does nothing else. -/
def IsBytes (script : Script) : Prop := ∀ step ∈ script, ∃ bs, step = .bytes bs

/-- A script brings bytes only if its first step and the others do. -/
theorem isBytes_cons {step : Step} {rest : Script} :
    IsBytes (step :: rest) ↔ (∃ bs, step = .bytes bs) ∧ rest.IsBytes := List.forall_mem_cons

variable {script : Script}

/-- Bytes that are there disturb nobody. -/
theorem IsBytes.isSmooth (h : script.IsBytes) : script.IsSmooth := by
  intro step hstep
  obtain ⟨bs, rfl⟩ := h step hstep
  trivial

/-- There is nothing to wait for in such a script. -/
theorem IsBytes.waits_eq (h : script.IsBytes) : waits script = 0 := by
  induction script with
  | nil => rfl
  | cons step rest ih =>
    obtain ⟨⟨bs, rfl⟩, hrest⟩ := isBytes_cons.mp h
    exact ih hrest

/-- What a draw leaves of bytes are bytes. A segment may be cut in two, and both
parts are segments. -/
theorem IsBytes.rest_draw {deadline : Option Nat} {n clock : Nat} (h : script.IsBytes) :
    (draw deadline n clock script).rest.IsBytes := by
  fun_induction draw deadline n clock script <;> simp_all [isBytes_cons, Draw.after]

end Script

/-- What a run leaves of bytes are bytes. A script is only touched by reading. -/
theorem isBytes_run (connector : Connector) (x : Dialogue α) (s : Scene)
    (h : s.stream.script.IsBytes) : (run connector x s).scene.stream.script.IsBytes :=
  run_keeps connector (P := fun s => s.stream.script.IsBytes) (fun _ _ hs => hs.rest_draw)
    (fun _ _ hs => hs) (fun _ _ _ _ hs => hs) (fun _ _ _ _ _ hs => hs) x s h

/-- A dialogue that reads bytes takes no time. All time that a plain dialogue
takes is spent in the waits of its script. -/
theorem clock_run_of_bytes (connector : Connector) {x : Dialogue α} (hx : x.Plain) {s : Scene}
    (hs : s.deadline = none) (hbytes : s.stream.script.IsBytes) :
    (run connector x s).scene.clock = s.clock := by
  have hsum := hx.clock_add_waits_run connector hs
  have hrest := isBytes_run connector x s hbytes
  rw [hbytes.waits_eq, hrest.waits_eq] at hsum
  exact hsum

/-! ### Lanes -/

/-- Bytes are written together as they are written one part after the other. This
holds of an outlet that refuses in the middle, too: then the second part is never
tried. -/
theorem Outlet.write_append (o : Outlet) (bs bs' : Bytes) :
    o.write (bs ++ bs') = match o.write bs with
      | (sent, .ok (), o) => (sent ++ (o.write bs').1, (o.write bs').2)
      | r => r := by
  unfold Outlet.write
  cases hroom : o.room with
  | none => simp [hroom]
  | some room =>
    dsimp only
    by_cases hfit : bs.length ≤ room
    · rw [if_pos hfit]
      -- The first part fits. What is left of the room decides about the second part as
      -- the whole room does about both.
      by_cases hall : (bs ++ bs').length ≤ room
      · have hrest : bs'.length ≤ room - bs.length := by
          rw [List.length_append] at hall
          omega
        rw [if_pos hall]
        simp [hrest, Nat.sub_add_eq]
      · have hrest : ¬ bs'.length ≤ room - bs.length := by
          rw [List.length_append] at hall
          omega
        rw [if_neg hall]
        simp [hrest, List.take_append, List.take_of_length_le hfit]
    · -- The first part is cut already, at the same place as both parts together.
      have hall : ¬ (bs ++ bs').length ≤ room := by
        rw [List.length_append]
        omega
      rw [if_neg hfit, if_neg hall]
      simp [List.take_append_of_le_length (Nat.le_of_not_le hfit)]

/-- Writing nothing succeeds, even if there is no room. -/
@[simp] theorem Outlet.write_nil (o : Outlet) : o.write [] = ([], .ok (), o) := by
  obtain ⟨room, refusal, flushFault⟩ := o
  cases room <;> simp [Outlet.write]

namespace Relay

namespace Lane

/-- The lane after writing some bytes, with nothing left of its source. -/
def written (l : Lane) (bs : Bytes) : Lane :=
  { l with
    source := []
    sink := (l.sink.write bs).2.2
    moved := l.moved ++ (l.sink.write bs).1
    unflushed := l.unflushed || !(l.sink.write bs).1.isEmpty }

/-- Writes all bytes of a source that ends then. -/
def fill (l : Lane) (bs : Bytes) : Lane × Motion :=
  match (l.sink.write bs).2.1 with
  | .ok () => (l.written bs).finish
  | .error e => (l.written bs, .failed e)

/-- The same move, with something else left of the source. -/
def leaving (source : Script) (r : Lane × Motion) : Lane × Motion := ({ r.1 with source }, r.2)

/-- What a lane has written of two parts, it has written of them together. The
first part must have been accepted, or else the second one would not have been
written. -/
theorem written_append {l : Lane} {bs : Bytes} (h : (l.sink.write bs).2.1 = .ok ())
    (bs' : Bytes) : l.written (bs ++ bs') = (l.written bs).written bs' := by
  rcases hwrite : l.sink.write bs with ⟨sent, r, sink⟩
  rw [hwrite] at h
  obtain rfl : r = .ok () := h
  simp [written, Outlet.write_append, hwrite, Bool.or_assoc, List.append_assoc]
  cases sent <;> simp

/-- Filling with two parts is filling with the second one after the first was
accepted. -/
theorem fill_append_of_ok {l : Lane} {bs : Bytes} (h : (l.sink.write bs).2.1 = .ok ())
    (bs' : Bytes) : l.fill (bs ++ bs') = (l.written bs).fill bs' := by
  have hoverall : (l.sink.write (bs ++ bs')).2.1 = ((l.written bs).sink.write bs').2.1 := by
    rcases hwrite : l.sink.write bs with ⟨sent, r, sink⟩
    rw [hwrite] at h
    obtain rfl : r = .ok () := h
    simp [Outlet.write_append, written, hwrite]
  rw [fill, fill, hoverall, written_append h]

/-- If the first part is refused, the second one plays no part. The lane has
failed, and what it has moved is what the first part got through. -/
theorem fill_append_of_error {l : Lane} {bs : Bytes} {e : IoError}
    (h : (l.sink.write bs).2.1 = .error e) (bs' : Bytes) :
    l.fill (bs ++ bs') = (l.written bs, .failed e) := by
  have hoverall : l.sink.write (bs ++ bs') = l.sink.write bs := by
    rcases hwrite : l.sink.write bs with ⟨sent, r, sink⟩
    rw [hwrite] at h
    obtain rfl : r = .error e := h
    rw [Outlet.write_append, hwrite]
  rw [fill, written, written, hoverall, h]

/-- At the end of its source a lane leaves nothing of it. -/
theorem leaving_finish {l : Lane} (h : l.source = []) : leaving [] l.finish = l.finish := by
  have hsource : l.finish.1.source = [] := (source_finish l).trans h
  rw [leaving, ← hsource]

/-- A segment is written, and then the lane goes on or fails. What it had taken
beyond what it could write is lost, in portions of the size that the relay reads.
-/
theorem moveThrough_bytes (bs : Bytes) (rest : Script) (l : Lane) :
    moveThrough (.bytes bs :: rest) l = match (l.sink.write bs).2.1 with
      | .ok () => moveThrough rest { l.written bs with source := l.source }
      | .error e => leaving (.bytes (bs.drop (takenBefore (l.sink.write bs).1.length)) :: rest)
          (l.written bs, .failed e) := by
  rw [moveThrough]
  rcases hwrite : l.sink.write bs with ⟨sent, r, sink⟩
  cases r <;> simp [written, leaving, hwrite]

/-- A lane writes all of its source. Only what is left of the source when it fails
depends on the pieces: bytes that were taken in one piece with those that fail are
gone as well. -/
theorem moveThrough_eq_fill {steps : Script} (h : steps.IsBytes) (l : Lane) :
    ∃ source, moveThrough steps l = leaving source (l.fill (Script.bytes steps)) ∧
      ((∃ e, (l.fill (Script.bytes steps)).2 = .failed e) ∨ source = []) := by
  induction steps generalizing l with
  | nil =>
    have hfill : l.fill (Script.bytes []) = { l with source := [] }.finish := by
      simp [fill, written, Script.bytes]
    refine ⟨[], ?_, .inr rfl⟩
    rw [hfill, leaving_finish rfl, moveThrough]
  | cons step rest ih =>
    obtain ⟨⟨bs, rfl⟩, hrest⟩ := Script.isBytes_cons.mp h
    rw [Script.bytes]
    cases hr : (l.sink.write bs).2.1 with
    | ok u =>
      -- What is left of the source plays no part in what is written.
      obtain ⟨source, hmove, hleft⟩ := ih hrest { l.written bs with source := l.source }
      have hfill : Lane.fill { l.written bs with source := l.source } (Script.bytes rest)
          = l.fill (bs ++ Script.bytes rest) := (fill_append_of_ok hr _).symm
      rw [hfill] at hmove hleft
      refine ⟨source, ?_, hleft⟩
      rw [← hmove, moveThrough_bytes, hr]
    | error e =>
      rw [fill_append_of_error hr]
      refine ⟨.bytes (bs.drop (takenBefore (l.sink.write bs).1.length)) :: rest, ?_,
        .inl ⟨e, rfl⟩⟩
      rw [moveThrough_bytes, hr]

end Lane

/-! ### Relays -/

open Lane

/-- The outcome with something else left of the source that goes up. -/
def Outcome.leaving (source : Script) (o : Outcome) : Outcome :=
  { o with up := { o.up with source } }

/-- A relay that begins with a failure of its upper lane ends with it, and the
other lane has not had a turn. -/
theorem run_of_failed {seconds : Nat} {up up' down : Lane} {e : IoError}
    (h : up.advance = (up', .failed e)) :
    run seconds up down = ⟨up', down, seconds, .failed e⟩ := by
  rw [run]
  split
  · rename_i heq
    cases h.symm.trans heq
    rfl
  · rename_i hne heq
    cases h.symm.trans heq
    exact (hne e rfl).elim

/-- A relay looks at its upper lane only when it moves on. So two lanes that move
on alike are as good as the same. -/
theorem run_congr {up up' : Lane} (h : up.advance = up'.advance) (seconds : Nat) (down : Lane) :
    run seconds up down = run seconds up' down := by
  rw [run.eq_def seconds up, run.eq_def seconds up', h]

/-- A relay whose upper lane has all of its bytes does the same as one that has
the same bytes in other pieces. After the first move both lanes are either failed
or empty. -/
theorem run_eq_of_bytes {steps steps' : Script} (h : steps.IsBytes) (h' : steps'.IsBytes)
    (hbytes : Script.bytes steps = Script.bytes steps') (seconds : Nat) (sink : Outlet)
    (down : Lane) :
    ∃ source, run seconds { source := steps', sink } down
      = (run seconds { source := steps, sink } down).leaving source := by
  obtain ⟨source, hmove, hleft⟩ := moveThrough_eq_fill h { source := steps, sink }
  obtain ⟨source', hmove', hleft'⟩ := moveThrough_eq_fill h' { source := steps', sink }
  have hfill : Lane.fill { source := steps', sink } (Script.bytes steps')
      = Lane.fill { source := steps, sink } (Script.bytes steps) := by rw [hbytes]; rfl
  rw [hfill] at hmove' hleft'
  generalize Lane.fill { source := steps, sink } (Script.bytes steps) = filled at *
  obtain ⟨up, motion⟩ := filled
  by_cases hfailed : ∃ e, motion = .failed e
  · obtain ⟨e, rfl⟩ := hfailed
    refine ⟨source', ?_⟩
    have hrun : run seconds { source := steps, sink } down = ⟨_, down, seconds, .failed e⟩ :=
      run_of_failed hmove
    have hrun' : run seconds { source := steps', sink } down = ⟨_, down, seconds, .failed e⟩ :=
      run_of_failed hmove'
    rw [hrun, hrun']
    rfl
  · -- Both lanes have come to their end, and are the same there.
    obtain rfl := hleft.resolve_left hfailed
    obtain rfl := hleft'.resolve_left hfailed
    have hsame : Lane.advance { source := steps', sink } = Lane.advance { source := steps, sink } :=
      hmove'.trans hmove.symm
    refine ⟨(run seconds { source := steps, sink } down).up.source, ?_⟩
    rw [run_congr hsame]
    rfl

/-- Relays for the same bytes do the same, whatever the remote side does. What is
left of the source may differ, but nobody looks at it any more. -/
theorem between_eq_of_bytes {a b : Stream} (ha : a.script.IsBytes) (hb : b.script.IsBytes)
    (hbytes : Script.bytes a.script = Script.bytes b.script) (houtlet : a.outlet = b.outlet)
    (remote : Stream) :
    ∃ source, between b remote = (between a remote).leaving source := by
  unfold between lanes
  rw [← houtlet]
  exact run_eq_of_bytes ha hb hbytes 0 remote.outlet _

end Relay

end Socks5
