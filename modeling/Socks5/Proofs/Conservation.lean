import Socks5.Proofs.RelayEnding

/-!
# `Socks5.Proofs.Conservation`: what a relay does with the bytes

A relay may end in the middle of anything: a read fails, a write is refused, a
source never goes on. Nothing is assumed of the two streams here.

* `Lane.Books`: what was moved and what is still to come are always the same
  bytes, and a sink is shut down at the end of the source only.
* `Lane.halts_moveThrough`: one move keeps the books. If it fails, only the
  bytes that were delivered count.
* `accounts_run`: so each side has a front of what the other one sent, and has
  all of it before it is shut down.
* `relay_conserves`: and what it means that a relay is finished.
-/

set_option autoImplicit false

namespace Socks5

open Net

/-- What a write delivers is the front of what was written. A write that succeeds
delivers all of it, and one that fails may still have delivered some. -/
theorem Outlet.write_prefix (o : Outlet) (bs : Bytes) : (o.write bs).1 <+: bs := by
  unfold write
  split
  · exact List.prefix_refl bs
  · split
    · exact List.prefix_refl bs
    · exact List.take_prefix _ bs

namespace Relay

namespace Lane

/-- The books of a lane: what was moved and what is still to come make up the
given bytes, and nothing is to come once the sink is shut down. -/
structure Books (all : Bytes) (l : Lane) : Prop where
  moved : l.moved ++ Script.bytes l.source = all
  closed : l.closed = true → l.source = []

/-- What the far end has of the given bytes: a front, and all of them if its
stream was shut down. -/
structure Accounts (all : Bytes) (l : Lane) : Prop where
  front : l.moved <+: all
  whole : l.closed = true → l.moved = all

/-- Books that are kept give the account that is owed to the far end. What is
still to come is left out of the account, and there is nothing of it once the sink
is shut down. -/
theorem Books.accounts {all : Bytes} {l : Lane} (hl : Books all l) : Accounts all l := by
  refine ⟨⟨_, hl.moved⟩, ?_⟩
  intro hclosed
  rw [← hl.moved, hl.closed hclosed]
  exact (List.append_nil l.moved).symm

/-- How a lane stops. One that fails has lost what it took and did not deliver,
so its books are not kept. -/
inductive Halts (all : Bytes) : Lane × Motion → Prop where
  | failed {l : Lane} {e : IoError} (hl : Accounts all l) : Halts all (l, .failed e)
  | kept {l : Lane} {motion : Motion} (hl : Books all l) : Halts all (l, motion)

variable {all : Bytes} {l : Lane}

/-- At the end of its source a lane shuts its sink down. This is the one place
where a sink is shut down, and `hsource` is what makes it right. -/
theorem halts_finish (hl : Books all l) (hsource : l.source = []) : Halts all l.finish := by
  unfold finish
  split
  · exact .kept hl
  · split
    · exact .kept hl
    · exact .kept ⟨hl.moved, fun _ => hsource⟩

/-- A lane that has to wait may flush its sink, which moves no bytes. -/
theorem halts_pause (hl : Books all l) : Halts all l.pause := by
  unfold pause
  split
  · exact .kept hl
  · exact .kept ⟨hl.moved, hl.closed⟩

/-- One move of a lane. The lane's own source plays no part in it: the steps are
what is still to come. The books are kept at every step but one, a write that
fails: the segment has been taken from the source then and only a part of it has
arrived. -/
theorem halts_moveThrough (steps : Script) (l : Lane) (hmoved : l.moved ++ Script.bytes steps = all)
    (hclosed : l.closed = true → steps = []) : Halts all (moveThrough steps l) := by
  induction steps generalizing l with
  | nil => exact halts_finish ⟨hmoved, fun _ => rfl⟩ rfl
  | cons step rest ih =>
    -- A sink that is shut down has nothing before it.
    have hopen : ∀ {P : Prop}, l.closed = true → P := fun h =>
      (List.cons_ne_nil _ _ (hclosed h)).elim
    cases step with
    | bytes bs =>
      have hfront := l.sink.write_prefix bs
      rw [moveThrough]
      rcases hwrite : l.sink.write bs with ⟨sent, r, sink⟩
      rw [hwrite] at hfront
      cases r with
      | ok u =>
        obtain rfl := Outlet.write_of_ok hwrite
        refine ih _ ?_ hopen
        show l.moved ++ sent ++ Script.bytes rest = all
        rw [List.append_assoc]
        exact hmoved
      | error e =>
        refine .failed ⟨?_, hopen⟩
        show l.moved ++ sent <+: all
        have hbytes : bs <+: Script.bytes (.bytes bs :: rest) := List.prefix_append bs _
        rw [← hmoved]
        exact (List.prefix_append_right_inj l.moved).mpr (hfront.trans hbytes)
    | wait n =>
      cases n with
      | zero => exact ih l hmoved hopen
      | succ n => exact halts_pause ⟨hmoved, hopen⟩
    | fault e =>
      rw [moveThrough]
      split
      · exact ih l hmoved hopen
      · exact .failed ⟨⟨_, hmoved⟩, hopen⟩
    | stall => exact halts_pause ⟨hmoved, hopen⟩

/-- One move from the lane's own source keeps the books, or fails with the
account. -/
theorem Books.advance (hl : Books all l) {l' : Lane} {motion : Motion}
    (h : l.advance = (l', motion)) : Halts all (l', motion) := by
  have hhalts : Halts all l.advance := halts_moveThrough l.source l hl.moved hl.closed
  rwa [h] at hhalts

/-- Time that passes moves no bytes. A wait becomes shorter or is over, and waits
have no bytes in them. -/
theorem Books.elapse (hl : Books all l) (n : Nat) : Books all (l.elapse n) := by
  unfold Lane.elapse
  split
  · rename_i m rest hsource
    have hopen : ∀ {P : Prop}, l.closed = true → P := by
      intro P hclosed
      rw [hl.closed hclosed] at hsource
      cases hsource
    have hmoved : l.moved ++ Script.bytes rest = all := by
      rw [← hl.moved, hsource]
      rfl
    split
    · exact ⟨hmoved, hopen⟩
    · exact ⟨hmoved, hopen⟩
  · exact hl

/-- However a lane stops, its account is right. -/
theorem Halts.accounts {motion : Motion} (h : Halts all (l, motion)) : Accounts all l := by
  cases h with
  | failed hl => exact hl
  | kept hl => exact hl.accounts

/-- A lane that has not failed still keeps its books, and can go on. -/
theorem Halts.books {motion : Motion} (h : Halts all (l, motion))
    (hmotion : ∀ e, motion ≠ .failed e) : Books all l := by
  cases h with
  | failed => exact absurd rfl (hmotion _)
  | kept hl => exact hl

end Lane

open Lane

/-- Whatever a relay comes to, each side has a front of what the other one sent.
Both lanes keep their books as long as neither fails, and a lane that fails ends
the relay for both. -/
theorem accounts_run {a b : Bytes} (seconds : Nat) (up down : Lane) (hup : Books a up)
    (hdown : Books b down) :
    Accounts a (run seconds up down).up ∧ Accounts b (run seconds up down).down := by
  fun_induction run seconds up down with
  | case1 seconds up down up' e hu =>
    -- The second lane had no turn.
    exact ⟨(hup.advance hu).accounts, hdown.accounts⟩
  | case2 seconds up down up' _ _ hu down' e hd =>
    exact ⟨(hup.advance hu).accounts, (hdown.advance hd).accounts⟩
  | case3 seconds up down up' _ _ hu down' _ _ hd _ =>
    exact ⟨(hup.advance hu).accounts, (hdown.advance hd).accounts⟩
  | case4 seconds up down up' _ _ hu down' _ _ hd _ _ =>
    exact ⟨(hup.advance hu).accounts, (hdown.advance hd).accounts⟩
  | case5 seconds up down up' _ hfailed hu down' _ hfailed' hd _ n _ ih =>
    have hup' := (hup.advance hu).books hfailed
    have hdown' := (hdown.advance hd).books hfailed'
    exact ih (hup'.elapse n) (hdown'.elapse n)

/-- The accounts of a relay from its beginning: nothing has been moved yet, and
both sinks are open. -/
theorem accounts_between (a b : Stream) :
    Accounts (Script.bytes a.script) (between a b).up ∧
      Accounts (Script.bytes b.script) (between a b).down :=
  accounts_run 0 _ _ ⟨rfl, nofun⟩ ⟨rfl, nofun⟩

/-- A relay is finished just if both sources come to their ends and both sinks
have room for all that comes. The two directions do not touch each other, so the
condition is one for each. -/
theorem finished_iff (a b : Stream) :
    (between a b).ending = .finished ↔
      (a.script.IsPassable ∧ b.outlet.Takes (Script.bytes a.script).length) ∧
        b.script.IsPassable ∧ a.outlet.Takes (Script.bytes b.script).length := by
  rw [(ends_between a b).finished_iff, Outlook.ofSteps_eq_over_iff, Outlook.ofSteps_eq_over_iff]

/-- A relay keeps all bytes and closes each direction by itself. Take any two
streams, whatever happens at their ends. Each side has received a front of what
the other one sent, and all of it if it was shut down. A relay that is finished
has delivered every byte either way, has shut both sides down and says so in the
log; one that is not says nothing. It is finished just if both sources come to
their ends and both sides take all bytes and flushes. Clean streams do, so one
side that ends early cuts nothing off. -/
theorem relay_conserves (a b : Stream) :
    (between a b).up.moved <+: Script.bytes a.script ∧
    (between a b).down.moved <+: Script.bytes b.script ∧
    ((between a b).up.closed = true → (between a b).up.moved = Script.bytes a.script) ∧
    ((between a b).down.closed = true → (between a b).down.moved = Script.bytes b.script) ∧
    ((between a b).ending = .finished →
      Complete (Script.bytes a.script) (Script.bytes b.script) (between a b) ∧
        (between a b).log
          = [finishedEntry (Script.bytes a.script).length (Script.bytes b.script).length]) ∧
    ((between a b).ending ≠ .finished → (between a b).log = []) ∧
    ((between a b).ending = .finished ↔
      (a.script.IsPassable ∧ b.outlet.Takes (Script.bytes a.script).length) ∧
        b.script.IsPassable ∧ a.outlet.Takes (Script.bytes b.script).length) ∧
    (a.IsClean → b.IsClean → (between a b).ending = .finished) := by
  obtain ⟨hup, hdown⟩ := accounts_between a b
  refine ⟨hup.front, hdown.front, hup.whole, hdown.whole, ?_, ?_, finished_iff a b, ?_⟩
  · intro hfinished
    have hcomplete := complete_of_finished hfinished
    refine ⟨hcomplete, ?_⟩
    -- The log counts what was moved, and a complete relay has moved all there is.
    rw [Outcome.log, hfinished, hcomplete.up_moved, hcomplete.down_moved]
  · intro hunfinished
    unfold Outcome.log
    split
    · rename_i hfinished
      exact absurd hfinished hunfinished
    · rfl
  · intro ha hb
    exact (between_isClean ha hb).ending

/-- A stream that says two bytes and ends. -/
def briefStream : Stream := { script := [.bytes [1, 2]] }

/-- A stream that takes its time, and room for one byte only. -/
def narrowStream : Stream := { script := [.wait 5, .bytes [3]], outlet := { room := some 1 } }

/-- A side that ends at once is shut down for the other one, and still gets its
byte. If the other side has room for one byte only, that byte is all it gets,
and it is not shut down. -/
theorem relay_conserves_of_early_end :
    Complete [1, 2] [3] (between briefStream { narrowStream with outlet := {} }) ∧
      (between briefStream narrowStream).up.moved = [1] ∧
      (between briefStream narrowStream).up.closed ≠ true := by
  obtain ⟨-, -, -, -, hcomplete, -, -, hclean⟩ :=
    relay_conserves briefStream { narrowStream with outlet := {} }
  obtain ⟨-, -, hwhole, -⟩ := relay_conserves briefStream narrowStream
  have hmoved : (between briefStream narrowStream).up.moved = [1] := by decide +kernel
  have hbrief : briefStream.IsClean := by
    refine ⟨?_, rfl, rfl⟩
    simp [briefStream, Script.IsSmooth, Step.IsSmooth]
  have hnarrow : Stream.IsClean { narrowStream with outlet := {} } := by
    refine ⟨?_, rfl, rfl⟩
    simp [narrowStream, Script.IsSmooth, Step.IsSmooth]
  refine ⟨(hcomplete (hclean hbrief hnarrow)).1, hmoved, ?_⟩
  intro hclosed
  have hall := hwhole hclosed
  rw [hmoved] at hall
  cases hall

end Relay

end Socks5
