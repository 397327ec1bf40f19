import Socks5.Proofs.PossibleRuns

/-!
# `Socks5.Proofs.Format`: what a reader takes from the stream

A format says which byte strings a reader accepts as a message and which
it refuses, and with what value or error. `Exchange.Reads x F` says that
on every course `x` keeps to the format `F`: it sends nothing and opens
nothing, and the bytes that it took are a message of `F`, or a strict
front of one if the stream broke off, failed or fell silent.

Readers are composed by `Exchange.Reads.bind`. It asks the second reader
only for what is left of the format after the bytes of the first
(`Format.after`), so a proof follows the reader from the front of the
message to its end.
-/

set_option autoImplicit false

namespace Socks5

open Net

variable {α β : Type}

/-! ### Quiet stretches of a history -/

/-- Whether an event is seen by the party alone: bytes that it takes and
entries of its log. -/
def Event.IsQuiet : Event → Prop
  | .received _ | .noted _ => True
  | .sent _ | .dialed _ | .listened _ => False

namespace History

/-- A stretch in which the party sends nothing and opens nothing. -/
def IsQuiet (h : History) : Prop := ∀ e ∈ h, e.IsQuiet

/-- In a stretch without events nothing is sent or opened. -/
@[simp] theorem isQuiet_nil : IsQuiet [] := by simp [IsQuiet]

/-- A stretch is quiet event by event. -/
@[simp] theorem isQuiet_cons {e : Event} {h : History} :
    IsQuiet (e :: h) ↔ e.IsQuiet ∧ IsQuiet h := List.forall_mem_cons

/-- Quiet stretches may be joined and cut. -/
@[simp] theorem isQuiet_append {g h : History} :
    IsQuiet (g ++ h) ↔ g.IsQuiet ∧ h.IsQuiet := List.forall_mem_append

/-- A quiet stretch sends nothing. So the bytes of a conversation that the far end
can see are those outside of quiet stretches. -/
theorem IsQuiet.sentBytes_eq {h : History} (hq : h.IsQuiet) : h.sentBytes = [] := by
  induction h with
  | nil => rfl
  | cons e h ih =>
    obtain ⟨he, hh⟩ := isQuiet_cons.mp hq
    cases e <;> first | exact ih hh | exact he.elim

end History

/-! ### Formats -/

/-- Whether the stream broke off, the deadline passed or nothing came any
more. -/
inductive Halt.IsBreak : Halt (Except ProtocolError α) → Prop where
  | broken (e : IoError) : IsBreak (.ended (.error (.truncated e)))
  | late : IsBreak .late
  | stuck : IsBreak .stuck

/-- Which byte strings are messages. -/
structure Format (α : Type) where
  /-- The messages with a value. -/
  accepts : α → Bytes → Prop
  /-- The byte strings that are refused as soon as their last byte is there. -/
  refuses : ProtocolError → Bytes → Prop := fun _ _ => False

namespace Format

/-- Whether a byte string is accepted or refused as a whole. -/
def IsMessage (F : Format α) (m : Bytes) : Prop := (∃ a, F.accepts a m) ∨ ∃ e, F.refuses e m

/-- Whether a byte string is the front of a message and not all of it. -/
def IsCut (F : Format α) (got : Bytes) : Prop := ∃ m, F.IsMessage m ∧ got <+: m ∧ got ≠ m

/-- What is left of a format after the given bytes. -/
def after (F : Format α) (m : Bytes) : Format α where
  accepts a m' := F.accepts a (m ++ m')
  refuses e m' := F.refuses e (m ++ m')

/-- How a reader of the format can stop once it has taken the given bytes. -/
inductive Stops (F : Format α) (got : Bytes) : Halt (Except ProtocolError α) → Prop where
  | accepted {a : α} (h : F.accepts a got) : Stops F got (.ended (.ok a))
  | refused {e : ProtocolError} (h : F.refuses e got) : Stops F got (.ended (.error e))
  | cut {r : Halt (Except ProtocolError α)} (h : F.IsCut got) (hr : r.IsBreak) : Stops F got r

variable {F G : Format α}

/-- The messages of a format are messages of every wider one. -/
theorem IsMessage.mono (haccepts : ∀ a m, F.accepts a m → G.accepts a m)
    (hrefuses : ∀ e m, F.refuses e m → G.refuses e m) {m : Bytes} (hm : F.IsMessage m) :
    G.IsMessage m :=
  hm.imp (fun ⟨a, ha⟩ => ⟨a, haccepts a m ha⟩) fun ⟨e, he⟩ => ⟨e, hrefuses e m he⟩

/-- What is cut short in the rest of a format is cut short in the format, together
with the bytes before the rest. -/
theorem isCut_of_isCut_after {m got : Bytes} (h : (F.after m).IsCut got) : F.IsCut (m ++ got) := by
  obtain ⟨m', hm', ⟨rest, rfl⟩, hne⟩ := h
  exact ⟨m ++ (got ++ rest), hm', ⟨rest, by simp⟩, by simpa using hne⟩

/-- A reader that stops as a format says stops as every wider format says. The
front of a message stays one, since the whole message is still there. -/
theorem Stops.mono (haccepts : ∀ a m, F.accepts a m → G.accepts a m)
    (hrefuses : ∀ e m, F.refuses e m → G.refuses e m) {got : Bytes}
    {r : Halt (Except ProtocolError α)} (h : F.Stops got r) : G.Stops got r := by
  have hcut : F.IsCut got → G.IsCut got := fun ⟨m, hm, hfront⟩ =>
    ⟨m, hm.mono haccepts hrefuses, hfront⟩
  cases h with
  | accepted h => exact .accepted (haccepts _ _ h)
  | refused h => exact .refused (hrefuses _ _ h)
  | cut h hr => exact .cut (hcut h) hr

/-- Stopping in what is left of a format is stopping in the format. A composed
reader is followed by this lemma from one part to the next. -/
theorem Stops.of_after {m got : Bytes} {r : Halt (Except ProtocolError α)}
    (h : (F.after m).Stops got r) : F.Stops (m ++ got) r := by
  cases h with
  | accepted h => exact .accepted h
  | refused h => exact .refused h
  | cut h hr => exact .cut (isCut_of_isCut_after h) hr

end Format

/-! ### Readers -/

namespace Exchange

open Dialogue

/-- What is composed of plain exchanges is plain: errors are passed on without
another step. -/
theorem plain_bind {x : Exchange α} {f : α → Exchange β} (hx : x.run.Plain)
    (hf : ∀ a, (f a).run.Plain) : (x >>= f).run.Plain := by
  refine Plain.bind (β := Except ProtocolError β) hx fun r => ?_
  cases r with
  | ok a => exact hf a
  | error e => trivial

/-- A course of a composed exchange is a course of the first part, followed by one
of the second if the first part succeeds. With an error, a deadline or silence it
is over there. -/
theorem course_of_bind {x : Exchange α} {f : α → Exchange β} {connector : Connector}
    {faulty : Prop} {armed : Bool} {o o' : Held} {h : History}
    {r : Halt (Except ProtocolError β)} (hx : x.run.Plain)
    (hc : Course connector faulty (x >>= f).run armed o h r o') :
    ∃ h₁ q, Course connector faulty x.run armed o h₁ q o ∧
      match q with
      | .ended (.ok a) => ∃ h₂, h = h₁ ++ h₂ ∧ Course connector faulty (f a).run armed o h₂ r o'
      | .ended (.error e) => h = h₁ ∧ r = .ended (.error e) ∧ o' = o
      | .late => h = h₁ ∧ r = .late ∧ o' = o
      | .stuck => h = h₁ ∧ r = .stuck ∧ o' = o := by
  -- The bind of exchanges is one of dialogues that passes errors on.
  obtain ⟨h₁, q, hc₁, hq⟩ := Course.of_bind (β := Except ProtocolError β) hx hc
  refine ⟨h₁, q, hc₁, ?_⟩
  cases q with
  | ended res =>
    cases res with
    | ok a => exact hq
    | error e =>
      obtain ⟨h₂, hh, hnil, hr, ho⟩ := hq
      exact ⟨by rw [hh, hnil, List.append_nil], hr, ho⟩
  | late => exact hq
  | stuck => exact hq

/-- The exchange reads the given format, whatever the far end does. -/
structure Reads (x : Exchange α) (F : Format α) : Prop where
  plain : x.run.Plain
  stops : ∀ {connector : Connector} {faulty : Prop} {armed : Bool} {o o' : Held} {h : History}
    {r : Halt (Except ProtocolError α)}, Course connector faulty x.run armed o h r o' →
    h.IsQuiet ∧ F.Stops h.receivedBytes r

namespace Reads

/-- A value that costs no bytes, at the place in a format where it may come. -/
theorem pure {F : Format α} {a : α} (h : F.accepts a []) : Reads (Pure.pure a) F where
  plain := trivial
  stops := by
    rintro _ _ _ _ _ _ _ ⟨rfl, rfl, -⟩
    exact ⟨by simp, .accepted h⟩

/-- A refusal that costs no bytes, at the place in a format where it may come. -/
theorem throw {F : Format α} {e : ProtocolError} (h : F.refuses e []) :
    Reads (MonadExcept.throw e) F where
  plain := trivial
  stops := by
    rintro _ _ _ _ _ _ _ ⟨rfl, rfl, -⟩
    exact ⟨by simp, .refused h⟩

/-- A reader of a format reads every wider one. So a reader whose format is known
may stand in for one that is asked for less. -/
theorem mono {x : Exchange α} {F G : Format α} (hx : Reads x F)
    (haccepts : ∀ a m, F.accepts a m → G.accepts a m)
    (hrefuses : ∀ e m, F.refuses e m → G.refuses e m) : Reads x G where
  plain := hx.plain
  stops hc := (hx.stops hc).imp_right fun h => h.mono haccepts hrefuses

/-- Two readers one after the other. The second reads what the first has left of
the format. The last condition says that no value of the first part is a dead end:
there is a message that goes on from there, so a stream that breaks off behind it
has brought the front of a message. -/
theorem bind {x : Exchange α} {f : α → Exchange β} {F : Format α} {G : Format β}
    (hplain : (x >>= f).run.Plain) (hx : Reads x F)
    (hf : ∀ a m, F.accepts a m → Reads (f a) (G.after m))
    (hrefuses : ∀ e m, F.refuses e m → G.refuses e m)
    (hmore : ∀ a m, F.accepts a m → ∃ m', G.IsMessage (m ++ m')) :
    Reads (x >>= f) G where
  plain := hplain
  stops := by
    intro connector faulty armed o o' h r hc
    obtain ⟨h₁, q, hc₁, hq⟩ := course_of_bind hx.plain hc
    -- The first part stops as `F` says. If it succeeds, the second one stops as the rest of `G`
    -- says.
    obtain ⟨hquiet, hstops⟩ := hx.stops hc₁
    -- A front of a message of `F` is a front of one of `G`.
    have hcut : F.IsCut h₁.receivedBytes → G.IsCut h₁.receivedBytes := by
      rintro ⟨m, ⟨a, ha⟩ | ⟨e, he⟩, ⟨rest, hm⟩, hne⟩
      · obtain ⟨m', hm'⟩ := hmore a m ha
        refine ⟨m ++ m', hm', ⟨rest ++ m', by rw [← hm]; simp⟩, fun heq => hne ?_⟩
        have : rest ++ m' = [] := by
          have := heq.symm
          rw [← hm, List.append_assoc] at this
          simpa using this
        rw [← hm, (List.append_eq_nil_iff.mp this).1, List.append_nil]
      · exact ⟨m, .inr ⟨e, hrefuses e m he⟩, ⟨rest, hm⟩, hne⟩
    cases hstops with
    | accepted ha =>
      obtain ⟨h₂, rfl, hc₂⟩ := hq
      obtain ⟨hquiet₂, hstops₂⟩ := (hf _ _ ha).stops hc₂
      refine ⟨History.isQuiet_append.mpr ⟨hquiet, hquiet₂⟩, ?_⟩
      rw [History.receivedBytes_append]
      exact hstops₂.of_after
    | refused he =>
      obtain ⟨rfl, rfl, -⟩ := hq
      exact ⟨hquiet, .refused (hrefuses _ _ he)⟩
    | cut h hr =>
      cases hr <;> obtain ⟨rfl, rfl, -⟩ := hq
      · exact ⟨hquiet, .cut (hcut h) (.broken _)⟩
      · exact ⟨hquiet, .cut (hcut h) .late⟩
      · exact ⟨hquiet, .cut (hcut h) .stuck⟩

end Reads

end Exchange

end Socks5
