import Socks5.Connector
import Socks5.Dialogue
import Socks5.History

/-!
# `Socks5.Proofs.Duplex`: two parties over two pipes

A client and a server are joined by two pipes that hold a bounded number of
bytes. Who goes on next is left open, and so is how many bytes go over at once
(`Duplex.Step`). A party that ends with an error drops its ends of the pipes.
No time passes: a deadline is over only if it was over when it was set.

To follow all runs at once, `Duplex.Beat` moves one byte at a time and never
fails a write.

* `Beat.diamond`: the beats of the two parties do not disturb each other.
* `Walk.of_diamond`: so a walk of beats that comes to an end says where all
  walks end, and how long they are.
* `Step.walk`: a step is made of beats, as long as nobody writes to a party
  that has dropped its end and no deadline is over (`Duplex.Calm`).
-/

set_option autoImplicit false

namespace Socks5

open Net

/-! ### Walks -/

section

variable {σ : Type}

/-- So many steps lead from one state to another. -/
inductive Walk (r : σ → σ → Prop) : Nat → σ → σ → Prop where
  | stop (s : σ) : Walk r 0 s s
  | step {s t u : σ} {n : Nat} (h : r s t) (hrest : Walk r n t u) : Walk r (n + 1) s u

namespace Walk

variable {r : σ → σ → Prop} {s t u : σ} {m n : Nat}

/-- One step is a walk. -/
theorem single (h : r s t) : Walk r 1 s t := .step h (.stop t)

/-- Two walks make one, and their lengths add up. -/
theorem trans (h : Walk r m s t) (h' : Walk r n t u) : Walk r (m + n) s u := by
  induction h with
  | stop s => rwa [Nat.zero_add]
  | @step s s' t m h hrest ih =>
    rw [Nat.add_right_comm]
    exact .step h (ih h')

/-- A walk of another relation in which every step is one. The states may be seen
through a map, which is what exchanging the two parties needs. -/
theorem map {τ : Type} {r' : τ → τ → Prop} {f : σ → τ} (hf : ∀ s t, r s t → r' (f s) (f t))
    (h : Walk r n s t) : Walk r' n (f s) (f t) := by
  induction h with
  | stop s => exact .stop (f s)
  | step h hrest ih => exact .step (hf _ _ h) ih

/-- A walk is one of any relation that allows more. -/
theorem mono {r' : σ → σ → Prop} (hr : ∀ s t, r s t → r' s t) (h : Walk r n s t) :
    Walk r' n s t := h.map (f := id) hr

/-- What every step keeps, a walk keeps. -/
theorem keeps {P : σ → Prop} (hstep : ∀ s t, r s t → P s → P t) (h : Walk r n s t) (hs : P s) :
    P t := by
  induction h with
  | stop s => exact hs
  | step h hrest ih => exact ih (hstep _ _ h hs)

/-- If two steps from one state can always be joined by one more step each, a step
does not lead away from an end: it is one step less to go. The end must be one: a
walk that could go on from `u` need not meet the other step. -/
theorem step_of_diamond (hr : ∀ s t u, r s t → r s u → t = u ∨ ∃ v, r t v ∧ r u v)
    (hend : ∀ v, ¬ r u v) (h : Walk r n s u) (hst : r s t) : ∃ m, n = m + 1 ∧ Walk r m t u := by
  induction h generalizing t with
  | stop s => exact absurd hst (hend t)
  | @step s s' u n hss' hrest ih =>
    refine ⟨n, rfl, ?_⟩
    obtain rfl | ⟨v, htv, hsv⟩ := hr s t s' hst hss'
    · exact hrest
    · -- The step to `v` leads from the walk, so the end is as near from there.
      obtain ⟨m, rfl, hwalk⟩ := ih hend hsv
      exact .step htv hwalk

/-- Then a walk to an end says how long all walks are, and where they end. So a
single walk is enough to know every run of the two parties. -/
theorem of_diamond (hr : ∀ s t u, r s t → r s u → t = u ∨ ∃ v, r t v ∧ r u v)
    (hend : ∀ v, ¬ r u v) (h : Walk r n s u) (h' : Walk r m s t) :
    ∃ k, n = m + k ∧ Walk r k t u := by
  induction h' generalizing n with
  | stop s => exact ⟨n, (Nat.zero_add n).symm, h⟩
  | step hst hrest ih =>
    obtain ⟨n', rfl, hwalk⟩ := step_of_diamond hr hend h hst
    obtain ⟨k, rfl, hwalk'⟩ := ih hwalk
    exact ⟨k, by omega, hwalk'⟩

end Walk

end

/-! ### Parties -/

/-- How far a party is. -/
inductive Phase (α : Type) where
  | busy (x : Dialogue α)
  | left (a : α)

/-- A party with what it has done so far. -/
structure Party (α : Type) where
  phase : Phase α
  /-- What it has taken of the block that it reads. -/
  got : Bytes := []
  /-- In how many seconds its time is up, and what it does then. -/
  alarm : Option (Nat × Dialogue α) := none
  wrote : Bytes := []
  /-- What it has noted, dialed and listened for. -/
  deeds : History := []
  listener : Option Listener := none
  remote : Option Connection := none

namespace Party

variable {α ε : Type}

/-- Whether a party has dropped its ends of the pipes. A party that ends without an
error keeps them for what comes next. -/
def dropped (p : Party (Except ε α)) : Bool :=
  match p.phase with
  | .left (.error _) => true
  | .left (.ok _) | .busy _ => false

/-- The party with an event added. -/
def mark (p : Party α) (e : Event) : Party α := { p with deeds := p.deeds ++ [e] }

/-- The party goes on with a connection that is there at once. -/
def connect (k : Except IoError Endpoint → Dialogue α) (p : Party α) :
    Attempt Connection → Option (Party α)
  | .settled 0 (.ok c) => some { p with phase := .busy (k (.ok c.endpoint)), remote := some c }
  | .settled 0 (.error e) => some { p with phase := .busy (k (.error e)) }
  | .settled (_ + 1) _ | .never => none

/-- What a party does next without its pipes, if anything. -/
def think (connector : Connector) (p : Party α) : Option (Party α) :=
  match p.phase with
  | .left _ => none
  | .busy (.done a) => some { p with phase := .left a }
  | .busy (.recv n _ k) =>
    if h : p.got.length = n then
      some { p with phase := .busy (k (.ok ⟨p.got.toArray, h⟩)), got := [] }
    else none
  | .busy (.send [] k) => some { p with phase := .busy (k (.ok ())) }
  | .busy (.send (_ :: _) _) => none
  | .busy (.note entry next) => some { p.mark (.noted entry) with phase := .busy next }
  | .busy (.within seconds late next) =>
    some { p with phase := .busy next, alarm := (deadline? 0 seconds).map (·, late) }
  | .busy (.release next) => some { p with phase := .busy next, alarm := none }
  | .busy (.dial target k) => (p.mark (.dialed target)).connect k (connector.dial target)
  | .busy (.listen target k) =>
    match connector.listen with
    | none => some { p with phase := .busy (k (.error Connector.noListener)) }
    | some openListener =>
      match openListener target with
      | .ok l =>
        some { p.mark (.listened target) with phase := .busy (k (.ok l.endpoint)), listener := l }
      | .error e => some { p.mark (.listened target) with phase := .busy (k (.error e)) }
  | .busy (.accept k) => p.listener.bind fun l => p.connect k l.peer

/-- Whether a party cannot go on by itself: its pipe is empty or full, or a
connection is not there. -/
def Waits (cap : Nat) (p : Party α) (i o : Bytes) : Prop :=
  match p.phase with
  | .busy (.recv ..) => i = []
  | .busy (.send ..) => cap ≤ o.length
  | .busy (.dial ..) | .busy (.accept _) => True
  | _ => False

/-- The party has taken so much more of a block. -/
def take (p : Party α) (bs : Bytes) : Party α := { p with got := p.got ++ bs }

/-- The party has written so much, and has the rest of a message to write. -/
def put (p : Party α) (bs rest : Bytes) (k : Except IoError Unit → Dialogue α) : Party α :=
  { p with phase := .busy (.send rest k), wrote := p.wrote ++ bs }

/-- The party goes on after the end of its stream. -/
def finish (p : Party α) {n : Nat} (shape : Shape)
    (k : Except IoError (Vector UInt8 n) → Dialogue α) : Party α :=
  { p with phase := .busy (k (.error shape.endError)), got := [] }

/-- A move of a party, with the pipe that it reads and the pipe that it writes, which
holds at most `cap` bytes. The other party may be `gone`. -/
inductive Moves (connector : Connector) (cap : Nat) (gone : Bool) :
    Party α → Bytes → Bytes → Party α → Bytes → Bytes → Prop where
  | think {p p' : Party α} {i o : Bytes} (h : p.think connector = some p') :
      Moves connector cap gone p i o p' i o
  /-- It takes some of the bytes that it wants. -/
  | take {p : Party α} {i o bs : Bytes} {n : Nat} {shape : Shape}
      {k : Except IoError (Vector UInt8 n) → Dialogue α} (hp : p.phase = .busy (.recv n shape k))
      (hbs : bs ≠ []) (hn : p.got.length + bs.length ≤ n) :
      Moves connector cap gone p (bs ++ i) o (p.take bs) i o
  /-- It writes some of its message. -/
  | put {p : Party α} {i o bs rest : Bytes} {k : Except IoError Unit → Dialogue α}
      (hp : p.phase = .busy (.send (bs ++ rest) k)) (hbs : bs ≠ [])
      (hroom : o.length + bs.length ≤ cap) (hgone : gone = false) :
      Moves connector cap gone p i o (p.put bs rest k) i (o ++ bs)
  /-- It finds the end of its stream. -/
  | finish {p : Party α} {o : Bytes} {n : Nat} {shape : Shape}
      {k : Except IoError (Vector UInt8 n) → Dialogue α} (hp : p.phase = .busy (.recv n shape k))
      (hn : p.got.length < n) (hgone : gone = true) :
      Moves connector cap gone p [] o (p.finish shape k) [] o
  /-- Nobody is there to read what it writes. -/
  | refused {p : Party α} {i o m : Bytes} {k : Except IoError Unit → Dialogue α}
      (hp : p.phase = .busy (.send m k)) (hm : m ≠ []) (hgone : gone = true) :
      Moves connector cap gone p i o
        { p with phase := .busy (k (.error IoKind.brokenPipe.error)) } i o
  /-- Its time is up. -/
  | expire {p : Party α} {i o : Bytes} {late : Dialogue α} (hthink : p.think connector = none)
      (hwaits : p.Waits cap i o) (hlate : p.alarm = some (0, late)) :
      Moves connector cap gone p i o
        { p with phase := .busy late, got := [], alarm := none } i o

/-- A beat of a party: a move of one byte or none. A beat writes even if the other
party has dropped its end, and no time is ever up. -/
inductive Beats (connector : Connector) (cap : Nat) (gone : Bool) :
    Party α → Bytes → Bytes → Party α → Bytes → Bytes → Prop where
  | think {p p' : Party α} {i o : Bytes} (h : p.think connector = some p') :
      Beats connector cap gone p i o p' i o
  | take {p : Party α} {i o : Bytes} {b : UInt8} {n : Nat} {shape : Shape}
      {k : Except IoError (Vector UInt8 n) → Dialogue α} (hp : p.phase = .busy (.recv n shape k))
      (hn : p.got.length < n) : Beats connector cap gone p (b :: i) o (p.take [b]) i o
  | put {p : Party α} {i o rest : Bytes} {b : UInt8} {k : Except IoError Unit → Dialogue α}
      (hp : p.phase = .busy (.send (b :: rest) k)) (hroom : o.length < cap) :
      Beats connector cap gone p i o (p.put [b] rest k) i (o ++ [b])
  | finish {p : Party α} {o : Bytes} {n : Nat} {shape : Shape}
      {k : Except IoError (Vector UInt8 n) → Dialogue α} (hp : p.phase = .busy (.recv n shape k))
      (hn : p.got.length < n) (hgone : gone = true) :
      Beats connector cap gone p [] o (p.finish shape k) [] o

variable {connector : Connector} {cap : Nat} {gone : Bool} {p p₁ p₂ : Party α}
  {i i₁ i₂ o o₁ o₂ : Bytes}

/-- A party that has not got its block yet does nothing by itself. -/
theorem think_recv_of_lt {n : Nat} {shape : Shape}
    {k : Except IoError (Vector UInt8 n) → Dialogue α} (hp : p.phase = .busy (.recv n shape k))
    (hn : p.got.length < n) : p.think connector = none := by
  simp [think, hp, Nat.ne_of_lt hn]

/-- Nor does one that has bytes to write. -/
theorem think_send_cons {b : UInt8} {rest : Bytes} {k : Except IoError Unit → Dialogue α}
    (hp : p.phase = .busy (.send (b :: rest) k)) : p.think connector = none := by
  simp [think, hp]

/-- A party beats in one way only. What is left open is who of the two goes on,
not what they do: that depends on the phase alone. -/
theorem Beats.unique (h₁ : Beats connector cap gone p i o p₁ i₁ o₁)
    (h₂ : Beats connector cap gone p i o p₂ i₂ o₂) : p₁ = p₂ ∧ i₁ = i₂ ∧ o₁ = o₂ := by
  cases h₁ with
  -- Thinking excludes the use of a pipe: a party that thinks is not blocked on bytes, and
  -- one that has bytes to write is. The other pairs of different beats differ in what the
  -- phase wishes for.
  | think h =>
    cases h₂ with
    | think h' => exact ⟨Option.some.inj (h.symm.trans h'), rfl, rfl⟩
    | take hp hn | finish hp hn => simp [think_recv_of_lt hp hn] at h
    | put hp => simp [think_send_cons hp] at h
  | take hp hn =>
    cases h₂ with
    | think h' => simp [think_recv_of_lt hp hn] at h'
    | take hp' hn' => exact ⟨rfl, rfl, rfl⟩
    | put hp' => simp [hp] at hp'
  | put hp hroom =>
    cases h₂ with
    | think h' => simp [think_send_cons hp] at h'
    | put hp' hroom' =>
      simp only [hp, Phase.busy.injEq, Dialogue.send.injEq, List.cons.injEq] at hp'
      -- The byte is the first one of the same message, so the pipes agree as well.
      obtain ⟨⟨rfl, rfl⟩, rfl⟩ := hp'
      exact ⟨rfl, rfl, rfl⟩
    | take hp' | finish hp' => simp [hp] at hp'
  | finish hp hn hgone =>
    cases h₂ with
    | think h' => simp [think_recv_of_lt hp hn] at h'
    | put hp' => simp [hp] at hp'
    | finish hp' hn' hgone' =>
      simp only [hp, Phase.busy.injEq, Dialogue.recv.injEq] at hp'
      obtain ⟨rfl, rfl, hk⟩ := hp'
      -- The lengths are equal only after the wishes are compared, so the two
      -- continuations are compared across types.
      obtain rfl := eq_of_heq hk
      exact ⟨rfl, rfl, rfl⟩

/-- A party that has left does not beat. -/
theorem Beats.phase_ne (h : Beats connector cap gone p i o p₁ i₁ o₁) (a : α) :
    p.phase ≠ .left a := by
  intro hphase
  cases h with
  | think h => simp [Party.think, hphase] at h
  | take hp | put hp | finish hp => simp [hphase] at hp

/-- A party that beats has not dropped its ends. -/
theorem Beats.dropped {p p' : Party (Except ε α)}
    (h : Beats connector cap gone p i o p' i₁ o₁) : p.dropped = false := by
  cases hphase : p.phase with
  | busy x => simp [Party.dropped, hphase]
  | left a => exact absurd hphase (h.phase_ne a)

/-- What a beat does in a small pipe, it does in a larger one. -/
theorem Beats.widen {cap' : Nat} (hcap : cap ≤ cap')
    (h : Beats connector cap gone p i o p₁ i₁ o₁) : Beats connector cap' gone p i o p₁ i₁ o₁ := by
  cases h with
  | think h => exact .think h
  | take hp hn => exact .take hp hn
  | put hp hroom => exact .put hp (Nat.lt_of_lt_of_le hroom hcap)
  | finish hp hn hgone => exact .finish hp hn hgone

/-- What a beat takes and writes while the other party is there. The same beat is
possible if more is in the one pipe and less in the other. This is how a beat of
the other party changes the pipes, so two beats do not disturb each other. -/
theorem Beats.frame (h : Beats connector cap false p i o p₁ i₁ o₁) :
    ∃ taken written, i = taken ++ i₁ ∧ o₁ = o ++ written ∧
      ∀ (front rest bs : Bytes) (gone : Bool), o = front ++ rest →
        Beats connector cap gone p (i ++ bs) rest p₁ (i₁ ++ bs) (rest ++ written) := by
  cases h with
  | think h =>
    refine ⟨[], [], rfl, (List.append_nil o).symm, ?_⟩
    intro front rest bs gone ho
    rw [List.append_nil]
    exact .think h
  | take hp hn =>
    refine ⟨[_], [], rfl, (List.append_nil o).symm, ?_⟩
    intro front rest bs gone ho
    rw [List.append_nil]
    exact .take hp hn
  | put hp hroom =>
    refine ⟨[], [_], rfl, rfl, ?_⟩
    intro front rest bs gone ho
    -- Fewer bytes in the outgoing pipe leave more room, so the byte still fits.
    rw [ho, List.length_append] at hroom
    exact .put hp (by omega)
  -- Only a party whose partner has left finishes on a short read.
  | finish hp hn hgone => cases hgone

/-- A party that beats can move. It is refused if it writes to nobody, where the
beat would write all the same; that is the one difference. -/
theorem Beats.moves (h : Beats connector cap gone p i o p₁ i₁ o₁) :
    ∃ p₂ i₂ o₂, Moves connector cap gone p i o p₂ i₂ o₂ := by
  cases h with
  | think h => exact ⟨_, _, _, .think h⟩
  | @take _ _ b n shape k hp hn =>
    have hmove : Moves connector cap gone p ([b] ++ i₁) o (p.take [b]) i₁ o :=
      .take hp (List.cons_ne_nil b []) hn
    exact ⟨_, _, _, hmove⟩
  | @put _ _ rest b k hp hroom =>
    cases gone with
    | true => exact ⟨_, _, _, .refused hp (List.cons_ne_nil b rest) rfl⟩
    | false =>
      have hmove : Moves connector cap false p i o (p.put [b] rest k) i (o ++ [b]) :=
        .put hp (List.cons_ne_nil b []) hroom rfl
      exact ⟨_, _, _, hmove⟩
  | finish hp hn hgone => exact ⟨_, _, _, .finish hp hn hgone⟩

end Party

/-! ### Two parties -/

/-- A client and a server with the bytes that are on their way. -/
structure Duplex (ε α ε' β : Type) where
  client : Party (Except ε α)
  server : Party (Except ε' β)
  /-- Bytes for the server. -/
  up : Bytes := []
  /-- Bytes for the client. -/
  down : Bytes := []

namespace Duplex

open Party

variable {ε α ε' β : Type}

/-- The two parties with their roles exchanged. -/
def flip (s : Duplex ε α ε' β) : Duplex ε' β ε α := ⟨s.server, s.client, s.down, s.up⟩

/-- A step of one of two parties over pipes of the given capacities. -/
inductive Step (connector : Connector) (capUp capDown : Nat) :
    Duplex ε α ε' β → Duplex ε α ε' β → Prop where
  | client {s : Duplex ε α ε' β} {p : Party (Except ε α)} {i o : Bytes}
      (h : Moves connector capUp s.server.dropped s.client s.down s.up p i o) :
      Step connector capUp capDown s ⟨p, s.server, o, i⟩
  | server {s : Duplex ε α ε' β} {q : Party (Except ε' β)} {i o : Bytes}
      (h : Moves connector capDown s.client.dropped s.server s.up s.down q i o) :
      Step connector capUp capDown s ⟨s.client, q, i, o⟩

/-- A beat of one of two parties. -/
inductive Beat (connector : Connector) (capUp capDown : Nat) :
    Duplex ε α ε' β → Duplex ε α ε' β → Prop where
  | client {s : Duplex ε α ε' β} {p : Party (Except ε α)} {i o : Bytes}
      (h : Beats connector capUp s.server.dropped s.client s.down s.up p i o) :
      Beat connector capUp capDown s ⟨p, s.server, o, i⟩
  | server {s : Duplex ε α ε' β} {q : Party (Except ε' β)} {i o : Bytes}
      (h : Beats connector capDown s.client.dropped s.server s.up s.down q i o) :
      Beat connector capUp capDown s ⟨s.client, q, i, o⟩

variable {connector : Connector} {capUp capDown : Nat} {s t u : Duplex ε α ε' β}

/-- A step of one party is a step of the other with the roles exchanged. The
proofs below treat the client and leave the server to this. -/
theorem Step.flip (h : Step connector capUp capDown s t) :
    Step connector capDown capUp s.flip t.flip := by
  cases h with
  | client h => exact .server h
  | server h => exact .client h

/-- The same holds of beats. -/
theorem Beat.flip (h : Beat connector capUp capDown s t) :
    Beat connector capDown capUp s.flip t.flip := by
  cases h with
  | client h => exact .server h
  | server h => exact .client h

/-- A beat over small pipes is one over larger ones. -/
theorem Beat.widen {capUp' capDown' : Nat} (hup : capUp ≤ capUp') (hdown : capDown ≤ capDown')
    (h : Beat connector capUp capDown s t) : Beat connector capUp' capDown' s t := by
  cases h with
  | client h => exact .client (h.widen hup)
  | server h => exact .server (h.widen hdown)

/-- The beats of the two parties can be made in either order. Each takes from the
front of a pipe to whose end the other one adds. -/
theorem Beat.commute {p : Party (Except ε α)} {q : Party (Except ε' β)} {i i' o o' : Bytes}
    (hp : Beats connector capUp s.server.dropped s.client s.down s.up p i o)
    (hq : Beats connector capDown s.client.dropped s.server s.up s.down q i' o') :
    ∃ v, Beat connector capUp capDown ⟨p, s.server, o, i⟩ v ∧
      Beat connector capUp capDown ⟨s.client, q, i', o'⟩ v := by
  -- Both parties are still there.
  have hserver := hq.dropped
  have hclient := hp.dropped
  rw [hserver] at hp
  rw [hclient] at hq
  obtain ⟨taken, written, hdown, rfl, hp'⟩ := hp.frame
  obtain ⟨taken', written', hup, rfl, hq'⟩ := hq.frame
  refine ⟨⟨p, q, i' ++ written, i ++ written'⟩, .server ?_, .client ?_⟩
  · exact hq' taken i written p.dropped hdown
  · exact hp' taken' i' written' q.dropped hup

/-- Two beats are the same, or are joined by another one each. Beats of one party
are the same, and those of both commute. -/
theorem Beat.diamond (h : Beat connector capUp capDown s t)
    (h' : Beat connector capUp capDown s u) :
    t = u ∨ ∃ v, Beat connector capUp capDown t v ∧ Beat connector capUp capDown u v := by
  cases h with
  | client h =>
    cases h' with
    | client h' =>
      obtain ⟨rfl, rfl, rfl⟩ := h.unique h'
      exact .inl rfl
    | server h' => exact .inr (commute h h')
  | server h =>
    cases h' with
    | client h' =>
      obtain ⟨v, hu, ht⟩ := commute h' h
      exact .inr ⟨v, ht, hu⟩
    | server h' =>
      obtain ⟨rfl, rfl, rfl⟩ := h.unique h'
      exact .inl rfl

/-! ### Steps and beats -/

/-- Whether nobody is about to write to a party that has dropped its end, and no
deadline is over. -/
structure Calm (s : Duplex ε α ε' β) : Prop where
  client : ∀ m k, s.client.phase = .busy (.send m k) → m ≠ [] → s.server.dropped = false
  server : ∀ m k, s.server.phase = .busy (.send m k) → m ≠ [] → s.client.dropped = false
  clientAlarm : ∀ late, s.client.alarm ≠ some (0, late)
  serverAlarm : ∀ late, s.server.alarm ≠ some (0, late)

/-- Calm does not depend on who is called the client. -/
theorem Calm.flip (h : s.Calm) : s.flip.Calm := ⟨h.server, h.client, h.serverAlarm, h.clientAlarm⟩

/-- Some bytes are taken one by one. Induction on the bytes, for every party that
reads: after the first byte it is a party that has got one more. -/
theorem walk_take {p : Party (Except ε α)} {q : Party (Except ε' β)} {bs i o : Bytes} {n : Nat}
    {shape : Shape} {k : Except IoError (Vector UInt8 n) → Dialogue (Except ε α)}
    (hp : p.phase = .busy (.recv n shape k)) (hn : p.got.length + bs.length ≤ n) :
    Walk (Beat connector capUp capDown) bs.length ⟨p, q, o, bs ++ i⟩ ⟨p.take bs, q, o, i⟩ := by
  induction bs generalizing p with
  | nil =>
    have htake : p.take [] = p := by simp [take]
    rw [htake]
    exact .stop _
  | cons b bs ih =>
    rw [List.length_cons] at hn
    have hrest := ih (p := p.take [b]) hp (by
      simp only [take, List.length_append, List.length_singleton]
      omega)
    have htake : (p.take [b]).take bs = p.take (b :: bs) := by simp [take]
    have hlt : p.got.length < n := by omega
    rw [htake] at hrest
    exact .step (.client (.take hp hlt)) hrest

/-- Some bytes are written one by one. There is room for all of them, so there is
room at each beat; the induction is on the bytes again, with one more in the pipe
each time. -/
theorem walk_put {p : Party (Except ε α)} {q : Party (Except ε' β)} {bs rest i o : Bytes}
    {k : Except IoError Unit → Dialogue (Except ε α)}
    (hp : p.phase = .busy (.send (bs ++ rest) k)) (hroom : o.length + bs.length ≤ capUp) :
    Walk (Beat connector capUp capDown) bs.length ⟨p, q, o, i⟩
      ⟨p.put bs rest k, q, o ++ bs, i⟩ := by
  induction bs generalizing p o with
  | nil =>
    have hput : p.put [] rest k = p := by
      obtain ⟨phase, got⟩ := p
      obtain rfl : phase = _ := hp
      simp [put]
    rw [hput, List.append_nil]
    exact .stop _
  | cons b bs ih =>
    rw [List.length_cons] at hroom
    -- After one byte the pipe is longer by one and the message shorter by one, so the
    -- room that is asked for stays the same.
    have hrest := ih (p := p.put [b] (bs ++ rest) k) (o := o ++ [b]) rfl (by
      rw [List.length_append, List.length_singleton]
      omega)
    have hput : (p.put [b] (bs ++ rest) k).put bs rest k = p.put (b :: bs) rest k := by simp [put]
    have hlt : o.length < capUp := by omega
    rw [hput, List.append_assoc] at hrest
    exact .step (.client (.put hp hlt)) hrest

/-- A move of the client is made of beats. Two moves are not: a write that is
refused and a deadline that is over, and calm rules both out. -/
theorem walk_moves {p : Party (Except ε α)} {i o : Bytes} (hs : s.Calm)
    (h : Moves connector capUp s.server.dropped s.client s.down s.up p i o) :
    ∃ n, Walk (Beat connector capUp capDown) (n + 1) s ⟨p, s.server, o, i⟩ := by
  -- Some bytes are at least one.
  have hsome : ∀ {bs : Bytes}, bs ≠ [] → ∃ n, bs.length = n + 1 := by
    intro bs hbs
    obtain ⟨b, bs, rfl⟩ := List.exists_cons_of_ne_nil hbs
    exact ⟨bs.length, rfl⟩
  obtain ⟨client, server, up, down⟩ := s
  cases h with
  | think h => exact ⟨0, .single (.client (.think h))⟩
  | take hp hbs hn =>
    obtain ⟨n, hlen⟩ := hsome hbs
    exact ⟨n, hlen ▸ walk_take hp hn⟩
  | put hp hbs hroom hgone =>
    obtain ⟨n, hlen⟩ := hsome hbs
    exact ⟨n, hlen ▸ walk_put hp hroom⟩
  | finish hp hn hgone => exact ⟨0, .single (.client (.finish hp hn hgone))⟩
  | refused hp hm hgone => exact absurd (hs.client _ _ hp hm) (by simp [hgone])
  | expire hthink hwaits hlate => exact absurd hlate (hs.clientAlarm _)

/-- A step is made of beats while all is calm. There is at least one of them, so a
step always gets on. -/
theorem Step.walk (hs : s.Calm) (h : Step connector capUp capDown s t) :
    ∃ n, Walk (Beat connector capUp capDown) (n + 1) s t := by
  cases h with
  | client h => exact walk_moves hs h
  | server h =>
    obtain ⟨n, hwalk⟩ := walk_moves (s := s.flip) hs.flip h
    exact ⟨n, hwalk.map (f := Duplex.flip) fun _ _ => Beat.flip⟩

/-- Whoever beats can make a step. So as long as a beat is possible, no run is at
its end. -/
theorem Beat.step (h : Beat connector capUp capDown s t) :
    ∃ u, Step connector capUp capDown s u := by
  cases h with
  | client h =>
    obtain ⟨p, i, o, hmoves⟩ := h.moves
    exact ⟨_, .client hmoves⟩
  | server h =>
    obtain ⟨q, i, o, hmoves⟩ := h.moves
    exact ⟨_, .server hmoves⟩

end Duplex

end Socks5
