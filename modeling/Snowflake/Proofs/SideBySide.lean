import Snowflake.Proofs.Call

/-!
# `Snowflake.Proofs.SideBySide`: two calls compared

`answer` and `after` are the two halves of running a computation from a state
and a world. `Agree` compares two computations that run side by side, each from
its own state and in its own world: from what is related they give the same
answer and leave what is related again. `callFrom_agree` is the induction over
the rounds of two calls.

`Within` is the counterpart of `Ends` for statements that mention the world.
`callFrom_within` carries it over the rounds of a call. It needs no induction
of its own: a call agrees with the one that counts the world as part of its
state, and of that one `callFrom_ends` says it.
-/

set_option autoImplicit false

namespace Snowflake

section

variable {σ τ ω ν α β : Type}

/-- The answer of a computation that starts from a state and a world. -/
def answer (c : StateT σ (StateM ω) α) (p : σ × ω) : α := (c p.1 p.2).1.1

/-- The state and the world that it leaves. -/
def after (c : StateT σ (StateM ω) α) (p : σ × ω) : σ × ω := ((c p.1 p.2).1.2, (c p.1 p.2).2)

/-- The second computation starts where the first ended, and is told its
answer. -/
theorem answer_bind (c : StateT σ (StateM ω) α) (f : α → StateT σ (StateM ω) β) (p : σ × ω) :
    answer (c >>= f) p = answer (f (answer c p)) (after c p) :=
  rfl

/-- The second of two steps leaves what is left after both. -/
theorem after_bind (c : StateT σ (StateM ω) α) (f : α → StateT σ (StateM ω) β) (p : σ × ω) :
    after (c >>= f) p = after (f (answer c p)) (after c p) :=
  rfl

/-! ### Side by side -/

/-- From related states and worlds the two computations give the same answer,
one that `P` allows, and leave what is related again. -/
def Agree (R : σ × ω → τ × ν → Prop) (c : StateT σ (StateM ω) α) (d : StateT τ (StateM ν) α)
    (P : α → Prop) : Prop :=
  ∀ p q, R p q → answer d q = answer c p ∧ P (answer c p) ∧ R (after c p) (after d q)

namespace Agree

variable {R : σ × ω → τ × ν → Prop} {P : α → Prop} {Q : β → Prop}

/-- To give the same answer and do nothing agrees. -/
theorem pure {a : α} (h : P a) :
    Agree R (pure a : StateT σ (StateM ω) α) (pure a : StateT τ (StateM ν) α) P :=
  fun _ _ hR => ⟨rfl, h, hR⟩

/-- Steps that agree make computations that agree. -/
theorem bind {c : StateT σ (StateM ω) α} {d : StateT τ (StateM ν) α}
    {f : α → StateT σ (StateM ω) β} {g : α → StateT τ (StateM ν) β} (h : Agree R c d P)
    (hf : ∀ a, P a → Agree R (f a) (g a) Q) : Agree R (c >>= f) (d >>= g) Q := by
  intro p q hR
  obtain ⟨hanswer, hP, hafter⟩ := h p q hR
  rw [answer_bind, answer_bind, after_bind, after_bind, hanswer]
  exact hf _ hP _ _ hafter

end Agree

/-- A used-up millisecond is the only reason to spin, and the next one is at
most one millisecond away. -/
def Backoff.Tick : Backoff → Prop
  | .spin yieldFor => yieldFor = .ofMillis 1
  | .sleep _ => True

/-- A poll names one millisecond when the millisecond is used up. -/
def PendingOne (r : PollResult) : Prop := ∀ yieldFor, r = .ok (.pending yieldFor) → yieldFor = 1

/-- The pause of a round. -/
def Round.Tick : Round → Prop
  | .finished _ => True
  | .pausing b => b.Tick

/-- To cut a sleep leaves a spin as it was. -/
theorem Options.settle_tick {o : Options} {b : Backoff} (h : b.Tick) (waited : Duration) :
    (o.settle b waited).Tick := by
  unfold settle
  cases hallow : o.allow waited b with
  | error e => trivial
  | ok granted =>
      cases allows hallow with
      | spin => exact h
      | sleep => trivial

/-- A pause that is asked for spins for one millisecond, or sleeps. -/
theorem Options.demand_tick {o : Options} {s : Status} (hs : PendingOne (.ok s)) {b : Backoff}
    (h : o.demand s = .pause b) : b.Tick := by
  cases demands h with
  | pending yieldFor =>
      show Duration.ofMillis yieldFor = .ofMillis 1
      rw [hs yieldFor rfl]
  | behind => trivial

section

variable {R : σ × ω → τ × ν → Prop} {fx : Effects (StateT σ (StateM ω))}
  {gx : Effects (StateT τ (StateM ν))}

/-- After polls with the same result both rounds do the same. -/
theorem afterPoll_agree (hinstant : Agree R fx.instant gx.instant fun _ => True) (o : Options)
    (started : Option Instant) {r : PollResult} (hr : PendingOne r) :
    Agree R (afterPoll fx o started r) (afterPoll gx o started r) fun a => a.1.Tick := by
  cases r with
  | error f => exact .pure trivial
  | ok status =>
      simp only [afterPoll]
      cases hdemand : o.demand status with
      | finish result => exact .pure trivial
      | pause b =>
          have htick := Options.demand_tick hr hdemand
          have hstart : Agree R (started.elim fx.instant pure) (started.elim gx.instant pure)
              fun _ => True := by
            cases started with
            | some t => exact .pure trivial
            | none => exact hinstant
          refine hstart.bind fun start _ => hinstant.bind fun now _ => .pure ?_
          exact Options.settle_tick htick _

/-- Two calls agree when their polls, their looks at the stopwatch and their
pauses do. The induction is on the rounds. -/
theorem callFrom_agree (hpoll : Agree R fx.poll gx.poll PendingOne)
    (hinstant : Agree R fx.instant gx.instant fun _ => True)
    {pause : Backoff → StateT σ (StateM ω) Unit} {rest : Backoff → StateT τ (StateM ν) Unit}
    (hpause : ∀ b, b.Tick → Agree R (pause b) (rest b) fun _ => True) (o : Options) (polls : Nat)
    (started : Option Instant) :
    Agree R (callFrom fx pause o polls started) (callFrom gx rest o polls started)
      fun _ => True := by
  induction polls generalizing started with
  | zero => exact .pure trivial
  | succ polls ih =>
      have hround : Agree R (round fx o started) (round gx o started) fun a => a.1.Tick := by
        rw [round_eq, round_eq]
        exact hpoll.bind fun r hr => afterPoll_agree hinstant o started hr
      -- Rounds agree on their outcome, so both calls end or both pause.
      refine hround.bind fun a htick => ?_
      obtain ⟨rd, started⟩ := a
      cases rd with
      | finished result => exact .pure trivial
      | pausing b => exact (hpause b htick).bind fun _ _ => ih started

end

/-! ### Statements about the world -/

/-- Whatever state and world it starts from, the computation ends in a way that
`P` allows. -/
def Within (c : StateT σ (StateM ω) α) (P : σ × ω → α → σ × ω → Prop) : Prop :=
  ∀ p, P p (answer c p) (after c p)

namespace Within

variable {P : σ × ω → α → σ × ω → Prop}

/-- A computation that does nothing ends at once. -/
theorem pure {a : α} (h : ∀ p, P p a p) : Within (pure a : StateT σ (StateM ω) α) P := h

/-- The second computation is told what the first has done. -/
theorem bind {c : StateT σ (StateM ω) α} {f : α → StateT σ (StateM ω) β}
    {Q : σ × ω → β → σ × ω → Prop} (hc : Within c P)
    (hf : ∀ a, Within (f a) fun p b q => ∀ start, P start a p → Q start b q) :
    Within (c >>= f) Q :=
  fun p => hf _ _ p (hc p)

/-- What ends in one way ends in any way that this one implies. -/
theorem mono {c : StateT σ (StateM ω) α} {Q : σ × ω → α → σ × ω → Prop} (hc : Within c P)
    (h : ∀ p a q, P p a q → Q p a q) : Within c Q :=
  fun p => h _ _ _ (hc p)

end Within

/-- The computation with the world as a part of the state. -/
def packed (c : StateT σ (StateM ω) α) : StateT (σ × ω) (StateM Unit) α :=
  fun p u => ((answer c p, after c p), u)

/-- To count the world as part of the state changes nothing. -/
theorem packed_agree (c : StateT σ (StateM ω) α) {P : α → Prop} (h : ∀ p, P (answer c p)) :
    Agree (fun p q => q.1 = p) c (packed c) P := by
  rintro _ ⟨p, u⟩ rfl
  exact ⟨rfl, h p, rfl⟩

/-- So what is said of states and worlds is said of such states. -/
theorem Within.packed {c : StateT σ (StateM ω) α} {P : σ × ω → α → σ × ω → Prop}
    (h : Within c P) : Ends (Snowflake.packed c) P :=
  fun p _ => h p

/-- What is carried back over one round holds of the whole call. -/
theorem callFrom_within {fx : Effects (StateT σ (StateM ω))}
    {pause : Backoff → StateT σ (StateM ω) Unit} {P : σ × ω → PollResult → σ × ω → Prop}
    {N : σ × ω → σ × ω → Prop} {Q : σ × ω → Option (Except Fault Flake) → σ × ω → Prop}
    (hpending : ∀ p, PendingOne (answer fx.poll p)) (hpoll : Within fx.poll P) (hN : Meanwhile N)
    (hinstant : Within fx.instant fun p _ q => N p q)
    (hpause : ∀ b, Within (pause b) fun p _ q => N p q) (hcarried : Carried P N Q) (o : Options)
    (polls : Nat) (started : Option Instant) : Within (callFrom fx pause o polls started) Q := by
  let gx : Effects (StateT (σ × ω) (StateM Unit)) :=
    ⟨packed fx.poll, packed fx.instant, packed fx.yield, fun d => packed (fx.sleep d)⟩
  -- The call on the larger state, where the world does not count as one.
  have hends : Ends (callFrom gx (fun b => packed (pause b)) o polls started) Q :=
    callFrom_ends hpoll.packed hN hinstant.packed (fun b => (hpause b).packed) hcarried o polls
      started
  have hagree : Agree (fun p q => q.1 = p) (callFrom fx pause o polls started)
      (callFrom gx (fun b => packed (pause b)) o polls started) fun _ => True :=
    callFrom_agree (packed_agree fx.poll hpending) (packed_agree fx.instant fun _ => trivial)
      (fun b _ => packed_agree (pause b) fun _ => trivial) o polls started
  intro p
  obtain ⟨hanswer, -, hafter⟩ := hagree p (p, ()) rfl
  have hQ : Q p (answer _ (p, ())) (after _ (p, ())).1 := hends p ()
  rw [hanswer, hafter] at hQ
  exact hQ

end

end Snowflake
