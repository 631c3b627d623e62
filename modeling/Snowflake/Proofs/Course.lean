import Snowflake.Proofs.SideBySide

/-!
# `Snowflake.Proofs.Course`: what holds in the course of a call

A call polls, looks at the stopwatch and pauses, over and over. A `Course` says
what holds at each of these moments. It is told what is known then: how many
polls are left to follow the call for, the instant that the budget runs from,
the result of the poll, the pause that is asked for, and the time since the
start.

`Course.Holds` asks for one thing for each step that a call may take. The
decisions between the steps are those of `Options.demand` and `Options.allow`,
and each obligation names the decision that leads to its step. A course that
needs to know what was decided inverts it (`Options.demands`, `Options.allows`).
`Course.Holds.callFrom` is the induction over the rounds.

`callFrom_within` compares the moment before a call with the moment after it,
and does not see the options. A course follows the call from inside.
-/

set_option autoImplicit false

namespace Snowflake

variable {σ ω : Type}

/-- What holds of a state and a world at the moments of a call. The number is
that of the polls that are left. -/
structure Course (σ ω : Type) where
  /-- The call is about to poll. The budget runs from the instant given, or has
  not been started. -/
  ready : Nat → Option Instant → σ × ω → Prop
  /-- A poll has ended. -/
  polled : Nat → Option Instant → PollResult → σ × ω → Prop
  /-- A pause is asked for, and the stopwatch has been looked at: the budget
  runs from the instant given, and the length of time has passed since. -/
  timed : Nat → Instant → Backoff → Duration → σ × ω → Prop
  /-- The call has ended, or is no longer followed. -/
  ended : Option (Except Fault Flake) → σ × ω → Prop

/-- The time that a call has waited, and the instant it counts from. A budget
that has not been started is started first. -/
def sinceStart (fx : Effects (StateT σ (StateM ω))) (started : Option Instant) :
    StateT σ (StateM ω) (Instant × Duration) := do
  let start ← started.elim fx.instant pure
  let now ← fx.instant
  return (start, now.since start)

/-- A pause that is asked for is settled by the time that the call has
waited. -/
theorem afterPoll_pause (fx : Effects (StateT σ (StateM ω))) {o : Options} {s : Status}
    {b : Backoff} (h : o.demand s = .pause b) (started : Option Instant) :
    afterPoll fx o started (.ok s)
      = sinceStart fx started >>= fun a => pure (o.settle b a.2, some a.1) := by
  simp only [afterPoll, h]
  rfl

/-- A pause is granted only while some of the budget is left. -/
theorem Options.allow_unspent {o : Options} {waited : Duration} {b granted : Backoff}
    (h : o.allow waited b = .ok granted) : waited < o.maxWait := by
  cases allows h with
  | spin _ hunspent | sleep _ hunspent => exact hunspent

namespace Course

variable {fx : Effects (StateT σ (StateM ω))} {pause : Backoff → StateT σ (StateM ω) Unit}
  {o : Options} {c : Course σ ω}

/-- Each step of a call leads from what holds before it to what holds
after it. -/
structure Holds (c : Course σ ω) (fx : Effects (StateT σ (StateM ω)))
    (pause : Backoff → StateT σ (StateM ω) Unit) (o : Options) : Prop where
  poll : ∀ left started,
    Within fx.poll fun p r q => c.ready (left + 1) started p → c.polled left started r q
  /-- The fault of a poll ends the call. -/
  fault : ∀ left started f p, c.polled left started (.error f) p → c.ended (some (.error f)) p
  /-- So does a status that asks for no pause. -/
  finish : ∀ left started s r p, o.demand s = .finish r → c.polled left started (.ok s) p →
    c.ended (some (r.mapError .error)) p
  time : ∀ left started s b, o.demand s = .pause b →
    Within (sinceStart fx started) fun p a q =>
      c.polled left started (.ok s) p → c.timed left a.1 b a.2 q
  /-- The budget is spent. -/
  spent : ∀ left start b waited p, o.maxWait ≤ waited → c.timed left start b waited p →
    c.ended (some (.error (.error (.generationTimeout waited)))) p
  /-- It is not, and the pause is granted. -/
  pause : ∀ left start wanted waited b, o.allow waited wanted = .ok b →
    Within (pause b) fun p _ q => c.timed left start wanted waited p → c.ready left (some start) q
  /-- The call is not followed any further. -/
  waiting : ∀ started p, c.ready 0 started p → c.ended none p

/-- What holds after a round. -/
def reached (c : Course σ ω) (o : Options) (left : Nat) : Round × Option Instant → σ × ω → Prop
  | (.finished r, _), p => c.ended (some r) p
  | (.pausing b, started), p => ∃ start wanted waited, started = some start ∧
      o.allow waited wanted = .ok b ∧ c.timed left start wanted waited p

/-- The stopwatch decides between the end of the call and a pause. -/
theorem Holds.settle (h : c.Holds fx pause o) {left : Nat} {start : Instant} {b : Backoff}
    {waited : Duration} {p : σ × ω} (htimed : c.timed left start b waited p) :
    c.reached o left (o.settle b waited, some start) p := by
  unfold Options.settle
  cases hallow : o.allow waited b with
  | ok granted => exact ⟨start, b, waited, rfl, hallow, htimed⟩
  | error e =>
      -- The only error at this point is the spent budget.
      cases Options.allows hallow with
      | spent _ hspent => exact h.spent left start b waited p hspent htimed

/-- What is done after a poll leads to the end of the call or to a pause. -/
theorem Holds.afterPoll (h : c.Holds fx pause o) (left : Nat) (started : Option Instant)
    (r : PollResult) :
    Within (afterPoll fx o started r) fun p a q =>
      c.polled left started r p → c.reached o left a q := by
  cases r with
  | error f => exact .pure fun p hpolled => h.fault left started f p hpolled
  | ok s =>
      cases hdemand : o.demand s with
      | finish r =>
          simp only [Snowflake.afterPoll, hdemand]
          exact .pure fun p hpolled => h.finish left started s r p hdemand hpolled
      | pause b =>
          rw [afterPoll_pause fx hdemand]
          -- The looks at the stopwatch come first, and then the time decides.
          refine (h.time left started s b hdemand).bind fun a => .pure ?_
          intro q p htime hpolled
          exact h.settle (htime hpolled)

/-- A round keeps the invariant, from before its poll. -/
theorem Holds.round (h : c.Holds fx pause o) (left : Nat) (started : Option Instant) :
    Within (round fx o started) fun p a q => c.ready (left + 1) started p → c.reached o left a q := by
  rw [round_eq]
  refine (h.poll left started).bind fun r => (h.afterPoll left started r).mono ?_
  intro q a t hafter p hpoll hready
  exact hafter (hpoll hready)

/-- By induction on the rounds: a call goes from `ready` to `ended`. -/
theorem Holds.callFrom (h : c.Holds fx pause o) (polls : Nat) (started : Option Instant) :
    Within (callFrom fx pause o polls started) fun p r q =>
      c.ready polls started p → c.ended r q := by
  induction polls generalizing started with
  | zero => exact .pure fun p hready => h.waiting started p hready
  | succ polls ih =>
      refine (h.round polls started).bind fun a => ?_
      obtain ⟨rd, next⟩ := a
      cases rd with
      | finished r => exact .pure fun q p hreached hready => hreached hready
      | pausing b =>
          intro q p hreached hready
          obtain ⟨start, wanted, waited, rfl, hallow, htimed⟩ := hreached hready
          -- The pause leads to the next poll, with the same start.
          have hnext := h.pause polls start wanted waited b hallow q htimed
          exact ih (some start) (after (pause b) q) hnext

end Course

end Snowflake
