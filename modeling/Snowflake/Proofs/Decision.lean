import Snowflake.Machine
import Snowflake.Proofs.Course

/-!
# `Snowflake.Proofs.Decision`: which poll ends a blocking call

A poll is decisive when it gives an identifier, when it fails, when the clock
is behind by more than the options tolerate, or when nothing of the budget is
left at a pause. `Options.Decides` lists these cases with what the call
returns, and `Options.GoesOn` says what is left: a used-up millisecond or a
tolerated drift, with some of the budget left.

`generate_ends_at_first_decision` is about any sequence of poll results and any
stopwatch. The call ends at the first decisive poll, and the time that decides
over its budget is measured from one look at the stopwatch, whatever the polls
in between.
-/

set_option autoImplicit false

namespace Snowflake

/-! ### Decisive polls -/

namespace Options

/-- The statuses that a call waits through while its budget lasts. -/
inductive Tolerates (o : Options) : Status → Prop
  /-- The millisecond is used up. -/
  | pending (yieldFor : Nat) : Tolerates o (.pending yieldFor)
  /-- The clock is behind, at most as far as the policy allows. -/
  | behind {drift : Nat} {maxDrift : Duration} (hpolicy : o.driftPolicy = .wait maxDrift)
      (hdrift : .ofMillis drift ≤ maxDrift) : Tolerates o (.behind drift)

/-- The result of a poll, after so much waiting, ends the call with the outcome
given. -/
inductive Decides (o : Options) : PollResult → Duration → Except Fault Flake → Prop
  | ready (id : Flake) (waited : Duration) : Decides o (.ok (.ready id)) waited (.ok id)
  | fault (f : Fault) (waited : Duration) : Decides o (.error f) waited (.error f)
  /-- The policy waits for no drift. -/
  | failing (drift : Nat) (waited : Duration) (hpolicy : o.driftPolicy = .fail) :
      Decides o (.ok (.behind drift)) waited (.error (.error (.clockMovedBackward drift)))
  /-- The policy does not wait for this drift. -/
  | tooFar (drift : Nat) (waited : Duration) {maxDrift : Duration}
      (hpolicy : o.driftPolicy = .wait maxDrift) (hdrift : maxDrift < .ofMillis drift) :
      Decides o (.ok (.behind drift)) waited (.error (.error (.clockMovedBackward drift)))
  /-- The status is tolerated, and the budget is spent. -/
  | spent {s : Status} {waited : Duration} (hs : o.Tolerates s) (hwaited : o.maxWait ≤ waited) :
      Decides o (.ok s) waited (.error (.error (.generationTimeout waited)))

/-- The result of a poll leads to another poll. -/
structure GoesOn (o : Options) (r : PollResult) (waited : Duration) : Prop where
  tolerated : ∃ s, r = .ok s ∧ o.Tolerates s
  unspent : waited < o.maxWait

/-- A drift is tolerated or too far, never both. -/
theorem Tolerates.drift_le {o : Options} {drift : Nat} (h : o.Tolerates (.behind drift)) :
    ∃ maxDrift, o.driftPolicy = .wait maxDrift ∧ .ofMillis drift ≤ maxDrift := by
  cases h with
  | behind hpolicy hdrift => exact ⟨_, hpolicy, hdrift⟩

/-- A poll that leads to another one decides nothing. -/
theorem GoesOn.not_decides {o : Options} {r : PollResult} {waited : Duration}
    (h : o.GoesOn r waited) (result : Except Fault Flake) : ¬ o.Decides r waited result := by
  obtain ⟨s, rfl, hs⟩ := h.tolerated
  have hunspent := h.unspent
  intro hdecides
  cases hdecides with
  | ready id => cases hs
  | failing drift _ hpolicy =>
      obtain ⟨maxDrift, hwait, -⟩ := hs.drift_le
      rw [hpolicy] at hwait
      cases hwait
  | tooFar drift _ hpolicy hfar =>
      obtain ⟨maxDrift, hwait, hle⟩ := hs.drift_le
      rw [hpolicy] at hwait
      cases hwait
      simp only [Duration.lt_iff, Duration.le_iff] at hfar hle
      omega
  | spent _ hspent =>
      simp only [Duration.lt_iff, Duration.le_iff] at hunspent hspent
      omega

/-- A pause is asked for exactly after a tolerated status. -/
theorem demand_pause_iff {o : Options} {s : Status} :
    (∃ b, o.demand s = .pause b) ↔ o.Tolerates s := by
  constructor
  · rintro ⟨b, hdemand⟩
    cases demands hdemand with
    | pending yieldFor => exact .pending yieldFor
    | behind drift hpolicy hdrift => exact .behind hpolicy hdrift
  · intro hs
    cases hs with
    | pending yieldFor => exact ⟨_, rfl⟩
    | @behind drift maxDrift hpolicy hdrift =>
        have hnear : ¬ maxDrift < Duration.ofMillis drift := Nat.not_lt_of_le hdrift
        exact ⟨.sleep (.ofMillis drift), by simp only [demand, hpolicy, if_neg hnear]⟩

/-- A status that asks for no pause decides, whatever the time. -/
theorem demand_finish_decides {o : Options} {s : Status} {r : Except Error Flake}
    (h : o.demand s = .finish r) (waited : Duration) :
    o.Decides (.ok s) waited (r.mapError .error) := by
  cases demands h with
  | ready id => exact .ready id waited
  | failing drift hpolicy => exact .failing drift waited hpolicy
  | tooFar drift hpolicy hdrift => exact .tooFar drift waited hpolicy hdrift

end Options

/-! ### A stopwatch written down, polls written down -/

namespace Tape

/-- A call over poll results that are written down. The number is that of the
polls so far. -/
def polled (results : Nat → PollResult) : Effects (StateT Nat (StateM Tape)) where
  poll := modifyGet fun made => (results made, made + 1)
  instant := StateT.lift machine.instant
  yield := StateT.lift machine.yield
  sleep d := StateT.lift (machine.sleep d)

/-- The start of a call that begins on this tape, if it comes to wait. -/
def start (t : Tape) : Instant := t.stopwatch t.stopwatchLooks

/-- The time since the start at the look number `k` after it. -/
def waited (t : Tape) (k : Nat) : Duration :=
  (t.stopwatch (t.stopwatchLooks + 1 + k)).since t.start

/-- The looks at the stopwatch in a call that asked so many times how long it
has waited. The first time it also looks for the start. -/
def looksFor : Nat → Nat
  | 0 => 0
  | asked + 1 => asked + 2

/-- The same stopwatch, after the looks of a call that asked so many times. -/
def Asked (t : Tape) (asked : Nat) (u : Tape) : Prop :=
  u.stopwatch = t.stopwatch ∧ u.stopwatchLooks = t.stopwatchLooks + looksFor asked

/-- The start, once the call has asked. -/
def startAfter (t : Tape) : Nat → Option Instant
  | 0 => none
  | _ + 1 => some t.start

/-- Whether or not there is a start already, the next question is about the
same one. -/
theorem sinceStart_asked (results : Nat → PollResult) (t : Tape) (k : Nat) :
    Within (sinceStart (polled results) (t.startAfter k)) fun p a q =>
      t.Asked k p.2 → q.1 = p.1 ∧ a = (t.start, t.waited k) ∧ t.Asked (k + 1) q.2 := by
  rintro ⟨made, u⟩ ⟨hstopwatch, hlooks⟩
  cases k with
  | zero =>
      -- Two looks: one for the start, one for the time.
      refine ⟨rfl, ?_, ?_⟩
      · show (u.stopwatch u.stopwatchLooks,
          (u.stopwatch (u.stopwatchLooks + 1)).since (u.stopwatch u.stopwatchLooks)) = _
        rw [hstopwatch, hlooks]
        rfl
      · exact ⟨hstopwatch, congrArg (· + 2) hlooks⟩
  | succ k =>
      have hlook : t.stopwatchLooks + (k + 2) = t.stopwatchLooks + 1 + (k + 1) := by omega
      refine ⟨rfl, ?_, ?_⟩
      · show (t.start, (u.stopwatch u.stopwatchLooks).since t.start) = _
        rw [hstopwatch, hlooks]
        show (t.start, (t.stopwatch (t.stopwatchLooks + (k + 2))).since t.start) = _
        rw [hlook]
        rfl
      · exact ⟨hstopwatch, congrArg (· + 1) hlooks⟩

end Tape

/-! ### The first decision -/

section

variable (results : Nat → PollResult) (o : Options) (polls : Nat) (t : Tape)

/-- The first polls all lead to another one. -/
def AllGoOn (made : Nat) : Prop := ∀ j < made, o.GoesOn (results j) (t.waited j)

/-- How a call of so many polls at most has ended: after the first decisive one,
or not yet. The stopwatch was asked at each tolerated status. -/
inductive EndsAt : Option (Except Fault Flake) → Nat → Tape → Prop
  | decided {k asked : Nat} {result : Except Fault Flake} {u : Tape} (hk : k < polls)
      (hbefore : AllGoOn results o t k) (hdecides : o.Decides (results k) (t.waited k) result)
      (htolerated : (∃ s, results k = .ok s ∧ o.Tolerates s) → asked = k + 1)
      (hother : (¬ ∃ s, results k = .ok s ∧ o.Tolerates s) → asked = k)
      (hasked : t.Asked asked u) : EndsAt (some result) (k + 1) u
  | waiting {u : Tape} (hbefore : AllGoOn results o t polls) (hasked : t.Asked polls u) :
      EndsAt none polls u

/-- The polls of a call, one after the other. -/
def pollCourse : Course Nat Tape where
  ready left started p := p.1 + left = polls ∧ started = t.startAfter p.1 ∧
    AllGoOn results o t p.1 ∧ t.Asked p.1 p.2
  polled left started r p := ∃ k, p.1 = k + 1 ∧ k + 1 + left = polls ∧ r = results k ∧
    started = t.startAfter k ∧ AllGoOn results o t k ∧ t.Asked k p.2
  timed left start _ waited p := ∃ k s, p.1 = k + 1 ∧ k + 1 + left = polls ∧ results k = .ok s ∧
    o.Tolerates s ∧ start = t.start ∧ waited = t.waited k ∧ AllGoOn results o t k ∧
    t.Asked (k + 1) p.2
  ended r p := EndsAt results o polls t r p.1 p.2

variable {results o t}

/-- One more poll that leads to another one. -/
theorem AllGoOn.succ {k : Nat} (h : AllGoOn results o t k)
    (hk : o.GoesOn (results k) (t.waited k)) : AllGoOn results o t (k + 1) := by
  intro j hj
  rcases Nat.lt_succ_iff_lt_or_eq.mp hj with hlt | rfl
  · exact h j hlt
  · exact hk

/-- A look that finds the budget spent is not among those that went on. -/
theorem AllGoOn.le_of_spent {made k : Nat} (h : AllGoOn results o t made)
    (hspent : o.maxWait ≤ t.waited k) : made ≤ k := by
  refine Nat.le_of_not_lt fun hk => ?_
  exact Nat.not_lt_of_le hspent (h k hk).unspent

variable (results o t)

/-- Each step of a call keeps the count of polls and looks, and ends the call
only at a decisive poll. -/
theorem pollCourse_holds :
    (pollCourse results o polls t).Holds (Tape.polled results) (Tape.polled results).block o where
  poll left started := by
    rintro ⟨made, u⟩ ⟨hleft, hstarted, hbefore, hasked⟩
    exact ⟨made, rfl, by omega, rfl, hstarted, hbefore, hasked⟩
  fault left started f p := by
    rintro ⟨k, hmade, hleft, hr, -, hbefore, hasked⟩
    have hother : ¬ ∃ s, results k = .ok s ∧ o.Tolerates s := by
      rintro ⟨s, hs, -⟩
      rw [← hr] at hs
      cases hs
    show EndsAt results o polls t _ p.1 p.2
    rw [hmade]
    exact .decided (by omega) hbefore (hr ▸ .fault f _) (absurd · hother) (fun _ => rfl) hasked
  finish left started s r p hdemand := by
    rintro ⟨k, hmade, hleft, hr, -, hbefore, hasked⟩
    -- The status asks for no pause, so it is not a tolerated one.
    have hother : ¬ ∃ s, results k = .ok s ∧ o.Tolerates s := by
      rintro ⟨s', hs', htolerated⟩
      obtain ⟨b, hpause⟩ := Options.demand_pause_iff.mpr htolerated
      rw [← hr] at hs'
      cases hs'
      rw [hdemand] at hpause
      cases hpause
    show EndsAt results o polls t _ p.1 p.2
    rw [hmade]
    exact .decided (by omega) hbefore (hr ▸ Options.demand_finish_decides hdemand _)
      (absurd · hother) (fun _ => rfl) hasked
  time left started s b hdemand := by
    rintro p ⟨k, hmade, hleft, hr, rfl, hbefore, hasked⟩
    obtain ⟨hsame, hanswer, hnext⟩ := Tape.sinceStart_asked results t k p hasked
    exact ⟨k, s, hsame.trans hmade, hleft, hr.symm, Options.demand_pause_iff.mp ⟨b, hdemand⟩,
      congrArg Prod.fst hanswer, congrArg Prod.snd hanswer, hbefore, hnext⟩
  spent left start b waited p hspent := by
    rintro ⟨k, s, hmade, hleft, hs, htolerated, -, rfl, hbefore, hasked⟩
    show EndsAt results o polls t _ p.1 p.2
    rw [hmade]
    exact .decided (by omega) hbefore (hs ▸ .spent htolerated hspent) (fun _ => rfl)
      (absurd ⟨s, hs, htolerated⟩) hasked
  pause left start wanted waited b hallow := by
    have hunspent := Options.allow_unspent hallow
    rintro ⟨made, u⟩ ⟨k, s, rfl, hleft, hs, htolerated, rfl, rfl, hbefore, hasked⟩
    have hgoesOn : o.GoesOn (results k) (t.waited k) := ⟨⟨s, hs, htolerated⟩, hunspent⟩
    -- A pause has no influence on the stopwatch or on the polls.
    cases b with
    | spin yieldFor => exact ⟨hleft, rfl, hbefore.succ hgoesOn, hasked⟩
    | sleep d => exact ⟨hleft, rfl, hbefore.succ hgoesOn, hasked⟩
  waiting started p := by
    rintro ⟨hmade, -, hbefore, hasked⟩
    obtain ⟨made, u⟩ := p
    obtain rfl : made = polls := hmade
    exact .waiting hbefore hasked

end

/-- No call looks back behind the stopwatch's place when it began. -/
theorem Tape.Asked.looks {t u : Tape} {asked : Nat} (h : t.Asked asked u) :
    u.stopwatchLooks - t.stopwatchLooks = if asked = 0 then 0 else asked + 1 := by
  rw [h.2, Nat.add_sub_cancel_left]
  cases asked <;> rfl

/-- Take any results of polls, any options and any stopwatch, and follow the
call for any number of polls.

If the call has ended, it ended at the first decisive poll, and returned what
that poll decides: its identifier, its fault unchanged, the error about the
drift whatever is left of the budget, or the error about the spent budget with
the time waited. Each poll before it found a used-up millisecond or a tolerated
drift while some of the budget was left.

All times are measured from one look at the stopwatch. The call takes it, and
one more for each tolerated status. So it takes none if its first poll gives an
identifier or an error, or finds a drift that is not tolerated.

If the call has not ended, all of its polls led to another one. So it ends at
the latest when the stopwatch reaches the budget. -/
theorem generate_ends_at_first_decision (results : Nat → PollResult) (o : Options) (polls : Nat)
    (t : Tape) :
    let ((r, made), u) := generate (Tape.polled results) o polls 0 t
    let looks := u.stopwatchLooks - t.stopwatchLooks
    (∀ result, r = some result → ∃ k < polls, made = k + 1 ∧
      o.Decides (results k) (t.waited k) result ∧
      (∀ j < k, o.GoesOn (results j) (t.waited j) ∧
        ∀ other, ¬ o.Decides (results j) (t.waited j) other) ∧
      ((∃ s, results k = .ok s ∧ o.Tolerates s) → looks = k + 2) ∧
      ((¬ ∃ s, results k = .ok s ∧ o.Tolerates s) → looks = if k = 0 then 0 else k + 1)) ∧
    (r = none → made = polls ∧ (∀ j < polls, o.GoesOn (results j) (t.waited j)) ∧
      looks = if polls = 0 then 0 else polls + 1) ∧
    ∀ k < polls, o.maxWait ≤ t.waited k → r ≠ none ∧ made ≤ k + 1 := by
  have hready : (pollCourse results o polls t).ready polls none (0, t) :=
    ⟨Nat.zero_add polls, rfl, fun j hj => absurd hj (Nat.not_lt_zero j), rfl, rfl⟩
  -- The call is the loop that the course is about, begun with no poll made.
  have hends : EndsAt results o polls t (answer (generate (Tape.polled results) o polls) (0, t))
      (after (generate (Tape.polled results) o polls) (0, t)).1
      (after (generate (Tape.polled results) o polls) (0, t)).2 := by
    rw [generate_eq]
    exact (pollCourse_holds results o polls t).callFrom polls none (0, t) hready
  rcases hrun : generate (Tape.polled results) o polls 0 t with ⟨⟨r, made⟩, u⟩
  simp only [answer, after, hrun] at hends
  cases hends with
  | @decided k asked result _ hk hbefore hdecides htolerated hother hasked =>
      refine ⟨?_, by simp, ?_⟩
      · intro returned hreturned
        obtain rfl : result = returned := Option.some.inj hreturned
        refine ⟨k, hk, rfl, hdecides, ?_, ?_, ?_⟩
        · intro j hj
          exact ⟨hbefore j hj, (hbefore j hj).not_decides⟩
        · intro h
          -- The start, the polls before, and this one.
          rw [hasked.looks, htolerated h, if_neg (Nat.succ_ne_zero k)]
        · intro h
          rw [hasked.looks, hother h]
      · intro j hj hspent
        exact ⟨by simp, Nat.succ_le_succ (hbefore.le_of_spent hspent)⟩
  | waiting hbefore hasked =>
      refine ⟨by simp, fun _ => ⟨rfl, hbefore, hasked.looks⟩, ?_⟩
      intro j hj hspent
      exact absurd (hbefore.le_of_spent hspent) (Nat.not_le_of_lt hj)

end Snowflake
