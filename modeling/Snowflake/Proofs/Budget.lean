import Snowflake.Proofs.Course
import Snowflake.Proofs.Timeline

/-!
# `Snowflake.Proofs.Budget`: what a call sleeps, and what its budget allows

A call that waits sleeps between its polls, in pieces that nobody knows
beforehand. This module bounds their sum.

`Granted` says what stands in an onlooker's notes when a pause comes: the
stopwatch has just been looked at, the last poll asks for a pause, and the rule
grants this one. `Sound` says it of every sleep in the notes. A call keeps its
notes sound (`budgetCourse_holds`), whatever deed a pause is written down as.

The blocking call sleeps only while the clock is behind, and every sleep is cut
to what is left of the budget. `generate_sleeps_within_budget` states that the
sum is within the budget. It assumes that a sleep takes its time
(`Deed.Paced`); otherwise the stopwatch tells nothing about the sleeps.

The asynchronous call also sleeps when a millisecond is used up, and that sleep
is one millisecond, never cut. `generateAsync_sleeps` states exactly when the
sleeps respect the budget, and that one millisecond is all they may exceed it
by.
-/

set_option autoImplicit false

namespace Snowflake

variable {ω : Type}

/-- No status asks for the error about the budget. -/
theorem Options.demand_finish_noTimeout {o : Options} {s : Status} {r : Except Error Flake}
    (h : o.demand s = .finish r) (waited : Duration) : r ≠ .error (.generationTimeout waited) := by
  cases demands h with
  | ready | failing | tooFar => nofun

/-! ### Sound notes -/

section

variable (o : Options) (deed : Backoff → Deed)

/-- The rule grants the pause at this point of the notes. -/
structure Granted (before : List Deed) (b : Backoff) : Prop where
  looked : Deed.JustLooked before
  asked : ∃ s wanted, (Deed.polls before).getLast? = some (.ok s) ∧ Genuine (.ok s) ∧
    o.demand s = .pause wanted ∧ o.allow (Deed.waited before) wanted = .ok b

/-- Every sleep in the notes is a pause that was granted, and nothing is slept
before the first look at the stopwatch. -/
structure Sound (ds : List Deed) : Prop where
  zero : Deed.FromZero ds
  granted : ∀ before d, (before, d) ∈ Deed.sleepsAt ds →
    ∃ b, deed b = .slept d ∧ Granted o before b

/-- The notes of a call under way, whose budget runs from the instant given. -/
structure Underway (started : Option Instant) (ds : List Deed) : Prop extends
    Sound o deed ds where
  start : (Deed.looks ds).head? = started
  fresh : started = none → Deed.sleeps ds = []

/-- Every sleep fits into what is left of the budget when it begins. -/
def SleepsFit (ds : List Deed) : Prop :=
  ∀ s ∈ Deed.sleepsAt ds, s.2 ≤ o.maxWait - Deed.waited s.1

instance (ds : List Deed) : Decidable (SleepsFit o ds) :=
  inferInstanceAs (Decidable (∀ s ∈ Deed.sleepsAt ds, _))

variable {o deed}

/-- A pause is granted only while some of the budget is left. -/
theorem Granted.unspent {before : List Deed} {b : Backoff} (h : Granted o before b) :
    Deed.waited before < o.maxWait := by
  obtain ⟨s, wanted, -, -, -, hallow⟩ := h.asked
  exact Options.allow_unspent hallow

/-- A sleep is granted after a drift that the options tolerate. It lasts as
long as the drift, or as the rest of the budget. -/
theorem Granted.sleep {before : List Deed} {d : Duration} (h : Granted o before (.sleep d)) :
    ∃ drift maxDrift, (Deed.polls before).getLast? = some (.ok (.behind drift)) ∧ 0 < drift ∧
      o.driftPolicy = .wait maxDrift ∧ .ofMillis drift ≤ maxDrift ∧
      d = min (.ofMillis drift) (o.maxWait - Deed.waited before) := by
  obtain ⟨s, wanted, hpoll, hgenuine, hdemand, hallow⟩ := h.asked
  cases Options.allows hallow with
  | sleep asked =>
      cases Options.demands hdemand with
      | behind drift hpolicy hdrift =>
          cases hgenuine with
          | behind hpos => exact ⟨drift, _, hpoll, hpos, hpolicy, hdrift, rfl⟩

/-- A spin is granted after a used-up millisecond. -/
theorem Granted.spin {before : List Deed} {yieldFor : Duration}
    (h : Granted o before (.spin yieldFor)) :
    (Deed.polls before).getLast? = some (.ok (.pending 1)) ∧ yieldFor = .ofMillis 1 := by
  obtain ⟨s, wanted, hpoll, hgenuine, hdemand, hallow⟩ := h.asked
  cases Options.allows hallow with
  | spin =>
      cases Options.demands hdemand with
      | pending =>
          cases hgenuine with
          | pending => exact ⟨hpoll, rfl⟩

/-- If sleeps fit and take their time, they are within the budget together. -/
theorem Sound.asleep_le {ds : List Deed} (h : Sound o deed ds) (hpaced : Deed.Paced ds)
    (hfit : SleepsFit o ds) : Deed.asleep ds ≤ o.maxWait := by
  refine hpaced.asleep_le h.zero ?_
  intro before d hslept
  -- What was waited before the sleep and the sleep itself do not exceed the
  -- budget.
  obtain ⟨b, -, hgranted⟩ := h.granted before d hslept
  have hunspent := hgranted.unspent
  have hrest := hfit (before, d) hslept
  refine ⟨hgranted.looked, ?_⟩
  simp only [Duration.lt_iff, Duration.le_iff, Duration.nanos_add, Duration.nanos_sub]
    at hunspent hrest ⊢
  omega

/-- One more deed keeps the notes sound, if it is no sleep or one that is
granted here. -/
theorem Sound.snoc {ds : List Deed} (h : Sound o deed ds) {x : Deed}
    (hzero : Deed.FromZero (ds ++ [x]))
    (hx : ∀ d, x = .slept d → ∃ b, deed b = .slept d ∧ Granted o ds b) :
    Sound o deed (ds ++ [x]) := by
  refine ⟨hzero, ?_⟩
  intro before d hmem
  -- A sleep of the longer notes is an old one, or the deed just done.
  rcases Deed.mem_sleepsAt_snoc.mp hmem with hold | ⟨rfl, hlast⟩
  · exact h.granted before d hold
  · exact hx d hlast

variable {started : Option Instant}

/-- What is neither a look nor a sleep leaves the call where it is. -/
theorem Underway.snoc {ds : List Deed} (h : Underway o deed started ds) {x : Deed}
    (hlook : Deed.looks [x] = []) (hsleep : Deed.sleeps [x] = []) :
    Underway o deed started (ds ++ [x]) where
  toSound := by
    refine h.toSound.snoc (h.zero.snoc hlook) ?_
    rintro d rfl
    cases hsleep
  start := by
    rw [Deed.looks_append, hlook, List.append_nil]
    exact h.start
  fresh hnone := by
    rw [Deed.sleeps_append, hsleep, List.append_nil]
    exact h.fresh hnone

/-- The readings that a poll takes leave the call where it is. -/
theorem Underway.took {ds : List Deed} (h : Underway o deed started ds) (taken : List Reading) :
    Underway o deed started (ds ++ taken.map .took) := by
  induction taken generalizing ds with
  | nil => simpa using h
  | cons r taken ih =>
      rw [List.map_cons, List.append_cons]
      exact ih (h.snoc rfl rfl)

/-- A look starts the budget, unless it runs already. -/
theorem Underway.looked {ds : List Deed} (h : Underway o deed started ds) (t : Instant) :
    Underway o deed (some (started.getD t)) (ds ++ [.looked t]) where
  toSound := by
    refine h.toSound.snoc (h.zero.snoc_looked ?_ t) nofun
    -- At the first look nothing has been slept, as the budget does not run yet.
    intro hlooks
    have hstart := h.start
    rw [hlooks] at hstart
    exact h.fresh hstart.symm
  start := by
    rw [Deed.looks_append, List.head?_append, h.start]
    cases started <;> rfl
  fresh := nofun

/-- A pause that is granted may be a sleep. -/
theorem Underway.paused {ds : List Deed} {start : Instant}
    (h : Underway o deed (some start) ds) (hdeed : ∀ b, Deed.looks [deed b] = []) {b : Backoff}
    (hgranted : Granted o ds b) : Underway o deed (some start) (ds ++ [deed b]) where
  toSound := h.toSound.snoc (h.zero.snoc (hdeed b)) fun d hd => ⟨b, hd, hgranted⟩
  start := by
    rw [Deed.looks_append, hdeed, List.append_nil]
    exact h.start
  fresh := nofun

/-! ### The course of a call -/

variable (o deed)

/-- The notes are sound at every moment, and say what is known then. -/
def budgetCourse : Course Generator (Watched ω) where
  ready _ started p := Underway o deed started p.2.2
  polled _ started r p := Underway o deed started p.2.2 ∧
    (Deed.polls p.2.2).getLast? = some r ∧ Genuine r
  timed _ start wanted waited p := Underway o deed (some start) p.2.2 ∧
    Deed.JustLooked p.2.2 ∧ Deed.waited p.2.2 = waited ∧
    ∃ s, (Deed.polls p.2.2).getLast? = some (.ok s) ∧ Genuine (.ok s) ∧
      o.demand s = .pause wanted
  ended r p := Sound o deed p.2.2 ∧
    ∀ waited, r = some (.error (.error (.generationTimeout waited))) → o.maxWait ≤ waited

/-- A look at the stopwatch is one deed, whatever others do after it. -/
theorem instant_notes (e : Surroundings ω) (others : StateT Generator (StateM ω) Unit) :
    Within (e.watchedEffects.among (unseen others)).instant fun p t q =>
      q.2.2 = p.2.2 ++ [.looked t] :=
  fun _ => rfl

/-- The stopwatch is looked at once, and before that for the start if there is
none yet. -/
theorem sinceStart_notes (e : Surroundings ω) (others : StateT Generator (StateM ω) Unit)
    (started : Option Instant) :
    Within (sinceStart (e.watchedEffects.among (unseen others)) started) fun p a q =>
      Underway o deed started p.2.2 → Underway o deed (some a.1) q.2.2 ∧
        Deed.JustLooked q.2.2 ∧ Deed.waited q.2.2 = a.2 ∧
        Deed.polls q.2.2 = Deed.polls p.2.2 := by
  have hpolls : ∀ (ds : List Deed) (t : Instant), Deed.polls (ds ++ [.looked t]) = Deed.polls ds :=
    fun ds t => (Deed.polls_append ds _).trans (List.append_nil _)
  -- With the start the budget runs, and it may take a look of its own.
  have hstart : Within (started.elim (e.watchedEffects.among (unseen others)).instant pure)
      fun p start q => Underway o deed started p.2.2 →
        Underway o deed (some start) q.2.2 ∧ Deed.polls q.2.2 = Deed.polls p.2.2 := by
    cases started with
    | some start => exact .pure fun p h => ⟨h, rfl⟩
    | none =>
        refine (instant_notes e others).mono ?_
        intro p t q hnotes h
        rw [hnotes]
        exact ⟨h.looked t, hpolls _ t⟩
  refine hstart.bind fun start => (instant_notes e others).bind fun now => .pure ?_
  intro q p hnotes before hbegun h
  obtain ⟨hunderway, hsame⟩ := hbegun h
  rw [hnotes]
  exact ⟨hunderway.looked now, Deed.justLooked_snoc _ now,
    Deed.waited_snoc_looked hunderway.start now, (hpolls _ now).trans hsame⟩

variable {o deed}

/-- A call keeps its notes sound, whatever others do when it lets go of the
generator, and however its pauses are written down. -/
theorem budgetCourse_holds (e : Surroundings ω) (others : StateT Generator (StateM ω) Unit)
    {pause : Backoff → StateT Generator (StateM (Watched ω)) Unit}
    (hdeed : ∀ b, Deed.looks [deed b] = [])
    (hpause : ∀ b, Within (pause b) fun p _ q => q.2.2 = p.2.2 ++ [deed b]) :
    (budgetCourse o deed).Holds (e.watchedEffects.among (unseen others)) pause o where
  poll left started := by
    intro p hready
    obtain ⟨taken, hnotes⟩ := e.poll_notes p
    have hlast : (Deed.polls (after e.watchedEffects.poll p).2.2).getLast?
        = some (answer e.watchedEffects.poll p) := by
      rw [hnotes, Deed.polls_append]
      exact List.getLast?_concat
    refine ⟨?_, hlast, e.watched.poll_genuine p⟩
    show Underway o deed started (after e.watchedEffects.poll p).2.2
    rw [hnotes]
    exact (hready.took taken).snoc rfl rfl
  fault left started f p := by
    rintro ⟨hunderway, -, hgenuine⟩
    refine ⟨hunderway.toSound, ?_⟩
    rintro waited ⟨⟩
    -- Polls know nothing of the budget.
    cases hgenuine
  finish left started s r p hdemand := by
    rintro ⟨hunderway, -, -⟩
    refine ⟨hunderway.toSound, ?_⟩
    intro waited hr
    cases r with
    | ok id => cases hr
    | error e =>
        cases hr
        exact absurd rfl (Options.demand_finish_noTimeout hdemand waited)
  time left started s b hdemand := by
    refine (sinceStart_notes o deed e others started).mono ?_
    rintro p a q hlook ⟨hunderway, hpoll, hgenuine⟩
    obtain ⟨hnext, hlooked, hwaited, hpolls⟩ := hlook hunderway
    exact ⟨hnext, hlooked, hwaited, s, hpolls ▸ hpoll, hgenuine, hdemand⟩
  spent left start b waited p hspent := by
    rintro ⟨hunderway, -⟩
    refine ⟨hunderway.toSound, ?_⟩
    rintro _ ⟨⟩
    exact hspent
  pause left start wanted waited b hallow := by
    refine (hpause b).mono ?_
    rintro p _ q hnotes ⟨hunderway, hlooked, rfl, s, hpoll, hgenuine, hdemand⟩
    show Underway o deed (some start) q.2.2
    rw [hnotes]
    exact hunderway.paused hdeed ⟨hlooked, s, wanted, hpoll, hgenuine, hdemand, hallow⟩
  waiting started p hready := ⟨hready.toSound, nofun⟩

/-- A call that begins with no notes leaves sound ones. -/
theorem callFrom_notes_sound (e : Surroundings ω)
    (others : StateT Generator (StateM ω) Unit)
    {pause : Backoff → StateT Generator (StateM (Watched ω)) Unit}
    (hdeed : ∀ b, Deed.looks [deed b] = [])
    (hpause : ∀ b, Within (pause b) fun p _ q => q.2.2 = p.2.2 ++ [deed b]) (polls : Nat)
    (g : Generator) (w : ω) :
    let call := callFrom (e.watchedEffects.among (unseen others)) pause o polls none
    let r := answer call (g, (w, []))
    Sound o deed (after call (g, (w, []))).2.2 ∧
      ∀ waited, r = some (.error (.error (.generationTimeout waited))) → o.maxWait ≤ waited := by
  have hready : Underway o deed none [] :=
    ⟨⟨nofun, fun before d h => absurd h List.not_mem_nil⟩, rfl, fun _ => rfl⟩
  exact (budgetCourse_holds e others hdeed hpause).callFrom polls none (g, (w, [])) hready

end

/-! ### The blocking call -/

/-- How a pause of the blocking call is written down. -/
def Backoff.blocked : Backoff → Deed
  | .spin _ => .yielded
  | .sleep d => .slept d

/-- The notes of a blocking call are sound, and the error about the budget comes
when it is spent. -/
theorem generate_notes_sound (e : Surroundings ω) (others : StateT Generator (StateM ω) Unit)
    (o : Options) (polls : Nat) (g : Generator) (w : ω) :
    let call := generate (e.watchedEffects.among (unseen others)) o polls
    Sound o Backoff.blocked (after call (g, (w, []))).2.2 ∧
      ∀ waited, answer call (g, (w, [])) = some (.error (.error (.generationTimeout waited))) →
        o.maxWait ≤ waited := by
  intro call
  rw [show call = _ from generate_eq _ o polls]
  refine callFrom_notes_sound e others ?_ ?_ polls g w
  · intro b
    cases b <;> rfl
  · intro b p
    cases b <;> rfl

/-- A sleep of the blocking call, after what stands in the notes before it. -/
structure BlockedSleep (o : Options) (before : List Deed) (d : Duration) : Prop where
  looked : Deed.JustLooked before
  unspent : Deed.waited before < o.maxWait
  /-- The clock was behind, by what the policy tolerates. The sleep lasts as long
  as the drift or the rest of the budget, whichever is shorter. -/
  length : ∃ drift maxDrift, (Deed.polls before).getLast? = some (.ok (.behind drift)) ∧
    o.driftPolicy = .wait maxDrift ∧ .ofMillis drift ≤ maxDrift ∧
    d = min (.ofMillis drift) (o.maxWait - Deed.waited before) ∧ ⟨0⟩ < d ∧ d ≤ maxDrift

namespace Sound

variable {o : Options} {deeds : List Deed} (h : Sound o Backoff.blocked deeds)

include h

/-- Every sleep of a blocking call is a drift, or what is left of the budget. -/
theorem blockedSleep {before : List Deed} {d : Duration}
    (hslept : (before, d) ∈ Deed.sleepsAt deeds) : BlockedSleep o before d := by
  obtain ⟨b, hb, hgranted⟩ := h.granted before d hslept
  cases b with
  -- A spin is written down as a yield, so it is none of the sleeps.
  | spin yieldFor => cases hb
  | sleep other =>
      cases hb
      have hunspent := hgranted.unspent
      obtain ⟨drift, maxDrift, hpoll, hpos, hpolicy, hnear, rfl⟩ := hgranted.sleep
      refine ⟨hgranted.looked, hunspent, drift, maxDrift, hpoll, hpolicy, hnear, rfl, ?_, ?_⟩
      · simp only [Duration.lt_iff, Duration.nanos_min, Duration.nanos_sub, Duration.ofMillis,
          Duration.nanosPerMilli] at hunspent ⊢
        omega
      · simp only [Duration.le_iff, Duration.nanos_min] at hnear ⊢
        omega

/-- Every sleep of a blocking call fits into what is left of the budget. -/
theorem sleepsFit_of_blocked : SleepsFit o deeds := by
  rintro ⟨before, d⟩ hslept
  obtain ⟨drift, maxDrift, -, -, -, rfl, -⟩ := (h.blockedSleep hslept).length
  simp only [Duration.le_iff, Duration.nanos_min]
  omega

end Sound

/-- Take a generator of either kind in any state, whatever its clock and the
stopwatch show, and any options, and follow the call for any number of polls.
Others may use the generator too. Whatever they do to it comes after a look at
the stopwatch or in a pause, and need not be the same every time. When they do
nothing, the generator is the call's own.

Each sleep of the call comes right after a look at the stopwatch, and the last
poll before it found the clock behind. It lasts as long as the drift or as the
rest of the budget, whichever is shorter. It is not empty, and no longer than
the largest drift that the policy waits for.

The error about the spent budget names no shorter time than the budget. If
sleeps take their time, the sum of them all is within the budget. -/
theorem generate_sleeps_within_budget (e : Surroundings ω)
    (others : StateT Generator (StateM ω) Unit) (o : Options) (polls : Nat) (g : Generator)
    (w : ω) :
    let call := generate (e.watchedEffects.among (unseen others)) o polls
    let r := answer call (g, (w, []))
    let deeds := (after call (g, (w, []))).2.2
    (∀ before d, (before, d) ∈ Deed.sleepsAt deeds → BlockedSleep o before d) ∧
    (∀ waited, r = some (.error (.error (.generationTimeout waited))) → o.maxWait ≤ waited) ∧
    (Deed.Paced deeds → Deed.asleep deeds ≤ o.maxWait) := by
  obtain ⟨hsound, htimeout⟩ := generate_notes_sound e others o polls g w
  refine ⟨fun _ _ => hsound.blockedSleep, htimeout, ?_⟩
  intro hpaced
  exact hsound.asleep_le hpaced hsound.sleepsFit_of_blocked

/-- A tape as the surroundings of calls. -/
def Tape.surroundings : Surroundings Tape := ⟨Tape.machine, Tape.takeReading, pure 0⟩

/-- A tape whose stopwatch and whose clock show the milliseconds given, one
after the other. -/
def Tape.showing (stopwatch readings : List Nat) : Tape where
  wall _ := ⟨0⟩
  stopwatch n := ⟨(Duration.ofMillis (stopwatch.getD n 0)).nanos⟩
  readings n := .millis (readings.getD n 0)

/-- Drifts of half a second are waited for, and 600 milliseconds at most. -/
def patient : Options := ⟨.wait (.ofMillis 500), .ofMillis 600⟩

/-- A generator half a second ahead of the clock that it reads. -/
def ahead : Generator := ⟨⟨7, by decide⟩, .locked (Flake.ofParts 600 7 0) false⟩

/-- The clock stands still. The first sleep takes a millisecond longer than it
was asked to. -/
def standingClock : Tape := .showing [0, 0, 501, 600] [100, 100, 100]

/-- The first sleep is for the drift, and the second one is cut to the 99
milliseconds that are left. -/
theorem generate_sleeps_within_budget_standingClock :
    ∃ r deeds,
      answer (generate Tape.surroundings.watchedEffects patient 4) (ahead, (standingClock, [])) = r ∧
      (after (generate Tape.surroundings.watchedEffects patient 4)
        (ahead, (standingClock, []))).2.2 = deeds ∧
      Deed.sleeps deeds = [.ofMillis 500, .ofMillis 99] ∧
      (∃ before, (before, .ofMillis 99) ∈ Deed.sleepsAt deeds ∧
        BlockedSleep patient before (.ofMillis 99)) ∧
      r = some (.error (.error (.generationTimeout (.ofMillis 600)))) ∧
      patient.maxWait ≤ .ofMillis 600 ∧
      Deed.Paced deeds ∧ Deed.asleep deeds ≤ patient.maxWait := by
  have h := generate_sleeps_within_budget Tape.surroundings (pure ()) patient 4 ahead standingClock
  rw [Effects.among_nobody] at h
  have hslept : Deed.slept (.ofMillis 99) ∈ (after
      (generate Tape.surroundings.watchedEffects patient 4) (ahead, (standingClock, []))).2.2 := by
    decide +kernel
  obtain ⟨before, rest, hsplit⟩ := List.append_of_mem hslept
  have hmem := Deed.mem_sleepsAt.mpr ⟨rest, hsplit⟩
  exact ⟨_, _, rfl, rfl, by decide +kernel, ⟨before, hmem, h.1 _ _ hmem⟩, by decide +kernel,
    h.2.1 _ (by decide +kernel), by decide +kernel, h.2.2 (by decide +kernel)⟩

/-! ### The asynchronous call -/

/-- How a pause of the asynchronous call is written down. -/
def Backoff.awaited (b : Backoff) : Deed := .slept b.length

/-- A sleep that the caller provides, written down by the onlooker. Whatever
else runs meanwhile may use the generator. -/
def awaiting (sleepFor : Duration → StateT Generator (StateM ω) Unit) (d : Duration) :
    StateT Generator (StateM (Watched ω)) Unit :=
  fun g v => (((), (sleepFor d g v.1).1.2), ((sleepFor d g v.1).2, v.2 ++ [.slept d]))

/-- The notes of an asynchronous call are sound, with every pause written down
as a sleep. -/
theorem generateAsync_notes_sound (e : Surroundings ω)
    (sleepFor : Duration → StateT Generator (StateM ω) Unit) (o : Options) (polls : Nat)
    (g : Generator) (w : ω) :
    Sound o Backoff.awaited
      (after (generateAsync e.watchedEffects (awaiting sleepFor) o polls) (g, (w, []))).2.2 := by
  rw [generateAsync_eq]
  exact (callFrom_notes_sound e (pure ()) (fun b => rfl) (fun b p => rfl) polls g w).1

/-- A sleep of the asynchronous call, after what stands in the notes before
it. -/
structure AwaitedSleep (o : Options) (before : List Deed) (d : Duration) : Prop where
  looked : Deed.JustLooked before
  unspent : Deed.waited before < o.maxWait
  /-- One millisecond when the millisecond was used up. When the clock was
  behind, the drift or the rest of the budget, whichever is shorter. -/
  length : (Deed.polls before).getLast? = some (.ok (.pending 1)) ∧ d = .ofMillis 1 ∨
    ∃ drift, (Deed.polls before).getLast? = some (.ok (.behind drift)) ∧
      d = min (.ofMillis drift) (o.maxWait - Deed.waited before)

section

variable (o : Options) (deeds : List Deed)

/-- Whenever a sleep is for the next millisecond, a millisecond of the budget is
left. -/
def SpinsFit : Prop :=
  ∀ s ∈ Deed.sleepsAt deeds, (Deed.polls s.1).getLast? = some (.ok (.pending 1)) →
    .ofMillis 1 ≤ o.maxWait - Deed.waited s.1

instance : Decidable (SpinsFit o deeds) :=
  inferInstanceAs (Decidable (∀ s ∈ Deed.sleepsAt deeds, _ → _))

variable {o deeds}

/-- One millisecond is all that a sleep may exceed the budget by. -/
theorem AwaitedSleep.ends_before {before : List Deed} {d : Duration}
    (h : AwaitedSleep o before d) :
    Deed.waited before + d ≤ ⟨(o.maxWait + .ofMillis 1).nanos - 1⟩ := by
  have hunspent := h.unspent
  rcases h.length with ⟨-, rfl⟩ | ⟨drift, -, rfl⟩
  · simp only [Duration.lt_iff, Duration.le_iff, Duration.nanos_add, Duration.ofMillis,
      Duration.nanosPerMilli] at hunspent ⊢
    omega
  · -- A sleep that is cut does not exceed the budget at all.
    simp only [Duration.lt_iff, Duration.le_iff, Duration.nanos_add, Duration.nanos_min,
      Duration.nanos_sub, Duration.ofMillis, Duration.nanosPerMilli] at hunspent ⊢
    omega

namespace Sound

variable (h : Sound o Backoff.awaited deeds)

include h

/-- Every sleep of an asynchronous call is a spin of one millisecond, or a
drift that is cut. -/
theorem awaitedSleep {before : List Deed} {d : Duration}
    (hslept : (before, d) ∈ Deed.sleepsAt deeds) : AwaitedSleep o before d := by
  obtain ⟨b, hb, hgranted⟩ := h.granted before d hslept
  refine ⟨hgranted.looked, hgranted.unspent, ?_⟩
  cases b with
  | spin yieldFor =>
      cases hb
      exact .inl hgranted.spin
  | sleep other =>
      cases hb
      obtain ⟨drift, -, hpoll, -, -, -, hlength⟩ := hgranted.sleep
      exact .inr ⟨drift, hpoll, hlength⟩

/-- Only the sleep for the next millisecond may fail to fit. -/
theorem sleepsFit_iff : SleepsFit o deeds ↔ SpinsFit o deeds := by
  constructor
  · intro hfit s hslept hpending
    have hrest := hfit s hslept
    rcases (h.awaitedSleep hslept).length with ⟨-, hlength⟩ | ⟨drift, hbehind, -⟩
    · rw [hlength] at hrest
      exact hrest
    · rw [hpending] at hbehind
      cases hbehind
  · intro hfit s hslept
    rcases (h.awaitedSleep hslept).length with ⟨hpending, hlength⟩ | ⟨drift, -, hlength⟩
    · rw [hlength]
      exact hfit s hslept hpending
    · rw [hlength]
      simp only [Duration.le_iff, Duration.nanos_min]
      omega

/-- If sleeps take their time, they are less than a millisecond above the
budget together. -/
theorem asleep_lt (hpaced : Deed.Paced deeds) :
    Deed.asleep deeds < o.maxWait + .ofMillis 1 := by
  -- Only the last sleep counts: it ends before that moment.
  have hbound := hpaced.asleep_le h.zero fun before d hslept =>
    ⟨(h.awaitedSleep hslept).looked, (h.awaitedSleep hslept).ends_before⟩
  simp only [Duration.le_iff, Duration.lt_iff, Duration.nanos_add, Duration.ofMillis,
    Duration.nanosPerMilli] at hbound ⊢
  omega

end Sound

end

/-- Take a generator of either kind in any state, whatever its clock and the
stopwatch show, any options, and any sleep that the caller provides, with
whatever others do to the generator meanwhile. Follow the call for any number
of polls.

Each sleep comes right after a look at the stopwatch, with some of the budget
left, and `AwaitedSleep` says how long it is. Only a sleep for the next
millisecond is not cut to the rest of the budget. So every sleep fits into the
rest exactly if a millisecond is left whenever there is such a sleep.

If that is so and sleeps take their time, the sum of them all is within the
budget. If it is not so, the sum is still less than a millisecond above it. -/
theorem generateAsync_sleeps (e : Surroundings ω)
    (sleepFor : Duration → StateT Generator (StateM ω) Unit) (o : Options) (polls : Nat)
    (g : Generator) (w : ω) :
    let deeds :=
      (after (generateAsync e.watchedEffects (awaiting sleepFor) o polls) (g, (w, []))).2.2
    (∀ before d, (before, d) ∈ Deed.sleepsAt deeds → AwaitedSleep o before d) ∧
    (SleepsFit o deeds ↔ SpinsFit o deeds) ∧
    (Deed.Paced deeds →
      (SpinsFit o deeds → Deed.asleep deeds ≤ o.maxWait) ∧
      Deed.asleep deeds < o.maxWait + .ofMillis 1) := by
  have hsound := generateAsync_notes_sound e sleepFor o polls g w
  refine ⟨fun _ _ => hsound.awaitedSleep, hsound.sleepsFit_iff, fun hpaced => ⟨?_, ?_⟩⟩
  · intro hspins
    exact hsound.asleep_le hpaced (hsound.sleepsFit_iff.mpr hspins)
  · exact hsound.asleep_lt hpaced

/-- A generator that has used up the millisecond 100. -/
def usedUp : Generator := ⟨⟨7, by decide⟩, .lockFree (Flake.ofParts 100 7 4095)⟩

/-- The asynchronous call of a program whose sleep is that of the tape. -/
def Tape.generateAsync (o : Options) (polls : Nat) :
    StateT Generator (StateM (Watched Tape)) (Option (Except Fault Flake)) :=
  Snowflake.generateAsync surroundings.watchedEffects
    (awaiting fun d => StateT.lift (machine.sleep d)) o polls

/-- The millisecond is used up, and then the clock goes back. Both sleeps fit
into the budget. -/
theorem generateAsync_sleeps_clockGoesBack :
    ∃ deeds, (after (Tape.generateAsync patient 3)
        (usedUp, (.showing [0, 0, 1] [100, 98, 101], []))).2.2 = deeds ∧
      Deed.sleeps deeds = [.ofMillis 1, .ofMillis 2] ∧
      (∃ before, (before, .ofMillis 2) ∈ Deed.sleepsAt deeds ∧
        AwaitedSleep patient before (.ofMillis 2)) ∧
      Deed.Paced deeds ∧ SpinsFit patient deeds ∧ Deed.asleep deeds ≤ patient.maxWait := by
  have h := generateAsync_sleeps Tape.surroundings
    (fun d => StateT.lift (Tape.machine.sleep d)) patient 3 usedUp
    (.showing [0, 0, 1] [100, 98, 101])
  have hslept : Deed.slept (.ofMillis 2) ∈ (after (Tape.generateAsync patient 3)
      (usedUp, (.showing [0, 0, 1] [100, 98, 101], []))).2.2 := by
    decide +kernel
  obtain ⟨before, rest, hsplit⟩ := List.append_of_mem hslept
  have hmem := Deed.mem_sleepsAt.mpr ⟨rest, hsplit⟩
  have hpaced : Deed.Paced (after (Tape.generateAsync patient 3)
      (usedUp, (.showing [0, 0, 1] [100, 98, 101], []))).2.2 := by
    decide +kernel
  have hspins : SpinsFit patient (after (Tape.generateAsync patient 3)
      (usedUp, (.showing [0, 0, 1] [100, 98, 101], []))).2.2 := by
    decide +kernel
  exact ⟨_, rfl, by decide +kernel, ⟨before, hmem, h.1 _ _ hmem⟩, hpaced, hspins,
    (h.2.2 hpaced).1 hspins⟩

/-- A budget just short of a millisecond, in a millisecond that is used up. The
call sleeps for a whole one, and that is more than the budget. -/
theorem generateAsync_sleeps_beyond_budget :
    ∃ deeds, (after (Tape.generateAsync ⟨.fail, ⟨999999⟩⟩ 2)
        (usedUp, (.showing [0, 0] [100, 101], []))).2.2 = deeds ∧
      Deed.sleeps deeds = [.ofMillis 1] ∧ Deed.Paced deeds ∧
      ¬ SleepsFit ⟨.fail, ⟨999999⟩⟩ deeds ∧ ¬ Deed.asleep deeds ≤ ⟨999999⟩ :=
  ⟨_, rfl, by decide +kernel, by decide +kernel, by decide +kernel, by decide +kernel⟩

end Snowflake
