import Snowflake.Proofs.Transcript

/-!
# `Snowflake.Proofs.CatchingUp`: one pause of the drift is enough

A poll that finds the clock behind says by how much. A call that waits sleeps
for that long, and a run that retries a failed call sleeps for what the error
names. In both cases the clock has caught up afterwards if it went on by the
length of the sleep. It then shows the last timestamp or a later one, and a
generator is not behind a clock that does (`Generator.Reads.caught_up`). The
millisecond may be used up, which costs further polls, but no sleep for a drift.

The argument needs the last timestamp to stay as it is meanwhile. It does: a
poll changes the generator only when it issues an identifier, and then the call
is over.

`one_pause_catches_up` states this for a call that waits and for the calls for
one identifier under the policy that fails. The calls may have ended with
nothing, if the clock and the stopwatch stand still. `StillWaiting` says what is
known then.
-/

set_option autoImplicit false

namespace Snowflake

open Cli

variable {o : Options}

/-- The clock shows the millisecond or a later one, and does not panic. -/
def Reading.NotBefore (t : Nat) : Reading → Prop
  | .millis now => t ≤ now
  | .failure => False

instance (t : Nat) : DecidablePred (Reading.NotBefore t) := fun x =>
  match x with
  | .millis now => inferInstanceAs (Decidable (t ≤ now))
  | .failure => inferInstanceAs (Decidable False)

/-! ### Behind -/

/-- A poll that reads an earlier millisecond than the last one ends with it. -/
theorem Generator.Reads.behind {g h : Generator} {front back : List Reading} {now : Nat}
    {r : PollResult} (hreads : g.Reads (front ++ .millis now :: back) r h)
    (hnow : now < g.cell.last.timestamp) :
    back = [] ∧ r = .ok (.behind (g.cell.last.timestamp - now)) ∧ h = g ∧
      g.cell.isPoisoned = false := by
  have hjudge : judgeReading g.cell.last (.millis now)
      = .ok (.answer (.behind (g.cell.last.timestamp - now))) := judge_earlier hnow
  -- The reading stands anywhere among those of the poll, so the list is named
  -- before the cases.
  generalize htaken : front ++ .millis now :: back = taken at hreads
  cases hreads with
  | refused hpoisoned => simp at htaken
  | @judged lost x _ _ hpoisoned hlost hpoll =>
      rcases concat_eq_append_cons htaken.symm with ⟨inside, rfl, -⟩ | ⟨-, rfl, rfl⟩
      · -- A reading that is lost would have given an identifier.
        obtain ⟨next, hissue⟩ := hlost (.millis now) (by simp)
        rw [hjudge] at hissue
        cases hissue
      · have hcases := g.poll_cases hpoisoned (.millis now)
        obtain ⟨rfl, rfl⟩ : r = .ok (.behind (g.cell.last.timestamp - now)) ∧ h = g := by
          simpa [hjudge, hpoll] using hcases
        exact ⟨rfl, rfl, rfl, hpoisoned⟩

/-- So only the drift and the looks at the stopwatch follow such a reading in the
notes of its round, and the drift settles the round. -/
theorem RoundNotes.behind {started : Option Instant} {g k : Generator}
    {a : Round × Option Instant} {inside rest : List Deed} {now : Nat}
    (h : RoundNotes o started g a (inside ++ .took (.millis now) :: rest) k)
    (hnow : now < g.cell.last.timestamp) :
    let drift := g.cell.last.timestamp - now
    k = g ∧ g.cell.isPoisoned = false ∧
    ∃ (front : List Reading) (looked : List Instant), inside = front.map .took ∧
      rest = Deed.ofRound [] (.ok (.behind drift)) looked ∧
      ((looked = [] ∧ ∃ r, o.demand (.behind drift) = .finish r ∧
        a.1 = .finished (r.mapError .error)) ∨
      ∃ wanted start waited, o.demand (.behind drift) = .pause wanted ∧
        Looks started start waited looked ∧ a = (o.settle wanted waited, some start)) := by
  intro drift
  -- A round has one poll, so the reading is one of those that the poll took.
  generalize hds : inside ++ .took (.millis now) :: rest = ds at h
  cases h with
  | fault hreads =>
      obtain ⟨front, back, rfl, -, -⟩ := Deed.ofRound_split hds.symm
      obtain ⟨-, hother, -⟩ := hreads.behind hnow
      cases hother
  | @finish taken s r _ hreads hdemand =>
      obtain ⟨front, back, rfl, hinside, rfl⟩ := Deed.ofRound_split hds.symm
      obtain ⟨rfl, hs, rfl, hpoisoned⟩ := hreads.behind hnow
      cases hs
      exact ⟨rfl, hpoisoned, front, [], hinside, rfl, .inl ⟨rfl, r, hdemand, rfl⟩⟩
  | @timed taken s wanted _ start waited looked hreads hdemand hlooks =>
      obtain ⟨front, back, rfl, hinside, rfl⟩ := Deed.ofRound_split hds.symm
      obtain ⟨rfl, hs, rfl, hpoisoned⟩ := hreads.behind hnow
      cases hs
      exact ⟨rfl, hpoisoned, front, looked, hinside, rfl,
        .inr ⟨wanted, start, waited, hdemand, hlooks, rfl⟩⟩

section

variable {left : Nat} {started : Option Instant} {g k : Generator}
  {result : Option (Except Fault Flake)} {ds before rest prior : List Deed} {now : Nat}

/-- A call that waits for the drift goes on after a sleep of the drift, if that
much is left of the budget. -/
theorem CallNotes.behind_waiting (h : CallNotes o left started g result ds k)
    (hstarted : (Deed.looks prior).head? = started)
    (hsplit : ds = before ++ .took (.millis now) :: rest) (hnow : now < g.cell.last.timestamp)
    {maxDrift : Duration} (hpolicy : o.driftPolicy = .wait maxDrift)
    (hdrift : .ofMillis (g.cell.last.timestamp - now) ≤ maxDrift) :
    let drift := g.cell.last.timestamp - now
    ∃ looked tail, rest = Deed.ofRound [] (.ok (.behind drift)) looked ++ tail ∧
      (.ofMillis drift ≤ o.maxWait - Deed.waited (prior ++ before ++ .took (.millis now)
          :: Deed.ofRound [] (.ok (.behind drift)) looked) →
        ∃ later left' next, tail = .slept (.ofMillis drift) :: later ∧
          g.cell.isPoisoned = false ∧ CallNotes o left' next g result later k) := by
  intro drift
  obtain ⟨earlier, inside, round, tail, a, h', rfl, rfl, hround, hafter⟩ :=
    h.round_of_took hstarted hsplit
  obtain ⟨rfl, hpoisoned, front, looked, rfl, rfl, hsettled⟩ := hround.behind hnow
  refine ⟨looked, tail, rfl, fun hfits => ?_⟩
  rcases hsettled with ⟨-, r, hdemand, -⟩ | ⟨wanted, start, waited, hdemand, hlooks, rfl⟩
  · cases Options.demands hdemand with
    | failing _ hfail =>
        rw [hpolicy] at hfail
        cases hfail
    | tooFar _ hother hfar =>
        rw [hpolicy] at hother
        cases hother
        exact absurd hdrift (Nat.not_le_of_lt hfar)
  · cases Options.demands hdemand
    -- What was waited is what the onlooker makes of the notes.
    have hwaited := (hlooks.waited rfl (Deed.looks_ofRound (front ++ [.millis now])
      (.ok (.behind drift)) looked)).1
    have hnotes : prior ++ earlier ++ Deed.ofRound (front ++ [.millis now]) (.ok (.behind drift))
        looked = prior ++ (earlier ++ front.map .took) ++ .took (.millis now)
          :: Deed.ofRound [] (.ok (.behind drift)) looked := by
      simp [Deed.ofRound]
    rw [hnotes] at hwaited
    rw [hwaited] at hfits
    -- Some of the budget is left, and the sleep is not cut.
    have hunspent : ¬ o.maxWait ≤ waited := by
      have hpos : 0 < drift := Nat.sub_pos_of_lt hnow
      simp only [Duration.le_iff, Duration.nanos_sub, Duration.ofMillis,
        Duration.nanosPerMilli] at hfits ⊢
      omega
    have hallow : o.allow waited (.sleep (.ofMillis drift)) = .ok (.sleep (.ofMillis drift)) := by
      have hmin : min (.ofMillis drift) (o.maxWait - waited) = Duration.ofMillis drift :=
        if_pos hfits
      rw [Options.allow, if_neg hunspent, hmin]
    have hsettle : o.settle (.sleep (.ofMillis drift)) waited
        = .pausing (.sleep (.ofMillis drift)) := by
      simp only [Options.settle, hallow]
    rw [hsettle] at hafter
    cases hafter with
    -- The pause is the sleep of the drift, and the rest of the call comes
    -- after it.
    | paused hrest => exact ⟨_, _, _, rfl, hpoisoned, hrest⟩

/-- Under the policy that fails, the call ends with the drift. -/
theorem CallNotes.behind_failing (h : CallNotes o left none g result ds k)
    (hsplit : ds = before ++ .took (.millis now) :: rest) (hnow : now < g.cell.last.timestamp)
    (hpolicy : o.driftPolicy = .fail) :
    let drift := g.cell.last.timestamp - now
    rest = [.polled (.ok (.behind drift))] ∧ k = g ∧ g.cell.isPoisoned = false ∧
      result = some (.error (.error (.clockMovedBackward drift))) := by
  intro drift
  obtain ⟨earlier, inside, round, tail, a, h', rfl, rfl, hround, hafter⟩ :=
    h.round_of_took (show (Deed.looks []).head? = none from rfl) hsplit
  obtain ⟨rfl, hpoisoned, front, looked, rfl, rfl, hsettled⟩ := hround.behind hnow
  rcases hsettled with ⟨rfl, r, hdemand, ha⟩ | ⟨wanted, start, waited, hdemand, -⟩
  · cases Options.demands hdemand with
    | failing | tooFar =>
        cases hafter with
        | ended =>
            cases ha
            exact ⟨rfl, rfl, hpoisoned, rfl⟩
        | paused => cases ha
  · cases Options.demands hdemand with
    | behind _ hwait =>
        rw [hpolicy] at hwait
        cases hwait

end

/-! ### Caught up -/

/-- A poll that reads no earlier millisecond than the last one is not behind. -/
theorem Generator.Reads.caught_up {g h : Generator} {taken : List Reading} {r : PollResult}
    (hreads : g.Reads taken r h) (hpoisoned : g.cell.isPoisoned = false)
    (hlate : ∀ x ∈ taken, x.NotBefore g.cell.last.timestamp) :
    (∃ id, r = .ok (.ready id) ∧ g.cell.last.timestamp ≤ id.timestamp) ∨
    (r = .ok (.pending 1) ∧ h = g) ∨
    ∃ now, r = .error (.error (.timestampOverflow now)) := by
  cases hreads with
  | refused hrefused =>
      rw [hpoisoned] at hrefused
      cases hrefused
  | @judged lost x _ _ _ hlost hpoll =>
      have hx : x.NotBefore g.cell.last.timestamp := hlate x (by simp)
      cases x with
      | failure => exact hx.elim
      | millis now =>
          have hx : g.cell.last.timestamp ≤ now := hx
          have hcases := g.poll_cases hpoisoned (.millis now)
          simp only [judgeReading, hpoll] at hcases
          rcases judge_cases g.cell.last now with ⟨next, hjudge, hfollows⟩ | ⟨-, -, hjudge⟩ |
            ⟨hbehind, -⟩ | ⟨-, hjudge⟩
          · -- The timestamp of the identifier is the reading.
            refine .inl ⟨next, ?_, hfollows.timestamp.symm ▸ hx⟩
            simpa [hjudge] using hcases
          · refine .inr (.inl ?_)
            simpa [hjudge] using hcases
          · omega
          · refine .inr (.inr ⟨now, ?_⟩)
            have hsame : r = .error (.error (.timestampOverflow now)) ∧ h = g := by
              simpa [hjudge] using hcases
            exact hsame.1

/-- How a call ends, from a generator that is not behind its clock. -/
inductive CaughtUp (g : Generator) (left : Nat) (ds : List Deed) :
    Option (Except Fault Flake) → Generator → Prop
  | issued {id : Flake} {h : Generator} (hid : g.cell.last.timestamp ≤ id.timestamp) :
      CaughtUp g left ds (some (.ok id)) h
  | timedOut (waited : Duration) :
      CaughtUp g left ds (some (.error (.error (.generationTimeout waited)))) g
  | overflow (now : Nat) (h : Generator) :
      CaughtUp g left ds (some (.error (.error (.timestampOverflow now)))) h
  /-- It has not ended. Each poll found the millisecond used up. -/
  | waiting (hpolls : Deed.polls ds = List.replicate left (.ok (.pending 1))) :
      CaughtUp g left ds none g

/-- A round that is not behind ends the call, or it pauses for the next
millisecond. -/
theorem RoundNotes.caught_up {started : Option Instant} {g k : Generator}
    {a : Round × Option Instant} {ds : List Deed} (h : RoundNotes o started g a ds k)
    (hpoisoned : g.cell.isPoisoned = false)
    (hlate : ∀ x ∈ Deed.readings ds, x.NotBefore g.cell.last.timestamp) :
    (∀ drift, .ok (.behind drift) ∉ Deed.polls ds) ∧ Deed.sleeps ds = [] ∧
    ((∃ result, a.1 = .finished result ∧ ∀ left es, CaughtUp g left es (some result) k) ∨
      (a.1 = .pausing (.spin (.ofMillis 1)) ∧ k = g ∧ Deed.polls ds = [.ok (.pending 1)])) := by
  cases h with
  | fault hreads =>
      rw [Deed.readings_ofRound] at hlate
      rcases hreads.caught_up hpoisoned hlate with ⟨id, hother, -⟩ | ⟨hother, -⟩ | ⟨now, hfault⟩
      · cases hother
      · cases hother
      · cases hfault
        exact ⟨by simp, by simp, .inl ⟨_, rfl, fun _ _ => .overflow now k⟩⟩
  | @finish taken s r _ hreads hdemand =>
      rw [Deed.readings_ofRound] at hlate
      rcases hreads.caught_up hpoisoned hlate with ⟨id, hs, hid⟩ | ⟨hs, -⟩ | ⟨now, hother⟩
      · cases hs
        cases Options.demands hdemand
        exact ⟨by simp, by simp, .inl ⟨_, rfl, fun _ _ => .issued hid⟩⟩
      · cases hs
        cases Options.demands hdemand
      · cases hother
  | @timed taken s wanted _ start waited looked hreads hdemand hlooks =>
      rw [Deed.readings_ofRound] at hlate
      rcases hreads.caught_up hpoisoned hlate with ⟨id, hs, -⟩ | ⟨hs, rfl⟩ | ⟨now, hother⟩
      · cases hs
        cases Options.demands hdemand
      · cases hs
        cases Options.demands hdemand
        refine ⟨by simp, by simp, ?_⟩
        unfold Options.settle
        -- The budget is spent, or the spin is granted.
        cases hallow : o.allow waited (.spin (.ofMillis 1)) with
        | error e =>
            cases Options.allows hallow
            exact .inl ⟨_, rfl, fun _ _ => .timedOut waited⟩
        | ok granted =>
            cases Options.allows hallow
            exact .inr ⟨rfl, rfl, Deed.polls_ofRound ..⟩
      · cases hother

/-- By induction on the rounds: a call whose readings are all late enough never
finds the clock behind, and never sleeps. -/
theorem CallNotes.caught_up {left : Nat} {started : Option Instant} {g k : Generator}
    {result : Option (Except Fault Flake)} {ds : List Deed}
    (h : CallNotes o left started g result ds k) (hpoisoned : g.cell.isPoisoned = false)
    (hlate : ∀ x ∈ Deed.readings ds, x.NotBefore g.cell.last.timestamp) :
    (∀ drift, .ok (.behind drift) ∉ Deed.polls ds) ∧ Deed.sleeps ds = [] ∧
      CaughtUp g left ds result k := by
  induction h with
  | waiting => exact ⟨nofun, rfl, .waiting rfl⟩
  | ended hround =>
      obtain ⟨hpolls, hsleeps, ⟨result, hresult, hends⟩ | ⟨hother, -⟩⟩ :=
        hround.caught_up hpoisoned hlate
      · cases hresult
        exact ⟨hpolls, hsleeps, hends _ _⟩
      · cases hother
  | @paused left started next g h k b result ds es hround hrest ih =>
      rw [Deed.readings_append] at hlate
      obtain ⟨hpolls, hsleeps, ⟨_, hother, -⟩ | ⟨hb, rfl, hpending⟩⟩ :=
        hround.caught_up hpoisoned fun x hx => hlate x (List.mem_append_left _ hx)
      · cases hother
      · cases hb
        obtain ⟨hpolls', hsleeps', hends⟩ :=
          ih hpoisoned fun x hx => hlate x (List.mem_append_right _ hx)
        -- Between the round and the rest stands a yield, which is neither poll
        -- nor sleep.
        have hall : Deed.polls (ds ++ .yielded :: es) = .ok (.pending 1) :: Deed.polls es := by
          rw [Deed.polls_append, hpending]
          rfl
        have hnone : Deed.sleeps (ds ++ .yielded :: es) = [] := by
          rw [Deed.sleeps_append, hsleeps]
          exact hsleeps'
        refine ⟨?_, hnone, ?_⟩
        · intro drift
          show _ ∉ Deed.polls (ds ++ .yielded :: es)
          rw [hall]
          simpa using hpolls' drift
        · cases hends with
          | issued hid => exact .issued hid
          | timedOut waited => exact .timedOut waited
          | overflow now => exact .overflow now k
          | waiting hwaiting =>
              refine .waiting ?_
              show Deed.polls (ds ++ .yielded :: es) = _
              rw [hall, hwaiting]
              rfl

/-- A call that has not ended has some of its budget left. -/
theorem CallNotes.unspent {left : Nat} {started : Option Instant} {g k : Generator}
    {result : Option (Except Fault Flake)} {ds prior : List Deed}
    (h : CallNotes o left started g result ds k) (hnone : result = none)
    (hstarted : (Deed.looks prior).head? = started) :
    left = 0 ∨ Deed.waited (prior ++ ds) < o.maxWait := by
  induction h generalizing prior with
  | waiting => exact .inl rfl
  | ended => cases hnone
  | @paused left started next g h k b result ds es hround hrest ih =>
      obtain ⟨taken, s, wanted, start, waited, looked, rfl, -, rfl, -, hlooks, hallow, rfl⟩ :=
        hround.pausing
      obtain ⟨hwaited, hlooked⟩ := hlooks.waited hstarted
        (Deed.looks_ofRound_pause taken (.ok s) looked b)
      refine .inr ?_
      rcases ih hnone hlooked with rfl | hlt
      · -- This pause was the last thing, and it was granted.
        cases hrest
        rw [hwaited]
        exact Options.allow_unspent hallow
      · simpa using hlt

/-! ### The calls for one identifier -/

namespace Cli

/-- At the end of the notes is a call that has not ended after so many polls.
Each of them found the millisecond used up, and the budget is not spent. -/
def StillWaiting (o : Options) (polls : Nat) (deeds : List Deed) : Prop :=
  ∃ earlier own, deeds = earlier ++ own ++ [.called none] ∧
    Deed.polls own = List.replicate polls (.ok (.pending 1)) ∧
    (polls = 0 ∨ Deed.waited own < o.maxWait)

/-- How the calls for an identifier end once the clock has caught up. -/
inductive Recovered (o : Options) (polls last : Nat) (deeds : List Deed) :
    Option (Except Failure Flake) → Prop
  | issued {id : Flake} (hid : last ≤ id.timestamp) : Recovered o polls last deeds (some (.ok id))
  | timedOut (waited : Duration) :
      Recovered o polls last deeds (some (.error (.generation (.generationTimeout waited))))
  | overflow (now : Nat) :
      Recovered o polls last deeds (some (.error (.generation (.timestampOverflow now))))
  | waiting (h : StillWaiting o polls deeds) : Recovered o polls last deeds none

/-- A call that is still waiting at the end of the notes is so after anything
else that stands before them. -/
theorem StillWaiting.after {polls : Nat} {deeds : List Deed} (h : StillWaiting o polls deeds)
    (before : List Deed) : StillWaiting o polls (before ++ deeds) := by
  obtain ⟨earlier, own, rfl, hown⟩ := h
  exact ⟨before ++ earlier, own, by simp, hown⟩

/-- A recovery stays one when the notes began earlier. -/
theorem Recovered.after {polls last : Nat} {deeds : List Deed}
    {result : Option (Except Failure Flake)} (h : Recovered o polls last deeds result)
    (before : List Deed) : Recovered o polls last (before ++ deeds) result := by
  cases h with
  | issued hid => exact .issued hid
  | timedOut waited => exact .timedOut waited
  | overflow now => exact .overflow now
  | waiting h => exact .waiting (h.after before)

variable {polls retries : Nat} {g k : Generator} {result : Option (Except Failure Flake)}
  {ds : List Deed}

/-- By induction on the calls: once the readings are late enough, no call ends
with a drift any more. -/
theorem TriesNotes.caught_up (h : TriesNotes o polls retries g result ds k)
    (hpoisoned : g.cell.isPoisoned = false)
    (hlate : ∀ x ∈ Deed.readings ds, x.NotBefore g.cell.last.timestamp) :
    Recovered o polls g.cell.last.timestamp ds result := by
  induction h with
  | ended hcall hlast =>
      rw [Deed.readings_append] at hlate
      obtain ⟨-, -, hends⟩ :=
        hcall.caught_up hpoisoned fun x hx => hlate x (List.mem_append_left _ hx)
      cases hends with
      | issued hid => exact .issued hid
      | timedOut waited => exact .timedOut waited
      | overflow now => exact .overflow now
      | waiting hpolls =>
          refine .waiting ⟨[], _, rfl, hpolls, ?_⟩
          exact hcall.unspent rfl (show (Deed.looks []).head? = none from rfl)
  | @again retries g h k e result ds es hcall hretry hrest ih =>
      rw [Deed.readings_append] at hlate
      obtain ⟨-, -, hends⟩ :=
        hcall.caught_up hpoisoned fun x hx => hlate x (List.mem_append_left _ hx)
      cases hends with
      | timedOut waited =>
          -- The call has left the generator as it was.
          have hrecovered := ih hpoisoned fun x hx => hlate x (List.mem_append_right _ hx)
          rw [List.append_cons, List.append_cons]
          exact hrecovered.after _
      | overflow now => cases hretry

/-- Under the policy that fails, a reading that is behind ends its call, and the
next call comes after a sleep of the drift, if there is another one. -/
theorem TriesNotes.behind (h : TriesNotes o polls retries g result ds k)
    (hpolicy : o.driftPolicy = .fail) {before rest : List Deed} {now : Nat}
    (hsplit : ds = before ++ .took (.millis now) :: rest) (hnow : now < g.cell.last.timestamp)
    (hretries : (Deed.calls before).length < retries) :
    let drift := g.cell.last.timestamp - now
    g.cell.isPoisoned = false ∧ ∃ later left,
      rest = .polled (.ok (.behind drift))
        :: .called (some (.error (.error (.clockMovedBackward drift))))
        :: .slept (.ofMillis drift) :: later ∧
      TriesNotes o polls left g result later k := by
  intro drift
  induction h generalizing before with
  | @ended retries g h r ds hcall hlast =>
      rcases concat_eq_append_cons hsplit with ⟨inside, hds, -⟩ | ⟨-, hother, -⟩
      · -- The call would have been made again.
        obtain ⟨-, -, -, rfl⟩ := hcall.behind_failing hds hnow hpolicy
        rcases hlast with rfl | hlast
        · exact absurd hretries (Nat.not_lt_zero _)
        · cases hlast
      · cases hother
  | @again retries g h k e result ds es hcall hretry hrest ih =>
      rcases append_cons_cons_eq hsplit with ⟨inside, hds, rfl⟩ | ⟨-, hother, -⟩ |
        ⟨-, hother, -⟩ | ⟨later, rfl, hlater⟩
      · obtain ⟨rfl, rfl, hpoisoned, hresult⟩ := hcall.behind_failing hds hnow hpolicy
        cases hresult
        exact ⟨hpoisoned, es, retries, rfl, hrest⟩
      · cases hother
      · cases hother
      · obtain rfl := hcall.failed rfl
        -- The reading lies in a later call, and one attempt is gone.
        have hfewer : (Deed.calls later).length < retries := by
          simp only [Deed.calls_append, List.length_append] at hretries
          have hcount : (Deed.calls (.called (some (.error (.error e)))
              :: .slept (backoff e) :: later)).length = (Deed.calls later).length + 1 := rfl
          omega
        exact ih hlater hnow hfewer

end Cli

/-- Take a generator of either kind in any state that nobody else uses, any
machine and any clock, and any options. Let `last` be the last timestamp of the
generator. Follow each call for any number of polls.

Suppose that the policy waits, and that a call reads an earlier millisecond
`now`, by no more than the policy tolerates. The poll then answers the distance,
and the call looks at the stopwatch. If that much is left of the budget, it
sleeps for the distance, to the nanosecond. If no later reading of the call is
earlier than `now` and the milliseconds slept, it never finds the clock behind
again, and never sleeps again.

Suppose that the policy fails, and that the first or the second call for an
identifier reads an earlier millisecond `now`. This ends the call with the
distance, and the next one comes after a sleep of the distance. If no later
reading is earlier than `now` and the milliseconds slept, the calls give an
identifier with timestamp `last` or later, or the last one ends with the error
about the budget or about the last timestamp of all, or has not ended. -/
theorem one_pause_catches_up {ω : Type} (e : Surroundings ω) (o : Options) (polls : Nat)
    (g : Generator) (w : ω) :
    let last := g.cell.last.timestamp
    (∀ maxDrift, o.driftPolicy = .wait maxDrift →
      let deeds := (after (generate e.watchedEffects o polls) (g, (w, []))).2.2
      ∀ before now rest, deeds = before ++ .took (.millis now) :: rest → now < last →
        .ofMillis (last - now) ≤ maxDrift →
        ∃ looked tail, rest = Deed.ofRound [] (.ok (.behind (last - now))) looked ++ tail ∧
          (.ofMillis (last - now) ≤ o.maxWait - Deed.waited (before ++ .took (.millis now)
              :: Deed.ofRound [] (.ok (.behind (last - now))) looked) →
            ∃ later, tail = .slept (.ofMillis (last - now)) :: later ∧
              ((∀ x ∈ Deed.readings later,
                  x.NotBefore (now + (Duration.ofMillis (last - now)).millis)) →
                (∀ drift, .ok (.behind drift) ∉ Deed.polls later) ∧
                  Deed.sleeps later = []))) ∧
    (o.driftPolicy = .fail →
      let r := answer (watchedMintOne e o polls maxRetries) (g, (w, []))
      let deeds := (after (watchedMintOne e o polls maxRetries) (g, (w, []))).2.2
      answer (mintOne e.effects o polls maxRetries) (g, w) = r ∧
      ∀ before now rest, deeds = before ++ .took (.millis now) :: rest → now < last →
        (Deed.calls before).length < maxRetries →
        ∃ later, rest = .polled (.ok (.behind (last - now)))
            :: .called (some (.error (.error (.clockMovedBackward (last - now)))))
            :: .slept (.ofMillis (last - now)) :: later ∧
          ((∀ x ∈ Deed.readings later,
              x.NotBefore (now + (Duration.ofMillis (last - now)).millis)) →
            Recovered o polls last later r)) := by
  intro last
  -- The milliseconds slept lead from the reading to the last timestamp.
  have hcaught : ∀ now, now < last → now + (Duration.ofMillis (last - now)).millis = last := by
    intro now hnow
    rw [Duration.millis_ofMillis]
    omega
  refine ⟨?_, ?_⟩
  · intro maxDrift hpolicy deeds before now rest hdeeds hnow hdrift
    obtain ⟨ds, hds, hnotes⟩ := generate_adds e o polls (g, (w, []))
    have hsplit : ds = before ++ .took (.millis now) :: rest := hds.symm.trans hdeeds
    -- The reading and the looks after it settle the round, and what follows is
    -- the rest of the call.
    obtain ⟨looked, tail, rfl, hpause⟩ :=
      hnotes.behind_waiting (show (Deed.looks []).head? = none from rfl) hsplit hnow hpolicy hdrift
    refine ⟨looked, tail, rfl, fun hfits => ?_⟩
    obtain ⟨later, left, next, rfl, hpoisoned, hrest⟩ := hpause hfits
    refine ⟨later, rfl, fun hlate => ?_⟩
    rw [hcaught now hnow] at hlate
    obtain ⟨hpolls, hsleeps, -⟩ := hrest.caught_up hpoisoned hlate
    exact ⟨hpolls, hsleeps⟩
  · intro hpolicy r deeds
    -- The onlooker changes no answer, so the notes are those of the calls as
    -- they run.
    refine ⟨(mintOne_watched e o polls maxRetries (g, w) (g, (w, [])) ⟨rfl, rfl⟩).1.symm, ?_⟩
    intro before now rest hdeeds hnow hfew
    obtain ⟨ds, hds, hnotes⟩ := watchedMintOne_adds e o polls maxRetries (g, (w, []))
    have hsplit : ds = before ++ .took (.millis now) :: rest := hds.symm.trans hdeeds
    obtain ⟨hpoisoned, later, left, rfl, hrest⟩ := hnotes.behind hpolicy hsplit hnow hfew
    refine ⟨later, rfl, fun hlate => ?_⟩
    rw [hcaught now hnow] at hlate
    exact hrest.caught_up hpoisoned hlate

/-- The clock is three milliseconds behind, then it shows the last millisecond,
which is used up, and then the next one. -/
def Tape.backAndUsedUp : Tape := .showing [0, 0, 3] [97, 100, 101]

/-- One sleep of three milliseconds is enough in both cases. -/
theorem one_pause_catches_up_usedUp :
    (∃ later, (after (generate Tape.surroundings.watchedEffects patient 3)
        (usedUp, (.backAndUsedUp, []))).2.2
        = [.took (.millis 97), .polled (.ok (.behind 3)), .looked ⟨0⟩, .looked ⟨0⟩,
          .slept (.ofMillis 3)] ++ later ∧
      Deed.readings later = [.millis 100, .millis 101] ∧
      (∀ drift, .ok (.behind drift) ∉ Deed.polls later) ∧ Deed.sleeps later = []) ∧
    ∃ later, (after (watchedMintOne Tape.surroundings {} 3 maxRetries)
        (usedUp, (.backAndUsedUp, []))).2.2
        = [.took (.millis 97), .polled (.ok (.behind 3)),
          .called (some (.error (.error (.clockMovedBackward 3)))), .slept (.ofMillis 3)] ++ later ∧
      Deed.readings later = [.millis 100, .millis 101] ∧
      Recovered {} 3 100 later (some (.ok (Flake.ofParts 101 7 0))) := by
  refine ⟨?_, ?_⟩
  · have h := (one_pause_catches_up Tape.surroundings patient 3 usedUp .backAndUsedUp).1
      (.ofMillis 500) rfl
    have hdeeds : (after (generate Tape.surroundings.watchedEffects patient 3)
        (usedUp, (.backAndUsedUp, []))).2.2
        = [] ++ .took (.millis 97) :: [.polled (.ok (.behind 3)), .looked ⟨0⟩, .looked ⟨0⟩,
          .slept (.ofMillis 3), .took (.millis 100), .polled (.ok (.pending 1)), .looked ⟨3000000⟩,
          .yielded, .took (.millis 101), .polled (.ok (.ready (Flake.ofParts 101 7 0)))] := by
      decide +kernel
    obtain ⟨looked, tail, hrest, hpause⟩ := h [] 97 _ hdeeds (by decide) (by decide)
    -- Before the sleep there are two looks.
    rcases looked with _ | ⟨a, _ | ⟨b, _ | ⟨c, looked⟩⟩⟩
    · cases hrest
      obtain ⟨later, hlater, -⟩ := hpause (by decide)
      cases hlater
    · cases hrest
      obtain ⟨later, hlater, -⟩ := hpause (by decide)
      cases hlater
    · cases hrest
      obtain ⟨later, hlater, hcaught⟩ := hpause (by decide)
      cases hlater
      exact ⟨_, hdeeds, by decide, hcaught (by decide)⟩
    · cases hrest
  · have h := (one_pause_catches_up Tape.surroundings {} 3 usedUp .backAndUsedUp).2 rfl
    have hdeeds : (after (watchedMintOne Tape.surroundings {} 3 maxRetries)
        (usedUp, (.backAndUsedUp, []))).2.2
        = [] ++ .took (.millis 97) :: [.polled (.ok (.behind 3)),
          .called (some (.error (.error (.clockMovedBackward 3)))), .slept (.ofMillis 3),
          .took (.millis 100), .polled (.ok (.pending 1)), .looked ⟨0⟩, .looked ⟨0⟩,
          .yielded, .took (.millis 101), .polled (.ok (.ready (Flake.ofParts 101 7 0))),
          .called (some (.ok (Flake.ofParts 101 7 0)))] := by
      decide +kernel
    have hr : answer (watchedMintOne Tape.surroundings {} 3 maxRetries)
        (usedUp, (.backAndUsedUp, [])) = some (.ok (Flake.ofParts 101 7 0)) := by
      decide +kernel
    obtain ⟨later, hrest, hrecovered⟩ := h.2 [] 97 _ hdeeds (by decide) (by decide)
    cases hrest
    rw [hr] at hrecovered
    exact ⟨_, hdeeds, by decide, hrecovered (by decide)⟩

end Snowflake
