import Snowflake.Proofs.Decision
import Snowflake.Proofs.Transcript

/-!
# `Snowflake.Proofs.Pauses`: the sleeps of the calls for one identifier

A call waits for a clock that is behind, if its policy tolerates the drift. A
run that wants an identifier makes the call again after some errors, and sleeps
before it does. The policy bounds the first kind of sleep and knows nothing of
the second. `Cli.Pause` lists them all, each with what stands in the notes
before it.

`Cli.mintOne_pauses` states that the list is complete, and what it says about
the bound of the policy. A call that finds a drift too large for its policy
fails, and the run then sleeps for just this drift. So the largest drift that
the policy waits for bounds the sleeps of the calls, and it bounds those of the
run exactly if no call that is made again has ended with a drift.
-/

set_option autoImplicit false

namespace Snowflake

variable {o : Options}

/-! ### The sleeps of a call -/

/-- Every result of a poll is one of those that polls give. -/
theorem Generator.Reads.genuine {g h : Generator} {taken : List Reading} {r : PollResult}
    (hreads : g.Reads taken r h) : Genuine r := by
  cases hreads with
  | refused => exact .poisoned
  | @judged lost x _ _ hpoisoned hlost hpoll =>
      have hgenuine := g.poll_genuine x
      rw [hpoll] at hgenuine
      exact hgenuine

/-- No error of a poll is worth a retry. -/
theorem Generator.Reads.not_retryable {g h : Generator} {taken : List Reading} {e : Error}
    (hreads : g.Reads taken (.error (.error e)) h) : e.isRetryable = false := by
  cases hreads.genuine <;> rfl

namespace Cli

/-- A sleep of the calls for one identifier, after what stands in the notes
before it. -/
inductive Pause (o : Options) (before : List Deed) : Duration → Prop
  /-- A call waits for a drift that its policy tolerates, as long as its budget
  allows. -/
  | waiting {drift : Nat} {maxDrift d : Duration} (hlooked : Deed.JustLooked before)
      (hbehind : (Deed.polls before).getLast? = some (.ok (.behind drift)))
      (hpolicy : o.driftPolicy = .wait maxDrift) (hdrift : .ofMillis drift ≤ maxDrift)
      (hd : d ≤ .ofMillis drift) : Pause o before d
  /-- A call has spent its budget, and is made again. -/
  | timedOut {waited : Duration} {s : Status}
      (hcalled : before.getLast?
        = some (.called (some (.error (.error (.generationTimeout waited))))))
      (hpolled : (Deed.polls before).getLast? = some (.ok s)) (hgenuine : Genuine (.ok s))
      (htolerated : o.Tolerates s) : Pause o before retryPause
  /-- A call has found a drift that its policy does not tolerate, and is made
  again. -/
  | refused {drift : Nat}
      (hcalled : before.getLast?
        = some (.called (some (.error (.error (.clockMovedBackward drift))))))
      (hbehind : (Deed.polls before).getLast? = some (.ok (.behind drift)))
      (hrefused : ¬ o.Tolerates (.behind drift)) : Pause o before (.ofMillis drift)

/-- A pause stays what it is when the notes began earlier. -/
theorem Pause.after {before : List Deed} {d : Duration} (h : Pause o before d)
    (earlier : List Deed) : Pause o (earlier ++ before) d := by
  have hlast : ∀ x, before.getLast? = some x → (earlier ++ before).getLast? = some x := by
    intro x hx
    simp [List.getLast?_append, hx]
  have hpolls : ∀ r, (Deed.polls before).getLast? = some r →
      (Deed.polls (earlier ++ before)).getLast? = some r := by
    intro r hr
    simp [List.getLast?_append, hr]
  cases h with
  | waiting hlooked hbehind hpolicy hdrift hd =>
      obtain ⟨now, hnow⟩ := hlooked
      exact .waiting ⟨now, hlast _ hnow⟩ (hpolls _ hbehind) hpolicy hdrift hd
  | timedOut hcalled hpolled hgenuine htolerated =>
      exact .timedOut (hlast _ hcalled) (hpolls _ hpolled) hgenuine htolerated
  | refused hcalled hbehind hrefused =>
      exact .refused (hlast _ hcalled) (hpolls _ hbehind) hrefused

end Cli

/-- There is no sleep in the notes of a round. -/
theorem RoundNotes.no_sleep {started : Option Instant} {g k : Generator}
    {a : Round × Option Instant} {ds : List Deed} (h : RoundNotes o started g a ds k)
    (d : Duration) : .slept d ∉ ds := by
  cases h <;> simp [Deed.ofRound]

/-- No call ends within a round. -/
theorem RoundNotes.no_call {started : Option Instant} {g k : Generator}
    {a : Round × Option Instant} {ds : List Deed} (h : RoundNotes o started g a ds k)
    (r : Option (Except Fault Flake)) : .called r ∉ ds := by
  cases h <;> simp [Deed.ofRound]

section

variable {left : Nat} {started : Option Instant} {g k : Generator}
  {result : Option (Except Fault Flake)} {ds before rest : List Deed} {d : Duration}

/-- Every sleep of a call is for a drift that its policy tolerates. -/
theorem CallNotes.pause (h : CallNotes o left started g result ds k)
    (hsplit : ds = before ++ .slept d :: rest) : Cli.Pause o before d := by
  induction h generalizing before with
  | waiting => exact absurd hsplit (by simp)
  | ended hround =>
      refine absurd ?_ (hround.no_sleep d)
      rw [hsplit]
      exact List.mem_append_right _ (.head _)
  | @paused left started next g h k b result ds es hround hrest ih =>
      rcases append_eq_append_cons hsplit with ⟨inside, rfl, -⟩ | ⟨inside, rfl, hes⟩
      · exact absurd (List.mem_append_right _ (.head _)) (hround.no_sleep d)
      · obtain ⟨taken, s, wanted, start, waited, looked, rfl, -, -, hdemand, hlooks, hallow, -⟩ :=
          hround.pausing
        rcases List.cons_eq_append_iff.mp hes with ⟨rfl, hpause⟩ | ⟨later, rfl, hlater⟩
        · -- It is the pause of this round.
          obtain ⟨hb, rfl⟩ := List.cons.inj hpause
          have hlooked : Deed.JustLooked (Deed.ofRound taken (.ok s) looked) := by
            cases hlooks with
            | first start now => exact ⟨now, by simp [Deed.ofRound]⟩
            | next start now => exact ⟨now, by simp [Deed.ofRound]⟩
          rw [List.append_nil]
          cases Options.allows hallow with
          | spin => cases hb
          | sleep asked =>
              cases hb
              cases Options.demands hdemand with
              | behind drift hpolicy hdrift =>
                  refine .waiting hlooked (by simp) hpolicy hdrift ?_
                  simp only [Duration.le_iff, Duration.nanos_min]
                  omega
        · rw [List.append_cons]
          exact (ih hlater).after _

/-- The end of a call is not part of its notes. -/
theorem CallNotes.no_call (h : CallNotes o left started g result ds k)
    (r : Option (Except Fault Flake)) : .called r ∉ ds := by
  induction h with
  | waiting => exact List.not_mem_nil
  | ended hround => exact hround.no_call r
  | @paused left started next g h k b result ds es hround hrest ih =>
      have hpause : Deed.called r ≠ b.blocked := by cases b <;> nofun
      simp only [List.mem_append, List.mem_cons, not_or]
      exact ⟨hround.no_call r, hpause, ih⟩

/-- A call that is made again has ended with a drift that its policy does not
tolerate, or with a spent budget while it waited. -/
theorem CallNotes.retried (h : CallNotes o left started g result ds k) {e : Error}
    (hresult : result = some (.error (.error e))) (hretry : e.isRetryable = true) :
    ∃ s, (Deed.polls ds).getLast? = some (.ok s) ∧ Genuine (.ok s) ∧
      ((∃ drift, s = .behind drift ∧ e = .clockMovedBackward drift ∧ ¬ o.Tolerates s) ∨
        ∃ waited, e = .generationTimeout waited ∧ o.Tolerates s) := by
  induction h with
  | waiting => cases hresult
  | @ended left started next g h result ds hround =>
      cases hresult
      generalize ha : (Round.finished (.error (.error e)), next) = a at hround
      cases hround with
      | fault hreads =>
          cases ha
          rw [hreads.not_retryable] at hretry
          cases hretry
      | @finish taken s r _ hreads hdemand =>
          have hpause : ¬ o.Tolerates s := by
            rw [← Options.demand_pause_iff, hdemand]
            nofun
          refine ⟨s, by simp, hreads.genuine, .inl ?_⟩
          cases Options.demands hdemand with
          | ready => cases ha
          | failing | tooFar =>
              cases ha
              exact ⟨_, rfl, rfl, hpause⟩
      | @timed taken s b _ start waited looked hreads hdemand hlooks =>
          have htolerated := Options.demand_pause_iff.mp ⟨b, hdemand⟩
          refine ⟨s, by simp, hreads.genuine, .inr ⟨waited, ?_, htolerated⟩⟩
          obtain ⟨hsettle, -⟩ := Prod.mk.inj ha
          unfold Options.settle at hsettle
          cases hallow : o.allow waited b with
          | ok granted =>
              rw [hallow] at hsettle
              cases hsettle
          | error f =>
              rw [hallow] at hsettle
              cases hsettle
              cases Options.allows hallow
              rfl
  | paused hround hrest ih =>
      obtain ⟨s, hlast, hgenuine, hcases⟩ := ih hresult
      refine ⟨s, ?_, hgenuine, hcases⟩
      rw [List.append_cons, Deed.polls_append, List.getLast?_append, hlast]
      rfl

end

/-! ### The sleeps between the calls -/

namespace Cli

variable {polls retries : Nat} {g k : Generator} {result : Option (Except Failure Flake)}
  {ds before rest : List Deed}

/-- The sleep before a call is made again. -/
theorem pause_backoff {e : Error} {h : Generator} {started : Option Instant}
    (hcall : CallNotes o polls started g (some (.error (.error e))) ds h)
    (hretry : e.isRetryable = true) :
    Pause o (ds ++ [.called (some (.error (.error e)))]) (backoff e) := by
  obtain ⟨s, hlast, hgenuine, ⟨drift, rfl, rfl, hrefused⟩ | ⟨waited, rfl, htolerated⟩⟩ :=
    hcall.retried rfl hretry
  · exact .refused (by simp) (by simpa [Deed.polls] using hlast) hrefused
  · exact .timedOut List.getLast?_concat (by simpa [Deed.polls] using hlast) hgenuine htolerated

/-- By induction on the calls: the list of pauses is complete. -/
theorem TriesNotes.pause (h : TriesNotes o polls retries g result ds k) {d : Duration}
    (hsplit : ds = before ++ .slept d :: rest) : Pause o before d := by
  induction h generalizing before with
  | @ended retries g h r ds hcall hlast =>
      rcases concat_eq_append_cons hsplit with ⟨inside, hds, -⟩ | ⟨-, hother, -⟩
      · exact hcall.pause hds
      · cases hother
  | @again retries g h k e result ds es hcall hretry hrest ih =>
      -- The sleep is one of the first call, or the one before the next call,
      -- or it comes later.
      rcases append_cons_cons_eq hsplit with ⟨inside, hds, -⟩ | ⟨-, hother, -⟩ |
        ⟨rfl, hslept, -⟩ | ⟨later, rfl, hlater⟩
      · exact hcall.pause hds
      · cases hother
      · cases hslept
        exact pause_backoff hcall hretry
      · rw [List.append_cons, List.append_cons]
        exact (ih hlater).after _

/-- A drift that ends a call is one that the policy does not tolerate. -/
theorem not_tolerates {drift : Nat} {h : Generator} {started : Option Instant}
    (hcall : CallNotes o polls started g (some (.error (.error (.clockMovedBackward drift)))) ds
      h) :
    ¬ o.Tolerates (.behind drift) := by
  obtain ⟨s, -, -, ⟨_, rfl, he, hrefused⟩ | ⟨waited, he, -⟩⟩ := hcall.retried rfl rfl
  · cases he
    exact hrefused
  · cases he

/-- What follows a call that ended with a drift is a sleep for the drift, or
nothing. -/
theorem TriesNotes.after_refused (h : TriesNotes o polls retries g result ds k) {drift : Nat}
    (hsplit : ds = before
      ++ .called (some (.error (.error (.clockMovedBackward drift)))) :: rest) :
    ¬ o.Tolerates (.behind drift) ∧
      (rest = [] ∨ ∃ later, rest = .slept (.ofMillis drift) :: later) := by
  induction h generalizing before with
  | @ended retries g h r ds hcall hlast =>
      rcases concat_eq_append_cons hsplit with ⟨inside, hds, -⟩ | ⟨-, hcalled, hrest⟩
      · exact absurd (hds ▸ List.mem_append_right _ (.head _)) (hcall.no_call _)
      · cases hcalled
        exact ⟨not_tolerates hcall, .inl hrest⟩
  | @again retries g h k e result ds es hcall hretry hrest ih =>
      rcases append_cons_cons_eq hsplit with ⟨inside, hds, -⟩ | ⟨-, hcalled, rfl⟩ |
        ⟨-, hother, -⟩ | ⟨later, -, hlater⟩
      · exact absurd (hds ▸ List.mem_append_right _ (.head _)) (hcall.no_call _)
      · cases hcalled
        exact ⟨not_tolerates hcall, .inr ⟨es, rfl⟩⟩
      · cases hother
      · exact ih hlater

/-- The last poll found the clock behind. -/
def ForDrift (before : List Deed) : Prop :=
  ∃ drift, (Deed.polls before).getLast? = some (.ok (.behind drift))

/-- A pause after a call that ended with a drift is for this drift. -/
theorem Pause.forDrift {before : List Deed} {d : Duration} (h : Pause o before d) {drift : Nat}
    (hlast : before.getLast?
      = some (.called (some (.error (.error (.clockMovedBackward drift)))))) :
    ForDrift before := by
  cases h with
  | waiting _ hbehind => exact ⟨_, hbehind⟩
  | timedOut hcalled =>
      rw [hlast] at hcalled
      cases hcalled
  | refused _ hbehind => exact ⟨_, hbehind⟩

/-- A pause that is no longer than the policy waits, unless it is for a drift
that ended a call. -/
theorem Pause.le_or_refused {before : List Deed} {d maxDrift : Duration} (h : Pause o before d)
    (hpolicy : o.driftPolicy = .wait maxDrift) (hdrift : ForDrift before) :
    d ≤ maxDrift ∨ ∃ drift,
      before.getLast? = some (.called (some (.error (.error (.clockMovedBackward drift))))) := by
  cases h with
  | waiting _ _ hother hle hd =>
      rw [hpolicy] at hother
      cases hother
      exact .inl (Nat.le_trans hd hle)
  | @timedOut _ s hcalled hpolled hgenuine htolerated =>
      -- The drift that the call waited for is at least a millisecond.
      obtain ⟨drift, hbehind⟩ := hdrift
      rw [hpolled] at hbehind
      cases hbehind
      obtain ⟨_, hother, hle⟩ := htolerated.drift_le
      rw [hpolicy] at hother
      cases hother
      cases hgenuine with
      | behind hpos =>
          refine .inl ?_
          have hmilli : retryPause.nanos = Duration.nanosPerMilli := Nat.one_mul _
          have hdrift : drift * Duration.nanosPerMilli ≤ maxDrift.nanos := hle
          have hone : Duration.nanosPerMilli ≤ drift * Duration.nanosPerMilli :=
            Nat.le_mul_of_pos_left _ hpos
          show retryPause.nanos ≤ maxDrift.nanos
          omega
  | refused hcalled => exact .inr ⟨_, hcalled⟩

/-- Take a generator of either kind in any state, any machine and any clock, and
a policy that waits for drifts up to `maxDrift`. Follow each call for any number
of polls. Every sleep of the calls for one identifier is one of these (`Pause`):
a call waits for a drift that its policy tolerates, and no longer than that; or
a call has spent its budget, and the next one comes after a millisecond; or a
call has ended with a drift, and the next one comes after just this drift.

A drift that ends a call is longer than `maxDrift`. If it does not end the calls
altogether, there is a sleep for it, to the nanosecond. So the sleeps for a
clock that is behind are bounded by `maxDrift` exactly if no call that is made
again has ended with a drift. -/
theorem mintOne_pauses {ω : Type} (e : Surroundings ω) {maxDrift : Duration}
    (hpolicy : o.driftPolicy = .wait maxDrift) (polls : Nat) (g : Generator) (w : ω) :
    let r := answer (watchedMintOne e o polls maxRetries) (g, (w, []))
    let deeds := (after (watchedMintOne e o polls maxRetries) (g, (w, []))).2.2
    answer (mintOne e.effects o polls maxRetries) (g, w) = r ∧
    (∀ before d, (before, d) ∈ Deed.sleepsAt deeds → Pause o before d) ∧
    (∀ before drift rest, deeds = before
        ++ .called (some (.error (.error (.clockMovedBackward drift)))) :: rest →
      maxDrift < .ofMillis drift ∧
        (rest = [] ∨ ∃ later, rest = .slept (.ofMillis drift) :: later)) ∧
    ((∀ before d, (before, d) ∈ Deed.sleepsAt deeds → ForDrift before → d ≤ maxDrift) ↔
      ∀ before drift rest, deeds = before
        ++ .called (some (.error (.error (.clockMovedBackward drift)))) :: rest → rest = []) := by
  intro r deeds
  -- The notes are those of some calls, and the list of pauses is read off
  -- them.
  obtain ⟨ds, hds, hnotes⟩ := watchedMintOne_adds e o polls maxRetries (g, (w, []))
  obtain rfl : ds = deeds := hds.symm
  have hpause : ∀ before d, (before, d) ∈ Deed.sleepsAt deeds → Pause o before d := by
    intro before d hslept
    obtain ⟨rest, hsplit⟩ := Deed.mem_sleepsAt.mp hslept
    exact hnotes.pause hsplit
  have hfar : ∀ drift, ¬ o.Tolerates (.behind drift) → maxDrift < .ofMillis drift :=
    fun drift h => Nat.lt_of_not_le fun hle => h (.behind hpolicy hle)
  refine ⟨(mintOne_watched e o polls maxRetries (g, w) (g, (w, [])) ⟨rfl, rfl⟩).1.symm, hpause,
    ?_, ?_, ?_⟩
  · intro before drift rest hsplit
    obtain ⟨hrefused, hrest⟩ := hnotes.after_refused hsplit
    exact ⟨hfar drift hrefused, hrest⟩
  · intro hbounded before drift rest hsplit
    obtain ⟨hrefused, hrest | ⟨later, rfl⟩⟩ := hnotes.after_refused hsplit
    · exact hrest
    · -- The sleep for the drift is too long.
      rw [List.append_cons] at hsplit
      have hslept := Deed.mem_sleepsAt.mpr ⟨later, hsplit⟩
      have hdrift := (hpause _ _ hslept).forDrift List.getLast?_concat
      exact absurd (hbounded _ _ hslept hdrift) (Nat.not_le_of_lt (hfar drift hrefused))
  · intro hlast before d hslept hdrift
    rcases (hpause before d hslept).le_or_refused hpolicy hdrift with hle | ⟨drift, hcalled⟩
    · exact hle
    · -- The sleep is still to come after the call.
      obtain ⟨rest, hsplit⟩ := Deed.mem_sleepsAt.mp hslept
      rw [← List.dropLast_append_getLast? _ hcalled] at hsplit
      have hnil := hlast before.dropLast drift (.slept d :: rest) (by simpa using hsplit)
      cases hnil

/-- Drifts of nine milliseconds are waited for, and a minute at most. -/
def nineMillis : Options := ⟨.wait (.ofMillis 9), .ofMillis 60000⟩

/-- A generator that has issued an identifier in millisecond 100. -/
def atHundred : Generator := ⟨usedUp.worker, .lockFree (Flake.ofParts 100 7 0)⟩

/-- A drift of nine milliseconds is waited for in the call. -/
theorem mintOne_pauses_nineMillis :
    ∃ deeds, (after (watchedMintOne Tape.surroundings nineMillis 3 maxRetries)
        (atHundred, (.showing [0, 0] [91, 100], []))).2.2 = deeds ∧
      Deed.sleeps deeds = [.ofMillis 9] ∧
      ∀ before d, (before, d) ∈ Deed.sleepsAt deeds → ForDrift before → d ≤ .ofMillis 9 := by
  have h := mintOne_pauses Tape.surroundings (o := nineMillis) rfl 3 atHundred
    (.showing [0, 0] [91, 100])
  refine ⟨_, rfl, by decide +kernel, h.2.2.2.mpr ?_⟩
  intro before drift rest hsplit
  -- No call ended with a drift.
  have hcalls : Deed.calls (after (watchedMintOne Tape.surroundings nineMillis 3 maxRetries)
      (atHundred, (.showing [0, 0] [91, 100], []))).2.2 = [some (.ok (Flake.ofParts 100 7 1))] := by
    decide +kernel
  have hmem : some (.error (.error (.clockMovedBackward drift)))
      ∈ Deed.calls (after (watchedMintOne Tape.surroundings nineMillis 3 maxRetries)
        (atHundred, (.showing [0, 0] [91, 100], []))).2.2 := by
    rw [hsplit, Deed.calls_append]
    exact List.mem_append_right _ (.head _)
  rw [hcalls] at hmem
  cases List.mem_singleton.mp hmem

/-- A drift of ten milliseconds ends the first call. It is waited for all the
same, between the calls, and the second one gives an identifier. -/
theorem mintOne_pauses_tenMillis :
    let run := watchedMintOne Tape.surroundings nineMillis 3 maxRetries
    let start := (atHundred, (Tape.showing [] [90, 100], ([] : List Deed)))
    nineMillis.driftPolicy = .wait (.ofMillis 9) ∧
    answer run start = some (.ok (Flake.ofParts 100 7 1)) ∧
    Deed.sleeps (after run start).2.2 = [.ofMillis 10] ∧
    ¬ ∀ before d, (before, d) ∈ Deed.sleepsAt (after run start).2.2 → ForDrift before →
      d ≤ .ofMillis 9 := by
  refine ⟨rfl, by decide +kernel, by decide +kernel, fun hbounded => ?_⟩
  have hdeeds : (after (watchedMintOne Tape.surroundings nineMillis 3 maxRetries)
      (atHundred, (Tape.showing [] [90, 100], []))).2.2
      = [.took (.millis 90), .polled (.ok (.behind 10)),
        .called (some (.error (.error (.clockMovedBackward 10))))]
        ++ .slept (.ofMillis 10) :: [.took (.millis 100),
          .polled (.ok (.ready (Flake.ofParts 100 7 1))),
          .called (some (.ok (Flake.ofParts 100 7 1)))] := by
    decide +kernel
  have hslept := Deed.mem_sleepsAt.mpr ⟨_, hdeeds⟩
  have hle := hbounded _ _ hslept ⟨10, rfl⟩
  exact absurd hle (by decide)

end Cli

end Snowflake
