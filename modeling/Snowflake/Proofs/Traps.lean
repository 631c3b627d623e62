import Snowflake.Machine
import Snowflake.Proofs.Call
import Snowflake.Proofs.Contention.Answers

/-!
# `Snowflake.Proofs.Traps`: nothing but the clock panics

Arithmetic on machine words may trap. A sum may not fit into the word, a
difference may be below zero, and packing panics over a field that is too wide.
The definitions compute with natural numbers and with lengths of time, where a
difference below zero counts as nothing. So it has to be shown that no such
difference is taken.

`Checked` repeats the rule of a poll and the budget of a call with arithmetic
that traps. `Checked.judge_eq` and `Checked.allow_eq` show that it never does,
whatever word, reading, options and time are put in, and that it changes
nothing. The guards are the rule's own: it counts up only where the millisecond
has room, takes over a reading only up to the last timestamp, and measures a
drift only where the reading is earlier.

Then the panics that are left are those of the clock. `panics_only_with_clock`
says so of every poll of a run, of the lock, and of the calls.
-/

set_option autoImplicit false

namespace Snowflake

/-! ### Arithmetic that traps -/

/-- What arithmetic on machine words stops at. -/
inductive Trap
  /-- A field does not fit when an identifier is packed. -/
  | overflow (field : Field)
  /-- A sum does not fit into a word. -/
  | sum
  /-- A difference is below zero. -/
  | difference
deriving DecidableEq, Repr

namespace Checked

def add (a b : Nat) : Except Trap Nat :=
  if a + b < UInt64.size then .ok (a + b) else .error .sum

def sub (a b : Nat) : Except Trap Nat :=
  if b ≤ a then .ok (a - b) else .error .difference

def increment (f : Flake) : Except Trap Flake := do
  let sequence ← add f.sequence 1
  (Flake.pack f.timestamp f.worker.val sequence).mapError .overflow

def rollover (f : Flake) (timestamp : Nat) : Except Trap Flake :=
  (Flake.pack timestamp f.worker.val 0).mapError .overflow

/-- The rule of a poll. An error that it returns is no trap. -/
def judge (last : Flake) (now : Nat) : Except Trap (Except Error Verdict) :=
  if now = last.timestamp then
    if last.hasRoom then do
      let next ← increment last
      return .ok (.issue next)
    else return .ok (.answer (.pending 1))
  else if last.timestamp < now then
    if Flake.maxTimestamp < now then return .error (.timestampOverflow now)
    else do
      let next ← rollover last now
      return .ok (.issue next)
  else do
    let drift ← sub last.timestamp now
    return .ok (.answer (.behind drift))

/-- What is left of the budget after so much waiting. A spent budget is an
error. -/
def remaining (o : Options) (waited : Duration) : Except Trap (Except Error Duration) :=
  if o.maxWait ≤ waited then return .error (.generationTimeout waited)
  else do
    let nanos ← sub o.maxWait.nanos waited.nanos
    return .ok ⟨nanos⟩

/-- A pause after so much waiting. What is left is computed before a spin too,
which has no use for it. -/
def allow (o : Options) (waited : Duration) (b : Backoff) :
    Except Trap (Except Error Backoff) := do
  match ← remaining o waited with
  | .error e => return .error e
  | .ok left =>
    match b with
    | .spin yieldFor => return .ok (.spin yieldFor)
    | .sleep d => return .ok (.sleep (min d left))

/-- A sum that fits is the sum. -/
theorem add_of_lt {a b : Nat} (h : a + b < UInt64.size) : add a b = .ok (a + b) := if_pos h

/-- A difference that is not below zero is the difference. -/
theorem sub_of_le {a b : Nat} (h : b ≤ a) : sub a b = .ok (a - b) := if_pos h

/-- A sequence number with room after it is far from the end of the word. -/
theorem increment_of_room {f : Flake} (h : f.sequence < Flake.maxSequence) :
    increment f = .ok (Flake.ofParts f.timestamp f.worker.val (f.sequence + 1)) := by
  have hfits : f.sequence + 1 < UInt64.size := Nat.lt_of_le_of_lt h (by decide)
  rw [increment, add_of_lt hfits]
  show f.increment.mapError Trap.overflow = _
  rw [Flake.increment_of_room h]
  rfl

/-- A reading that is no later than the last timestamp fits its field. -/
theorem rollover_of_le {f : Flake} {timestamp : Nat} (h : timestamp ≤ Flake.maxTimestamp) :
    rollover f timestamp = .ok (Flake.ofParts timestamp f.worker.val 0) := by
  show (f.rollover timestamp).mapError Trap.overflow = _
  rw [Flake.rollover_of_le h]
  rfl

/-- The rule of a poll traps for no word and no reading, and its answer is the
rule's. -/
theorem judge_eq (last : Flake) (now : Nat) :
    ∃ answer, judge last now = .ok answer ∧
      Snowflake.judge last now = answer.mapError Fault.error := by
  unfold judge
  rcases Nat.lt_trichotomy now last.timestamp with hlt | rfl | hgt
  · refine ⟨.ok (.answer (.behind (last.timestamp - now))), ?_, judge_earlier hlt⟩
    rw [if_neg (Nat.ne_of_lt hlt), if_neg (Nat.not_lt_of_gt hlt), sub_of_le (Nat.le_of_lt hlt)]
    rfl
  · rw [if_pos rfl]
    rcases Nat.lt_or_ge last.sequence Flake.maxSequence with hroom | hfull
    · refine ⟨.ok (.issue _), ?_, judge_same hroom⟩
      have hhas : last.hasRoom = true := decide_eq_true hroom
      rw [if_pos hhas, increment_of_room hroom]
      rfl
    · refine ⟨.ok (.answer (.pending 1)), ?_, judge_full hfull⟩
      have hhas : last.hasRoom = false := decide_eq_false (Nat.not_lt.mpr hfull)
      rw [hhas]
      rfl
  · rw [if_neg (Nat.ne_of_gt hgt), if_pos hgt]
    rcases Nat.lt_or_ge Flake.maxTimestamp now with hmax | hmax
    · refine ⟨.error (.timestampOverflow now), ?_, judge_beyond hmax⟩
      rw [if_pos hmax]
      rfl
    · refine ⟨.ok (.issue _), ?_, judge_later hgt hmax⟩
      rw [if_neg (Nat.not_lt.mpr hmax), rollover_of_le hmax]
      rfl

/-- The budget of a call does not trap, for any options and any time waited. -/
theorem allow_eq (o : Options) (waited : Duration) (b : Backoff) :
    allow o waited b = .ok (o.allow waited b) := by
  unfold allow remaining Options.allow
  by_cases hspent : o.maxWait ≤ waited
  · rw [if_pos hspent, if_pos hspent]
    rfl
  · -- What is left is looked for only while the budget is not spent.
    have hleft : waited.nanos ≤ o.maxWait.nanos := Nat.le_of_not_le hspent
    rw [if_neg hspent, if_neg hspent, sub_of_le hleft]
    cases b with
    | spin yieldFor => rfl
    | sleep d => rfl

end Checked

/-! ### Polls and calls -/

/-- A poll that no other caller overlaps panics with the clock only. -/
theorem Generator.poll_panic {g : Generator} {r : Reading} {p : Panic}
    (h : (g.poll r).1 = .error (.panic p)) : p = .clock := by
  change (g.cell.poll r).1 = _ at h
  rcases g.cell.poll_result r with hrefused | habout
  · rw [hrefused] at h
    cases h
  · rw [habout] at h
    exact (resultAbout_panic h).1

section

variable {σ ω : Type}

/-- The only panic that a poll gives is the clock's. -/
def SoundPoll (poll : StateT σ (StateM ω) PollResult) : Prop :=
  Ends poll fun _ r _ => ∀ p, r = .error (.panic p) → p = .clock

/-- The only panic that a call gives is the clock's. -/
def SoundCall (call : StateT σ (StateM ω) (Option (Except Fault Flake))) : Prop :=
  Ends call fun _ r _ => ∀ p, r = some (.error (.panic p)) → p = .clock

/-- A poll of a generator that one owns panics with the clock only. -/
theorem Generator.pollWith_sound (read : StateM ω Reading) : SoundPoll (pollWith read) := by
  intro g w p
  unfold pollWith
  split
  · intro h
    cases h
  · exact poll_panic

/-- A call gives no panic of its own. -/
theorem callFrom_sound {fx : Effects (StateT σ (StateM ω))} (hpoll : SoundPoll fx.poll)
    (pause : Backoff → StateT σ (StateM ω) Unit) (o : Options) (polls : Nat)
    (started : Option Instant) : SoundCall (callFrom fx pause o polls started) := by
  have hmeanwhile : Meanwhile (σ := σ) fun _ _ => True :=
    ⟨fun _ => trivial, fun _ _ _ _ _ => trivial⟩
  -- Pauses and looks at the stopwatch cannot panic, so only the ends of a
  -- round count.
  refine callFrom_ends hpoll hmeanwhile (fun _ _ => trivial) (fun _ _ _ => trivial) ?_ o polls
    started
  refine ⟨?_, ?_, ?_⟩
  · intro s p h
    cases h
  · intro s r t u result hsound _ hafter p h
    cases h
    cases hafter with
    | fault f => exact hsound p rfl
  · intro s r t b u result v hsound hafter _ hrest
    exact hrest

/-- Neither call gives another panic than the clock's, whatever its options and
its sleep, and for however many polls it is followed. -/
def SoundCalls (fx : Effects (StateT σ (StateM ω))) : Prop :=
  ∀ (o : Options) (polls : Nat), SoundCall (generate fx o polls) ∧
    ∀ sleepFor, SoundCall (generateAsync fx sleepFor o polls)

/-- If the polls are sound, so are both calls. -/
theorem SoundPoll.calls {fx : Effects (StateT σ (StateM ω))} (hpoll : SoundPoll fx.poll) :
    SoundCalls fx := by
  intro o polls
  refine ⟨?_, fun sleepFor => ?_⟩
  · rw [generate_eq]
    exact callFrom_sound hpoll _ o polls none
  · rw [generateAsync_eq]
    exact callFrom_sound hpoll _ o polls none

/-- The polls are of a generator that others may poll too: each gives the
result of a poll in some run of its cell. -/
def PollsOf (cell : Cell) (poll : StateT σ (StateM ω) PollResult) : Prop :=
  Ends poll fun _ r _ => ∃ moves j, (Journal.start cell).run moves = some j ∧
    ∃ p ∈ j.polls, p.result = r

end

/-- A poll of a run panics only when its last reading was a panic. -/
theorem Journal.Answered.panic {first : Flake} {j : Journal} (h : j.Answered first) {p : Span}
    (hp : p ∈ j.polls) {panic : Panic} (hpanic : p.result = .error (.panic panic)) :
    panic = .clock ∧ p.readings.getLast? = some .failure := by
  rcases h.polls p hp with ⟨-, hrefused⟩ | ⟨seen, -, r, hr, habout⟩
  · rw [hrefused] at hpanic
    cases hpanic
  · rw [habout] at hpanic
    obtain ⟨hclock, rfl⟩ := resultAbout_panic hpanic
    exact ⟨hclock, hr⟩

/-- Take a generator that was built without a panic, and any run of any number
of callers over it.

A poll of the run panics only because it was the clock that panicked at its
last reading, and the lock is poisoned only after such a reading. Neither the
rule of a poll nor the budget of a call does arithmetic that traps, for any
word, reading, options, and time waited. So neither call panics but with the
clock: not on a generator that others poll at the same time, whatever happens
between its own polls, and not on one that it owns, whatever state that is in.

Construction panics exactly over a timestamp or a sequence number that is too
wide. -/
theorem panics_only_with_clock {g : Generator} (hg : g.Built) {moves : List (Nat × Move)}
    {j : Journal} (hrun : (Journal.start g.cell).run moves = some j) :
    (∀ p ∈ j.polls, ∀ panic, p.result = .error (.panic panic) →
      panic = .clock ∧ p.readings.getLast? = some .failure) ∧
    (j.arena.cell.isPoisoned = true → .failure ∈ j.readings) ∧
    (∀ last now, ∃ answer, Checked.judge last now = .ok answer ∧
      judge last now = answer.mapError Fault.error) ∧
    (∀ o waited b, Checked.allow o waited b = .ok (o.allow waited b)) ∧
    (∀ (σ ω : Type) (fx : Effects (StateT σ (StateM ω))), PollsOf g.cell fx.poll →
      SoundCalls fx) ∧
    (∀ (ω : Type) (mc : Machine (StateM ω)) (read : StateM ω Reading),
      SoundCalls (mc.effectsWith read)) ∧
    ∀ kind worker timestamp sequence,
      (∃ panic, Generator.preloaded kind worker timestamp sequence = .error panic) ↔
        Flake.maxTimestamp < timestamp ∨ Flake.maxSequence < sequence := by
  have hanswered := Journal.answered_run hg.isPoisoned hrun
  refine ⟨fun p hp panic => hanswered.panic hp, hanswered.poisoned, Checked.judge_eq,
    Checked.allow_eq, ?_, ?_, fun _ _ _ _ => Generator.preloaded_panics_iff⟩
  · intro σ ω fx hpolls
    -- Each poll of the call is one of some run, and the polls of a run are
    -- sound.
    refine SoundPoll.calls (hpolls.mono ?_)
    rintro s r t ⟨moves, k, hk, p, hp, rfl⟩ panic hpanic
    exact ((Journal.answered_run hg.isPoisoned hk).panic hp hpanic).1
  · intro ω mc read
    exact SoundPoll.calls (Generator.pollWith_sound read)

/-- A poll ahead of the clock, one that the clock panics in, and one that the
poisoned lock refuses. -/
def clockPanics : List (Nat × Move) :=
  [(0, .critical (.millis 3)), (1, .critical .failure), (2, .critical (.millis 9))]

/-- After the panic of the clock the lock is poisoned, and the poll that it
refuses gives an error and no panic. -/
theorem panics_only_with_clock_refused :
    ∃ g j, Generator.preloaded .locked ⟨7, by decide⟩ 5 4095 = .ok g ∧
      (Journal.start g.cell).run clockPanics = some j ∧
      j.polls.map Span.result = [.ok (.behind 2), .error (.panic .clock),
        .error (.error .lockPoisoned)] ∧
      j.arena.cell.isPoisoned = true ∧ .failure ∈ j.readings ∧
      ∀ p ∈ j.polls, ∀ panic, p.result = .error (.panic panic) →
        panic = .clock ∧ p.readings.getLast? = some .failure := by
  have hrun : ∃ g j, Generator.preloaded .locked ⟨7, by decide⟩ 5 4095 = .ok g ∧
      (Journal.start g.cell).run clockPanics = some j ∧
      j.polls.map Span.result = [.ok (.behind 2), .error (.panic .clock),
        .error (.error .lockPoisoned)] ∧
      j.arena.cell.isPoisoned = true :=
    ⟨_, _, rfl, rfl, by decide, rfl⟩
  obtain ⟨g, j, hg, hj, hresults, hpoisoned⟩ := hrun
  obtain ⟨hpolls, hfailure, -⟩ := panics_only_with_clock (.preloaded hg) hj
  exact ⟨g, j, hg, hj, hresults, hpoisoned, hfailure hpoisoned, hpolls⟩

end Snowflake
