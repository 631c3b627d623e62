import Snowflake.Proofs.Startup
import Snowflake.Proofs.Ticking

/-!
# `Snowflake.Proofs.Stopwatch`: the monotonic clock of a program

A program reads its monotonic clock straight off the stopwatch (`Machine.read`): the
offset, and the whole milliseconds since the start. A clock at work is read through its
ticker, and a reader gets what the ticker stored last (`TickingClock`). The two are the
same clock apart from the ticker's lateness, and this module says so in both directions.

`read_le_machine` is about every run of a clock at work. No reader is ahead of the program,
and a reader that gets less comes before the ticker has stored the millisecond of the read.
`machine_reads_promptly` is about every program. Whatever it reads off its stopwatch is
read in a run in which the ticker is never late. So the readings of a program do not go
back either, and what holds of all runs of the clock at work holds of them.

Both ask for readings that fit a 64-bit word, as `never_goes_back` does. The ticker that is
never late takes a round whenever a millisecond is due at a read (`catches_up`), and has
stored the current one afterwards.
-/

set_option autoImplicit false

namespace Snowflake

/-- What a program reads when its stopwatch shows the instant. -/
def MonotonicClock.readAt (c : MonotonicClock) (start now : Instant) : Reading :=
  .millis (c.reading (now.since start).millis)

/-- A program looks at its stopwatch once for each reading of a monotonic clock. -/
theorem Machine.read_monotonic {ω : Type} (mc : Machine (StateM ω)) (c : MonotonicClock)
    (start : Instant) (w : ω) :
    mc.read (.monotonic c start) w = (c.readAt start (mc.instant w).1, (mc.instant w).2) :=
  rfl

namespace TickingClock

variable {c : MonotonicClock} {s next last : TickingClock} {acts : List Act} {notes : List Note}

/-- Take a new monotonic clock and any run of its ticker, its readers and of time, in which
the readings fit a 64-bit word. A reader gets no more than a program whose stopwatch shows
the same instant. It gets as much exactly if the ticker has already stored the millisecond
of that instant, or none has passed. -/
theorem read_le_machine {start : Instant} {wall : WallTime}
    (hrun : (spawn c start wall).run acts = some (last, notes))
    (hword : c.offset + last.elapsed.millis < UInt64.size) {front back : List Note}
    {moment : Instant} {r : Reading} (hnotes : notes = front ++ .read moment r :: back) :
    (∃ v, r = .millis v ∧ v ≤ c.reading (moment.since start).millis) ∧
      (r = c.readAt start moment ↔
        (front.filterMap Note.stored?).getLast?.getD 0 = (moment.since start).millis) := by
  subst hnotes
  have hsteady : Steady c start {} (front ++ .read moment r :: back) :=
    (sound_spawn c start wall).run hrun hword
  constructor
  · obtain ⟨v, hv, -, hle⟩ := hsteady.read_bounds (List.mem_append_right _ (.head _))
    exact ⟨v, hv, hle⟩
  · rw [hsteady.read_eq]
    constructor
    · intro heq
      exact Nat.add_left_cancel (Reading.millis.inj heq)
    · intro heq
      exact congrArg (fun ms => Reading.millis (c.offset + ms)) heq

/-! ### A ticker that is never late -/

/-- A step is followed by the rest of the run. -/
theorem run_of_step {act : Act} {note : Option Note} (hstep : s.step act = some (next, note))
    (hrun : next.run acts = some (last, notes)) :
    s.run (act :: acts) = some (last, note.toList ++ notes) := by
  rw [run_cons, hstep]
  show (next.run acts).map _ = _
  rw [hrun]
  rfl

/-- Two runs follow each other. -/
theorem run_append {more : List Act} {notes' : List Note} {final : TickingClock}
    (hrun : s.run acts = some (last, notes)) (hmore : last.run more = some (final, notes')) :
    s.run (acts ++ more) = some (final, notes ++ notes') := by
  induction acts generalizing s notes with
  | nil =>
      cases hrun
      exact hmore
  | cons act acts ih =>
      obtain ⟨next, note, rest, hstep, hrest, rfl⟩ := exists_of_run_cons hrun
      rw [List.append_assoc]
      exact run_of_step hstep (ih hrest)

/-- The ticker rests between its rounds, and the next millisecond that it waits for is the
one after that which it stored. -/
structure Prompt (c : MonotonicClock) (s : TickingClock) : Prop where
  handles : s.handles = [c]
  stored : s.ticker.stored ≤ s.elapsed.millis
  due : s.ticker.due ≤ s.ticker.stored + 1
  /-- After the last millisecond of a word it has stopped, and there is none to wait
  for. -/
  resting : s.stage = .resting ∨ UInt64.size ≤ s.ticker.due

/-- A new clock is prompt: its ticker is about to store for the first time. -/
theorem prompt_spawn (c : MonotonicClock) (start : Instant) (wall : WallTime) :
    Prompt c (spawn c start wall) :=
  ⟨rfl, Nat.zero_le _, Nat.zero_le _, .inl rfl⟩

/-- Time goes on while the ticker rests. -/
theorem Prompt.pass (h : Prompt c s) {now : Instant} (hlater : s.now.nanos ≤ now.nanos) :
    Prompt c { s with now } where
  handles := h.handles
  stored := Nat.le_trans h.stored (Duration.millis_le_millis (Nat.sub_le_sub_right hlater _))
  due := h.due
  resting := h.resting

/-- A round of the ticker when its millisecond has begun: two looks at the stopwatch and a
store, without a sleep. -/
theorem Prompt.round (h : Prompt c s) (hdue : s.ticker.due ≤ s.elapsed.millis)
    (hword : s.elapsed.millis < UInt64.size) :
    s.run [.tick, .tick, .tick, .tick]
      = some (s.store s.now, [.stored s.now (s.store s.now).ticker.stored]) := by
  have hresting : s.stage = .resting := h.resting.resolve_right (by omega)
  have hhandles : s.handles.isEmpty = false := by
    rw [h.handles]
    rfl
  have hbegun : ¬ s.elapsed < .ofMillis s.ticker.due := by
    rw [Duration.lt_ofMillis_iff]
    omega
  have hfirst : s.step .tick = some ({ s with stage := .holding }, none) := by
    simp only [step, tick, hresting, hhandles, Bool.false_eq_true, if_false]
  have hawake : ({ s with stage := .holding } : TickingClock).step .tick
      = some ({ s with stage := .awake }, none) := by
    show some ({ s with stage := (s.ticker.pause? s.elapsed).elim _ _ }, none) = _
    rw [Ticker.pause?, if_neg hbegun]
    rfl
  -- The other two steps, the second look and the store, are always there.
  have hrest : ({ s with stage := .awake } : TickingClock).run [.tick, .tick]
      = some (s.store s.now, [.stored s.now (s.store s.now).ticker.stored]) := rfl
  exact run_of_step hfirst (run_of_step hawake hrest)

/-- What the ticker has stored after its round is the current millisecond. -/
theorem Prompt.store (h : Prompt c s) (hword : s.elapsed.millis < UInt64.size) :
    Prompt c (s.store s.now) ∧ (s.store s.now).ticker.stored = s.elapsed.millis := by
  have hticker : (s.store s.now).ticker
      = { due := s.elapsed.millis + 1, stored := s.elapsed.millis } := by
    show s.ticker.store s.elapsed = _
    rw [Ticker.store, Nat.mod_eq_of_lt hword]
  have hstored : (s.store s.now).ticker.stored = s.elapsed.millis := congrArg Ticker.stored hticker
  have hdue : (s.store s.now).ticker.due = s.elapsed.millis + 1 := congrArg Ticker.due hticker
  refine ⟨⟨h.handles, Nat.le_of_eq hstored, ?_, ?_⟩, hstored⟩
  · exact Nat.le_of_eq (hdue.trans (congrArg (· + 1) hstored.symm))
  · show (if (s.store s.now).ticker.due < UInt64.size then Stage.resting else .stopped) = _ ∨ _
    split
    · exact .inl rfl
    · rename_i hlast
      exact .inr (Nat.le_of_not_lt hlast)

/-- The readings, each with the instant of its read. -/
def Note.read? : Note → Option (Instant × Reading)
  | .read moment r => some (moment, r)
  | .stored _ _ => none

/-- Before a read the ticker takes a round if its millisecond has begun. Otherwise the
current one is stored already. -/
theorem Prompt.catches_up (h : Prompt c s) (hword : s.elapsed.millis < UInt64.size) :
    ∃ acts next notes, s.run acts = some (next, notes) ∧ notes.filterMap Note.read? = [] ∧
      Prompt c next ∧ next.start = s.start ∧ next.now = s.now ∧
      next.ticker.stored = s.elapsed.millis := by
  by_cases hdue : s.ticker.due ≤ s.elapsed.millis
  · obtain ⟨hprompt, hstored⟩ := h.store hword
    exact ⟨_, _, _, h.round hdue hword, rfl, hprompt, rfl, rfl, hstored⟩
  · have hstored := h.stored
    have hnext := h.due
    exact ⟨[], s, [], rfl, rfl, h, rfl, rfl, by omega⟩

/-- By induction on the reads: time goes on, the ticker catches up, and the clock is
read. -/
theorem Prompt.exists_run (h : Prompt c s) (moments : List Instant)
    (hforward : (s.now :: moments).Pairwise fun t u => t.nanos ≤ u.nanos)
    (hword : ∀ t ∈ moments, c.offset + (t.since s.start).millis < UInt64.size) :
    ∃ acts last notes, s.run acts = some (last, notes) ∧
      notes.filterMap Note.read? = moments.map fun t => (t, c.readAt s.start t) := by
  induction moments generalizing s with
  | nil => exact ⟨[], s, [], rfl, rfl⟩
  | cons now moments ih =>
      obtain ⟨hpast, hforward⟩ := List.pairwise_cons.mp hforward
      obtain ⟨hnow, hword⟩ := List.forall_mem_cons.mp hword
      have hlater := hpast now (.head _)
      have hpass : s.step (.pass now) = some ({ s with now }, none) := if_pos hlater
      obtain ⟨acts, next, notes, hrun, hsilent, hprompt, hstart, hmoment, hstored⟩ :=
        (h.pass hlater).catches_up (Nat.lt_of_le_of_lt (Nat.le_add_left _ _) hnow)
      -- The reader gets the current millisecond.
      have hread : next.step (.read 0) = some (next, some (.read now (c.readAt s.start now))) := by
        have hfits : c.read next.ticker.stored = c.readAt s.start now := by
          rw [hstored]
          exact if_pos hnow
        show next.handles[0]?.map _ = _
        rw [hprompt.handles, ← hfits, hmoment]
        rfl
      obtain ⟨more, last, rest, hrest, hreads⟩ := ih hprompt (hmoment ▸ hforward)
        (fun t ht => hstart ▸ hword t ht)
      refine ⟨_, last, _, run_of_step hpass (run_append hrun (run_of_step hread hrest)), ?_⟩
      rw [hstart] at hreads
      show (notes ++ .read now _ :: rest).filterMap Note.read? = _
      have hfirst : Note.read? (.read now (c.readAt s.start now))
          = some (now, c.readAt s.start now) := rfl
      rw [List.filterMap_append, hsilent, List.nil_append, List.filterMap_cons_some hfirst, hreads]
      rfl

/-- Take any machine, a monotonic clock on it, and any moments of a program in which the
stopwatch does not go back and the readings fit a 64-bit word. What the program reads at
these moments is read in a run of the clock at work, at the same instants, through the
clock's first handle. -/
theorem machine_reads_promptly {ω : Type} (mc : Machine (StateM ω)) (c : MonotonicClock)
    (start : Instant) (wall : WallTime) (moments : List ω)
    (hforward : (start :: moments.map fun w => (mc.instant w).1).Pairwise fun t u =>
      t.nanos ≤ u.nanos)
    (hword : ∀ w ∈ moments, c.offset + ((mc.instant w).1.since start).millis < UInt64.size) :
    ∃ acts last notes, (spawn c start wall).run acts = some (last, notes) ∧
      notes.filterMap Note.read?
        = moments.map fun w => ((mc.instant w).1, (mc.read (.monotonic c start) w).1) := by
  obtain ⟨acts, last, notes, hrun, hreads⟩ := (prompt_spawn c start wall).exists_run
    (moments.map fun w => (mc.instant w).1) hforward (List.forall_mem_map.mpr hword)
  refine ⟨acts, last, notes, hrun, ?_⟩
  rw [hreads, List.map_map]
  rfl

end TickingClock

end Snowflake
