import Mathlib.Logic.Basic
import Snowflake.Ticking

/-!
# `Snowflake.Proofs.Ticking`: the monotonic clock is monotonic

The ticker of a monotonic clock may be late by any time, and may skip any number of
milliseconds. `never_goes_back` shows that what it stores ascends all the same, and that
readers never see the clock go back or run ahead of time, whoever reads, through whichever
handle, between any two steps of the ticker. It asks for the readings to fit a 64-bit word.
Beyond that the ticker would cut off its milliseconds, and a reader would panic.

The ascent rests on the due millisecond, which follows the one that was stored last. When
the ticker looks for the second time, the due millisecond has begun (`Stage.Timely`):
either the ticker slept until then, or its first look had shown it.

`Ticks` is the complete list of the ticker's steps. `Steady` describes what a run writes
down, without the clock and its stages. `Sound.step` shows that each step keeps to it, and
`Sound.run` that a whole run does. The properties of the notes are read off `Steady`.
-/

set_option autoImplicit false

namespace Snowflake.TickingClock

variable {c : MonotonicClock} {s next : TickingClock} {note : Option Note}

/-! ### One step of the ticker -/

/-- All that a step of the ticker can be. -/
inductive Ticks (s : TickingClock) : TickingClock → Option Note → Prop
  /-- A round begins, or there is no handle left and the ticker stops. -/
  | begin {stage : Stage} (hstage : stage = .holding ∨ stage = .stopped) :
      Ticks s { s with stage } none
  /-- The first look, and a sleep if the due millisecond lies ahead. -/
  | nap : Ticks s { s with stage := s.nap } none
  /-- The sleep is over. -/
  | wake {wakes : Instant} (hstage : s.stage = .asleep wakes)
      (hover : wakes.nanos ≤ s.now.nanos) : Ticks s { s with stage := .awake } none
  /-- The second look. -/
  | look (hstage : s.stage = .awake) : Ticks s { s with stage := .looked s.now } none
  /-- What was seen is stored. The round ends, or the ticker panics. -/
  | store {seen : Instant} (hstage : s.stage = .looked seen) :
      Ticks s (s.store seen) (some (.stored seen (s.store seen).ticker.stored))

/-- A step of the ticker is one of these. -/
theorem ticks_of_tick (h : s.tick = some (next, note)) : s.Ticks next note := by
  unfold tick at h
  cases hstage : s.stage with
  | resting =>
      rw [hstage] at h
      cases h
      exact .begin (ite_eq_or_eq _ _ _).symm
  | holding =>
      rw [hstage] at h
      cases h
      exact .nap
  | asleep wakes =>
      simp only [hstage] at h
      split at h
      · rename_i hover
        cases h
        exact .wake hstage hover
      · cases h
  | awake =>
      rw [hstage] at h
      cases h
      exact .look hstage
  | looked seen =>
      rw [hstage] at h
      cases h
      exact .store hstage
  | stopped =>
      rw [hstage] at h
      cases h

/-! ### What every step keeps -/

/-- The due millisecond has begun when the ticker looks for the second time. -/
def Stage.Timely (start now : Instant) (due : Duration) : Stage → Prop
  | .asleep wakes => due ≤ wakes.since start
  | .awake => due ≤ now.since start
  | .looked seen => due ≤ seen.since start ∧ seen.nanos ≤ now.nanos
  | _ => True

/-- What holds of a clock at work between any two steps. -/
structure Sound (c : MonotonicClock) (s : TickingClock) : Prop where
  started : s.start.nanos ≤ s.now.nanos
  /-- All handles are clones of the first. -/
  handles : ∀ handle ∈ s.handles, handle = c
  /-- What is stored lies in the past, -/
  stored : s.ticker.stored ≤ s.elapsed.millis
  /-- and the due millisecond is no earlier. -/
  due : s.ticker.stored ≤ s.ticker.due
  timely : s.stage.Timely s.start s.now (.ofMillis s.ticker.due)

/-- What a clock writes down, from what its ticker holds on. -/
inductive Steady (c : MonotonicClock) (start : Instant) : Ticker → List Note → Prop
  | nil {t : Ticker} : Steady c start t []
  /-- The ticker stores the milliseconds that it saw, and they were due. -/
  | stored {t : Ticker} {seen : Instant} {notes : List Note}
      (hdue : t.due ≤ (seen.since start).millis)
      (hrest : Steady c start
        { due := (seen.since start).millis + 1, stored := (seen.since start).millis } notes) :
      Steady c start t (.stored seen (seen.since start).millis :: notes)
  /-- A reader gets what is stored, and it lies in the past. -/
  | read {t : Ticker} {moment : Instant} {notes : List Note}
      (hpast : t.stored ≤ (moment.since start).millis) (hrest : Steady c start t notes) :
      Steady c start t (.read moment (.millis (c.offset + t.stored)) :: notes)

/-- A new clock is sound, since nothing has been stored yet. -/
theorem sound_spawn (c : MonotonicClock) (start : Instant) (wall : WallTime) :
    (spawn c start wall).Sound c where
  started := Nat.le_refl _
  handles := fun _ => List.mem_singleton.mp
  stored := Nat.zero_le _
  due := Nat.le_refl _
  timely := trivial

/-- What is due stays due while time passes. -/
theorem Stage.Timely.pass {stage : Stage} {start now later : Instant} {due : Duration}
    (h : stage.Timely start now due) (hlater : now.nanos ≤ later.nanos) :
    stage.Timely start later due := by
  cases stage with
  | awake => exact Nat.le_trans h (Nat.sub_le_sub_right hlater _)
  | looked seen => exact ⟨h.1, Nat.le_trans h.2 hlater⟩
  | _ => exact h

/-- A sleep for what is left until a time ends no earlier than that. -/
theorem le_since_after {start now : Instant} {due : Duration} (hstarted : start.nanos ≤ now.nanos)
    (hearly : now.since start < due) : due ≤ (now.after (due - now.since start)).since start := by
  have hahead : now.nanos - start.nanos < due.nanos := hearly
  show due.nanos ≤ now.nanos + (due.nanos - (now.nanos - start.nanos)) - start.nanos
  omega

/-- The ticker sleeps until the due millisecond, or sees that it has begun. -/
theorem timely_nap (hstarted : s.start.nanos ≤ s.now.nanos) :
    s.nap.Timely s.start s.now (.ofMillis s.ticker.due) := by
  rw [nap, Ticker.pause?]
  by_cases hearly : s.elapsed < .ofMillis s.ticker.due
  · rw [if_pos hearly]
    exact le_since_after hstarted hearly
  · rw [if_neg hearly]
    exact Nat.le_of_not_lt hearly

/-- Once it has stored what it saw, the ticker begins its next round or has stopped. -/
theorem stage_store (s : TickingClock) (seen : Instant) :
    (s.store seen).stage = .resting ∨ (s.store seen).stage = .stopped :=
  ite_eq_or_eq _ _ _

/-- The clock is sound after a step, and what is noted of the step goes in front of what
the clock writes down from there on. -/
structure Keeps (c : MonotonicClock) (s next : TickingClock) (note : Option Note) : Prop where
  sound : next.Sound c
  steady : ∀ notes, Steady c s.start next.ticker notes →
    Steady c s.start s.ticker (note.toList ++ notes)

/-- A step of which nothing is noted, and which stores nothing. -/
theorem Keeps.silent (h : next.Sound c) (hticker : next.ticker = s.ticker) :
    Keeps c s next none where
  sound := h
  steady := by
    intro notes hrest
    rw [hticker] at hrest
    exact hrest

/-- The ticker goes on to another stage. -/
theorem Sound.move (h : s.Sound c) {stage : Stage}
    (htimely : stage.Timely s.start s.now (.ofMillis s.ticker.due)) :
    Keeps c s { s with stage } none :=
  .silent ⟨h.started, h.handles, h.stored, h.due, htimely⟩ rfl

/-- What the ticker stores was due, and nothing of it is cut off. -/
theorem Sound.store (h : s.Sound c) {seen : Instant} (hstage : s.stage = .looked seen)
    (hword : c.offset + s.elapsed.millis < UInt64.size) :
    Keeps c s (s.store seen) (some (.stored seen (s.store seen).ticker.stored)) := by
  have htimely := h.timely
  rw [hstage] at htimely
  obtain ⟨hbegun, hseen⟩ := htimely
  have hpast : (seen.since s.start).millis ≤ s.elapsed.millis :=
    Duration.millis_le_millis (Nat.sub_le_sub_right hseen _)
  have hdue : s.ticker.due ≤ (seen.since s.start).millis := by
    rw [← Duration.millis_ofMillis s.ticker.due]
    exact Duration.millis_le_millis hbegun
  have hticker : (s.store seen).ticker
      = { due := (seen.since s.start).millis + 1, stored := (seen.since s.start).millis } := by
    show s.ticker.store (seen.since s.start) = _
    rw [Ticker.store, Nat.mod_eq_of_lt (by omega)]
  constructor
  case sound =>
    constructor
    case started => exact h.started
    case handles => exact h.handles
    case stored =>
      rw [hticker]
      exact hpast
    case due =>
      rw [hticker]
      exact Nat.le_succ _
    case timely =>
      -- In either stage that follows, the ticker has no look to answer for.
      rcases stage_store s seen with hnext | hnext <;> rw [hnext] <;> trivial
  case steady =>
    intro notes hrest
    rw [hticker] at hrest ⊢
    exact .stored hdue hrest

/-- Every step of the ticker keeps the clock sound. -/
theorem Sound.tick (h : s.Sound c) (hword : c.offset + s.elapsed.millis < UInt64.size)
    (hticks : s.Ticks next note) : Keeps c s next note := by
  have htimely := h.timely
  cases hticks with
  | begin hstage =>
      refine h.move ?_
      rcases hstage with rfl | rfl <;> trivial
  | nap => exact h.move (timely_nap h.started)
  | @wake wakes hstage hover =>
      rw [hstage] at htimely
      exact h.move (Nat.le_trans htimely (Nat.sub_le_sub_right hover _))
  | look hstage =>
      rw [hstage] at htimely
      exact h.move ⟨htimely, Nat.le_refl _⟩
  | store hstage => exact h.store hstage hword

/-- Every act keeps the clock sound: a step of the ticker, a read, a clone or a
drop of a handle, the passing of time, and the setting of the wall clock. -/
theorem Sound.step (h : s.Sound c) (hword : c.offset + s.elapsed.millis < UInt64.size) {act : Act}
    (hstep : s.step act = some (next, note)) : Keeps c s next note := by
  cases act with
  | tick => exact h.tick hword (ticks_of_tick hstep)
  | read handle =>
      obtain ⟨reader, hreader, hnext⟩ := Option.map_eq_some_iff.mp hstep
      cases hnext
      obtain rfl := h.handles reader (List.mem_of_getElem? hreader)
      -- What is stored lies in the past, so the sum fits a word as the time
      -- itself does.
      have hfits : reader.read s.ticker.stored = .millis (reader.offset + s.ticker.stored) :=
        if_pos (Nat.lt_of_le_of_lt (Nat.add_le_add_left h.stored _) hword)
      rw [hfits]
      exact ⟨h, fun notes hrest => .read h.stored hrest⟩
  | clone handle =>
      obtain ⟨cloned, hcloned, hnext⟩ := Option.map_eq_some_iff.mp hstep
      cases hnext
      refine .silent ⟨h.started, ?_, h.stored, h.due, h.timely⟩ rfl
      intro other hother
      rcases List.mem_append.mp hother with hold | hnew
      · exact h.handles other hold
      · rw [List.mem_singleton.mp hnew]
        exact h.handles cloned (List.mem_of_getElem? hcloned)
  | drop handle =>
      obtain ⟨_, -, hnext⟩ := Option.map_eq_some_iff.mp hstep
      cases hnext
      refine .silent ⟨h.started, ?_, h.stored, h.due, h.timely⟩ rfl
      intro other hother
      exact h.handles other (List.mem_of_mem_eraseIdx hother)
  | pass now =>
      simp only [TickingClock.step] at hstep
      split at hstep
      · rename_i hlater
        cases hstep
        have hstored : s.ticker.stored ≤ (now.since s.start).millis :=
          Nat.le_trans h.stored (Duration.millis_le_millis (Nat.sub_le_sub_right hlater _))
        exact .silent ⟨Nat.le_trans h.started hlater, h.handles, hstored, h.due,
          h.timely.pass hlater⟩ rfl
      · cases hstep
  | setWall wall =>
      cases hstep
      exact .silent ⟨h.started, h.handles, h.stored, h.due, h.timely⟩ rfl

/-! ### Whole runs -/

/-- A clock keeps its start, and its stopwatch does not run backward. -/
theorem step_forward {act : Act} (h : s.step act = some (next, note)) :
    next.start = s.start ∧ s.now.nanos ≤ next.now.nanos := by
  cases act with
  | tick => cases ticks_of_tick h <;> exact ⟨rfl, Nat.le_refl _⟩
  | read handle | clone handle | drop handle =>
      obtain ⟨_, -, hnext⟩ := Option.map_eq_some_iff.mp h
      cases hnext
      exact ⟨rfl, Nat.le_refl _⟩
  | pass now =>
      simp only [step] at h
      split at h
      · rename_i hlater
        cases h
        exact ⟨rfl, hlater⟩
      · cases h
  | setWall wall =>
      cases h
      exact ⟨rfl, Nat.le_refl _⟩

/-- A run takes its first step, and goes on with the others. -/
theorem run_cons (s : TickingClock) (act : Act) (acts : List Act) :
    s.run (act :: acts) = (s.step act).bind fun first =>
      (first.1.run acts).map fun rest => (rest.1, first.2.toList ++ rest.2) := by
  refine Option.bind_congr fun ⟨next, note⟩ _ => ?_
  show (next.run acts >>= fun rest => _) = _
  cases next.run acts <;> rfl

/-- A run that succeeds has taken its first step. -/
theorem exists_of_run_cons {act : Act} {acts : List Act} {last : TickingClock} {notes : List Note}
    (h : s.run (act :: acts) = some (last, notes)) :
    ∃ next note rest, s.step act = some (next, note) ∧ next.run acts = some (last, rest) ∧
      notes = note.toList ++ rest := by
  rw [run_cons] at h
  obtain ⟨⟨next, note⟩, hstep, hrun⟩ := Option.bind_eq_some_iff.mp h
  obtain ⟨⟨_, rest⟩, hrest, hlast⟩ := Option.map_eq_some_iff.mp hrun
  cases hlast
  exact ⟨next, note, rest, hstep, hrest, rfl⟩

/-- The start stays and the stopwatch goes forward in a whole run, too. -/
theorem run_forward {acts : List Act} {last : TickingClock} {notes : List Note}
    (h : s.run acts = some (last, notes)) :
    last.start = s.start ∧ s.now.nanos ≤ last.now.nanos := by
  induction acts generalizing s notes with
  | nil =>
      cases h
      exact ⟨rfl, Nat.le_refl _⟩
  | cons act acts ih =>
      obtain ⟨next, note, rest, hstep, hrest, -⟩ := exists_of_run_cons h
      obtain ⟨hstart, hnext⟩ := step_forward hstep
      obtain ⟨hlast, hlater⟩ := ih hrest
      exact ⟨hlast.trans hstart, Nat.le_trans hnext hlater⟩

/-- The stopwatch does not go back, so what fits a word at the end of a run fits all along. -/
theorem elapsed_le_of_run {acts : List Act} {last : TickingClock} {notes : List Note}
    (h : s.run acts = some (last, notes)) : s.elapsed.millis ≤ last.elapsed.millis := by
  obtain ⟨hstart, hlater⟩ := run_forward h
  refine Duration.millis_le_millis ?_
  show s.now.nanos - s.start.nanos ≤ last.now.nanos - last.start.nanos
  rw [hstart]
  omega

/-- From a sound clock on, a run writes down steady notes. -/
theorem Sound.run (h : s.Sound c) {acts : List Act} {last : TickingClock} {notes : List Note}
    (hrun : s.run acts = some (last, notes))
    (hword : c.offset + last.elapsed.millis < UInt64.size) : Steady c s.start s.ticker notes := by
  induction acts generalizing s notes with
  | nil =>
      cases hrun
      exact .nil
  | cons act acts ih =>
      have hnow : c.offset + s.elapsed.millis < UInt64.size :=
        Nat.lt_of_le_of_lt (Nat.add_le_add_left (elapsed_le_of_run hrun) _) hword
      obtain ⟨next, note, rest, hstep, hrest, rfl⟩ := exists_of_run_cons hrun
      -- The first step keeps to it and leaves a sound clock, from which the
      -- rest goes on.
      have hkeeps := h.step hnow hstep
      have hlater := ih hkeeps.sound hrest
      rw [(step_forward hstep).1] at hlater
      exact hkeeps.steady rest hlater

/-! ### What is written down -/

/-- The milliseconds of a store. -/
def Note.stored? : Note → Option Nat
  | .stored _ ms => some ms
  | .read _ _ => none

/-- The milliseconds of a reading. -/
def Note.value? : Note → Option Nat
  | .read _ (.millis v) => some v
  | _ => none

namespace Steady

variable {start : Instant} {t : Ticker} {notes : List Note}

/-- What is stored is what the look before it showed. -/
theorem exact (h : Steady c start t notes) {seen : Instant} {ms : Nat}
    (hnote : .stored seen ms ∈ notes) : ms = (seen.since start).millis := by
  induction h with
  | nil => cases hnote
  | stored _ _ ih =>
      rcases List.mem_cons.mp hnote with hfirst | hlater
      · cases hfirst
        rfl
      · exact ih hlater
  | read _ _ ih =>
      rcases List.mem_cons.mp hnote with hfirst | hlater
      · cases hfirst
      · exact ih hlater

/-- Nothing is stored before it is due, so what is stored ascends. -/
theorem stores (h : Steady c start t notes) :
    (∀ ms ∈ notes.filterMap Note.stored?, t.due ≤ ms) ∧
      (notes.filterMap Note.stored?).Pairwise (· < ·) := by
  induction h with
  | nil => exact ⟨List.forall_mem_nil _, .nil⟩
  | stored hdue _ ih =>
      obtain ⟨hlater, hascend⟩ := ih
      simp only [List.filterMap_cons, Note.stored?]
      refine ⟨List.forall_mem_cons.mpr ⟨hdue, fun ms hms => ?_⟩, .cons hlater hascend⟩
      exact Nat.le_trans hdue (Nat.le_of_succ_le (hlater ms hms))
  | read _ _ ih => exact ih

/-- A reader gets what was stored last before. -/
theorem read_eq {front back : List Note} {moment : Instant} {r : Reading}
    (h : Steady c start t (front ++ .read moment r :: back)) :
    r = .millis (c.offset + (front.filterMap Note.stored?).getLast?.getD t.stored) := by
  induction front generalizing t with
  | nil =>
      cases h
      rfl
  | cons note front ih =>
      cases h with
      | stored _ hrest =>
          rw [ih hrest]
          simp only [List.filterMap_cons, Note.stored?, List.getLast?_cons, Option.getD_some]
      | read _ hrest => exact ih hrest

/-- What is stored does not go back, so neither do the readings. -/
theorem reads (h : Steady c start t notes) (hdue : t.stored ≤ t.due) :
    (∀ v ∈ notes.filterMap Note.value?, c.offset + t.stored ≤ v) ∧
      (notes.filterMap Note.value?).Pairwise (· ≤ ·) := by
  induction h with
  | nil => exact ⟨List.forall_mem_nil _, .nil⟩
  | stored hbegun _ ih =>
      obtain ⟨hlater, hascend⟩ := ih (Nat.le_succ _)
      refine ⟨fun v hv => ?_, hascend⟩
      exact Nat.le_trans (Nat.add_le_add_left (Nat.le_trans hdue hbegun) _) (hlater v hv)
  | read _ _ ih =>
      obtain ⟨hlater, hascend⟩ := ih hdue
      simp only [List.filterMap_cons, Note.value?]
      exact ⟨List.forall_mem_cons.mpr ⟨Nat.le_refl _, hlater⟩, .cons hlater hascend⟩

/-- A reading lies between the offset and the time of the read. -/
theorem read_bounds (h : Steady c start t notes) {moment : Instant} {r : Reading}
    (hnote : .read moment r ∈ notes) :
    ∃ v, r = .millis v ∧ c.offset ≤ v ∧ v ≤ c.offset + (moment.since start).millis := by
  induction h with
  | nil => cases hnote
  | stored _ _ ih =>
      rcases List.mem_cons.mp hnote with hfirst | hlater
      · cases hfirst
      · exact ih hlater
  | read hpast _ ih =>
      rcases List.mem_cons.mp hnote with hfirst | hlater
      · cases hfirst
        exact ⟨_, rfl, Nat.le_add_right _ _, Nat.add_le_add_left hpast _⟩
      · exact ih hlater

end Steady

/-! ### The wall clock -/

/-- The act is none of the wall clock. -/
def Act.sparesWall : Act → Bool
  | .setWall _ => false
  | _ => true

/-- The same clock under a wall clock that shows the given time. -/
def withWall (wall : WallTime) (s : TickingClock) : TickingClock := { s with wall }

/-- The ticker does not look at the wall clock. -/
theorem tick_withWall (wall : WallTime) (s : TickingClock) :
    (s.withWall wall).tick = s.tick.map (Prod.map (withWall wall) id) := by
  obtain ⟨start, now, shown, ticker, stage, handles⟩ := s
  cases stage with
  | asleep wakes =>
      show (if wakes.nanos ≤ now.nanos then _ else _) = Option.map _ (if _ then _ else _)
      by_cases hover : wakes.nanos ≤ now.nanos
      · rw [if_pos hover, if_pos hover]
        rfl
      · rw [if_neg hover, if_neg hover]
        rfl
  | _ => rfl

/-- No step but its own looks at the wall clock. -/
theorem step_withWall (wall : WallTime) (s : TickingClock) {act : Act}
    (h : act.sparesWall = true) :
    (s.withWall wall).step act = (s.step act).map (Prod.map (withWall wall) id) := by
  cases act with
  | setWall => cases h
  | tick => exact tick_withWall wall s
  | read handle | clone handle | drop handle =>
      simp only [step, Option.map_map]
      rfl
  | pass now =>
      show (if s.now.nanos ≤ now.nanos then _ else _) = Option.map _ (if _ then _ else _)
      by_cases hlater : s.now.nanos ≤ now.nanos
      · rw [if_pos hlater, if_pos hlater]
        rfl
      · rw [if_neg hlater, if_neg hlater]
        rfl

/-- What the wall clock shows when a run begins, and how it is set in between, changes
nothing else. -/
theorem run_withWall (wall : WallTime) (s : TickingClock) (acts : List Act) :
    (s.run acts).map (Prod.map (withWall wall) id)
      = ((s.withWall wall).run (acts.filter Act.sparesWall)).map (Prod.map (withWall wall) id) := by
  induction acts generalizing s with
  | nil => rfl
  | cons act acts ih =>
      cases hspares : act.sparesWall with
      | true =>
          rw [List.filter_cons_of_pos hspares, run_cons, run_cons, step_withWall wall s hspares]
          cases s.step act with
          | none => rfl
          | some first =>
              -- The notes are put in front before or after the wall clock is replaced.
              let front := fun rest : TickingClock × List Note => (rest.1, first.2.toList ++ rest.2)
              show ((first.1.run acts).map front).map (Prod.map (withWall wall) id)
                = (((first.1.withWall wall).run (acts.filter Act.sparesWall)).map front).map
                    (Prod.map (withWall wall) id)
              have hcommutes : Prod.map (withWall wall) id ∘ front
                  = front ∘ Prod.map (withWall wall) id := rfl
              rw [Option.map_map, Option.map_map, hcommutes, ← Option.map_map, ih, Option.map_map]
      | false =>
          cases act with
          | setWall shown =>
              rw [List.filter_cons_of_neg Bool.false_ne_true, run_cons]
              have hset := ih (s.withWall shown)
              show (((s.withWall shown).run acts).map _).map _ = _
              rw [Option.map_map]
              exact hset
          | _ => cases hspares

/-- Clocks that are made alike, and to which the same happens apart from the wall clock,
write down the same. -/
theorem notes_eq_of_sparesWall {acts others : List Act} {start : Instant} {wall shown : WallTime}
    {last : TickingClock} {notes : List Note}
    (hrun : (spawn c start wall).run acts = some (last, notes))
    (hothers : others.filter Act.sparesWall = acts.filter Act.sparesWall) :
    ∃ final, (spawn c start shown).run others = some (final, notes) := by
  have hsame := run_withWall wall (spawn c start shown) others
  rw [hothers] at hsame
  have hfirst := run_withWall wall (spawn c start wall) acts
  rw [hrun] at hfirst
  obtain ⟨⟨final, written⟩, hfinal, heq⟩ := Option.map_eq_some_iff.mp (hsame.trans hfirst.symm)
  cases (Prod.mk.inj heq).2
  exact ⟨final, hfinal⟩

/-- Take a new monotonic clock with any offset, and any run of its ticker, of those who
hold handles, and of time. The ticker may be late by any time at each step, and sleep
longer than it asked for. The offset and the time since the start fit a 64-bit word of
milliseconds at the end of the run.

Each value that the ticker stores is the whole milliseconds from the start to its last
look at the stopwatch, and greater than the one stored before. No reader panics. Each
reading lies between the offset and the offset with the whole milliseconds from the start
to the moment of the read, and is no smaller than any reading before it, whichever handles
the two went through. More precisely, it is the offset and the value stored last, or the
offset alone before the first store.

The wall clock has no part in it. If it shows another time at the start, or is set
differently or not at all in between, the run writes down the same. -/
theorem never_goes_back {c : MonotonicClock} {start : Instant} {wall : WallTime}
    {acts : List Act} {last : TickingClock} {notes : List Note}
    (hrun : (spawn c start wall).run acts = some (last, notes))
    (hword : c.offset + last.elapsed.millis < UInt64.size) :
    ((∀ seen ms, .stored seen ms ∈ notes → ms = (seen.since start).millis) ∧
      (notes.filterMap Note.stored?).Pairwise (· < ·)) ∧
    ((∀ moment r, .read moment r ∈ notes →
        ∃ v, r = .millis v ∧ c.offset ≤ v ∧ v ≤ c.offset + (moment.since start).millis) ∧
      (notes.filterMap Note.value?).Pairwise (· ≤ ·)) ∧
    (∀ front moment r back, notes = front ++ .read moment r :: back →
      r = .millis (c.offset + (front.filterMap Note.stored?).getLast?.getD 0)) ∧
    ∀ shown others, others.filter Act.sparesWall = acts.filter Act.sparesWall →
      ∃ final, (spawn c start shown).run others = some (final, notes) := by
  have hsteady : Steady c start {} notes := (sound_spawn c start wall).run hrun hword
  refine ⟨⟨?exact, hsteady.stores.2⟩, ⟨?bounds, (hsteady.reads (Nat.le_refl _)).2⟩, ?last, ?wall⟩
  case exact => exact fun seen ms => hsteady.exact
  case bounds => exact fun moment r => hsteady.read_bounds
  case last =>
    rintro front moment r back rfl
    exact hsteady.read_eq
  case wall => exact fun shown others => notes_eq_of_sparesWall hrun

/-- A run in which the ticker oversleeps by more than six milliseconds. A reader comes
before the first store, one between a look and its store, and one through a clone after
the first handle is gone. The wall clock is set back while the ticker sleeps. -/
def oversleeping : List Act :=
  [.tick, .tick, .tick, .read 0, .tick, .clone 0, .tick, .tick, .setWall ⟨-7⟩, .pass ⟨7500300⟩,
    .tick, .tick, .pass ⟨9000300⟩, .read 1, .tick, .drop 0, .read 0]

/-- The ticker stores 0 and 7, and the readers get 5, 5 and 12. -/
theorem never_goes_back_oversleeping :
    let notes : List Note := [.read ⟨300⟩ (.millis 5), .stored ⟨300⟩ 0, .read ⟨9000300⟩ (.millis 5),
      .stored ⟨7500300⟩ 7, .read ⟨9000300⟩ (.millis 12)]
    (∃ last, (spawn ⟨5⟩ ⟨300⟩ ⟨0⟩).run oversleeping = some (last, notes)) ∧
      (notes.filterMap Note.stored?).Pairwise (· < ·) ∧
      (notes.filterMap Note.value?).Pairwise (· ≤ ·) ∧
      ∃ final, (spawn ⟨5⟩ ⟨300⟩ ⟨99⟩).run (oversleeping.filter Act.sparesWall)
        = some (final, notes) := by
  intro notes
  have hrun : ∃ last, (spawn ⟨5⟩ ⟨300⟩ ⟨0⟩).run oversleeping = some (last, notes) ∧
      5 + last.elapsed.millis < UInt64.size := ⟨_, rfl, by decide⟩
  obtain ⟨last, hlast, hword⟩ := hrun
  obtain ⟨⟨-, hstores⟩, ⟨-, hreads⟩, -, hwall⟩ := never_goes_back hlast hword
  exact ⟨⟨last, hlast⟩, hstores, hreads, hwall ⟨99⟩ _ (by decide)⟩

end Snowflake.TickingClock
