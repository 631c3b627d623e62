import Snowflake.Proofs.Contention.Step

/-!
# `Snowflake.Proofs.Contention.Journal`: a run and what is known of it

`Arena.run` keeps of a run the arena at its end and the results of the polls.
A `Journal` keeps more, for statements about the run as a whole: which polls
have ended, each with the steps between which it ran and the readings that it
took, all readings in the order in which they were taken, and the identifiers
that replaced the last one. `Journal.run_eq` shows that nothing depends on it:
a journal is kept of every run, and its arena and results are the run's own.

`Journal.invariant` is the one induction over a run: what the start satisfies
and every step keeps holds at the end. `Journal.Sound` is the first such
property. A proposal that waits for its swap follows the word that was seen, at
the last reading of its poll, and polls end later than they begin.
-/

set_option autoImplicit false

namespace Snowflake

/-- The milliseconds of a reading that is no panic. -/
def Reading.millis? : Reading → Option Nat
  | .millis n => some n
  | .failure => none

/-- The reading that a step takes. A poisoned lock turns a caller away before
the clock. -/
def Arena.reading? (a : Arena) : Move → Option Reading
  | .read r => some r
  | .critical r => if a.cell.isPoisoned then none else some r
  | .load | .swap _ => none

/-- A lock that is not poisoned lets its caller read the clock. -/
theorem Arena.reading?_critical {a : Arena} {last : Flake} (h : a.cell = .locked last false)
    (r : Reading) : a.reading? (.critical r) = some r := by
  rw [reading?, h]
  rfl

/-- A poll that has ended. -/
structure Span where
  /-- Who polled. -/
  caller : Nat
  /-- The number of its first step, among the steps of all callers. -/
  began : Nat
  /-- The number of its last step. -/
  ended : Nat
  /-- The readings that it took, in order. -/
  readings : List Reading
  /-- How it ended. -/
  result : PollResult

/-- The poll returned to its caller. One that a panic unwinds does not. -/
def Span.returned (p : Span) : Bool :=
  match p.result with
  | .error (.panic _) => false
  | .ok _ | .error (.error _) => true

/-- A run and what is known of it. -/
structure Journal where
  /-- Where the run stands. -/
  arena : Arena
  /-- How many steps have been taken. -/
  clock : Nat := 0
  /-- When each caller began the poll that it is in. -/
  began : Nat → Nat := fun _ => 0
  /-- The readings that each caller took in the poll that it is in. -/
  taken : Nat → List Reading := fun _ => []
  /-- The readings of all callers. -/
  readings : List Reading := []
  /-- The polls that have ended, in the order of their ends. -/
  polls : List Span := []
  /-- The identifiers that replaced the last one, in order. -/
  replaced : List Flake := []

namespace Journal

/-- The journal of a cell before any caller has started. -/
def start (cell : Cell) : Journal := { arena := .ofCell cell }

/-- When the poll began that a caller's next step belongs to. An idle caller
begins one with it. -/
def opening (j : Journal) (caller : Nat) : Nat :=
  if j.arena.stage caller = .idle then j.clock else j.began caller

/-- The readings of the poll that a caller's step belongs to, the one that the
step takes included. -/
def takenWith (j : Journal) (caller : Nat) (m : Move) : List Reading :=
  (if j.arena.stage caller = .idle then [] else j.taken caller) ++ (j.arena.reading? m).toList

/-- The poll that a caller's step ends, with its result. -/
def ending (j : Journal) (caller : Nat) (m : Move) (result : PollResult) : Span :=
  ⟨caller, j.opening caller, j.clock, j.takenWith caller m, result⟩

/-- The journal after a step that led to an arena and may have ended a poll. -/
def note (j : Journal) (caller : Nat) (m : Move) (a : Arena) (result : Option PollResult) :
    Journal where
  arena := a
  clock := j.clock + 1
  began := fun c => if c = caller then j.opening caller else j.began c
  taken := fun c => if c = caller then j.takenWith caller m else j.taken c
  readings := j.readings ++ (j.arena.reading? m).toList
  polls := j.polls ++ (result.map (j.ending caller m)).toList
  replaced := j.replaced ++ if a.cell.last = j.arena.cell.last then [] else [a.cell.last]

/-- One step of a caller, noted. -/
def step (j : Journal) (caller : Nat) (m : Move) : Option Journal :=
  (j.arena.step caller m).map fun p => j.note caller m p.1 p.2

/-- A run, noted step by step. -/
def run (j : Journal) : List (Nat × Move) → Option Journal
  | [] => some j
  | (caller, m) :: moves => (j.step caller m).bind fun k => k.run moves

/-- The last issued identifier. -/
def last (j : Journal) : Flake := j.arena.cell.last

/-- The results of the polls, each with its caller. -/
def results (j : Journal) : List (Nat × PollResult) := j.polls.map fun p => (p.caller, p.result)

/-- The identifiers that the polls returned, in the order of their ends. -/
def issued (j : Journal) : List Flake := j.polls.filterMap fun p => issued? p.result

/-- The identifiers that one caller got. -/
def issuedTo (j : Journal) (caller : Nat) : List Flake :=
  (j.polls.filter fun p => p.caller = caller).filterMap fun p => issued? p.result

/-- The polls that returned. -/
def returned (j : Journal) : List Span := j.polls.filter Span.returned

/-- The readings that are no panic, in milliseconds. -/
def millis (j : Journal) : List Nat := j.readings.filterMap Reading.millis?

/-- The last identifier of a journal is that of its cell. -/
theorem last_of_cell {j : Journal} {cell : Cell} (h : j.arena.cell = cell) : j.last = cell.last :=
  congrArg Cell.last h

/-- The reading of a step is the last one of its poll so far. -/
theorem takenWith_getLast? {j : Journal} {caller : Nat} {m : Move} {r : Reading}
    (h : j.arena.reading? m = some r) : (j.takenWith caller m).getLast? = some r := by
  rw [takenWith, h]
  exact List.getLast?_concat ..

/-- The swap takes no reading, and its poll has begun before. -/
theorem takenWith_swap {j : Journal} {caller : Nat} {seen next : Flake} {spurious : Bool}
    (h : j.arena.stage caller = .proposing seen next) :
    j.takenWith caller (.swap spurious) = j.taken caller := by
  rw [takenWith, h]
  exact List.append_nil _

/-- A poll under way began when it began, whatever its caller does now. -/
theorem opening_of_stage {j : Journal} {caller : Nat} (h : j.arena.stage caller ≠ .idle) :
    j.opening caller = j.began caller :=
  if_neg h

/-- A journal is kept of every run, and says of the arena and of the results
what the run itself says. -/
theorem run_eq (moves : List (Nat × Move)) (j : Journal) :
    (j.run moves).map (fun k => (k.arena, k.results))
      = (j.arena.run moves).map fun p => (p.1, j.results ++ p.2) := by
  induction moves generalizing j with
  | nil => simp [run, Arena.run]
  | cons head moves ih =>
      obtain ⟨caller, m⟩ := head
      simp only [run, step, Arena.run]
      cases hstep : j.arena.step caller m with
      | none => rfl
      | some p =>
          obtain ⟨a, result⟩ := p
          -- The step adds its result to those before it, with its caller.
          have hresults : (j.note caller m a result).results
              = j.results ++ (result.map (caller, ·)).toList := by
            cases result <;> simp [results, note, ending]
          have hrest := ih (j.note caller m a result)
          rw [hresults, show (j.note caller m a result).arena = a from rfl] at hrest
          show ((j.note caller m a result).run moves).map _ = _
          rw [hrest]
          cases hrun : a.run moves with
          | none => simp [hrun]
          | some q => simp [hrun, List.append_assoc]

/-- Every run of an arena has its journal. -/
theorem exists_run {cell : Cell} {moves : List (Nat × Move)} {a : Arena}
    {results : List (Nat × PollResult)} (h : (Arena.ofCell cell).run moves = some (a, results)) :
    ∃ j, (start cell).run moves = some j ∧ j.arena = a ∧ j.results = results := by
  have heq := run_eq moves (start cell)
  rw [show (start cell).arena = Arena.ofCell cell from rfl, h] at heq
  obtain ⟨j, hj, hsame⟩ := Option.map_eq_some_iff.mp heq
  have hparts := Prod.mk.inj hsame
  exact ⟨j, hj, hparts.1, hparts.2⟩

/-- What was issued can be read off the results alone. -/
theorem issued_eq (j : Journal) : j.issued = j.results.filterMap fun p => issued? p.2 := by
  rw [results, List.filterMap_map]
  rfl

/-- A step of a journal is a step of its arena, noted. -/
theorem exists_takes {j k : Journal} {caller : Nat} {m : Move} (h : j.step caller m = some k) :
    ∃ a result, j.arena.Takes caller m a result ∧ k = j.note caller m a result := by
  obtain ⟨p, hstep, hk⟩ := Option.map_eq_some_iff.mp h
  exact ⟨p.1, p.2, Arena.takes_of_step hstep, hk.symm⟩

/-- What every step keeps, a run keeps. -/
theorem invariant {P : Journal → Prop}
    (hstep : ∀ j caller m a result, P j → j.arena.Takes caller m a result →
      P (j.note caller m a result))
    {moves : List (Nat × Move)} {j k : Journal} (hj : P j) (h : j.run moves = some k) : P k := by
  induction moves generalizing j with
  | nil =>
      cases h
      exact hj
  | cons head moves ih =>
      obtain ⟨caller, m⟩ := head
      obtain ⟨next, hnext, hrest⟩ := Option.bind_eq_some_iff.mp h
      obtain ⟨a, result, htakes, rfl⟩ := exists_takes hnext
      exact ih (hstep j caller m a result hj htakes) hrest

/-! ### What every journal has -/

/-- What holds of a journal from the start on. -/
structure Sound (j : Journal) : Prop where
  /-- A proposal follows the word that was seen, at the last reading of its
  poll. -/
  proposals : ∀ caller seen next, j.arena.stage caller = .proposing seen next →
    ∃ now, (j.taken caller).getLast? = some (.millis now) ∧ seen.Follows now next
  /-- A poll under way began before the next step. -/
  began_lt : ∀ caller, j.arena.stage caller ≠ .idle → j.began caller < j.clock
  /-- A poll that has ended began no later, and ended before the next step. -/
  spans : ∀ p ∈ j.polls, p.began ≤ p.ended ∧ p.ended < j.clock
  /-- The polls stand in the order of their ends. -/
  ordered : j.polls.Pairwise fun p q => p.ended < q.ended

/-- It holds before any step, as no poll has begun. -/
theorem sound_start (cell : Cell) : (start cell).Sound where
  proposals := by
    intro caller seen next h
    cases h
  began_lt := by
    intro caller h
    exact absurd rfl h
  spans := by
    intro p hp
    cases hp
  ordered := .nil

/-- A step begins its poll no later than now. -/
theorem Sound.opening_le {j : Journal} (h : j.Sound) (caller : Nat) :
    j.opening caller ≤ j.clock := by
  unfold opening
  split
  · exact Nat.le_refl _
  · rename_i hstage
    exact Nat.le_of_lt (h.began_lt caller hstage)

/-- Every step keeps a journal sound. -/
theorem Sound.note {j : Journal} {caller : Nat} {m : Move} {a : Arena}
    {result : Option PollResult} (h : j.Sound) (htakes : j.arena.Takes caller m a result) :
    (j.note caller m a result).Sound where
  proposals := by
    intro c seen next hstage
    by_cases hc : c = caller
    · subst hc
      obtain ⟨now, rfl, hloaded, hfollows⟩ := htakes.of_proposing hstage
      refine ⟨now, ?_, hfollows⟩
      show (if c = c then _ else j.taken c).getLast? = _
      rw [if_pos rfl]
      exact takenWith_getLast? rfl
    · obtain ⟨now, htaken, hfollows⟩ :=
        h.proposals c seen next ((htakes.stage_of_ne hc).symm.trans hstage)
      refine ⟨now, ?_, hfollows⟩
      show (if c = caller then _ else j.taken c).getLast? = _
      rw [if_neg hc]
      exact htaken
  began_lt := by
    intro c hstage
    show (if c = caller then j.opening caller else j.began c) < j.clock + 1
    by_cases hc : c = caller
    · rw [if_pos hc]
      exact Nat.lt_succ_of_le (h.opening_le caller)
    · rw [if_neg hc]
      have hbefore := h.began_lt c fun hidle => hstage ((htakes.stage_of_ne hc).trans hidle)
      exact Nat.lt_succ_of_lt hbefore
  spans := by
    intro p hp
    rcases List.mem_append.mp hp with hold | hnew
    · obtain ⟨hle, hlt⟩ := h.spans p hold
      exact ⟨hle, Nat.lt_succ_of_lt hlt⟩
    · cases result with
      | none => cases hnew
      | some r =>
          cases List.mem_singleton.mp hnew
          exact ⟨h.opening_le caller, Nat.lt_succ_self _⟩
  ordered := by
    refine List.pairwise_append.mpr ⟨h.ordered, ?_, ?_⟩
    · cases result with
      | none => exact .nil
      | some r => exact List.pairwise_singleton _ _
    · intro p hp q hq
      cases result with
      | none => cases hq
      | some r =>
          cases List.mem_singleton.mp hq
          exact (h.spans p hp).2

/-- The journal of a run is sound. -/
theorem sound_run {cell : Cell} {moves : List (Nat × Move)} {j : Journal}
    (h : (start cell).run moves = some j) : j.Sound :=
  invariant (fun _ _ _ _ _ hj htakes => hj.note htakes) (sound_start cell) h

/-- What every step of a sound journal keeps, a run from the start keeps. -/
theorem sound_invariant {P : Journal → Prop}
    (hstep : ∀ j caller m a result, j.Sound → P j → j.arena.Takes caller m a result →
      P (j.note caller m a result))
    {cell : Cell} {moves : List (Nat × Move)} {j : Journal} (hstart : P (start cell))
    (h : (start cell).run moves = some j) : P j := by
  have hboth : ∀ (k : Journal) caller m a result, k.Sound ∧ P k →
      k.arena.Takes caller m a result →
      (k.note caller m a result).Sound ∧ P (k.note caller m a result) := by
    intro k caller m a result ⟨hsound, hk⟩ htakes
    exact ⟨hsound.note htakes, hstep k caller m a result hsound hk htakes⟩
  exact (invariant hboth ⟨sound_start cell, hstart⟩ h).2

end Journal

end Snowflake
