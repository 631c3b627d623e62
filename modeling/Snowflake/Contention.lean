import Snowflake.Generator

/-!
# `Snowflake.Contention`: callers that overlap

Many callers poll one generator at the same time. Their polls interleave in
steps. With the lock-free kind a poll loads the word, reads the clock, and
tries to swap the word; when the swap fails, because a rival was faster or for
no reason at all, it goes on from the word it found, with a new reading. With
the locked kind the critical section is one step.

`Arena` is a generator's cell and where each caller stands. `Arena.step` is
one step of one caller; a run is any list of steps that the callers can take.
-/

set_option autoImplicit false

namespace Snowflake

/-- Where a caller stands in its poll. -/
inductive Stage
  /-- Outside a poll. -/
  | idle
  /-- With the word it saw, before it reads the clock. -/
  | loaded (seen : Flake)
  /-- With the word it saw and the one it wants to put in its place. -/
  | proposing (seen next : Flake)
deriving DecidableEq, Repr

/-- A step of a caller. -/
inductive Move
  /-- Loads the word. -/
  | load
  /-- Reads the clock and judges the reading. -/
  | read (r : Reading)
  /-- Tries to swap the word; a spurious failure comes without a rival. -/
  | swap (spurious : Bool)
  /-- Passes the critical section of the locked kind. -/
  | critical (r : Reading)
deriving DecidableEq, Repr

/-- A cell and its callers, each under a number. -/
structure Arena where
  /-- The shared state. -/
  cell : Cell
  /-- Where each caller stands. -/
  stage : Nat → Stage

namespace Arena

/-- The arena of a cell before any caller has started. -/
def ofCell (cell : Cell) : Arena := ⟨cell, fun _ => .idle⟩

/-- The arena with one caller moved. -/
def move (a : Arena) (caller : Nat) (s : Stage) : Arena :=
  { a with stage := fun c => if c = caller then s else a.stage c }

/-- One step of a caller: the arena after it, with the result when it ends the
caller's poll. There is none when the caller cannot take the step where it
stands. -/
def step (a : Arena) (caller : Nat) : Move → Option (Arena × Option PollResult)
  | .load =>
    match a.cell, a.stage caller with
    | .lockFree word, .idle => some (a.move caller (.loaded word), none)
    | _, _ => none
  | .read r =>
    match a.stage caller with
    | .loaded seen =>
      match judgeReading seen r with
      | .ok (.issue next) => some (a.move caller (.proposing seen next), none)
      | .ok (.answer s) => some (a.move caller .idle, some (.ok s))
      | .error f => some (a.move caller .idle, some (.error f))
    | _ => none
  | .swap spurious =>
    match a.cell, a.stage caller with
    | .lockFree word, .proposing seen next =>
      -- A failed swap ends no poll: the caller has a word again, and reads the
      -- clock anew.
      if spurious then some (a.move caller (.loaded word), none)
      else
        match Cell.swap seen next word with
        | (word, none) =>
          some ({ a.move caller .idle with cell := .lockFree word }, some (.ok (.ready next)))
        | (_, some found) => some (a.move caller (.loaded found), none)
    | _, _ => none
  | .critical r =>
    match a.cell, a.stage caller with
    | .locked last poisoned, .idle =>
      -- A poisoned lock answers here too, and leaves the reading unused.
      let (result, cell) := Cell.poll r (.locked last poisoned)
      some ({ a with cell }, some result)
    | _, _ => none

/-- A run: the steps of all callers in the order in which they happen. The
answer holds the results of the polls that end in it, each with its caller. -/
def run (a : Arena) : List (Nat × Move) → Option (Arena × List (Nat × PollResult))
  | [] => some (a, [])
  | (caller, move) :: moves => do
    let (a, result) ← a.step caller move
    let (a, results) ← run a moves
    return (a, (result.map ((caller, ·))).toList ++ results)

end Arena

end Snowflake
