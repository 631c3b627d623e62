import Snowflake.Contention
import Snowflake.Generate

/-!
# `Snowflake.Rehearsal`: generators over a clock that follows a script

A deployment is rehearsed by writing down what the clock will read. Several
generators share one script, and its entries are used up by whoever reads
next. An entry may also name rivals: each of them makes a full poll of the
contended generator, with a reading of its own, in the moment before the entry
is read. A lock-free poll that is overtaken in this way fails to swap and goes
on with the next entry. A poll here is a loop over entries and takes no steps,
but it is a run of the arena (`Rehearsal.polls_are_runs`).

Time is part of the rehearsal. The stopwatch moves by a fixed step at each
look and each time the processor is given up, and by its length at each sleep,
so that a budget runs out in the end.

A caller's own sleep is only told how long to sleep. `Pause` keeps with it what
the poll called for, so that a pause that the budget cut short shows as one.
-/

set_option autoImplicit false

namespace Snowflake

/-- One entry of a script. -/
structure Entry where
  /-- What the clock reads. -/
  reading : Reading
  /-- The readings of the rivals that poll just before. -/
  rivals : List Nat := []
deriving DecidableEq, Repr, Inhabited

/-- What a clock will read. -/
structure Script where
  /-- The entries that are still to come. -/
  upcoming : List Entry
  /-- What is read once they are used up: the last of them again. -/
  resting : Reading := .millis 0
  /-- How many have been used up. -/
  taken : Nat := 0
deriving Inhabited

/-- A script after its first entry was read. -/
def Script.advance (s : Script) : Script :=
  match s.upcoming with
  | [] => s
  | e :: es => ⟨es, e.reading, s.taken + 1⟩

/-- How a generator of a rehearsal is set up. -/
inductive Setup
  /-- A generator that starts at zero. -/
  | fresh (kind : Kind) (worker : Nat)
  /-- A generator that starts after the identifier with the given fields. -/
  | preloaded (kind : Kind) (worker timestamp sequence : Nat)
  /-- Another handle to a generator that was set up before. -/
  | clone (handle : Nat)
deriving DecidableEq, Repr

/-- A caller's view of a generator: its worker, and the place of its cell. -/
structure Handle where
  /-- The worker of the generator. -/
  worker : WorkerId
  /-- The place of its cell. -/
  cell : Nat
deriving DecidableEq, Repr

/-- A pause between two polls. -/
structure Pause where
  /-- What the status of the poll called for. -/
  wanted : Duration
  /-- What was granted. -/
  granted : Duration
deriving DecidableEq, Repr

/-- The budget cut the pause short. -/
def Pause.isCut (p : Pause) : Bool := decide (p.granted < p.wanted)

/-- The pause that the answer of a poll calls for: until the next millisecond,
or until the clock has caught up. -/
def wantedPause : PollResult → Duration
  | .ok (.pending yieldFor) => .ofMillis yieldFor
  | .ok (.behind drift) => .ofMillis drift
  | .ok (.ready _) | .error _ => .ofMillis 0

/-- Everything that a rehearsal changes. -/
structure Rehearsal where
  /-- The cells of all generators. -/
  cells : List Cell := []
  /-- The handles, in the order in which they were set up. -/
  handles : List Handle := []
  /-- What the clock will read. -/
  script : Script
  /-- What the stopwatch shows. -/
  now : Instant := ⟨0⟩
  /-- What the rivals' polls answered, in order. -/
  rivals : List PollResult := []
  /-- The pause that the last poll of a call called for. -/
  wanted : Duration := .ofMillis 0
  /-- The pauses that a sleep of the caller's own was asked for, the latest
  first. -/
  pauses : List Pause := []
  /-- What was written. -/
  output : String := ""
deriving Inhabited

namespace Rehearsal

/-! ### Setting up -/

/-- The generator of a specification. -/
def makeGenerator (kind : Kind) (worker : Nat) (start : Option (Nat × Nat)) :
    Except Fault Generator := do
  let worker ← (WorkerId.new worker).mapError .error
  match start with
  | none => return .new kind worker
  | some (timestamp, sequence) =>
    (Generator.preloaded kind worker timestamp sequence).mapError .panic

/-- The rehearsal with one more generator. -/
def addGenerator (w : Rehearsal) (g : Generator) : Rehearsal :=
  { w with
    cells := w.cells ++ [g.cell]
    handles := w.handles ++ [⟨g.worker, w.cells.length⟩] }

/-- The rehearsal with one more handle. A handle that is not there has no
clone. -/
def add (w : Rehearsal) : Setup → Except Fault Rehearsal
  | .fresh kind worker => return w.addGenerator (← makeGenerator kind worker none)
  | .preloaded kind worker timestamp sequence =>
    return w.addGenerator (← makeGenerator kind worker (some (timestamp, sequence)))
  | .clone i =>
    match w.handles[i]? with
    | some h => return { w with handles := w.handles ++ [h] }
    | none => return w

/-- The rehearsal of a script and of the generators set up in order. The first one
that cannot be set up ends the rehearsal. -/
def setUp (script : Script) (setups : List Setup) : Except Fault Rehearsal :=
  setups.foldlM add { script := script }

/-! ### Reading the clock -/

/-- A cell by its place. One that is not there answers as a poisoned one
does. -/
def cell (w : Rehearsal) (i : Nat) : Cell := w.cells.getD i (.locked default true)

/-- The rehearsal with a cell changed. -/
def setCell (w : Rehearsal) (i : Nat) (c : Cell) : Rehearsal := { w with cells := w.cells.set i c }

/-- The place of the generator that rivals poll: the first lock-free one. -/
def contended? (w : Rehearsal) : Option Nat := w.cells.findIdx? fun c => c.kind = .lockFree

/-- One rival's poll. -/
def rivalPoll (w : Rehearsal) (reading : Nat) : Rehearsal :=
  match w.contended? with
  | none => w
  | some i =>
    let (result, cell) := (w.cell i).poll (.millis reading)
    { w.setCell i cell with rivals := w.rivals ++ [result] }

/-- The rehearsal in the moment before an entry is read: the rivals have polled,
and the entry counts as used up. -/
def arrive (w : Rehearsal) (e : Entry) : Rehearsal :=
  let w := e.rivals.foldl rivalPoll w
  { w with script := w.script.advance }

/-- Reads the clock. -/
def read : StateM Rehearsal Reading := fun w =>
  match w.script.upcoming with
  | [] => (w.script.resting, w)
  | e :: _ => (e.reading, w.arrive e)

/-! ### Polling -/

/-- Compare-and-swap on a lock-free cell: the rehearsal after it, and the word
found in place of the one that was seen, when it was changed. -/
def swapCell (w : Rehearsal) (i : Nat) (seen next : Flake) : Rehearsal × Option Flake :=
  match w.cell i with
  | .lockFree word =>
    let (word, found) := Cell.swap seen next word
    (w.setCell i (.lockFree word), found)
  | .locked _ _ => (w, none)

/-- A lock-free poll from the word that it saw. While entries are left, a
rival may change the word between the reading and the swap; the poll then goes
on from the word it found. -/
def lockFreePoll (i : Nat) (seen : Flake) : List Entry → StateM Rehearsal PollResult
  | [] => fun w =>
    -- Nobody can come in between any more, so the swap finds what was seen.
    match judgeReading seen w.script.resting with
    | .ok (.issue next) => (.ok (.ready next), (w.swapCell i seen next).1)
    | .ok (.answer s) => (.ok s, w)
    | .error f => (.error f, w)
  | e :: es => fun w =>
    -- The rivals of the entry poll after the word was seen.
    let w := w.arrive e
    match judgeReading seen e.reading with
    | .ok (.issue next) =>
      match w.swapCell i seen next with
      | (w, none) => (.ok (.ready next), w)
      | (w, some found) => lockFreePoll i found es w
    | .ok (.answer s) => (.ok s, w)
    | .error f => (.error f, w)

/-- A poll behind the lock. -/
def lockedPoll (i : Nat) (last : Flake) : StateM Rehearsal PollResult := do
  let reading ← read
  let (result, cell) := Cell.critical last reading
  modify (·.setCell i cell)
  return result

/-- A poll through a handle. -/
def poll (h : Handle) : StateM Rehearsal PollResult := do
  let w ← get
  match w.cell h.cell with
  | .lockFree word => lockFreePoll h.cell word w.script.upcoming
  | .locked last false => lockedPoll h.cell last
  | .locked _ true => return .error (.error .lockPoisoned)

/-! ### Calls -/

/-- How far the stopwatch moves at a look. -/
def lookTime : Duration := ⟨40⟩

/-- How far the stopwatch moves when the processor is given up. -/
def yieldTime : Duration := ⟨1000⟩

/-- Lets time pass. -/
def pass (d : Duration) : StateM Rehearsal Unit := modify fun w => { w with now := w.now.after d }

/-- Looks at the stopwatch. -/
def look : StateM Rehearsal Instant := do
  let w ← get
  pass lookTime
  return w.now

/-- A poll of a call. The pause that it calls for is kept. -/
def pollForCall (h : Handle) : StateM Rehearsal PollResult := do
  let r ← poll h
  modify fun w => { w with wanted := wantedPause r }
  return r

/-- The effects of a call through a handle. -/
def effects (h : Handle) : Effects (StateM Rehearsal) where
  poll := pollForCall h
  instant := look
  yield := pass yieldTime
  sleep := pass

/-- A sleep that returns at once and notes what it was asked for. -/
def noted (d : Duration) : StateM Rehearsal Unit := do
  pass yieldTime
  modify fun w => { w with pauses := ⟨w.wanted, d⟩ :: w.pauses }

/-- Writes text. -/
def write (text : String) : StateM Rehearsal Unit :=
  modify fun w => { w with output := w.output ++ text }

end Rehearsal

end Snowflake
