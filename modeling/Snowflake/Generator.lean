import Snowflake.Poll

/-!
# `Snowflake.Generator`: the shared state behind the polls

A generator keeps the last issued identifier, and nothing else decides the
next one. Callers share it in one of two ways.

* *Lock-free*: the word is loaded, judged against a reading and replaced by
  compare-and-swap. A panic of the clock happens between the two and leaves
  the word alone.
* *Locked*: a poll holds a lock from the look at the last identifier to its
  replacement, the clock reading included. A panic in between poisons the lock
  for good: later polls fail at once, without reading the clock.

`Cell` is that state. `Generator.poll` is a poll that no other caller
overlaps; how overlapping callers take turns is the subject of
`Snowflake.Contention`.
-/

set_option autoImplicit false

namespace Snowflake

/-- How callers share a generator. -/
inductive Kind
  /-- By compare-and-swap on one word. -/
  | lockFree
  /-- Behind a lock. -/
  | locked
deriving DecidableEq, Repr

/-- The state that callers of one generator share. -/
inductive Cell
  /-- The word that is swapped. -/
  | lockFree (last : Flake)
  /-- The identifier behind the lock, and whether the lock is poisoned. -/
  | locked (last : Flake) (poisoned : Bool)
deriving DecidableEq, Repr

namespace Cell

/-- The cell of a kind that starts after the given identifier. -/
def ofLast : Kind → Flake → Cell
  | .lockFree, last => lockFree last
  | .locked, last => locked last false

/-- The last issued identifier. -/
def last : Cell → Flake
  | lockFree last => last
  | locked last _ => last

/-- How callers share the cell. -/
def kind : Cell → Kind
  | lockFree _ => .lockFree
  | locked _ _ => .locked

/-- A poll of the cell fails before it reads the clock. -/
def isPoisoned : Cell → Bool
  | lockFree _ => false
  | locked _ poisoned => poisoned

/-- The cell after an identifier was issued. -/
def replace (next : Flake) : Cell → Cell
  | lockFree _ => lockFree next
  | locked _ poisoned => locked next poisoned

/-- Compare-and-swap: the word is replaced when it still is what the caller
saw. The other half of the answer is the word found in its place when it is
not. -/
def swap (seen next : Flake) (word : Flake) : Flake × Option Flake :=
  if word = seen then (next, none) else (word, some word)

/-- The critical section of the locked kind: the reading is judged, an issued
identifier stored, and the lock given back, poisoned if anything in between
panicked. -/
def critical (last : Flake) (r : Reading) : PollResult × Cell :=
  match judgeReading last r with
  | .ok (.issue next) => (.ok (.ready next), locked next false)
  | .ok (.answer s) => (.ok s, locked last false)
  | .error (.error e) => (.error (.error e), locked last false)
  -- The panic unwinds through the section, and the lock stays poisoned.
  | .error (.panic p) => (.error (.panic p), locked last true)

/-- A poll of the lock-free kind without overlap: the swap finds the word it
expects. -/
def exchange (last : Flake) (r : Reading) : PollResult × Cell :=
  match judgeReading last r with
  | .ok (.issue next) => (.ok (.ready next), lockFree next)
  | .ok (.answer s) => (.ok s, lockFree last)
  | .error f => (.error f, lockFree last)

/-- A poll that no other caller overlaps. A poisoned lock answers without
looking at the reading. -/
def poll (r : Reading) : Cell → PollResult × Cell
  | lockFree last => exchange last r
  | locked last true => (.error (.error .lockPoisoned), locked last true)
  | locked last false => critical last r

/-- A cell starts after the identifier that it was made from. -/
@[simp] theorem last_ofLast (k : Kind) (f : Flake) : (ofLast k f).last = f := by cases k <;> rfl

/-- A cell is of the kind that it was made for. -/
@[simp] theorem kind_ofLast (k : Kind) (f : Flake) : (ofLast k f).kind = k := by cases k <;> rfl

/-- No lock is poisoned from the start. -/
@[simp] theorem isPoisoned_ofLast (k : Kind) (f : Flake) : (ofLast k f).isPoisoned = false := by
  cases k <;> rfl

end Cell

/-- A generator: the worker it issues for, and its state. -/
structure Generator where
  /-- The worker written into each identifier. -/
  worker : WorkerId
  /-- The state that callers share. -/
  cell : Cell
deriving DecidableEq, Repr

namespace Generator

/-- A generator that issues after the identifier with the given fields. -/
def preloaded (kind : Kind) (worker : WorkerId) (timestamp sequence : Nat) :
    Except Panic Generator :=
  match Flake.pack timestamp worker.val sequence with
  | .ok last => .ok ⟨worker, .ofLast kind last⟩
  | .error field => .error (.overflow field)

/-- A generator that starts at timestamp and sequence zero. -/
def new (kind : Kind) (worker : WorkerId) : Generator :=
  ⟨worker, .ofLast kind (Flake.ofParts 0 worker.val 0)⟩

/-- A poll that no other caller overlaps. -/
def poll (g : Generator) (r : Reading) : PollResult × Generator :=
  let (result, cell) := g.cell.poll r
  (result, { g with cell })

/-- Starting at zero never panics. -/
theorem preloaded_zero (kind : Kind) (worker : WorkerId) :
    preloaded kind worker 0 0 = .ok (new kind worker) := by
  have hpack := Flake.pack_eq_ok_iff.mpr
    ⟨Nat.zero_le Flake.maxTimestamp, worker.val_le, Nat.zero_le Flake.maxSequence, rfl⟩
  simp [preloaded, hpack, new]

end Generator

end Snowflake
