import Snowflake.Machine
import Snowflake.Proofs.Call
import Snowflake.Proofs.Contention.Ascent

/-!
# `Snowflake.Proofs.Contention.Alone`: a poll that nobody overlaps

A generator that has one caller is polled by `Generator.pollWith`, without the
steps in which overlapping callers interleave. A swap of the lock-free kind may
still fail, for no reason, and `Generator.pollUnlucky` is the poll that reads
the clock again each time. `Generator.pollUnlucky_finishes` shows that these
polls are runs of the steps in which only one caller moves. So what is known of
every run is known of them.

`Journal.last_eq` is such a fact. After every run the last identifier is the
one that was issued last, or the first word when none was.
-/

set_option autoImplicit false

namespace Snowflake

namespace Arena

variable {a b : Arena} {caller : Nat} {cell : Cell} {result : PollResult}

/-- By steps of the caller alone its poll ends with the result, and the arena is
the one of the cell, with nobody in a poll. -/
def Finishes (a : Arena) (caller : Nat) (cell : Cell) (result : PollResult) : Prop :=
  ∃ moves : List Move, a.run (moves.map (caller, ·)) = some (ofCell cell, [(caller, result)])

/-- A step that ends the poll and leaves nobody in one is such a run. -/
theorem Takes.finishes {m : Move} (h : a.Takes caller m (ofCell cell) (some result)) :
    a.Finishes caller cell result := by
  refine ⟨[m], ?_⟩
  simp only [List.map_cons, List.map_nil, run, step_of_takes h]
  rfl

/-- A step that ends nothing may come before. -/
theorem Finishes.cons {m : Move} (h : b.Finishes caller cell result)
    (htakes : a.Takes caller m b none) : a.Finishes caller cell result := by
  obtain ⟨moves, hmoves⟩ := h
  refine ⟨m :: moves, ?_⟩
  simp only [List.map_cons, run, step_of_takes htakes]
  show (b.run (moves.map (caller, ·))).bind _ = _
  rw [hmoves]
  rfl

/-- Of two moves of one caller only the second counts. -/
theorem move_move (a : Arena) (caller : Nat) (s t : Stage) :
    (a.move caller s).move caller t = a.move caller t := by
  simp only [move, mk.injEq, true_and]
  funext c
  by_cases hc : c = caller
  · rw [if_pos hc, if_pos hc]
  · rw [if_neg hc, if_neg hc, if_neg hc]

/-- Before any caller has started, all are idle already. -/
theorem ofCell_move_idle (cell : Cell) (caller : Nat) :
    (ofCell cell).move caller .idle = ofCell cell := by
  simp only [move, ofCell, mk.injEq, true_and]
  funext c
  exact ite_self _

/-- The arena of a lock-free cell whose one caller has seen the word. -/
def alone (caller : Nat) (word : Flake) : Arena :=
  (ofCell (.lockFree word)).move caller (.loaded word)

variable {word next : Flake} {r : Reading}

/-- The one caller has seen the word. -/
theorem alone_stage (caller : Nat) (word : Flake) :
    (alone caller word).stage caller = .loaded word :=
  stage_move_self ..

/-- When it is idle again, nobody is in a poll. -/
theorem alone_idle (caller : Nat) (word : Flake) :
    (alone caller word).move caller .idle = ofCell (.lockFree word) := by
  rw [alone, move_move, ofCell_move_idle]

/-- A poll that has seen the word, and whose swap finds it. -/
theorem alone_exchange (caller : Nat) (word : Flake) (r : Reading) :
    (alone caller word).Finishes caller (Cell.exchange word r).2 (Cell.exchange word r).1 := by
  unfold Cell.exchange
  cases hjudge : judgeReading word r with
  | error f =>
      have hfail := Takes.fail (alone_stage caller word) hjudge
      rw [alone_idle] at hfail
      exact hfail.finishes
  | ok verdict =>
      cases verdict with
      | answer s =>
          have hanswer := Takes.answer (alone_stage caller word) hjudge
          rw [alone_idle] at hanswer
          exact hanswer.finishes
      | issue next =>
          -- Nobody else moves between the reading and the swap, so the swap
          -- finds the word.
          have hwin := Takes.win (a := (alone caller word).move caller (.proposing word next))
            rfl (stage_move_self ..)
          rw [move_move, alone_idle] at hwin
          exact hwin.finishes.cons (.propose (alone_stage caller word) hjudge)

/-- A swap that fails for no reason takes the caller back to where it was. -/
theorem Finishes.unlucky (h : (alone caller word).Finishes caller cell result)
    (hjudge : judgeReading word r = .ok (.issue next)) :
    (alone caller word).Finishes caller cell result := by
  have hlose := Takes.lose (a := (alone caller word).move caller (.proposing word next))
    rfl (stage_move_self ..) (.inl rfl)
  rw [move_move, show (alone caller word).move caller (.loaded word) = alone caller word from
    move_move ..] at hlose
  exact (h.cons hlose).cons (.propose (alone_stage caller word) hjudge)

/-- A poll begins when its caller loads the word. -/
theorem Finishes.load (h : (alone caller word).Finishes caller cell result) :
    (ofCell (.lockFree word)).Finishes caller cell result :=
  h.cons (.load rfl rfl)

end Arena

/-- After a run the last identifier is the one that was issued last, or the
first word. -/
theorem Journal.last_eq {cell : Cell} {moves : List (Nat × Move)} {j : Journal}
    (h : (Journal.start cell).run moves = some j) : j.last = j.issued.getLast?.getD cell.last := by
  refine Journal.sound_invariant
    (P := fun k => k.last = k.issued.getLast?.getD cell.last) ?_ rfl h
  intro k caller m a result hsound hlast htakes
  rw [Journal.issued_note]
  rcases Journal.note_effect hsound htakes with ⟨hsame, hnone⟩ | ⟨now, -, -, rfl⟩
  · rw [hnone, Option.toList_none, List.append_nil, ← hlast]
    exact hsame
  · show a.cell.last = (k.issued ++ [a.cell.last]).getLast?.getD cell.last
    rw [List.getLast?_concat, Option.getD_some]

/-- A poll that nobody overlaps leaves the identifier that it returns, or leaves
all as it was. -/
theorem Arena.Finishes.last {cell next : Cell} {caller : Nat} {result : PollResult}
    (h : (Arena.ofCell cell).Finishes caller next result) :
    next.last = (issued? result).getD cell.last := by
  obtain ⟨moves, hrun⟩ := h
  -- The run has a journal, whose last identifier is known.
  obtain ⟨j, hj, harena, hresults⟩ := Journal.exists_run hrun
  have hlast := Journal.last_eq hj
  rw [j.issued_eq, hresults] at hlast
  have hcell : j.last = next.last := congrArg (Cell.last ∘ Arena.cell) harena
  rw [← hcell, hlast]
  cases hissued : issued? result <;> simp [hissued]

namespace Generator

variable {ω : Type}

/-- A poll that nobody overlaps. The swap of the lock-free kind fails so many
times for no reason, unless a reading ends the poll before. -/
def pollUnlucky (read : StateM ω Reading) : Nat → StateT Generator (StateM ω) PollResult
  | 0 => pollWith read
  | failures + 1 => fun g =>
    match g.cell with
    | .locked _ _ => pollWith read g
    | .lockFree last => do
      let r ← read
      match judgeReading last r with
      | .ok (.issue _) => pollUnlucky read failures g
      | .ok (.answer _) | .error _ => return g.poll r

/-- A poll that nobody overlaps is a run of the steps of one caller. -/
theorem pollWith_finishes (caller : Nat) (read : StateM ω Reading) :
    Ends (pollWith read) fun g r h =>
      h.worker = g.worker ∧ (Arena.ofCell g.cell).Finishes caller h.cell r := by
  intro g w
  obtain ⟨worker, cell⟩ := g
  cases cell with
  | lockFree last => exact ⟨rfl, (Arena.alone_exchange caller last _).load⟩
  | locked last poisoned =>
      cases poisoned with
      | true => exact ⟨rfl, (Arena.Takes.refused (r := .failure) rfl rfl).finishes⟩
      | false => exact ⟨rfl, (Arena.Takes.pass rfl rfl).finishes⟩

/-- The polls with failing swaps, from where the caller has seen the word: each
failure is two steps, and leads back there. -/
theorem pollUnlucky_alone (caller : Nat) (read : StateM ω Reading) (failures : Nat)
    (worker : WorkerId) (last : Flake) (w : ω) :
    let p := (pollUnlucky read failures ⟨worker, .lockFree last⟩ w).1
    p.2.worker = worker ∧ (Arena.alone caller last).Finishes caller p.2.cell p.1 := by
  induction failures generalizing w with
  | zero => exact ⟨rfl, Arena.alone_exchange caller last _⟩
  | succ failures ih =>
      -- One more failure means one more reading first.
      rcases hread : read w with ⟨r, after⟩
      have hpoll : worker = worker ∧ (Arena.alone caller last).Finishes caller
          (Cell.exchange last r).2 (Cell.exchange last r).1 :=
        ⟨rfl, Arena.alone_exchange caller last r⟩
      simp only [pollUnlucky, bind, StateT.bind, hread]
      cases hjudge : judgeReading last r with
      | error f => exact hpoll
      | ok verdict =>
          cases verdict with
          | answer s => exact hpoll
          | issue next => exact ⟨(ih after).1, (ih after).2.unlucky hjudge⟩

/-- A poll that nobody overlaps is a run of the steps of one caller, also when
its swaps fail for no reason. -/
theorem pollUnlucky_finishes (caller : Nat) (read : StateM ω Reading) (failures : Nat) :
    Ends (pollUnlucky read failures) fun g r h =>
      h.worker = g.worker ∧ (Arena.ofCell g.cell).Finishes caller h.cell r := by
  intro g w
  obtain ⟨worker, cell⟩ := g
  cases cell with
  | lockFree last =>
      obtain ⟨hworker, hfinishes⟩ := pollUnlucky_alone caller read failures worker last w
      exact ⟨hworker, hfinishes.load⟩
  | locked last poisoned =>
      -- The locked kind has no swaps that could fail.
      cases failures <;> exact pollWith_finishes caller read ⟨worker, .locked last poisoned⟩ w

end Generator

end Snowflake
