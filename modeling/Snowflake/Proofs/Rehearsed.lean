import Mathlib.Logic.Function.Iterate
import Snowflake.Proofs.Contention.Alone
import Snowflake.Rehearsal

/-!
# `Snowflake.Proofs.Rehearsed`: a rehearsed poll is a run

In a rehearsal the script says when rivals come in, and a poll is a loop over the
entries of the script (`Rehearsal.poll`). Nothing in it takes steps. `polls_are_runs`
shows that rehearsed polls are runs of the arena all the same, for the cell that is
polled and for every other cell. So what is known of every run is known of them.

Two callers are enough. The steps of a handle's poll are those of caller `own`. Rivals
poll one after the other, each from its load to its swap, so all their steps are those of
caller `rival`. When they come in between the load and the swap of caller `own`, its swap
finds another word, as a lost swap of the arena does.

`Arena.Goes` is a stretch of a run: the readings that are taken on the way, and the polls
that end. Stretches follow each other (`Goes.trans`), and with a journal at their
beginning they are a run (`Goes.run`). `Polled` is the account of one poll. It is kept
along the loop by one lemma for an entry that leads to another try (`Polled.lost`) and one
for the last entry (`Polled.last`).
-/

set_option autoImplicit false

namespace Snowflake

/-! ### Stretches of a run -/

namespace Arena

variable {a b c : Arena} {caller : Nat} {taken more : List Reading}
  {ended others : List (Nat × PollResult)}

/-- Steps lead from one arena to another. These readings are taken on the way, and these
polls end. -/
inductive Goes : Arena → List Reading → List (Nat × PollResult) → Arena → Prop
  | refl (a : Arena) : Goes a [] [] a
  | step {a b c : Arena} {caller : Nat} {m : Move} {result : Option PollResult}
      {taken : List Reading} {ended : List (Nat × PollResult)}
      (htakes : a.Takes caller m b result) (hrest : Goes b taken ended c) :
      Goes a ((a.reading? m).toList ++ taken) ((result.map (caller, ·)).toList ++ ended) c

/-- One step is a stretch. -/
theorem Takes.goes {m : Move} {result : Option PollResult} (h : a.Takes caller m b result) :
    a.Goes (a.reading? m).toList (result.map (caller, ·)).toList b := by
  have hstep := Goes.step h (.refl b)
  rw [List.append_nil, List.append_nil] at hstep
  exact hstep

/-- A stretch is followed by another one. -/
theorem Goes.trans (h : a.Goes taken ended b) (h' : b.Goes more others c) :
    a.Goes (taken ++ more) (ended ++ others) c := by
  induction h with
  | refl => exact h'
  | step htakes _ ih =>
      rw [List.append_assoc, List.append_assoc]
      exact .step htakes (ih h')

/-- A stretch is a part of a run, whatever came before. -/
theorem Goes.run (h : a.Goes taken ended b) {j : Journal} (hj : j.arena = a) :
    ∃ moves k, j.run moves = some k ∧ k.arena = b ∧ k.readings = j.readings ++ taken ∧
      k.results = j.results ++ ended := by
  induction h generalizing j with
  | refl => exact ⟨[], j, rfl, hj, (List.append_nil _).symm, (List.append_nil _).symm⟩
  | @step a b c caller m result taken ended htakes _ ih =>
      subst hj
      obtain ⟨moves, k, hrun, hend, hreadings, hresults⟩ := ih (j := j.note caller m b result) rfl
      have hnoted : (j.note caller m b result).results
          = j.results ++ (result.map (caller, ·)).toList := by
        cases result <;> simp [Journal.results, Journal.note, Journal.ending]
      refine ⟨(caller, m) :: moves, k, ?_, hend, ?_, ?_⟩
      · show ((j.arena.step caller m).map _).bind _ = some k
        rw [step_of_takes htakes]
        exact hrun
      · rw [hreadings, ← List.append_assoc]
        rfl
      · rw [hresults, hnoted, List.append_assoc]

/-- A caller that moves and moves back to where it was. -/
theorem move_back (a : Arena) (caller : Nat) (s : Stage) :
    (a.move caller s).move caller (a.stage caller) = a := by
  rw [move_move]
  obtain ⟨cell, stage⟩ := a
  simp only [move, mk.injEq, true_and]
  funext c
  by_cases hc : c = caller
  · rw [if_pos hc, hc]
  · rw [if_neg hc]

variable {word : Flake}

/-- A poll that has seen the word goes on without a rival. -/
theorem goes_exchange (hcell : a.cell = .lockFree word) (hstage : a.stage caller = .loaded word)
    (r : Reading) :
    a.Goes [r] [(caller, (Cell.exchange word r).1)]
      { a.move caller .idle with cell := (Cell.exchange word r).2 } := by
  -- What gives no identifier leaves the cell as it is.
  have hsame : { a.move caller .idle with cell := .lockFree word } = a.move caller .idle :=
    with_cell hcell
  unfold Cell.exchange
  cases hjudge : judgeReading word r with
  | error f =>
      show a.Goes [r] [(caller, .error f)] { a.move caller .idle with cell := .lockFree word }
      rw [hsame]
      exact (Takes.fail hstage hjudge).goes
  | ok verdict =>
      cases verdict with
      | answer s =>
          show a.Goes [r] [(caller, .ok s)] { a.move caller .idle with cell := .lockFree word }
          rw [hsame]
          exact (Takes.answer hstage hjudge).goes
      | issue next =>
          have hpropose : a.Goes [r] [] (a.move caller (.proposing word next)) :=
            (Takes.propose hstage hjudge).goes
          -- Nobody comes in between, so the swap finds the word that the poll
          -- has seen.
          have hwin := (Takes.win (a := a.move caller (.proposing word next)) hcell
            (stage_move_self ..)).goes
          rw [move_move] at hwin
          exact hpropose.trans hwin

/-- A poll of an idle caller without a rival between its steps, wherever the other callers
stand. -/
theorem goes_poll (hcell : a.cell = .lockFree word) (hidle : a.stage caller = .idle)
    (r : Reading) :
    a.Goes [r] [(caller, (Cell.exchange word r).1)]
      { a with cell := (Cell.exchange word r).2 } := by
  have hload : a.Goes [] [] (a.move caller (.loaded word)) := (Takes.load hcell hidle).goes
  have hrest := goes_exchange (a := a.move caller (.loaded word)) hcell (stage_move_self ..) r
  have hback : (a.move caller (.loaded word)).move caller .idle = a := by
    rw [← hidle]
    exact move_back a caller _
  rw [hback] at hrest
  exact hload.trans hrest

/-- A lock-free cell whose one caller has seen some word, which may be an old one. -/
def seeing (caller : Nat) (word seen : Flake) : Arena :=
  (ofCell (.lockFree word)).move caller (.loaded seen)

variable {seen next : Flake} {r : Reading}

/-- The reading of a poll fails it, whatever word is in the cell by then. -/
theorem seeing_fails {f : Fault} (hjudge : judgeReading seen r = .error f) :
    (seeing caller word seen).Goes [r] [(caller, .error f)] (ofCell (.lockFree word)) := by
  have hfails := (Takes.fail (a := seeing caller word seen) (stage_move_self ..) hjudge).goes
  rw [seeing, move_move, ofCell_move_idle] at hfails
  exact hfails

/-- The reading of a poll gives its answer, whatever word is in the cell by
then. -/
theorem seeing_answers {s : Status} (hjudge : judgeReading seen r = .ok (.answer s)) :
    (seeing caller word seen).Goes [r] [(caller, .ok s)] (ofCell (.lockFree word)) := by
  have hanswers := (Takes.answer (a := seeing caller word seen) (stage_move_self ..) hjudge).goes
  rw [seeing, move_move, ofCell_move_idle] at hanswers
  exact hanswers

/-- The swap wins when the word is still there. -/
theorem seeing_wins (hjudge : judgeReading seen r = .ok (.issue next)) :
    (seeing caller seen seen).Goes [r] [(caller, .ok (.ready next))]
      (ofCell (.lockFree next)) := by
  have hwins := goes_exchange (a := seeing caller seen seen) rfl (stage_move_self ..) r
  simp only [Cell.exchange, hjudge] at hwins
  rw [seeing, move_move, ofCell_move_idle] at hwins
  exact hwins

/-- The swap loses when there is another word, and the caller has seen that one
then. -/
theorem seeing_loses (hjudge : judgeReading seen r = .ok (.issue next)) (hword : word ≠ seen) :
    (seeing caller word seen).Goes [r] [] (seeing caller word word) := by
  have hproposes := (Takes.propose (a := seeing caller word seen) (stage_move_self ..) hjudge).goes
  have hback : ((seeing caller word seen).move caller (.proposing seen next)).move caller
      (.loaded word) = seeing caller word word := by
    rw [move_move, seeing, move_move]
    rfl
  have hloses : ((seeing caller word seen).move caller (.proposing seen next)).Takes caller
      (.swap false) (seeing caller word word) none := by
    rw [← hback]
    exact .lose rfl (stage_move_self ..) (.inr hword)
  exact hproposes.trans hloses.goes

end Arena

/-! ### Scripts -/

namespace Script

/-- The entry that is read next. A script that is used up has its last reading again,
without rivals. -/
def next (s : Script) : Entry := s.upcoming.headD ⟨s.resting, []⟩

/-- So many entries, in the order in which they are read. -/
def entries : Nat → Script → List Entry
  | 0, _ => []
  | n + 1, s => s.next :: entries n s.advance

end Script

namespace Rehearsal

variable {w v u : Rehearsal} {i : Nat}

/-! ### Cells -/

/-- A cell that is there. -/
theorem cell_of_lt (h : i < w.cells.length) : w.cell i = w.cells[i] := by
  show w.cells[i]?.getD _ = _
  rw [List.getElem?_eq_getElem h]
  rfl

/-- A cell that is not a poisoned one is there. -/
theorem lt_length_of_cell (h : w.cell i ≠ .locked default true) : i < w.cells.length := by
  by_contra hout
  refine h ?_
  show w.cells[i]?.getD _ = _
  rw [List.getElem?_eq_none (Nat.le_of_not_lt hout)]
  rfl

/-- A cell that was set is the one that is found there. -/
theorem cell_setCell_self (h : i < w.cells.length) (c : Cell) : (w.setCell i c).cell i = c := by
  show (w.cells.set i c)[i]?.getD _ = c
  rw [List.getElem?_set_self h]
  rfl

/-- The other cells stay when one is set. -/
theorem cell_setCell_of_ne {j : Nat} (h : j ≠ i) (c : Cell) :
    (w.setCell i c).cell j = w.cell j := by
  show (w.cells.set i c)[j]?.getD _ = w.cells[j]?.getD _
  rw [List.getElem?_set_ne h.symm]

/-- Which cell is contended depends on the kinds of the cells alone. -/
theorem contended?_eq (w : Rehearsal) :
    w.contended? = (w.cells.map Cell.kind).findIdx? fun k => k = .lockFree := by
  rw [contended?, List.findIdx?_map]
  rfl

/-- The contended cell stays the same while cells keep their kinds. -/
theorem contended?_setCell {c : Cell} (hkind : c.kind = (w.cell i).kind) :
    (w.setCell i c).contended? = w.contended? := by
  rw [contended?_eq, contended?_eq]
  show ((w.cells.set i c).map Cell.kind).findIdx? _ = _
  rw [List.map_set]
  congr 1
  -- Place by place: the cell that was set has its old kind, and the others are
  -- as they were.
  refine List.ext_getElem (List.length_set ..) fun n hn _ => ?_
  rw [List.getElem_set]
  split
  · rename_i hi
    subst hi
    rw [List.length_set, List.length_map] at hn
    rw [hkind, cell_of_lt hn, List.getElem_map]
  · rfl

/-- The contended cell is a lock-free one. -/
theorem cell_of_contended? (h : w.contended? = some i) : ∃ word, w.cell i = .lockFree word := by
  obtain ⟨hlt, hkind, -⟩ := List.findIdx?_eq_some_iff_getElem.mp h
  rw [cell_of_lt hlt]
  cases hi : w.cells[i] with
  | lockFree word => exact ⟨word, rfl⟩
  | locked last poisoned =>
      rw [hi] at hkind
      cases hkind

/-- A lock-free cell is there. -/
theorem lt_length_of_lockFree {word : Flake} (h : w.cell i = .lockFree word) :
    i < w.cells.length := by
  refine lt_length_of_cell ?_
  rw [h]
  nofun

/-! ### Rivals -/

/-- The number that the caller of a handle goes by in the arena. -/
def own : Nat := 0

/-- The number that the rivals go by, who poll one after the other. -/
def rival : Nat := 1

/-- What concerns the contended cell, and nothing for any other one. -/
def ifContended {α : Type} (w : Rehearsal) (i : Nat) (xs : List α) : List α :=
  if w.contended? = some i then xs else []

/-- Nothing stays nothing. -/
@[simp] theorem ifContended_nil {α : Type} (w : Rehearsal) (i : Nat) :
    w.ifContended i ([] : List α) = [] :=
  ite_self _

/-- Lists about the contended cell are put together place by place. -/
theorem ifContended_append {α : Type} (w : Rehearsal) (i : Nat) (xs ys : List α) :
    w.ifContended i (xs ++ ys) = w.ifContended i xs ++ w.ifContended i ys := by
  unfold ifContended
  split <;> rfl

/-- The contended cell is all that matters. -/
theorem ifContended_congr {α : Type} (h : v.contended? = w.contended?) (i : Nat) (xs : List α) :
    v.ifContended i xs = w.ifContended i xs := by
  rw [ifContended, ifContended, h]

/-- Rivals polled with these readings, and their polls answered this. For the contended
cell it is a stretch of a run, wherever the callers other than the rivals stand. -/
structure Overtaken (w : Rehearsal) (readings : List Reading) (answers : List PollResult)
    (v : Rehearsal) : Prop where
  contended : v.contended? = w.contended?
  rivals : v.rivals = w.rivals ++ answers
  others : ∀ i, w.contended? ≠ some i → v.cell i = w.cell i
  goes : ∀ i (a : Arena), w.contended? = some i → a.cell = w.cell i → a.stage rival = .idle →
    a.Goes readings (answers.map (rival, ·)) { a with cell := v.cell i }

/-- Nobody has come in. -/
theorem Overtaken.refl (w : Rehearsal) : Overtaken w [] [] w where
  contended := rfl
  rivals := (List.append_nil _).symm
  others := fun _ _ => rfl
  goes := by
    intro i a _ hcell _
    rw [Arena.with_cell hcell]
    exact .refl a

/-- Rivals come in after other rivals. -/
theorem Overtaken.trans {readings more : List Reading} {answers others : List PollResult}
    (h : Overtaken w readings answers v) (h' : Overtaken v more others u) :
    Overtaken w (readings ++ more) (answers ++ others) u where
  contended := h'.contended.trans h.contended
  rivals := by rw [h'.rivals, h.rivals, List.append_assoc]
  others := by
    intro i hi
    rw [h'.others i (h.contended ▸ hi), h.others i hi]
  goes := by
    intro i a hi hcell hidle
    rw [List.map_append]
    exact (h.goes i a hi hcell hidle).trans
      (h'.goes i { a with cell := v.cell i } (h.contended.trans hi) rfl hidle)

section

variable {readings : List Reading} {answers : List PollResult}

/-- A stretch for any cell. For most of them it is empty. -/
theorem Overtaken.goes_at (h : Overtaken w readings answers v) {a : Arena}
    (hcell : a.cell = w.cell i) (hidle : a.stage rival = .idle) :
    a.Goes (w.ifContended i readings) (w.ifContended i (answers.map (rival, ·)))
      { a with cell := v.cell i } := by
  unfold ifContended
  by_cases hi : w.contended? = some i
  · rw [if_pos hi, if_pos hi]
    exact h.goes i a hi hcell hidle
  · rw [if_neg hi, if_neg hi, h.others i hi, Arena.with_cell hcell]
    exact .refl a

/-- A lock-free cell has a word afterwards, perhaps another one. -/
theorem Overtaken.lockFree (h : Overtaken w readings answers v) {seen : Flake}
    (hcell : w.cell i = .lockFree seen) : ∃ word, v.cell i = .lockFree word := by
  by_cases hi : w.contended? = some i
  · exact cell_of_contended? (h.contended.trans hi)
  · exact ⟨seen, (h.others i hi).trans hcell⟩

/-- Rivals do not come to a cell behind a lock. -/
theorem Overtaken.locked (h : Overtaken w readings answers v) {last : Flake} {poisoned : Bool}
    (hcell : w.cell i = .locked last poisoned) : v.cell i = .locked last poisoned := by
  rw [← hcell]
  refine h.others i fun hi => ?_
  obtain ⟨word, hword⟩ := cell_of_contended? hi
  rw [hword] at hcell
  cases hcell

end

/-- One rival polls the contended cell, if there is one. -/
theorem rivalPoll_overtaken (w : Rehearsal) (n : Nat) :
    ∃ answers, Overtaken w [.millis n] answers (w.rivalPoll n) := by
  cases hcontended : w.contended? with
  | none =>
      rw [show w.rivalPoll n = w by simp only [rivalPoll, hcontended]]
      refine ⟨[], rfl, (List.append_nil _).symm, fun _ _ => rfl, ?_⟩
      intro i a hi
      rw [hcontended] at hi
      cases hi
  | some k =>
      obtain ⟨word, hword⟩ := cell_of_contended? hcontended
      let polled := Cell.exchange word (.millis n)
      -- An exchange leaves a word behind, so the contended cell is the same
      -- one afterwards.
      have hkind : polled.2.kind = (w.cell k).kind := by
        rw [hword]
        show (Cell.exchange word (.millis n)).2.kind = .lockFree
        unfold Cell.exchange
        split <;> rfl
      have heq : w.rivalPoll n = { w.setCell k polled.2 with rivals := w.rivals ++ [polled.1] } := by
        simp only [rivalPoll, hcontended, hword]
        rfl
      rw [heq]
      refine ⟨[polled.1], contended?_setCell hkind, rfl, ?_, ?_⟩
      · -- The rival's poll is for the contended cell, and the others are not
        -- touched.
        intro i hi
        rw [hcontended] at hi
        exact cell_setCell_of_ne (fun h => hi (congrArg some h.symm)) _
      · intro i a hi hcell hidle
        rw [hcontended] at hi
        cases hi
        show a.Goes _ _ { a with cell := (w.setCell k polled.2).cell k }
        rw [cell_setCell_self (lt_length_of_lockFree hword)]
        exact Arena.goes_poll (hcell.trans hword) hidle _

/-- All rivals of an entry poll one after another. -/
theorem rivalPolls_overtaken (w : Rehearsal) (rivals : List Nat) :
    ∃ answers, Overtaken w (rivals.map .millis) answers (rivals.foldl rivalPoll w) := by
  induction rivals generalizing w with
  | nil => exact ⟨[], .refl w⟩
  | cons n rivals ih =>
      obtain ⟨answers, hfirst⟩ := rivalPoll_overtaken w n
      obtain ⟨others, hrest⟩ := ih (w.rivalPoll n)
      exact ⟨answers ++ others, hfirst.trans hrest⟩

/-- A rival does not read the script. -/
theorem script_rivalPoll (w : Rehearsal) (n : Nat) : (w.rivalPoll n).script = w.script := by
  unfold rivalPoll
  split <;> rfl

/-- Rivals do not read the script. Only the entry itself is used up. -/
theorem script_arrive (w : Rehearsal) (e : Entry) : (w.arrive e).script = w.script.advance := by
  have hrivals : (e.rivals.foldl rivalPoll w).script = w.script := by
    induction e.rivals generalizing w with
    | nil => rfl
    | cons n rivals ih => exact (ih (w.rivalPoll n)).trans (script_rivalPoll w n)
  show (e.rivals.foldl rivalPoll w).script.advance = _
  rw [hrivals]

/-- The rivals of an entry have polled when it is read. -/
theorem arrive_overtaken (w : Rehearsal) (e : Entry) :
    ∃ answers, Overtaken w (e.rivals.map .millis) answers (w.arrive e) := by
  obtain ⟨answers, h⟩ := rivalPolls_overtaken w e.rivals
  exact ⟨answers, h.contended, h.rivals, h.others, h.goes⟩

/-- At rest there is nothing to use up, and nobody comes in. -/
theorem arrive_next_of_rest (h : w.script.upcoming = []) : w.arrive w.script.next = w := by
  have hrest : w.script.advance = w.script := by rw [Script.advance, h]
  rw [Script.next, h]
  show { w with script := w.script.advance } = w
  rw [hrest]

/-- A clock that is read uses up the next entry. -/
theorem read_eq (w : Rehearsal) : read w = (w.script.next.reading, w.arrive w.script.next) := by
  cases hupcoming : w.script.upcoming with
  | nil =>
      rw [arrive_next_of_rest hupcoming, read, Script.next, hupcoming]
      rfl
  | cons e es =>
      rw [read, Script.next, hupcoming]
      rfl

/-! ### Polls -/

/-- A poll of the cell, from where its caller stands. It used up so many entries, rivals
polled meanwhile, and it ended with the result. For its own cell and for every other one it
is a stretch of a run. -/
structure Polled (w : Rehearsal) (i : Nat) (a : Arena) (n : Nat) (answers : List PollResult)
    (r : PollResult) (v : Rehearsal) : Prop where
  script : v.script = Script.advance^[n] w.script
  contended : v.contended? = w.contended?
  rivals : v.rivals = w.rivals ++ answers
  goes : a.Goes
    ((w.script.entries n).flatMap fun e => w.ifContended i (e.rivals.map .millis) ++ [e.reading])
    (w.ifContended i (answers.map (rival, ·)) ++ [(own, r)]) (.ofCell (v.cell i))
  others : ∀ j, j ≠ i → (Arena.ofCell (w.cell j)).Goes
    ((w.script.entries n).flatMap fun e => w.ifContended j (e.rivals.map .millis))
    (w.ifContended j (answers.map (rival, ·))) (.ofCell (v.cell j))

/-- Nothing changes but one cell, and its kind stays. -/
structure Touches (w : Rehearsal) (i : Nat) (v : Rehearsal) : Prop where
  script : v.script = w.script
  contended : v.contended? = w.contended?
  rivals : v.rivals = w.rivals
  others : ∀ j, j ≠ i → v.cell j = w.cell j

/-- It may be that nothing changes at all. -/
theorem Touches.refl (w : Rehearsal) (i : Nat) : Touches w i w :=
  ⟨rfl, rfl, rfl, fun _ _ => rfl⟩

/-- To write a cell of the same kind changes that cell only. -/
theorem touches_setCell {c : Cell} (hkind : c.kind = (w.cell i).kind) :
    Touches w i (w.setCell i c) :=
  ⟨rfl, contended?_setCell hkind, rfl, fun _ hj => cell_setCell_of_ne hj c⟩

section

variable {a b : Arena} {answers : List PollResult} {r : PollResult}

/-- The poll ends with the next entry. Its rivals have come in before. -/
theorem Polled.last (hcell : a.cell = w.cell i) (hidle : a.stage rival = .idle)
    (hover : Overtaken w (w.script.next.rivals.map .millis) answers (w.arrive w.script.next))
    (hends : Arena.Goes { a with cell := (w.arrive w.script.next).cell i }
      [w.script.next.reading] [(own, r)] (.ofCell (v.cell i)))
    (htouches : Touches (w.arrive w.script.next) i v) : Polled w i a 1 answers r v where
  script := htouches.script.trans (script_arrive w _)
  contended := htouches.contended.trans hover.contended
  rivals := htouches.rivals.trans hover.rivals
  goes := by
    show a.Goes ((_ ++ _) ++ []) _ _
    rw [List.append_nil]
    exact (hover.goes_at hcell hidle).trans hends
  others := by
    intro j hj
    have hrivals := hover.goes_at (i := j) (a := .ofCell (w.cell j)) rfl rfl
    rw [htouches.others j hj]
    show (Arena.ofCell (w.cell j)).Goes (_ ++ []) _ _
    rw [List.append_nil]
    exact hrivals

/-- The poll loses its swap after the next entry, and goes on. -/
theorem Polled.lost {n : Nat} {more : List PollResult} (hcell : a.cell = w.cell i)
    (hidle : a.stage rival = .idle)
    (hover : Overtaken w (w.script.next.rivals.map .millis) answers (w.arrive w.script.next))
    (hloses : Arena.Goes { a with cell := (w.arrive w.script.next).cell i }
      [w.script.next.reading] [] b)
    (hrest : Polled (w.arrive w.script.next) i b n more r v) :
    Polled w i a (n + 1) (answers ++ more) r v where
  script := by
    rw [hrest.script, script_arrive]
    rfl
  contended := hrest.contended.trans hover.contended
  rivals := by rw [hrest.rivals, hover.rivals, List.append_assoc]
  goes := by
    have hgoes := hrest.goes
    rw [script_arrive] at hgoes
    simp only [ifContended_congr hover.contended] at hgoes
    have htry := (hover.goes_at hcell hidle).trans hloses
    rw [List.append_nil] at htry
    rw [List.map_append, ifContended_append, List.append_assoc]
    exact htry.trans hgoes
  others := by
    intro j hj
    have hgoes := hrest.others j hj
    rw [script_arrive] at hgoes
    simp only [ifContended_congr hover.contended] at hgoes
    rw [List.map_append, ifContended_append]
    exact (hover.goes_at (i := j) (a := .ofCell (w.cell j)) rfl rfl).trans hgoes

end

/-- A swap that finds what was seen puts the next word there. -/
theorem swapCell_of_seen {seen : Flake} (next : Flake) (hcell : w.cell i = .lockFree seen) :
    w.swapCell i seen next = (w.setCell i (.lockFree next), none) := by
  simp only [swapCell, hcell, Cell.swap, if_true]

/-- A swap that finds another word leaves it there. -/
theorem swapCell_of_ne {word seen next : Flake} (hcell : w.cell i = .lockFree word)
    (hword : word ≠ seen) : w.swapCell i seen next = (w, some word) := by
  have hsame : w.setCell i (.lockFree word) = w := by
    have hset : w.cells.set i (.lockFree word) = w.cells := by
      rw [← hcell, cell_of_lt (lt_length_of_lockFree hcell), List.set_getElem_self]
    rw [setCell, hset]
  simp only [swapCell, hcell, Cell.swap, if_neg hword, hsame]

/-- A try of the poll. After the last entry nobody comes in, so its swap cannot lose, and
the loop need not ask. -/
theorem lockFreePoll_eq {entries : List Entry} {seen : Flake}
    (hentries : w.script.upcoming = entries) (hcell : w.cell i = .lockFree seen) :
    lockFreePoll i seen entries w =
      match judgeReading seen w.script.next.reading with
      | .ok (.issue next) =>
        match (w.arrive w.script.next).swapCell i seen next with
        | (v, none) => (.ok (.ready next), v)
        | (v, some found) => lockFreePoll i found entries.tail v
      | .ok (.answer s) => (.ok s, w.arrive w.script.next)
      | .error f => (.error f, w.arrive w.script.next) := by
  cases entries with
  | nil =>
      have hreading : w.script.next.reading = w.script.resting := by
        rw [Script.next, hentries]
        rfl
      rw [arrive_next_of_rest hentries, hreading]
      unfold lockFreePoll
      cases judgeReading seen w.script.resting with
      | error f => rfl
      | ok verdict =>
          cases verdict with
          | answer s => rfl
          | issue next =>
              -- The swap comes right after the look at the word, and it wins.
              obtain ⟨swapped, hswapped⟩ : ∃ p, p = w.swapCell i seen next := ⟨_, rfl⟩
              simp only [← hswapped]
              rw [swapCell_of_seen next hcell] at hswapped
              subst hswapped
              rfl
  | cons e es =>
      rw [Script.next, hentries]
      rfl

/-- A poll is a stretch of a run if it is one after a lost swap. -/
theorem polled_of_lost {entries : List Entry} {seen : Flake}
    (hentries : w.script.upcoming = entries) (hcell : w.cell i = .lockFree seen)
    (hlost : ∀ word, word ≠ seen → (w.arrive w.script.next).cell i = .lockFree word →
      ∃ n answers, Polled (w.arrive w.script.next) i (.seeing own word word) n answers
        (lockFreePoll i word entries.tail (w.arrive w.script.next)).1
        (lockFreePoll i word entries.tail (w.arrive w.script.next)).2) :
    ∃ n answers, Polled w i (.seeing own seen seen) n answers
      (lockFreePoll i seen entries w).1 (lockFreePoll i seen entries w).2 := by
  obtain ⟨answers, hover⟩ := arrive_overtaken w w.script.next
  obtain ⟨word, hword⟩ := hover.lockFree hcell
  rw [lockFreePoll_eq hentries hcell]
  cases hjudge : judgeReading seen w.script.next.reading with
  | error f =>
      refine ⟨1, answers, .last hcell.symm rfl hover ?_ (.refl _ i)⟩
      rw [hword]
      exact Arena.seeing_fails hjudge
  | ok verdict =>
      cases verdict with
      | answer s =>
          refine ⟨1, answers, .last hcell.symm rfl hover ?_ (.refl _ i)⟩
          rw [hword]
          exact Arena.seeing_answers hjudge
      | issue next =>
          by_cases hseen : word = seen
          · subst hseen
            simp only [swapCell_of_seen _ hword]
            have hkind : (Cell.lockFree next).kind = ((w.arrive w.script.next).cell i).kind := by
              rw [hword]
              rfl
            refine ⟨1, answers, .last hcell.symm rfl hover ?_ (touches_setCell hkind)⟩
            rw [hword, cell_setCell_self (lt_length_of_lockFree hword)]
            exact Arena.seeing_wins hjudge
          · -- The next try begins with the word that was found.
            simp only [swapCell_of_ne hword hseen]
            obtain ⟨n, more, hrest⟩ := hlost word hseen hword
            refine ⟨n + 1, answers ++ more, .lost hcell.symm rfl hover ?_ hrest⟩
            rw [hword]
            exact Arena.seeing_loses hjudge hseen

/-- By induction on the entries that are left. Each try begins with the word in the cell. -/
theorem lockFreePoll_polled (entries : List Entry) {seen : Flake}
    (hentries : w.script.upcoming = entries) (hcell : w.cell i = .lockFree seen) :
    ∃ n answers, Polled w i (.seeing own seen seen) n answers
      (lockFreePoll i seen entries w).1 (lockFreePoll i seen entries w).2 := by
  induction entries generalizing w seen with
  | nil =>
      refine polled_of_lost hentries hcell ?_
      intro word hword hfound
      rw [arrive_next_of_rest hentries, hcell] at hfound
      exact absurd (Cell.lockFree.inj hfound).symm hword
  | cons e es ih =>
      refine polled_of_lost hentries hcell ?_
      intro word _ hfound
      -- The loop goes on over what is left of the script after this entry.
      have hupcoming : (w.arrive w.script.next).script.upcoming = es := by
        rw [script_arrive, Script.advance, hentries]
      exact ih hupcoming hfound

/-- Behind the lock the entry is read first. Its rivals poll another cell, if any. -/
theorem lockedPoll_polled {last : Flake} (hcell : w.cell i = .locked last false) :
    ∃ answers, Polled w i (.ofCell (w.cell i)) 1 answers
      (lockedPoll i last w).1 (lockedPoll i last w).2 := by
  obtain ⟨answers, hover⟩ := arrive_overtaken w w.script.next
  have hlocked := hover.locked hcell
  have hsection : lockedPoll i last w = ((Cell.critical last w.script.next.reading).1,
      (w.arrive w.script.next).setCell i (Cell.critical last w.script.next.reading).2) := by
    show ((Cell.critical last (read w).1).1,
      (read w).2.setCell i (Cell.critical last (read w).1).2) = _
    rw [read_eq]
  have hkind : (Cell.critical last w.script.next.reading).2.kind
      = ((w.arrive w.script.next).cell i).kind := by
    rw [hlocked]
    unfold Cell.critical
    split <;> rfl
  have hthere : i < (w.arrive w.script.next).cells.length := by
    refine lt_length_of_cell ?_
    rw [hlocked]
    nofun
  rw [hsection]
  refine ⟨answers, .last rfl rfl hover ?_ (touches_setCell hkind)⟩
  rw [hlocked, cell_setCell_self hthere]
  exact (Arena.Takes.pass (a := .ofCell (.locked last false)) rfl rfl).goes

/-- What a poll does depends on the cell of its handle. -/
theorem poll_eq (h : Handle) (w : Rehearsal) :
    poll h w = (match w.cell h.cell with
      | .lockFree word => lockFreePoll h.cell word w.script.upcoming
      | .locked last false => lockedPoll h.cell last
      | .locked _ true => pure (.error (.error .lockPoisoned)) : StateM Rehearsal PollResult) w :=
  rfl

/-- A poll through a handle is a stretch of a run, from a moment when nobody is in a poll
to another one. -/
theorem poll_polled (h : Handle) (w : Rehearsal) :
    ∃ n answers, Polled w h.cell (.ofCell (w.cell h.cell)) n answers
      (poll h w).1 (poll h w).2 := by
  rw [poll_eq]
  cases hcell : w.cell h.cell with
  | lockFree word =>
      obtain ⟨n, answers, hpolled⟩ := lockFreePoll_polled _ rfl hcell
      -- The poll begins with a look at the word.
      have hload : (Arena.ofCell (.lockFree word)).Goes [] [] (.seeing own word word) :=
        (Arena.Takes.load rfl rfl).goes
      exact ⟨n, answers, hpolled.script, hpolled.contended, hpolled.rivals,
        hload.trans hpolled.goes, hpolled.others⟩
  | locked last poisoned =>
      cases poisoned with
      | false =>
          obtain ⟨answers, hpolled⟩ := lockedPoll_polled hcell
          rw [hcell] at hpolled
          exact ⟨1, answers, hpolled⟩
      | true =>
          -- A poisoned lock uses up no entry, so no rival comes in either.
          refine ⟨0, [], rfl, rfl, (List.append_nil _).symm, ?_, ?_⟩
          · show (Arena.ofCell _).Goes [] (w.ifContended h.cell [] ++ _) (.ofCell (w.cell h.cell))
            rw [ifContended_nil, hcell]
            exact (Arena.Takes.refused (a := .ofCell (.locked last true)) (r := .failure)
              rfl rfl).goes
          · intro j _
            show (Arena.ofCell _).Goes [] (w.ifContended j []) _
            rw [ifContended_nil]
            exact .refl _

/-- The same account for any cell, that of the handle or another one. -/
theorem Polled.goes_at {n : Nat} {answers : List PollResult} {r : PollResult}
    (h : Polled w i (.ofCell (w.cell i)) n answers r v) (j : Nat) :
    (Arena.ofCell (w.cell j)).Goes
      ((w.script.entries n).flatMap fun e => w.ifContended j (e.rivals.map .millis)
        ++ if j = i then [e.reading] else [])
      (w.ifContended j (answers.map (rival, ·)) ++ if j = i then [(own, r)] else [])
      (.ofCell (v.cell j)) := by
  by_cases hj : j = i
  · subst hj
    simp only [if_true]
    exact h.goes
  · simp only [if_neg hj, List.append_nil]
    exact h.others j hj

/-- Take any moment of a rehearsal, with any cells and any script, and poll through any
handle. The poll uses up some entries of the script, and the rivals that they name answer
something.

For each cell there is a run of the arena that leads from the cell before to the cell
after, with nobody in a poll at either end. In it the rivals of these entries poll the
contended cell with their readings, and give these answers. The handle's cell is polled by
its own caller too, who reads the entries, each after its rivals, and whose poll ends last
with the result of the rehearsed one. -/
theorem poll_is_run (h : Handle) (w : Rehearsal) :
    let (r, v) := poll h w
    ∃ n answers, v.script = Script.advance^[n] w.script ∧ v.rivals = w.rivals ++ answers ∧
      ∀ i, ∃ moves j, (Journal.start (w.cell i)).run moves = some j ∧
        j.arena = .ofCell (v.cell i) ∧
        j.readings = ((w.script.entries n).flatMap fun e =>
          w.ifContended i (e.rivals.map .millis) ++ if i = h.cell then [e.reading] else []) ∧
        j.results = w.ifContended i (answers.map (rival, ·))
          ++ if i = h.cell then [(own, r)] else [] := by
  obtain ⟨n, answers, hpolled⟩ := poll_polled h w
  refine ⟨n, answers, hpolled.script, hpolled.rivals, fun i => ?_⟩
  obtain ⟨moves, j, hrun, hend, hreadings, hresults⟩ :=
    (hpolled.goes_at i).run (j := Journal.start (w.cell i)) rfl
  exact ⟨moves, j, hrun, hend, hreadings, hresults⟩

/-! ### Polls one after another -/

/-- How the polls of one caller ended, in order. -/
def endedBy (caller : Nat) (ended : List (Nat × PollResult)) : List PollResult :=
  (ended.filter fun p => p.1 = caller).map Prod.snd

/-- The polls of two stretches follow each other. -/
theorem endedBy_append (caller : Nat) (ended others : List (Nat × PollResult)) :
    endedBy caller (ended ++ others) = endedBy caller ended ++ endedBy caller others := by
  rw [endedBy, List.filter_append, List.map_append]
  rfl

/-- The results of the polls through handles to one cell, in order. -/
def resultsAt (i : Nat) (polls : List (Handle × PollResult)) : List PollResult :=
  (polls.filter fun p => p.1.cell = i).map Prod.snd

/-- The results of polls, and of polls after them. -/
theorem resultsAt_append (i : Nat) (polls others : List (Handle × PollResult)) :
    resultsAt i (polls ++ others) = resultsAt i polls ++ resultsAt i others := by
  rw [resultsAt, List.filter_append, List.map_append]
  rfl

/-- The polls that end in the stretch of one poll: the rivals' ones, and its own. -/
theorem endedBy_polled (w : Rehearsal) (h : Handle) (i : Nat) (answers : List PollResult)
    (r : PollResult) :
    let ended := w.ifContended i (answers.map (rival, ·)) ++ if i = h.cell then [(own, r)] else []
    endedBy own ended = resultsAt i [(h, r)] ∧ endedBy rival ended = w.ifContended i answers := by
  intro ended
  -- The two callers have different numbers, so each sees its own polls only.
  have hown : endedBy own (answers.map (rival, ·)) = [] := by
    simp [endedBy, own, rival]
  have hrivals : endedBy rival (answers.map (rival, ·)) = answers := by
    simp [endedBy, List.filter_map, Function.comp_def]
  have hat : ∀ caller, endedBy caller (w.ifContended i (answers.map (rival, ·)))
      = w.ifContended i (endedBy caller (answers.map (rival, ·))) := by
    intro caller
    unfold ifContended
    split <;> rfl
  constructor
  · rw [endedBy_append, hat, hown, ifContended_nil, List.nil_append]
    by_cases hi : i = h.cell
    · subst hi
      rw [if_pos rfl]
      simp [endedBy, resultsAt]
    · rw [if_neg hi]
      simp [endedBy, resultsAt, Ne.symm hi]
  · rw [endedBy_append, hat, hrivals]
    by_cases hi : i = h.cell
    · rw [if_pos hi]
      exact List.append_nil _
    · rw [if_neg hi]
      exact List.append_nil _

/-- By induction on the polls: their stretches follow each other. -/
theorem polls_go (handles : List Handle) (w : Rehearsal) :
    let (results, v) := handles.mapM poll w
    ∃ answers, v.contended? = w.contended? ∧ v.rivals = w.rivals ++ answers ∧
      ∀ i, ∃ taken ended, (Arena.ofCell (w.cell i)).Goes taken ended (.ofCell (v.cell i)) ∧
        endedBy own ended = resultsAt i (handles.zip results) ∧
        endedBy rival ended = w.ifContended i answers := by
  induction handles generalizing w with
  | nil =>
      refine ⟨[], rfl, (List.append_nil _).symm, fun i => ⟨[], [], .refl _, rfl, ?_⟩⟩
      rw [ifContended_nil]
      rfl
  | cons h handles ih =>
      obtain ⟨n, answers, hpolled⟩ := poll_polled h w
      obtain ⟨more, hcontended, hrivals, hgoes⟩ := ih (poll h w).2
      rw [List.mapM_cons]
      refine ⟨answers ++ more, hcontended.trans hpolled.contended, ?_, fun i => ?_⟩
      · rw [← List.append_assoc, ← hpolled.rivals]
        exact hrivals
      · obtain ⟨taken, ended, hrest, hown, hothers⟩ := hgoes i
        obtain ⟨hfirst, hcame⟩ := endedBy_polled w h i answers (poll h w).1
        refine ⟨_, _, (hpolled.goes_at i).trans hrest, ?_, ?_⟩
        · rw [endedBy_append, hfirst, hown, ← resultsAt_append]
          rfl
        · rw [endedBy_append, hcame, hothers, ifContended_congr hpolled.contended,
            ifContended_append]

/-- Take any moment of a rehearsal, with any cells and any script, and poll through any
handles, one poll after another. For each cell there is a run of the arena that leads from
the cell before to the cell after, with nobody in a poll at either end. The polls of
caller `own` in it end as the polls through handles to this cell did, in the same order,
and those of caller `rival` as the rivals' polls did, all of which are on the contended
cell.

So whatever holds of every run holds of rehearsals. For example, when the last identifier
of a cell is a valid one, the identifiers issued through handles to it are all later than
that, and each is later than the ones before. -/
theorem polls_are_runs (handles : List Handle) (w : Rehearsal) :
    let (results, v) := handles.mapM poll w
    ∃ answers, v.rivals = w.rivals ++ answers ∧ ∀ i,
      (∃ moves j, (Journal.start (w.cell i)).run moves = some j ∧ j.arena = .ofCell (v.cell i) ∧
        endedBy own j.results = resultsAt i (handles.zip results) ∧
        endedBy rival j.results = w.ifContended i answers) ∧
      ((w.cell i).last.isValid = true →
        ((w.cell i).last :: (resultsAt i (handles.zip results)).filterMap issued?).Pairwise
          Flake.Later) := by
  obtain ⟨answers, -, hrivals, hgoes⟩ := polls_go handles w
  refine ⟨answers, hrivals, fun i => ?_⟩
  obtain ⟨taken, ended, hstretch, hown, hothers⟩ := hgoes i
  obtain ⟨moves, j, hrun, hend, -, hresults⟩ :=
    hstretch.run (j := Journal.start (w.cell i)) rfl
  rw [show (Journal.start (w.cell i)).results ++ ended = ended from rfl] at hresults
  refine ⟨⟨moves, j, hrun, hend, hresults ▸ hown, hresults ▸ hothers⟩, fun hvalid => ?_⟩
  have hascending := (Journal.ascending_run hvalid hrun).pairwise
  refine hascending.sublist (.cons_cons _ ?_)
  -- Those of the handles are among those of all callers.
  rw [j.issued_eq, hresults, ← hown, endedBy, List.filterMap_map]
  exact List.filter_sublist.filterMap _

end Rehearsal

end Snowflake
