import Snowflake.Contention
import Snowflake.Proofs.Succession

/-!
# `Snowflake.Proofs.Contention.Step`: what one step can do

`Arena.Takes a caller move b result` lists the steps of a caller: with what
each one starts, which arena it leaves and which result it gives. A step of the
lock-free kind loads the word, reads the clock and proposes, answers or fails,
or loses or wins the swap. The critical section of the locked kind is refused
by a poisoned lock, or passed. `Arena.takes_of_step` shows that the list is
complete, guards included, so that later proofs need not open `Arena.step`.

`Cell.critical_cases` says what passing the critical section does: it issues an
identifier that follows the last one, or leaves the last one alone.
-/

set_option autoImplicit false

namespace Snowflake

/-- The identifier that a poll issued. -/
def issued? : PollResult → Option Flake
  | .ok (.ready id) => some id
  | _ => none

/-- A poll issued an identifier exactly if it returned it as ready. -/
theorem issued?_eq_some_iff {r : PollResult} {id : Flake} :
    issued? r = some id ↔ r = .ok (.ready id) := by
  cases r with
  | error fault => simp [issued?]
  | ok s => cases s <;> simp [issued?]

/-- An answer of the rule issues nothing. -/
theorem issued?_answer {last : Flake} {r : Reading} {s : Status}
    (h : judgeReading last r = .ok (.answer s)) : issued? (.ok s) = none := by
  cases r with
  | failure => cases h
  | millis now =>
      cases s with
      | ready id => exact absurd h judge_answer_ne_ready
      | pending yieldFor => rfl
      | behind drift => rfl

namespace Cell

/-- Passing the critical section has two outcomes. It issues an identifier that
follows the last one at the reading and stores it, or it issues nothing and
leaves the last one alone. -/
theorem critical_cases (last : Flake) (r : Reading) :
    (∃ now next, r = .millis now ∧ last.Follows now next ∧
      critical last r = (.ok (.ready next), .locked next false)) ∨
    (∃ result poisoned, critical last r = (result, .locked last poisoned) ∧
      issued? result = none) := by
  -- A fault leaves the last identifier, and so does an answer; only an issue
  -- replaces it.
  unfold critical
  cases hjudge : judgeReading last r with
  | error fault =>
      cases fault with
      | error e => exact .inr ⟨_, _, rfl, rfl⟩
      | panic p => exact .inr ⟨_, _, rfl, rfl⟩
  | ok verdict =>
      cases verdict with
      | issue next =>
          obtain ⟨now, hr, hfollows⟩ := judgeReading_issue hjudge
          exact .inl ⟨now, next, hr, hfollows, rfl⟩
      | answer s => exact .inr ⟨_, _, rfl, issued?_answer hjudge⟩

/-- The critical section answers `behind` only if the rule does. -/
theorem critical_behind {last : Flake} {r : Reading} {drift : Nat}
    (h : (critical last r).1 = .ok (.behind drift)) :
    judgeReading last r = .ok (.answer (.behind drift)) := by
  unfold critical at h
  split at h
  · cases h
  · rename_i hjudge
    cases h
    exact hjudge
  · cases h
  · cases h

end Cell

namespace Arena

/-- A caller that moves stands where it moved to. -/
@[simp] theorem stage_move_self (a : Arena) (caller : Nat) (s : Stage) :
    (a.move caller s).stage caller = s := by
  simp [move]

/-- All others stand where they stood. -/
theorem stage_move_of_ne (a : Arena) {caller other : Nat} (s : Stage) (h : other ≠ caller) :
    (a.move caller s).stage other = a.stage other := by
  simp [move, h]

/-- To put back the cell that is there changes nothing. -/
theorem with_cell {a : Arena} {cell : Cell} (h : a.cell = cell) : { a with cell := cell } = a := by
  rw [← h]

/-- The steps of a caller. -/
inductive Takes (a : Arena) (caller : Nat) : Move → Arena → Option PollResult → Prop
  /-- The caller sees the word. -/
  | load {word : Flake} (hcell : a.cell = .lockFree word) (hstage : a.stage caller = .idle) :
      Takes a caller .load (a.move caller (.loaded word)) none
  /-- The reading calls for an identifier. -/
  | propose {seen next : Flake} {r : Reading} (hstage : a.stage caller = .loaded seen)
      (hjudge : judgeReading seen r = .ok (.issue next)) :
      Takes a caller (.read r) (a.move caller (.proposing seen next)) none
  /-- The reading calls for an answer without an identifier. -/
  | answer {seen : Flake} {r : Reading} {s : Status} (hstage : a.stage caller = .loaded seen)
      (hjudge : judgeReading seen r = .ok (.answer s)) :
      Takes a caller (.read r) (a.move caller .idle) (some (.ok s))
  /-- The reading is past the last timestamp, or a panic. -/
  | fail {seen : Flake} {r : Reading} {f : Fault} (hstage : a.stage caller = .loaded seen)
      (hjudge : judgeReading seen r = .error f) :
      Takes a caller (.read r) (a.move caller .idle) (some (.error f))
  /-- The swap fails, and the caller sees the word that it found. -/
  | lose {word seen next : Flake} {spurious : Bool} (hcell : a.cell = .lockFree word)
      (hstage : a.stage caller = .proposing seen next) (hlost : spurious = true ∨ word ≠ seen) :
      Takes a caller (.swap spurious) (a.move caller (.loaded word)) none
  /-- The swap finds the word that was seen. -/
  | win {seen next : Flake} (hcell : a.cell = .lockFree seen)
      (hstage : a.stage caller = .proposing seen next) :
      Takes a caller (.swap false) { a.move caller .idle with cell := .lockFree next }
        (some (.ok (.ready next)))
  /-- The lock is poisoned. -/
  | refused {last : Flake} {r : Reading} (hcell : a.cell = .locked last true)
      (hstage : a.stage caller = .idle) :
      Takes a caller (.critical r) a (some (.error (.error .lockPoisoned)))
  /-- The caller passes the critical section. -/
  | pass {last : Flake} {r : Reading} (hcell : a.cell = .locked last false)
      (hstage : a.stage caller = .idle) :
      Takes a caller (.critical r) { a with cell := (Cell.critical last r).2 }
        (some (Cell.critical last r).1)

/-- Every step is one of the list. -/
theorem takes_of_step {a b : Arena} {caller : Nat} {m : Move} {result : Option PollResult}
    (h : a.step caller m = some (b, result)) : a.Takes caller m b result := by
  cases m with
  | load =>
      simp only [step] at h
      split at h
      · rename_i hcell hstage
        cases h
        exact .load hcell hstage
      · cases h
  | read r =>
      simp only [step] at h
      split at h
      · rename_i hstage
        split at h
        · rename_i hjudge
          cases h
          exact .propose hstage hjudge
        · rename_i hjudge
          cases h
          exact .answer hstage hjudge
        · rename_i hjudge
          cases h
          exact .fail hstage hjudge
      · cases h
  | swap spurious =>
      simp only [step] at h
      split at h
      · rename_i word seen next hcell hstage
        cases spurious with
        | true =>
            cases h
            exact .lose hcell hstage (.inl rfl)
        | false =>
            -- The swap compares the word in the cell with the one that was
            -- seen.
            by_cases hword : word = seen
            · subst hword
              simp only [Cell.swap, if_true, Bool.false_eq_true, if_false] at h
              cases h
              exact .win hcell hstage
            · simp only [Cell.swap, if_neg hword, Bool.false_eq_true, if_false] at h
              cases h
              exact .lose hcell hstage (.inr hword)
      · cases h
  | critical r =>
      simp only [step] at h
      split at h
      · rename_i last poisoned hcell hstage
        cases poisoned with
        | true =>
            cases h
            simp only [Cell.poll, with_cell hcell]
            exact .refused hcell hstage
        | false =>
            cases h
            exact .pass hcell hstage
      · cases h

/-- Every step of the list can be taken. -/
theorem step_of_takes {a b : Arena} {caller : Nat} {m : Move} {result : Option PollResult}
    (h : a.Takes caller m b result) : a.step caller m = some (b, result) := by
  cases h with
  | load hcell hstage => simp only [step, hcell, hstage]
  | propose hstage hjudge => simp only [step, hstage, hjudge]
  | answer hstage hjudge => simp only [step, hstage, hjudge]
  | fail hstage hjudge => simp only [step, hstage, hjudge]
  | @lose word seen next spurious hcell hstage hlost =>
      simp only [step, hcell, hstage]
      cases spurious with
      | true => rfl
      | false =>
          -- The swap did not fail for no reason, so it found another word.
          have hword : word ≠ seen := hlost.resolve_left Bool.false_ne_true
          simp only [Cell.swap, if_neg hword, Bool.false_eq_true, if_false]
  | win hcell hstage =>
      simp only [step, hcell, hstage, Cell.swap, if_true, Bool.false_eq_true, if_false]
  | refused hcell hstage => simp only [step, hcell, hstage, Cell.poll, with_cell hcell]
  | pass hcell hstage => simp only [step, hcell, hstage, Cell.poll]

namespace Takes

variable {a b : Arena} {caller : Nat} {m : Move} {result : Option PollResult}

/-- A step moves nobody else. -/
theorem stage_of_ne (h : a.Takes caller m b result) {other : Nat} (hne : other ≠ caller) :
    b.stage other = a.stage other := by
  cases h with
  | load hcell hstage => exact stage_move_of_ne a _ hne
  | propose hstage hjudge => exact stage_move_of_ne a _ hne
  | answer hstage hjudge => exact stage_move_of_ne a _ hne
  | fail hstage hjudge => exact stage_move_of_ne a _ hne
  | lose hcell hstage hlost => exact stage_move_of_ne a _ hne
  | win hcell hstage => exact stage_move_of_ne a _ hne
  | refused hcell hstage => rfl
  | pass hcell hstage => rfl

/-- Only a reading leads to a proposal. -/
theorem of_proposing (h : a.Takes caller m b result) {seen next : Flake}
    (hnext : b.stage caller = .proposing seen next) :
    ∃ now, m = .read (.millis now) ∧ a.stage caller = .loaded seen ∧
      seen.Follows now next := by
  cases h with
  | propose hstage hjudge =>
      rw [stage_move_self] at hnext
      cases hnext
      obtain ⟨now, rfl, hfollows⟩ := judgeReading_issue hjudge
      exact ⟨now, rfl, hstage, hfollows⟩
  | load hcell hstage =>
      rw [stage_move_self] at hnext
      cases hnext
  | answer hstage hjudge =>
      rw [stage_move_self] at hnext
      cases hnext
  | fail hstage hjudge =>
      rw [stage_move_self] at hnext
      cases hnext
  | lose hcell hstage hlost =>
      rw [stage_move_self] at hnext
      cases hnext
  | win hcell hstage =>
      rw [show ({ a.move caller .idle with cell := _ } : Arena).stage caller
        = (a.move caller .idle).stage caller from rfl, stage_move_self] at hnext
      cases hnext
  | refused hcell hstage =>
      rw [hstage] at hnext
      cases hnext
  | pass hcell hstage =>
      rw [show ({ a with cell := _ } : Arena).stage caller = a.stage caller from rfl, hstage]
        at hnext
      cases hnext

end Takes

end Arena

end Snowflake
