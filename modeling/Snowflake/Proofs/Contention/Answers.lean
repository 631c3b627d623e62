import Snowflake.Proofs.Contention.Ascent

/-!
# `Snowflake.Proofs.Contention.Answers`: what the result of a poll is about

A poll ends with the answer of the rule to its last reading, about one word.
Under contention that word need not be the last identifier any more when the
poll ends. `Journal.Answered` shows that it was the last identifier once: the
first word, or one that has been issued. The only other result is the refusal
of a poisoned lock, and a lock is poisoned only after a reading that was a
panic.

So a statement about the results of a run needs no look at its steps. It
follows from the rule, for every word that was ever issued.
-/

set_option autoImplicit false

namespace Snowflake

/-- What a caller is told of a verdict. -/
def Verdict.status : Verdict → Status
  | .issue next => .ready next
  | .answer s => s

/-- The result of a poll whose last reading is judged against a word. -/
def resultAbout (seen : Flake) (r : Reading) : PollResult :=
  (judgeReading seen r).map Verdict.status

/-- A poll that returns an identifier took its timestamp for its last
reading. -/
theorem resultAbout_ready {seen id : Flake} {r : Reading}
    (h : resultAbout seen r = .ok (.ready id)) :
    r = .millis id.timestamp ∧ seen.Follows id.timestamp id := by
  -- A verdict becomes ready only if the rule issues; its answers are never
  -- ready.
  unfold resultAbout at h
  cases hjudge : judgeReading seen r with
  | error fault =>
      rw [hjudge] at h
      cases h
  | ok verdict =>
      rw [hjudge] at h
      cases verdict with
      | issue next =>
          cases h
          obtain ⟨now, rfl, hfollows⟩ := judgeReading_issue hjudge
          rw [hfollows.timestamp]
          exact ⟨rfl, hfollows⟩
      | answer s =>
          cases h
          cases r with
          | failure => cases hjudge
          | millis now => exact absurd hjudge judge_answer_ne_ready

/-- The rule itself panics never: a panic is the clock's. -/
theorem resultAbout_panic {seen : Flake} {r : Reading} {p : Panic}
    (h : resultAbout seen r = .error (.panic p)) : p = .clock ∧ r = .failure := by
  cases r with
  | failure =>
      cases h
      exact ⟨rfl, rfl⟩
  | millis now =>
      change (judge seen now).map Verdict.status = _ at h
      rcases judge_cases seen now with ⟨next, hjudge, -⟩ | ⟨-, -, hjudge⟩ | ⟨-, hjudge⟩ |
        ⟨-, hjudge⟩ <;>
        rw [hjudge] at h <;> cases h

namespace Cell

/-- The critical section returns the answer of the rule to the reading. -/
theorem critical_result (last : Flake) (r : Reading) :
    (critical last r).1 = resultAbout last r := by
  unfold critical resultAbout
  cases judgeReading last r with
  | error fault => cases fault <;> rfl
  | ok verdict => cases verdict <;> rfl

/-- A swap that nobody overlaps gives the result of the rule about the last
identifier. -/
theorem exchange_result (last : Flake) (r : Reading) :
    (exchange last r).1 = resultAbout last r := by
  unfold exchange resultAbout
  cases judgeReading last r with
  | error fault => rfl
  | ok verdict => cases verdict <;> rfl

/-- Without overlap a poll is refused by a poisoned lock, or answers about the
last identifier. -/
theorem poll_result (cell : Cell) (r : Reading) :
    (cell.poll r).1 = .error (.error .lockPoisoned) ∨
      (cell.poll r).1 = resultAbout cell.last r := by
  cases cell with
  | lockFree last => exact .inr (exchange_result last r)
  | locked last poisoned =>
      cases poisoned with
      | true => exact .inl rfl
      | false => exact .inr (critical_result last r)

/-- The critical section leaves a poisoned lock when its result is a panic. -/
theorem critical_poisoned {last : Flake} {r : Reading}
    (h : (critical last r).2.isPoisoned = true) : r = .failure := by
  -- Only a panic inside the section leaves the lock poisoned.
  have hpanic : ∃ p, resultAbout last r = .error (.panic p) := by
    unfold critical at h
    unfold resultAbout
    cases hjudge : judgeReading last r with
    | error fault =>
        cases fault with
        | error e =>
            rw [hjudge] at h
            cases h
        | panic p => exact ⟨p, rfl⟩
    | ok verdict =>
        rw [hjudge] at h
        cases verdict <;> cases h
  obtain ⟨p, hp⟩ := hpanic
  exact (resultAbout_panic hp).2

end Cell

/-- The word that a caller has seen and goes on from. -/
def Stage.seen? : Stage → Option Flake
  | .idle => none
  | .loaded seen => some seen
  | .proposing seen _ => some seen

namespace Arena.Takes

variable {a b : Arena} {caller : Nat} {m : Move} {result : Option PollResult}

/-- What a caller has seen after a step it had seen before, or it finds it in
the cell. -/
theorem seen? (h : a.Takes caller m b result) {f : Flake}
    (hf : (b.stage caller).seen? = some f) :
    (a.stage caller).seen? = some f ∨ f = a.cell.last := by
  cases h with
  | load hcell hstage =>
      rw [stage_move_self] at hf
      cases hf
      exact .inr (congrArg Cell.last hcell).symm
  | propose hstage hjudge =>
      rw [stage_move_self] at hf
      rw [hstage]
      exact .inl hf
  | answer hstage hjudge =>
      rw [stage_move_self] at hf
      cases hf
  | fail hstage hjudge =>
      rw [stage_move_self] at hf
      cases hf
  | lose hcell hstage hlost =>
      rw [stage_move_self] at hf
      cases hf
      exact .inr (congrArg Cell.last hcell).symm
  | win hcell hstage =>
      rw [show ({ a.move caller .idle with cell := _ } : Arena).stage caller
        = (a.move caller .idle).stage caller from rfl, stage_move_self] at hf
      cases hf
  | refused hcell hstage => exact .inl hf
  | pass hcell hstage => exact .inl hf

/-- A step poisons the lock only with a reading that is a panic. -/
theorem isPoisoned (h : a.Takes caller m b result) (hb : b.cell.isPoisoned = true) :
    a.cell.isPoisoned = true ∨ a.reading? m = some .failure := by
  cases h with
  | load hcell hstage => exact .inl hb
  | propose hstage hjudge => exact .inl hb
  | answer hstage hjudge => exact .inl hb
  | fail hstage hjudge => exact .inl hb
  | lose hcell hstage hlost => exact .inl hb
  | win hcell hstage => cases hb
  | refused hcell hstage => exact .inl hb
  | pass hcell hstage =>
      rw [Cell.critical_poisoned hb]
      exact .inr (reading?_critical hcell _)

end Arena.Takes

namespace Journal

/-- A step that ends a poll is the refusal of a poisoned lock, or gives the
answer about the word that its caller has seen, or finds in the cell, to the
last reading of the poll. -/
theorem ending_about {j : Journal} (hj : j.Sound) {caller : Nat} {m : Move} {a : Arena}
    {result : PollResult} (htakes : j.arena.Takes caller m a (some result)) :
    (j.arena.cell.isPoisoned = true ∧ result = .error (.error .lockPoisoned)) ∨
    ∃ seen r, ((j.arena.stage caller).seen? = some seen ∨ seen = j.last) ∧
      (j.takenWith caller m).getLast? = some r ∧ result = resultAbout seen r := by
  cases htakes with
  | @answer seen r s hstage hjudge =>
      refine .inr ⟨seen, r, .inl ?_, takenWith_getLast? rfl, ?_⟩
      · rw [hstage]
        rfl
      · rw [resultAbout, hjudge]
        rfl
  | @fail seen r fault hstage hjudge =>
      refine .inr ⟨seen, r, .inl ?_, takenWith_getLast? rfl, ?_⟩
      · rw [hstage]
        rfl
      · rw [resultAbout, hjudge]
        rfl
  | @win seen next hcell hstage =>
      obtain ⟨now, htaken, hfollows⟩ := hj.proposals caller seen next hstage
      have hjudge : judgeReading seen (.millis now) = .ok (.issue next) :=
        judge_issue_iff.mpr hfollows
      refine .inr ⟨seen, .millis now, .inl ?_, ?_, ?_⟩
      · rw [hstage]
        rfl
      · rw [takenWith_swap hstage]
        exact htaken
      · rw [resultAbout, hjudge]
        rfl
  | refused hcell hstage =>
      refine .inl ⟨?_, rfl⟩
      rw [hcell]
      rfl
  | @pass last r hcell hstage =>
      exact .inr ⟨last, r, .inr (last_of_cell hcell).symm,
        takenWith_getLast? (Arena.reading?_critical hcell r), Cell.critical_result last r⟩

/-- What the words that callers have seen, and the results of the polls, are
about. -/
structure Answered (first : Flake) (j : Journal) : Prop where
  /-- The last identifier is the first word, or was issued. -/
  last : j.last ∈ first :: j.issued
  /-- So was every word that a caller has seen. -/
  seen : ∀ caller f, (j.arena.stage caller).seen? = some f → f ∈ first :: j.issued
  /-- A poll under way takes its readings from the clock. -/
  taken : ∀ caller, j.arena.stage caller ≠ .idle → ∀ r ∈ j.taken caller, r ∈ j.readings
  /-- A lock is poisoned after a panic of the clock. -/
  poisoned : j.arena.cell.isPoisoned = true → .failure ∈ j.readings
  /-- So does a poll that has ended. -/
  readings : ∀ p ∈ j.polls, ∀ r ∈ p.readings, r ∈ j.readings
  /-- A poll that has ended was refused by a poisoned lock, or answers about a
  word that was the last identifier once. -/
  polls : ∀ p ∈ j.polls,
    (.failure ∈ j.readings ∧ p.result = .error (.error .lockPoisoned)) ∨
    ∃ seen ∈ first :: j.issued, ∃ r, p.readings.getLast? = some r ∧
      p.result = resultAbout seen r

/-- It holds before any step, when the lock is not poisoned then. -/
theorem answered_start {cell : Cell} (h : cell.isPoisoned = false) :
    (start cell).Answered cell.last where
  last := .head _
  seen := by
    intro caller f hf
    cases hf
  taken := by
    intro caller hstage
    exact absurd rfl hstage
  poisoned := by
    intro hpoisoned
    rw [show (start cell).arena.cell = cell from rfl, h] at hpoisoned
    cases hpoisoned
  readings := by
    intro p hp
    cases hp
  polls := by
    intro p hp
    cases hp

/-- A step adds its reading to those of all callers. -/
theorem readings_note (j : Journal) (caller : Nat) (m : Move) (a : Arena)
    (result : Option PollResult) :
    (j.note caller m a result).readings = j.readings ++ (j.arena.reading? m).toList :=
  rfl

/-- What was issued stays issued. -/
theorem issued_subset_note {first f : Flake} {j : Journal} (caller : Nat) (m : Move) (a : Arena)
    (result : Option PollResult) (h : f ∈ first :: j.issued) :
    f ∈ first :: (j.note caller m a result).issued := by
  rw [issued_note, ← List.cons_append]
  exact List.mem_append_left _ h

/-- The readings that a caller's poll has taken after a step. -/
theorem Answered.takenWith {first : Flake} {j : Journal} (h : j.Answered first) {caller : Nat}
    {m : Move} {a : Arena} {result : Option PollResult} {r : Reading}
    (hr : r ∈ j.takenWith caller m) : r ∈ (j.note caller m a result).readings := by
  rw [readings_note]
  rcases List.mem_append.mp hr with hold | hnew
  · split at hold
    · cases hold
    · rename_i hstage
      exact List.mem_append_left _ (h.taken caller hstage r hold)
  · exact List.mem_append_right _ hnew

/-- Every step keeps the account of the answers. -/
theorem Answered.note {first : Flake} {j : Journal} (h : j.Answered first) (hj : j.Sound)
    {caller : Nat} {m : Move} {a : Arena} {result : Option PollResult}
    (htakes : j.arena.Takes caller m a result) :
    (j.note caller m a result).Answered first where
  last := by
    -- The last identifier stays, or it is the one that this step issued.
    rcases note_effect hj htakes with ⟨hsame, -⟩ | ⟨now, -, -, rfl⟩
    · rw [show (j.note caller m a result).last = j.last from hsame]
      exact issued_subset_note caller m a result h.last
    · rw [issued_note, ← List.cons_append]
      exact List.mem_append_right _ (.head _)
  seen := by
    intro c f hf
    by_cases hc : c = caller
    · subst hc
      -- The caller keeps the word that it had, or takes the one in the cell.
      rcases htakes.seen? hf with hold | rfl
      · exact issued_subset_note c m a result (h.seen c f hold)
      · exact issued_subset_note c m a result h.last
    · have hstage : (j.note caller m a result).arena.stage c = j.arena.stage c :=
        htakes.stage_of_ne hc
      rw [hstage] at hf
      exact issued_subset_note caller m a result (h.seen c f hf)
  taken := by
    intro c hstage r hr
    by_cases hc : c = caller
    · subst hc
      rw [show (j.note c m a result).taken c = j.takenWith c m from if_pos rfl] at hr
      exact h.takenWith hr
    · rw [show (j.note caller m a result).taken c = j.taken c from if_neg hc] at hr
      have hbefore : j.arena.stage c ≠ .idle :=
        fun hidle => hstage ((htakes.stage_of_ne hc).trans hidle)
      exact List.mem_append_left _ (h.taken c hbefore r hr)
  poisoned := by
    intro hpoisoned
    rw [readings_note]
    rcases htakes.isPoisoned hpoisoned with hold | hnew
    · exact List.mem_append_left _ (h.poisoned hold)
    · rw [hnew]
      exact List.mem_append_right _ (.head _)
  readings := by
    intro p hp r hr
    rcases List.mem_append.mp hp with hold | hnew
    · exact List.mem_append_left _ (h.readings p hold r hr)
    · obtain ⟨found, -, rfl⟩ := Option.map_eq_some_iff.mp (Option.mem_toList.mp hnew)
      exact h.takenWith hr
  polls := by
    intro p hp
    rcases List.mem_append.mp hp with hold | hnew
    · rcases h.polls p hold with ⟨hfailure, hresult⟩ | ⟨seen, hseen, hanswer⟩
      · exact .inl ⟨List.mem_append_left _ hfailure, hresult⟩
      · exact .inr ⟨seen, issued_subset_note caller m a result hseen, hanswer⟩
    · obtain ⟨found, rfl, rfl⟩ := Option.map_eq_some_iff.mp (Option.mem_toList.mp hnew)
      -- The new poll is refused, or answers about a word that was seen or is
      -- in the cell.
      rcases ending_about hj htakes with ⟨hpoisoned, rfl⟩ | ⟨seen, r, hseen, hanswer⟩
      · exact .inl ⟨List.mem_append_left _ (h.poisoned hpoisoned), rfl⟩
      · refine .inr ⟨seen, issued_subset_note caller m a _ ?_, r, hanswer⟩
        rcases hseen with hseen | rfl
        · exact h.seen caller seen hseen
        · exact h.last

/-- Every run of a cell that is not poisoned when it starts. -/
theorem answered_run {cell : Cell} (hcell : cell.isPoisoned = false)
    {moves : List (Nat × Move)} {j : Journal} (h : (start cell).run moves = some j) :
    j.Answered cell.last := by
  refine sound_invariant ?_ (answered_start hcell) h
  intro k caller m a result hsound hanswered htakes
  exact hanswered.note hsound htakes

end Journal

end Snowflake
