import Snowflake.Proofs.Contention.Journal

/-!
# `Snowflake.Proofs.Contention.SteadyClock`: a clock that never goes backward

A poll answers `behind` when its reading is earlier than the timestamp of the
word that it saw. Under contention that word may be a rival's, and newer than
the one that stood there when the poll began. `not_behind_of_readings_ordered`
shows that a poll never takes a rival's progress for a backward clock: when the
readings of all callers, in the order in which they are taken, never decrease
and start at the first timestamp or later, no poll answers `behind`.

The invariant is `Journal.Grounded`. It holds of every run, with any clock: the
timestamp of every word that the arena holds, in the cell or with a caller, is
the first timestamp or a reading that has been taken. The order of the steps of
a poll enters in `Arena.Takes.behind`: a reading is compared with a word that
was held before the reading was taken, also after a lost swap.
-/

set_option autoImplicit false

namespace Snowflake

/-- The words that a caller has at hand. -/
def Stage.words : Stage → List Flake
  | .idle => []
  | .loaded seen => [seen]
  | .proposing seen next => [seen, next]

namespace Arena

/-- The word is in the cell, or a caller has it at hand. -/
def Holds (a : Arena) (f : Flake) : Prop :=
  f = a.cell.last ∨ ∃ caller, f ∈ (a.stage caller).words

/-- The word in the cell is held. -/
theorem holds_of_cell {a : Arena} {cell : Cell} (h : a.cell = cell) : a.Holds cell.last := by
  rw [← h]
  exact .inl rfl

/-- A word that a caller has loaded is held. -/
theorem holds_of_loaded {a : Arena} {caller : Nat} {seen : Flake}
    (h : a.stage caller = .loaded seen) : a.Holds seen := by
  refine .inr ⟨caller, ?_⟩
  rw [h]
  exact List.mem_singleton.mpr rfl

/-- A caller moves, and all that it has at hand then was held before or is
`new`. -/
theorem holds_move {a : Arena} {caller : Nat} {s : Stage} {f : Flake} {new : Prop}
    (hs : f ∈ s.words → a.Holds f ∨ new) (h : (a.move caller s).Holds f) : a.Holds f ∨ new := by
  rcases h with hcell | ⟨other, hother⟩
  · exact .inl (.inl hcell)
  · by_cases hc : other = caller
    · subst hc
      rw [stage_move_self] at hother
      exact hs hother
    · rw [stage_move_of_ne a s hc] at hother
      exact .inl (.inr ⟨other, hother⟩)

namespace Takes

variable {a b : Arena} {caller : Nat} {m : Move} {result : Option PollResult}

/-- A word that is new after a step has the reading of the step as its
timestamp. -/
theorem holds (h : a.Takes caller m b result) {f : Flake} (hf : b.Holds f) :
    a.Holds f ∨ a.reading? m = some (.millis f.timestamp) := by
  cases h with
  | load hcell hstage =>
      refine holds_move ?_ hf
      intro hmem
      rw [List.mem_singleton.mp hmem]
      exact .inl (holds_of_cell hcell)
  | propose hstage hjudge =>
      refine holds_move ?_ hf
      intro hmem
      simp only [Stage.words, List.mem_cons, List.not_mem_nil, or_false] at hmem
      rcases hmem with rfl | rfl
      · exact .inl (holds_of_loaded hstage)
      · obtain ⟨now, rfl, hfollows⟩ := judgeReading_issue hjudge
        rw [hfollows.timestamp]
        exact .inr rfl
  | answer hstage hjudge => exact holds_move (fun hmem => absurd hmem List.not_mem_nil) hf
  | fail hstage hjudge => exact holds_move (fun hmem => absurd hmem List.not_mem_nil) hf
  | lose hcell hstage hlost =>
      refine holds_move ?_ hf
      intro hmem
      rw [List.mem_singleton.mp hmem]
      exact .inl (holds_of_cell hcell)
  | @win seen next hcell hstage =>
      rcases hf with rfl | ⟨other, hother⟩
      · -- The word that was swapped in was proposed before.
        refine .inl (.inr ⟨caller, ?_⟩)
        rw [hstage]
        exact .tail _ (.head _)
      · exact holds_move (fun hmem => absurd hmem List.not_mem_nil) (.inr ⟨other, hother⟩)
  | refused hcell hstage => exact .inl hf
  | @pass last r hcell hstage =>
      rcases hf with rfl | ⟨other, hother⟩
      · rcases Cell.critical_cases last r with ⟨now, next, rfl, hfollows, hcritical⟩ |
          ⟨result, poisoned, hcritical, -⟩
        · rw [hcritical]
          show a.Holds next ∨ a.reading? _ = some (.millis next.timestamp)
          rw [hfollows.timestamp]
          exact .inr (reading?_critical hcell _)
        · rw [hcritical]
          exact .inl (show a.Holds last from holds_of_cell hcell)
      · -- What the others hold does not change.
        exact .inl (.inr ⟨other, hother⟩)

/-- A poll answers `behind` when its last reading is earlier than a word that
was held before the reading was taken. -/
theorem behind (h : a.Takes caller m b result) {drift : Nat}
    (hresult : result = some (.ok (.behind drift))) :
    ∃ f now, a.Holds f ∧ a.reading? m = some (.millis now) ∧ now < f.timestamp := by
  cases h with
  | load hcell hstage => cases hresult
  | propose hstage hjudge => cases hresult
  | @answer seen r s hstage hjudge =>
      cases hresult
      obtain ⟨now, rfl, hnow⟩ := judgeReading_behind hjudge
      exact ⟨seen, now, holds_of_loaded hstage, rfl, hnow⟩
  | fail hstage hjudge => cases hresult
  | lose hcell hstage hlost => cases hresult
  | win hcell hstage => cases hresult
  | refused hcell hstage => cases hresult
  | @pass last r hcell hstage =>
      have hcritical := Cell.critical_behind (Option.some.inj hresult)
      obtain ⟨now, rfl, hnow⟩ := judgeReading_behind hcritical
      exact ⟨last, now, holds_of_cell hcell, reading?_critical hcell _, hnow⟩

end Takes

end Arena

namespace Journal

/-- The timestamp of every word that the arena holds is the first one or a
reading that has been taken. -/
def Grounded (first : Nat) (j : Journal) : Prop :=
  ∀ f, j.arena.Holds f → f.timestamp ∈ first :: j.millis

/-- A step adds its reading, if it takes one that is no panic. -/
theorem millis_note (j : Journal) (caller : Nat) (m : Move) (a : Arena)
    (result : Option PollResult) :
    (j.note caller m a result).millis
      = j.millis ++ ((j.arena.reading? m).bind Reading.millis?).toList := by
  show (j.readings ++ (j.arena.reading? m).toList).filterMap Reading.millis? = _
  rw [List.filterMap_append]
  cases j.arena.reading? m with
  | none => rfl
  | some r => cases r <;> rfl

/-- Before any step the only word is the first one. -/
theorem grounded_start {cell : Cell} : (start cell).Grounded cell.last.timestamp := by
  rintro f (rfl | ⟨caller, hmem⟩)
  · exact List.mem_singleton.mpr rfl
  · cases hmem

/-- A new word has the reading of its step for its timestamp. -/
theorem Grounded.note {first : Nat} {j : Journal} (h : j.Grounded first) {caller : Nat} {m : Move}
    {a : Arena} {result : Option PollResult} (htakes : j.arena.Takes caller m a result) :
    (j.note caller m a result).Grounded first := by
  intro f hf
  rw [millis_note, ← List.cons_append, List.mem_append]
  rcases htakes.holds hf with hold | hnew
  · exact .inl (h f hold)
  · refine .inr ?_
    rw [hnew]
    exact List.mem_singleton.mpr rfl

/-- As long as the readings stand in order, no poll has answered `behind`. -/
def NeverBehind (first : Nat) (j : Journal) : Prop :=
  (first :: j.millis).Pairwise (· ≤ ·) → ∀ p ∈ j.polls, ∀ drift, p.result ≠ .ok (.behind drift)

/-- A step that answers `behind` has a reading out of order. -/
theorem NeverBehind.note {first : Nat} {j : Journal} (h : j.NeverBehind first)
    (hj : j.Grounded first) {caller : Nat} {m : Move} {a : Arena} {result : Option PollResult}
    (htakes : j.arena.Takes caller m a result) :
    (j.note caller m a result).NeverBehind first := by
  intro hordered p hp drift
  rw [millis_note, ← List.cons_append, List.pairwise_append] at hordered
  -- The reading of this step is no earlier than the first timestamp and all
  -- readings before.
  obtain ⟨hbefore, -, hlast⟩ := hordered
  rcases List.mem_append.mp hp with hold | hnew
  · exact h hbefore p hold drift
  · obtain ⟨r, hr, rfl⟩ := Option.map_eq_some_iff.mp (Option.mem_toList.mp hnew)
    intro hbehind
    subst hbehind
    obtain ⟨f, now, hf, hreading, hnow⟩ := htakes.behind hr
    -- The word that the poll saw has a timestamp that was there before the
    -- reading.
    have hle : f.timestamp ≤ now := by
      refine hlast _ (hj f hf) now ?_
      rw [hreading]
      exact List.mem_singleton.mpr rfl
    exact Nat.not_le_of_lt hnow hle

end Journal

/-- Take a generator of either kind, preloaded with a timestamp, and any run of
any number of callers over it. Suppose that the readings of all callers, in the
order in which they are taken, never decrease and start at that timestamp or
later. Then no poll answers `behind`. -/
theorem not_behind_of_readings_ordered {kind : Kind} {worker : WorkerId}
    {timestamp sequence : Nat} {g : Generator}
    (hg : Generator.preloaded kind worker timestamp sequence = .ok g)
    {moves : List (Nat × Move)} {j : Journal} (hrun : (Journal.start g.cell).run moves = some j)
    (hordered : (timestamp :: j.millis).Pairwise (· ≤ ·)) :
    ∀ p ∈ j.polls, ∀ drift, p.result ≠ .ok (.behind drift) := by
  have hfirst : g.cell.last.timestamp = timestamp := by
    obtain ⟨hfits, -, rfl⟩ := Generator.preloaded_eq_ok_iff.mp hg
    rw [Cell.last_ofLast, Flake.timestamp_ofParts, Nat.mod_eq_of_lt (Nat.lt_succ_of_le hfits)]
  -- One induction for both properties, as the second needs the first at every
  -- step.
  have hstep : ∀ (k : Journal) caller m a result,
      k.Grounded timestamp ∧ k.NeverBehind timestamp → k.arena.Takes caller m a result →
      (k.note caller m a result).Grounded timestamp ∧
        (k.note caller m a result).NeverBehind timestamp := by
    intro k caller m a result ⟨hgrounded, hnever⟩ htakes
    exact ⟨hgrounded.note htakes, hnever.note hgrounded htakes⟩
  have hstart : (Journal.start g.cell).NeverBehind timestamp := by
    intro _ p hp
    cases hp
  exact (Journal.invariant hstep ⟨hfirst ▸ Journal.grounded_start, hstart⟩ hrun).2 hordered

/-- The second caller goes through its whole poll while the first stands between
its load and its reading. The first loses the swap, and reads the clock again
before it looks at what its rival has done. -/
def overtaken : List (Nat × Move) :=
  [(0, .load), (1, .load), (1, .read (.millis 8)), (1, .swap false), (0, .read (.millis 8)),
    (0, .swap false), (0, .read (.millis 8)), (0, .swap false)]

/-- The first caller loses a swap, and is still not told that the clock is
behind. -/
theorem not_behind_overtaken :
    ∃ g j, Generator.preloaded .lockFree ⟨7, by decide⟩ 5 3 = .ok g ∧
      (Journal.start g.cell).run overtaken = some j ∧ j.millis = [8, 8, 8] ∧
      j.issued = [Flake.ofParts 8 7 0, Flake.ofParts 8 7 1] ∧
      ∀ p ∈ j.polls, ∀ drift, p.result ≠ .ok (.behind drift) := by
  have hrun : ∃ g j, Generator.preloaded .lockFree ⟨7, by decide⟩ 5 3 = .ok g ∧
      (Journal.start g.cell).run overtaken = some j ∧ j.millis = [8, 8, 8] ∧
      j.issued = [Flake.ofParts 8 7 0, Flake.ofParts 8 7 1] :=
    ⟨_, _, rfl, rfl, rfl, by decide⟩
  obtain ⟨g, j, hg, hj, hmillis, hissued⟩ := hrun
  refine ⟨g, j, hg, hj, hmillis, hissued, not_behind_of_readings_ordered hg hj ?_⟩
  rw [hmillis]
  decide

end Snowflake
