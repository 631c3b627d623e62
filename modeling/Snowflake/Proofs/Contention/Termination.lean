import Snowflake.Proofs.Contention.Rivals

/-!
# `Snowflake.Proofs.Contention.Termination`: a lock-free poll ends

`readings_le_rivals_issued` says what the polls of a run have cost, and that
none of them goes on for ever.

The costs are read off `Contest.Fought`, the invariant of every run. For the
end, an `Endless` run is one whose steps never stop. The measure is the word
that a caller goes on from. A swap that is lost to a rival leaves the caller
with a greater word, and words are bounded (`Onward.rank_lt`). So a poll whose
caller is given another step as long as it needs one comes to its end
(`Endless.poll_ends`). A swap that fails over the word that it expects makes no
such progress, and the statement assumes that these failures cease.
-/

set_option autoImplicit false

namespace Snowflake

/-! ### The measure of a poll -/

/-- How far a caller still can go in its poll, at most. -/
def Stage.rank : Stage → Nat
  | .idle => 0
  | .loaded seen => 2 * (UInt64.size - seen.raw.toNat) + 1
  | .proposing seen _ => 2 * (UInt64.size - seen.raw.toNat)

/-- A swap that fails over the word that its caller expects. -/
def Arena.Fumbles (a : Arena) (caller : Nat) (m : Move) : Prop :=
  m = .swap true ∧ (a.stage caller).seen? = some a.cell.last

/-- A poll under way that a step leads on has less to go than before, unless
the step is a swap that fails over the word that it expects. -/
theorem Arena.Onward.rank_lt {a : Arena} {caller : Nat} {m : Move} {s : Stage}
    (h : a.Onward caller m s) (hbusy : a.stage caller ≠ .idle)
    (hseen : ∀ seen, (a.stage caller).seen? = some seen → seen ≤ a.cell.last)
    (hfumbles : ¬ a.Fumbles caller m) : s.rank < (a.stage caller).rank := by
  cases h with
  | load hstage => exact absurd hstage hbusy
  | propose hstage =>
      rw [hstage]
      exact Nat.lt_succ_self _
  | @lose seen next spurious hstage hlost =>
      have hle := hseen seen (by rw [hstage]; rfl)
      -- The swap found another word, which is greater than the one seen.
      have hne : a.cell.last ≠ seen := by
        rcases hlost with rfl | hne
        · intro hsame
          exact hfumbles ⟨rfl, by rw [hstage, hsame]; rfl⟩
        · exact hne
      have hword : seen.raw.toNat ≠ a.cell.last.raw.toNat := by
        intro hsame
        exact hne (congrArg Flake.mk (UInt64.toNat_inj.mp hsame.symm))
      have hsize := a.cell.last.raw.toNat_lt_size
      rw [Flake.le_iff_toNat_le] at hle
      rw [hstage]
      show 2 * (UInt64.size - a.cell.last.raw.toNat) + 1 < 2 * (UInt64.size - seen.raw.toNat)
      omega

/-! ### Runs without end -/

/-- A run whose steps never stop. -/
structure Endless (cell : Cell) where
  /-- The steps, each with its caller. -/
  moves : Nat → Nat × Move
  /-- The journal before each step. -/
  journal : Nat → Journal
  start : journal 0 = .start cell
  step : ∀ n, (journal n).step (moves n).1 (moves n).2 = some (journal (n + 1))

namespace Endless

variable {cell : Cell} (e : Endless cell) {caller : Nat}

/-- At every moment of an endless run there is an account of its failed swaps. -/
theorem exists_fought (hvalid : cell.last.isValid = true) (hcell : cell = .lockFree cell.last)
    (n : Nat) : ∃ k : Contest, k.journal = e.journal n ∧ k.Fought cell.last := by
  induction n with
  | zero => exact ⟨.start cell, e.start.symm, Contest.fought_start hvalid hcell⟩
  | succ n ih =>
      obtain ⟨k, hk, hfought⟩ := ih
      obtain ⟨a, result, htakes, hnext⟩ := Journal.exists_takes (e.step n)
      rw [← hk] at htakes hnext
      exact ⟨_, hnext.symm, hfought.note htakes⟩

/-- The poll that a caller began with the given step has ended. -/
def Over (caller began n : Nat) : Prop :=
  ∃ p ∈ (e.journal n).polls, p.caller = caller ∧ p.began = began

/-- A step of another caller leaves a poll where it stands. -/
theorem rest_step {n : Nat} (hother : caller ≠ (e.moves n).1) :
    (e.journal (n + 1)).arena.stage caller = (e.journal n).arena.stage caller ∧
      (e.journal (n + 1)).began caller = (e.journal n).began caller := by
  obtain ⟨a, result, htakes, hnext⟩ := Journal.exists_takes (e.step n)
  rw [hnext]
  exact ⟨htakes.stage_of_ne hother, if_neg hother⟩

/-- A step of its own caller ends a poll, or the poll goes on. It has less to go
then, unless the step fumbled. -/
theorem own_step (hvalid : cell.last.isValid = true) (hcell : cell = .lockFree cell.last)
    {n : Nat} (hown : (e.moves n).1 = caller)
    (hbusy : (e.journal n).arena.stage caller ≠ .idle) :
    e.Over caller ((e.journal n).began caller) (n + 1) ∨
    ((e.journal (n + 1)).arena.stage caller ≠ .idle ∧
      (e.journal (n + 1)).began caller = (e.journal n).began caller ∧
      (¬ (e.journal n).arena.Fumbles caller (e.moves n).2 →
        ((e.journal (n + 1)).arena.stage caller).rank
          < ((e.journal n).arena.stage caller).rank)) := by
  subst hown
  obtain ⟨a, result, htakes, hnext⟩ := Journal.exists_takes (e.step n)
  obtain ⟨k, hk, hfought⟩ := e.exists_fought hvalid hcell n
  have hlockFree := hfought.lockFree
  have hunderway := hfought.underway (e.moves n).1
  rw [hk] at hlockFree hunderway
  have hopening : (e.journal n).opening (e.moves n).1 = (e.journal n).began (e.moves n).1 :=
    Journal.opening_of_stage hbusy
  rw [hnext]
  rcases (htakes.onward_or_final hlockFree).2 with ⟨-, honward⟩ | ⟨⟨r, rfl⟩, -, -⟩
  · -- The caller has seen a word that is not greater than the one in the cell.
    refine .inr ⟨honward.ne_idle, (if_pos rfl).trans hopening, ?_⟩
    exact honward.rank_lt hbusy fun seen hseen => hk ▸ (hunderway seen hseen).le_last
  · refine .inl ⟨(e.journal n).ending (e.moves n).1 (e.moves n).2 r, ?_, rfl, hopening⟩
    rw [hnext]
    exact List.mem_append_right _ (.head _)

/-- Until the caller of a poll takes its next step, the poll stands. -/
theorem exists_own_step {n l : Nat} (hle : n ≤ l) (hown : (e.moves l).1 = caller) :
    ∃ m, n ≤ m ∧ (e.moves m).1 = caller ∧
      (e.journal m).arena.stage caller = (e.journal n).arena.stage caller ∧
      (e.journal m).began caller = (e.journal n).began caller := by
  -- By induction on how many steps away the caller's step is known to be.
  obtain ⟨d, rfl⟩ := Nat.exists_eq_add_of_le hle
  induction d generalizing n with
  | zero => exact ⟨n, Nat.le_refl n, hown, rfl, rfl⟩
  | succ d ih =>
      by_cases hnow : (e.moves n).1 = caller
      · exact ⟨n, Nat.le_refl n, hnow, rfl, rfl⟩
      · obtain ⟨hstage, hbegan⟩ := e.rest_step (Ne.symm hnow)
        rw [show n + (d + 1) = n + 1 + d by omega] at hown
        obtain ⟨m, hm, hcaller, hsame, hsince⟩ := ih (Nat.le_add_right ..) hown
        exact ⟨m, by omega, hcaller, hsame.trans hstage, hsince.trans hbegan⟩

/-- The poll that a caller is in has ended by a later step, or the caller is
still in it. -/
theorem over_or_busy (hvalid : cell.last.isValid = true) (hcell : cell = .lockFree cell.last)
    {n : Nat} (hbusy : (e.journal n).arena.stage caller ≠ .idle) (d : Nat) :
    (∃ m, n < m ∧ e.Over caller ((e.journal n).began caller) m) ∨
    ((e.journal (n + d)).arena.stage caller ≠ .idle ∧
      (e.journal (n + d)).began caller = (e.journal n).began caller) := by
  induction d with
  | zero => exact .inr ⟨hbusy, rfl⟩
  | succ d ih =>
      rcases ih with hover | ⟨hstill, hbegan⟩
      · exact .inl hover
      · -- A step of a rival changes nothing for the poll.
        by_cases hown : (e.moves (n + d)).1 = caller
        · rcases e.own_step hvalid hcell hown hstill with hover | ⟨hnext, hsince, -⟩
          · exact .inl ⟨n + d + 1, by omega, hbegan ▸ hover⟩
          · exact .inr ⟨hnext, hsince.trans hbegan⟩
        · obtain ⟨hstage, hsince⟩ := e.rest_step (Ne.symm hown)
          rw [← hstage] at hstill
          exact .inr ⟨hstill, hsince.trans hbegan⟩

/-- A poll ends when its caller is given another step as long as it needs one,
and its swaps do not fail over the word that they expect any more. -/
theorem poll_ends (hvalid : cell.last.isValid = true) (hcell : cell = .lockFree cell.last)
    {n : Nat} (hbusy : (e.journal n).arena.stage caller ≠ .idle)
    (hgiven : ∀ m, n ≤ m → (e.journal m).arena.stage caller ≠ .idle →
      ∃ l, m ≤ l ∧ (e.moves l).1 = caller)
    (hsure : ∀ m, n ≤ m → (e.moves m).1 = caller →
      ¬ (e.journal m).arena.Fumbles caller (e.moves m).2) :
    ∃ m, n < m ∧ e.Over caller ((e.journal n).began caller) m := by
  generalize hrank : ((e.journal n).arena.stage caller).rank = rank
  -- The rank falls with every step of the caller that does not end the poll.
  induction rank using Nat.strong_induction_on generalizing n with
  | _ rank ih =>
      obtain ⟨l, hl, hlater⟩ := hgiven n (Nat.le_refl n) hbusy
      -- What its rivals do before the caller's next step does not touch the poll.
      obtain ⟨m, hm, hown, hstage, hbegan⟩ := e.exists_own_step hl hlater
      rw [← hstage] at hbusy hrank
      rw [← hbegan]
      rcases e.own_step hvalid hcell hown hbusy with hover | ⟨hnext, hsince, hlt⟩
      · exact ⟨m + 1, by omega, hover⟩
      · have hless := hlt (hsure m hm hown)
        rw [hrank] at hless
        obtain ⟨i, hi, hover⟩ := ih _ hless hnext (fun i hi => hgiven i (by omega))
          (fun i hi => hsure i (by omega)) rfl
        exact ⟨i, by omega, hsince ▸ hover⟩

end Endless

/-! ### The costs of a run -/

/-- The account of the polls of a run. -/
structure Contest.Accounted (k : Contest) : Prop where
  /-- The polls that have ended are those of the run. -/
  polls : k.ended.map Prod.fst = k.journal.polls
  /-- Each of them took a reading for every swap that failed, and one more. -/
  ended : ∀ p ∈ k.ended, p.1.readings.length = p.2.length + 1 ∧
    Costs k.journal p.1.caller p.1.began p.1.ended p.1.readings p.2
  /-- A poll under way has cost no more so far. -/
  underway : ∀ caller, k.journal.arena.stage caller ≠ .idle →
    Costs k.journal caller (k.journal.began caller) k.journal.clock (k.journal.taken caller)
      (k.misses caller)
  /-- When no rival has issued an identifier since the caller saw its word, the
  swap succeeds, unless it fails over that word. -/
  unopposed : ∀ caller seen next, k.journal.arena.stage caller = .proposing seen next →
    k.journal.rivalsIssued caller (k.saw caller) k.journal.clock = [] →
    ∃ b, k.journal.arena.step caller (.swap false) = some (b, some (.ok (.ready next)))
  /-- A poll under way can always go on. -/
  free : ∀ caller, k.journal.arena.stage caller ≠ .idle → ∀ r,
    (k.journal.arena.step caller (.read r)).isSome ∨
      (k.journal.arena.step caller (.swap false)).isSome

namespace Contest.Fought

variable {first : Flake} {k : Contest} {caller : Nat}

/-- A poll under way has cost what its failed swaps explain. -/
theorem costs_underway (h : k.Fought first) (hbusy : k.journal.arena.stage caller ≠ .idle) :
    Costs k.journal caller (k.journal.began caller) k.journal.clock (k.journal.taken caller)
      (k.misses caller) := by
  have htaken := h.taken caller
  cases hstage : k.journal.arena.stage caller with
  | idle => exact absurd hstage hbusy
  | loaded seen =>
      rw [hstage] at htaken
      exact (h.underway caller seen (by rw [hstage]; rfl)).toContested.costs
        (htaken ▸ Nat.le_succ _)
  | proposing seen next =>
      rw [hstage] at htaken
      exact (h.underway caller seen (by rw [hstage]; rfl)).toContested.costs
        (Nat.le_of_eq htaken)

/-- A proposal without rivals is about the word that is still there. -/
theorem unopposed (h : k.Fought first) {seen next : Flake}
    (hstage : k.journal.arena.stage caller = .proposing seen next)
    (hnone : k.journal.rivalsIssued caller (k.saw caller) k.journal.clock = []) :
    ∃ b, k.journal.arena.step caller (.swap false) = some (b, some (.ok (.ready next))) := by
  have hplace := (h.underway caller seen (by rw [hstage]; rfl)).place
  rw [hnone] at hplace
  -- A word that was replaced would have a rival's identifier in its place.
  have hlast : seen = k.journal.last := hplace.resolve_right fun hrival => nomatch hrival.2
  exact ⟨_, Arena.step_of_takes (.win (hlast ▸ h.lockFree) hstage)⟩

/-- A caller that has seen a word may read, and one that has a proposal may
swap. -/
theorem free (h : k.Fought first) (hbusy : k.journal.arena.stage caller ≠ .idle) (r : Reading) :
    (k.journal.arena.step caller (.read r)).isSome ∨
      (k.journal.arena.step caller (.swap false)).isSome := by
  cases hstage : k.journal.arena.stage caller with
  | idle => exact absurd hstage hbusy
  | loaded seen =>
      refine .inl ?_
      cases hjudge : judgeReading seen r with
      | error fault => rw [Arena.step_of_takes (.fail hstage hjudge)]; rfl
      | ok verdict =>
          cases verdict with
          | issue next => rw [Arena.step_of_takes (.propose hstage hjudge)]; rfl
          | answer s => rw [Arena.step_of_takes (.answer hstage hjudge)]; rfl
  | proposing seen next =>
      refine .inr ?_
      -- The swap wins or loses, but it can be tried.
      by_cases hlast : k.journal.last = seen
      · rw [Arena.step_of_takes (.win (hlast ▸ h.lockFree) hstage)]
        rfl
      · rw [Arena.step_of_takes (.lose h.lockFree hstage (.inr hlast))]
        rfl

/-- Every run keeps the account. -/
theorem accounted (h : k.Fought first) : k.Accounted where
  polls := h.polls
  ended p hp := by
    obtain ⟨hreadings, hcontested⟩ := h.ended p hp
    exact ⟨hreadings, hcontested.costs (Nat.le_of_eq hreadings)⟩
  underway _ hbusy := h.costs_underway hbusy
  unopposed _ _ _ hstage hnone := h.unopposed hstage hnone
  free _ hbusy r := h.free hbusy r

end Contest.Fought

/-- Take a lock-free generator as construction gives it, and any run of any
number of callers over it, with any readings. A poll takes one reading for each
swap that it tries. Every swap that finds another word than the one that the
poll had seen finds a greater identifier, which a rival has issued since, and
finds each at most once. So without the swaps that fail over the word that they
expect, a poll takes at most one reading more than its rivals issue identifiers
while it runs, and without any such identifier its swap succeeds.

And no poll goes on for ever. In a run without end, a poll whose caller gets
another step as long as it needs one ends, if its swaps fail over the word that
they expect only finitely often. -/
theorem readings_le_rivals_issued {g : Generator} (hg : g.Built)
    (hkind : g.cell.kind = .lockFree) :
    (∀ moves j, (Journal.start g.cell).run moves = some j →
      ∃ k, (Contest.start g.cell).run moves = some k ∧ k.journal = j ∧ k.Accounted) ∧
    ∀ (e : Endless g.cell) (caller n : Nat), (e.journal n).arena.stage caller ≠ .idle →
      (∀ m, n ≤ m → (e.journal m).arena.stage caller ≠ .idle →
        ∃ l, m ≤ l ∧ (e.moves l).1 = caller) →
      (∃ sure, ∀ m, sure ≤ m → (e.moves m).1 = caller →
        ¬ (e.journal m).arena.Fumbles caller (e.moves m).2) →
      ∃ m, n < m ∧ e.Over caller ((e.journal n).began caller) m := by
  have hcell : g.cell = .lockFree g.cell.last := by
    cases hword : g.cell with
    | lockFree word => rfl
    | locked last poisoned =>
        rw [hword] at hkind
        cases hkind
  refine ⟨?_, ?_⟩
  · intro moves j hrun
    obtain ⟨k, hk, hjournal, hfought⟩ := Contest.exists_fought hg.isValid hcell hrun
    exact ⟨k, hk, hjournal, hfought.accounted⟩
  · intro e caller n hbusy hgiven ⟨sure, hsure⟩
    -- The poll may end while some of its swaps still fail over their words.
    rcases e.over_or_busy hg.isValid hcell hbusy sure with hover | ⟨hstill, hbegan⟩
    · exact hover
    · obtain ⟨m, hm, hover⟩ := e.poll_ends hg.isValid hcell hstill
        (fun m hm => hgiven m (by omega)) (fun m hm => hsure m (by omega))
      exact ⟨m, by omega, hbegan ▸ hover⟩

namespace Endless

/-- The journals along a run, as long as its steps can be taken. -/
def trail (cell : Cell) (moves : Nat → Nat × Move) : Nat → Journal
  | 0 => .start cell
  | n + 1 =>
    let before := trail cell moves n
    (before.step (moves n).1 (moves n).2).getD before

variable {cell : Cell} {moves : Nat → Nat × Move}

/-- The run whose steps are given, if each of them can be taken. -/
def ofMoves (h : ∀ n, ((trail cell moves n).step (moves n).1 (moves n).2).isSome) :
    Endless cell where
  moves := moves
  journal := trail cell moves
  start := rfl
  step n := by
    obtain ⟨next, hnext⟩ := Option.isSome_iff_exists.mp (h n)
    rw [trail, hnext]
    rfl

/-- A caller that has not moved yet is idle. -/
theorem trail_stage {caller : Nat} (n : Nat) (h : ∀ i < n, (moves i).1 ≠ caller) :
    (trail cell moves n).arena.stage caller = .idle := by
  induction n with
  | zero => rfl
  | succ n ih =>
      have hbefore := ih fun i hi => h i (Nat.lt_succ_of_lt hi)
      rw [trail]
      cases hstep : (trail cell moves n).step (moves n).1 (moves n).2 with
      | none => exact hbefore
      | some next =>
          obtain ⟨a, result, htakes, rfl⟩ := Journal.exists_takes hstep
          exact (htakes.stage_of_ne (h n (Nat.lt_succ_self n)).symm).trans hbefore

/-- The run never leaves the lock-free kind. -/
theorem trail_lockFree (hcell : cell = .lockFree cell.last) (n : Nat) :
    (trail cell moves n).arena.cell = .lockFree (trail cell moves n).arena.cell.last := by
  induction n with
  | zero => exact hcell
  | succ n ih =>
      rw [trail]
      cases hstep : (trail cell moves n).step (moves n).1 (moves n).2 with
      | none => exact ih
      | some next =>
          obtain ⟨a, result, htakes, rfl⟩ := Journal.exists_takes hstep
          exact (htakes.onward_or_final ih).1

end Endless

/-- The callers of `lostSwap`, and then new ones without end, who only load the
word. -/
def crowd (n : Nat) : Nat × Move := lostSwap.getD n (n, .load)

/-- After its first ten steps the run has a new caller for each step. -/
theorem crowd_of_le {n : Nat} (h : 10 ≤ n) : crowd n = (n, .load) := by
  rw [crowd, List.getD_eq_getElem?_getD, List.getElem?_eq_none h]
  rfl

/-- Each of the steps can be taken. -/
theorem crowd_step (n : Nat) :
    ((Endless.trail (Generator.new .lockFree ⟨7, by decide⟩).cell crowd n).step (crowd n).1
      (crowd n).2).isSome := by
  by_cases hn : n < 10
  · revert n
    decide
  · rw [crowd_of_le (Nat.le_of_not_lt hn)]
    -- A new caller has not moved before, so it is idle and may load.
    have hfresh : ∀ i < n, (crowd i).1 ≠ n := by
      intro i hi
      by_cases hsmall : i < 10
      · have hold : ∀ i < 10, (crowd i).1 < 10 := by decide
        have := hold i hsmall
        omega
      · rw [crowd_of_le (Nat.le_of_not_lt hsmall)]
        omega
    rw [Journal.step, Arena.step_of_takes (.load (Endless.trail_lockFree rfl n)
      (Endless.trail_stage n hfresh))]
    rfl

/-- The second caller loses one swap to its rival and one for no reason, takes
three readings, and its poll ends in the endless run. -/
theorem readings_le_rivals_issued_lostSwap :
    (∃ k, (Contest.start (Generator.new .lockFree ⟨7, by decide⟩).cell).run lostSwap = some k ∧
      k.ended.map (fun p => (p.1.caller, p.1.readings.length, p.2.map Miss.genuine))
        = [(0, 1, []), (1, 3, [true, false])] ∧ k.Accounted) ∧
    ∃ e : Endless (Generator.new .lockFree ⟨7, by decide⟩).cell,
      (e.journal 2).arena.stage 1 = .loaded (Flake.ofParts 0 7 0) ∧ ∃ m, 2 < m ∧ e.Over 1 1 m := by
  obtain ⟨hrun, hends⟩ := readings_le_rivals_issued (g := .new .lockFree ⟨7, by decide⟩)
    (.new _ _) rfl
  refine ⟨?_, .ofMoves crowd_step, by decide, ?_⟩
  · obtain ⟨k, hk, -, haccounted⟩ := hrun lostSwap _ rfl
    refine ⟨k, hk, ?_, haccounted⟩
    cases hk
    decide
  · have hothers : ∀ m, 10 ≤ m → 1 ≠ (crowd m).1 := by
      intro m hm
      rw [crowd_of_le hm]
      show 1 ≠ m
      omega
    -- After ten steps the second caller is done, and nobody moves for it.
    have hidle : ∀ d, ((Endless.ofMoves crowd_step).journal (10 + d)).arena.stage 1 = .idle := by
      intro d
      induction d with
      | zero => decide
      | succ d ih => exact ((Endless.rest_step _ (hothers _ (Nat.le_add_right 10 d))).1).trans ih
    refine hends (.ofMoves crowd_step) 1 2 (by decide) ?_ ⟨10, ?_⟩
    · intro m _ hbusy
      refine ⟨9, ?_, rfl⟩
      refine Nat.le_of_not_lt fun hlate => hbusy ?_
      rw [← Nat.add_sub_cancel' (Nat.succ_le_of_lt hlate)]
      exact hidle _
    · intro m hm hown
      exact absurd hown.symm (hothers m hm)

end Snowflake
