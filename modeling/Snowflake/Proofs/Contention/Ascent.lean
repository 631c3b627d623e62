import Mathlib.Data.List.Chain
import Snowflake.Proofs.Contention.Journal

/-!
# `Snowflake.Proofs.Contention.Ascent`: identifiers ascend under contention

A step of any caller does one of two things to the last identifier
(`Journal.note_effect`). It leaves it alone and returns none. Or it replaces it
by one that follows it, and returns that one to its caller. A swap is the case
that needs an argument: the proposal was computed from the word that the caller
saw, perhaps long ago, and the swap succeeds only while that word still stands.

Hence the identifiers of a run, in the order in which they replaced one
another, form a chain from the first word on, each followed by the next
(`Journal.Ascending`). `issued_ascend` reads off the chain that they ascend,
whatever the clock does and however the callers take turns.
-/

set_option autoImplicit false

namespace Snowflake

namespace Journal

/-- What a step of a caller does to the last identifier. In the second case the
step returns the identifier that it puts in place, and its timestamp is the
last reading of the poll. -/
theorem note_effect {j : Journal} (hj : j.Sound) {caller : Nat} {m : Move} {a : Arena}
    {result : Option PollResult} (htakes : j.arena.Takes caller m a result) :
    (a.cell.last = j.last ∧ result.bind issued? = none) ∨
    (∃ now, (j.takenWith caller m).getLast? = some (.millis now) ∧
      j.last.Follows now a.cell.last ∧ result = some (.ok (.ready a.cell.last))) := by
  cases htakes with
  | load hcell hstage => exact .inl ⟨rfl, rfl⟩
  | propose hstage hjudge => exact .inl ⟨rfl, rfl⟩
  | answer hstage hjudge => exact .inl ⟨rfl, issued?_answer hjudge⟩
  | fail hstage hjudge => exact .inl ⟨rfl, rfl⟩
  | lose hcell hstage hlost => exact .inl ⟨rfl, rfl⟩
  | @win seen next hcell hstage =>
      -- The word is the one that was seen, so what follows the one follows the
      -- other.
      obtain ⟨now, htaken, hfollows⟩ := hj.proposals caller seen next hstage
      have hlast : j.last = seen := last_of_cell hcell
      refine .inr ⟨now, ?_, ?_, rfl⟩
      · rw [takenWith_swap hstage]
        exact htaken
      · rw [hlast]
        exact hfollows
  | refused hcell hstage => exact .inl ⟨rfl, rfl⟩
  | @pass last r hcell hstage =>
      have hlast : j.last = last := last_of_cell hcell
      rcases Cell.critical_cases last r with ⟨now, next, rfl, hfollows, hcritical⟩ |
        ⟨quiet, poisoned, hcritical, hquiet⟩
      · refine .inr ⟨now, ?_, ?_, ?_⟩
        · exact takenWith_getLast? (Arena.reading?_critical hcell _)
        · show j.last.Follows now (Cell.critical last (.millis now)).2.last
          rw [hlast, hcritical]
          exact hfollows
        · show some (Cell.critical last (.millis now)).1
            = some (.ok (.ready (Cell.critical last (.millis now)).2.last))
          rw [hcritical]
          rfl
      · refine .inl ⟨?_, ?_⟩
        · show (Cell.critical last r).2.last = j.last
          rw [hlast, hcritical]
          rfl
        · show issued? (Cell.critical last r).1 = none
          rw [hcritical]
          exact hquiet

/-- A step adds the identifier that it returns to those that were issued. -/
theorem issued_note (j : Journal) (caller : Nat) (m : Move) (a : Arena)
    (result : Option PollResult) :
    (j.note caller m a result).issued = j.issued ++ (result.bind issued?).toList := by
  cases result with
  | none => simp [issued, note]
  | some r => cases h : issued? r <;> simp [issued, note, ending, h]

/-- The identifiers of a run form a chain from the first word on. -/
structure Ascending (first : Flake) (j : Journal) : Prop where
  valid : j.last.isValid = true
  chain : (first :: j.issued).IsChain fun x y => x.Later y ∧ ∃ now, x.Follows now y
  last : (first :: j.issued).getLast? = some j.last
  replaced : j.replaced = j.issued

/-- Before any step the chain is the first word alone. -/
theorem ascending_start {cell : Cell} (h : cell.last.isValid = true) :
    (start cell).Ascending cell.last where
  valid := h
  chain := .singleton _
  last := rfl
  replaced := rfl

/-- A step leaves the chain, or puts the identifier that it issues at its end. -/
theorem Ascending.note {first : Flake} {j : Journal} (h : j.Ascending first) (hj : j.Sound)
    {caller : Nat} {m : Move} {a : Arena} {result : Option PollResult}
    (htakes : j.arena.Takes caller m a result) :
    (j.note caller m a result).Ascending first := by
  rcases note_effect hj htakes with ⟨hsame, hnone⟩ | ⟨now, -, hfollows, rfl⟩
  · -- Nothing is issued, and the last identifier stays.
    have hissued : (j.note caller m a result).issued = j.issued := by
      rw [issued_note, hnone, Option.toList_none, List.append_nil]
    have hlast : (j.note caller m a result).last = j.last := hsame
    refine ⟨?_, ?_, ?_, ?_⟩
    · rw [hlast]
      exact h.valid
    · rw [hissued]
      exact h.chain
    · rw [hissued, hlast]
      exact h.last
    · rw [hissued]
      show j.replaced ++ (if a.cell.last = j.last then [] else [a.cell.last]) = j.issued
      rw [if_pos hsame, List.append_nil]
      exact h.replaced
  · have hlater := hfollows.later h.valid
    have hissued : (j.note caller m a (some (.ok (.ready a.cell.last)))).issued
        = j.issued ++ [a.cell.last] := by
      rw [issued_note]
      rfl
    -- The chain so far ends with the word that the new identifier follows.
    refine ⟨hfollows.isValid, ?_, ?_, ?_⟩
    · rw [hissued, ← List.cons_append, List.isChain_append]
      refine ⟨h.chain, .singleton _, ?_⟩
      intro x hx y hy
      rw [h.last] at hx
      cases hx
      cases hy
      exact ⟨hlater, now, hfollows⟩
    · rw [hissued, ← List.cons_append, List.getLast?_append]
      rfl
    · rw [hissued]
      show j.replaced ++ (if a.cell.last = j.last then [] else [a.cell.last])
        = j.issued ++ [a.cell.last]
      -- The journal notes a replacement, since a later word differs from the
      -- last one.
      rw [if_neg (Flake.ne_of_lt hlater.lt).symm, h.replaced]

/-- Every run keeps the chain. -/
theorem ascending_run {cell : Cell} (hcell : cell.last.isValid = true)
    {moves : List (Nat × Move)} {j : Journal} (h : (start cell).run moves = some j) :
    j.Ascending cell.last := by
  refine sound_invariant ?_ (ascending_start hcell) h
  intro k caller m a result hsound hascending htakes
  exact hascending.note hsound htakes

/-- Of any two identifiers in the chain the second is later. -/
theorem Ascending.pairwise {first : Flake} {j : Journal} (h : j.Ascending first) :
    (first :: j.issued).Pairwise Flake.Later :=
  List.isChain_iff_pairwise.mp (h.chain.imp fun _ _ hxy => hxy.1)

end Journal

/-- Take any generator as construction gives it, of either kind, and any run of
any number of callers over it, with any readings. The identifiers that the
polls return are those that replaced the last one, in the same order. They are
all greater than the first word, and they ascend; no identifier is issued
twice, and each caller sees its own ascend. -/
theorem issued_ascend {g : Generator} (hg : g.Built) {moves : List (Nat × Move)} {j : Journal}
    (hrun : (Journal.start g.cell).run moves = some j) :
    j.issued = j.replaced ∧
    (∀ id ∈ j.issued, g.cell.last < id) ∧
    j.issued.Pairwise (· < ·) ∧
    j.issued.Nodup ∧
    ∀ caller, (j.issuedTo caller).Pairwise (· < ·) := by
  -- Along a chain of later and later words any two of them are in order.
  have hascending := Journal.ascending_run hg.isValid hrun
  obtain ⟨hfirst, hpairwise⟩ := List.pairwise_cons.mp (hascending.pairwise.imp Flake.Later.lt)
  refine ⟨hascending.replaced.symm, hfirst, hpairwise, ?_, ?_⟩
  · exact hpairwise.imp Flake.ne_of_lt
  · intro caller
    exact hpairwise.sublist (List.filter_sublist.filterMap _)

/-- Both callers load the first word and read the same millisecond. The second
loses the swap to the first, then fails without a rival, and gets the next
identifier at its third reading. -/
def lostSwap : List (Nat × Move) :=
  [(0, .load), (1, .load), (0, .read (.millis 5)), (1, .read (.millis 5)), (0, .swap false),
    (1, .swap false), (1, .read (.millis 5)), (1, .swap true), (1, .read (.millis 5)),
    (1, .swap false)]

/-- Two identifiers in two swaps that win, though two others are lost in
between. -/
theorem issued_ascend_lostSwap :
    ∃ j, (Journal.start (Generator.new .lockFree ⟨7, by decide⟩).cell).run lostSwap = some j ∧
      j.issued = [Flake.ofParts 5 7 0, Flake.ofParts 5 7 1] ∧ j.issued = j.replaced ∧
      j.issued.Pairwise (· < ·) := by
  have hrun : ∃ j,
      (Journal.start (Generator.new .lockFree ⟨7, by decide⟩).cell).run lostSwap = some j ∧
        j.issued = [Flake.ofParts 5 7 0, Flake.ofParts 5 7 1] :=
    ⟨_, rfl, by decide⟩
  obtain ⟨j, hj, hissued⟩ := hrun
  obtain ⟨hreplaced, -, hpairwise, -⟩ := issued_ascend (.new _ _) hj
  exact ⟨j, hj, hissued, hreplaced, hpairwise⟩

end Snowflake
