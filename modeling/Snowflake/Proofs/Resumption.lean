import Snowflake.Proofs.Contention.Ascent
import Snowflake.Proofs.Sequential

/-!
# `Snowflake.Proofs.Resumption`: to resume is not to have stopped

A generator may be put down and taken up again later, as another generator that
is preloaded with the timestamp and the sequence of the last identifier. The
new one has the worker number from elsewhere: it is not read from the
identifier.

`resumed_answers_same` shows that nothing is lost by this, however the first
one got where it is, and whether or not the two are of the same kind. The
packed word has to be the same again (`ofParts_resumed`). It is because the
reserved bit is clear in every identifier of a run, and because each of them
holds the worker of its generator (`Journal.Ascending.worker`). From equal words
on, polls of the two kinds follow the same algorithm
(`Generator.pollAll_eq`).
-/

set_option autoImplicit false

namespace Snowflake

/-- Unless it is poisoned, there is no more to a cell than its kind and its last
identifier. -/
theorem Cell.eq_ofLast {c : Cell} (h : c.isPoisoned = false) : c = .ofLast c.kind c.last := by
  cases c with
  | lockFree last => rfl
  | locked last poisoned =>
      obtain rfl : poisoned = false := h
      rfl

/-- The worker is the same from the first word of a run to the last. -/
theorem Journal.Ascending.worker {first : Flake} {j : Journal} (h : j.Ascending first) :
    j.last.worker = first.worker := by
  obtain ⟨hlater, -⟩ := List.pairwise_cons.mp h.pairwise
  rcases List.mem_cons.mp (List.mem_of_getLast? h.last) with hfirst | hissued
  · rw [hfirst]
  · exact (hlater _ hissued).worker

section

variable {g : Generator} {moves : List (Nat × Move)} {j : Journal}

/-- The fields of the last identifier, and the worker of the generator, make up
the last identifier. -/
theorem ofParts_resumed (hg : g.Built) (hrun : (Journal.start g.cell).run moves = some j) :
    Flake.ofParts j.last.timestamp g.worker.val j.last.sequence = j.last := by
  have hascending := Journal.ascending_run hg.isValid hrun
  have hworker : j.last.worker = g.worker := hascending.worker.trans hg.worker_last
  rw [← hworker]
  exact Flake.ofParts_fields hascending.valid

/-- Take a generator as construction gives it, of either kind, and any run of
any number of callers over it, with any readings, that leaves its lock
unpoisoned if it has one. Then a generator of either kind can be preloaded with
its worker and with the timestamp and the sequence of its last identifier; that
does not panic. Poll both, one poll after another, with the same readings, none
of them a panic.

They give the same answers and have the same last identifier afterwards, and
neither is poisoned. Two of the same kind are the same generator, before and
after. All identifiers that they issue are greater than the one that was last
at the stop, and they ascend. -/
theorem resumed_answers_same (hg : g.Built)
    (hrun : (Journal.start g.cell).run moves = some j)
    (hpoisoned : j.arena.cell.isPoisoned = false) (kind : Kind) :
    ∃ h, Generator.preloaded kind g.worker j.last.timestamp j.last.sequence = .ok h ∧
      h = { g with cell := .ofLast kind j.last } ∧
      ∀ script : List Nat,
        let (expected, original) := { g with cell := j.arena.cell }.pollAll (script.map .millis)
        let (answers, resumed) := h.pollAll (script.map .millis)
        answers = expected ∧
        original = { g with cell := .ofLast j.arena.cell.kind original.cell.last } ∧
        resumed = { g with cell := .ofLast kind original.cell.last } ∧
        (∀ id ∈ answers.filterMap issued?, j.last < id) ∧
        (answers.filterMap issued?).Pairwise (· < ·) := by
  have hword := ofParts_resumed hg hrun
  have hvalid := (Journal.ascending_run hg.isValid hrun).valid
  have hcell : j.arena.cell = .ofLast j.arena.cell.kind j.last := Cell.eq_ofLast hpoisoned
  let k : Mark := ⟨g.worker, j.last.timestamp, j.last.sequence⟩
  have hpacked : k.packed = j.last := hword
  have hfits : k.Fits := ⟨j.last.timestamp_le, j.last.sequence_le⟩
  refine ⟨_, Generator.preloaded_eq_ok_iff.mpr ⟨hfits.timestamp_le, hfits.sequence_le, rfl⟩, ?_, ?_⟩
  · rw [hword]
  · intro script
    -- Both follow the algorithm from the same fields on.
    have hpolls : ∀ kind : Kind,
        Generator.pollAll { g with cell := .ofLast kind j.last } (script.map .millis)
          = ((k.pollAll script).1,
              { g with cell := .ofLast kind (k.pollAll script).2.packed }) := by
      intro kind
      have hall := Generator.pollAll_eq kind script hfits
      rw [hpacked] at hall
      exact hall
    have hissues := Generator.pollAll_issues { g with cell := .ofLast kind j.last }
      (script.map .millis)
    rw [hpolls kind, Cell.last_ofLast] at hissues
    rw [hcell, hword]
    simp only [hpolls, Cell.last_ofLast, Cell.kind_ofLast]
    exact ⟨trivial, trivial, trivial, fun id hid => (hissues.later hvalid id hid).lt,
      hissues.pairwise⟩

end

/-- The lock-free generator of `lostSwap`, resumed as a locked one. The clock
stands still, then falls behind, then goes on. -/
theorem resumed_answers_same_lostSwap :
    ∃ j h, (Journal.start (Generator.new .lockFree ⟨7, by decide⟩).cell).run lostSwap = some j ∧
      Generator.preloaded .locked ⟨7, by decide⟩ j.last.timestamp j.last.sequence = .ok h ∧
      (h.pollAll [.millis 5, .millis 3, .millis 6]).1
        = [.ok (.ready (Flake.ofParts 5 7 2)), .ok (.behind 2),
          .ok (.ready (Flake.ofParts 6 7 0))] ∧
      (Generator.pollAll ⟨⟨7, by decide⟩, j.arena.cell⟩ [.millis 5, .millis 3, .millis 6]).1
        = (h.pollAll [.millis 5, .millis 3, .millis 6]).1 := by
  have hrun : ∃ j,
      (Journal.start (Generator.new .lockFree ⟨7, by decide⟩).cell).run lostSwap = some j ∧
        j.arena.cell = .lockFree (Flake.ofParts 5 7 1) :=
    ⟨_, rfl, by decide⟩
  obtain ⟨j, hj, hcell⟩ := hrun
  have hpoisoned : j.arena.cell.isPoisoned = false := by
    rw [hcell]
    rfl
  obtain ⟨h, hpreloaded, rfl, hpolls⟩ := resumed_answers_same (.new _ _) hj hpoisoned .locked
  obtain ⟨hsame, -⟩ := hpolls [5, 3, 6]
  refine ⟨j, _, hj, hpreloaded, ?_, hsame.symm⟩
  rw [Journal.last_of_cell hcell]
  decide

end Snowflake
