import Snowflake.Proofs.Contention.Ascent

/-!
# `Snowflake.Proofs.Fleet`: many generators side by side

A fleet is a family of generators, each with its callers. In a run of the fleet
any caller of any generator may take the next step, with any reading.
`Fleet.run_of` shows that the generators do not disturb each other: the steps
that concern one of them are a run of its own.

`fleet_issued_nodup` is the reason to give each generator a worker number of
its own. Nothing writes that number into an identifier when it is issued. It is
in the first word, and each identifier copies it from the one before
(`Flake.Later.worker`). So identifiers of two generators differ in it, and
those of one generator ascend.
-/

set_option autoImplicit false

namespace Snowflake

namespace Fleet

variable {ι : Type} [DecidableEq ι]

/-- What concerns one generator. -/
def of {α : Type} (i : ι) (entries : List (ι × α)) : List α :=
  entries.filterMap fun p => if p.1 = i then some p.2 else none

/-- An entry of the generator comes first. -/
theorem of_cons_self {α : Type} (i : ι) (x : α) (entries : List (ι × α)) :
    of i ((i, x) :: entries) = x :: of i entries := by
  simp [of]

/-- An entry of another generator is left out. -/
theorem of_cons_of_ne {α : Type} {i k : ι} (h : k ≠ i) (x : α) (entries : List (ι × α)) :
    of i ((k, x) :: entries) = of i entries := by
  simp [of, h]

/-- What concerns a generator are its entries. -/
theorem mem_of {α : Type} {i : ι} {x : α} {entries : List (ι × α)} :
    x ∈ of i entries ↔ (i, x) ∈ entries := by
  simp [of]

/-- Entries of one generator do not repeat, and no entry of one is an entry of
another. Then none repeats at all. -/
theorem nodup_of_nodup {α : Type} {entries : List (ι × α)}
    (hown : ∀ i, (of i entries).Nodup)
    (hother : ∀ p ∈ entries, ∀ q ∈ entries, p.2 = q.2 → p.1 = q.1) :
    (entries.map Prod.snd).Nodup := by
  induction entries with
  | nil => exact .nil
  | cons head entries ih =>
      obtain ⟨i, x⟩ := head
      rw [List.map_cons, List.nodup_cons]
      refine ⟨?_, ih ?_ ?_⟩
      · intro hmem
        obtain ⟨⟨k, y⟩, hrest, rfl⟩ := List.mem_map.mp hmem
        -- The same entry again would be of the same generator, whose own do
        -- not repeat.
        have hsame : i = k := hother (i, y) (.head _) (k, y) (.tail _ hrest) rfl
        subst hsame
        have hnodup := hown i
        rw [of_cons_self] at hnodup
        exact (List.nodup_cons.mp hnodup).1 (mem_of.mpr hrest)
      · intro k
        by_cases hk : i = k
        · subst hk
          have hnodup := hown i
          rw [of_cons_self] at hnodup
          exact (List.nodup_cons.mp hnodup).2
        · rw [← of_cons_of_ne hk x]
          exact hown k
      · intro p hp q hq
        exact hother p (.tail _ hp) q (.tail _ hq)

/-- One step of a caller of one generator. The others stand still. -/
def step (fleet : ι → Arena) (i : ι) (caller : Nat) (m : Move) :
    Option ((ι → Arena) × Option PollResult) :=
  ((fleet i).step caller m).map fun p => (Function.update fleet i p.1, p.2)

/-- A run: the steps of all callers of all generators in the order in which
they happen. The answer holds the results of the polls that end in it, each
with its generator and its caller. -/
def run (fleet : ι → Arena) :
    List (ι × Nat × Move) → Option ((ι → Arena) × List (ι × Nat × PollResult))
  | [] => some (fleet, [])
  | (i, caller, m) :: moves => do
    let (fleet, result) ← step fleet i caller m
    let (fleet, results) ← run fleet moves
    return (fleet, (result.map fun r => (i, caller, r)).toList ++ results)

/-- The identifiers that the polls returned, each with its generator. -/
def issued (results : List (ι × Nat × PollResult)) : List (ι × Flake) :=
  results.filterMap fun p => (issued? p.2.2).map fun id => (p.1, id)

/-- The identifiers of a generator are those that its own polls returned. -/
theorem of_issued (i : ι) (results : List (ι × Nat × PollResult)) :
    of i (issued results) = (of i results).filterMap fun p => issued? p.2 := by
  induction results with
  | nil => rfl
  | cons head results ih =>
      obtain ⟨k, caller, r⟩ := head
      have hcons : issued ((k, caller, r) :: results)
          = ((issued? r).map fun id => (k, id)).toList ++ issued results := by
        cases hr : issued? r <;> simp [issued, hr]
      rw [hcons]
      by_cases hk : k = i
      · subst hk
        rw [of_cons_self]
        cases hr : issued? r with
        | none => simpa [hr] using ih
        | some id => simpa [hr, of_cons_self] using ih
      · rw [of_cons_of_ne hk]
        cases issued? r with
        | none => exact ih
        | some id => exact (of_cons_of_ne hk id _).trans ih

/-- The steps that concern one generator are a run of its own, with its own
results. -/
theorem run_of {fleet last : ι → Arena} {moves : List (ι × Nat × Move)}
    {results : List (ι × Nat × PollResult)} (h : run fleet moves = some (last, results)) (i : ι) :
    (fleet i).run (of i moves) = some (last i, of i results) := by
  induction moves generalizing fleet results with
  | nil =>
      cases h
      rfl
  | cons head moves ih =>
      obtain ⟨k, caller, m⟩ := head
      obtain ⟨next, hstep, hrest⟩ := Option.bind_eq_some_iff.mp h
      obtain ⟨⟨a, result⟩, hown, rfl⟩ := Option.map_eq_some_iff.mp hstep
      obtain ⟨⟨finish, rest⟩, hrun, heq⟩ := Option.bind_eq_some_iff.mp hrest
      cases heq
      have hafter := ih hrun
      by_cases hk : k = i
      · subst hk
        rw [Function.update_self] at hafter
        rw [of_cons_self]
        simp only [Arena.run, hown, Option.bind_eq_bind, Option.bind_some, hafter]
        cases result with
        | none => rfl
        | some r => exact congrArg (fun l => some (last k, l)) (of_cons_self ..).symm
      · -- A step of another generator leaves this one where it stands.
        rw [Function.update_of_ne (Ne.symm hk)] at hafter
        rw [of_cons_of_ne hk, hafter]
        cases result with
        | none => rfl
        | some r => exact congrArg (fun l => some (last i, l)) (of_cons_of_ne hk ..).symm

/-- The identifiers of one generator of the fleet do not repeat, and all come
after its first word. -/
theorem issued_later {gens : ι → Generator} (hgens : ∀ i, (gens i).Built)
    {moves : List (ι × Nat × Move)} {last : ι → Arena} {results : List (ι × Nat × PollResult)}
    (hrun : run (fun i => .ofCell (gens i).cell) moves = some (last, results)) (i : ι) :
    (of i (issued results)).Nodup ∧
      ∀ id ∈ of i (issued results), (gens i).cell.last.Later id := by
  -- The generator's own run has a journal, and its identifiers ascend.
  obtain ⟨j, hj, -, hresults⟩ := Journal.exists_run (run_of hrun i)
  have hissued : of i (issued results) = j.issued := by
    rw [of_issued, j.issued_eq, hresults]
  obtain ⟨hfirst, hpairwise⟩ :=
    List.pairwise_cons.mp (Journal.ascending_run (hgens i).isValid hj).pairwise
  rw [hissued]
  exact ⟨hpairwise.imp fun hlater => Flake.ne_of_lt hlater.lt, hfirst⟩

end Fleet

/-- Take a family of generators as construction gives them, each of either kind
and with a worker number of its own. In every run of all of them, by any
callers and with any readings, no identifier is issued twice, by one generator
or by two. Each has the reserved bit clear, is no negative number when read as
a signed one, and names the worker of the generator that issued it. -/
theorem fleet_issued_nodup {ι : Type} [DecidableEq ι] {gens : ι → Generator}
    (hgens : ∀ i, (gens i).Built) (hworkers : ∀ i k, (gens i).worker = (gens k).worker → i = k)
    {moves : List (ι × Nat × Move)} {last : ι → Arena} {results : List (ι × Nat × PollResult)}
    (hrun : Fleet.run (fun i => .ofCell (gens i).cell) moves = some (last, results)) :
    ((Fleet.issued results).map Prod.snd).Nodup ∧
    ∀ i id, (i, id) ∈ Fleet.issued results →
      id.isValid = true ∧ 0 ≤ id.toInt64 ∧ id.worker = (gens i).worker := by
  have hlater : ∀ i id, (i, id) ∈ Fleet.issued results → (gens i).cell.last.Later id :=
    fun i id hmem => (Fleet.issued_later hgens hrun i).2 id (Fleet.mem_of.mpr hmem)
  have hworker : ∀ i id, (i, id) ∈ Fleet.issued results → id.worker = (gens i).worker :=
    fun i id hmem => (hlater i id hmem).worker.trans (hgens i).worker_last
  refine ⟨Fleet.nodup_of_nodup (fun i => (Fleet.issued_later hgens hrun i).1) ?_, ?_⟩
  · rintro ⟨i, id⟩ hi ⟨k, _⟩ hk rfl
    exact hworkers i k ((hworker i id hi).symm.trans (hworker k id hk))
  · intro i id hmem
    have hvalid := (hlater i id hmem).isValid
    refine ⟨hvalid, ?_, hworker i id hmem⟩
    rw [Int64.le_iff_toInt_le, Flake.toInt_toInt64 hvalid]
    exact Int.natCast_nonneg _

/-- Two generators, one of each kind. -/
def Fleet.mixed : Bool → Generator
  | false => .new .lockFree ⟨1, by decide⟩
  | true => .new .locked ⟨2, by decide⟩

/-- The locked one issues in the middle of a poll of the other, at the same
reading. -/
def sideBySide : List (Bool × Nat × Move) :=
  [(false, 0, .load), (true, 0, .critical (.millis 5)), (false, 0, .read (.millis 5)),
    (false, 0, .swap false), (true, 3, .critical (.millis 5))]

/-- Three identifiers at one reading, and all are different. -/
theorem fleet_issued_nodup_sideBySide :
    ∃ last results,
      Fleet.run (fun b => .ofCell (Fleet.mixed b).cell) sideBySide = some (last, results) ∧
      Fleet.issued results = [(true, Flake.ofParts 5 2 0), (false, Flake.ofParts 5 1 0),
        (true, Flake.ofParts 5 2 1)] ∧
      ((Fleet.issued results).map Prod.snd).Nodup := by
  have hrun : ∃ last results,
      Fleet.run (fun b => .ofCell (Fleet.mixed b).cell) sideBySide = some (last, results) ∧
        Fleet.issued results = [(true, Flake.ofParts 5 2 0), (false, Flake.ofParts 5 1 0),
          (true, Flake.ofParts 5 2 1)] :=
    ⟨_, _, rfl, by decide⟩
  have hbuilt : ∀ b, (Fleet.mixed b).Built := by
    intro b
    cases b with
    | false => exact .new _ _
    | true => exact .new _ _
  obtain ⟨last, results, hresult, hissued⟩ := hrun
  exact ⟨last, results, hresult, hissued, (fleet_issued_nodup hbuilt (by decide) hresult).1⟩

end Snowflake
