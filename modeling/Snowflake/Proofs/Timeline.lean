import Mathlib.Algebra.GroupWithZero.Nat
import Mathlib.Data.List.Infix
import Snowflake.Proofs.Watched

/-!
# `Snowflake.Proofs.Timeline`: how time passes in an onlooker's notes

A call looks at the stopwatch and sleeps. `Deed.timeline` puts the two side by
side: for each look, the time that the stopwatch shows since the first one, and
the time slept up to there. `Deed.Paced` says that a sleep takes its time: from
one look to the next the stopwatch goes on by what was slept in between, at
least.

`Deed.Paced.asleep_le` is what bounds the sleeps of a call. When each of them
ends within some bound, counted from the look before it, their sum is within
the bound. It is enough to look at the last sleep, because the ones before it
are contained in the time that the stopwatch shows then.
-/

set_option autoImplicit false

namespace Snowflake

deriving instance DecidableEq for Deed

namespace Deed

/-! ### Polls, looks and sleeps -/

/-- The results of polls, in order. -/
def polls (deeds : List Deed) : List PollResult :=
  deeds.filterMap fun
    | polled r => some r
    | _ => none

/-- What the stopwatch showed, in order. -/
def looks (deeds : List Deed) : List Instant :=
  deeds.filterMap fun
    | looked t => some t
    | _ => none

/-- The sleeps, in order. -/
def sleeps (deeds : List Deed) : List Duration :=
  deeds.filterMap fun
    | slept d => some d
    | _ => none

/-- The polls of two lists of notes are those of the one and then those of the
other. -/
@[simp] theorem polls_append (ds es : List Deed) : polls (ds ++ es) = polls ds ++ polls es :=
  List.filterMap_append ..

/-- The looks at the stopwatch in two lists of notes are those of the one and
then those of the other. -/
@[simp] theorem looks_append (ds es : List Deed) : looks (ds ++ es) = looks ds ++ looks es :=
  List.filterMap_append ..

/-- The sleeps of two lists of notes are those of the one and then those of the
other. -/
@[simp] theorem sleeps_append (ds es : List Deed) : sleeps (ds ++ es) = sleeps ds ++ sleeps es :=
  List.filterMap_append ..

/-- The time from the first look at the stopwatch to the last one. -/
def waited (deeds : List Deed) : Duration :=
  match (looks deeds).head?, (looks deeds).getLast? with
  | some start, some now => now.since start
  | _, _ => ⟨0⟩

/-- The time slept in all. -/
def asleep (deeds : List Deed) : Duration := ⟨((sleeps deeds).map Duration.nanos).sum⟩

/-- The last thing that happened is a look at the stopwatch. -/
def JustLooked (deeds : List Deed) : Prop := ∃ now, deeds.getLast? = some (looked now)

/-- After a look the last thing was a look. -/
theorem justLooked_snoc (ds : List Deed) (t : Instant) : JustLooked (ds ++ [looked t]) :=
  ⟨t, List.getLast?_concat⟩

/-- A look shows the time since the first one. -/
theorem waited_snoc_looked {ds : List Deed} {start : Instant} (h : (looks ds).head? = some start)
    (t : Instant) : waited (ds ++ [looked t]) = t.since start := by
  have hhead : (looks ds ++ [t]).head? = some start := by simp [h]
  show (match (looks (ds ++ [looked t])).head?, (looks (ds ++ [looked t])).getLast? with
    | some start, some now => now.since start
    | _, _ => ⟨0⟩) = t.since start
  rw [looks_append, show looks [looked t] = [t] from rfl, hhead, List.getLast?_concat]

/-- The first look is a look at time zero. -/
theorem waited_first_look {ds : List Deed} (h : looks ds = []) (t : Instant) :
    waited (ds ++ [looked t]) = ⟨0⟩ := by
  simp [waited, h, show looks [looked t] = [t] from rfl, Instant.since]

/-- Times slept add up. -/
@[simp] theorem asleep_append (ds es : List Deed) : asleep (ds ++ es) = asleep ds + asleep es := by
  simp only [asleep, sleeps_append, List.map_append, List.sum_append]
  rfl

/-- One sleep is all that was slept. -/
theorem asleep_singleton (d : Duration) : asleep [slept d] = d := by
  show Duration.mk ([d.nanos].sum) = d
  simp

/-- Without a sleep nothing was slept. -/
theorem asleep_of_no_sleep {ds : List Deed} (h : sleeps ds = []) : asleep ds = ⟨0⟩ := by
  simp [asleep, h]

/-! ### Moments -/

section

variable {α : Type}

/-- What is read off the notes as they were at each moment, in order. -/
def moments (f : List Deed → Option α) (deeds : List Deed) : List α := deeds.inits.filterMap f

/-- One more thing in the notes is one more moment. -/
theorem moments_snoc (f : List Deed → Option α) (ds : List Deed) (x : Deed) :
    moments f (ds ++ [x]) = moments f ds ++ (f (ds ++ [x])).toList := by
  have hinits : (ds ++ [x]).inits = ds.inits ++ [ds ++ [x]] := by simp [List.inits_append]
  rw [moments, hinits, List.filterMap_append]
  cases hx : f (ds ++ [x]) with
  | none => rw [List.filterMap_cons_none hx]; rfl
  | some a => rw [List.filterMap_cons_some hx]; rfl

/-- What is read off at a moment is read off what stands before it. -/
theorem mem_moments {f : List Deed → Option α} {a : α} {deeds : List Deed} :
    a ∈ moments f deeds ↔ ∃ before after, deeds = before ++ after ∧ f before = some a := by
  simp only [moments, List.mem_filterMap, List.mem_inits]
  constructor
  · rintro ⟨before, ⟨after, rfl⟩, ha⟩
    exact ⟨before, after, rfl, ha⟩
  · rintro ⟨before, after, rfl, ha⟩
    exact ⟨before, List.prefix_append before after, ha⟩

end

/-- A sleep that has just ended, with what stands before it. -/
def sleep? (deeds : List Deed) : Option (List Deed × Duration) :=
  match deeds.getLast? with
  | some (slept d) => some (deeds.dropLast, d)
  | _ => none

/-- Each sleep, with what stands before it. -/
def sleepsAt (deeds : List Deed) : List (List Deed × Duration) := moments sleep? deeds

/-- A sleep has just ended exactly if it is the last thing in the notes. -/
theorem sleep?_eq_some_iff {deeds before : List Deed} {d : Duration} :
    sleep? deeds = some (before, d) ↔ deeds = before ++ [slept d] := by
  constructor
  · intro h
    unfold sleep? at h
    split at h
    · rename_i e hlast
      cases h
      exact (List.dropLast_append_getLast? _ hlast).symm
    · cases h
  · rintro rfl
    simp [sleep?]

/-- A sleep stands somewhere in the notes, behind what was before it. -/
theorem mem_sleepsAt {deeds before : List Deed} {d : Duration} :
    (before, d) ∈ sleepsAt deeds ↔ ∃ rest, deeds = before ++ slept d :: rest := by
  simp only [sleepsAt, mem_moments, sleep?_eq_some_iff]
  constructor
  · rintro ⟨_, rest, rfl, rfl⟩
    exact ⟨rest, (List.append_cons ..).symm⟩
  · rintro ⟨rest, rfl⟩
    exact ⟨_, rest, List.append_cons .., rfl⟩

/-- The sleeps with one more thing in the notes. -/
theorem mem_sleepsAt_snoc {ds before : List Deed} {x : Deed} {d : Duration} :
    (before, d) ∈ sleepsAt (ds ++ [x]) ↔ (before, d) ∈ sleepsAt ds ∨ before = ds ∧ x = slept d := by
  -- At the last moment a sleep is seen exactly if it is the one thing more.
  have hlast : sleep? (ds ++ [x]) = some (before, d) ↔ before = ds ∧ x = slept d := by
    rw [sleep?_eq_some_iff]
    constructor
    · intro h
      obtain ⟨hds, hx⟩ := List.append_inj' h rfl
      exact ⟨hds.symm, (List.cons.inj hx).1⟩
    · rintro ⟨rfl, rfl⟩
      rfl
  rw [sleepsAt, moments_snoc, List.mem_append, Option.mem_toList, hlast]
  rfl

/-- The last sleep, if there is one, adds its length to what was slept before
it. -/
theorem exists_last_sleep {ds : List Deed} (h : sleeps ds ≠ []) :
    ∃ before d, (before, d) ∈ sleepsAt ds ∧ asleep ds = asleep before + d := by
  induction ds using List.reverseRecOn with
  | nil => exact absurd rfl h
  | append_singleton ds x ih =>
      by_cases hx : sleeps [x] = []
      · rw [sleeps_append, hx, List.append_nil] at h
        -- The last sleep is among the earlier notes.
        obtain ⟨before, d, hmem, hsum⟩ := ih h
        refine ⟨before, d, mem_sleepsAt_snoc.mpr (.inl hmem), ?_⟩
        rw [asleep_append, asleep_of_no_sleep hx, hsum]
        rfl
      · cases x with
        | slept d =>
            refine ⟨ds, d, mem_sleepsAt_snoc.mpr (.inr ⟨rfl, rfl⟩), ?_⟩
            rw [asleep_append, asleep_singleton]
        | took | polled | looked | yielded | called | wrote => exact absurd rfl hx

/-! ### The timeline -/

/-- At a look at the stopwatch: the time since the first look, and the time
slept so far. -/
def mark? (deeds : List Deed) : Option (Duration × Duration) :=
  match deeds.getLast? with
  | some (looked _) => some (waited deeds, asleep deeds)
  | _ => none

/-- The marks of all looks, in order. -/
def timeline (deeds : List Deed) : List (Duration × Duration) := moments mark? deeds

/-- From one mark to a later one, at least the time passes that is slept in
between. The times slept are on the other side of the sums. -/
def InPace (a b : Duration × Duration) : Prop := a.1 + b.2 ≤ b.1 + a.2

instance : DecidableRel InPace := fun a b => inferInstanceAs (Decidable (a.1 + b.2 ≤ b.1 + a.2))

instance : Trans InPace InPace InPace where
  trans {a b c} hab hbc := by
    simp only [InPace, Duration.le_iff, Duration.nanos_add] at hab hbc ⊢
    omega

/-- From one look at the stopwatch to the next, at least the time passes that
was slept in between. -/
def Paced (deeds : List Deed) : Prop := (timeline deeds).IsChain InPace

instance (deeds : List Deed) : Decidable (Paced deeds) :=
  inferInstanceAs (Decidable (List.IsChain _ _))

/-- At a look there is a mark, with the time waited and the time slept. -/
theorem mark?_of_justLooked {before : List Deed} (h : JustLooked before) :
    mark? before = some (waited before, asleep before) := by
  obtain ⟨now, hnow⟩ := h
  simp only [mark?, hnow]

/-- A look anywhere in the notes has its mark in the timeline. -/
theorem mark_mem_timeline {before after : List Deed} (h : JustLooked before) :
    (waited before, asleep before) ∈ timeline (before ++ after) :=
  mem_moments.mpr ⟨before, after, rfl, mark?_of_justLooked h⟩

/-- The timeline starts at zero: the first look is the start, and nothing is
slept before it. -/
def FromZero (deeds : List Deed) : Prop := ∀ m ∈ (timeline deeds).head?, m = (⟨0⟩, ⟨0⟩)

/-- The timeline is empty as long as nobody looks. -/
theorem timeline_eq_nil_iff {ds : List Deed} : timeline ds = [] ↔ looks ds = [] := by
  induction ds using List.reverseRecOn with
  | nil => exact iff_of_true rfl rfl
  | append_singleton ds x ih =>
      -- The one thing more adds a mark exactly if it is a look.
      have hx : (mark? (ds ++ [x])).toList = [] ↔ looks [x] = [] := by
        cases x <;> simp [mark?, looks]
      rw [timeline, moments_snoc, ← timeline, looks_append, List.append_eq_nil_iff,
        List.append_eq_nil_iff, ih, hx]

/-- What is no look adds no mark. -/
theorem FromZero.snoc {ds : List Deed} (h : FromZero ds) {x : Deed} (hx : looks [x] = []) :
    FromZero (ds ++ [x]) := by
  have hmark : mark? (ds ++ [x]) = none := by
    cases x with
    | looked t => cases hx
    | took | polled | yielded | slept | called | wrote => simp [mark?]
  unfold FromZero timeline at h ⊢
  rw [moments_snoc, hmark]
  simpa using h

/-- A look keeps it, if nothing was slept before the first one. -/
theorem FromZero.snoc_looked {ds : List Deed} (h : FromZero ds)
    (hfresh : looks ds = [] → sleeps ds = []) (t : Instant) : FromZero (ds ++ [looked t]) := by
  unfold FromZero at h ⊢
  rw [timeline, moments_snoc, ← timeline, mark?_of_justLooked (justLooked_snoc ds t)]
  cases htimeline : timeline ds with
  | nil =>
      -- This look is the first one.
      have hlooks := timeline_eq_nil_iff.mp htimeline
      have hsleeps : sleeps (ds ++ [looked t]) = [] := by
        rw [sleeps_append, hfresh hlooks]
        rfl
      rw [waited_first_look hlooks, asleep_of_no_sleep hsleeps]
      rintro m ⟨⟩
      rfl
  | cons first rest =>
      rw [htimeline] at h
      exact h

/-- At each look the stopwatch shows at least the time slept so far. -/
theorem Paced.asleep_le_waited {before after : List Deed} (hpaced : Paced (before ++ after))
    (hzero : FromZero (before ++ after)) (hlooked : JustLooked before) :
    asleep before ≤ waited before := by
  have hmem : (waited before, asleep before) ∈ timeline (before ++ after) :=
    mark_mem_timeline hlooked
  unfold Paced at hpaced
  unfold FromZero at hzero
  cases htimeline : timeline (before ++ after) with
  | nil =>
      rw [htimeline] at hmem
      cases hmem
  | cons first rest =>
      rw [htimeline] at hpaced hzero hmem
      obtain rfl : first = (⟨0⟩, ⟨0⟩) := hzero first rfl
      -- The relation of neighbours is transitive, so it reaches back to the start.
      rcases List.mem_cons.mp hmem with hfirst | hrest
      · rw [Prod.mk.injEq] at hfirst
        rw [hfirst.1, hfirst.2]
        exact Nat.le_refl 0
      · have hstep := List.rel_of_pairwise_cons (List.isChain_iff_pairwise.mp hpaced) hrest
        simp only [InPace, Duration.le_iff, Duration.nanos_add] at hstep ⊢
        omega

/-- Sleeps that each end within a bound, counted from the look before them, are
within it together. -/
theorem Paced.asleep_le {deeds : List Deed} (hpaced : Paced deeds) (hzero : FromZero deeds)
    {bound : Duration} (heach : ∀ before d, (before, d) ∈ sleepsAt deeds →
      JustLooked before ∧ waited before + d ≤ bound) : asleep deeds ≤ bound := by
  by_cases hsleeps : sleeps deeds = []
  · rw [asleep_of_no_sleep hsleeps]
    exact Nat.zero_le _
  · obtain ⟨before, d, hmem, hsum⟩ := exists_last_sleep hsleeps
    obtain ⟨hlooked, hbound⟩ := heach before d hmem
    obtain ⟨rest, rfl⟩ := mem_sleepsAt.mp hmem
    -- What was slept before the last sleep fits into the time shown at its start.
    have hcontained := hpaced.asleep_le_waited hzero hlooked
    rw [hsum]
    simp only [Duration.le_iff, Duration.nanos_add] at hcontained hbound ⊢
    omega

end Deed

end Snowflake
