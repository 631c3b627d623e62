import Mathlib.Algebra.Group.Nat.Defs
import Snowflake.Proofs.Succession

/-!
# `Snowflake.Proofs.Stepping`: identifiers stepped by hand

An identifier can be stepped without a generator. `Flake.increment` counts its sequence
number up, and `Flake.rollover` goes to any timestamp, also to an earlier one. Nobody looks
first whether the step fits, so a step may panic, and then the identifier in hand stays.
The first word may be any word, also one with the reserved bit set.

`Gives` is the complete list of what a step gives. A step puts the word together anew from
its fields, and that is why it is sound: what the fields do not hold, the reserved bit, is
lost with the first step that succeeds, and a field that would run over into the one above
it is refused. `stepAll_increments` shows that this happens after exactly as many increments
as the millisecond has room for, and `steps_keep_sound` has the whole list of steps.

An increment of a word with the reserved bit set gives a smaller word. So the statements
that compare words ask for the bit to be clear, and the others do not.
-/

set_option autoImplicit false

namespace Snowflake.Flake

/-- What can be done with an identifier by hand. -/
inductive Step
  /-- Go to the next identifier of the same millisecond. -/
  | increment
  /-- Go to the first identifier of another millisecond. -/
  | rollover (timestamp : Nat)
deriving DecidableEq, Repr

/-- What a step gives. A field that is too wide panics. -/
def step (f : Flake) : Step → Except Field Flake
  | .increment => f.increment
  | .rollover timestamp => f.rollover timestamp

/-- The identifier in hand after a step: a panic leaves the one that was there. -/
def after (f : Flake) : Except Field Flake → Flake
  | .ok next => next
  | .error _ => f

/-- Steps one after another: what each gives, and the identifier in hand at the end. -/
def stepAll (f : Flake) : List Step → List (Except Field Flake) × Flake
  | [] => ([], f)
  | s :: steps =>
    let result := f.step s
    let (results, last) := (f.after result).stepAll steps
    (result :: results, last)

/-- The identifier so many places further on in the same millisecond. -/
def ahead (f : Flake) (places : Nat) : Flake :=
  ofParts f.timestamp f.worker.val (f.sequence + places)

variable {f next : Flake} {s : Step} {result : Except Field Flake}

/-! ### The places of a millisecond -/

/-- The reserved bit is clear at every place. -/
@[simp] theorem isValid_ahead (f : Flake) (places : Nat) : (f.ahead places).isValid = true :=
  isValid_ofParts _ _ _

/-- The timestamp is that of the millisecond at every place. -/
@[simp] theorem timestamp_ahead (f : Flake) (places : Nat) :
    (f.ahead places).timestamp = f.timestamp :=
  timestamp_ofParts_of_le f.timestamp_le _ _

/-- The worker is copied to every place. -/
@[simp] theorem worker_ahead (f : Flake) (places : Nat) : (f.ahead places).worker = f.worker :=
  worker_ofParts_val _ _ _

/-- The sequence number counts the places while there is room. -/
theorem sequence_ahead {places : Nat} (h : f.sequence + places ≤ maxSequence) :
    (f.ahead places).sequence = f.sequence + places :=
  sequence_ofParts_of_le h _ _

/-- Places are counted on from a place. -/
theorem ahead_ahead {places : Nat} (h : f.sequence + places ≤ maxSequence) (more : Nat) :
    (f.ahead places).ahead more = f.ahead (places + more) := by
  show ofParts (f.ahead places).timestamp (f.ahead places).worker.val
    ((f.ahead places).sequence + more) = _
  rw [timestamp_ahead, worker_ahead, sequence_ahead h, Nat.add_assoc]
  rfl

/-- As long as the millisecond has room, the places are counted in the word. -/
theorem toNat_ahead (hf : f.isValid = true) {places : Nat} (h : f.sequence + places ≤ maxSequence) :
    (f.ahead places).raw.toNat = f.raw.toNat + places := by
  rw [toNat_raw (isValid_ahead f places), timestamp_ahead, worker_ahead, sequence_ahead h,
    toNat_raw hf, ← Nat.add_assoc]

/-- The places are counted on from the next one. -/
theorem map_ahead_succ (h : f.sequence + 1 ≤ maxSequence) (places : Nat) :
    (List.range' 1 (places + 1)).map f.ahead
      = f.ahead 1 :: (List.range' 1 places).map (f.ahead 1).ahead := by
  have hrange : List.range' 2 places = (List.range' 1 places).map (1 + ·) :=
    (List.map_add_range' 1 places 1).symm
  rw [List.range'_succ, List.map_cons, hrange, List.map_map]
  exact congrArg _ (List.map_congr_left fun k _ => (ahead_ahead h k).symm)

/-- The last place of a millisecond is the only one without room after it. -/
theorem hasRoom_eq_false_iff : f.hasRoom = false ↔ f.sequence = maxSequence := by
  have hle := f.sequence_le
  rw [hasRoom, decide_eq_false_iff_not]
  omega

/-! ### One step -/

/-- All that a step can give. -/
inductive Gives (f : Flake) : Step → Except Field Flake → Prop
  /-- The next place of the millisecond. -/
  | counted (h : f.sequence < maxSequence) : Gives f .increment (.ok (f.ahead 1))
  /-- The millisecond has no room. -/
  | full (h : f.sequence = maxSequence) : Gives f .increment (.error .sequence)
  /-- The first place of another millisecond. -/
  | rolled {timestamp : Nat} (h : timestamp ≤ maxTimestamp) :
      Gives f (.rollover timestamp) (.ok (ofParts timestamp f.worker.val 0))
  /-- The timestamp has more bits than its field. -/
  | beyond {timestamp : Nat} (h : maxTimestamp < timestamp) :
      Gives f (.rollover timestamp) (.error .timestamp)

/-- A step gives one of these. -/
theorem gives_step (f : Flake) (s : Step) : f.Gives s (f.step s) := by
  cases s with
  | increment =>
      show f.Gives .increment f.increment
      rcases Nat.lt_or_eq_of_le f.sequence_le with hroom | hfull
      · rw [increment_of_room hroom]
        exact .counted hroom
      · rw [increment_of_full hfull]
        exact .full hfull
  | rollover timestamp =>
      show f.Gives (.rollover timestamp) (f.rollover timestamp)
      rcases Nat.lt_or_ge maxTimestamp timestamp with hbeyond | hle
      · rw [rollover_of_lt hbeyond]
        exact .beyond hbeyond
      · rw [rollover_of_le hle]
        exact .rolled hle

/-- A step panics only over the field that it changes. -/
theorem Gives.panics_iff (h : f.Gives s result) {text : String} :
    result.mapError Field.overflowText = .error text ↔
      (s = .increment ∧ f.hasRoom = false ∧ text = "sequence overflow") ∨
      ∃ timestamp, s = .rollover timestamp ∧ 2 ^ 41 ≤ timestamp ∧ text = "timestamp overflow" := by
  rw [hasRoom_eq_false_iff]
  cases h with
  | counted hroom =>
      show Except.ok _ = .error text ↔ _
      simp [Nat.ne_of_lt hroom]
  | full hfull =>
      show Except.error "sequence overflow" = .error text ↔ _
      simp [hfull, eq_comm]
  | @rolled timestamp hle =>
      have hfits : timestamp < 2 ^ 41 := Nat.lt_succ_of_le hle
      show Except.ok _ = .error text ↔ _
      simp only [reduceCtorEq, false_and, false_or, false_iff]
      rintro ⟨_, hrollover, hlarge, -⟩
      cases hrollover
      exact Nat.not_le_of_gt hfits hlarge
  | @beyond timestamp hbeyond =>
      show Except.error "timestamp overflow" = .error text ↔ _
      simp only [Except.error.injEq, reduceCtorEq, false_and, false_or]
      constructor
      · intro htext
        exact ⟨timestamp, rfl, hbeyond, htext.symm⟩
      · rintro ⟨_, -, -, htext⟩
        exact htext.symm

/-- The reserved bit is clear in what a step gives. -/
theorem Gives.isValid (h : f.Gives s (.ok next)) : next.isValid = true := by
  cases h with
  | counted => exact isValid_ahead f 1
  | rolled => exact isValid_ofParts _ _ _

/-- The worker is the same in what a step gives. -/
theorem Gives.worker (h : f.Gives s (.ok next)) : next.worker = f.worker := by
  cases h with
  | counted => exact worker_ahead f 1
  | rolled => exact worker_ofParts_val _ _ _

/-- An increment adds one to the word, unless the reserved bit is lost on the
way. -/
theorem Gives.toNat (h : f.Gives .increment (.ok next)) (hf : f.isValid = true) :
    next.raw.toNat = f.raw.toNat + 1 := by
  cases h with
  | counted hroom => exact toNat_ahead hf hroom

section

variable {timestamp : Nat}

/-- A rollover gives the first place of the millisecond that it names. -/
theorem Gives.fields (h : f.Gives (.rollover timestamp) (.ok next)) :
    next.timestamp = timestamp ∧ next.sequence = 0 := by
  cases h with
  | rolled hle =>
      exact ⟨timestamp_ofParts_of_le hle _ _, sequence_ofParts_of_le (Nat.zero_le _) _ _⟩

/-- A rollover forward gives what a generator would issue. -/
theorem Gives.follows (h : f.Gives (.rollover timestamp) (.ok next))
    (hlater : f.timestamp < timestamp) : f.Follows timestamp next := by
  cases h with
  | rolled hle => exact follows_ofParts hle (Nat.zero_le _) (.inr ⟨hlater, rfl⟩)

end

/-! ### Steps one after another -/

/-- Steps may be taken in two stretches. -/
theorem stepAll_append (f : Flake) (steps more : List Step) :
    f.stepAll (steps ++ more)
      = ((f.stepAll steps).1 ++ ((f.stepAll steps).2.stepAll more).1,
          ((f.stepAll steps).2.stepAll more).2) := by
  induction steps generalizing f with
  | nil => rfl
  | cons s steps ih => simp only [List.cons_append, stepAll, ih]

/-- No step changes the worker. -/
theorem worker_stepAll (f : Flake) (steps : List Step) :
    (f.stepAll steps).2.worker = f.worker := by
  induction steps generalizing f with
  | nil => rfl
  | cons s steps ih =>
      -- The rest of the list starts from what is in hand after the first step,
      -- which has the same worker whether it panicked or not.
      show ((f.after (f.step s)).stepAll steps).2.worker = f.worker
      rw [ih]
      have hgives := gives_step f s
      cases hstep : f.step s with
      | error field => rfl
      | ok next =>
          rw [hstep] at hgives
          exact hgives.worker

/-- The reserved bit is clear as soon as a step has succeeded, and it stays clear. -/
theorem isValid_stepAll_iff (f : Flake) (steps : List Step) :
    (f.stepAll steps).2.isValid = true ↔
      f.isValid = true ∨ ∃ next, .ok next ∈ (f.stepAll steps).1 := by
  induction steps generalizing f with
  | nil => simp [stepAll]
  | cons s steps ih =>
      have hgives := gives_step f s
      show ((f.after (f.step s)).stepAll steps).2.isValid = true ↔
        f.isValid = true ∨ ∃ next, .ok next ∈ f.step s :: ((f.after (f.step s)).stepAll steps).1
      rw [ih]
      cases hstep : f.step s with
      | error field => simp [after]
      | ok next =>
          rw [hstep] at hgives
          have hnext : (f.after (.ok next)).isValid = true := hgives.isValid
          exact iff_of_true (.inl hnext) (.inr ⟨next, List.mem_cons_self⟩)

/-! ### Increments alone -/

/-- The increments succeed one after the other while the millisecond has room, and panic
from then on. -/
theorem stepAll_increments (f : Flake) (n : Nat) :
    (f.stepAll (List.replicate n .increment)).1
      = ((List.range' 1 (min n (maxSequence - f.sequence))).map f.ahead).map .ok
        ++ List.replicate (n - (maxSequence - f.sequence)) (.error .sequence) := by
  induction n generalizing f with
  | zero => simp [stepAll]
  | succ n ih =>
      rw [List.replicate_succ]
      show f.increment :: ((f.after f.increment).stepAll (List.replicate n .increment)).1 = _
      rw [ih]
      rcases Nat.lt_or_eq_of_le f.sequence_le with hroom | hfull
      · -- One place is taken, and the room is one less from there.
        have hplace : f.sequence + 1 ≤ maxSequence := hroom
        have hleft : maxSequence - f.sequence = maxSequence - (f.ahead 1).sequence + 1 := by
          rw [sequence_ahead hplace]
          omega
        rw [increment_of_room hroom, hleft, Nat.succ_min_succ, Nat.succ_sub_succ,
          map_ahead_succ hplace]
        rfl
      · rw [increment_of_full hfull]
        simp [after, hfull, List.replicate_succ]

end Snowflake.Flake

namespace Snowflake

open Flake (Step)

/-- Take any word, and any list of steps, increments and rollovers to any timestamps.

Wherever a step stands in the list, it panics exactly if it is an increment and the
millisecond has no room, or a rollover to a timestamp of more than 41 bits. The report names
that field. The identifier in hand stays as it was then. A step that succeeds gives an
identifier with the reserved bit clear, and the worker is the one of the first word. A
rollover gives the timestamp that it names, with sequence number zero. Hence the reserved
bit is clear in hand exactly if it was at first or a step has succeeded. From there on an
increment adds one to the word, and a rollover to a later timestamp makes it greater.

Of any number of increments, as many succeed as the millisecond has room for, and all those
after them panic. They give the identifiers that follow place by place, which are the words
that follow one by one if the reserved bit is clear. -/
theorem steps_keep_sound (f : Flake) :
    (∀ (taken : List Step) (s : Step),
      let now := (f.stepAll taken).2
      let result := now.step s
      let last := (f.stepAll (taken ++ [s])).2
      (f.stepAll (taken ++ [s])).1 = (f.stepAll taken).1 ++ [result] ∧
      (∀ text, result.mapError Field.overflowText = .error text ↔
        (s = .increment ∧ now.hasRoom = false ∧ text = "sequence overflow") ∨
        ∃ t, s = .rollover t ∧ 2 ^ 41 ≤ t ∧ text = "timestamp overflow") ∧
      (∀ field, result = .error field → last = now) ∧
      (∀ next, result = .ok next → last = next ∧ next.isValid = true ∧ next.worker = now.worker ∧
        (∀ t, s = .rollover t → next.timestamp = t ∧ next.sequence = 0) ∧
        (now.isValid = true →
          (s = .increment → next.raw.toNat = now.raw.toNat + 1) ∧
          (∀ t, s = .rollover t → now.timestamp < t → now < next))) ∧
      now.worker = f.worker ∧
      (now.isValid = true ↔ f.isValid = true ∨ ∃ next, .ok next ∈ (f.stepAll taken).1)) ∧
    (∀ n, (f.stepAll (List.replicate n .increment)).1
      = ((List.range' 1 (min n (4095 - f.sequence))).map f.ahead).map .ok
        ++ List.replicate (n - (4095 - f.sequence)) (.error .sequence)) ∧
    (f.isValid = true → ∀ places ≤ 4095 - f.sequence,
      (f.ahead places).raw.toNat = f.raw.toNat + places) := by
  refine ⟨?anywhere, f.stepAll_increments, ?counted⟩
  case anywhere =>
    intro taken s now result last
    have hgives : now.Gives s result := Flake.gives_step now s
    -- The step is the last of a longer list, so it starts from what is in hand
    -- by then.
    have hstep : f.stepAll (taken ++ [s]) = ((f.stepAll taken).1 ++ [result], now.after result) :=
      Flake.stepAll_append f taken [s]
    have hlast : last = now.after result := congrArg Prod.snd hstep
    refine ⟨congrArg Prod.fst hstep, fun text => hgives.panics_iff, ?kept, ?given,
      Flake.worker_stepAll f taken, Flake.isValid_stepAll_iff f taken⟩
    case kept =>
      intro field hresult
      rw [hlast, hresult]
      rfl
    case given =>
      intro next hresult
      rw [hresult] at hgives hlast
      refine ⟨hlast, hgives.isValid, hgives.worker, ?_, fun hnow => ⟨?_, ?_⟩⟩
      · rintro t rfl
        exact hgives.fields
      · rintro rfl
        exact hgives.toNat hnow
      · rintro t rfl hlater
        exact (hgives.follows hlater).lt hnow
  case counted =>
    intro hf places hplaces
    have hle : f.sequence ≤ 4095 := f.sequence_le
    have hfits : f.sequence + places ≤ 4095 := by omega
    exact Flake.toNat_ahead hf hfits

/-- The last two places of a millisecond, a panic, and a rollover to the next millisecond. -/
theorem steps_keep_sound_lastPlaces :
    let f := Flake.ofParts 10 3 4093
    let first := (f.stepAll [.increment]).2
    let full := (f.stepAll [.increment, .increment]).2
    let rolled := Flake.ofParts 11 3 0
    f.isValid = true ∧ (f.ahead 2).raw.toNat = f.raw.toNat + 2 ∧
      first.isValid = true ∧ full.raw.toNat = first.raw.toNat + 1 ∧
      full.step .increment = .error .sequence ∧
      (f.stepAll [.increment, .increment, .increment]).2 = full ∧
      full.isValid = true ∧ full.step (.rollover 11) = .ok rolled ∧ full.timestamp < 11 ∧
      full < rolled := by
  intro f first full rolled
  have hf : f.isValid = true := Flake.isValid_ofParts 10 3 4093
  obtain ⟨hsteps, -, hcounted⟩ := steps_keep_sound f
  -- The second increment takes the last place.
  obtain ⟨-, -, -, hsecond, -, hfirstValid⟩ := hsteps [.increment] .increment
  have hroom : first.sequence < Flake.maxSequence := by decide
  obtain ⟨hfull, -, -, -, hplaces⟩ := hsecond _ (Flake.increment_of_room hroom)
  have hfirst : first.isValid = true := hfirstValid.mpr (.inl hf)
  have hplace : full.raw.toNat = first.raw.toNat + 1 := by
    have hnext := (hplaces hfirst).1 rfl
    rw [← hfull] at hnext
    exact hnext
  -- The third one panics.
  obtain ⟨-, -, hkept, -⟩ := hsteps [.increment, .increment] .increment
  have hsequence : full.sequence = Flake.maxSequence := by decide
  have hpanics : full.step .increment = .error .sequence := Flake.increment_of_full hsequence
  -- The next millisecond has room again.
  obtain ⟨-, -, -, hgiven, -, hfullValid⟩ := hsteps [.increment, .increment] (.rollover 11)
  have hworker : full.worker.val = 3 := by decide
  have hsucceeds : full.step (.rollover 11) = .ok rolled := by
    show full.rollover 11 = .ok rolled
    rw [Flake.rollover_of_le (by decide), hworker]
  have hlater : full.timestamp < 11 := by decide
  have hvalid : full.isValid = true := hfullValid.mpr (.inl hf)
  obtain ⟨-, -, -, -, hwords⟩ := hgiven rolled hsucceeds
  exact ⟨hf, hcounted hf 2 (by decide), hfirst, hplace, hpanics, hkept _ hpanics, hvalid,
    hsucceeds, hlater, (hwords hvalid).2 11 rfl hlater⟩

/-- A word with the reserved bit set stays until a step succeeds, and then loses the bit. -/
example : (Flake.mk 0x8000000002803FFD).stepAll [.rollover (2 ^ 41), .increment]
    = ([.error .timestamp, .ok ⟨0x2803FFE⟩], ⟨0x2803FFE⟩) := rfl

end Snowflake
