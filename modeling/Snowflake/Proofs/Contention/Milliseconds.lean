import Snowflake.Proofs.Contention.Answers

/-!
# `Snowflake.Proofs.Contention.Milliseconds`: no gap in a millisecond

The identifiers of a run follow one another (`Journal.Ascending`): each has the
next sequence number of the same millisecond, or the number zero in a later
one. So those of one millisecond stand together, and their sequence numbers
count up by one. They start at zero, or after the preloaded number in the
preloaded millisecond, which `Flake.nextSequence` names. And they end at the
largest number at the latest.

`Flake.sequencesAt_eq_range'` is this argument, by induction on the chain.
`issued_consecutive` is what it says of a run, together with the origin of the
timestamps: each is the last reading of the poll that issued the identifier.
-/

set_option autoImplicit false

namespace Snowflake

namespace Flake

/-- `next` follows `last`, at its own timestamp. -/
def Succeeds (last next : Flake) : Prop := last.Follows next.timestamp next

/-- What follows at a reading has the reading for its timestamp. -/
theorem Follows.succeeds {last next : Flake} {now : Nat} (h : last.Follows now next) :
    last.Succeeds next := by
  unfold Succeeds
  rw [h.timestamp]
  exact h

/-- Timestamps never go back along the chain. -/
theorem Succeeds.timestamp_le {last next : Flake} (h : last.Succeeds next) :
    last.timestamp ≤ next.timestamp := by
  rcases h.sequence with ⟨heq, -⟩ | ⟨hlt, -⟩
  · exact Nat.le_of_eq heq.symm
  · exact Nat.le_of_lt hlt

/-- The sequence numbers of the identifiers that have a timestamp. -/
def sequencesAt (timestamp : Nat) (ids : List Flake) : List Nat :=
  (ids.filter fun id => id.timestamp = timestamp).map sequence

/-- The sequence number of the next identifier after `last` in a
millisecond. -/
def nextSequence (last : Flake) (timestamp : Nat) : Nat :=
  if timestamp = last.timestamp then last.sequence + 1 else 0

/-- In its own millisecond an identifier is followed by the next number. -/
theorem nextSequence_self (last : Flake) : last.nextSequence last.timestamp = last.sequence + 1 :=
  if_pos rfl

/-- Every other millisecond begins with the number zero. -/
theorem nextSequence_of_ne {last : Flake} {timestamp : Nat} (h : timestamp ≠ last.timestamp) :
    last.nextSequence timestamp = 0 :=
  if_neg h

/-- The next number is at most one past the largest. -/
theorem nextSequence_le (last : Flake) (timestamp : Nat) :
    last.nextSequence timestamp ≤ maxSequence + 1 := by
  unfold nextSequence
  split
  · exact Nat.succ_le_succ last.sequence_le
  · exact Nat.zero_le _

/-- What follows `last` has the next sequence number of its millisecond. -/
theorem Succeeds.sequence_eq {last next : Flake} (h : last.Succeeds next) :
    next.sequence = last.nextSequence next.timestamp := by
  rcases h.sequence with ⟨htimestamp, hsequence⟩ | ⟨htimestamp, hsequence⟩
  · rw [htimestamp, nextSequence_self]
    exact hsequence
  · rw [nextSequence_of_ne (Nat.ne_of_gt htimestamp)]
    exact hsequence

/-- In another millisecond than its own, and in every later one, an identifier
leaves the next sequence number as it was. -/
theorem Succeeds.nextSequence_eq {last next : Flake} (h : last.Succeeds next) {timestamp : Nat}
    (hlt : next.timestamp < timestamp) :
    next.nextSequence timestamp = last.nextSequence timestamp := by
  have hle := h.timestamp_le
  rw [nextSequence_of_ne (by omega), nextSequence_of_ne (by omega)]

/-- An identifier of the millisecond adds its number. -/
theorem sequencesAt_cons_self (id : Flake) (ids : List Flake) :
    sequencesAt id.timestamp (id :: ids) = id.sequence :: sequencesAt id.timestamp ids := by
  simp [sequencesAt]

/-- An identifier of another millisecond adds no sequence number. -/
theorem sequencesAt_cons_of_ne {id : Flake} {timestamp : Nat} (h : id.timestamp ≠ timestamp)
    (ids : List Flake) : sequencesAt timestamp (id :: ids) = sequencesAt timestamp ids := by
  simp [sequencesAt, h]

/-- Later identifiers have no number in the millisecond. -/
theorem sequencesAt_eq_nil {timestamp : Nat} {ids : List Flake}
    (h : ∀ id ∈ ids, timestamp < id.timestamp) : sequencesAt timestamp ids = [] := by
  have hnone : (ids.filter fun id => id.timestamp = timestamp) = [] := by
    refine List.filter_eq_nil_iff.mpr ?_
    intro id hid
    simpa using Nat.ne_of_gt (h id hid)
  rw [sequencesAt, hnone, List.map_nil]

/-- A sequence number in the list is one of an identifier of the
millisecond. -/
theorem mem_sequencesAt {timestamp number : Nat} {ids : List Flake} :
    number ∈ sequencesAt timestamp ids ↔
      ∃ id ∈ ids, id.timestamp = timestamp ∧ id.sequence = number := by
  simp [sequencesAt, and_assoc]

/-- No identifier of the chain is earlier than the first. -/
theorem timestamp_le_of_chain {first : Flake} {ids : List Flake}
    (h : (first :: ids).IsChain Succeeds) : ∀ id ∈ ids, first.timestamp ≤ id.timestamp := by
  induction ids generalizing first with
  | nil =>
      intro id hid
      cases hid
  | cons next ids ih =>
      obtain ⟨hnext, hrest⟩ := List.isChain_cons_cons.mp h
      intro id hid
      rcases List.mem_cons.mp hid with rfl | hid
      · exact hnext.timestamp_le
      · exact Nat.le_trans hnext.timestamp_le (ih hrest id hid)

/-- The sequence numbers of a millisecond count up by one, from the next number
after the first identifier on. -/
theorem exists_sequencesAt_eq {first : Flake} {ids : List Flake}
    (h : (first :: ids).IsChain Succeeds) {timestamp : Nat} (hle : first.timestamp ≤ timestamp) :
    ∃ k, sequencesAt timestamp ids = List.range' (first.nextSequence timestamp) k := by
  induction ids generalizing first with
  | nil => exact ⟨0, rfl⟩
  | cons next ids ih =>
      obtain ⟨hnext, hrest⟩ := List.isChain_cons_cons.mp h
      -- Where does the next identifier stand, before, in or after the
      -- millisecond?
      rcases Nat.lt_trichotomy timestamp next.timestamp with hlt | rfl | hgt
      · -- The chain has left the millisecond.
        refine ⟨0, sequencesAt_eq_nil ?_⟩
        intro id hid
        rcases List.mem_cons.mp hid with rfl | hid
        · exact hlt
        · exact Nat.lt_of_lt_of_le hlt (timestamp_le_of_chain hrest id hid)
      · obtain ⟨k, hk⟩ := ih hrest (Nat.le_refl _)
        refine ⟨k + 1, ?_⟩
        rw [sequencesAt_cons_self, hk, nextSequence_self, List.range'_succ, hnext.sequence_eq]
      · -- The chain has not come to the millisecond yet.
        obtain ⟨k, hk⟩ := ih hrest (Nat.le_of_lt hgt)
        refine ⟨k, ?_⟩
        rw [sequencesAt_cons_of_ne (Nat.ne_of_lt hgt), hk, hnext.nextSequence_eq hgt]

/-- Numbers that count up by one, from the next number on, end at the largest
one at the latest. -/
theorem nextSequence_add_le {first : Flake} {ids : List Flake} {timestamp k : Nat}
    (h : sequencesAt timestamp ids = List.range' (first.nextSequence timestamp) k) :
    first.nextSequence timestamp + k ≤ maxSequence + 1 := by
  cases k with
  | zero => exact first.nextSequence_le timestamp
  | succ k =>
      -- The last number of the range belongs to an identifier, whose number
      -- fits.
      have hmem : first.nextSequence timestamp + k ∈ sequencesAt timestamp ids := by
        rw [h]
        exact List.mem_range'_1.mpr ⟨Nat.le_add_right _ _, Nat.lt_succ_self _⟩
      obtain ⟨id, -, -, hid⟩ := mem_sequencesAt.mp hmem
      have hlast := id.sequence_le
      omega

/-- The sequence numbers of a millisecond are consecutive, from the first free
one on. -/
theorem sequencesAt_eq_range' {first : Flake} {ids : List Flake}
    (h : (first :: ids).IsChain Succeeds) {timestamp : Nat} (hle : first.timestamp ≤ timestamp) :
    ∃ k, first.nextSequence timestamp + k ≤ maxSequence + 1 ∧
      sequencesAt timestamp ids = List.range' (first.nextSequence timestamp) k := by
  obtain ⟨k, hk⟩ := exists_sequencesAt_eq h hle
  exact ⟨k, nextSequence_add_le hk, hk⟩

/-- Once the largest sequence number of a millisecond was issued, or is the first
one, all of them are used. -/
theorem sequencesAt_of_full {first seen : Flake} {ids : List Flake}
    (h : (first :: ids).IsChain Succeeds) (hseen : seen ∈ first :: ids)
    (hfull : seen.sequence = maxSequence) :
    sequencesAt seen.timestamp ids = List.range' (first.nextSequence seen.timestamp)
      (maxSequence + 1 - first.nextSequence seen.timestamp) := by
  have hle : first.timestamp ≤ seen.timestamp := by
    rcases List.mem_cons.mp hseen with rfl | hissued
    · exact Nat.le_refl _
    · exact timestamp_le_of_chain h seen hissued
  obtain ⟨k, hbound, hnumbers⟩ := sequencesAt_eq_range' h hle
  -- The range ends at the largest number.
  have hlast : maxSequence + 1 ≤ first.nextSequence seen.timestamp + k := by
    rcases List.mem_cons.mp hseen with rfl | hissued
    · rw [nextSequence_self, hfull]
      exact Nat.le_add_right _ _
    · have hmem : maxSequence ∈ sequencesAt seen.timestamp ids :=
        mem_sequencesAt.mpr ⟨seen, hissued, rfl, hfull⟩
      rw [hnumbers] at hmem
      exact (List.mem_range'_1.mp hmem).2
  have hk : k = maxSequence + 1 - first.nextSequence seen.timestamp := by omega
  rw [hnumbers, hk]

end Flake

namespace Journal

/-- The identifiers of a run follow one another, from the first word on. -/
theorem Ascending.succeeds {first : Flake} {j : Journal} (h : j.Ascending first) :
    (first :: j.issued).IsChain Flake.Succeeds :=
  h.chain.imp fun _ _ ⟨_, _, hfollows⟩ => hfollows.succeeds

/-- The identifiers of a millisecond are put together from it, the worker and the
sequence numbers. -/
theorem Ascending.filter_timestamp {first : Flake} {j : Journal} (h : j.Ascending first)
    (timestamp : Nat) :
    (j.issued.filter fun id => id.timestamp = timestamp)
      = (Flake.sequencesAt timestamp j.issued).map (Flake.ofParts timestamp first.worker.val) := by
  obtain ⟨hlater, -⟩ := List.pairwise_cons.mp h.pairwise
  -- The worker never changes along the chain, and a valid word is its fields.
  have hparts : ∀ id ∈ j.issued.filter fun id => id.timestamp = timestamp,
      Flake.ofParts timestamp first.worker.val id.sequence = id := by
    intro id hid
    obtain ⟨hissued, htimestamp⟩ := List.mem_filter.mp hid
    rw [← of_decide_eq_true htimestamp, ← (hlater id hissued).worker]
    exact Flake.ofParts_fields (hlater id hissued).isValid
  rw [Flake.sequencesAt, List.map_map]
  exact (List.map_id' _).symm.trans (List.map_congr_left fun id hid => (hparts id hid).symm)

/-- A poll that returned an identifier took its timestamp for its last
reading. -/
theorem Answered.getLast?_of_ready {first id : Flake} {j : Journal} (h : j.Answered first)
    {p : Span} (hp : p ∈ j.polls) (hid : p.result = .ok (.ready id)) :
    p.readings.getLast? = some (.millis id.timestamp) := by
  rcases h.polls p hp with ⟨-, hrefused⟩ | ⟨seen, -, r, hr, habout⟩
  · rw [hid] at hrefused
    cases hrefused
  · rw [hid] at habout
    rw [hr, (resultAbout_ready habout.symm).1]

/-- The first word of a preloaded generator has the preloaded fields, and every
run starts from it. -/
theorem run_preloaded {kind : Kind} {worker : WorkerId} {timestamp sequence : Nat}
    {g : Generator} (hg : Generator.preloaded kind worker timestamp sequence = .ok g)
    {moves : List (Nat × Move)} {j : Journal} (hrun : (start g.cell).run moves = some j) :
    let first := Flake.ofParts timestamp worker.val sequence
    (first.timestamp = timestamp ∧ first.worker = worker ∧ first.sequence = sequence) ∧
      j.Ascending first ∧ j.Answered first := by
  have hbuilt := Generator.Built.preloaded hg
  have hascending := ascending_run hbuilt.isValid hrun
  have hanswered := answered_run hbuilt.isPoisoned hrun
  -- The preloaded fields fit their widths, so the word has them.
  obtain ⟨htimestamp, hsequence, rfl⟩ := Generator.preloaded_eq_ok_iff.mp hg
  rw [Cell.last_ofLast] at hascending hanswered
  refine ⟨⟨?_, ?_, ?_⟩, hascending, hanswered⟩
  · exact Flake.timestamp_ofParts_of_le htimestamp _ _
  · exact Flake.worker_ofParts_val _ _ _
  · exact Flake.sequence_ofParts_of_le hsequence _ _

end Journal

/-- Take a generator of either kind, preloaded with a timestamp and a sequence
number, and any run of any number of callers over it, with any readings. The
identifiers that replaced the last one are those that the polls returned. Each
has the next sequence number of the millisecond of the one that it replaced, or
the number zero in a later millisecond, and its timestamp is the last reading
of the poll that returned it.

Hence the sequence numbers of a later millisecond are 0, 1, 2 and so on, at
most 4096 of them, in the order of issue. Those of the preloaded millisecond go
on from the preloaded number, up to 4095 at most. No identifier has an earlier
timestamp. -/
theorem issued_consecutive {kind : Kind} {worker : WorkerId} {timestamp sequence : Nat}
    {g : Generator} (hg : Generator.preloaded kind worker timestamp sequence = .ok g)
    {moves : List (Nat × Move)} {j : Journal} (hrun : (Journal.start g.cell).run moves = some j) :
    j.issued = j.replaced ∧
    (Flake.ofParts timestamp worker.val sequence :: j.replaced).IsChain Flake.Succeeds ∧
    (∀ p ∈ j.polls, ∀ id, p.result = .ok (.ready id) →
      p.readings.getLast? = some (.millis id.timestamp) ∧ id.timestamp ≤ Flake.maxTimestamp) ∧
    (∀ later, timestamp < later → ∃ k ≤ Flake.maxSequence + 1,
      Flake.sequencesAt later j.issued = List.range k) ∧
    (∃ k, sequence + k ≤ Flake.maxSequence ∧
      Flake.sequencesAt timestamp j.issued = List.range' (sequence + 1) k) ∧
    ∀ id ∈ j.issued, timestamp ≤ id.timestamp := by
  obtain ⟨⟨hfirst, -, hnumber⟩, hascending, hanswered⟩ := Journal.run_preloaded hg hrun
  have hchain := hascending.succeeds
  refine ⟨hascending.replaced.symm, ?_, ?_, ?_, ?_, ?_⟩
  · rw [hascending.replaced]
    exact hchain
  · intro p hp id hid
    exact ⟨hanswered.getLast?_of_ready hp hid, id.timestamp_le⟩
  · intro later hlater
    rw [← hfirst] at hlater
    obtain ⟨k, hk, hnumbers⟩ := Flake.sequencesAt_eq_range' hchain (Nat.le_of_lt hlater)
    -- The next number of a later millisecond is zero.
    rw [Flake.nextSequence_of_ne (Nat.ne_of_gt hlater)] at hk hnumbers
    refine ⟨k, by omega, ?_⟩
    rw [hnumbers, List.range_eq_range']
  · obtain ⟨k, hk, hnumbers⟩ := Flake.sequencesAt_eq_range' hchain (Nat.le_of_eq hfirst)
    rw [Flake.nextSequence, if_pos hfirst.symm, hnumber] at hk hnumbers
    exact ⟨k, by omega, hnumbers⟩
  · intro id hid
    rw [← hfirst]
    exact Flake.timestamp_le_of_chain hchain id hid

/-- Two callers use up a preloaded millisecond and go on in a later one. The
first of them proposes the last number of the old millisecond, loses it to its
rival, and finds the clock in the new one. -/
def turnOfMillisecond : List (Nat × Move) :=
  [(0, .load), (1, .load), (0, .read (.millis 5)), (1, .read (.millis 5)), (1, .swap false),
    (1, .load), (1, .read (.millis 5)), (0, .swap false), (0, .read (.millis 8)),
    (0, .swap false), (1, .load), (1, .read (.millis 8)), (1, .swap false)]

/-- The preloaded millisecond gives its last number, and the later one begins
with zero. -/
theorem issued_consecutive_turnOfMillisecond :
    ∃ g j, Generator.preloaded .lockFree ⟨7, by decide⟩ 5 4094 = .ok g ∧
      (Journal.start g.cell).run turnOfMillisecond = some j ∧
      j.issued = [Flake.ofParts 5 7 4095, Flake.ofParts 8 7 0, Flake.ofParts 8 7 1] ∧
      (Flake.ofParts 5 7 4094 :: j.replaced).IsChain Flake.Succeeds ∧
      ∃ k, 4094 + k ≤ 4095 ∧ Flake.sequencesAt 5 j.issued = List.range' 4095 k := by
  have hrun : ∃ g j, Generator.preloaded .lockFree ⟨7, by decide⟩ 5 4094 = .ok g ∧
      (Journal.start g.cell).run turnOfMillisecond = some j ∧
      j.issued = [Flake.ofParts 5 7 4095, Flake.ofParts 8 7 0, Flake.ofParts 8 7 1] :=
    ⟨_, _, rfl, rfl, by decide⟩
  obtain ⟨g, j, hg, hj, hissued⟩ := hrun
  obtain ⟨-, hchain, -, -, hpreloaded, -⟩ := issued_consecutive hg hj
  exact ⟨g, j, hg, hj, hissued, hchain, hpreloaded⟩

end Snowflake
