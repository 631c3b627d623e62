import Mathlib.Algebra.Group.Nat.Defs
import Mathlib.Data.Set.Function
import Snowflake.Proofs.Succession

/-!
# `Snowflake.Proofs.Packing`: three fields in a word

`Flake.ofParts` puts three numbers into a word by multiplication and addition,
and the fields are read out by division. `Flake.raw_ofParts` and
`Flake.parts_eq` show that this is what masks and shifts do: the sequence
number stands in the twelve lowest bits, the worker in the ten above them, the
timestamp in the forty-one above those, and the top bit is the reserved one.

`packing_bijective` is what a caller relies on. `Flake.pack` refuses a field
that is too wide and names the first one. Fields that fit come back as they
were. A word comes back from its fields when the reserved bit is clear. When it
is set, it is the only bit that is lost.
-/

set_option autoImplicit false

namespace Snowflake

namespace Flake

/-- The three fields: timestamp, worker and sequence number. -/
def parts (f : Flake) : Nat × Nat × Nat := (f.timestamp, f.worker.val, f.sequence)

/-- The identifier with the given fields, each cut to its width. -/
def ofTriple (p : Nat × Nat × Nat) : Flake := ofParts p.1 p.2.1 p.2.2

/-- Three fields of which none is too wide. -/
def Fit (p : Nat × Nat × Nat) : Prop := p.1 < 2 ^ 41 ∧ p.2.1 < 2 ^ 10 ∧ p.2.2 < 2 ^ 12

/-- The fields of a packed word are the numbers, each cut to its width. -/
theorem parts_ofParts (t w s : Nat) :
    (ofParts t w s).parts = (t % 2 ^ 41, w % 2 ^ 10, s % 2 ^ 12) := by
  rw [parts, timestamp_ofParts, worker_ofParts, sequence_ofParts]
  rfl

/-- The fields of any word fit. -/
theorem parts_fit (f : Flake) : Fit f.parts :=
  ⟨Nat.lt_succ_of_le f.timestamp_le, Nat.lt_succ_of_le f.worker.val_le,
    Nat.lt_succ_of_le f.sequence_le⟩

/-- Fields that fit come back as they were. -/
theorem parts_ofTriple {p : Nat × Nat × Nat} (h : Fit p) : (ofTriple p).parts = p := by
  obtain ⟨t, w, s⟩ := p
  obtain ⟨ht, hw, hs⟩ := h
  rw [ofTriple, parts_ofParts, Nat.mod_eq_of_lt ht, Nat.mod_eq_of_lt hw, Nat.mod_eq_of_lt hs]

/-! ### Bits -/

/-- Packing, by masks and shifts of words. -/
theorem raw_ofParts (t w s : UInt64) :
    (ofParts t.toNat w.toNat s.toNat).raw
      = (t &&& 0x1FFFFFFFFFF) <<< 22 ||| ((w &&& 0x3FF) <<< 12 ||| s &&& 0xFFF) := by
  have htimestampMask : (0x1FFFFFFFFFF : UInt64).toNat = 2 ^ 41 - 1 := rfl
  have hworkerMask : (0x3FF : UInt64).toNat = 2 ^ 10 - 1 := rfl
  have hsequenceMask : (0xFFF : UInt64).toNat = 2 ^ 12 - 1 := rfl
  have h22 : (22 : UInt64).toNat % 64 = 22 := rfl
  have h12 : (12 : UInt64).toNat % 64 = 12 := rfl
  -- No bit is shifted out of the word.
  have htimestamp : (t.toNat % 2 ^ 41) <<< 22 < 2 ^ 64 := by
    rw [Nat.shiftLeft_eq]
    omega
  have hworker : (w.toNat % 2 ^ 10) <<< 12 < 2 ^ 64 := by
    rw [Nat.shiftLeft_eq]
    omega
  -- A field does not reach the one above it, so that disjunction is a sum.
  have hsequenceBelow : s.toNat % 2 ^ 12 < 2 ^ 12 := Nat.mod_lt _ (by decide)
  have hworkerBelow : (w.toNat % 2 ^ 10) <<< 12 + s.toNat % 2 ^ 12 < 2 ^ 22 := by
    rw [Nat.shiftLeft_eq]
    omega
  refine UInt64.toNat_inj.mp ?_
  -- On numbers, a mask is a remainder and a shift a multiple of a power of
  -- two.
  simp only [UInt64.toNat_or, UInt64.toNat_shiftLeft, UInt64.toNat_and, htimestampMask, hworkerMask,
    hsequenceMask, h22, h12, Nat.and_two_pow_sub_one_eq_mod]
  rw [Nat.mod_eq_of_lt htimestamp, Nat.mod_eq_of_lt hworker,
    ← Nat.shiftLeft_add_eq_or_of_lt hsequenceBelow, ← Nat.shiftLeft_add_eq_or_of_lt hworkerBelow,
    toNat_ofParts, Nat.shiftLeft_eq, Nat.shiftLeft_eq, Nat.add_assoc]
  rfl

/-- Reading the fields, by shifts and masks of the word. -/
theorem parts_eq (f : Flake) :
    f.parts = ((f.raw >>> 22 &&& 0x1FFFFFFFFFF).toNat, (f.raw >>> 12 &&& 0x3FF).toNat,
      (f.raw &&& 0xFFF).toNat) := by
  have htimestamp : (0x1FFFFFFFFFF : UInt64).toNat = 2 ^ 41 - 1 := rfl
  have hworker : (0x3FF : UInt64).toNat = 2 ^ 10 - 1 := rfl
  have hsequence : (0xFFF : UInt64).toNat = 2 ^ 12 - 1 := rfl
  have h22 : (22 : UInt64).toNat % 64 = 22 := rfl
  have h12 : (12 : UInt64).toNat % 64 = 12 := rfl
  simp only [UInt64.toNat_shiftRight, UInt64.toNat_and, htimestamp, hworker, hsequence, h22, h12,
    Nat.and_two_pow_sub_one_eq_mod, Nat.shiftRight_eq_div_pow]
  rfl

/-- A word is valid exactly if it is below `2 ^ 63`. -/
theorem isValid_iff_lt {f : Flake} : f.isValid = true ↔ f.raw.toNat < 2 ^ 63 := by
  rw [isValid, decide_eq_true_eq]
  exact Iff.rfl

/-- The reserved bit is the top one. -/
theorem isValid_iff_testBit {f : Flake} : f.isValid = true ↔ f.raw.toNat.testBit 63 = false := by
  have hsize : f.raw.toNat < 2 ^ (63 + 1) := f.raw.toNat_lt
  rw [isValid_iff_lt]
  constructor
  · exact Nat.testBit_lt_two_pow
  · intro hclear
    by_contra hge
    -- A word that is no smaller has its top bit set.
    rw [Nat.testBit_of_two_pow_le_and_two_pow_add_one_gt (Nat.le_of_not_lt hge) hsize] at hclear
    cases hclear

/-- Packing the fields of a word clears its top bit and no other. -/
theorem testBit_ofTriple_parts (f : Flake) (i : Nat) :
    (ofTriple f.parts).raw.toNat.testBit i = (decide (i ≠ 63) && f.raw.toNat.testBit i) := by
  have hrest : (ofTriple f.parts).raw.toNat = f.raw.toNat % 2 ^ 63 := toNat_ofParts_fields f
  rw [hrest, Nat.testBit_mod_two_pow]
  rcases Nat.lt_trichotomy i 63 with hlt | rfl | hgt
  · have hne : i ≠ 63 := Nat.ne_of_lt hlt
    simp [hlt, hne]
  · rfl
  · -- The word has no such bit.
    have hsize : f.raw.toNat < 2 ^ i :=
      Nat.lt_of_lt_of_le f.raw.toNat_lt (Nat.pow_le_pow_right (by decide) hgt)
    simp [Nat.testBit_lt_two_pow hsize]

/-- Exactly the words whose top bit is clear come back from their fields. -/
theorem isValid_iff_ofTriple_parts {f : Flake} : f.isValid = true ↔ ofTriple f.parts = f := by
  constructor
  · exact ofParts_fields
  · intro h
    rw [← h]
    exact isValid_ofParts _ _ _

/-! ### Refusals -/

/-- Packing refuses the first field that is too wide, or gives the word of
fields that fit. -/
theorem pack_cases (t w s : Nat) :
    (2 ^ 41 ≤ t ∧ pack t w s = .error .timestamp) ∨
    (t < 2 ^ 41 ∧ 2 ^ 10 ≤ w ∧ pack t w s = .error .worker) ∨
    (t < 2 ^ 41 ∧ w < 2 ^ 10 ∧ 2 ^ 12 ≤ s ∧ pack t w s = .error .sequence) ∨
    (t < 2 ^ 41 ∧ w < 2 ^ 10 ∧ s < 2 ^ 12 ∧ pack t w s = .ok (ofParts t w s)) := by
  have htimestamp : maxTimestamp < t ↔ 2 ^ 41 ≤ t := Iff.rfl
  have hworker : maxWorker < w ↔ 2 ^ 10 ≤ w := Iff.rfl
  have hsequence : maxSequence < s ↔ 2 ^ 12 ≤ s := Iff.rfl
  simp only [pack, htimestamp, hworker, hsequence]
  rcases Nat.lt_or_ge t (2 ^ 41) with ht | ht
  · rw [if_neg (Nat.not_le_of_gt ht)]
    rcases Nat.lt_or_ge w (2 ^ 10) with hw | hw
    · rw [if_neg (Nat.not_le_of_gt hw)]
      rcases Nat.lt_or_ge s (2 ^ 12) with hs | hs
      · rw [if_neg (Nat.not_le_of_gt hs)]
        exact .inr (.inr (.inr ⟨ht, hw, hs, rfl⟩))
      · exact .inr (.inr (.inl ⟨ht, hw, hs, if_pos hs⟩))
    · exact .inr (.inl ⟨ht, hw, if_pos hw⟩)
  · exact .inl ⟨ht, if_pos ht⟩

end Flake

/-- Three numbers are packed, and a word is unpacked.

`Flake.ofParts` takes any numbers, cuts them to the width of their fields and
leaves the reserved bit clear. `Flake.pack` panics exactly when a field is too
wide, with a report on the first one, and otherwise gives the word of
`Flake.ofParts`, whose fields are the numbers. A word whose fields are packed
again loses the reserved bit and no other. So fields that fit correspond one to
one to the words below `2 ^ 63`, and those are the valid words, and the ones
that come back. -/
theorem packing_bijective :
    (∀ t w s : Nat, (Flake.ofParts t w s).raw.toNat.testBit 63 = false ∧
      (Flake.ofParts t w s).parts = (t % 2 ^ 41, w % 2 ^ 10, s % 2 ^ 12)) ∧
    (∀ t w s : Nat,
      let report := (Flake.pack t w s).mapError Field.overflowText
      (report = .error "timestamp overflow" ↔ 2 ^ 41 ≤ t) ∧
      (report = .error "worker_id overflow" ↔ t < 2 ^ 41 ∧ 2 ^ 10 ≤ w) ∧
      (report = .error "sequence overflow" ↔ t < 2 ^ 41 ∧ w < 2 ^ 10 ∧ 2 ^ 12 ≤ s) ∧
      (t < 2 ^ 41 ∧ w < 2 ^ 10 ∧ s < 2 ^ 12 →
        report = .ok (Flake.ofParts t w s) ∧ (Flake.ofParts t w s).parts = (t, w, s))) ∧
    (∀ (f : Flake) (i : Nat), (Flake.ofTriple f.parts).raw.toNat.testBit i
      = (decide (i ≠ 63) && f.raw.toNat.testBit i)) ∧
    (∀ f : Flake, f.isValid = true ↔ Flake.ofTriple f.parts = f) ∧
    Set.BijOn Flake.ofTriple {p | Flake.Fit p} {f | f.raw.toNat < 2 ^ 63} := by
  refine ⟨fun t w s => ⟨?_, Flake.parts_ofParts t w s⟩, fun t w s => ?_,
    Flake.testBit_ofTriple_parts, fun f => Flake.isValid_iff_ofTriple_parts, ?_⟩
  · exact Flake.isValid_iff_testBit.mp (Flake.isValid_ofParts t w s)
  · intro report
    have hunpack : t < 2 ^ 41 ∧ w < 2 ^ 10 ∧ s < 2 ^ 12 → (Flake.ofParts t w s).parts = (t, w, s) :=
      fun hfit => Flake.parts_ofTriple (p := (t, w, s)) hfit
    rcases Flake.pack_cases t w s with ⟨ht, hpack⟩ | ⟨ht, hw, hpack⟩ | ⟨ht, hw, hs, hpack⟩ |
      ⟨ht, hw, hs, hpack⟩
    -- At most one of the three texts is the report.
    all_goals
      simp only [report, hpack, Except.mapError, Field.overflowText, Except.error.injEq,
        String.reduceEq, reduceCtorEq, true_iff, false_iff, true_and, false_and]
    · omega
    · omega
    · omega
    · exact ⟨by omega, by omega, by omega, hunpack⟩
  · have hinverse : Set.InvOn Flake.parts Flake.ofTriple {p | Flake.Fit p}
        {f | f.raw.toNat < 2 ^ 63} := by
      refine ⟨fun p hp => Flake.parts_ofTriple hp, fun f hf => ?_⟩
      rw [Set.mem_ofPred_eq, ← Flake.isValid_iff_lt] at hf
      exact Flake.isValid_iff_ofTriple_parts.mp hf
    -- Fields that fit are packed into valid words, and every word has fields
    -- that fit.
    refine hinverse.bijOn (fun p _ => ?_) fun f _ => f.parts_fit
    rw [Set.mem_ofPred_eq, ← Flake.isValid_iff_lt]
    exact Flake.isValid_ofParts _ _ _

end Snowflake
