import Snowflake.Flake.Tagged
import Snowflake.Proofs.Numerals
import Snowflake.Proofs.Succession

/-!
# `Snowflake.Proofs.Ordering`: identifiers have one order

An identifier is sorted in many places: in memory as a word, in a table as a
signed integer, in a file by the octets of its padded text, and by readers who
think of it as a timestamp, a worker and a sequence number. `orders_agree`
shows that all of these give the same result.

The reason is the same for the fields and for the digits (`compare_mul_add`). A
number is compared by its quotient first and by its remainder second, whatever
the base. The fields of a word with the reserved bit clear are its digits to a
mixed base. The digits of a padded numeral are its digits to the base ten, and
as many as those of any other, so that no text ends before the other one.

The signed integer and the fields do not show the reserved bit as it is, so two
of the orders ask for it to be clear. The padded text has twenty digits, enough
for every word.
-/

set_option autoImplicit false

namespace Snowflake

/-! ### Comparisons -/

/-- Two pairs compare alike when they are alike in order and in equality. -/
theorem compareOfLessAndEq_congr {α β : Type} [LT α] [DecidableLT α] [DecidableEq α] [LT β]
    [DecidableLT β] [DecidableEq β] {a b : α} {c d : β} (hlt : a < b ↔ c < d)
    (heq : a = b ↔ c = d) : compareOfLessAndEq a b = compareOfLessAndEq c d := by
  simp only [compareOfLessAndEq, hlt, heq]

/-- The quotient decides, and the remainder where the quotients are equal. -/
theorem compare_mul_add {base hi lo hi' lo' : Nat} (hlo : lo < base) (hlo' : lo' < base) :
    compare (hi * base + lo) (hi' * base + lo') = (compare hi hi').then (compare lo lo') := by
  -- A greater quotient outweighs every remainder.
  have hweight : ∀ {x y r s : Nat}, x < y → r < base → x * base + r < y * base + s := by
    intro x y r s hxy hr
    have hstep : (x + 1) * base ≤ y * base := Nat.mul_le_mul_right base hxy
    rw [Nat.add_mul, Nat.one_mul] at hstep
    omega
  rcases Nat.lt_trichotomy hi hi' with hlt | rfl | hgt
  · rw [Nat.compare_eq_lt.mpr hlt, Nat.compare_eq_lt.mpr (hweight hlt hlo)]
    rfl
  · rw [Nat.compare_eq_eq.mpr (rfl : hi = hi)]
    show compare (hi * base + lo) (hi * base + lo') = compare lo lo'
    simp only [Nat.compare_eq_ite_lt, Nat.add_lt_add_iff_left]
  · rw [Nat.compare_eq_gt.mpr hgt, Nat.compare_eq_gt.mpr (hweight hgt hlo')]
    rfl

/-- Of two lists, parts of the same length are compared one after the other. -/
theorem compare_append {α : Type} [Ord α] {xs ys : List α} (h : xs.length = ys.length)
    (xs' ys' : List α) :
    compare (xs ++ xs') (ys ++ ys') = (compare xs ys).then (compare xs' ys') := by
  -- Along both lists at once, as they have the same length.
  induction xs generalizing ys with
  | nil =>
      cases ys with
      | nil => rfl
      | cons y ys => cases h
  | cons x xs ih =>
      cases ys with
      | nil => cases h
      | cons y ys =>
          rw [List.cons_append, List.cons_append, List.compare_cons_cons, List.compare_cons_cons,
            ih (Nat.succ.inj h), Ordering.then_assoc]

/-- Lists of one element compare as the elements do. -/
theorem compare_singleton {α : Type} [Ord α] (x y : α) : compare [x] [y] = compare x y := by
  rw [List.compare_cons_cons, List.compare_nil_nil]
  cases compare x y <;> rfl

/-! ### Padded numerals -/

/-- Numerals of the same width compare as their numbers do, however a digit is
spelled, as long as the spellings of digits compare as the digits do. -/
theorem Text.Decimal.compare_map_padded {α : Type} [Ord α] {spell : Char → α}
    (hspell : ∀ c < 10, ∀ d < 10,
      compare (spell (Nat.digitChar c)) (spell (Nat.digitChar d)) = compare c d)
    {width n m : Nat} (hn : n < 10 ^ (width + 1)) (hm : m < 10 ^ (width + 1)) :
    compare ((padded (width + 1) n).map spell) ((padded (width + 1) m).map spell)
      = compare n m := by
  induction width generalizing n m with
  | zero =>
      rw [padded_one hn, padded_one hm]
      exact (compare_singleton _ _).trans (hspell n hn m hm)
  | succ width ih =>
      have hn' : n / 10 < 10 ^ (width + 1) := by
        rw [Nat.pow_succ] at hn
        omega
      have hm' : m / 10 < 10 ^ (width + 1) := by
        rw [Nat.pow_succ] at hm
        omega
      -- Without the last digit both texts have the same length, so they
      -- compare before it.
      have hlength : ((padded (width + 1) (n / 10)).map spell).length
          = ((padded (width + 1) (m / 10)).map spell).length := by
        rw [List.length_map, List.length_map, length_padded hn', length_padded hm']
      have hnr : n % 10 < 10 := Nat.mod_lt n (by decide)
      have hmr : m % 10 < 10 := Nat.mod_lt m (by decide)
      rw [padded_add_two, padded_add_two, List.map_append, List.map_append,
        compare_append hlength, ih hn' hm', List.map_singleton, List.map_singleton,
        compare_singleton, hspell _ hnr _ hmr, ← compare_mul_add hnr hmr, Nat.div_add_mod',
        Nat.div_add_mod']

/-! ### Octets -/

/-- The octets of a text in UTF-8. -/
def Text.utf8 (s : String) : List UInt8 := s.toByteArray.data.toList

/-- A digit is one octet. -/
theorem Text.utf8_ofList_of_isDigit {cs : List Char} (h : ∀ c ∈ cs, c.isDigit = true) :
    utf8 (String.ofList cs) = cs.map fun c => c.val.toUInt8 := by
  rw [utf8, String.toByteArray_ofList, List.utf8Encode, List.data_toByteArray]
  show cs.flatMap String.utf8EncodeChar = _
  induction cs with
  | nil => rfl
  | cons c cs ih =>
      obtain ⟨hc, hcs⟩ := List.forall_mem_cons.mp h
      have hrange : 48 ≤ c.toNat ∧ c.toNat ≤ 57 := Char.isDigit_iff_toNat.mp hc
      -- A digit is below 128, where a character is one octet.
      have hsize : c.utf8Size = 1 := by
        rw [Char.utf8Size_eq_one_iff, UInt32.le_iff_toNat_le]
        exact Nat.le_trans hrange.2 (by decide)
      rw [List.flatMap_cons, String.utf8EncodeChar_eq_singleton hsize, ih hcs]
      rfl

/-! ### Identifiers -/

namespace Flake

/-- Identifiers compare as the numbers in their words. -/
theorem compare_eq_compare_toNat (a b : Flake) : compare a b = compare a.raw.toNat b.raw.toNat :=
  compareOfLessAndEq_congr UInt64.lt_iff_toNat_lt UInt64.toNat_inj.symm

/-- The order of identifiers is that of their comparison. -/
theorem lt_iff_compare_eq_lt {a b : Flake} : a < b ↔ compare a b = .lt := by
  rw [compare_eq_compare_toNat, Nat.compare_eq_lt]
  exact lt_iff_toNat_lt

/-- An identifier is at most another one exactly if it does not compare as
greater. -/
theorem le_iff_compare_ne_gt {a b : Flake} : a ≤ b ↔ compare a b ≠ .gt := by
  rw [compare_eq_compare_toNat, Nat.compare_ne_gt]
  exact UInt64.le_iff_toNat_le

/-- Comparison by timestamp, then by worker, then by sequence number. -/
def compareFields : Flake → Flake → Ordering :=
  compareLex (compareOn timestamp) <|
    compareLex (compareOn fun f => f.worker.val) (compareOn sequence)

/-- The fields compare as the word does, since they are its digits to a mixed
base. -/
theorem compareFields_eq {a b : Flake} (ha : a.isValid = true) (hb : b.isValid = true) :
    compareFields a b = compare a b := by
  -- Worker and sequence together are less than the weight of the timestamp.
  have hbelow : ∀ f : Flake, f.worker.val * workerUnit + f.sequence < timestampUnit := by
    intro f
    have hworker := f.worker.val_le
    have hsequence := f.sequence_le
    simp only [workerUnit, timestampUnit, maxSequence] at *
    omega
  have hsequence : ∀ f : Flake, f.sequence < workerUnit := fun f =>
    Nat.lt_succ_of_le f.sequence_le
  rw [compare_eq_compare_toNat, toNat_raw ha, toNat_raw hb, Nat.add_assoc, Nat.add_assoc,
    compare_mul_add (hbelow a) (hbelow b), compare_mul_add (hsequence a) (hsequence b)]
  rfl

/-- With the reserved bit clear no word is negative as a signed integer. -/
theorem compare_toInt64 {a b : Flake} (ha : a.isValid = true) (hb : b.isValid = true) :
    compare a.toInt64 b.toInt64 = compare a b := by
  have hlt : a.toInt64 < b.toInt64 ↔ a.raw.toNat < b.raw.toNat := by
    rw [Int64.lt_iff_toInt_lt, toInt_toInt64 ha, toInt_toInt64 hb, Int.ofNat_lt]
  have heq : a.toInt64 = b.toInt64 ↔ a.raw.toNat = b.raw.toNat := by
    rw [← Int64.toInt_inj, toInt_toInt64 ha, toInt_toInt64 hb, Int.natCast_inj]
  rw [compare_eq_compare_toNat]
  exact compareOfLessAndEq_congr hlt heq

/-- Twenty digits are enough for every word. -/
theorem toNat_lt_pow_twenty (f : Flake) : f.raw.toNat < 10 ^ (19 + 1) :=
  Nat.lt_trans f.raw.toNat_lt (by decide)

/-- The octets of the padded text do too, since the digits are spelled in
order. -/
theorem compare_paddedText (a b : Flake) :
    compare (Text.utf8 a.paddedText) (Text.utf8 b.paddedText) = compare a b := by
  -- The octets of the ten digits stand in order.
  have hspell : ∀ c < 10, ∀ d < 10,
      compare (Nat.digitChar c).val.toUInt8 (Nat.digitChar d).val.toUInt8 = compare c d := by
    decide
  rw [paddedText, paddedText,
    Text.utf8_ofList_of_isDigit fun c => Text.Decimal.isDigit_of_mem_padded,
    Text.utf8_ofList_of_isDigit fun c => Text.Decimal.isDigit_of_mem_padded,
    Text.Decimal.compare_map_padded hspell a.toNat_lt_pow_twenty b.toNat_lt_pow_twenty,
    compare_eq_compare_toNat]

/-- The padded text has twenty characters. -/
theorem length_paddedText (f : Flake) : f.paddedText.length = 20 := by
  rw [paddedText, String.length_ofList, Text.Decimal.length_padded f.toNat_lt_pow_twenty]

/-- Each of them is a digit. -/
theorem isDigit_of_mem_paddedText {f : Flake} {c : Char} (h : c ∈ f.paddedText.toList) :
    c.isDigit = true := by
  rw [paddedText, String.toList_ofList] at h
  exact Text.Decimal.isDigit_of_mem_padded h

end Flake

/-- Take two identifiers, of the same kind of thing if they are tagged.

Their words, the words as numbers, the tagged identifiers, and the octets of
their padded texts all compare alike, whatever the words are. So do the signed
integers and the fields, one after the other, if the reserved bit is clear in
both. The padded text of a word is twenty ASCII digits. -/
theorem orders_agree (name : String) (a b : Flake) :
    (a < b ↔ compare a b = .lt) ∧ (a ≤ b ↔ compare a b ≠ .gt) ∧
    compare a.raw.toNat b.raw.toNat = compare a b ∧
    compare (Tagged.mk a : Tagged name) (Tagged.mk b) = compare a b ∧
    compare (Text.utf8 a.paddedText) (Text.utf8 b.paddedText) = compare a b ∧
    (a.isValid = true → b.isValid = true →
      compare a.toInt64 b.toInt64 = compare a b ∧ Flake.compareFields a b = compare a b) ∧
    a.paddedText.length = 20 ∧ ∀ c ∈ a.paddedText.toList, c.isDigit = true :=
  ⟨Flake.lt_iff_compare_eq_lt, Flake.le_iff_compare_ne_gt,
    (Flake.compare_eq_compare_toNat a b).symm, rfl, Flake.compare_paddedText a b,
    fun ha hb => ⟨Flake.compare_toInt64 ha hb, Flake.compareFields_eq ha hb⟩,
    a.length_paddedText, fun _ => Flake.isDigit_of_mem_paddedText⟩

/-- The last identifier of a millisecond and the first one of the next, which
has the smaller worker and sequence number. -/
theorem orders_agree_turnOfMillisecond :
    let a := Flake.ofParts 5 9 4095
    let b := Flake.ofParts 6 0 0
    a.isValid = true ∧ b.isValid = true ∧ compare a b = .lt ∧
      compare a.toInt64 b.toInt64 = .lt ∧ Flake.compareFields a b = .lt ∧
      compare (Text.utf8 a.paddedText) (Text.utf8 b.paddedText) = .lt := by
  intro a b
  have ha : a.isValid = true := Flake.isValid_ofParts 5 9 4095
  have hb : b.isValid = true := Flake.isValid_ofParts 6 0 0
  have hlt : compare a b = .lt := by decide
  obtain ⟨-, -, -, -, htext, hvalid, -⟩ := orders_agree "OrderId" a b
  obtain ⟨hsigned, hfields⟩ := hvalid ha hb
  exact ⟨ha, hb, hlt, hsigned.trans hlt, hfields.trans hlt, htext.trans hlt⟩

end Snowflake
