import Snowflake.Worker

/-!
# `Snowflake.Flake`: the 64-bit identifier

An identifier packs three fields into one word: 41 bits of milliseconds since
an epoch, 10 bits of worker number and 12 bits of sequence number, from the
most significant end. The top bit is reserved and clear in every issued
identifier, so that the word is also a non-negative signed integer.

The fields are read out as natural numbers. `ofParts` cuts each field to its
width; `pack` refuses a field that is too wide. `toNat_ofParts` and the three
field lemmas say what `ofParts` builds; `ofParts_fields` puts an identifier
together again from its own fields.
-/

set_option autoImplicit false

namespace Snowflake

/-- A 64-bit identifier. -/
structure Flake where
  /-- The word. -/
  raw : UInt64
deriving DecidableEq, Repr, Inhabited

/-- The fields of an identifier. -/
inductive Field
  /-- Milliseconds since the epoch. -/
  | timestamp
  /-- The worker that issued it. -/
  | worker
  /-- Its place among the identifiers of one millisecond. -/
  | sequence
deriving DecidableEq, Repr

/-- The report of a field that is too wide. -/
def Field.overflowText : Field → String
  | .timestamp => "timestamp overflow"
  | .worker => "worker_id overflow"
  | .sequence => "sequence overflow"

namespace Flake

/-- The bits of the timestamp. -/
def timestampBits : Nat := 41
/-- The bits of the worker number. -/
def workerBits : Nat := 10
/-- The bits of the sequence number. -/
def sequenceBits : Nat := 12
/-- The largest timestamp. -/
def maxTimestamp : Nat := 2199023255551
/-- The largest worker number. -/
def maxWorker : Nat := 1023
/-- The largest sequence number. -/
def maxSequence : Nat := 4095

/-- The weight of the timestamp in the word: it stands above the two other
fields. -/
def timestampUnit : Nat := 4194304
/-- The weight of the worker number in the word: it stands above the sequence
number. -/
def workerUnit : Nat := 4096
/-- The weight of the reserved bit. -/
def reservedUnit : Nat := 9223372036854775808

/-- The timestamp has 41 bits. -/
theorem maxTimestamp_add_one : maxTimestamp + 1 = 1 <<< timestampBits := by decide

/-- The worker number has ten bits. -/
theorem maxWorker_add_one : maxWorker + 1 = 1 <<< workerBits := by decide

/-- The sequence number has twelve bits. -/
theorem maxSequence_add_one : maxSequence + 1 = 1 <<< sequenceBits := by decide

/-- The worker number stands above the bits of the sequence number. -/
theorem workerUnit_eq : workerUnit = 1 <<< sequenceBits := by decide

/-- The timestamp stands above the bits of both. -/
theorem timestampUnit_eq : timestampUnit = 1 <<< (workerBits + sequenceBits) := by decide

/-- The reserved bit stands above all three fields. -/
theorem reservedUnit_eq : reservedUnit = 1 <<< (timestampBits + workerBits + sequenceBits) := by
  decide

/-! ### Fields -/

/-- Milliseconds since the epoch. -/
def timestamp (f : Flake) : Nat := f.raw.toNat / timestampUnit % (maxTimestamp + 1)

/-- The worker that issued the identifier. -/
def worker (f : Flake) : WorkerId :=
  ⟨f.raw.toNat / workerUnit % (maxWorker + 1), Nat.le_of_lt_succ (Nat.mod_lt _ (by decide))⟩

/-- The place among the identifiers of one millisecond. -/
def sequence (f : Flake) : Nat := f.raw.toNat % (maxSequence + 1)

/-- The reserved bit is clear. -/
def isValid (f : Flake) : Bool := decide (f.raw.toNat < reservedUnit)

/-- The millisecond has room for another identifier. -/
def hasRoom (f : Flake) : Bool := decide (f.sequence < maxSequence)

/-- The word read as a signed integer in two's complement. -/
def toInt64 (f : Flake) : Int64 := f.raw.toInt64

/-- Identifiers are ordered as their words are. -/
instance : Ord Flake := ⟨fun a b => compare a.raw b.raw⟩
instance : LT Flake := ⟨fun a b => a.raw < b.raw⟩
instance : LE Flake := ⟨fun a b => a.raw ≤ b.raw⟩
instance (a b : Flake) : Decidable (a < b) := inferInstanceAs (Decidable (a.raw < b.raw))
instance (a b : Flake) : Decidable (a ≤ b) := inferInstanceAs (Decidable (a.raw ≤ b.raw))

/-! ### Packing -/

/-- The identifier with the given fields, each cut to its width. -/
def ofParts (timestamp worker sequence : Nat) : Flake :=
  ⟨UInt64.ofNat (timestamp % (maxTimestamp + 1) * timestampUnit
    + worker % (maxWorker + 1) * workerUnit + sequence % (maxSequence + 1))⟩

/-- The identifier with the given fields. The first field that is too wide, in
the order in which they stand, is reported. -/
def pack (timestamp worker sequence : Nat) : Except Field Flake :=
  if maxTimestamp < timestamp then .error .timestamp
  else if maxWorker < worker then .error .worker
  else if maxSequence < sequence then .error .sequence
  else .ok (ofParts timestamp worker sequence)

/-- The next identifier of the same millisecond. -/
def increment (f : Flake) : Except Field Flake := pack f.timestamp f.worker.val (f.sequence + 1)

/-- The first identifier of another millisecond. -/
def rollover (f : Flake) (timestamp : Nat) : Except Field Flake := pack timestamp f.worker.val 0

/-! ### Conversions -/

/-- The identifier of an unsigned word, refused when the reserved bit is
set. -/
def ofWord (raw : UInt64) : Except Error Flake :=
  if (Flake.mk raw).isValid then .ok ⟨raw⟩
  else .error (.invalidId (Text.Decimal.text raw.toNat ++ " has the reserved bit set"))

/-- The identifier of a signed word, refused when it is negative. -/
def ofInt64 (n : Int64) : Except Error Flake :=
  if n < 0 then .error (.invalidId (Text.Decimal.signedText n.toInt ++ " is negative"))
  else .ok ⟨n.toUInt64⟩

/-- Reads an identifier in decimal. The blanks around it do not count; the
message for a bad text shows the text with them. -/
def parse (s : String) : Except Error Flake :=
  match Text.Decimal.read (Text.trim s.toList) with
  | .ok value => ofWord (UInt64.ofNat value)
  | .error flaw => .error (.invalidId (Text.Quoted.text s ++ ": " ++ flaw.message))

/-- The Unix time of an identifier in milliseconds, when both the epoch and
the sum fit in 64 bits. -/
def unixMillis? (f : Flake) (epoch : Duration) : Option Nat :=
  let ms := epoch.millis
  if ms < UInt64.size ∧ ms + f.timestamp < UInt64.size then some (ms + f.timestamp) else none

/-! ### Text -/

/-- The word in decimal. -/
def text (f : Flake) : String := Text.Decimal.text f.raw.toNat

/-- The word in decimal with zeros in front, twenty digits in all, so that
texts sort as words do. -/
def paddedText (f : Flake) : String := String.ofList (Text.Decimal.padded 20 f.raw.toNat)

/-- The word in sixteen hexadecimal digits. -/
def hexText (f : Flake) : String :=
  let ds := Text.Quoted.hex f.raw.toNat
  "0x" ++ String.ofList (List.replicate (16 - ds.length) '0' ++ ds)

/-- The word and the fields by name. -/
def fields (f : Flake) : List (String × String) :=
  [("raw", f.hexText), ("timestamp", Text.Decimal.text f.timestamp),
   ("worker_id", f.worker.text), ("sequence", Text.Decimal.text f.sequence)]

/-- The word and the fields on one line. -/
def describe (f : Flake) : String := Error.fieldsText "FlakeId" f.fields

/-- The word and the fields, a line each. -/
def describeLines (f : Flake) : String :=
  "FlakeId \x7b\n" ++ String.join (f.fields.map fun p => "    " ++ p.1 ++ ": " ++ p.2 ++ ",\n")
    ++ "\x7d"

/-! ### What packing builds -/

/-- An identifier is no more than its word, and that no more than a number. -/
theorem ext_toNat {a b : Flake} (h : a.raw.toNat = b.raw.toNat) : a = b := by
  cases a
  cases b
  exact congrArg Flake.mk (UInt64.toNat_inj.mp h)

/-- What is packed, as a number. A field that is too wide is cut off, so no
field reaches into the next one. -/
theorem toNat_ofParts (t w s : Nat) :
    (ofParts t w s).raw.toNat = t % (maxTimestamp + 1) * timestampUnit
      + w % (maxWorker + 1) * workerUnit + s % (maxSequence + 1) := by
  simp only [ofParts, UInt64.toNat_ofNat', maxTimestamp, maxWorker, maxSequence, timestampUnit,
    workerUnit]
  exact Nat.mod_eq_of_lt (by omega)

/-- Unpacking gives back the timestamp, cut to its width. -/
@[simp] theorem timestamp_ofParts (t w s : Nat) :
    (ofParts t w s).timestamp = t % (maxTimestamp + 1) := by
  rw [timestamp, toNat_ofParts]
  simp only [maxTimestamp, maxWorker, maxSequence, timestampUnit, workerUnit]
  omega

/-- Unpacking gives back the worker, cut to its width. -/
@[simp] theorem worker_ofParts (t w s : Nat) :
    (ofParts t w s).worker.val = w % (maxWorker + 1) := by
  show (ofParts t w s).raw.toNat / workerUnit % (maxWorker + 1) = _
  rw [toNat_ofParts]
  simp only [maxTimestamp, maxWorker, maxSequence, timestampUnit, workerUnit]
  omega

/-- Unpacking gives back the sequence number, cut to its width. -/
@[simp] theorem sequence_ofParts (t w s : Nat) :
    (ofParts t w s).sequence = s % (maxSequence + 1) := by
  rw [sequence, toNat_ofParts]
  simp only [maxTimestamp, maxWorker, maxSequence, timestampUnit, workerUnit]
  omega

/-- Packing leaves the reserved bit clear, even for fields that are too wide. -/
@[simp] theorem isValid_ofParts (t w s : Nat) : (ofParts t w s).isValid = true := by
  simp only [isValid, toNat_ofParts, decide_eq_true_eq, maxTimestamp, maxWorker, maxSequence,
    timestampUnit, workerUnit, reservedUnit]
  omega

/-- Packing the fields of a word gives the word with the reserved bit
cleared. -/
theorem toNat_ofParts_fields (f : Flake) :
    (ofParts f.timestamp f.worker.val f.sequence).raw.toNat = f.raw.toNat % reservedUnit := by
  rw [toNat_ofParts]
  simp only [timestamp, worker, sequence, maxTimestamp, maxWorker, maxSequence, timestampUnit,
    workerUnit, reservedUnit]
  omega

/-- A word with the reserved bit clear is put together from its fields. -/
theorem ofParts_fields {f : Flake} (h : f.isValid = true) :
    ofParts f.timestamp f.worker.val f.sequence = f := by
  refine ext_toNat ?_
  rw [toNat_ofParts_fields]
  simp only [isValid, decide_eq_true_eq] at h
  exact Nat.mod_eq_of_lt h

/-- A timestamp fits its 41 bits, whatever the word. -/
theorem timestamp_le (f : Flake) : f.timestamp ≤ maxTimestamp := by
  simp only [timestamp, maxTimestamp]
  omega

/-- A sequence number fits its 12 bits, whatever the word. -/
theorem sequence_le (f : Flake) : f.sequence ≤ maxSequence := by
  simp only [sequence, maxSequence]
  omega

/-- Packing succeeds exactly when every field fits, and then cuts nothing. -/
theorem pack_eq_ok_iff {t w s : Nat} {f : Flake} :
    pack t w s = .ok f ↔
      t ≤ maxTimestamp ∧ w ≤ maxWorker ∧ s ≤ maxSequence ∧ f = ofParts t w s := by
  unfold pack
  split
  · simp; omega
  · split
    · simp; omega
    · split
      · simp; omega
      · simp only [Except.ok.injEq]
        constructor
        · rintro rfl
          exact ⟨by omega, by omega, by omega, rfl⟩
        · rintro ⟨-, -, -, rfl⟩
          rfl

/-! Counting up and going to another millisecond succeed as long as the field
that they change fits. The others come from the word. -/

/-- While there is room, the next sequence number is packed. -/
theorem increment_of_room {f : Flake} (h : f.sequence < maxSequence) :
    f.increment = .ok (ofParts f.timestamp f.worker.val (f.sequence + 1)) :=
  pack_eq_ok_iff.mpr ⟨f.timestamp_le, f.worker.val_le, h, rfl⟩

/-- The last sequence number has none after it. The other two fields fit, so
this is the field that is named. -/
theorem increment_of_full {f : Flake} (h : f.sequence = maxSequence) :
    f.increment = .error .sequence := by
  have htimestamp : ¬ maxTimestamp < f.timestamp := Nat.not_lt.mpr f.timestamp_le
  have hworker : ¬ maxWorker < f.worker.val := Nat.not_lt.mpr f.worker.val_le
  have hsequence : maxSequence < f.sequence + 1 := Nat.lt_succ_of_le (Nat.le_of_eq h.symm)
  rw [increment, pack, if_neg htimestamp, if_neg hworker, if_pos hsequence]

/-- A timestamp that fits begins its millisecond at sequence number zero. -/
theorem rollover_of_le {timestamp : Nat} (h : timestamp ≤ maxTimestamp) (f : Flake) :
    f.rollover timestamp = .ok (ofParts timestamp f.worker.val 0) :=
  pack_eq_ok_iff.mpr ⟨h, f.worker.val_le, Nat.zero_le _, rfl⟩

/-- One that does not fit is named before the other fields are looked at. -/
theorem rollover_of_lt {timestamp : Nat} (h : maxTimestamp < timestamp) (f : Flake) :
    f.rollover timestamp = .error .timestamp :=
  if_pos h

end Flake

end Snowflake
