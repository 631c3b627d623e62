import Snowflake.Flake.Tagged
import Snowflake.Proofs.Numerals
import Snowflake.Proofs.Packing

/-!
# `Snowflake.Proofs.Conversions`: one word, four encodings

An identifier leaves the program as a word, as a signed word, in decimal, or in
decimal with zeros in front, and each of these is read back by a conversion that
may refuse it. Every conversion draws the line on its own: one looks at the
reserved bit, one at the sign, and one reads digits first. `conversions_agree`
shows that they draw the same line, and that tagged identifiers follow them.

`Flake.parse_text` and `Flake.parse_paddedText` reduce the texts to the word:
what is written is read as the number, whatever the word is. The sign is the
reserved bit (`Flake.toInt64_lt_zero_iff`).
-/

set_option autoImplicit false

namespace Snowflake

namespace Flake

/-! ### Words -/

/-- A word is taken for an identifier exactly if its reserved bit is clear. -/
theorem ofWord_eq_ok_iff {raw : UInt64} {f : Flake} :
    ofWord raw = .ok f ↔ f.raw = raw ∧ f.isValid = true := by
  unfold ofWord
  split
  · rename_i hvalid
    constructor
    · intro h
      cases h
      exact ⟨rfl, hvalid⟩
    · rintro ⟨rfl, -⟩
      rfl
  · rename_i hset
    constructor
    · intro h
      cases h
    · rintro ⟨rfl, hvalid⟩
      exact absurd hvalid hset

/-- With the bit set it is refused. -/
theorem ofWord_of_not_isValid {f : Flake} (h : f.isValid = false) :
    ∃ reason, ofWord f.raw = .error (.invalidId reason) := by
  have hset : ¬ (Flake.mk f.raw).isValid = true := Bool.eq_false_iff.mp h
  exact ⟨_, if_neg hset⟩

/-! ### Signed words -/

/-- With the reserved bit set, the word read as a signed integer is the word
less all words. -/
theorem toInt_toInt64_of_not_isValid {f : Flake} (h : f.isValid = false) :
    f.toInt64.toInt = (f.raw.toNat : Int) - 2 ^ 64 := by
  -- Such a word is in the upper half, where the signed reading is negative.
  have hset : ¬ f.raw.toNat < 2 ^ 63 := by
    rw [← isValid_iff_lt, h]
    exact Bool.false_ne_true
  have hlarge : ¬ 2 * f.raw.toBitVec.toNat < 2 ^ 64 := by
    rw [UInt64.toNat_toBitVec]
    omega
  show f.raw.toBitVec.toInt = _
  rw [BitVec.toInt_eq_toNat_cond, if_neg hlarge, UInt64.toNat_toBitVec]
  rfl

/-- The sign is the reserved bit. -/
theorem toInt64_lt_zero_iff {f : Flake} : f.toInt64 < 0 ↔ f.isValid = false := by
  rw [Int64.lt_iff_toInt_lt]
  show f.toInt64.toInt < 0 ↔ _
  cases hvalid : f.isValid with
  | true =>
      rw [toInt_toInt64 hvalid]
      exact iff_of_false (Int.not_lt.mpr (Int.natCast_nonneg _)) nofun
  | false =>
      have hsize := f.raw.toNat_lt
      rw [toInt_toInt64_of_not_isValid hvalid]
      exact iff_of_true (by omega) rfl

/-- The signed word of a valid identifier is taken for it. -/
theorem ofInt64_of_isValid {f : Flake} (h : f.isValid = true) : ofInt64 f.toInt64 = .ok f := by
  have hsign : ¬ f.toInt64 < 0 := by
    rw [toInt64_lt_zero_iff, h]
    exact nofun
  rw [ofInt64, if_neg hsign, toInt64, UInt64.toUInt64_toInt64]

/-- A negative one is refused. -/
theorem ofInt64_of_not_isValid {f : Flake} (h : f.isValid = false) :
    ∃ reason, ofInt64 f.toInt64 = .error (.invalidId reason) :=
  ⟨_, if_pos (toInt64_lt_zero_iff.mpr h)⟩

/-- An identifier that was read from a signed word has it. -/
theorem toInt64_of_ofInt64 {n : Int64} {f : Flake} (h : ofInt64 n = .ok f) : f.toInt64 = n := by
  unfold ofInt64 at h
  split at h
  · cases h
  · cases h
    rfl

/-- A signed number that is taken gives a valid identifier. -/
theorem isValid_of_ofInt64 {n : Int64} {f : Flake} (h : ofInt64 n = .ok f) : f.isValid = true := by
  unfold ofInt64 at h
  split at h
  · cases h
  · rename_i hsign
    cases h
    rw [← Bool.not_eq_false, ← toInt64_lt_zero_iff]
    exact hsign

/-! ### Texts -/

/-- A text that reads as the number in a word is taken for the word. -/
theorem parse_of_read {s : String} {f : Flake}
    (htrim : Text.trim s.toList = s.toList) (hread : Text.Decimal.read s.toList = .ok f.raw.toNat) :
    parse s = ofWord f.raw := by
  rw [parse, htrim, hread]
  -- The number is that of a word, so it is the word again.
  show ofWord (UInt64.ofNat f.raw.toNat) = _
  rw [UInt64.ofNat_toNat]

/-- The decimal text is read as the word. -/
theorem parse_text (f : Flake) : parse f.text = ofWord f.raw := by
  refine parse_of_read ?_ ?_
  · rw [text, Text.Decimal.text, String.toList_ofList]
    exact Text.trim_eq_self_of_isDigit (Text.Decimal.isDigit_of_mem_digits _)
  · rw [text, Text.Decimal.text, String.toList_ofList]
    exact Text.Decimal.read_digits f.raw.toNat_lt

/-- The padded text is read as the word, too. -/
theorem parse_paddedText (f : Flake) : parse f.paddedText = ofWord f.raw := by
  refine parse_of_read ?_ ?_
  · rw [paddedText, String.toList_ofList]
    exact Text.trim_eq_self_of_isDigit fun c => Text.Decimal.isDigit_of_mem_padded
  · rw [paddedText, String.toList_ofList]
    exact Text.Decimal.read_padded 19 f.raw.toNat_lt

/-- A text gives valid identifiers only. -/
theorem isValid_of_parse {s : String} {f : Flake} (h : parse s = .ok f) : f.isValid = true := by
  unfold parse at h
  split at h
  · exact (ofWord_eq_ok_iff.mp h).2
  · cases h

/-! ### All of them -/

/-- An identifier that some conversion gave. -/
inductive Converted : Flake → Prop
  | word {raw : UInt64} {f : Flake} (h : ofWord raw = .ok f) : Converted f
  | signed {n : Int64} {f : Flake} (h : ofInt64 n = .ok f) : Converted f
  | text {s : String} {f : Flake} (h : parse s = .ok f) : Converted f

/-- Whatever a conversion is given, it gives a valid identifier. -/
theorem Converted.isValid {f : Flake} (h : f.Converted) : f.isValid = true := by
  cases h with
  | word h => exact (ofWord_eq_ok_iff.mp h).2
  | signed h => exact isValid_of_ofInt64 h
  | text h => exact isValid_of_parse h

/-- An identifier read back from each of its encodings: the word, the signed
word, the decimal text and the padded one. -/
def readBack (f : Flake) : List (Except Error Flake) :=
  [ofWord f.raw, ofInt64 f.toInt64, parse f.text, parse f.paddedText]

/-- A valid identifier comes back from each of its encodings. -/
theorem readBack_of_isValid {f : Flake} (h : f.isValid = true) : ∀ r ∈ f.readBack, r = .ok f := by
  -- The texts are read as the word, so all four are one.
  have hword : ofWord f.raw = .ok f := ofWord_eq_ok_iff.mpr ⟨rfl, h⟩
  rw [readBack, parse_text, parse_paddedText, ofInt64_of_isValid h, hword]
  simp

/-- A word with the reserved bit set comes back from none. -/
theorem readBack_of_not_isValid {f : Flake} (h : f.isValid = false) :
    ∀ r ∈ f.readBack, ∃ reason, r = .error (.invalidId reason) := by
  have hword := ofWord_of_not_isValid h
  rw [readBack, parse_text, parse_paddedText]
  simp only [List.forall_mem_cons]
  exact ⟨hword, ofInt64_of_not_isValid h, hword, hword, nofun⟩

end Flake

namespace Tagged

variable {name : String}

/-- A tagged identifier that some conversion gave. -/
inductive Converted : Tagged name → Prop
  | word {raw : UInt64} {t : Tagged name} (h : ofWord raw = .ok t) : Converted t
  | signed {n : Int64} {t : Tagged name} (h : ofInt64 n = .ok t) : Converted t
  | text {s : String} {t : Tagged name} (h : parse s = .ok t) : Converted t

/-- A tagged identifier read back from each of its encodings. -/
def readBack (t : Tagged name) : List (Except Error (Tagged name)) :=
  [ofWord t.value, ofInt64 t.toInt64, parse t.text, parse t.flake.paddedText]

/-- A tag changes nothing of a conversion. -/
theorem readBack_eq (t : Tagged name) :
    t.readBack = t.flake.readBack.map (Except.map Tagged.mk) := rfl

/-- A conversion with a tag gives what it gives without. -/
theorem flake_of_map {r : Except Error Flake} {t : Tagged name} (h : r.map Tagged.mk = .ok t) :
    r = .ok t.flake := by
  cases r with
  | error e => cases h
  | ok f =>
      cases h
      rfl

/-- A tagged identifier that was converted holds an identifier that was
converted. -/
theorem Converted.flake {t : Tagged name} (h : t.Converted) : t.flake.Converted := by
  cases h with
  | word h => exact .word (flake_of_map h)
  | signed h => exact .signed (flake_of_map h)
  | text h => exact .text (flake_of_map h)

end Tagged

/-- Take any word, valid or not, and a name for a kind of things.

If the top bit is clear, the word, its signed integer, its decimal text and its
padded text all read back as the identifier with this word, tagged or not. If it
is set, all of them are refused as no identifier. And whatever a conversion is
given, it never gives an identifier with the reserved bit set. -/
theorem conversions_agree (name : String) (f : Flake) :
    (f.raw.toNat.testBit 63 = false →
      (∀ r ∈ f.readBack, r = .ok f) ∧
        ∀ r ∈ (Tagged.mk f : Tagged name).readBack, r = .ok ⟨f⟩) ∧
    (f.raw.toNat.testBit 63 = true →
      (∀ r ∈ f.readBack, ∃ reason, r = .error (.invalidId reason)) ∧
        ∀ r ∈ (Tagged.mk f : Tagged name).readBack, ∃ reason, r = .error (.invalidId reason)) ∧
    (f.Converted → f.isValid = true) ∧
    ∀ t : Tagged name, t.Converted → t.flake.isValid = true := by
  refine ⟨fun hclear => ?_, fun hset => ?_, Flake.Converted.isValid, fun t ht => ht.flake.isValid⟩
  · have hback := Flake.readBack_of_isValid (Flake.isValid_iff_testBit.mpr hclear)
    refine ⟨hback, ?_⟩
    rw [Tagged.readBack_eq, List.forall_mem_map]
    intro r hr
    rw [hback r hr]
    rfl
  · have hinvalid : f.isValid = false := by
      rw [← Bool.not_eq_true, Flake.isValid_iff_testBit, hset]
      exact nofun
    have hback := Flake.readBack_of_not_isValid hinvalid
    refine ⟨hback, ?_⟩
    rw [Tagged.readBack_eq, List.forall_mem_map]
    intro r hr
    obtain ⟨reason, rfl⟩ := hback r hr
    exact ⟨reason, rfl⟩

/-- An identifier, and the first word that is none. -/
theorem conversions_agree_bothSidesOfTheLine :
    (∀ r ∈ (Flake.ofParts 1 7 1).readBack, r = .ok (Flake.ofParts 1 7 1)) ∧
      ∀ r ∈ (Tagged.mk ⟨9223372036854775808⟩ : Tagged "UserId").readBack,
        ∃ reason, r = .error (.invalidId reason) :=
  ⟨((conversions_agree "UserId" (.ofParts 1 7 1)).1 (by decide)).1,
    ((conversions_agree "UserId" ⟨9223372036854775808⟩).2.1 (by decide)).2⟩

end Snowflake
