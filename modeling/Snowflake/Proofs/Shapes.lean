import Snowflake.Flake.Json
import Snowflake.Proofs.Conversions
import Snowflake.Proofs.Documents

/-!
# `Snowflake.Proofs.Shapes`: an identifier in JSON

Each of the three shapes writes any word, also one that is no identifier, but
reads only what is one. The unsigned shape takes a word and looks at the
reserved bit, the signed one takes half as many numbers on either side of zero
and looks at the sign, and the string is parsed. `shapes_agree` shows that the
two numbers are taken by the same rule, and that what a shape writes comes back
through text, or is refused there when the reserved bit is set.

`Shape.decode_encode` reduces the second part to `Flake.readBack`: a shape reads
what it wrote by one of the conversions of the identifier.
-/

set_option autoImplicit false

namespace Snowflake

namespace Shape

/-! ### What is taken -/

/-- A whole number is taken as unsigned if it is the word of an identifier. -/
theorem ofUnsigned_eq_ok_iff {n : Int} {f : Flake} :
    ofUnsigned n = .ok f ↔ f.isValid = true ∧ n = f.raw.toNat := by
  have hsize := f.raw.toNat_lt
  unfold ofUnsigned
  split
  · rename_i hrange
    rw [mapError_eq_ok_iff, Flake.ofWord_eq_ok_iff]
    constructor
    · rintro ⟨hraw, hvalid⟩
      have hvalue : f.raw.toNat = n.toNat := by
        rw [hraw, UInt64.toNat_ofNat', Nat.mod_eq_of_lt (by omega)]
      exact ⟨hvalid, by omega⟩
    · rintro ⟨hvalid, rfl⟩
      rw [Int.toNat_natCast, UInt64.ofNat_toNat]
      exact ⟨rfl, hvalid⟩
  · -- Every identifier is a word.
    rename_i hrange
    refine iff_of_false nofun ?_
    rintro ⟨-, rfl⟩
    omega

/-- A whole number is taken as signed under the same condition. -/
theorem ofSigned_eq_ok_iff {n : Int} {f : Flake} :
    ofSigned n = .ok f ↔ f.isValid = true ∧ n = f.raw.toNat := by
  unfold ofSigned
  split
  · rename_i hrange
    rw [mapError_eq_ok_iff]
    constructor
    · intro h
      have hvalid := Flake.isValid_of_ofInt64 h
      have hword : f.toInt64 = Int64.ofInt n := Flake.toInt64_of_ofInt64 h
      have hvalue : f.toInt64.toInt = n := by
        rw [hword, Int64.toInt_ofInt_of_le (by omega) (by omega)]
      rw [Flake.toInt_toInt64 hvalid] at hvalue
      exact ⟨hvalid, hvalue.symm⟩
    · rintro ⟨hvalid, rfl⟩
      rw [← Flake.toInt_toInt64 hvalid, Int64.ofInt_toInt, Flake.ofInt64_of_isValid hvalid]
  · -- A word beyond the range has the reserved bit set.
    rename_i hrange
    refine iff_of_false nofun ?_
    rintro ⟨hvalid, rfl⟩
    have hsmall := Flake.isValid_iff_lt.mp hvalid
    omega

/-- The words of the identifiers are the numbers below `2 ^ 63`. -/
theorem isValid_and_eq_iff {n : Int} {f : Flake} :
    f.isValid = true ∧ n = f.raw.toNat ↔ ∃ m : Nat, m < 2 ^ 63 ∧ n = m ∧ f = ⟨.ofNat m⟩ := by
  constructor
  · rintro ⟨hvalid, rfl⟩
    refine ⟨f.raw.toNat, Flake.isValid_iff_lt.mp hvalid, rfl, ?_⟩
    rw [UInt64.ofNat_toNat]
  · rintro ⟨m, hm, rfl, rfl⟩
    have hvalue : (UInt64.ofNat m).toNat = m := by
      rw [UInt64.toNat_ofNat', Nat.mod_eq_of_lt (by omega)]
    rw [Flake.isValid_iff_lt, hvalue]
    exact ⟨hm, rfl⟩

/-- It does not matter which of the two shapes that are numbers reads a whole
number. -/
theorem decode_whole_eq_ok_iff {shape : Shape} (h : shape ≠ .string) {n : Int} {f : Flake} :
    shape.decode (.number (.whole n)) = .ok f ↔ f.isValid = true ∧ n = f.raw.toNat := by
  cases shape with
  | unsigned => exact ofUnsigned_eq_ok_iff
  | signed => exact ofSigned_eq_ok_iff
  | string => exact absurd rfl h

/-- Both shapes that are numbers take the same values for the same
identifiers. -/
theorem decode_number_eq_ok_iff {shape : Shape} (h : shape ≠ .string) {v : Json} {f : Flake} :
    shape.decode v = .ok f ↔
      ∃ m : Nat, m < 2 ^ 63 ∧ v = .number (.whole m) ∧ f = ⟨.ofNat m⟩ := by
  by_cases hwhole : ∃ n, v = .number (.whole n)
  · obtain ⟨n, rfl⟩ := hwhole
    rw [decode_whole_eq_ok_iff h, isValid_and_eq_iff]
    simp only [Json.number.injEq, Json.Number.whole.injEq]
  · refine iff_of_false ?_ ?_
    · unfold decode
      split
      · exact absurd ⟨_, rfl⟩ hwhole
      · exact absurd ⟨_, rfl⟩ hwhole
      · exact absurd rfl h
      · exact nofun
    · rintro ⟨m, -, rfl, -⟩
      exact hwhole ⟨m, rfl⟩

/-- The string is taken if it parses, and gives what it parses to. -/
theorem decode_string_eq_ok_iff {v : Json} {f : Flake} :
    string.decode v = .ok f ↔ ∃ s, v = .string s ∧ Flake.parse s = .ok f := by
  cases v with
  | string s =>
      show (Flake.parse s).mapError _ = .ok f ↔ _
      rw [mapError_eq_ok_iff]
      simp
  | _ =>
      refine iff_of_false nofun ?_
      rintro ⟨s, hs, -⟩
      cases hs

/-- Whatever the shape, what it gives has the reserved bit clear. -/
theorem isValid_of_decode {shape : Shape} {v : Json} {f : Flake} (h : shape.decode v = .ok f) :
    f.isValid = true := by
  by_cases hshape : shape = .string
  · subst hshape
    obtain ⟨s, -, hs⟩ := decode_string_eq_ok_iff.mp h
    exact Flake.isValid_of_parse hs
  · obtain ⟨m, hm, -, hf⟩ := (decode_number_eq_ok_iff hshape).mp h
    exact (isValid_and_eq_iff.mpr ⟨m, hm, rfl, hf⟩).1

/-! ### There and back -/

/-- What a shape writes is read back from its text, be it an identifier or not. -/
theorem read?_compact_encode (shape : Shape) (f : Flake) :
    Json.read? (shape.encode f).compact = some (shape.encode f) := by
  cases shape with
  | unsigned =>
      have hsize := f.raw.toNat_lt
      exact Json.read?_compact (.whole (by omega) (by omega))
  | signed =>
      have hlow := f.toInt64.le_toInt
      have hhigh := f.toInt64.toInt_lt
      exact Json.read?_compact (.whole hlow (by omega))
  | string => exact Json.read?_compact (.string f.text)

/-- What a shape wrote, it reads by one of the conversions. -/
theorem decode_encode (shape : Shape) (f : Flake) :
    ∃ r ∈ f.readBack, shape.decode (shape.encode f) = r.mapError .refused := by
  cases shape with
  | unsigned =>
      refine ⟨Flake.ofWord f.raw, .head _, ?_⟩
      have hsize := f.raw.toNat_lt
      show ofUnsigned f.raw.toNat = _
      rw [ofUnsigned, if_pos (by omega), Int.toNat_natCast, UInt64.ofNat_toNat]
  | signed =>
      refine ⟨Flake.ofInt64 f.toInt64, .tail _ (.head _), ?_⟩
      have hlow := f.toInt64.le_toInt
      have hhigh := f.toInt64.toInt_lt
      show ofSigned f.toInt64.toInt = _
      rw [ofSigned, if_pos (by omega), Int64.ofInt_toInt]
  | string => exact ⟨Flake.parse f.text, .tail _ (.tail _ (.head _)), rfl⟩

end Shape

/-- Take any value and any shape.

The two shapes that are numbers take the whole numbers from zero to `2 ^ 63 - 1`
and nothing else, and give the identifier with that word. The string takes the
strings that parse, and gives what they parse to. So no shape gives an identifier
with the reserved bit set.

Now take any word, valid or not. What a shape writes for it is read back from its
text. If the top bit is clear, the shape reads it as the identifier with this
word; if it is set, the shape refuses it as no identifier. -/
theorem shapes_agree :
    (∀ shape : Shape, shape ≠ .string → ∀ v f, shape.decode v = .ok f ↔
      ∃ m : Nat, m < 2 ^ 63 ∧ v = .number (.whole m) ∧ f = ⟨.ofNat m⟩) ∧
    (∀ v f, Shape.string.decode v = .ok f ↔ ∃ s, v = .string s ∧ Flake.parse s = .ok f) ∧
    (∀ (shape : Shape) v f, shape.decode v = .ok f → f.raw.toNat.testBit 63 = false) ∧
    ∀ (shape : Shape) (f : Flake), ∃ v, Json.read? (shape.encode f).compact = some v ∧
      (f.raw.toNat.testBit 63 = false → shape.decode v = .ok f) ∧
      (f.raw.toNat.testBit 63 = true →
        ∃ reason, shape.decode v = .error (.refused (.invalidId reason))) := by
  refine ⟨fun _ h _ _ => Shape.decode_number_eq_ok_iff h,
    fun _ _ => Shape.decode_string_eq_ok_iff,
    fun _ _ _ h => Flake.isValid_iff_testBit.mp (Shape.isValid_of_decode h), fun shape f => ?_⟩
  obtain ⟨r, hr, hdecode⟩ := Shape.decode_encode shape f
  refine ⟨shape.encode f, Shape.read?_compact_encode shape f, fun hclear => ?_, fun hset => ?_⟩
  · rw [hdecode, Flake.readBack_of_isValid (Flake.isValid_iff_testBit.mpr hclear) r hr]
    rfl
  · have hinvalid : f.isValid = false := by
      rw [← Bool.not_eq_true, Flake.isValid_iff_testBit, hset]
      exact nofun
    obtain ⟨reason, rfl⟩ := Flake.readBack_of_not_isValid hinvalid r hr
    exact ⟨reason, hdecode⟩

/-- The last signed number is the last identifier. The word behind it is written
as a negative number, which is refused. -/
theorem shapes_agree_bothSidesOfTheLine :
    Shape.signed.decode (.number (.whole 9223372036854775807)) = .ok ⟨9223372036854775807⟩ ∧
      ∃ v, Json.read? (Shape.signed.encode ⟨9223372036854775808⟩).compact = some v ∧
        ∃ reason, Shape.signed.decode v = .error (.refused (.invalidId reason)) := by
  obtain ⟨hnumber, -, -, hback⟩ := shapes_agree
  obtain ⟨v, hread, -, hrefused⟩ := hback .signed ⟨9223372036854775808⟩
  exact ⟨(hnumber .signed nofun _ _).mpr ⟨9223372036854775807, by decide, rfl, rfl⟩,
    v, hread, hrefused (by decide)⟩

end Snowflake
