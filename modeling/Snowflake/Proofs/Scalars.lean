import Snowflake.Json.Printer
import Snowflake.Json.Reader
import Snowflake.Proofs.Numerals

/-!
# `Snowflake.Proofs.Scalars`: strings and whole numbers through text

The printer escapes a string character by character, and the reader takes it
back in parts: a control character without a letter of its own comes back as a
UTF-16 unit, every other character as itself. `partOf` says which, and
`joinParts_map_partOf` puts the string together again. A whole number comes
back because its numeral has no leading zero, is followed by neither point nor
exponent, and fits into a word.

`readToken_quote` and `readToken_signedText` leave open what follows the word,
so they hold of a string or a number inside a longer text as well.
-/

set_option autoImplicit false

namespace Snowflake

open Text

namespace Json

/-! ### Strings -/

/-- The part of a string that comes back from the escape of a character. -/
def partOf (c : Char) : Part :=
  if c.toNat < 0x20 ∧ c ∉ ['\x08', '\x0c', '\n', '\r', '\t'] then .unit c.toNat else .char c

/-- A hexadecimal digit is read as its value. -/
theorem hexValue?_digitChar {d : Nat} (h : d < 16) : hexValue? (Nat.digitChar d) = some d := by
  have hall : ∀ d : Fin 16, hexValue? (Nat.digitChar d.val) = some d.val := by decide
  exact hall ⟨d, h⟩

/-- The four digits of a unit below 256 are read as the unit. -/
theorem unitValue?_digitChar {n : Nat} (h : n < 256) :
    unitValue? '0' '0' (Nat.digitChar (n / 16)) (Nat.digitChar (n % 16)) = some n := by
  have hzero : hexValue? '0' = some 0 := by decide
  have hhigh := hexValue?_digitChar (d := n / 16) (by omega)
  have hlow := hexValue?_digitChar (d := n % 16) (by omega)
  have hvalue : ((0 * 16 + 0) * 16 + n / 16) * 16 + n % 16 = n := by omega
  rw [unitValue?, hzero, hhigh, hlow]
  exact congrArg some hvalue

section

variable (rest : List Char)

/-- An escape with four digits is read as a unit. -/
theorem readParts_unit {a b c d : Char} {n : Nat} (h : unitValue? a b c d = some n) :
    readParts ('\\' :: 'u' :: a :: b :: c :: d :: rest)
      = (readParts rest).map fun p => (.unit n :: p.1, p.2) := by
  rw [readParts, h]
  cases readParts rest <;> rfl

/-- An escape with a letter is read as the character that it stands for. -/
theorem readParts_letter {letter c : Char} (h : escaped? letter = some c) :
    readParts ('\\' :: letter :: rest) = (readParts rest).map fun p => (.char c :: p.1, p.2) := by
  rw [readParts]
  · rw [h]
    cases readParts rest <;> rfl
  · -- The letter of a unit stands for no character.
    rintro _ _ _ _ _ rfl -
    cases h

/-- Any other character is read as itself. -/
theorem readParts_plain {c : Char} (hquote : c ≠ '"') (hbackslash : c ≠ '\\')
    (hcontrol : ¬ c.toNat < 0x20) :
    readParts (c :: rest) = (readParts rest).map fun p => (.char c :: p.1, p.2) := by
  rw [readParts]
  · rw [if_neg hcontrol]
    cases readParts rest <;> rfl
  · exact hquote
  · exact fun _ _ _ _ _ h _ => hbackslash h
  · exact fun _ _ h _ => hbackslash h

/-- The escape of a character is read as one part, whatever follows. -/
theorem readParts_escape (c : Char) :
    readParts (escape c ++ rest) = (readParts rest).map fun p => (partOf c :: p.1, p.2) := by
  unfold escape
  split
  case h_8 hquote hbackslash hb hf hn hr ht =>
    split
    · rename_i hcontrol
      -- A control character without a letter of its own is escaped as a unit.
      have hpart : partOf c = .unit c.toNat :=
        if_pos ⟨hcontrol, by simpa using ⟨hb, hf, hn, hr, ht⟩⟩
      rw [hpart]
      exact readParts_unit rest (unitValue?_digitChar (by omega))
    · rename_i hplain
      have hpart : partOf c = .char c := if_neg fun h => hplain h.1
      rw [hpart]
      exact readParts_plain rest hquote hbackslash hplain
  all_goals exact readParts_letter rest rfl

/-- The escapes of a string are read as its parts, up to the quotation mark. -/
theorem readParts_flatMap_escape (cs : List Char) :
    readParts (cs.flatMap escape ++ '"' :: rest) = some (cs.map partOf, rest) := by
  induction cs with
  | nil => rfl
  | cons c cs ih =>
      rw [List.flatMap_cons, List.append_assoc, readParts_escape, ih]
      rfl

end

/-- A unit below the surrogates is a character, whatever follows it. -/
theorem joinParts_unit {n : Nat} (h : n < 0xD800) (ps : List Part) :
    joinParts (.unit n :: ps) = (joinParts ps).map (Char.ofNat n :: ·) := by
  have hhigh : isHighHalf n = false := by simp [isHighHalf]; omega
  have hlow : isLowHalf n = false := by simp [isLowHalf]; omega
  rcases ps with _ | ⟨_ | m, ps⟩
  · simp [joinParts, hhigh, hlow]
  · simp [joinParts, hhigh, hlow]
  · simp [joinParts, hhigh, hlow]

/-- The parts are put together to the string. -/
theorem joinParts_map_partOf (cs : List Char) : joinParts (cs.map partOf) = some cs := by
  induction cs with
  | nil => rfl
  | cons c cs ih =>
      rw [List.map_cons, partOf]
      split
      · rename_i hunit
        -- A control character is far below the surrogates.
        rw [joinParts_unit (by omega), ih, Char.ofNat_toNat]
        rfl
      · rw [joinParts, ih]
        rfl

/-- A string in quotation marks is read as the string. -/
theorem readToken_quote (s : String) (rest : List Char) :
    readToken ((quote s).toList ++ rest) = some (.string s, rest) := by
  -- Between the quotation marks the escapes are read and put together.
  have hstring : readString (s.toList.flatMap escape ++ '"' :: rest) = some (s, rest) := by
    rw [readString, readParts_flatMap_escape]
    simp [joinParts_map_partOf]
  rw [quote, String.toList_ofList, List.cons_append, List.cons_append, List.append_assoc,
    List.singleton_append, readToken, hstring]
  rfl

/-! ### Numbers -/

/-- The values of digits. -/
def values (cs : List Char) : List Nat := cs.map fun c => c.toNat - 48

/-- What stands behind a number does not carry it on. -/
def EndsNumber (rest : List Char) : Prop :=
  ∀ c ∈ rest.head?, c.isDigit = false ∧ c ≠ '.' ∧ c ≠ 'e' ∧ c ≠ 'E'

/-- At the end of the text a number ends. -/
theorem endsNumber_nil : EndsNumber [] := nofun

/-- Digits are read up to where the number ends. -/
theorem readDigits_append {cs rest : List Char} (h : ∀ c ∈ cs, c.isDigit = true)
    (hrest : EndsNumber rest) : readDigits (cs ++ rest) = (values cs, rest) := by
  induction cs with
  | nil =>
      match rest with
      | [] => rfl
      | c :: rest =>
          -- What follows is no digit, so reading stops there.
          have hnone : Decimal.digitValue? c = none := by
            rw [Decimal.digitValue?_eq, (hrest c rfl).1]
            rfl
          rw [List.nil_append, readDigits, hnone]
          rfl
  | cons c cs ih =>
      have hsome : Decimal.digitValue? c = some (c.toNat - 48) := by
        rw [Decimal.digitValue?_eq, h c (.head _)]
        rfl
      rw [List.cons_append, readDigits, hsome, ih fun d hd => h d (.tail _ hd)]
      rfl

/-- Digits that read as a number of 64 bits all fit into the word. -/
theorem appendFitting_values {acc m : Nat} {cs : List Char}
    (h : Decimal.readDigits acc cs = .ok m) : appendFitting acc (values cs) = (m, 0) := by
  induction cs generalizing acc with
  | nil =>
      cases h
      rfl
  | cons c cs ih =>
      rw [Decimal.readDigits, Decimal.digitValue?_eq] at h
      cases hdigit : c.isDigit with
      | false =>
          rw [hdigit] at h
          cases h
      | true =>
          rw [hdigit, if_pos rfl] at h
          show appendFitting acc ((c.toNat - 48) :: values cs) = _
          rw [appendFitting]
          split at h
          · cases h
          · rename_i d hd
            cases hd
            -- A digit is read only if the number with it fits, which is what appending asks.
            split at h
            · rename_i hfits
              rw [if_pos hfits]
              exact ih h
            · cases h

/-- A numeral is the whole part of a number: it has a digit, and no zero in
front of others. -/
theorem readWhole_digits (n : Nat) {rest : List Char} (hrest : EndsNumber rest) :
    readWhole (Decimal.digits n ++ rest) = some (values (Decimal.digits n), rest) := by
  unfold readWhole
  rw [readDigits_append (Decimal.isDigit_of_mem_digits n) hrest]
  -- The two refusals are no digit at all and a zero in front of others.
  split
  · rename_i hpair
    have hnil := List.map_eq_nil_iff.mp (Prod.mk.inj hpair).1
    exact absurd hnil (Decimal.digits_ne_nil n)
  · rename_i hpair
    obtain ⟨c, cs, hdigits, hzero, hmore⟩ := List.map_eq_cons_iff.mp (Prod.mk.inj hpair).1
    rcases Nat.eq_zero_or_pos n with rfl | hpos
    · -- Zero has no second digit.
      rw [Decimal.digits_of_lt (by decide)] at hdigits
      cases hdigits
      cases hmore
    · have hhead := Decimal.digits_head_pos hpos c (by rw [hdigits]; rfl)
      omega
  · rename_i hpair
    exact congrArg some hpair.symm

/-- There is no fraction behind a number that has ended. -/
theorem readFraction_of_endsNumber {rest : List Char} (hrest : EndsNumber rest) :
    readFraction rest = some (none, rest) := by
  rw [readFraction]
  rintro cs rfl
  exact (hrest '.' rfl).2.1 rfl

/-- There is no exponent behind a number that has ended. -/
theorem readExponent_of_endsNumber {rest : List Char} (hrest : EndsNumber rest) :
    readExponent rest = some (none, rest) := by
  cases rest with
  | nil => rfl
  | cons c rest =>
      have hexponent : ¬ (c = 'e' ∨ c = 'E') := not_or.mpr (hrest c rfl).2.2
      unfold readExponent
      exact if_neg hexponent

/-- A numeral is read as a number without a fraction or an exponent. -/
theorem readUnsigned_digits (negative : Bool) (m : Nat) {rest : List Char}
    (hrest : EndsNumber rest) :
    readUnsigned negative (Decimal.digits m ++ rest)
      = (Numeral.number? ⟨negative, values (Decimal.digits m), none, none⟩).map (·, rest) := by
  simp only [readUnsigned, readWhole_digits m hrest, readFraction_of_endsNumber hrest,
    readExponent_of_endsNumber hrest, Option.bind_eq_bind, Option.bind_some]
  cases Numeral.number? ⟨negative, values (Decimal.digits m), none, none⟩ <;> rfl

/-- A number that fits into a word is a whole one. -/
theorem number?_digits {m : Nat} (h : m < UInt64.size) :
    Numeral.number? ⟨false, values (Decimal.digits m), none, none⟩ = some (.whole m) := by
  have hfits := appendFitting_values (Decimal.readDigits_digits h)
  simp only [Numeral.number?, hfits]
  rfl

/-- A negative whole number is one if it fits into a signed word. -/
theorem number?_neg_digits {m : Nat} (hpos : 0 < m) (h : m ≤ 9223372036854775808) :
    Numeral.number? ⟨true, values (Decimal.digits m), none, none⟩ = some (.whole (-m)) := by
  have hword : m < UInt64.size := by
    rw [UInt64.size]
    omega
  have hfits := appendFitting_values (Decimal.readDigits_digits hword)
  simp [Numeral.number?, hfits, hpos, h]

/-- A whole number is read as it was written, whatever ends it. -/
theorem readNumber_signedText {n : Int} (hlow : -2 ^ 63 ≤ n) (hhigh : n < 2 ^ 64)
    {rest : List Char} (hrest : EndsNumber rest) :
    readNumber ((Decimal.signedText n).toList ++ rest) = some (.whole n, rest) := by
  by_cases hneg : n < 0
  · have hvalue : -(n.natAbs : Int) = n := by omega
    rw [Decimal.toList_signedText_of_neg hneg]
    show readUnsigned true (Decimal.digits n.natAbs ++ rest) = _
    rw [readUnsigned_digits true _ hrest, number?_neg_digits (by omega) (by omega), hvalue]
    rfl
  · have hvalue : (n.natAbs : Int) = n := by omega
    have hword : n.natAbs < UInt64.size := by
      rw [UInt64.size]
      omega
    -- A numeral starts with a digit, so no sign is read.
    have hunsigned : readNumber (Decimal.digits n.natAbs ++ rest)
        = readUnsigned false (Decimal.digits n.natAbs ++ rest) := by
      obtain ⟨c, cs, hdigits, hdigit⟩ := Decimal.digits_eq_cons n.natAbs
      rw [hdigits, List.cons_append, readNumber]
      rintro _ ⟨⟩
      exact absurd hdigit (by decide)
    rw [Decimal.toList_signedText_of_nonneg (by omega), hunsigned,
      readUnsigned_digits false _ hrest, number?_digits hword, hvalue]
    rfl

/-- A whole number starts with a digit or a sign. -/
theorem signedText_eq_cons (n : Int) :
    ∃ c cs, (Decimal.signedText n).toList = c :: cs ∧ (c.isDigit = true ∨ c = '-') := by
  by_cases hneg : n < 0
  · exact ⟨'-', _, Decimal.toList_signedText_of_neg hneg, .inr rfl⟩
  · obtain ⟨c, cs, hdigits, hdigit⟩ := Decimal.digits_eq_cons n.natAbs
    rw [Decimal.toList_signedText_of_nonneg (by omega)]
    exact ⟨c, cs, hdigits, .inl hdigit⟩

/-- A word that starts with a digit or a sign is a number. -/
theorem readToken_number {c : Char} (hc : c.isDigit = true ∨ c = '-') (cs : List Char) :
    readToken (c :: cs) = (readNumber (c :: cs)).map fun (n, rest) => (.number n, rest) := by
  rw [readToken]
  -- No other word starts with such a character.
  all_goals
    rintro _ ⟨⟩
    exact absurd hc (by decide)

/-- A whole number is one word of the text. -/
theorem readToken_signedText {n : Int} (hlow : -2 ^ 63 ≤ n) (hhigh : n < 2 ^ 64)
    {rest : List Char} (hrest : EndsNumber rest) :
    readToken ((Decimal.signedText n).toList ++ rest) = some (.number (.whole n), rest) := by
  have hnumber := readNumber_signedText hlow hhigh hrest
  obtain ⟨c, cs, hcs, hc⟩ := signedText_eq_cons n
  rw [hcs, List.cons_append] at hnumber ⊢
  rw [readToken_number hc, hnumber]
  rfl

/-- A number does not start with a blank. -/
theorem isBlank_of_number {c : Char} (h : c.isDigit = true ∨ c = '-') : isBlank c = false := by
  simp only [isBlank, Bool.or_eq_false_iff, decide_eq_false_iff_not]
  refine ⟨⟨⟨?_, ?_⟩, ?_⟩, ?_⟩
  all_goals
    rintro rfl
    exact absurd h (by decide)

end Json

end Snowflake
