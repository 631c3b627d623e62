import Snowflake.Proofs.Numerals
import Snowflake.Worker.Source

/-!
# `Snowflake.Proofs.Grammar`: which texts spell a number

People and deployments pass numbers in as texts. `Text.Decimal.Spells` is the
grammar of these numerals: decimal digits, at least one, and perhaps a plus
sign in front of them. It puts no bound on the number.

`Text.Decimal.read_eq_ok_iff` shows that `read` accepts exactly the numerals
below `2 ^ 64` and gives the number that they spell. Its proof follows
`readDigits` along the text. What is read so far only grows, so a text whose
number is small enough never runs into the bound on the way.

`WorkerSource.trailingOrdinal?_eq_some_iff` says the same of the numeral at the
end of a host name.
-/

set_option autoImplicit false

namespace Snowflake

namespace Text.Decimal

/-- The number that digits stand for, behind the number read so far. -/
def valueFrom (acc : Nat) (ds : List Char) : Nat :=
  ds.foldl (fun acc c => acc * 10 + (c.toNat - 48)) acc

/-- The text is a numeral of the number. -/
def Spells (cs : List Char) (n : Nat) : Prop :=
  ∃ ds, ds ≠ [] ∧ (∀ c ∈ ds, c.isDigit = true) ∧ (cs = ds ∨ cs = '+' :: ds) ∧
    n = valueFrom 0 ds

/-- Reading on never makes the number smaller. -/
theorem le_valueFrom (acc : Nat) (ds : List Char) : acc ≤ valueFrom acc ds := by
  induction ds generalizing acc with
  | nil => exact Nat.le_refl acc
  | cons c ds ih =>
      have hrest := ih (acc * 10 + (c.toNat - 48))
      show acc ≤ valueFrom (acc * 10 + (c.toNat - 48)) ds
      omega

/-- A text is read as a number exactly if all of it is digits and the number
has 64 bits. -/
theorem readDigits_eq_ok_iff {acc n : Nat} (hacc : acc < UInt64.size) {cs : List Char} :
    readDigits acc cs = .ok n ↔
      (∀ c ∈ cs, c.isDigit = true) ∧ n = valueFrom acc cs ∧ n < UInt64.size := by
  induction cs generalizing acc with
  | nil =>
      simp only [readDigits, Except.ok.injEq]
      constructor
      · rintro rfl
        exact ⟨List.forall_mem_nil _, rfl, hacc⟩
      · rintro ⟨-, rfl, -⟩
        rfl
  | cons c cs ih =>
      rw [readDigits, digitValue?_eq, List.forall_mem_cons]
      by_cases hc : c.isDigit = true
      · simp only [hc, if_true, true_and]
        by_cases hfits : acc * 10 + (c.toNat - 48) < UInt64.size
        · rw [if_pos hfits]
          exact ih hfits
        · -- The number of the whole text is no smaller.
          have hle := le_valueFrom (acc * 10 + (c.toNat - 48)) cs
          rw [if_neg hfits]
          refine iff_of_false (by simp) ?_
          rintro ⟨-, rfl, hlt⟩
          exact hfits (Nat.lt_of_le_of_lt hle hlt)
      · simp only [if_neg hc]
        refine iff_of_false (by simp) ?_
        rintro ⟨⟨hdigit, -⟩, -⟩
        exact hc hdigit

/-- A sign with something behind it is left out. -/
theorem read_plus {ds : List Char} (h : ds ≠ []) : read ('+' :: ds) = readDigits 0 ds := by
  cases ds with
  | nil => exact absurd rfl h
  | cons c ds => rfl

/-- A text is read as a number exactly if it spells the number, and the number
has 64 bits. -/
theorem read_eq_ok_iff {cs : List Char} {n : Nat} :
    read cs = .ok n ↔ Spells cs n ∧ n < UInt64.size := by
  have hzero : 0 < UInt64.size := by decide
  constructor
  · intro h
    cases cs with
    | nil => cases h
    | cons c cs =>
        by_cases hplus : c = '+'
        · subst hplus
          by_cases hcs : cs = []
          · -- A sign alone is no digit.
            subst hcs
            cases h
          · rw [read_plus hcs, readDigits_eq_ok_iff hzero] at h
            exact ⟨⟨cs, hcs, h.1, .inr rfl, h.2.1⟩, h.2.2⟩
        · rw [read_eq_readDigits (List.cons_ne_nil c cs) (by rintro _ ⟨⟩; exact hplus),
            readDigits_eq_ok_iff hzero] at h
          exact ⟨⟨c :: cs, List.cons_ne_nil c cs, h.1, .inl rfl, h.2.1⟩, h.2.2⟩
  · rintro ⟨⟨ds, hne, hdigits, hcs, hn⟩, hlt⟩
    have hread := (readDigits_eq_ok_iff hzero).mpr ⟨hdigits, hn, hlt⟩
    rcases hcs with rfl | rfl
    · rw [read_of_isDigit hne hdigits, hread]
    · rw [read_plus hne, hread]

/-- A text spells one number at most. -/
theorem Spells.unique {cs : List Char} {m n : Nat} (hm : Spells cs m) (hn : Spells cs n) :
    m = n := by
  obtain ⟨ds, hne, hds, hcs, rfl⟩ := hm
  obtain ⟨es, hne', hes, hcs', rfl⟩ := hn
  have hplus : ('+').isDigit ≠ true := by decide
  -- With a sign or without, the digits are the same, as no digit is a sign.
  rcases hcs with rfl | rfl <;> rcases hcs' with h | h
  · rw [h]
  · exact absurd (hds '+' (h ▸ .head _)) hplus
  · exact absurd (hes '+' (h ▸ .head _)) hplus
  · rw [(List.cons.inj h).2]

/-- Digits are read one after another. -/
theorem valueFrom_append (acc : Nat) (ds es : List Char) :
    valueFrom acc (ds ++ es) = valueFrom (valueFrom acc ds) es :=
  List.foldl_append ..

/-- The digits of a number stand for it. -/
theorem valueFrom_digits (n : Nat) : valueFrom 0 (digits n) = n := by
  induction n using Nat.strongRecOn with
  | _ n ih =>
      have hdigit : ∀ d : Fin 10, (Nat.digitChar d).toNat - 48 = d := by decide
      by_cases hn : n < 10
      · rw [digits_of_lt hn]
        show 0 * 10 + ((Nat.digitChar n).toNat - 48) = n
        have hlast := hdigit ⟨n, hn⟩
        simp only at hlast
        omega
      · rw [digits_of_ge (by omega), valueFrom_append, ih (n / 10) (by omega)]
        show n / 10 * 10 + ((Nat.digitChar (n % 10)).toNat - 48) = n
        have hlast := hdigit ⟨n % 10, Nat.mod_lt n (by decide)⟩
        simp only at hlast
        omega

/-- A number as text is a numeral of the number. -/
theorem spells_text (n : Nat) : Spells (text n).toList n := by
  refine ⟨digits n, digits_ne_nil n, isDigit_of_mem_digits n, .inl ?_, ?_⟩
  · simp [text]
  · exact (valueFrom_digits n).symm

/-- Apart from the sign, a numeral is made of digits. -/
theorem Spells.notMem {c : Char} (hdigit : c.isDigit = false) (hplus : c ≠ '+') {cs : List Char}
    {n : Nat} (h : Spells cs n) : c ∉ cs := by
  obtain ⟨ds, -, hdigits, hcs, -⟩ := h
  have hds : c ∉ ds := by
    intro hmem
    rw [hdigits c hmem] at hdigit
    cases hdigit
  rcases hcs with rfl | rfl
  · exact hds
  · exact fun hmem => (List.mem_cons.mp hmem).elim hplus hds

/-- A numeral has no minus sign. -/
theorem Spells.minus_notMem {cs : List Char} {n : Nat} (h : Spells cs n) : '-' ∉ cs :=
  h.notMem rfl (by decide)

/-- A padded numeral spells its number too. -/
theorem spells_padded (width n : Nat) : Spells (padded width n) n := by
  have hzeros : ∀ k, valueFrom 0 (List.replicate k '0') = 0 := by
    intro k
    induction k with
    | zero => rfl
    | succ k ih => exact ih
  refine ⟨padded width n, ?_, fun c hc => isDigit_of_mem_padded hc, .inl rfl, ?_⟩
  · exact List.append_ne_nil_of_right_ne_nil _ (digits_ne_nil n)
  · rw [padded, valueFrom_append, hzeros, valueFrom_digits]

end Text.Decimal

namespace WorkerSource

/-- The text up to a character is what stands before its first occurrence. -/
theorem takeWhile_ne_append {sep : Char} {front : List Char} (h : sep ∉ front)
    (rest : List Char) : (front ++ sep :: rest).takeWhile (· ≠ sep) = front := by
  -- In front of the first occurrence no character is the separator.
  have hfront : ∀ c ∈ front, decide (c ≠ sep) = true := by
    intro c hc
    exact decide_eq_true fun heq => h (heq ▸ hc)
  rw [List.takeWhile_append_of_pos hfront]
  simp

/-- What stands behind the last separator is cut off at it. -/
theorem afterLast?_eq_some_iff {sep : Char} {cs suffix : List Char} :
    afterLast? sep cs = some suffix ↔ ∃ front, cs = front ++ sep :: suffix ∧ sep ∉ suffix := by
  constructor
  · intro h
    unfold afterLast? at h
    split at h
    · rename_i hmem
      -- The last occurrence is the first one from behind.
      obtain ⟨back, rest, hreverse, hback⟩ :=
        List.eq_append_cons_of_mem (List.mem_reverse.mpr hmem)
      rw [hreverse, takeWhile_ne_append hback] at h
      cases h
      refine ⟨rest.reverse, ?_, fun hmem => hback (List.mem_reverse.mp hmem)⟩
      rw [← List.reverse_reverse cs, hreverse]
      simp
    · cases h
  · rintro ⟨front, rfl, hsuffix⟩
    have hmem : sep ∈ front ++ sep :: suffix := List.mem_append_right _ (.head _)
    have hreverse : (front ++ sep :: suffix).reverse = suffix.reverse ++ sep :: front.reverse := by
      simp
    rw [afterLast?, if_pos hmem, hreverse,
      takeWhile_ne_append fun h => hsuffix (List.mem_reverse.mp h), List.reverse_reverse]

/-- The ordinal of a host name is the number that is spelled behind its last
`-`. -/
theorem trailingOrdinal?_eq_some_iff {hostname : String} {n : Nat} :
    trailingOrdinal? hostname = some n ↔ ∃ front suffix,
      hostname.toList = front ++ '-' :: suffix ∧ '-' ∉ suffix ∧
        Text.Decimal.Spells suffix n ∧ n < UInt64.size := by
  have hread : ∀ suffix : List Char, (Text.Decimal.read suffix).toOption = some n ↔
      Text.Decimal.read suffix = .ok n := by
    intro suffix
    cases Text.Decimal.read suffix <;> simp [Except.toOption]
  simp only [trailingOrdinal?, Option.bind_eq_some_iff, afterLast?_eq_some_iff, hread,
    Text.Decimal.read_eq_ok_iff]
  constructor
  · rintro ⟨suffix, ⟨front, hsplit, hlast⟩, hspells⟩
    exact ⟨front, suffix, hsplit, hlast, hspells⟩
  · rintro ⟨front, suffix, hsplit, hlast, hspells⟩
    exact ⟨suffix, ⟨front, hsplit, hlast⟩, hspells⟩

end WorkerSource

end Snowflake
