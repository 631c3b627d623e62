import Snowflake.Environment
import Snowflake.Proofs.Ordering

/-!
# `Snowflake.Proofs.Octets`: which octets are text

The value of an environment variable is octets, and the program reads them as
UTF-8 on its own. `Text.Octets.decode?_eq_some_iff` shows that it takes exactly
the octets in which the standard encoding writes a text, and gives that text.
So a variable holds octets exactly if they are no text in that encoding
(`VarValue.ofOctets_eq_octets_iff`).

`Text.Octets.Spelling` lists the octets of a character by the size of its code
point. Both directions go through it: a spelling is found in front of any rest
(`Spelling.found`), and what is found is a spelling (`Spelling.of_first?`). The
second one needs the least code point that is asked for each number of octets,
since without it a longer spelling of the same character would be found too.
-/

set_option autoImplicit false

namespace Snowflake

namespace Text

/-- The octets of a text are those of its characters, one after another. -/
theorem utf8_eq_flatMap (s : String) : utf8 s = s.toList.flatMap String.utf8EncodeChar := by
  have hs := String.toByteArray_ofList (l := s.toList)
  rw [String.ofList_toList] at hs
  rw [utf8, hs, List.utf8Encode, List.data_toByteArray]

/-- The octets of two texts stand one after another. -/
theorem utf8_append (s t : String) : utf8 (s ++ t) = utf8 s ++ utf8 t := by
  simp only [utf8_eq_flatMap, String.toList_append, List.flatMap_append]

/-- An array of octets is listed from its first one on. -/
theorem toList_loop_eq (bs : ByteArray) (i : Nat) (acc : List UInt8) :
    ByteArray.toList.loop bs i acc = acc.reverse ++ bs.data.toList.drop i := by
  fun_induction ByteArray.toList.loop bs i acc with
  | case1 i acc h ih =>
      have hi : i < bs.data.toList.length := by
        rw [Array.length_toList]
        exact h
      -- The loop takes the octet at its place, and goes on behind it.
      have hget : bs.get! i = bs.data.toList[i] := by
        simp [ByteArray.get!, h]
      rw [ih, List.drop_eq_getElem_cons hi, hget, List.reverse_cons, List.append_assoc,
        List.singleton_append]
  | case2 i acc h =>
      have hend : bs.data.toList.length ≤ i := by
        rw [Array.length_toList]
        exact Nat.le_of_not_lt h
      rw [List.drop_eq_nil_of_le hend, List.append_nil]

/-- The library lists the octets of a text as they are here. -/
theorem toList_toUTF8 (s : String) : s.toUTF8.toList = utf8 s := by
  rw [String.toUTF8_eq_toByteArray, ByteArray.toList, toList_loop_eq]
  rfl

namespace Octets

open String (utf8EncodeChar)

/-! ### One character -/

/-- The octet that carries the six lowest bits of a number. -/
def tailOctet (n : Nat) : UInt8 := .ofNat (n % 64 + 0x80)

/-- The octets of a character, by the size of its code point. -/
inductive Spelling (c : Char) : List UInt8 → Prop
  | one (h : c.toNat < 0x80) : Spelling c [.ofNat c.toNat]
  | two (hlow : 0x80 ≤ c.toNat) (hhigh : c.toNat < 0x800) :
      Spelling c [.ofNat (c.toNat / 64 + 0xC0), tailOctet c.toNat]
  | three (hlow : 0x800 ≤ c.toNat) (hhigh : c.toNat < 0x10000) :
      Spelling c [.ofNat (c.toNat / 4096 + 0xE0), tailOctet (c.toNat / 64), tailOctet c.toNat]
  | four (hlow : 0x10000 ≤ c.toNat) :
      Spelling c [.ofNat (c.toNat / 262144 + 0xF0), tailOctet (c.toNat / 4096),
        tailOctet (c.toNat / 64), tailOctet c.toNat]

/-- A code point has twenty-one bits, and not all of them are used. -/
theorem toNat_lt (c : Char) : c.toNat < 0x110000 := by
  have hvalid : c.toNat.isValidChar := c.valid
  unfold Nat.isValidChar at hvalid
  omega

/-- The standard encoding writes a character in its spelling. -/
theorem spelling_utf8EncodeChar (c : Char) : Spelling c (utf8EncodeChar c) := by
  have hmax := toNat_lt c
  have hvalue : c.val.toNat = c.toNat := rfl
  show Spelling c (if c.toNat ≤ 0x7F then _ else if c.toNat ≤ 0x7FF then _ else
    if c.toNat ≤ 0xFFFF then _ else _)
  -- The first octet has room for the bits that are left.
  split
  · exact .one (by omega)
  · split
    · have hlead : c.toNat / 64 % 0x20 = c.toNat / 64 := Nat.mod_eq_of_lt (by omega)
      rw [hvalue, hlead]
      exact .two (by omega) (by omega)
    · split
      · have hlead : c.toNat / 4096 % 0x10 = c.toNat / 4096 := Nat.mod_eq_of_lt (by omega)
        rw [hvalue, hlead]
        exact .three (by omega) (by omega)
      · have hlead : c.toNat / 262144 % 0x08 = c.toNat / 262144 := Nat.mod_eq_of_lt (by omega)
        rw [hvalue, hlead]
        exact .four (by omega)

/-- A character has one spelling. -/
theorem Spelling.unique {c : Char} {bs cs : List UInt8} (h : Spelling c bs)
    (h' : Spelling c cs) : bs = cs := by
  -- The sizes exclude each other.
  cases h <;> cases h' <;> first | rfl | omega

/-- The number of a character gives the character, if no more octets were asked
for than it needs. -/
theorem charFrom?_toNat {least : Nat} {c : Char} (h : least ≤ c.toNat) :
    charFrom? least c.toNat = some c := by
  have hvalid : c.toNat.isValidChar := c.valid
  rw [charFrom?, dif_pos hvalid, if_pos h]
  exact congrArg some (Char.toNat_inj.mp rfl)

/-- Only its own number gives a character. -/
theorem charFrom?_eq_some {least n : Nat} {c : Char} (h : charFrom? least n = some c) :
    c.toNat = n ∧ least ≤ n := by
  obtain ⟨hvalid, h⟩ := Option.dite_none_right_eq_some.mp h
  obtain ⟨hleast, hc⟩ := Option.ite_none_right_eq_some.mp h
  cases hc
  exact ⟨rfl, hleast⟩

/-- A number below 256 is that of its octet. -/
theorem toNat_ofNat_of_lt {n : Nat} (h : n < 256) : (UInt8.ofNat n).toNat = n := by
  rw [UInt8.toNat_ofNat', Nat.mod_eq_of_lt h]

/-- An octet is that of its number. -/
theorem ofNat_eq {b : UInt8} {n : Nat} (h : b.toNat = n) : UInt8.ofNat n = b := by
  rw [← h, UInt8.ofNat_toNat]

/-- The octet that carries six bits is read as them. -/
theorem tail?_tailOctet (n : Nat) : tail? (tailOctet n) = some (n % 64) := by
  have hvalue : (tailOctet n).toNat = n % 64 + 0x80 := toNat_ofNat_of_lt (by omega)
  have hrange : 0x80 ≤ n % 64 + 0x80 ∧ n % 64 + 0x80 ≤ 0xBF := by omega
  rw [tail?, hvalue, if_pos hrange, Nat.add_sub_cancel]

/-- An octet that is read as six bits carries them. -/
theorem tail?_eq_some {b : UInt8} {m : Nat} (h : tail? b = some m) :
    m < 64 ∧ b.toNat = m + 0x80 := by
  unfold tail? at h
  split at h
  · rename_i hrange
    have hm := Option.some.inj h
    omega
  · cases h

/-- An octet behind the first one is the one that carries its six bits. -/
theorem tailOctet_eq {b : UInt8} {m n : Nat} (h : tail? b = some m) (hn : n % 64 = m) :
    tailOctet n = b := by
  refine ofNat_eq ?_
  rw [hn]
  exact (tail?_eq_some h).2

/-- A character is found where it is spelled, whatever follows it. -/
theorem Spelling.found {c : Char} {bs : List UInt8} (h : Spelling c bs) (rest : List UInt8) :
    first? (bs ++ rest) = some (c, bs.length) := by
  have hmax := toNat_lt c
  cases h with
  | one h =>
      have ha : (UInt8.ofNat c.toNat).toNat = c.toNat := toNat_ofNat_of_lt (by omega)
      have hc := charFrom?_toNat (Nat.zero_le c.toNat)
      rw [← ha] at h
      refine (if_pos h).trans ?_
      rw [ha, hc]
      rfl
  | two hlow hhigh =>
      have ha : (UInt8.ofNat (c.toNat / 64 + 0xC0)).toNat = c.toNat / 64 + 0xC0 :=
        toNat_ofNat_of_lt (by omega)
      have hc : charFrom? 0x80 (c.toNat / 64 * 64 + c.toNat % 64) = some c := by
        rw [Nat.div_add_mod']
        exact charFrom?_toNat hlow
      refine (if_neg (by omega)).trans ((if_pos (by omega)).trans ?_)
      show (tail? _).bind (fun b => (charFrom? _ _).bind _) = _
      rw [ha, Nat.add_sub_cancel, tail?_tailOctet, Option.bind_some, hc]
      rfl
  | three hlow hhigh =>
      have ha : (UInt8.ofNat (c.toNat / 4096 + 0xE0)).toNat = c.toNat / 4096 + 0xE0 :=
        toNat_ofNat_of_lt (by omega)
      -- The bits in three octets are those of the code point.
      have hvalue : (c.toNat / 4096 * 64 + c.toNat / 64 % 64) * 64 + c.toNat % 64 = c.toNat := by
        omega
      have hc := charFrom?_toNat hlow
      rw [← hvalue] at hc
      refine (if_neg (by omega)).trans ((if_neg (by omega)).trans ((if_pos (by omega)).trans ?_))
      show (tail? _).bind (fun b => (tail? _).bind fun d => (charFrom? _ _).bind _) = _
      rw [ha, Nat.add_sub_cancel, tail?_tailOctet, tail?_tailOctet, Option.bind_some,
        Option.bind_some, hc]
      rfl
  | four hlow =>
      have ha : (UInt8.ofNat (c.toNat / 262144 + 0xF0)).toNat = c.toNat / 262144 + 0xF0 :=
        toNat_ofNat_of_lt (by omega)
      -- And those in four octets.
      have hvalue : ((c.toNat / 262144 * 64 + c.toNat / 4096 % 64) * 64
          + c.toNat / 64 % 64) * 64 + c.toNat % 64 = c.toNat := by
        omega
      have hc := charFrom?_toNat hlow
      rw [← hvalue] at hc
      refine (if_neg (by omega)).trans ((if_neg (by omega)).trans ((if_neg (by omega)).trans
        ((if_pos (by omega)).trans ?_)))
      show (tail? _).bind (fun b => (tail? _).bind fun d => (tail? _).bind fun e =>
        (charFrom? _ _).bind _) = _
      rw [ha, Nat.add_sub_cancel, tail?_tailOctet, tail?_tailOctet, tail?_tailOctet,
        Option.bind_some, Option.bind_some, Option.bind_some, hc]
      rfl

section

variable {c : Char} {a b d e : UInt8} {m n o : Nat}

/-- The number that two octets carry, if fewer would not do. -/
theorem Spelling.of_two (ha : 0xC0 ≤ a.toNat ∧ a.toNat < 0xE0) (hb : tail? b = some m)
    (hc : charFrom? 0x80 ((a.toNat - 0xC0) * 64 + m) = some c) : Spelling c [a, b] := by
  obtain ⟨hvalue, hleast⟩ := charFrom?_eq_some hc
  obtain ⟨hm, -⟩ := tail?_eq_some hb
  have hlead : UInt8.ofNat (c.toNat / 64 + 0xC0) = a := ofNat_eq (by omega)
  have hlast : tailOctet c.toNat = b := tailOctet_eq hb (by omega)
  exact hlead ▸ hlast ▸ .two (by omega) (by omega)

/-- The number that three octets carry, if fewer would not do. -/
theorem Spelling.of_three (ha : 0xE0 ≤ a.toNat ∧ a.toNat < 0xF0) (hb : tail? b = some m)
    (hd : tail? d = some n)
    (hc : charFrom? 0x800 (((a.toNat - 0xE0) * 64 + m) * 64 + n) = some c) :
    Spelling c [a, b, d] := by
  obtain ⟨hvalue, hleast⟩ := charFrom?_eq_some hc
  obtain ⟨hm, -⟩ := tail?_eq_some hb
  obtain ⟨hn, -⟩ := tail?_eq_some hd
  have hlead : UInt8.ofNat (c.toNat / 4096 + 0xE0) = a := ofNat_eq (by omega)
  have hmiddle : tailOctet (c.toNat / 64) = b := tailOctet_eq hb (by omega)
  have hlast : tailOctet c.toNat = d := tailOctet_eq hd (by omega)
  exact hlead ▸ hmiddle ▸ hlast ▸ .three (by omega) (by omega)

/-- The number that four octets carry, if fewer would not do. -/
theorem Spelling.of_four (ha : 0xF0 ≤ a.toNat ∧ a.toNat < 0xF8) (hb : tail? b = some m)
    (hd : tail? d = some n) (he : tail? e = some o)
    (hc : charFrom? 0x10000 ((((a.toNat - 0xF0) * 64 + m) * 64 + n) * 64 + o) = some c) :
    Spelling c [a, b, d, e] := by
  obtain ⟨hvalue, hleast⟩ := charFrom?_eq_some hc
  obtain ⟨hm, -⟩ := tail?_eq_some hb
  obtain ⟨hn, -⟩ := tail?_eq_some hd
  obtain ⟨ho, -⟩ := tail?_eq_some he
  have hlead : UInt8.ofNat (c.toNat / 262144 + 0xF0) = a := ofNat_eq (by omega)
  have hsecond : tailOctet (c.toNat / 4096) = b := tailOctet_eq hb (by omega)
  have hthird : tailOctet (c.toNat / 64) = d := tailOctet_eq hd (by omega)
  have hlast : tailOctet c.toNat = e := tailOctet_eq he (by omega)
  exact hlead ▸ hsecond ▸ hthird ▸ hlast ▸ .four (by omega)

end

/-- What is found is the spelling of a character. -/
theorem Spelling.of_first? {c : Char} {bs : List UInt8} {k : Nat} (h : first? bs = some (c, k)) :
    ∃ front rest, bs = front ++ rest ∧ Spelling c front ∧ k = front.length := by
  unfold first? at h
  split at h
  · cases h
  rename_i a rest
  -- The first octet says how many there are: one, two, three, four, or it
  -- starts none.
  rcases Nat.lt_or_ge a.toNat 0x80 with hone | hmore
  · obtain ⟨c', hc, hpair⟩ := Option.map_eq_some_iff.mp ((if_pos hone).symm.trans h)
    cases hpair
    obtain ⟨hvalue, -⟩ := charFrom?_eq_some hc
    have ha : UInt8.ofNat c.toNat = a := ofNat_eq hvalue.symm
    exact ⟨[a], rest, rfl, ha ▸ .one (by omega), rfl⟩
  replace h := (if_neg (Nat.not_lt_of_le hmore)).symm.trans h
  by_cases htwo : 0xC0 ≤ a.toNat ∧ a.toNat < 0xE0
  · replace h := (if_pos htwo).symm.trans h
    rcases rest with _ | ⟨b, rest⟩
    · cases h
    obtain ⟨m, hm, h⟩ := Option.bind_eq_some_iff.mp h
    obtain ⟨c', hc, hpair⟩ := Option.bind_eq_some_iff.mp h
    cases hpair
    exact ⟨[a, b], rest, rfl, .of_two htwo hm hc, rfl⟩
  replace h := (if_neg htwo).symm.trans h
  by_cases hthree : 0xE0 ≤ a.toNat ∧ a.toNat < 0xF0
  · replace h := (if_pos hthree).symm.trans h
    rcases rest with _ | ⟨b, _ | ⟨d, rest⟩⟩
    · cases h
    · cases h
    obtain ⟨m, hm, h⟩ := Option.bind_eq_some_iff.mp h
    obtain ⟨n, hn, h⟩ := Option.bind_eq_some_iff.mp h
    obtain ⟨c', hc, hpair⟩ := Option.bind_eq_some_iff.mp h
    cases hpair
    exact ⟨[a, b, d], rest, rfl, .of_three hthree hm hn hc, rfl⟩
  replace h := (if_neg hthree).symm.trans h
  by_cases hfour : 0xF0 ≤ a.toNat ∧ a.toNat < 0xF8
  · replace h := (if_pos hfour).symm.trans h
    rcases rest with _ | ⟨b, _ | ⟨d, _ | ⟨e, rest⟩⟩⟩
    · cases h
    · cases h
    · cases h
    obtain ⟨m, hm, h⟩ := Option.bind_eq_some_iff.mp h
    obtain ⟨n, hn, h⟩ := Option.bind_eq_some_iff.mp h
    obtain ⟨o, ho, h⟩ := Option.bind_eq_some_iff.mp h
    obtain ⟨c', hc, hpair⟩ := Option.bind_eq_some_iff.mp h
    cases hpair
    exact ⟨[a, b, d, e], rest, rfl, .of_four hfour hm hn ho hc, rfl⟩
  · have hnone := (if_neg hfour).symm.trans h
    cases hnone

/-! ### All of them -/

/-- A character has a first octet. -/
theorem utf8EncodeChar_eq_cons (c : Char) : ∃ a tail, utf8EncodeChar c = a :: tail := by
  have hlength : 0 < (utf8EncodeChar c).length := by
    rw [String.length_utf8EncodeChar]
    exact c.utf8Size_pos
  exact List.exists_cons_of_length_pos hlength

/-- In front of any octets, the octets of a character are cut off as the
character. -/
theorem pieces_utf8EncodeChar_append (c : Char) (rest : List UInt8) :
    pieces (utf8EncodeChar c ++ rest) = .char c :: pieces rest := by
  have hfound := (spelling_utf8EncodeChar c).found rest
  obtain ⟨a, tail, hc⟩ := utf8EncodeChar_eq_cons c
  rw [hc, List.cons_append] at hfound
  rw [hc, List.cons_append, pieces, hfound]
  show Piece.char c :: pieces ((tail ++ rest).drop tail.length) = _
  rw [List.drop_left]

/-- The octets of a text are cut into its characters. -/
theorem pieces_flatMap_utf8EncodeChar (cs : List Char) :
    pieces (cs.flatMap utf8EncodeChar) = cs.map .char := by
  induction cs with
  | nil => rw [List.flatMap_nil, pieces, List.map_nil]
  | cons c cs ih => rw [List.flatMap_cons, pieces_utf8EncodeChar_append, ih, List.map_cons]

/-- Without a stray octet nothing is lost. -/
theorem eq_flatMap_of_pieces {bs : List UInt8} {cs : List Char} (h : pieces bs = cs.map .char) :
    bs = cs.flatMap utf8EncodeChar := by
  induction cs generalizing bs with
  | nil =>
      cases bs with
      | nil => rfl
      | cons b rest =>
          rw [pieces] at h
          split at h <;> cases h
  | cons c cs ih =>
      cases bs with
      | nil =>
          rw [pieces] at h
          cases h
      | cons b rest =>
          rw [pieces] at h
          split at h
          · rename_i c' k hfirst
            obtain ⟨hchar, hrest⟩ := List.cons.inj h
            cases hchar
            -- What was found in front is a spelling of the character, and it
            -- has one only.
            obtain ⟨front, behind, hsplit, hspelling, rfl⟩ := Spelling.of_first? hfirst
            obtain rfl := hspelling.unique (spelling_utf8EncodeChar c)
            obtain ⟨a, tail, hc⟩ := utf8EncodeChar_eq_cons c
            rw [hc, List.cons_append] at hsplit
            -- What is read on with is what stands behind the character.
            have hbehind : pieces behind = cs.map .char := by
              rw [← hrest, hc, (List.cons.inj hsplit).2, List.length_cons, Nat.add_sub_cancel,
                List.drop_left]
            rw [List.flatMap_cons, hc, hsplit, ih hbehind, List.cons_append]
          · cases h

/-- Pieces are all characters exactly if none is a stray octet. -/
theorem mapM_char?_eq_some_iff {ps : List Piece} {cs : List Char} :
    ps.mapM Piece.char? = some cs ↔ ps = cs.map .char := by
  induction ps generalizing cs with
  | nil => cases cs <;> simp
  | cons p ps ih =>
      cases p with
      | stray b => cases cs <;> simp [Piece.char?]
      | char c =>
          rw [List.mapM_cons]
          show ((ps.mapM Piece.char?).bind fun cs => some (c :: cs)) = some cs ↔ _
          rw [Option.bind_eq_some_iff]
          constructor
          · rintro ⟨rest, hrest, ⟨⟩⟩
            rw [ih.mp hrest, List.map_cons]
          · intro h
            cases cs with
            | nil => cases h
            | cons d rest =>
                obtain ⟨hchar, hrest⟩ := List.cons.inj h
                cases hchar
                exact ⟨rest, ih.mpr hrest, rfl⟩

/-- Octets are read as a text exactly if the encoding writes the text in
them. -/
theorem decode?_eq_some_iff {bs : List UInt8} {s : String} : decode? bs = some s ↔ bs = utf8 s := by
  rw [decode?, utf8_eq_flatMap, Option.map_eq_some_iff]
  constructor
  · rintro ⟨cs, hcs, rfl⟩
    rw [String.toList_ofList]
    exact eq_flatMap_of_pieces (mapM_char?_eq_some_iff.mp hcs)
  · rintro rfl
    -- The octets of the text are cut into its characters, and none is stray.
    have hpieces := pieces_flatMap_utf8EncodeChar s.toList
    exact ⟨s.toList, mapM_char?_eq_some_iff.mpr hpieces, String.ofList_toList⟩

end Octets

end Text

namespace VarValue

/-- A value is kept as text exactly if it is the octets of the text. -/
theorem ofOctets_eq_text_iff {bs : List UInt8} {s : String} :
    ofOctets bs = .text s ↔ bs = Text.utf8 s := by
  rw [← Text.Octets.decode?_eq_some_iff, ofOctets]
  split
  · rename_i t hdecode
    simp [hdecode]
  · rename_i hdecode
    simp [hdecode]

/-- A value is kept as octets exactly if they are no text. -/
theorem ofOctets_eq_octets_iff {bs : List UInt8} :
    ofOctets bs = .octets bs ↔ ∀ s, bs ≠ Text.utf8 s := by
  simp only [Ne, ← Text.Octets.decode?_eq_some_iff, ofOctets]
  split
  · rename_i t hdecode
    simp [hdecode]
  · rename_i hdecode
    simp [hdecode]

end VarValue

end Snowflake
