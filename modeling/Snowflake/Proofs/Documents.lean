import Snowflake.Proofs.Scalars

/-!
# `Snowflake.Proofs.Documents`: arrays and objects through text

A value is written in one of two layouts, and both are read back as the value
(`Json.read?_textAt`), also with blanks behind it. Two things can go wrong, and
`Json.Fits` excludes them: a number that is no whole number of 64 bits need not
come back as it was, and the reader gives up on a value that lies too deep.

`Json.Reads` follows the reader through a text, word by word, with the place it
has reached and the text that is left. So what is read of a part of a text is
said once for every text that has this part, and the proof goes along the value
as the printer does. Nothing is assumed of a layout except that it puts in
blanks only (`Layout.Spacious`).
-/

set_option autoImplicit false

namespace Snowflake.Json

/-! ### Following the reader -/

/-- From one place in a text the reader comes to another one. -/
inductive Reads : Place → List Char → Place → List Char → Prop
  /-- Nothing is read. -/
  | done (p : Place) (cs : List Char) : Reads p cs p cs
  /-- A blank is passed over. -/
  | blank {p q : Place} {c : Char} {cs rest : List Char} (hc : isBlank c = true)
      (hrest : Reads p cs q rest) : Reads p (c :: cs) q rest
  /-- A word is read. -/
  | word {p p' q : Place} {t : Token} {c : Char} {cs cs' rest : List Char}
      (hc : isBlank c = false) (hword : readToken (c :: cs) = some (t, cs'))
      (hshorter : cs'.length ≤ cs.length) (hstep : p.step t = some p')
      (hrest : Reads p' cs' q rest) : Reads p (c :: cs) q rest

namespace Reads

variable {p p' q : Place} {t : Token} {v : Json} {cs cs' rest : List Char}

/-- What is read in two parts is read. -/
theorem trans (h : Reads p cs p' cs') (h' : Reads p' cs' q rest) : Reads p cs q rest := by
  induction h with
  | done => exact h'
  | blank hc _ ih => exact .blank hc (ih h')
  | word hc hword hshorter hstep _ ih => exact .word hc hword hshorter hstep (ih h')

/-- Blanks between words change nothing. -/
theorem blanks {blanks : List Char} (h : ∀ c ∈ blanks, isBlank c = true) :
    Reads p (blanks ++ rest) p rest := by
  induction blanks with
  | nil => exact .done p rest
  | cons c blanks ih => exact .blank (h c (.head _)) (ih fun d hd => h d (.tail _ hd))

/-- One word, with the rest of the text behind it. -/
theorem one (c : Char) (cs : List Char) (hc : isBlank c = false)
    (hword : readToken (c :: cs ++ rest) = some (t, rest)) (hstep : p.step t = some q) :
    Reads p (c :: cs ++ rest) q rest := by
  have hshorter : rest.length ≤ (cs ++ rest).length := by
    rw [List.length_append]
    exact Nat.le_add_left _ _
  exact .word hc hword hshorter hstep (.done q rest)

/-- A place that takes every word of another one reads on as it does. -/
theorem of_step (h : Reads p cs q rest) (p₀ : Place) (hne : p ≠ q)
    (hstep : ∀ t p', p.step t = some p' → p₀.step t = some p') : Reads p₀ cs q rest := by
  induction h with
  | done => exact absurd rfl hne
  | blank hc _ ih => exact .blank hc (ih hne hstep)
  | word hc hword hshorter hp hrest _ =>
      exact .word hc hword hshorter (hstep _ _ hp) hrest

/-- What the reader follows are the words of the text, and they lead to the
same place. -/
theorem tokensUpTo (h : Reads p cs q []) {n : Nat} (hn : cs.length ≤ n) :
    ∃ ts, tokensUpTo n cs = some ts ∧ ts.foldlM Place.step p = some q := by
  generalize hrest : ([] : List Char) = rest at h
  -- Each word and each blank takes one character at least, and one is allowed for each.
  induction h generalizing n with
  | done p cs =>
      subst hrest
      cases n <;> exact ⟨[], rfl, rfl⟩
  | @blank p q c cs rest hc _ ih =>
      cases n with
      | zero => exact absurd hn (Nat.not_succ_le_zero _)
      | succ n =>
          obtain ⟨ts, hts, hfold⟩ := ih (Nat.le_of_succ_le_succ hn) hrest
          refine ⟨ts, ?_, hfold⟩
          rw [Json.tokensUpTo, if_pos hc, hts]
  | @word p p' q t c cs cs' rest hc hword hshorter hstep _ ih =>
      cases n with
      | zero => exact absurd hn (Nat.not_succ_le_zero _)
      | succ n =>
          have hcs := Nat.le_of_succ_le_succ hn
          obtain ⟨ts, hts, hfold⟩ := ih (Nat.le_trans hshorter hcs) hrest
          refine ⟨t :: ts, ?_, ?_⟩
          · rw [Json.tokensUpTo, hc, hword]
            simp [hts]
          · rw [List.foldlM_cons, hstep]
            exact hfold

/-- A text is read once the reader comes to its end with a value. -/
theorem read? {s : String} (h : Reads (.value []) s.toList (.separator v []) []) :
    read? s = some v := by
  obtain ⟨ts, hts, hfold⟩ := h.tokensUpTo (Nat.le_refl _)
  rw [Json.read?, tokens?, hts]
  simp only [Option.bind_eq_bind, Option.bind_some, hfold]
  rfl

end Reads

/-! ### What is written -/

/-- The value can be read back inside all but so many of the brackets that the
reader follows. -/
inductive Fits : Nat → Json → Prop
  | null {room : Nat} : Fits room .null
  | bool {room : Nat} (b : Bool) : Fits room (.bool b)
  | whole {room : Nat} {n : Int} (hlow : -2 ^ 63 ≤ n) (hhigh : n < 2 ^ 64) :
      Fits room (.number (.whole n))
  | string {room : Nat} (s : String) : Fits room (.string s)
  | array {room : Nat} {vs : List Json} (h : ∀ v ∈ vs, Fits room v) : Fits (room + 1) (.array vs)
  | object {room : Nat} {ms : List (String × Json)} (h : ∀ m ∈ ms, Fits room m.2) :
      Fits (room + 1) (.object ms)

/-- A layout puts in blanks only. -/
structure Layout.Spacious (l : Layout) : Prop where
  lead : ∀ depth, ∀ c ∈ (l.lead depth).toList, isBlank c = true
  close : ∀ depth, ∀ c ∈ (l.close depth).toList, isBlank c = true
  colon : ∃ blanks, l.colon.toList = ':' :: blanks ∧ ∀ c ∈ blanks, isBlank c = true

/-- The compact layout puts in nothing. -/
theorem Layout.spacious_compact : Layout.compact.Spacious where
  lead _ := nofun
  close _ := nofun
  colon := ⟨[], rfl, nofun⟩

/-- A line break and its indentation are blanks. -/
theorem Layout.isBlank_newLine (depth : Nat) : ∀ c ∈ (newLine depth).toList, isBlank c = true := by
  intro c hc
  rw [newLine, String.toList_append, List.mem_append] at hc
  rcases hc with hline | hblank
  · obtain rfl := List.mem_singleton.mp hline
    rfl
  · rw [String.toList_ofList] at hblank
    obtain rfl := List.eq_of_mem_replicate hblank
    rfl

/-- The indented layout puts in line breaks, indentation and a blank behind
each colon. -/
theorem Layout.spacious_indented : Layout.indented.Spacious where
  lead := isBlank_newLine
  close depth := isBlank_newLine (depth - 1)
  colon := ⟨[' '], rfl, List.forall_mem_singleton.mpr rfl⟩

/-- No number goes on behind blanks. -/
theorem endsNumber_blanks {blanks rest : List Char} (h : ∀ c ∈ blanks, isBlank c = true)
    (hrest : EndsNumber rest) : EndsNumber (blanks ++ rest) := by
  cases blanks with
  | nil => exact hrest
  | cons c blanks =>
      rintro _ ⟨⟩
      have hc := h c (.head _)
      simp only [isBlank, Bool.or_eq_true, decide_eq_true_eq] at hc
      rcases hc with ((rfl | rfl) | rfl) | rfl <;> decide

/-- A number ends before any character but a digit, a point or an exponent. -/
theorem endsNumber_cons {c : Char} (h : c.isDigit = false ∧ c ≠ '.' ∧ c ≠ 'e' ∧ c ≠ 'E')
    (rest : List Char) : EndsNumber (c :: rest) := by
  rintro _ ⟨⟩
  exact h

/-- A bracket or a comma is one word. -/
theorem reads_sign {p q : Place} {t : Token} {c : Char} {rest : List Char}
    (hc : isBlank c = false) (hword : readToken (c :: rest) = some (t, rest))
    (hstep : p.step t = some q) : Reads p (c :: rest) q rest :=
  .one c [] hc hword hstep

/-- A bracket opens inside of all those that are open, unless they are too many. -/
theorem Place.step_openBracket {around : List Open} (h : around.length < maxDepth) :
    Place.step (.value around) .openBracket = some (.firstItem around) :=
  if_pos h

/-- A brace opens inside of all those that are open, unless they are too many. -/
theorem Place.step_openBrace {around : List Open} (h : around.length < maxDepth) :
    Place.step (.value around) .openBrace = some (.firstName around) :=
  if_pos h

/-- A string is one word. -/
theorem reads_quote {p q : Place} {rest : List Char} (s : String)
    (hstep : p.step (.string s) = some q) : Reads p ((quote s).toList ++ rest) q rest := by
  have hcons : (quote s).toList = '"' :: (s.toList.flatMap escape ++ ['"']) := by
    rw [quote, String.toList_ofList]
    rfl
  have hword := readToken_quote s rest
  rw [hcons] at hword ⊢
  exact .one _ _ rfl hword hstep

/-- A whole number is one word, if nothing carries it on. -/
theorem reads_signedText {p q : Place} {n : Int} (hlow : -2 ^ 63 ≤ n) (hhigh : n < 2 ^ 64)
    {rest : List Char} (hrest : EndsNumber rest) (hstep : p.step (.number (.whole n)) = some q) :
    Reads p ((Text.Decimal.signedText n).toList ++ rest) q rest := by
  have hword := readToken_signedText hlow hhigh hrest
  obtain ⟨c, cs, hcons, hc⟩ := signedText_eq_cons n
  rw [hcons] at hword ⊢
  exact .one c cs (isBlank_of_number hc) hword hstep

/-- One part is put together without a comma. -/
theorem toList_intercalate_singleton (s : String) :
    (",".intercalate [s]).toList = s.toList := by
  rw [String.toList_intercalate, List.map_singleton, List.intercalate_singleton]

/-- With more parts there is a comma behind the first. -/
theorem toList_intercalate_cons_cons (s t : String) (parts : List String) :
    (",".intercalate (s :: t :: parts)).toList
      = s.toList ++ ',' :: (",".intercalate (t :: parts)).toList := by
  rw [String.toList_intercalate, String.toList_intercalate, List.map_cons, List.map_cons,
    List.intercalate_cons_cons, List.append_assoc]
  rfl

section

variable {l : Layout} (hl : l.Spacious) {around : List Open} {depth : Nat} {rest : List Char}

/-- Where a value may start, it is read as it is written. -/
def ReadsBack (l : Layout) (depth : Nat) (around : List Open) (v : Json) : Prop :=
  ∀ rest, EndsNumber rest →
    Reads (.value around) ((textAt l depth v).toList ++ rest) (.separator v around) rest

/-- What closes a bracket ends a number. -/
theorem endsNumber_close (hl : l.Spacious) {c : Char}
    (h : c.isDigit = false ∧ c ≠ '.' ∧ c ≠ 'e' ∧ c ≠ 'E') :
    EndsNumber ((l.close depth).toList ++ c :: rest) :=
  endsNumber_blanks (hl.close depth) (endsNumber_cons h rest)

include hl

/-- The colon is one word, with the blanks behind it. -/
theorem reads_colon {p q : Place} (hstep : p.step .colon = some q) :
    Reads p (l.colon.toList ++ rest) q rest := by
  obtain ⟨blanks, hcolon, hblanks⟩ := hl.colon
  rw [hcolon]
  exact (reads_sign rfl rfl hstep).trans (.blanks hblanks)

/-- The items of an array behind those that were read before, and its end. -/
theorem reads_items {v : Json} {vs : List Json} (items : List Json)
    (h : ∀ w ∈ v :: vs, ∀ items, ReadsBack l depth (.array items :: around) w)
    (rest : List Char) :
    Reads (.value (.array items :: around))
      ((",".intercalate (itemTexts l depth (v :: vs))).toList
        ++ ((l.close depth).toList ++ ']' :: rest))
      (.separator (.array (items.reverse ++ v :: vs)) around) rest := by
  have hlead := hl.lead depth
  -- Along the items that are left. The ones in front of them wait in the open bracket.
  induction vs generalizing v items with
  | nil =>
      have hvalue := h v (.head _) items ((l.close depth).toList ++ ']' :: rest)
        (endsNumber_close hl (by decide))
      have hend : Reads (.separator v (.array items :: around)) (']' :: rest)
          (.separator (.array (items.reverse ++ [v])) around) rest := by
        refine reads_sign rfl rfl ?_
        rw [← List.reverse_cons]
        rfl
      rw [itemTexts, itemTexts, toList_intercalate_singleton, String.toList_append,
        List.append_assoc]
      exact ((Reads.blanks hlead).trans hvalue).trans ((Reads.blanks (hl.close depth)).trans hend)
  | cons w vs ih =>
      have hrest := ih (v :: items) fun u hu => h u (.tail _ hu)
      rw [List.reverse_cons, List.append_assoc] at hrest
      have hvalue := fun rest => h v (.head _) items (',' :: rest) (endsNumber_cons (by decide) rest)
      rw [itemTexts, itemTexts, toList_intercalate_cons_cons, String.toList_append,
        List.append_assoc, List.append_assoc, List.cons_append]
      rw [itemTexts] at hrest
      exact ((Reads.blanks hlead).trans (hvalue _)).trans ((reads_sign rfl rfl rfl).trans hrest)

/-- A member of an object is its name, a colon and its value. -/
theorem reads_member {name : String} {v : Json} {members : List (String × Json)}
    (h : ReadsBack l depth (.object members name :: around) v) (hrest : EndsNumber rest) :
    Reads (.name members around)
      ((l.lead depth ++ quote name ++ l.colon ++ textAt l depth v).toList ++ rest)
      (.separator v (.object members name :: around)) rest := by
  simp only [String.toList_append, List.append_assoc]
  -- Up to the value the words are the name and the colon.
  have hname : Reads (.name members around)
      ((quote name).toList ++ (l.colon.toList ++ ((textAt l depth v).toList ++ rest)))
      (.value (.object members name :: around)) ((textAt l depth v).toList ++ rest) :=
    (reads_quote name rfl).trans (reads_colon hl rfl)
  exact (Reads.blanks (hl.lead depth)).trans (hname.trans (h rest hrest))

/-- The members of an object behind those that were read before, and its end. -/
theorem reads_members {m : String × Json} {ms : List (String × Json)}
    (members : List (String × Json))
    (h : ∀ w ∈ m :: ms, ∀ members, ReadsBack l depth (.object members w.1 :: around) w.2)
    (rest : List Char) :
    Reads (.name members around)
      ((",".intercalate (memberTexts l depth (m :: ms))).toList
        ++ ((l.close depth).toList ++ '\x7d' :: rest))
      (.separator (.object (members.reverse ++ m :: ms)) around) rest := by
  induction ms generalizing m members with
  | nil =>
      -- The last member has the brace behind it, any other one a comma.
      have hclose : EndsNumber ((l.close depth).toList ++ '\x7d' :: rest) :=
        endsNumber_close hl (by decide)
      have hmember := reads_member hl (h m (.head _) members) hclose
      have hend : Reads (.separator m.2 (.object members m.1 :: around)) ('\x7d' :: rest)
          (.separator (.object (members.reverse ++ [m])) around) rest := by
        refine reads_sign rfl rfl ?_
        rw [← List.reverse_cons]
        rfl
      rw [memberTexts, memberTexts, toList_intercalate_singleton]
      exact hmember.trans ((Reads.blanks (hl.close depth)).trans hend)
  | cons w ms ih =>
      have hrest := ih (m :: members) fun u hu => h u (.tail _ hu)
      rw [List.reverse_cons, List.append_assoc, memberTexts] at hrest
      have hcomma : ∀ rest, EndsNumber (',' :: rest) := endsNumber_cons (by decide)
      have hmember := fun rest => reads_member hl (h m (.head _) members) (hcomma rest)
      rw [memberTexts, memberTexts, toList_intercalate_cons_cons, List.append_assoc,
        List.cons_append]
      exact (hmember _).trans ((reads_sign rfl rfl rfl).trans hrest)

/-- An array that holds something is read back. -/
theorem readsBack_array {v : Json} {vs : List Json} (hdepth : around.length < maxDepth)
    (h : ∀ w ∈ v :: vs, ∀ items, ReadsBack l (depth + 1) (.array items :: around) w) :
    ReadsBack l depth around (.array (v :: vs)) := by
  intro rest hrest
  -- The first item is read as a later one would be, except that the array may also end here.
  have hfirst := (reads_items hl [] h rest).of_step (.firstItem around) nofun (by
    rintro t p' ht
    cases t <;> first | exact ht | cases ht)
  rw [textAt]
  simp only [String.toList_append, List.append_assoc]
  exact (reads_sign rfl rfl (Place.step_openBracket hdepth)).trans hfirst

/-- An object that holds something is read back. -/
theorem readsBack_object {m : String × Json} {ms : List (String × Json)}
    (hdepth : around.length < maxDepth)
    (h : ∀ w ∈ m :: ms, ∀ members,
      ReadsBack l (depth + 1) (.object members w.1 :: around) w.2) :
    ReadsBack l depth around (.object (m :: ms)) := by
  intro rest hrest
  -- As with arrays: the object may also end before its first member.
  have hfirst := (reads_members hl [] h rest).of_step (.firstName around) nofun (by
    rintro t p' ht
    cases t <;> first | exact ht | cases ht)
  rw [textAt]
  simp only [String.toList_append, List.append_assoc]
  exact (reads_sign rfl rfl (Place.step_openBrace hdepth)).trans hfirst

/-- A value that fits is read as it is written, and what follows is left. -/
theorem Fits.readsBack {room : Nat} {v : Json} (h : Fits room v)
    (hroom : around.length + room ≤ maxDepth) : ReadsBack l depth around v := by
  -- A bracket that is opened takes one from the room and stands around what is in it.
  induction h generalizing around depth with
  | null =>
      intro rest _
      rw [textAt]
      exact .one 'n' ['u', 'l', 'l'] rfl rfl rfl
  | bool b =>
      intro rest _
      rw [textAt]
      cases b with
      | false => exact .one 'f' ['a', 'l', 's', 'e'] rfl rfl rfl
      | true => exact .one 't' ['r', 'u', 'e'] rfl rfl rfl
  | whole hlow hhigh =>
      intro rest hrest
      rw [textAt]
      exact reads_signedText hlow hhigh hrest rfl
  | string s =>
      intro rest _
      rw [textAt]
      exact reads_quote s rfl
  | @array room vs _ ih =>
      have hdepth : around.length < maxDepth := by omega
      cases vs with
      | nil =>
          intro rest _
          rw [textAt]
          exact (reads_sign rfl rfl (Place.step_openBracket hdepth)).trans (reads_sign rfl rfl rfl)
      | cons v vs =>
          -- Inside, one bracket more is open and one less may be opened.
          refine readsBack_array hl hdepth fun w hw items => ih w hw ?_
          rw [List.length_cons]
          omega
  | @object room ms _ ih =>
      have hdepth : around.length < maxDepth := by omega
      cases ms with
      | nil =>
          intro rest _
          rw [textAt]
          exact (reads_sign rfl rfl (Place.step_openBrace hdepth)).trans (reads_sign rfl rfl rfl)
      | cons m ms =>
          refine readsBack_object hl hdepth fun w hw members => ih w hw ?_
          rw [List.length_cons]
          omega

/-- A value that fits is what its text spells, with or without blanks behind
it. -/
theorem read?_textAt {v : Json} (h : Fits maxDepth v) (blanks : String)
    (hblanks : ∀ c ∈ blanks.toList, isBlank c = true) :
    read? (textAt l 0 v ++ blanks) = some v := by
  -- Nothing is open around the value, so all brackets may be opened inside.
  have hback : ReadsBack l 0 [] v := h.readsBack hl (Nat.le_of_eq (Nat.zero_add maxDepth))
  have hvalue := hback (blanks.toList ++ []) (endsNumber_blanks hblanks endsNumber_nil)
  refine Reads.read? ?_
  rw [String.toList_append, ← List.append_nil blanks.toList]
  exact hvalue.trans (.blanks hblanks)

end

/-- A value that fits comes back from its compact layout. -/
theorem read?_compact {v : Json} (h : Fits maxDepth v) : read? v.compact = some v := by
  have hread := read?_textAt Layout.spacious_compact h "" nofun
  rwa [String.append_empty] at hread

/-- A document is read back from its indented text. -/
theorem read?_indented {v : Json} (h : Fits maxDepth v) : read? v.indented = some v := by
  have hread := read?_textAt Layout.spacious_indented h "" nofun
  rwa [String.append_empty] at hread

end Snowflake.Json
