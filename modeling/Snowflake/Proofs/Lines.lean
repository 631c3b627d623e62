import Snowflake.Cli.Run
import Snowflake.Proofs.Numerals

/-!
# `Snowflake.Proofs.Lines`: an identifier fits on a line

`mint` ends each identifier with a line break. That gives a line for each
identifier only if none of the formats has a line break inside.
`Format.oneLine_line` shows that: digits are none, the compact layout of an
object has none of its own, and in a text between quotation marks a line break
is written as an escape.
-/

set_option autoImplicit false

namespace Snowflake

/-- There is no line break in the text. -/
def OneLine (s : String) : Prop := '\n' ∉ s.toList

namespace OneLine

/-- Two texts without a line break make one without. -/
theorem append {s t : String} (hs : OneLine s) (ht : OneLine t) : OneLine (s ++ t) := by
  intro h
  rw [String.toList_append] at h
  exact (List.mem_append.mp h).elim hs ht

/-- Characters without a line break make such a text. -/
theorem ofList {cs : List Char} (h : '\n' ∉ cs) : OneLine (String.ofList cs) := by
  rw [OneLine, String.toList_ofList]
  exact h

/-- Parts on one line, with what is put between them on one line, are on one
line. -/
theorem intercalate {sep : String} (hsep : OneLine sep) (parts : List String)
    (h : ∀ s ∈ parts, OneLine s) : OneLine (sep.intercalate parts) := by
  rw [OneLine, String.toList_intercalate]
  induction parts with
  | nil => exact List.not_mem_nil
  | cons s parts ih =>
      cases parts with
      | nil =>
          rw [List.map_singleton, List.intercalate_singleton]
          exact h s (.head _)
      | cons t rest =>
          -- A line break would be in the first part, in what is put between,
          -- or in the others.
          rw [List.map_cons, List.map_cons, List.intercalate_cons_cons, List.mem_append,
            List.mem_append]
          have hrest := ih fun u hu => h u (.tail _ hu)
          rintro ((hmem | hmem) | hmem)
          · exact h s (.head _) hmem
          · exact hsep hmem
          · exact hrest hmem

end OneLine

/-! ### Numbers -/

namespace Text.Decimal

/-- No digit is a line break, hexadecimal digits included. -/
theorem digitChar_ne_newline {d : Nat} (h : d < 16) : Nat.digitChar d ≠ '\n' := by
  have hall : ∀ d : Fin 16, Nat.digitChar d.val ≠ '\n' := by decide
  exact hall ⟨d, h⟩

/-- Digits hold no line break. -/
theorem newline_not_mem_of_isDigit {cs : List Char} (h : ∀ c ∈ cs, c.isDigit = true) :
    '\n' ∉ cs := by
  intro hmem
  exact absurd (h '\n' hmem) (by decide)

/-- A numeral holds no line break. -/
theorem newline_not_mem_digits (n : Nat) : '\n' ∉ digits n :=
  newline_not_mem_of_isDigit (isDigit_of_mem_digits n)

/-- A padded numeral holds no line break. -/
theorem newline_not_mem_padded (width n : Nat) : '\n' ∉ padded width n :=
  newline_not_mem_of_isDigit fun _ => isDigit_of_mem_padded

/-- A number is written on one line. -/
theorem oneLine_text (n : Nat) : OneLine (text n) := .ofList (newline_not_mem_digits n)

end Text.Decimal

/-! ### Objects -/

namespace Json

/-- The escape of a character has no line break, also that of a line break. -/
theorem newline_not_mem_escape (c : Char) : '\n' ∉ escape c := by
  unfold escape
  split
  case h_8 _ _ _ _ hne _ _ =>
    -- What is not escaped by name is no line break.
    split
    · have hhigh := Text.Decimal.digitChar_ne_newline (d := c.toNat / 16) (by omega)
      have hlow := Text.Decimal.digitChar_ne_newline (d := c.toNat % 16) (by omega)
      simp [hhigh.symm, hlow.symm]
    · simp only [List.mem_singleton]
      exact fun h => hne h.symm
  all_goals decide

/-- A string in quotation marks is written on one line. -/
theorem oneLine_quote (s : String) : OneLine (quote s) := by
  refine .ofList ?_
  simp only [List.cons_append, List.mem_cons, List.mem_append, List.mem_flatMap]
  rintro (h | ⟨c, -, hc⟩ | h)
  · exact absurd h (by decide)
  · exact newline_not_mem_escape c hc
  · simp at h

/-- A number inside a document is written on one line. -/
theorem oneLine_ofNat (n : Nat) : OneLine (textAt .compact 1 (ofNat n)) := by
  have hsign : ¬ (n : Int) < 0 := by omega
  simp only [ofNat, textAt, Number.text, Text.Decimal.signedText, if_neg hsign]
  exact Text.Decimal.oneLine_text _

/-- A value that may be missing is written on one line if it is when it is
there. -/
theorem oneLine_ofOption {α : Type} {f : α → Json} (h : ∀ a, OneLine (textAt .compact 1 (f a)))
    (a : Option α) : OneLine (textAt .compact 1 (ofOption f a)) := by
  cases a with
  | none =>
      simp only [ofOption, textAt, OneLine]
      decide
  | some a => exact h a

/-- The members of an object are, if their values are. -/
theorem oneLine_memberTexts {members : List (String × Json)}
    (h : ∀ m ∈ members, OneLine (textAt .compact 1 m.2)) :
    ∀ s ∈ memberTexts .compact 1 members, OneLine s := by
  induction members with
  | nil =>
      intro s hs
      cases hs
  | cons m members ih =>
      obtain ⟨name, v⟩ := m
      intro s hs
      rw [memberTexts] at hs
      -- The text of a member is what leads it in, its name, a colon and its
      -- value.
      rcases List.mem_cons.mp hs with rfl | hrest
      · have hvalue := h (name, v) (.head _)
        have hlead : OneLine (Layout.compact.lead 1) := List.not_mem_nil
        have hcolon : OneLine Layout.compact.colon := by
          simp only [OneLine, Layout.compact]
          decide
        exact ((hlead.append (oneLine_quote name)).append hcolon).append hvalue
      · exact ih (fun m hm => h m (.tail _ hm)) s hrest

/-- The compact layout of an object puts in no line break of its own. -/
theorem oneLine_object {m : String × Json} {members : List (String × Json)}
    (h : ∀ v ∈ m :: members, OneLine (textAt .compact 1 v.2)) :
    OneLine (compact (.object (m :: members))) := by
  have hopen : OneLine "\x7b" := by
    rw [OneLine]
    decide
  have hclose : OneLine "\x7d" := by
    rw [OneLine]
    decide
  have hcomma : OneLine "," := by
    rw [OneLine]
    decide
  have hnothing : OneLine (Layout.compact.close 1) := List.not_mem_nil
  rw [compact, textAt]
  exact ((hopen.append (hcomma.intercalate _ (oneLine_memberTexts h))).append hnothing).append
    hclose

end Json

/-- The document of an identifier has its members on one line. -/
theorem Record.oneLine_compact (r : Record) : OneLine r.toJson.compact := by
  refine Json.oneLine_object ?_
  have hstring : ∀ s : String, OneLine (Json.textAt .compact 1 (.string s)) := by
    intro s
    rw [Json.textAt]
    exact Json.oneLine_quote s
  simp only [List.forall_mem_cons]
  exact ⟨hstring _, Json.oneLine_ofNat _, Json.oneLine_ofOption Json.oneLine_ofNat _,
    Json.oneLine_ofOption hstring _, Json.oneLine_ofNat _, Json.oneLine_ofNat _, nofun⟩

/-- In every format an identifier is written without a line break. -/
theorem Cli.Format.oneLine_line (format : Format) (epoch : Duration) (id : Flake) :
    OneLine (format.line epoch id) := by
  cases format with
  | decimal => exact Text.Decimal.oneLine_text _
  | padded => exact .ofList (Text.Decimal.newline_not_mem_padded 20 _)
  | json => exact (Record.ofFlake id epoch).oneLine_compact

end Snowflake
