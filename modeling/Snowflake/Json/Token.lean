import Snowflake.Json
import Snowflake.Text.Decimal

/-!
# `Snowflake.Json.Token`: the words of the format

A text is cut into brackets, colons, commas, the three names, numbers and
strings; blanks between them fall away. `tokens?` gives them in order, or
nothing when something in the text is no word.

A number is a whole number when it has neither point nor exponent and fits
into 64 bits. Otherwise it becomes a floating point number, from as many of
its leading digits as fit into a word. A string may write characters by their
UTF-16 units; a surrogate counts only with its other half behind it.
-/

set_option autoImplicit false

namespace Snowflake.Json

/-- A word of the format. -/
inductive Token
  /-- An opening brace. -/
  | openBrace
  /-- A closing brace. -/
  | closeBrace
  /-- An opening bracket. -/
  | openBracket
  /-- A closing bracket. -/
  | closeBracket
  /-- A colon. -/
  | colon
  /-- A comma. -/
  | comma
  /-- The name of nothing. -/
  | null
  /-- The name of a truth value. -/
  | bool (b : Bool)
  /-- A number. -/
  | number (n : Number)
  /-- A string. -/
  | string (s : String)

open Text

/-! ### Strings -/

/-- A part of a string: a character, or a UTF-16 unit written in
hexadecimal. -/
inductive Part
  /-- A character. -/
  | char (c : Char)
  /-- A unit. -/
  | unit (n : Nat)

/-- The value of a hexadecimal digit. -/
def hexValue? (c : Char) : Option Nat :=
  if '0' ≤ c ∧ c ≤ '9' then some (c.toNat - 48)
  else if 'a' ≤ c ∧ c ≤ 'f' then some (c.toNat - 87)
  else if 'A' ≤ c ∧ c ≤ 'F' then some (c.toNat - 55)
  else none

/-- The value of four hexadecimal digits. -/
def unitValue? (a b c d : Char) : Option Nat := do
  let a ← hexValue? a
  let b ← hexValue? b
  let c ← hexValue? c
  let d ← hexValue? d
  return ((a * 16 + b) * 16 + c) * 16 + d

/-- The character that a letter behind a backslash stands for. -/
def escaped? : Char → Option Char
  | '"' => some '"'
  | '\\' => some '\\'
  | '/' => some '/'
  | 'b' => some '\x08'
  | 'f' => some '\x0c'
  | 'n' => some '\n'
  | 'r' => some '\r'
  | 't' => some '\t'
  | _ => none

/-- The parts of a string up to its closing quotation mark, and what follows
that. -/
def readParts : List Char → Option (List Part × List Char)
  | [] => none
  | '"' :: rest => some ([], rest)
  | '\\' :: 'u' :: a :: b :: c :: d :: rest => do
    let n ← unitValue? a b c d
    let (ps, rest) ← readParts rest
    return (.unit n :: ps, rest)
  | '\\' :: c :: rest => do
    let c ← escaped? c
    let (ps, rest) ← readParts rest
    return (.char c :: ps, rest)
  | c :: rest =>
    if c.toNat < 0x20 then none
    else do
      let (ps, rest) ← readParts rest
      return (.char c :: ps, rest)

/-- A unit that is the first half of a character. -/
def isHighHalf (n : Nat) : Bool := decide (0xD800 ≤ n) && decide (n < 0xDC00)

/-- A unit that is the second half of a character. -/
def isLowHalf (n : Nat) : Bool := decide (0xDC00 ≤ n) && decide (n < 0xE000)

/-- The text of the parts. Two halves that follow each other are one
character; a half alone is none. -/
def joinParts : List Part → Option (List Char)
  | [] => some []
  | .char c :: ps => (joinParts ps).map (c :: ·)
  | .unit n :: .unit m :: ps =>
    -- Each half carries ten bits of a code point above the first 65536.
    if isHighHalf n then
      if isLowHalf m then
        (joinParts ps).map (Char.ofNat ((n - 0xD800) * 0x400 + (m - 0xDC00) + 0x10000) :: ·)
      else none
    else if isLowHalf n then none
    else (joinParts (.unit m :: ps)).map (Char.ofNat n :: ·)
  | .unit n :: ps =>
    if isHighHalf n || isLowHalf n then none else (joinParts ps).map (Char.ofNat n :: ·)

/-- The string behind an opening quotation mark, and what follows it. -/
def readString (cs : List Char) : Option (String × List Char) := do
  let (ps, rest) ← readParts cs
  let text ← joinParts ps
  return (String.ofList text, rest)

/-! ### Numbers -/

/-- The values of the digits at the front, and what follows them. -/
def readDigits : List Char → List Nat × List Char
  | [] => ([], [])
  | c :: cs =>
    match Decimal.digitValue? c with
    | some d => let (ds, rest) := readDigits cs; (d :: ds, rest)
    | none => ([], c :: cs)

/-- A number as it is written. -/
structure Numeral where
  /-- A minus sign stands in front. -/
  negative : Bool
  /-- The digits before the point. -/
  whole : List Nat
  /-- The digits behind the point, if there is one. -/
  fraction : Option (List Nat)
  /-- The exponent, if there is one. -/
  exponent : Option Int

/-- The number that digits spell. -/
def ofDigits (ds : List Nat) : Nat := ds.foldl (fun n d => n * 10 + d) 0

/-- Appends digits to a number as long as it fits into a word, and says how
many were left over. -/
def appendFitting (n : Nat) : List Nat → Nat × Nat
  | [] => (n, 0)
  | d :: ds =>
    if n * 10 + d < UInt64.size then appendFitting (n * 10 + d) ds else (n, ds.length + 1)

/-- The number that a numeral stands for. The digits that no longer fit into a
word count by their place alone. A negative zero is a floating point
number. -/
def Numeral.number? (x : Numeral) : Option Number :=
  let (digits, left) := appendFitting 0 x.whole
  -- A minus sign admits one number more, and no zero.
  let isWord := x.fraction.isNone && x.exponent.isNone && left == 0
  if isWord && !x.negative then some (.whole digits)
  else if isWord && 0 < digits && digits ≤ 9223372036854775808 then some (.whole (-digits))
  else
    -- Digits behind the point go on filling the word, and each one that fits
    -- moves the last digit one place down.
    let fraction := x.fraction.getD []
    let (digits, cut) := appendFitting digits fraction
    let places : Int := left - (fraction.length - cut)
    (Binary64.ofDecimal x.negative digits (places + x.exponent.getD 0)).map .real

/-- The digits before the point: a single zero, or digits that start with
another one. -/
def readWhole (cs : List Char) : Option (List Nat × List Char) :=
  match readDigits cs with
  | ([], _) => none
  | (0 :: _ :: _, _) => none
  | (ds, rest) => some (ds, rest)

/-- The digits behind the point, at least one. -/
def readFraction : List Char → Option (Option (List Nat) × List Char)
  | '.' :: cs =>
    match readDigits cs with
    | ([], _) => none
    | (ds, rest) => some (some ds, rest)
  | cs => some (none, cs)

/-- The exponent's digits, at least one. -/
def readExponentDigits (negative : Bool) (cs : List Char) : Option (Option Int × List Char) :=
  match readDigits cs with
  | ([], _) => none
  | (ds, rest) => some (some (if negative then -(ofDigits ds : Int) else ofDigits ds), rest)

/-- The exponent with its sign. -/
def readExponent : List Char → Option (Option Int × List Char)
  | c :: cs =>
    if c = 'e' ∨ c = 'E' then
      match cs with
      | '+' :: cs => readExponentDigits false cs
      | '-' :: cs => readExponentDigits true cs
      | cs => readExponentDigits false cs
    else some (none, c :: cs)
  | [] => some (none, [])

/-- The number at the front, behind its sign, and what follows it. -/
def readUnsigned (negative : Bool) (cs : List Char) : Option (Number × List Char) := do
  let (whole, rest) ← readWhole cs
  let (fraction, rest) ← readFraction rest
  let (exponent, rest) ← readExponent rest
  let n ← Numeral.number? ⟨negative, whole, fraction, exponent⟩
  return (n, rest)

/-- The number at the front, and what follows it. -/
def readNumber : List Char → Option (Number × List Char)
  | '-' :: cs => readUnsigned true cs
  | cs => readUnsigned false cs

/-! ### Words -/

/-- A blank of the format. -/
def isBlank (c : Char) : Bool := c = ' ' || c = '\t' || c = '\n' || c = '\r'

/-- The word at the front of a text that does not start with a blank, and what
follows it. -/
def readToken : List Char → Option (Token × List Char)
  | '\x7b' :: cs => some (.openBrace, cs)
  | '\x7d' :: cs => some (.closeBrace, cs)
  | '[' :: cs => some (.openBracket, cs)
  | ']' :: cs => some (.closeBracket, cs)
  | ':' :: cs => some (.colon, cs)
  | ',' :: cs => some (.comma, cs)
  | 'n' :: 'u' :: 'l' :: 'l' :: cs => some (.null, cs)
  | 't' :: 'r' :: 'u' :: 'e' :: cs => some (.bool true, cs)
  | 'f' :: 'a' :: 'l' :: 's' :: 'e' :: cs => some (.bool false, cs)
  | '"' :: cs => (readString cs).map fun (s, rest) => (.string s, rest)
  | cs => (readNumber cs).map fun (n, rest) => (.number n, rest)

/-- The words of a text. The number of words to read at most is given; a text
never holds more of them than characters. -/
def tokensUpTo : Nat → List Char → Option (List Token)
  | _, [] => some []
  | 0, _ :: _ => none
  | n + 1, c :: cs =>
    if isBlank c then tokensUpTo n cs
    else do
      let (t, rest) ← readToken (c :: cs)
      let ts ← tokensUpTo n rest
      return t :: ts

/-- The words of a text, when all of it is words and blanks. -/
def tokens? (cs : List Char) : Option (List Token) := tokensUpTo cs.length cs

end Snowflake.Json
