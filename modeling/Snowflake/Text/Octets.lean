import Snowflake.Text.Quoted

/-!
# `Snowflake.Text.Octets`: octets read as UTF-8

The environment hands over octets. `pieces` cuts them into the characters they
encode and the octets that belong to no character; `decode?` gives the text
when every octet belongs to one. `quoted` shows octets that are no text: the
stray ones in upper-case hexadecimal, the rest as in `Quoted`.
-/

set_option autoImplicit false

namespace Snowflake.Text.Octets

/-- A character, or an octet that is part of none. -/
inductive Piece
  /-- A well-formed character. -/
  | char (c : Char)
  /-- An octet outside every character. -/
  | stray (b : UInt8)
deriving DecidableEq

/-- The low six bits of a continuation octet. -/
def tail? (b : UInt8) : Option Nat :=
  if 0x80 ≤ b.toNat ∧ b.toNat ≤ 0xBF then some (b.toNat - 0x80) else none

/-- The character of a code point, when the code point has at least the given
value. A smaller one has a shorter spelling, which is the only one allowed. -/
def charFrom? (least n : Nat) : Option Char :=
  if h : n.isValidChar then
    if least ≤ n then some (Char.ofNatAux n h) else none
  else none

/-- The character that the octets start with, and how many octets it takes. -/
def first? : List UInt8 → Option (Char × Nat)
  | [] => none
  | a :: rest =>
    let n := a.toNat
    -- The first octet says how many follow.
    if n < 0x80 then (charFrom? 0 n).map (·, 1)
    else if 0xC0 ≤ n ∧ n < 0xE0 then
      match rest with
      | b :: _ => do
        let b ← tail? b
        let c ← charFrom? 0x80 ((n - 0xC0) * 64 + b)
        return (c, 2)
      | _ => none
    else if 0xE0 ≤ n ∧ n < 0xF0 then
      match rest with
      | b :: c :: _ => do
        let b ← tail? b
        let c ← tail? c
        let c ← charFrom? 0x800 (((n - 0xE0) * 64 + b) * 64 + c)
        return (c, 3)
      | _ => none
    else if 0xF0 ≤ n ∧ n < 0xF8 then
      match rest with
      | b :: c :: d :: _ => do
        let b ← tail? b
        let c ← tail? c
        let d ← tail? d
        let c ← charFrom? 0x10000 ((((n - 0xF0) * 64 + b) * 64 + c) * 64 + d)
        return (c, 4)
      | _ => none
    else none

/-- The characters and stray octets of a list of octets, from left to
right. -/
def pieces : List UInt8 → List Piece
  | [] => []
  | a :: rest =>
    match first? (a :: rest) with
    | some (c, n) => .char c :: pieces (rest.drop (n - 1))
    | none => .stray a :: pieces rest
termination_by bs => bs.length
decreasing_by
  · simp only [List.length_drop, List.length_cons]
    omega
  · simp

/-- The character of a piece, if it is one. -/
def Piece.char? : Piece → Option Char
  | .char c => some c
  | .stray _ => none

/-- The text that the octets encode, when no octet is stray. -/
def decode? (bs : List UInt8) : Option String :=
  ((pieces bs).mapM Piece.char?).map String.ofList

/-- A piece as it stands between quotation marks. -/
def Piece.escape : Piece → List Char
  | .char c => Quoted.escape c
  | .stray b =>
    ['\\', 'x', (Nat.digitChar (b.toNat / 16)).toUpper, (Nat.digitChar (b.toNat % 16)).toUpper]

/-- Octets between quotation marks. -/
def quoted (bs : List UInt8) : String :=
  String.ofList ('"' :: (pieces bs).flatMap Piece.escape ++ ['"'])

end Snowflake.Text.Octets
