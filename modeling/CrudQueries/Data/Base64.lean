/-
  CrudQueries.Data.Base64 — bytes from text in which each character stands for six bits.

  Four characters make three bytes. Characters that stand for nothing are passed over. Padding
  ends the text once it fills a group of four, which must have two characters at least; whatever
  follows is not looked at. A text that ends inside a group is malformed.
-/

namespace CrudQueries.Data.Base64

/-- The six bits of a character. -/
def bits? (c : Char) : Option Nat :=
  if 'A' ≤ c && c ≤ 'Z' then some (c.toNat - 'A'.toNat)
  else if 'a' ≤ c && c ≤ 'z' then some (c.toNat - 'a'.toNat + 26)
  else if '0' ≤ c && c ≤ '9' then some (c.toNat - '0'.toNat + 52)
  else if c == '+' then some 62
  else if c == '/' then some 63
  else none

/-- The byte that the bits of two neighbours make when the second is at `position` in its group. -/
def byteAt (position left right : Nat) : List UInt8 :=
  match position with
  | 1 => [UInt8.ofNat (left * 4 + right / 16)]
  | 2 => [UInt8.ofNat (left % 16 * 16 + right / 4)]
  | 3 => [UInt8.ofNat (left % 4 * 64 + right)]
  | _ => []

/-- The bytes of the characters from `position` in a group on, after one with the bits `left` and
  `pads` characters of padding. -/
def decodeFrom (position left pads : Nat) : List Char → Option (List UInt8)
  | [] => if position = 0 then some [] else none
  | '=' :: rest =>
    if position < 2 then decodeFrom position left pads rest
    else if position + pads + 1 ≥ 4 then some []
    else decodeFrom position left (pads + 1) rest
  | c :: rest =>
    match bits? c with
    | none => decodeFrom position left pads rest
    | some right =>
      (decodeFrom ((position + 1) % 4) right 0 rest).map (byteAt position left right ++ ·)

/-- The bytes that a text stands for. -/
def decode? (s : String) : Option (List UInt8) := decodeFrom 0 0 0 s.toList

end CrudQueries.Data.Base64
