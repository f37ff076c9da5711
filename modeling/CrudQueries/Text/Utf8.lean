/-
  CrudQueries.Text.Utf8 — bytes to text, with the place and the kind of the first fault.

  A fault covers the bytes of the longest beginning of a well-formed sequence that stands at
  its position: a byte that cannot begin a sequence stands alone, a sequence cut short by
  another byte covers what came before that byte, and one cut short by the end of the data
  covers all that is left.
-/

import CrudQueries.Text.Shown

namespace CrudQueries.Text.Utf8

/-- Why bytes are no text. -/
inductive Reason where
  | invalidStart
  | invalidContinuation
  | unexpectedEnd
  deriving DecidableEq, Repr

/-- A fault: where it begins, the bytes it covers, and why. -/
structure Fault where
  position : Nat
  bytes : List UInt8
  reason : Reason
  deriving DecidableEq

def Reason.message : Reason → String
  | .invalidStart => "invalid start byte"
  | .invalidContinuation => "invalid continuation byte"
  | .unexpectedEnd => "unexpected end of data"

def Fault.message (f : Fault) : String :=
  let place := match f.bytes with
    | [b] => "byte 0x" ++ String.ofList (hexDigits 2 b.toNat) ++ " in position " ++ toString f.position
    | bs => "bytes in position " ++ toString f.position ++ "-" ++ toString (f.position + bs.length - 1)
  "'utf-8' codec can't decode " ++ place ++ ": " ++ f.reason.message

/-- The allowed range of the first continuation byte after `lead`, and how many continuation
  bytes follow; `none` when `lead` begins no longer sequence. -/
def continuation (lead : UInt8) : Option (Nat × UInt8 × UInt8) :=
  if lead < 0xC2 then none
  else if lead < 0xE0 then some (1, 0x80, 0xBF)
  else if lead == 0xE0 then some (2, 0xA0, 0xBF)
  else if lead == 0xED then some (2, 0x80, 0x9F)
  else if lead < 0xF0 then some (2, 0x80, 0xBF)
  else if lead == 0xF0 then some (3, 0x90, 0xBF)
  else if lead < 0xF4 then some (3, 0x80, 0xBF)
  else if lead == 0xF4 then some (3, 0x80, 0x8F)
  else none

/-- The payload of the first byte of a sequence with `more` continuation bytes. -/
def leadPayload (more : Nat) (lead : UInt8) : Nat :=
  lead.toNat % (if more = 1 then 32 else if more = 2 then 16 else 8)

/-- The code point of the continuation bytes at the head of `bs`, of which `more` are due.
  `seen` holds the bytes of the sequence so far, last first. -/
def continueWith (more : Nat) (low high : UInt8) (code : Nat) (seen : List UInt8) (bs : List UInt8) :
    Except (List UInt8 × Reason) (Nat × List UInt8) :=
  match more, bs with
  | 0, _ => .ok (code, bs)
  | _ + 1, [] => .error (seen.reverse, .unexpectedEnd)
  | more + 1, b :: rest =>
    if low ≤ b && b ≤ high then
      continueWith more 0x80 0xBF (code * 64 + b.toNat % 64) (b :: seen) rest
    else .error (seen.reverse, .invalidContinuation)

/-- The characters of `bs`, which begin at byte `position`, with as much fuel as there are bytes. -/
def decodeFrom (fuel : Nat) (position : Nat) (bs : List UInt8) (read : List Char) :
    Except Fault (List Char) :=
  match fuel, bs with
  | _, [] => .ok read.reverse
  | 0, _ => .ok read.reverse
  | fuel + 1, b :: rest =>
    if b < 0x80 then decodeFrom fuel (position + 1) rest (Char.ofNat b.toNat :: read)
    else
      match continuation b with
      | none => .error ⟨position, [b], .invalidStart⟩
      | some (more, low, high) =>
        match continueWith more low high (leadPayload more b) [b] rest with
        | .error (bytes, reason) => .error ⟨position, bytes, reason⟩
        | .ok (code, rest) => decodeFrom fuel (position + 1 + more) rest (Char.ofNat code :: read)

/-- The text that the bytes encode, or the first fault in them. -/
def decode (bytes : ByteArray) : Except Fault String :=
  (decodeFrom bytes.size 0 bytes.toList []).map String.ofList

/-- The bytes of a text. -/
def encode (s : String) : ByteArray := s.toUTF8

end CrudQueries.Text.Utf8
