/-
  CrudQueries.Number.Binary64 — 64-bit binary floating-point numbers, by exact arithmetic.

  A number is its bits. A finite one is ± m · 2^e with whole m and e, and every operation
  computes the exact rational result and rounds it once, to the nearest number and to an even
  m in a tie (`ofRatio`). A result too large becomes an infinity.
-/

namespace CrudQueries.Number

-- Powers are those of the core library, whatever else is imported.
attribute [local instance (high)] instPowNat

/-- The bits of a number: sign, eleven exponent bits, fifty-two fraction bits. -/
structure Binary64 where
  bits : UInt64
  deriving DecidableEq, Repr

namespace Binary64

/-- What the bits stand for. -/
inductive View where
  | finite (negative : Bool) (significand : Nat) (exponent : Int)
  | infinite (negative : Bool)
  | notANumber
  deriving DecidableEq, Repr

def signBit (negative : Bool) : Nat := if negative then 2 ^ (63 : Nat) else 0

def view (x : Binary64) : View :=
  let n := x.bits.toNat
  let negative := 2 ^ (63 : Nat) ≤ n
  let exponent : Nat := n / 2 ^ (52 : Nat) % 2048
  let fraction := n % 2 ^ (52 : Nat)
  if exponent = 2047 then
    if fraction = 0 then .infinite negative else .notANumber
  else if exponent = 0 then .finite negative fraction (-1074)
  else .finite negative (fraction + 2 ^ (52 : Nat)) ((exponent : Int) - 1075)

def infinity (negative : Bool) : Binary64 := ⟨.ofNat (signBit negative + 2047 * 2 ^ (52 : Nat))⟩

def nan : Binary64 := ⟨.ofNat (2047 * 2 ^ (52 : Nat) + 2 ^ (51 : Nat))⟩

def zero (negative : Bool) : Binary64 := ⟨.ofNat (signBit negative)⟩

/-- The whole number nearest to `num / den`, the even one in a tie. -/
def roundDiv (num den : Nat) : Nat :=
  let q := num / den
  let twice := 2 * (num % den)
  if twice < den then q
  else if twice = den then q + q % 2
  else q + 1

/-- `num / den` in units of `2 ^ exponent`, as a fraction. -/
def inUnits (num den : Nat) (exponent : Int) : Nat × Nat :=
  if exponent < 0 then (num * 2 ^ exponent.natAbs, den) else (num, den * 2 ^ exponent.natAbs)

/-- The number with the given significand and exponent; one that is too large is infinite. -/
def pack (negative : Bool) (significand : Nat) (exponent : Int) : Binary64 :=
  if significand < 2 ^ (52 : Nat) then ⟨.ofNat (signBit negative + significand)⟩
  else if exponent > 971 then infinity negative
  else ⟨.ofNat (signBit negative + (exponent + 1075).toNat * 2 ^ (52 : Nat) + (significand - 2 ^ (52 : Nat)))⟩

/-- The number nearest to ± `num / den`. -/
def ofRatio (negative : Bool) (num den : Nat) : Binary64 :=
  if num = 0 then zero negative
  else
    let lowest : Int := max ((num.log2 : Int) - den.log2 - 53) (-1074)
    let (a, b) := inUnits num den lowest
    let exponent := if 2 ^ (53 : Nat) ≤ a / b then lowest + 1 else lowest
    let (a, b) := inUnits num den exponent
    let significand := roundDiv a b
    if significand = 2 ^ (53 : Nat) then pack negative (2 ^ (52 : Nat)) (exponent + 1)
    else pack negative significand exponent

/-- The number nearest to a decimal numeral ± `digits` · 10^`exponent`. -/
def ofDecimal (negative : Bool) (digits : Nat) (exponent : Int) : Binary64 :=
  let size := (Nat.toDigits 10 digits).length + exponent
  if digits = 0 ∨ size < -400 then zero negative
  else if size > 400 then infinity negative
  else if exponent < 0 then ofRatio negative digits (10 ^ exponent.natAbs)
  else ofRatio negative (digits * 10 ^ exponent.natAbs) 1

/-- The number nearest to a whole number. -/
def ofInt (n : Int) : Binary64 := ofRatio (n < 0) n.natAbs 1

/-- A finite number as a fraction with sign: numerator and positive denominator. -/
def ratio? (x : Binary64) : Option (Int × Nat) :=
  match x.view with
  | .finite negative m e =>
    let num := if e < 0 then m else m * 2 ^ e.natAbs
    let den := if e < 0 then 2 ^ e.natAbs else 1
    some (if negative then -(num : Int) else num, den)
  | _ => none

def isNegative (x : Binary64) : Bool := 2 ^ (63 : Nat) ≤ x.bits.toNat

/-- The rounded fraction `num / den`, with the given sign for an exact zero. -/
def ofSigned (zeroNegative : Bool) (num : Int) (den : Nat) : Binary64 :=
  if num = 0 then zero zeroNegative else ofRatio (num < 0) num.natAbs den

def neg (x : Binary64) : Binary64 := ⟨x.bits ^^^ 0x8000000000000000⟩

def add (x y : Binary64) : Binary64 :=
  match x.view, y.view with
  | .notANumber, _ | _, .notANumber => nan
  | .infinite s, .infinite t => if s = t then infinity s else nan
  | .infinite s, _ => infinity s
  | _, .infinite t => infinity t
  | .finite .., .finite .. =>
    match x.ratio?, y.ratio? with
    | some (a, b), some (c, d) => ofSigned (x.isNegative && y.isNegative) (a * d + c * b) (b * d)
    | _, _ => nan

def sub (x y : Binary64) : Binary64 := add x y.neg

def mul (x y : Binary64) : Binary64 :=
  let negative := x.isNegative != y.isNegative
  match x.view, y.view with
  | .notANumber, _ | _, .notANumber => nan
  | .infinite _, .finite _ 0 _ | .finite _ 0 _, .infinite _ => nan
  | .infinite _, _ | _, .infinite _ => infinity negative
  | .finite .., .finite .. =>
    match x.ratio?, y.ratio? with
    | some (a, b), some (c, d) => ofSigned negative (a * c) (b * d)
    | _, _ => nan

/-- The whole number that `x` equals, if it equals one. -/
def toInt? (x : Binary64) : Option Int :=
  match x.ratio? with
  | some (num, den) => if num % den = 0 then some (num / den) else none
  | none => none

/-- Equality of values: zeros of either sign are equal, and what is not a number equals nothing. -/
def sameValue (x y : Binary64) : Bool :=
  match x.view, y.view with
  | .notANumber, _ | _, .notANumber => false
  | .finite _ 0 _, .finite _ 0 _ => true
  | _, _ => x == y

end Binary64

end CrudQueries.Number
