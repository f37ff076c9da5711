/-
  CrudQueries.Number.Decimal — decimal text of binary numbers.

  `shortest` gives the fewest significant digits that read back as the number, and of those
  the nearest to it. For each count of digits it looks at the two neighbours of the value on
  that decimal grid and asks whether one lies among the reals that round to the number.
  `Binary64.shown` writes them positionally from 10^-4 up to below 10^16 and with an exponent
  of at least two digits elsewhere; a whole number keeps one zero after the point.
  `Binary64.fixed` rounds the exact value to a number of places, a half to the even digit.
-/

import CrudQueries.Number.Binary64

namespace CrudQueries.Number

-- Powers are those of the core library, whatever else is imported.
attribute [local instance (high)] instPowNat

/-- The fraction `num / den` at least one power of ten `10 ^ k`? -/
def reachesPower (num den : Nat) (k : Int) : Bool :=
  if k < 0 then den ≤ num * 10 ^ k.natAbs else den * 10 ^ k.natAbs ≤ num

/-- The exponent of the leading decimal digit of `num / den`, searched upwards from `k`. -/
def leadingExponent (fuel : Nat) (num den : Nat) (k : Int) : Int :=
  match fuel with
  | 0 => k
  | fuel + 1 => if reachesPower num den (k + 1) then leadingExponent fuel num den (k + 1) else k

/-- The reals that round to a number, as a fraction interval over one denominator. -/
structure RoundingInterval where
  low : Nat
  value : Nat
  high : Nat
  den : Nat
  closed : Bool

/-- The interval of a positive number m · 2^e: half a unit to each side, a quarter below a
  power of two, the ends belonging to it when m is even. -/
def roundingInterval (m : Nat) (e : Int) : RoundingInterval :=
  let below := if m = 2 ^ (52 : Nat) ∧ e > -1074 then 1 else 2
  let scale := if e < 0 then 1 else 2 ^ e.natAbs
  let den := if e < 0 then 4 * 2 ^ e.natAbs else 4
  ⟨(4 * m - below) * scale, 4 * m * scale, (4 * m + 2) * scale, den, m % 2 == 0⟩

/-- Does `n · 10 ^ p` round to the number? -/
def RoundingInterval.has (i : RoundingInterval) (n : Nat) (p : Int) : Bool :=
  let x := if p < 0 then n else n * 10 ^ p.natAbs
  let unit := if p < 0 then 10 ^ p.natAbs else 1
  if i.closed then i.low * unit ≤ x * i.den && x * i.den ≤ i.high * unit
  else i.low * unit < x * i.den && x * i.den < i.high * unit

/-- The neighbours of the value on the grid of multiples of `10 ^ p`: the lower one, and
  whether the value lies nearer to the upper one (an exact middle goes to the even neighbour). -/
def RoundingInterval.neighbours (i : RoundingInterval) (p : Int) : Nat × Bool :=
  let num := if p < 0 then i.value * 10 ^ p.natAbs else i.value
  let den := if p < 0 then i.den else i.den * 10 ^ p.natAbs
  let lower := num / den
  (lower, Binary64.roundDiv num den != lower)

/-- The first grid from `count` digits on that has a neighbour in the interval. -/
def shortestFrom (fuel : Nat) (i : RoundingInterval) (leading : Int) (count : Nat) : Nat × Int :=
  let p := leading - count + 1
  let (lower, upperNearer) := i.neighbours p
  let near := if upperNearer then lower + 1 else lower
  let far := if upperNearer then lower else lower + 1
  if i.has near p then (near, p)
  else if i.has far p then (far, p)
  else
    match fuel with
    | 0 => (near, p)
    | fuel + 1 => shortestFrom fuel i leading (count + 1)

/-- The shortest decimal n · 10^p that reads back as the positive number m · 2^e. -/
def shortest (m : Nat) (e : Int) : Nat × Int :=
  let i := roundingInterval m e
  let guess := ((i.value.log2 : Int) - i.den.log2 - 1) * 30103 / 100000 - 1
  shortestFrom 17 i (leadingExponent 4 i.value i.den guess) 1

/-- Decimal digits with the point after the first `point` of them, zeros filled in. -/
def positional (digits : List Char) (point : Int) : List Char :=
  if point ≤ 0 then '0' :: '.' :: List.replicate point.natAbs '0' ++ digits
  else
    let whole := digits.take point.toNat ++ List.replicate (point.toNat - digits.length) '0'
    let fraction := digits.drop point.toNat
    whole ++ '.' :: (if fraction.isEmpty then ['0'] else fraction)

/-- Decimal digits with an exponent of ten. -/
def scientific (digits : List Char) (exponent : Int) : List Char :=
  let mantissa := match digits with
    | [] => []
    | [d] => [d]
    | d :: rest => d :: '.' :: rest
  let power := Nat.toDigits 10 exponent.natAbs
  let power := if power.length < 2 then '0' :: power else power
  mantissa ++ 'e' :: (if exponent < 0 then '-' else '+') :: power

/-- The digits of `n` without the zeros at its end. -/
def significantDigits (n : Nat) : List Char :=
  ((Nat.toDigits 10 n).reverse.dropWhile (· == '0')).reverse

namespace Binary64

/-- The display of a number: the shortest text that reads back as it. -/
def shown (x : Binary64) : String :=
  match x.view with
  | .notANumber => "nan"
  | .infinite negative => if negative then "-inf" else "inf"
  | .finite negative m e =>
    let body := if m = 0 then ['0', '.', '0'] else
      let (n, p) := shortest m e
      let point := (Nat.toDigits 10 n).length + p
      let digits := significantDigits n
      if -4 < point && point ≤ 16 then positional digits point else scientific digits (point - 1)
    String.ofList (if negative then '-' :: body else body)

/-- The number with exactly `places` digits after the point. -/
def fixed (places : Nat) (x : Binary64) : String :=
  match x.view with
  | .notANumber => "nan"
  | .infinite negative => if negative then "-inf" else "inf"
  | .finite negative m e =>
    let num := if e < 0 then m * 10 ^ places else m * 10 ^ places * 2 ^ e.natAbs
    let den := if e < 0 then 2 ^ e.natAbs else 1
    let digits := Nat.toDigits 10 (roundDiv num den)
    let digits := List.replicate (places + 1 - digits.length) '0' ++ digits
    let whole := digits.take (digits.length - places)
    let body := if places = 0 then whole else whole ++ '.' :: digits.drop (digits.length - places)
    String.ofList (if negative then '-' :: body else body)

end Binary64

example : (Binary64.ofDecimal false 1 (-1)).shown = "0.1" := by decide +kernel
example : (Binary64.ofDecimal false 5 (-324)).shown = "5e-324" := by decide +kernel
example : (Binary64.ofDecimal false 9995 (-4)).fixed 3 = "1.000" := by decide +kernel
example : (Binary64.ofDecimal false 625 (-4)).fixed 3 = "0.062" := by decide +kernel

end CrudQueries.Number
