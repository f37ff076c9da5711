/-
  CrudQueries.Data.Yaml.Meaning — the values that the texts of scalars stand for.

  A tag can ask any text for a value of any kind, so each reading says what is wrong with a text
  that has none.
-/

import CrudQueries.Data.Base64
import CrudQueries.Data.Value
import CrudQueries.Data.Yaml.Kind
import CrudQueries.Data.Yaml.Token
import CrudQueries.Text.Blank
import CrudQueries.Text.Case
import CrudQueries.Text.DecimalDigit

namespace CrudQueries.Data.Yaml

open CrudQueries.Number (Binary64)
open CrudQueries.Text (digitsValue hexValue? isDigit)

/-! ## Whole numbers -/

/-- The digits of a base, as values. -/
def digitsOf? (base : Nat) (cs : List Char) : Option (List Nat) :=
  if cs.isEmpty then none else cs.mapM fun c => (hexValue? c).filter (· < base)

/-- The mark that may stand before the digits of a base. -/
def baseMark (base : Nat) : List Char :=
  match base with
  | 2 => ['b', 'B']
  | 8 => ['o', 'O']
  | 16 => ['x', 'X']
  | _ => []

/-- Digits without the mark of their base. -/
def withoutMark (base : Nat) (cs : List Char) : List Char :=
  match cs with
  | '0' :: mark :: rest =>
    if (baseMark base).contains mark then rest else cs
  | _ => cs

/-- The most decimal digits of a number. -/
def digitLimit : Nat := 4300

/-- The number that a numeral of a base writes, blanks around it, a sign and digits of any script
  allowed. -/
def wholeOf (base : Nat) (cs : List Char) : Except ReadError Int :=
  let trimmed := Text.plainDigits (Text.trimBlanks cs)
  let digits := withoutMark base (Kind.withoutSign trimmed)
  let run := (digits.takeWhile isDigit).length
  if base == 10 && run > digitLimit then .error (.longNumber run)
  else
    match digitsOf? base digits with
    | none => .error (.whole base (String.ofList cs))
    | some ds =>
      let n := ds.foldl (fun n d => n * base + d) 0
      .ok (if trimmed.head? == some '-' then -(n : Int) else n)

/-- The number of groups of sixties, the first one the highest. -/
def sixtiesOf (cs : List Char) : Except ReadError Int := do
  let groups ← (Text.splitOnChar ':' cs).mapM (wholeOf 10)
  .ok (groups.foldl (fun n group => n * 60 + group) 0)

/-- A text without underscores as a sign and what follows it. -/
def signed (s : String) : Except ReadError (Bool × List Char) :=
  match s.toList.filter (· != '_') with
  | [] => .error .noDigits
  | c :: rest => .ok (c == '-', if c == '-' || c == '+' then rest else c :: rest)

def wholeValue (s : String) : Except ReadError Int := do
  let (negative, cs) ← signed s
  let n ← match cs with
    | [] => .error .noDigits
    | ['0'] => .ok 0
    | '0' :: 'b' :: digits => wholeOf 2 digits
    | '0' :: 'x' :: digits => wholeOf 16 digits
    | '0' :: _ => wholeOf 8 cs
    | _ => if cs.contains ':' then sixtiesOf cs else wholeOf 10 cs
  .ok (if negative then -n else n)

/-! ## Fractions -/

/-- The exponent at the end of a numeral. -/
def exponentOf? : List Char → Option Int
  | [] => some 0
  | 'e' :: rest =>
    let digits := Kind.withoutSign rest
    if digits.isEmpty || !digits.all isDigit then none
    else some (if rest.head? == some '-' then -(digitsValue digits : Int) else digitsValue digits)
  | _ => none

/-- The number that small letters and digits write; `cs` has no sign. -/
def unsignedFraction? (negative : Bool) (cs : List Char) : Option Binary64 :=
  if ["inf", "infinity"].contains (String.ofList cs) then some (.infinity negative)
  else if String.ofList cs == "nan" then some .nan
  else do
    let whole := cs.takeWhile isDigit
    let rest := cs.dropWhile isDigit
    let (places, rest) := match rest with
      | '.' :: rest => (rest.takeWhile isDigit, rest.dropWhile isDigit)
      | _ => ([], rest)
    if whole.isEmpty && places.isEmpty then none
    let exponent ← exponentOf? rest
    some (.ofDecimal negative (digitsValue (whole ++ places)) (exponent - places.length))

/-- The number that a numeral writes, blanks around it, a sign and digits of any script allowed. -/
def fractionOf (cs : List Char) : Except ReadError Binary64 :=
  let trimmed := Text.plainDigits (Text.trimBlanks cs)
  match unsignedFraction? (trimmed.head? == some '-') (Kind.withoutSign trimmed) with
  | some x => .ok x
  | none => .error (.fraction (String.ofList cs))

/-- The sum of the groups, each with its power of sixty, from the last to the first. -/
def sixtiesSum (groups : List Binary64) : Binary64 :=
  (groups.reverse.foldl (fun (sum, base) group =>
    (Binary64.add sum (Binary64.mul group (Binary64.ofInt base)), base * 60))
    (Binary64.zero false, (1 : Int))).1

def fractionValue (s : String) : Except ReadError Binary64 := do
  let (negative, cs) ← signed (Text.lower s)
  let x ← match String.ofList cs with
    | ".inf" => .ok (Binary64.infinity false)
    | ".nan" => .ok Binary64.nan
    | _ =>
      if cs.contains ':' then do
        let groups ← (Text.splitOnChar ':' cs).mapM fractionOf
        .ok (sixtiesSum groups)
      else fractionOf cs
  .ok (if negative then x.neg else x)

/-! ## Days and moments -/

def aheadMinutes : Char × List Char × List Char → Int
  | (sign, hours, minutes) =>
    let n : Int := digitsValue hours * 60 + digitsValue minutes
    if sign == '-' then -n else n

/-- The microseconds that the first six places after a point write. -/
def microseconds (places : List Char) : Nat :=
  let places := places.take 6
  digitsValue (places ++ List.replicate (6 - places.length) '0')

def momentOf (form : Kind.MomentForm) : Except CalendarError Value := do
  let day := Day.of (digitsValue form.year) (digitsValue form.month) (digitsValue form.day)
  match form.clock with
  | none => .ok (.day (← day))
  | some (hour, minute, second) =>
    let ahead ← match form.ahead with
      | none => .ok none
      | some none => .ok (some 0)
      | some (some distance) => (checkAhead (aheadMinutes distance)).map some
    let clock := Clock.of (digitsValue hour) (digitsValue minute) (digitsValue second) (microseconds form.places)
    .ok (.moment ⟨← day, ← clock, ahead⟩)

def momentValue (s : String) : Except ReadError Value :=
  let cs := if s.toList.getLast? == some '\n' then s.toList.dropLast else s.toList
  match Kind.momentForm? cs with
  | none => .error .noMoment
  | some form => (momentOf form).mapError .calendar

/-! ## All kinds -/

def truthValue (s : String) : Except ReadError Bool :=
  let word := Text.lower s
  match Kind.truthWords.lookup word with
  | some b => .ok b
  | none => .error (.truth word)

def binaryValue (s : String) : Except ReadError Value :=
  if s.toList.any fun c => c.toNat ≥ 128 then .error .malformed
  else
    match Base64.decode? s with
    | some bytes => .ok (.bytes bytes)
    | none => .error .malformed

/-- The value of a scalar's text. -/
def scalarValue (kind : Kind) (s : String) : Except ReadError Value :=
  match kind with
  | .null => .ok .null
  | .truth => (truthValue s).map .bool
  | .whole => (wholeValue s).map .int
  | .fraction => (fractionValue s).map .float
  | .binary => binaryValue s
  | .moment => momentValue s
  | .text => .ok (.text s)
  | _ => .error .malformed

end CrudQueries.Data.Yaml
