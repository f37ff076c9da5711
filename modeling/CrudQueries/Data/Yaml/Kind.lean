/-
  CrudQueries.Data.Yaml.Kind — the kinds of nodes, and the kind that a plain scalar has by its form.

  A plain scalar is tried as a truth value, a fraction, a whole number, the mark of a merge, null, a
  day or moment, the mark of a default value, and is a text if it is none of them. Numbers may have
  underscores among their digits and sixties between colons; a whole number that begins with a zero
  is octal. A fraction needs a point, and a sign in its exponent.
-/

import CrudQueries.Text.Figures

namespace CrudQueries.Data.Yaml

open CrudQueries.Text (isDigit hexValue?)

inductive Kind where
  | null
  | truth
  | whole
  | fraction
  | binary
  | moment
  | orderedPairs
  | pairs
  | set
  | text
  | sequence
  | mapping
  | merge
  | default
  | unknown
  deriving DecidableEq, Repr

namespace Kind

/-- The address under which the common kinds are named. -/
def common : String := "tag:yaml.org,2002:"

def names : List (String × Kind) := [
  ("null", null), ("bool", truth), ("int", whole), ("float", fraction), ("binary", binary),
  ("timestamp", moment), ("omap", orderedPairs), ("pairs", pairs), ("set", set), ("str", text),
  ("seq", sequence), ("map", mapping), ("merge", merge), ("value", default)]

/-- The kind of a full name. -/
def ofName (name : String) : Kind :=
  ((names.find? fun (short, _) => common ++ short == name).map (·.2)).getD unknown

/-- Is the value of the kind made up while its parts are read? -/
def isCollection : Kind → Bool
  | orderedPairs | pairs | set | sequence | mapping => true
  | _ => false

/-! ## Forms of plain scalars -/

def isFigure (c : Char) : Bool := isDigit c || c == '_'

def truthWords : List (String × Bool) :=
  let spellings (word capital upper : String) (b : Bool) : List (String × Bool) :=
    [(word, b), (capital, b), (upper, b)]
  spellings "yes" "Yes" "YES" true ++ spellings "no" "No" "NO" false ++ spellings "true" "True" "TRUE" true
    ++ spellings "false" "False" "FALSE" false ++ spellings "on" "On" "ON" true ++ spellings "off" "Off" "OFF" false

def withoutSign : List Char → List Char
  | '+' :: rest => rest
  | '-' :: rest => rest
  | cs => cs

/-- One or two digits below sixty. -/
def isSixty : List Char → Bool
  | [c] => isDigit c
  | [c, d] => '0' ≤ c && c ≤ '5' && isDigit d
  | _ => false

/-- Groups below sixty, each after a colon. -/
def isSixties (cs : List Char) : Bool :=
  match Text.splitOnChar ':' cs with
  | [] :: group :: groups => (group :: groups).all isSixty
  | _ => false

/-- Nothing, or an exponent with its sign. -/
def isExponent : List Char → Bool
  | [] => true
  | e :: sign :: digits =>
    (e == 'e' || e == 'E') && (sign == '+' || sign == '-') && !digits.isEmpty && digits.all isDigit
  | _ => false

def beginsWithDigit (cs : List Char) : Bool := cs.head?.any isDigit

def isFraction (cs : List Char) : Bool :=
  let body := withoutSign cs
  let tail := body.dropWhile isFigure
  let pointed := beginsWithDigit body && tail.head? == some '.' && isExponent ((tail.drop 1).dropWhile isFigure)
  let bare := cs.head? == some '.' && beginsWithDigit (cs.drop 1) && isExponent ((cs.drop 1).dropWhile isFigure)
  let sixties := beginsWithDigit body && tail.contains '.'
    && isSixties (tail.takeWhile (· != '.')) && ((tail.dropWhile (· != '.')).drop 1).all isFigure
  let word := String.ofList body
  pointed || bare || sixties || [".inf", ".Inf", ".INF"].contains word
    || [".nan", ".NaN", ".NAN"].contains (String.ofList cs)

def isWhole (cs : List Char) : Bool :=
  match withoutSign cs with
  | [] => false
  | ['0'] => true
  | '0' :: 'b' :: digits => !digits.isEmpty && digits.all fun c => c == '0' || c == '1' || c == '_'
  | '0' :: 'x' :: digits => !digits.isEmpty && digits.all fun c => (hexValue? c).isSome || c == '_'
  | '0' :: digits => digits.all fun c => ('0' ≤ c && c ≤ '7') || c == '_'
  | c :: rest =>
    let tail := rest.dropWhile isFigure
    '1' ≤ c && c ≤ '9' && (tail.isEmpty || isSixties tail)

/-- A day or moment in parts: year, month, day, then the digits of hour, minute, second and of its
  places, then the distance from universal time. -/
structure MomentForm where
  year : List Char
  month : List Char
  day : List Char
  clock : Option (List Char × List Char × List Char) := none
  places : List Char := []
  /-- Nothing, `Z` as nothing within, or a sign with hours and minutes. -/
  ahead : Option (Option (Char × List Char × List Char)) := none

/-- The digits at the head, if there are at least `least` and, cut there, at most `most`. -/
def digitsUpTo (least most : Nat) (cs : List Char) : Option (List Char × List Char) :=
  let digits := (cs.take most).takeWhile isDigit
  if digits.length < least then none else some (digits, cs.drop digits.length)

def expect (c : Char) : List Char → Option (List Char)
  | d :: rest => if c == d then some rest else none
  | [] => none

/-- The distance from universal time at the end of a moment. -/
def aheadForm : List Char → Option (Option (Option (Char × List Char × List Char)))
  | [] => some none
  | ['Z'] => some (some none)
  | sign :: rest => do
    if sign != '+' && sign != '-' then none
    let (hours, rest) ← digitsUpTo 1 2 rest
    match rest with
    | [] => some (some (some (sign, hours, [])))
    | _ =>
      let (minutes, rest) ← digitsUpTo 2 2 (← expect ':' rest)
      if rest.isEmpty then some (some (some (sign, hours, minutes))) else none

/-- The parts of a day or moment. -/
def momentForm? (cs : List Char) : Option MomentForm := do
  let (year, rest) ← digitsUpTo 4 4 cs
  let (month, rest) ← digitsUpTo 1 2 (← expect '-' rest)
  let (day, rest) ← digitsUpTo 1 2 (← expect '-' rest)
  match rest with
  | [] => some { year, month, day }
  | c :: tail =>
    let isGap (c : Char) : Bool := c == ' ' || c == '\t'
    let rest ← if c == 'T' || c == 't' then some tail else if isGap c then some (tail.dropWhile isGap) else none
    let (hour, rest) ← digitsUpTo 1 2 rest
    let (minute, rest) ← digitsUpTo 2 2 (← expect ':' rest)
    let (second, rest) ← digitsUpTo 2 2 (← expect ':' rest)
    let (places, rest) := match rest with
      | '.' :: rest => (rest.takeWhile isDigit, rest.dropWhile isDigit)
      | rest => ([], rest)
    let form : MomentForm := { year, month, day, clock := some (hour, minute, second), places }
    match rest with
    | [] => some form
    | _ =>
      match rest.dropWhile isGap with
      | [] => none
      | rest => do
        let ahead ← aheadForm rest
        some { form with ahead }

/-- A day of full length, or a moment. -/
def isMoment (cs : List Char) : Bool :=
  match momentForm? cs with
  | some form => form.clock.isSome || (form.month.length == 2 && form.day.length == 2)
  | none => false

/-- The kind of a plain scalar; a line feed at its end does not count. -/
def ofPlain (s : String) : Kind :=
  let cs := if s.length > 1 && s.toList.getLast? == some '\n' then s.toList.dropLast else s.toList
  let word := String.ofList cs
  if (truthWords.lookup word).isSome then truth
  else if isFraction cs then fraction
  else if isWhole cs then whole
  else if word == "<<" then merge
  else if ["", "~", "null", "Null", "NULL"].contains word then null
  else if isMoment cs then moment
  else if word == "=" then default
  else if ["!", "&", "*"].contains word then unknown
  else text

example : ofPlain "0o17" = text := by decide +kernel
example : ofPlain "017" = whole := by decide +kernel
example : ofPlain "1e5" = text := by decide +kernel
example : ofPlain "1:30" = whole := by decide +kernel
example : ofPlain "2020-1-2" = text := by decide +kernel

end Kind

end CrudQueries.Data.Yaml
