/-
  CrudQueries.Text.Glob — shell patterns over whole texts.

  `*` stands for any run of characters (path separators included), `?` for any one
  character, and a bracket for one character of a set, `!` at its head turning the set round.
  A closing bracket at the head of a set is a member. `a-z` in a set is a run, and a run that
  ends before it begins has no members. A bracket that is not closed is a plain character.
-/

namespace CrudQueries.Text.Glob

/-- A set of characters written as runs; a single member is a run of one. -/
structure CharSet where
  negated : Bool
  runs : List (Char × Char)
  deriving DecidableEq, Repr

def CharSet.has (s : CharSet) (c : Char) : Bool :=
  s.runs.any (fun (low, high) => low ≤ c && c ≤ high) != s.negated

/-- A piece of a pattern. -/
inductive Piece where
  | anyRun
  | anyOne
  | char (c : Char)
  | set (s : CharSet)
  deriving DecidableEq, Repr

/-- The contents of a bracket up to its closing bracket, and what follows that bracket. -/
def bracketBody : List Char → Option (List Char × List Char)
  | [] => none
  | ']' :: rest => some ([], rest)
  | c :: rest => (bracketBody rest).map fun (body, after) => (c :: body, after)

/-- A bracket's contents when the characters at its head are taken as members. -/
def bracket : List Char → Option (List Char × List Char)
  | '!' :: ']' :: rest => (bracketBody rest).map fun (body, after) => ('!' :: ']' :: body, after)
  | ']' :: rest => (bracketBody rest).map fun (body, after) => (']' :: body, after)
  | cs => bracketBody cs

/-- Splits a set's text at the hyphens that make runs: each piece but the last is followed by
  one. A hyphen at either end, or right after a run's end, is a member. -/
def runPieces (fuel : Nat) (skip : Nat) (cs : List Char) : List (List Char) :=
  match fuel with
  | 0 => [cs]
  | fuel + 1 =>
    let head := cs.take skip
    let tail := cs.drop skip
    let before := tail.takeWhile (· != '-')
    match tail.dropWhile (· != '-') with
    | [] => [cs]
    | _ :: [] => [cs]
    | _ :: rest => (head ++ before) :: runPieces fuel 2 rest

/-- Drops the runs that end before they begin, from the last to the first. -/
def dropEmptyRuns : List (List Char) → List (List Char)
  | [] => []
  | piece :: pieces =>
    match dropEmptyRuns pieces with
    | [] => [piece]
    | next :: others =>
      match piece.getLast?, next.head? with
      | some low, some high =>
        if low > high then (piece.dropLast ++ next.drop 1) :: others
        else piece :: next :: others
      | _, _ => piece :: next :: others

/-- The members of the joined pieces: between two pieces lies a run from the last character
  of one to the first of the other. A hyphen with nothing before it is a member. -/
def memberRuns : List (List Char) → List (Char × Char)
  | [] => []
  | [piece] => piece.map fun c => (c, c)
  | [] :: next :: others => ('-', '-') :: memberRuns (next :: others)
  | (c :: cs) :: next :: others =>
    let run := match next.head? with
      | some high => [((c :: cs).getLast (by simp), high)]
      | none => []
    (c :: cs).dropLast.map (fun c => (c, c)) ++ run ++ memberRuns (next.drop 1 :: others)
termination_by pieces => pieces.length

/-- The set that a bracket's contents describe; a `!` at the head of what is left after the
  empty runs are dropped turns it round. -/
def charSet (body : List Char) : CharSet :=
  let skip := if body.head? = some '!' then 2 else 1
  match dropEmptyRuns (runPieces body.length skip body) with
  | ('!' :: piece) :: pieces => ⟨true, memberRuns (piece :: pieces)⟩
  | pieces => ⟨false, memberRuns pieces⟩

/-- The pieces of a pattern. -/
def pieces (fuel : Nat) (cs : List Char) : List Piece :=
  match fuel, cs with
  | _, [] => []
  | 0, _ => []
  | fuel + 1, '*' :: rest => .anyRun :: pieces fuel rest
  | fuel + 1, '?' :: rest => .anyOne :: pieces fuel rest
  | fuel + 1, '[' :: rest =>
    match bracket rest with
    | none => .char '[' :: pieces fuel rest
    | some (body, after) => .set (charSet body) :: pieces fuel after
  | fuel + 1, c :: rest => .char c :: pieces fuel rest

/-- Does a piece that stands for one character accept `c`? -/
def Piece.accepts (p : Piece) (c : Char) : Bool :=
  match p with
  | .anyRun => false
  | .anyOne => true
  | .char d => c == d
  | .set s => s.has c

/-- Do the pieces accept all of the text? -/
def accept : List Piece → List Char → Bool
  | [], cs => cs.isEmpty
  | .anyRun :: ps, cs => acceptRun ps cs
  | p :: ps, c :: cs => p.accepts c && accept ps cs
  | _ :: _, [] => false
where
  /-- Some end of the text is accepted by the pieces after a `*`. -/
  acceptRun (ps : List Piece) : List Char → Bool
    | [] => accept ps []
    | c :: cs => accept ps (c :: cs) || acceptRun ps cs

/-- Does the pattern match the whole text? -/
def isMatch (pattern text : String) : Bool :=
  accept (pieces pattern.length pattern.toList) text.toList

end CrudQueries.Text.Glob
