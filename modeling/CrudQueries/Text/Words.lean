/-
  CrudQueries.Text.Words — identifiers, and the conversion of type names to snake case.

  `snakeCase` works in passes: it parts an acronym from the word after it
  (`HTTPLog` ↦ `HTTP_Log`), parts a capital from the small letter or digit before it
  (`itemRepo` ↦ `item_Repo`), turns every other character into a separator, merges runs of
  separators, strips them at both ends and lowers the rest. The letters are those of ASCII
  throughout, since everything else has become a separator.

  The checks on names accept one newline at the end of the text: the end of a name is the
  end of its line (`nameEnd`).
-/

namespace CrudQueries.Text

def isUpperLetter (c : Char) : Bool := 'A' ≤ c && c ≤ 'Z'

def isLowerLetter (c : Char) : Bool := 'a' ≤ c && c ≤ 'z'

def isDigit (c : Char) : Bool := '0' ≤ c && c ≤ '9'

def isLetter (c : Char) : Bool := isUpperLetter c || isLowerLetter c

def isAlphanumeric (c : Char) : Bool := isLetter c || isDigit c

/-- An ASCII letter in lower case, any other character as it is. -/
def lowerLetter (c : Char) : Char :=
  if isUpperLetter c then Char.ofNat (c.toNat + 32) else c

/-! ## Snake case -/

/-- A separator before the last capital of a run that a small letter follows. -/
def partAcronyms : List Char → List Char
  | a :: b :: c :: rest =>
    if isUpperLetter a && isUpperLetter b && isLowerLetter c then
      a :: '_' :: b :: c :: partAcronyms rest
    else a :: partAcronyms (b :: c :: rest)
  | cs => cs

/-- A separator between a small letter or digit and the capital after it. -/
def partWords : List Char → List Char
  | a :: b :: rest =>
    if (isLowerLetter a || isDigit a) && isUpperLetter b then a :: '_' :: b :: partWords rest
    else a :: partWords (b :: rest)
  | cs => cs

/-- Every character that is no ASCII letter or digit becomes a separator. -/
def separate (cs : List Char) : List Char :=
  cs.map fun c => if isAlphanumeric c then c else '_'

/-- Each run of separators becomes one. -/
def mergeSeparators : List Char → List Char
  | '_' :: '_' :: rest => mergeSeparators ('_' :: rest)
  | c :: rest => c :: mergeSeparators rest
  | [] => []

/-- The characters without the separators at both ends. -/
def stripSeparators (cs : List Char) : List Char :=
  ((cs.dropWhile (· == '_')).reverse.dropWhile (· == '_')).reverse

/-- `snakeCase` on characters. -/
def snakeChars (cs : List Char) : List Char :=
  (stripSeparators (mergeSeparators (separate (partWords (partAcronyms cs))))).map lowerLetter

/-- The snake-case form of a name: words in lower case, one underscore between them. -/
def snakeCase (name : String) : String :=
  String.ofList (snakeChars name.toList)

/-! ## Names -/

def isNameStart (c : Char) : Bool := isLetter c || c == '_'

def isNameChar (c : Char) : Bool := isAlphanumeric c || c == '_'

/-- An ASCII letter or underscore, then letters, digits and underscores. -/
def isNameChars : List Char → Bool
  | [] => false
  | c :: rest => isNameStart c && rest.all isNameChar

/-- The text without one newline at its end, if it has one. -/
def nameEnd (cs : List Char) : List Char :=
  match cs.reverse with
  | '\n' :: rest => rest.reverse
  | _ => cs

/-- An ASCII identifier, valid in SQL and in both target languages. -/
def isIdentifier (s : String) : Bool := isNameChars (nameEnd s.toList)

/-- The parts of `cs` between the places where `sep` stands. -/
def splitOnChar (sep : Char) : List Char → List (List Char)
  | [] => [[]]
  | c :: rest =>
    if c == sep then [] :: splitOnChar sep rest
    else
      match splitOnChar sep rest with
      | part :: parts => (c :: part) :: parts
      | [] => [[c]]

/-- Identifiers joined by single dots. -/
def isDottedIdentifier (s : String) : Bool :=
  (splitOnChar '.' (nameEnd s.toList)).all isNameChars

/-- Letters, digits and underscores, or nothing at all. -/
def isNameSuffix (s : String) : Bool := (nameEnd s.toList).all isNameChar

example : snakeCase "ItemRepository" = "item_repository" := by decide +kernel
example : snakeCase "HTTPLogRepository" = "http_log_repository" := by decide +kernel
example : isIdentifier "item\n" = true := by decide +kernel

end CrudQueries.Text
