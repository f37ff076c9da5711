/-
  CrudQueries.Source.Keyword — the words that are no names in Python.
-/

namespace CrudQueries.Source

def keywords : List String := [
  "False", "None", "True", "and", "as", "assert", "async", "await", "break", "class", "continue",
  "def", "del", "elif", "else", "except", "finally", "for", "from", "global", "if", "import", "in",
  "is", "lambda", "nonlocal", "not", "or", "pass", "raise", "return", "try", "while", "with", "yield"]

def isKeyword (name : String) : Bool := keywords.contains name

end CrudQueries.Source
