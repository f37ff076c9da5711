/-
  CrudQueries.Text.Blank — white space.

  A blank is a character with the Unicode property White_Space or a bidirectional class of
  paragraph, segment or white-space separator, so the four information separators count too.
-/

import CrudQueries.Text.Span

namespace CrudQueries.Text

/-- The runs of blanks. -/
def blanks : List Span := [
  ⟨0x09, 0x0D⟩, ⟨0x1C, 0x20⟩, ⟨0x85, 0x85⟩, ⟨0xA0, 0xA0⟩, ⟨0x1680, 0x1680⟩, ⟨0x2000, 0x200A⟩,
  ⟨0x2028, 0x2029⟩, ⟨0x202F, 0x202F⟩, ⟨0x205F, 0x205F⟩, ⟨0x3000, 0x3000⟩]

/-- White space. -/
def isBlank (c : Char) : Bool := Span.anyHas blanks c

/-- A text without a single character that is not blank. -/
def isBlankText (s : String) : Bool := s.toList.all isBlank

/-- The text without the blanks around it. -/
def trimBlanks (s : List Char) : List Char :=
  ((s.dropWhile isBlank).reverse.dropWhile isBlank).reverse

end CrudQueries.Text
