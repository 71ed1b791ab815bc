import StateLexer.Text.Alphabetic

/-!
# Character classes of a lexical grammar

The four classes that grammars share. None of them holds at the end of the input, since there is
no character there.
-/

namespace StateLexer.Text

def isBlank (c : Char) : Bool := c == ' ' || c == '\t'

def isLineEnd (c : Char) : Bool := c == '\r' || c == '\n'

def startsNumber (c : Char) : Bool := c == '+' || c == '-' || c.isDigit

/-- Underscore, alphabetic character or decimal digit. Numeric characters that are neither, such as
`½`, are left out: they end a number or a name instead of joining it. -/
def isNameChar (c : Char) : Bool := c == '_' || isAlphabetic c || c.isDigit

theorem isNameChar_of_isDigit {c : Char} (h : c.isDigit = true) : isNameChar c = true := by
  simp [isNameChar, h]

theorem isNameChar_of_isAlpha {c : Char} (h : c.isAlpha = true) : isNameChar c = true := by
  simp [isNameChar, isAlphabetic_of_isAlpha h]

end StateLexer.Text
