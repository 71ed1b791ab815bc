import StateLexer.Cursor.Munch
import StateLexer.Text.Classes

/-!
# Numbers

A number is a sign, the digits of its base, a point with further digits and, in base ten, an
exponent; each part may be missing. This is a filter for the lexer and no check of the value: `.`
and `0x` are numbers here. What it does refuse is a number that runs straight into a letter, a
digit or an underscore, so that no such input is cut into a shorter number.
-/

namespace StateLexer.Cursor

def decimalDigits : String := "0123456789"

def hexDigits : String := "0123456789abcdefABCDEF"

/-- Read the mark of base sixteen, and tell the digits that may follow. A lone `0` is read as a
decimal digit. -/
def readBase (c : Cursor) : String × Cursor :=
  match c.readMember "0" with
  | (true, c) =>
    match c.readMember "xX" with
    | (true, c) => (hexDigits, c)
    | (false, c) => (decimalDigits, c)
  | (false, c) => (decimalDigits, c)

def readFraction (digits : String) (c : Cursor) : Cursor :=
  match c.readMember "." with
  | (true, c) => c.readMembers digits
  | (false, c) => c

def readExponent (c : Cursor) : Cursor :=
  match c.readMember "eE" with
  | (true, c) => (c.readMember "+-").2.readMembers decimalDigits
  | (false, c) => c

/-- Read a number. If a character of a name follows, the answer is no and the whole run of such
characters is read too, so that the pending text shows what is wrong. -/
def readNumber (c : Cursor) : Bool × Cursor :=
  let (digits, c) := (c.readMember "+-").2.readBase
  let c := ((c.readMembers digits).readFraction digits).readExponent
  if c.peek?.any Text.isNameChar then (false, (c.readWhile Text.isNameChar).2)
  else (true, c)

end StateLexer.Cursor
