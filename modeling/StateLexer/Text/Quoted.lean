import StateLexer.Text.Unprintable

/-!
# Quoted text

How a diagnostic shows a character or a text between quotes, so that each text has one written form
and nothing invisible is written as it stands. An escape begins with a backslash; what comes next
tells a short escape from a code point in braces, and the closing brace ends the digits.
-/

namespace StateLexer.Text

/-- One character between quotes `q`: the short escapes, the backslash and `q` itself behind a
backslash, an unprintable character by its code point, and all else as it stands. -/
def escape (q c : Char) : List Char :=
  if c = '\x00' then ['\\', '0']
  else if c = '\t' then ['\\', 't']
  else if c = '\r' then ['\\', 'r']
  else if c = '\n' then ['\\', 'n']
  else if c = '\\' ∨ c = q then ['\\', c]
  else if isUnprintable c then ['\\', 'u', '\x7b'] ++ Nat.toDigits 16 c.toNat ++ ['\x7d']
  else [c]

def quote (q : Char) (cs : List Char) : List Char := q :: (cs.flatMap (escape q) ++ [q])

def quotedString (s : String) : String := String.ofList (quote '\x22' s.toList)

def quotedChar (c : Char) : String := String.ofList (quote '\x27' [c])

end StateLexer.Text
