import StateLexer.Text.Layout
import StateLexer.Text.Quoted

/-!
# Diagnostics

The common causes of a failed scan, each with one wording. A grammar may also fail with a text of
its own.
-/

namespace StateLexer

inductive Diagnostic where
  /-- A number runs straight into a letter, a digit or an underscore. -/
  | badNumber (text : String)
  /-- No state knows what to do with this character. -/
  | unexpectedChar (ch : Char)
  /-- The input ended in the middle of a construct. -/
  | unexpectedEnd (context : String)
  deriving DecidableEq, Repr

namespace Diagnostic

def message : Diagnostic → String
  | badNumber text => "bad number syntax: " ++ Text.quotedString text
  | unexpectedChar ch => "unexpected character " ++ Text.quotedChar ch
  | unexpectedEnd context => "unexpected end of input in " ++ context

def inspect : Diagnostic → String
  | badNumber text => Text.record "BadNumber" [("text", Text.quotedString text)]
  | unexpectedChar ch => Text.record "UnexpectedChar" [("ch", Text.quotedChar ch)]
  | unexpectedEnd context => Text.record "UnexpectedEof" [("context", Text.quotedString context)]

end Diagnostic

end StateLexer
