import StateLexer.Cursor.Number

/-!
# Actions on a cursor

Everything that a scanning program can ask of a cursor, as data: an action, the type of its answer
and its effect. No action touches anything but the cursor, and none fails.
-/

namespace StateLexer.Cursor

inductive Action where
  | read
  | undo
  | peek
  | markStart
  | readMember (valid : String)
  | readMembers (valid : String)
  | readWhile (test : Char → Bool)
  | readRun (test : Option Char → Except String Bool)
  | readLiteral (literal : String)
  | startsWith (literal : String)
  | readNumber
  | rest
  | input
  | atEnd
  | position
  | startPosition

namespace Action

def Answer : Action → Type
  | read | peek => Option Char
  | undo | markStart | readMembers _ => Unit
  | readMember _ | readLiteral _ | startsWith _ | readNumber | atEnd => Bool
  | readWhile _ => Nat
  | readRun _ => Except String Unit
  | rest | input => String
  | position | startPosition => Position

def perform : (a : Action) → Cursor → a.Answer × Cursor
  | read, c => c.read
  | undo, c => ((), c.undo)
  | peek, c => (c.peek?, c)
  | markStart, c => ((), c.markStart)
  | readMember valid, c => c.readMember valid
  | readMembers valid, c => ((), c.readMembers valid)
  | readWhile test, c => c.readWhile test
  | readRun test, c => c.readRun test
  | readLiteral literal, c => c.readLiteral literal
  | startsWith literal, c => (c.startsWith literal, c)
  | readNumber, c => c.readNumber
  | rest, c => (c.rest, c)
  | input, c => (c.input, c)
  | atEnd, c => (c.atEnd, c)
  | position, c => (c.position, c)
  | startPosition, c => (c.startPosition, c)

end Action

end StateLexer.Cursor
