import StateLexer.Position
import StateLexer.Text.Offset
import StateLexer.Text.Quoted

/-!
# Cursors

A cursor reads an input one character at a time. It keeps the byte offset and the line of the read
position, those of the place where the pending token starts, and enough of the last character read
to take that one reading back: its width and whether it began a new line.

Anything beyond one character of lookahead is tried on a copy, which becomes the cursor only on
success.
-/

namespace StateLexer

/-- A read position in an input, with one step of undo and the start of the pending token. -/
structure Cursor where
  input : String
  pos : Nat := 0
  line : UInt32
  start : Nat := 0
  startLine : UInt32
  /-- Bytes of the last character read; zero when there is nothing to take back. -/
  width : Nat := 0
  /-- Whether the last character read moved `line` forward. -/
  crossedLine : Bool := false
  deriving DecidableEq, Repr

namespace Cursor

/-- Lines stop counting here. -/
def lastLine : UInt32 := 0xFFFFFFFF

def ofInput (input : String) (firstLine : UInt32) : Cursor :=
  { input, line := firstLine, startLine := firstLine }

def peek? (c : Cursor) : Option Char := Text.charAt? c.input c.pos

def crosses (c : Cursor) (ch : Char) : Bool := ch = '\n' ∧ c.line ≠ lastLine

/-- The cursor behind `ch`, given that `ch` is next. -/
def past (c : Cursor) (ch : Char) : Cursor :=
  { c with
    pos := c.pos + ch.utf8Size
    line := if c.crosses ch then c.line + 1 else c.line
    width := ch.utf8Size
    crossedLine := c.crosses ch }

def settled (c : Cursor) : Cursor := { c with width := 0, crossedLine := false }

/-- Read the next character. At the end of the input there is none, and nothing to take back. -/
def read (c : Cursor) : Option Char × Cursor :=
  match c.peek? with
  | some ch => (some ch, c.past ch)
  | none => (none, c.settled)

/-- Take the last reading back. Only one is recorded, so a second `undo` does nothing. -/
def undo (c : Cursor) : Cursor :=
  { c with
    pos := c.pos - c.width
    line := if c.crossedLine then c.line - 1 else c.line
    width := 0
    crossedLine := false }

def eat : List Char → Cursor → Option Cursor
  | [], c => some c
  | ch :: cs, c =>
    match c.read with
    | (some found, next) => if found = ch then eat cs next else none
    | (none, _) => none

def startsWith (literal : String) (c : Cursor) : Bool := (eat literal.toList c).isSome

/-- Read `literal` if it is next; otherwise stay as before, the undo record included. -/
def readLiteral (literal : String) (c : Cursor) : Bool × Cursor :=
  match eat literal.toList c with
  | some next => (true, next)
  | none => (false, c)

def markStart (c : Cursor) : Cursor := { c with start := c.pos, startLine := c.line }

/-- The text of the pending token. There is none while the start lies ahead of the read position,
as it does after `markStart` and `undo`. -/
def pendingText? (c : Cursor) : Option String := Text.slice? c.input c.start c.pos

def rest (c : Cursor) : String := (Text.suffix? c.input c.pos).getD ""

def position (c : Cursor) : Position := ⟨c.pos, c.line⟩

def startPosition (c : Cursor) : Position := ⟨c.start, c.startLine⟩

def atEnd (c : Cursor) : Bool := c.input.utf8ByteSize ≤ c.pos

def inspect (c : Cursor) : String :=
  Text.record "Cursor" [("input", Text.quotedString c.input), ("pos", c.pos.repr),
    ("line", c.line.toNat.repr), ("start", c.start.repr), ("start_line", c.startLine.toNat.repr),
    ("width", c.width.repr), ("bumped_line", Text.truth c.crossedLine)]

/-- Bytes left to read: they grow fewer with every character, which bounds every run. -/
def bytesLeft (c : Cursor) : Nat := c.input.utf8ByteSize - c.pos

theorem read_eq_some_iff {c next : Cursor} {ch : Char} :
    c.read = (some ch, next) ↔ c.peek? = some ch ∧ c.past ch = next := by
  unfold read
  split <;> simp_all

theorem read_eq_none_iff {c next : Cursor} :
    c.read = (none, next) ↔ c.peek? = none ∧ c.settled = next := by
  unfold read
  split <;> simp_all

theorem undo_past (c : Cursor) (ch : Char) : (c.past ch).undo = c.settled := by
  cases h : c.crosses ch <;> simp [undo, past, settled, h]

theorem undo_settled (c : Cursor) : c.settled.undo = c.settled := by
  simp [undo, settled]

theorem bytesLeft_lt_of_read {c next : Cursor} {ch : Char} (h : c.read = (some ch, next)) :
    next.bytesLeft < c.bytesLeft := by
  obtain ⟨hpeek, rfl⟩ := read_eq_some_iff.1 h
  have hle := Text.add_utf8Size_le_of_charAt? hpeek
  have hpos := ch.utf8Size_pos
  simp only [bytesLeft, past]
  omega

end Cursor

end StateLexer
