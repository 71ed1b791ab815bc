import StateLexer.Cursor.Basic

/-!
# Runs of characters

Reading as far as a set or a test allows. Every run reads one character too many and takes it
back, so it ends in front of the first character outside the set, with nothing left to take back.
A set is written as the text of its members; the end of the input is in no set.
-/

namespace StateLexer.Cursor

def isMember (valid : String) (ch : Char) : Bool := valid.toList.contains ch

def readMember (valid : String) (c : Cursor) : Bool × Cursor :=
  match c.read with
  | (some ch, next) => if isMember valid ch then (true, next) else (false, next.undo)
  | (none, next) => (false, next.undo)

def readMembers (valid : String) (c : Cursor) : Cursor :=
  match _ : c.read with
  | (some ch, next) => if isMember valid ch then readMembers valid next else next.undo
  | (none, next) => next.undo
termination_by c.bytesLeft
decreasing_by exact bytesLeft_lt_of_read (by assumption)

def readWhile (test : Char → Bool) (c : Cursor) : Nat × Cursor :=
  match _ : c.read with
  | (some ch, next) =>
    if test ch then
      let run := readWhile test next
      (run.1 + 1, run.2)
    else (0, next.undo)
  | (none, next) => (0, next.undo)
termination_by c.bytesLeft
decreasing_by exact bytesLeft_lt_of_read (by assumption)

/-- Read characters as long as `test` answers yes. The test also sees the end of the input, which
ends the run whatever it answers, and it may refuse with a message. A refused character stays
read. -/
def readRun (test : Option Char → Except String Bool) (c : Cursor) : Except String Unit × Cursor :=
  match _ : c.read with
  | (some ch, next) =>
    match test (some ch) with
    | .ok true => readRun test next
    | .ok false => (.ok (), next.undo)
    | .error message => (.error message, next)
  | (none, next) =>
    match test none with
    | .ok _ => (.ok (), next.undo)
    | .error message => (.error message, next)
termination_by c.bytesLeft
decreasing_by exact bytesLeft_lt_of_read (by assumption)

end StateLexer.Cursor
