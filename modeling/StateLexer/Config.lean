import StateLexer.Text.Layout

/-!
# Configuration of a run
-/

namespace StateLexer

structure Config where
  /-- The line of the first character. -/
  firstLine : UInt32 := 1
  /-- How many tokens a background producer may hand over before one is taken. With 0 each token
  waits for its taker. -/
  handoffCapacity : Nat := 0
  deriving DecidableEq, Repr

namespace Config

def startingAt (line : UInt32) : Config := { firstLine := line }

def buffering (capacity : Nat) : Config := { handoffCapacity := capacity }

def inspect (c : Config) : String :=
  Text.record "LexerConfig" [("first_line", c.firstLine.toNat.repr),
    ("handoff_capacity", c.handoffCapacity.repr)]

end Config

end StateLexer
