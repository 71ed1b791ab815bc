import StateLexer.Text.Layout

/-!
# Positions

A place in the input: its byte offset and its line. Scan order is the order of offsets, so offsets
are compared first.
-/

namespace StateLexer

/-- A byte offset and the line it stands on. -/
structure Position where
  offset : Nat := 0
  line : UInt32 := 0
  deriving DecidableEq, Repr

namespace Position

/-- Offsets first, lines between equal offsets. -/
def compare (p q : Position) : Ordering :=
  (Ord.compare p.offset q.offset).then (Ord.compare p.line.toNat q.line.toNat)

def render (p : Position) : String := p.line.toNat.repr ++ ":" ++ p.offset.repr

def inspect (p : Position) : String :=
  Text.record "Position" [("offset", p.offset.repr), ("line", p.line.toNat.repr)]

theorem compare_eq_eq_iff {p q : Position} : p.compare q = .eq ↔ p = q := by
  cases p; cases q
  simp [compare, Ordering.then_eq_eq, UInt32.toNat_inj]

end Position

end StateLexer
