/-!
# Ranges of code points

A character class given by a table: the inclusive ranges of its code points, in ascending order.
-/

namespace StateLexer.Text

def inRanges (rs : List (Nat × Nat)) (n : Nat) : Bool :=
  rs.any fun r => r.1 ≤ n && n ≤ r.2

end StateLexer.Text
