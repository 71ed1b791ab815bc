import StateLexer.Arithmetic
import StateLexer.Handoff
import StateLexer.Proofs.Handoff.Schedule
import StateLexer.Proofs.Lexer.Chain
import StateLexer.Proofs.Scanner.Tiling
import StateLexer.Proofs.Handoff.Delivery
import StateLexer.Proofs.Lexer.Steps
import StateLexer.Proofs.Lexer.Failure
import StateLexer.Proofs.Lexer.Location
import StateLexer.Proofs.Handoff.RunAhead
import StateLexer.Proofs.Handoff.Progress
import StateLexer.Proofs.Cursor.Bounds
import StateLexer.Proofs.Program.Exec
import StateLexer.Proofs.Scanner.Faults
import StateLexer.Proofs.Lexer.Transcript
import StateLexer.Proofs.Handoff.Transcript
import StateLexer.Proofs.Lexer.Breakoff
import StateLexer.Proofs.Cursor.Unread
import StateLexer.Proofs.Arithmetic.Lexemes
import StateLexer.Proofs.Arithmetic.Printing
import StateLexer.Proofs.Cursor.Numerals
import StateLexer.Proofs.Arithmetic.Cutting
import StateLexer.Proofs.Lexer.Reached
import StateLexer.Proofs.Scanner.Number
import StateLexer.Proofs.Lexer.Lockstep
import StateLexer.Proofs.Lexer.Classifier
import StateLexer.Proofs.Cursor.Twins
import StateLexer.Proofs.Lexer.FirstLine
import StateLexer.Proofs.Program.Respects
import StateLexer.Proofs.Cursor.Literals
import StateLexer.Proofs.Scanner.Run
import StateLexer.Proofs.Scanner.NumberToken
import StateLexer.Proofs.Scanner.Summary
import StateLexer.Proofs.Scanner.Munch
import StateLexer.Proofs.Text.Delimited
import StateLexer.Proofs.Text.Quoted
