import StateLexer.Lexer

/-!
# The grammar of arithmetic expressions

Numbers, names, the symbols `+ - * ( )`, white space, and comments from `#` to the end of the line,
which leave no token.
-/

namespace StateLexer.Arithmetic

inductive Kind where
  | error
  | number
  | ident
  | punct
  | whitespace
  deriving DecidableEq, Repr

instance : TokenKind Kind where
  error := .error
  name
    | .error => "Error"
    | .number => "Number"
    | .ident => "Ident"
    | .punct => "Punct"
    | .whitespace => "Whitespace"

def symbols : List Char := ['+', '-', '*', '(', ')']

def inName (c : Option Char) : Except String Bool := .ok (c.any Text.isNameChar)

/-- Tell the next token by its first character. -/
def scan : Program Kind Unit (Option (State Kind Unit)) := do
  match ← Program.peek with
  | none => return none
  | some ch =>
    if Text.isBlank ch || Text.isLineEnd ch then
      Program.readMembers " \t\r\n"
      Program.publishSpan .whitespace
      return some .start
    else if ch == '#' then
      let _ ← Program.readWhile (· != '\n')
      Program.skip
      return some .start
    else if symbols.contains ch then
      let _ ← Program.read
      Program.publishSpan .punct
      return some .start
    else if ch.isDigit || ch == '.' then
      Program.publishNumber .number
    else if Text.isAlphabetic ch || ch == '_' then
      return some (.run .ident inName .start)
    else
      let _ ← Program.read
      Program.stopWith (Diagnostic.unexpectedChar ch).message

def grammar : Grammar Kind Unit Unit where
  start := ()
  body _ := scan
  isWhitespace kind := kind = .whitespace

def lexer (input : String) : Lexer Kind Unit Unit := .ofInput grammar input {} ()

end StateLexer.Arithmetic
