import StateLexer.Position
import StateLexer.Text.Quoted

/-!
# Tokens

A token is a kind, the position where it starts and its text. Kinds belong to the grammar; all
that the engine asks of them is a name for each and one kind that marks the diagnostic at the end
of a failed scan.
-/

namespace StateLexer

class TokenKind (K : Type) where
  /-- The kind of the token that ends a failed scan. -/
  error : K
  name : K → String

/-- A classified piece of the input. The text of an error token is its diagnostic. -/
structure Token (K : Type) where
  kind : K
  position : Position
  text : String
  deriving DecidableEq, Repr

namespace Token

variable {K : Type} [TokenKind K]

def isError [DecidableEq K] (t : Token K) : Bool := t.kind = TokenKind.error

/-- `inp:<line>:<offset> - <kind>(<text>)`, with the text as it stands. -/
def render (t : Token K) : String :=
  "inp:" ++ t.position.render ++ " - " ++ TokenKind.name t.kind ++ "(" ++ t.text ++ ")"

def inspect (t : Token K) : String :=
  Text.record "Token" [("kind", TokenKind.name t.kind), ("position", t.position.inspect),
    ("text", Text.quotedString t.text)]

end Token

end StateLexer
