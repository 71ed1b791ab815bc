import StateLexer.Token

/-!
# Events

What a run leaves in its trace: one event for each token published, refused or failed with, and one
for the end of the stream. Each event has a level and a list of named fields, the first of which
tells the events apart.
-/

namespace StateLexer

inductive Event (K : Type) where
  | published (token : Token K)
  /-- A token was refused, since the scan had already failed. -/
  | dropped (kind : K) (offset : Nat)
  /-- The scan failed; `position` is the start of the pending token. -/
  | failed (position : Position) (message : String)
  /-- A second failure was refused. -/
  | droppedFailure (message : String)
  /-- The stream ended with the cursor at `offset`. -/
  | closed (offset : Nat) (halted : Bool)
  /-- A token found nobody to take it. -/
  | consumerGone
  deriving DecidableEq, Repr

namespace Event

inductive Level where
  | trace
  | debug
  deriving DecidableEq, Repr

inductive Value where
  | number (n : Nat)
  | text (s : String)
  | flag (b : Bool)
  deriving DecidableEq, Repr

variable {K : Type}

def level : Event K → Level
  | published _ | dropped _ _ | droppedFailure _ => .trace
  | failed _ _ | closed _ _ | consumerGone => .debug

def fields [TokenKind K] : Event K → List (String × Value)
  | published t =>
    [("message", .text "emit"), ("kind", .text (TokenKind.name t.kind)),
      ("offset", .number t.position.offset), ("line", .number t.position.line.toNat),
      ("text", .text t.text)]
  | dropped kind offset =>
    [("message", .text "dropped emit after error"), ("kind", .text (TokenKind.name kind)),
      ("offset", .number offset)]
  | failed position message =>
    [("message", .text "scan error"), ("offset", .number position.offset),
      ("line", .number position.line.toNat), ("message", .text message)]
  | droppedFailure message =>
    [("message", .text "dropped error after error"), ("message", .text message)]
  | closed offset halted =>
    [("message", .text "token stream closed"), ("offset", .number offset), ("halted", .flag halted)]
  | consumerGone =>
    [("message", .text "consumer dropped the token stream; producer exiting")]

end Event

end StateLexer
