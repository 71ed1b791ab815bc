import StateLexer.Cursor.Basic
import StateLexer.Event

/-!
# Scanners

A scanner owns the cursor of a run and publishes its tokens. Published tokens queue up until they
are delivered, in the order of their publication.

Failing is final: `fail` publishes one error token and halts the scanner, and whatever is published
afterwards is dropped. So an error token is the last token of its stream. A halted scanner still
moves its cursor and still closes the pending span when a token is dropped.
-/

namespace StateLexer

/-- The state that the scanning programs of one run share. -/
structure Scanner (K μ : Type) where
  cursor : Cursor
  /-- Published and not yet delivered, the oldest first. -/
  queue : List (Token K) := []
  /-- The kinds that do not count as significant. -/
  isWhitespace : K → Bool
  /-- The last token published with a significant kind. -/
  lastSignificant : Option (Token K) := none
  /-- The kind of the last token published, error tokens included. -/
  lastKind : Option K := none
  halted : Bool := false
  trace : Array (Event K) := #[]
  bookmarks : Array Cursor := #[]
  /-- What the grammar itself carries from one state to the next. -/
  memory : μ

namespace Scanner

variable {K μ : Type}

def note (e : Event K) (s : Scanner K μ) : Scanner K μ := { s with trace := s.trace.push e }

/-- Publish a token of the given kind and text that starts where the pending span starts. The span
is closed whether or not the token is dropped. -/
def publish (kind : K) (text : String) (s : Scanner K μ) : Scanner K μ :=
  let token : Token K := ⟨kind, s.cursor.startPosition, text⟩
  let s := { s with cursor := s.cursor.markStart }
  if s.halted then s.note (.dropped kind token.position.offset)
  else
    { s.note (.published token) with
      lastSignificant := if s.isWhitespace kind then s.lastSignificant else some token
      lastKind := some kind
      queue := s.queue ++ [token] }

def publishSpan? (kind : K) (s : Scanner K μ) : Option (Scanner K μ) :=
  s.cursor.pendingText?.map fun text => s.publish kind text

def fail [TokenKind K] (message : String) (s : Scanner K μ) : Scanner K μ :=
  if s.halted then s.note (.droppedFailure message)
  else
    let position := s.cursor.startPosition
    { s.note (.failed position message) with
      halted := true
      lastKind := some TokenKind.error
      queue := s.queue ++ [⟨TokenKind.error, position, message⟩] }

def bookmark (s : Scanner K μ) : Nat × Scanner K μ :=
  (s.bookmarks.size, { s with bookmarks := s.bookmarks.push s.cursor })

/-- Go back to a cursor set aside earlier. Tokens and failures stay as they are. -/
def reset (mark : Nat) (s : Scanner K μ) : Scanner K μ :=
  match s.bookmarks[mark]? with
  | some c => { s with cursor := c }
  | none => s

def inspect [TokenKind K] (s : Scanner K μ) : String :=
  Text.abridgedRecord "Scanner" [("cursor", s.cursor.inspect), ("pending", s.queue.length.repr),
    ("last_kind", Text.optional (s.lastKind.map TokenKind.name)),
    ("halted", Text.truth s.halted)]

end Scanner

end StateLexer
