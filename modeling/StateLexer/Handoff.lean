import StateLexer.Lexer

/-!
# Handing tokens over

A producer pulls tokens from a lexer and hands them over to a consumer, each in its own time. A
buffer of fixed capacity stands between them; with capacity 0 every token passes directly from one
to the other, so the producer is never more than one token ahead.

The consumer asks for tokens until it leaves, with a result or by giving up. Whatever is left in
the buffer then is lost, and a producer that is still at work finds out at its next token and exits.
The run is over when both are gone: a consumer that gave up decides the outcome, next a producer
that broke off, and else the result counts.

A run is a sequence of moves, each by one of the two parties. Who moves when is left open.
-/

namespace StateLexer

/-- What the consumer does, step by step. -/
inductive Consumer (K ρ : Type) where
  /-- Wait for a token; `none` means that there will be none. -/
  | next (go : Option (Token K) → Consumer K ρ)
  /-- Look up where the last token taken starts. -/
  | lastPosition (go : Option Position → Consumer K ρ)
  | finish (result : ρ)
  | giveUp (message : String)

namespace Handoff

/-- How the producer came to its end. -/
inductive Exit (K : Type) where
  | closed
  /-- Nobody was there to take this token. -/
  | refused (t : Token K)
  | faulted (f : Fault)
  deriving DecidableEq, Repr

/-- The producer's end: between two tokens, with a token to hand over, or gone. -/
inductive Producer (K : Type) where
  | scanning
  /-- Waits to be rid of a token. -/
  | offering (t : Token K)
  | exited (how : Exit K)
  deriving DecidableEq, Repr

/-- The consumer's end: still asking, or left with a result or a message. -/
inductive Reader (K ρ : Type) where
  | asking (c : Consumer K ρ)
  | left (result : Except String ρ)

inductive Outcome (ρ : Type) where
  | returned (result : ρ)
  | consumerGaveUp (message : String)
  | producerFaulted (f : Fault)
  deriving DecidableEq, Repr

inductive Party where
  | producer
  | consumer
  deriving DecidableEq, Repr

def Party.other : Party → Party
  | producer => consumer
  | consumer => producer

end Handoff

structure Handoff (K σ μ ρ : Type) where
  capacity : Nat
  lexer : Lexer K σ μ
  producer : Handoff.Producer K := .scanning
  /-- Handed over and not yet taken, the oldest first. -/
  buffer : List (Token K) := []
  reader : Handoff.Reader K ρ
  /-- Where the last token taken starts. -/
  lastPosition : Option Position := none

namespace Handoff

variable {K σ μ ρ : Type}

def ofInput (g : Grammar K σ μ) (input : String) (config : Config) (memory : μ)
    (consumer : Consumer K ρ) : Handoff K σ μ ρ :=
  { capacity := config.handoffCapacity
    lexer := .ofInput g input config memory
    reader := .asking consumer }

/-- What a call for a token gets from the other side. There is no answer while the call has to
wait. -/
def receive? (h : Handoff K σ μ ρ) : Option (Option (Token K) × Handoff K σ μ ρ) :=
  match h.buffer, h.producer with
  | t :: rest, _ => some (some t, { h with buffer := rest })
  | [], .exited _ => some (none, h)
  | [], .offering t =>
    if h.capacity = 0 then some (some t, { h with producer := .scanning }) else none
  | [], .scanning => none

/-- The answer to a call for a token. Only a token moves the last position. -/
def nextToken? (h : Handoff K σ μ ρ) : Option (Option (Token K) × Handoff K σ μ ρ) :=
  match h.receive? with
  | some (some t, h) => some (some t, { h with lastPosition := some t.position })
  | answer => answer

/-- The producer's next move: a step of its lexer, or handing over the token that it offers. There
is none while the buffer is full and the consumer stays. -/
def produce [TokenKind K] (g : Grammar K σ μ) (h : Handoff K σ μ ρ) : Option (Handoff K σ μ ρ) :=
  match h.producer with
  | .exited _ => none
  | .scanning =>
    let (outcome, lexer) := h.lexer.step g
    let producer : Producer K :=
      match outcome with
      | .token t => .offering t
      | .closed => .exited .closed
      | .faulted f => .exited (.faulted f)
      | .unsettled => .scanning
    some { h with lexer, producer }
  | .offering t =>
    match h.reader with
    | .left _ =>
      some
        { h with
          lexer := { h.lexer with scanner := h.lexer.scanner.note .consumerGone }
          producer := .exited (.refused t) }
    | .asking _ =>
      if h.buffer.length < h.capacity then
        some { h with buffer := h.buffer ++ [t], producer := .scanning }
      else none

/-- The consumer's next move. There is none while it waits for a token that is not there yet. -/
def consume (h : Handoff K σ μ ρ) : Option (Handoff K σ μ ρ) :=
  match h.reader with
  | .left _ => none
  | .asking (.finish result) => some { h with reader := .left (.ok result) }
  | .asking (.giveUp message) => some { h with reader := .left (.error message) }
  | .asking (.lastPosition go) => some { h with reader := .asking (go h.lastPosition) }
  | .asking (.next go) =>
    match h.nextToken? with
    | some (answer, h) => some { h with reader := .asking (go answer) }
    | none => none

def step [TokenKind K] (g : Grammar K σ μ) : Party → Handoff K σ μ ρ → Option (Handoff K σ μ ρ)
  | .producer, h => h.produce g
  | .consumer, h => h.consume

def outcome (h : Handoff K σ μ ρ) : Option (Outcome ρ) :=
  match h.reader, h.producer with
  | .left (.error message), .exited _ => some (.consumerGaveUp message)
  | .left (.ok _), .exited (.faulted f) => some (.producerFaulted f)
  | .left (.ok result), .exited _ => some (.returned result)
  | _, _ => none

/-- Let the parties move until neither can, for at most `fuel` moves. The one whose turn it is
moves as long as it can, then the other. -/
def settle [TokenKind K] (g : Grammar K σ μ) :
    (fuel : Nat) → Party → Handoff K σ μ ρ → Handoff K σ μ ρ
  | 0, _, h => h
  | fuel + 1, turn, h =>
    match h.step g turn with
    | some next => settle g fuel turn next
    | none =>
      match h.step g turn.other with
      | some next => settle g fuel turn.other next
      | none => h

end Handoff

end StateLexer
