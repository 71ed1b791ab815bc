import StateLexer.Grammar

/-!
# Lexers

A lexer delivers the tokens of an input one at a time. It scans no more than it must: a state is
run only while no token is queued. The stream closes once, when the scan has ended and every
published token has been delivered, and it stays closed.

A state is taken out before it is run. If it breaks off, the tokens queued by then are still
delivered and nothing is run again.
-/

namespace StateLexer

structure Lexer (K σ μ : Type) where
  scanner : Scanner K μ
  /-- The state to run when the queue is empty. -/
  state : Option (State K σ) := some .start
  /-- Where the last delivered token starts. -/
  lastPosition : Option Position := none
  closed : Bool := false

namespace Lexer

variable {K σ μ : Type}

inductive Outcome (K : Type) where
  | token (t : Token K)
  | closed
  | faulted (f : Fault)
  /-- No token yet: more states have to be run. -/
  | unsettled
  deriving DecidableEq, Repr

def ofInput (g : Grammar K σ μ) (input : String) (config : Config) (memory : μ) : Lexer K σ μ :=
  { scanner := g.scanner input config memory }

/-- Mark the stream as closed, and note it the first time. -/
def close (l : Lexer K σ μ) : Lexer K σ μ :=
  if l.closed then l
  else
    { l with
      closed := true
      scanner := l.scanner.note (.closed l.scanner.cursor.pos l.scanner.halted) }

/-- Take out the state and run it. What it returns is dropped when the scanner has halted. -/
def runState [TokenKind K] (g : Grammar K σ μ) (state : State K σ) (l : Lexer K σ μ) :
    Outcome K × Lexer K σ μ :=
  match (g.program state).exec l.scanner with
  | (.ok next, s) => (.unsettled, { l with scanner := s, state := if s.halted then none else next })
  | (.error fault, s) => (.faulted fault, { l with scanner := s, state := none })

/-- Deliver a queued token, or else run one state, or else close. -/
def step [TokenKind K] (g : Grammar K σ μ) (l : Lexer K σ μ) : Outcome K × Lexer K σ μ :=
  match l.scanner.queue with
  | t :: rest =>
    (.token t,
      { l with scanner := { l.scanner with queue := rest }, lastPosition := some t.position })
  | [] =>
    match l.state with
    | some state => l.runState g state
    | none => (.closed, l.close)

/-- Ask for the next token, taking at most `fuel` steps. -/
def pull [TokenKind K] (g : Grammar K σ μ) : (fuel : Nat) → Lexer K σ μ → Outcome K × Lexer K σ μ
  | 0, l => (.unsettled, l)
  | fuel + 1, l =>
    match l.step g with
    | (.unsettled, l) => pull g fuel l
    | settled => settled

/-- Collect tokens until there are no more, taking at most `fuel` steps. The outcome is that of the
last step and never a token. -/
def drain [TokenKind K] (g : Grammar K σ μ) :
    (fuel : Nat) → Lexer K σ μ → List (Token K) × Outcome K × Lexer K σ μ
  | 0, l => ([], .unsettled, l)
  | fuel + 1, l =>
    match l.step g with
    | (.token t, l) =>
      let (tokens, last) := drain g fuel l
      (t :: tokens, last)
    | (.unsettled, l) => drain g fuel l
    | settled => ([], settled)

def inspect [TokenKind K] (l : Lexer K σ μ) : String :=
  Text.record "Lexer" [("scanner", l.scanner.inspect),
    ("state", Text.optional (l.state.map State.inspect)),
    ("last_position", Text.optional (l.lastPosition.map Position.inspect)),
    ("closed", Text.truth l.closed)]

end Lexer

end StateLexer
