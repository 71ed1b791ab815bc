import StateLexer.Config
import StateLexer.Diagnostic
import StateLexer.Program

/-!
# Grammars

A grammar is a family of named scanning programs, one of which is the start. Running a state reads
some input, publishes any number of tokens and says which state comes next; without a next state
the scan ends. A next state is one of the named ones or is built from data: a number, or a run of
characters that pass a test.
-/

namespace StateLexer

/-- What a scan does next, in a grammar with states named by `σ`. -/
inductive State (K σ : Type) where
  /-- Back to the start of the grammar. -/
  | start
  | plain (name : σ)
  /-- A named state whose name carries data of its own. -/
  | closure (name : σ)
  /-- A number, published with this kind. -/
  | number (kind : K)
  /-- A run of characters that pass `test`, published with this kind; then `resume`. -/
  | run (kind : K) (test : Option Char → Except String Bool) (resume : State K σ)

namespace State

variable {K σ : Type}

/-- A state is shown by its form only. -/
def inspect : State K σ → String
  | start | plain _ => "State(fn)"
  | closure _ | number _ | run _ _ _ => "State(closure)"

end State

/-- The scanning programs of a grammar. `isWhitespace` tells the kinds that do not count as
significant; it filters nothing. -/
structure Grammar (K σ μ : Type) where
  start : σ
  body : σ → Program K μ (Option (State K σ))
  isWhitespace : K → Bool := fun _ => false

namespace Program

variable {K σ μ : Type}

def stopWith (message : String) : Program K μ (Option (State K σ)) := do
  fail message
  return none

/-- Read a number and publish it, or fail with the text that is none. -/
def publishNumber (kind : K) : Program K μ (Option (State K σ)) := do
  if ← readNumber then
    publishSpan kind
    return some .start
  else
    stopWith (Diagnostic.badNumber (← pendingText)).message

/-- Read the characters that pass `test` and publish them, or fail with the test's message. -/
def publishRun (kind : K) (test : Option Char → Except String Bool) (resume : State K σ) :
    Program K μ (Option (State K σ)) := do
  match ← readRun test with
  | .ok () =>
    publishSpan kind
    return some resume
  | .error message => stopWith message

end Program

namespace Grammar

variable {K σ μ : Type}

def program (g : Grammar K σ μ) : State K σ → Program K μ (Option (State K σ))
  | .start => g.body g.start
  | .plain name | .closure name => g.body name
  | .number kind => .publishNumber kind
  | .run kind test resume => .publishRun kind test resume

def scanner (g : Grammar K σ μ) (input : String) (config : Config) (memory : μ) : Scanner K μ :=
  { cursor := .ofInput input config.firstLine, isWhitespace := g.isWhitespace, memory }

end Grammar

end StateLexer
