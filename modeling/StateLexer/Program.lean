import StateLexer.Cursor.Action
import StateLexer.Scanner

/-!
# Scanning programs

A scanning program is a tree: it is done with a value, or it asks for one operation and goes on
according to the answer. It knows the scanner through these operations alone, so what every
operation keeps, every program keeps.

A run can break off: the program raises a fault, or it asks for the pending text while the start
lies ahead of the read position. What was done before stays done.
-/

namespace StateLexer

/-- Why a program broke off. -/
inductive Fault where
  /-- The pending token starts ahead of the read position. -/
  | startAhead
  /-- The program gave up by itself. -/
  | raised (message : String)
  deriving DecidableEq, Repr

inductive Op (K μ : Type) where
  | cursor (a : Cursor.Action)
  | pendingText
  | bookmark
  | reset (mark : Nat)
  | publishSpan (kind : K)
  | publish (kind : K) (text : String)
  | fail (message : String)
  | lastSignificant
  | lastKind
  | isHalted
  | inspect
  | memory
  | remember (value : μ)
  | raise (message : String)

namespace Op

variable {K μ : Type}

def Answer : Op K μ → Type
  | cursor a => a.Answer
  | pendingText | inspect => String
  | bookmark => Nat
  | reset _ | publishSpan _ | publish _ _ | fail _ | remember _ => Unit
  | lastSignificant => Option (Token K)
  | lastKind => Option K
  | isHalted => Bool
  | memory => μ
  | raise _ => Empty

/-- The answer to an operation, or the fault, and the scanner after it. A fault changes nothing. -/
def perform [TokenKind K] : (o : Op K μ) → Scanner K μ → Except Fault o.Answer × Scanner K μ
  | cursor a, s =>
    let (answer, c) := a.perform s.cursor
    (.ok answer, { s with cursor := c })
  | pendingText, s =>
    match s.cursor.pendingText? with
    | some text => (.ok text, s)
    | none => (.error .startAhead, s)
  | bookmark, s =>
    let (mark, s) := s.bookmark
    (.ok mark, s)
  | reset mark, s => (.ok (), s.reset mark)
  | publishSpan kind, s =>
    match s.publishSpan? kind with
    | some s => (.ok (), s)
    | none => (.error .startAhead, s)
  | publish kind text, s => (.ok (), s.publish kind text)
  | fail message, s => (.ok (), s.fail message)
  | lastSignificant, s => (.ok s.lastSignificant, s)
  | lastKind, s => (.ok s.lastKind, s)
  | isHalted, s => (.ok s.halted, s)
  | inspect, s => (.ok s.inspect, s)
  | memory, s => (.ok s.memory, s)
  | remember value, s => (.ok (), { s with memory := value })
  | raise message, s => (.error (.raised message), s)

end Op

inductive Program (K μ α : Type) where
  | done (value : α)
  | ask (o : Op K μ) (next : o.Answer → Program K μ α)

namespace Program

variable {K μ α β : Type}

def bind : Program K μ α → (α → Program K μ β) → Program K μ β
  | done value, f => f value
  | ask o next, f => ask o fun answer => (next answer).bind f

instance : Monad (Program K μ) where
  pure := done
  bind := bind

def exec [TokenKind K] : Program K μ α → Scanner K μ → Except Fault α × Scanner K μ
  | done value, s => (.ok value, s)
  | ask o next, s =>
    match o.perform s with
    | (.ok answer, s) => (next answer).exec s
    | (.error fault, s) => (.error fault, s)

@[simp] theorem pure_eq (value : α) : (pure value : Program K μ α) = done value := rfl

@[simp] theorem bind_eq (p : Program K μ α) (f : α → Program K μ β) : p >>= f = p.bind f := rfl

theorem bind_done (p : Program K μ α) : p.bind done = p := by
  induction p with
  | done value => rfl
  | ask o next ih => simp [bind, ih]

theorem bind_assoc {γ : Type} (p : Program K μ α) (f : α → Program K μ β)
    (g : β → Program K μ γ) : (p.bind f).bind g = p.bind fun value => (f value).bind g := by
  induction p with
  | done value => rfl
  | ask o next ih => simp [bind, ih]

theorem exec_bind [TokenKind K] (p : Program K μ α) (f : α → Program K μ β) (s : Scanner K μ) :
    (p.bind f).exec s =
      match p.exec s with
      | (.ok value, s) => (f value).exec s
      | (.error fault, s) => (.error fault, s) := by
  induction p generalizing s with
  | done value => rfl
  | ask o next ih =>
    simp only [bind, exec]
    split <;> simp_all

def request (o : Op K μ) : Program K μ o.Answer := ask o done

def read : Program K μ (Option Char) := request (.cursor .read)
def undo : Program K μ Unit := request (.cursor .undo)
def peek : Program K μ (Option Char) := request (.cursor .peek)
def markStart : Program K μ Unit := request (.cursor .markStart)
def readMember (valid : String) : Program K μ Bool := request (.cursor (.readMember valid))
def readMembers (valid : String) : Program K μ Unit := request (.cursor (.readMembers valid))
def readWhile (test : Char → Bool) : Program K μ Nat := request (.cursor (.readWhile test))
def readRun (test : Option Char → Except String Bool) : Program K μ (Except String Unit) :=
  request (.cursor (.readRun test))
def readLiteral (literal : String) : Program K μ Bool := request (.cursor (.readLiteral literal))
def startsWith (literal : String) : Program K μ Bool := request (.cursor (.startsWith literal))
def readNumber : Program K μ Bool := request (.cursor .readNumber)
def rest : Program K μ String := request (.cursor .rest)
def input : Program K μ String := request (.cursor .input)
def atEnd : Program K μ Bool := request (.cursor .atEnd)
def position : Program K μ Position := request (.cursor .position)
def startPosition : Program K μ Position := request (.cursor .startPosition)
def pendingText : Program K μ String := request .pendingText
def bookmark : Program K μ Nat := request .bookmark
def reset (mark : Nat) : Program K μ Unit := request (.reset mark)
def publishSpan (kind : K) : Program K μ Unit := request (.publishSpan kind)
def publish (kind : K) (text : String) : Program K μ Unit := request (.publish kind text)
def fail (message : String) : Program K μ Unit := request (.fail message)
def lastSignificant : Program K μ (Option (Token K)) := request .lastSignificant
def lastKind : Program K μ (Option K) := request .lastKind
def isHalted : Program K μ Bool := request .isHalted
def inspect : Program K μ String := request .inspect
def memory : Program K μ μ := request .memory
def remember (value : μ) : Program K μ Unit := request (.remember value)
def raise (message : String) : Program K μ α := ask (.raise message) nofun

/-- Skip the pending span: the next token starts here. -/
def skip : Program K μ Unit := markStart

end Program

end StateLexer
