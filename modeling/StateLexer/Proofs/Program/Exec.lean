import StateLexer.Grammar

/-! # Running a program request by request

What a request does to a run, one rule for each request that states are written with. A program is
run by rewriting with these rules, from its first request to its last, and no proof has to look into
the tree.
-/

namespace StateLexer.Program

variable {K σ μ α : Type} [TokenKind K] {s : Scanner K μ}

@[simp] theorem exec_done (value : α) (s : Scanner K μ) :
    (done value : Program K μ α).exec s = (.ok value, s) := rfl

theorem exec_request (o : Op K μ) (s : Scanner K μ) : (request o).exec s = o.perform s := by
  unfold request exec
  cases o.perform s with
  | mk answer t => cases answer <;> rfl

theorem exec_cursor (a : Cursor.Action) (f : a.Answer → Program K μ α) (s : Scanner K μ) :
    ((request (.cursor a)).bind f).exec s =
      (f (a.perform s.cursor).1).exec { s with cursor := (a.perform s.cursor).2 } := rfl

@[simp] theorem exec_peek (f : Option Char → Program K μ α) (s : Scanner K μ) :
    (peek.bind f).exec s = (f s.cursor.peek?).exec s :=
  exec_cursor .peek f s

@[simp] theorem exec_read (f : Option Char → Program K μ α) (s : Scanner K μ) :
    (read.bind f).exec s = (f s.cursor.read.1).exec { s with cursor := s.cursor.read.2 } :=
  exec_cursor .read f s

@[simp] theorem exec_readMembers (valid : String) (f : Unit → Program K μ α) (s : Scanner K μ) :
    ((readMembers valid).bind f).exec s =
      (f ()).exec { s with cursor := s.cursor.readMembers valid } :=
  exec_cursor (.readMembers valid) f s

@[simp] theorem exec_readWhile (test : Char → Bool) (f : Nat → Program K μ α) (s : Scanner K μ) :
    ((readWhile test).bind f).exec s =
      (f (s.cursor.readWhile test).1).exec { s with cursor := (s.cursor.readWhile test).2 } :=
  exec_cursor (.readWhile test) f s

@[simp] theorem exec_readRun (test : Option Char → Except String Bool)
    (f : Except String Unit → Program K μ α) (s : Scanner K μ) :
    ((readRun test).bind f).exec s =
      (f (s.cursor.readRun test).1).exec { s with cursor := (s.cursor.readRun test).2 } :=
  exec_cursor (.readRun test) f s

@[simp] theorem exec_readNumber (f : Bool → Program K μ α) (s : Scanner K μ) :
    (readNumber.bind f).exec s =
      (f s.cursor.readNumber.1).exec { s with cursor := s.cursor.readNumber.2 } :=
  exec_cursor .readNumber f s

@[simp] theorem exec_skip (f : Unit → Program K μ α) (s : Scanner K μ) :
    (skip.bind f).exec s = (f ()).exec { s with cursor := s.cursor.markStart } :=
  exec_cursor .markStart f s

@[simp] theorem exec_stopWith (message : String) (s : Scanner K μ) :
    (stopWith message : Program K μ (Option (State K σ))).exec s = (.ok none, s.fail message) := rfl

theorem exec_pendingText {text : String} (h : s.cursor.pendingText? = some text)
    (f : String → Program K μ α) : (pendingText.bind f).exec s = (f text).exec s := by
  simp only [pendingText, request, bind, exec, Op.perform, h]

theorem exec_pendingText_of_none (h : s.cursor.pendingText? = none)
    (f : String → Program K μ α) : (pendingText.bind f).exec s = (.error .startAhead, s) := by
  simp only [pendingText, request, bind, exec, Op.perform, h]

theorem exec_publishSpan {text : String} (h : s.cursor.pendingText? = some text) (kind : K)
    (f : Unit → Program K μ α) :
    ((publishSpan kind).bind f).exec s = (f ()).exec (s.publish kind text) := by
  simp only [publishSpan, request, bind, exec, Op.perform, Scanner.publishSpan?, h, Option.map_some]

theorem exec_publishSpan_of_none (h : s.cursor.pendingText? = none) (kind : K)
    (f : Unit → Program K μ α) :
    ((publishSpan kind).bind f).exec s = (.error .startAhead, s) := by
  simp only [publishSpan, request, bind, exec, Op.perform, Scanner.publishSpan?, h, Option.map_none]

/-- A number that is none fails with its text; else it is published. Either needs the text. -/
theorem exec_publishNumber (kind : K) (s : Scanner K μ) :
    (publishNumber kind : Program K μ (Option (State K σ))).exec s =
      let next := { s with cursor := s.cursor.readNumber.2 }
      match next.cursor.pendingText? with
      | none => (.error .startAhead, next)
      | some text =>
        if s.cursor.readNumber.1 then (.ok (some .start), next.publish kind text)
        else (.ok none, next.fail (Diagnostic.badNumber text).message) := by
  simp only [publishNumber, bind_eq, exec_readNumber]
  cases s.cursor.readNumber with
  | mk found c =>
    cases ht : c.pendingText? with
    | none =>
      cases found with
      | true => exact exec_publishSpan_of_none ht kind _
      | false => exact exec_pendingText_of_none ht _
    | some text =>
      cases found with
      | true => exact exec_publishSpan ht kind _
      | false => exact exec_pendingText ht _

/-- A refused run fails with the message; else it is published, which needs its text. -/
theorem exec_publishRun (kind : K) (test : Option Char → Except String Bool) (resume : State K σ)
    (s : Scanner K μ) :
    (publishRun kind test resume).exec s =
      let next := { s with cursor := (s.cursor.readRun test).2 }
      match (s.cursor.readRun test).1, next.cursor.pendingText? with
      | .error message, _ => (.ok none, next.fail message)
      | .ok (), none => (.error .startAhead, next)
      | .ok (), some text => (.ok (some resume), next.publish kind text) := by
  simp only [publishRun, bind_eq, exec_readRun]
  cases s.cursor.readRun test with
  | mk answer c =>
    cases answer with
    | error message => exact exec_stopWith message _
    | ok u =>
      cases ht : c.pendingText? with
      | none => exact exec_publishSpan_of_none ht kind _
      | some text => exact exec_publishSpan ht kind _

end StateLexer.Program
