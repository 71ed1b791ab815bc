import StateLexer.Proofs.Cursor.Bounds
import StateLexer.Proofs.Program.Calls
import StateLexer.Proofs.Program.Exec
import StateLexer.Proofs.Program.Uses
import StateLexer.Proofs.Scanner.Tiling

/-! # When an operation breaks off

The only thing that an operation of the scanner can stumble over is a pending span that starts
ahead of the read position. The span cannot be cut then, so neither its text nor a token made of it
can be had. A number or a run of characters that is read first catches up with the start unless it
is empty. Whoever stumbles leaves the scanner as it was.
-/

namespace StateLexer

variable {K σ μ : Type} [TokenKind K] {input : String} {first : UInt32} {s : Scanner K μ}
  {o : Op K μ} {f : Fault} {kind : K} {test : Option Char → Except String Bool}
  {resume : State K σ} {command : Command K σ μ}

theorem Op.perform_eq_error_iff :
    (o.perform s).1 = .error f ↔
      (f = .startAhead ∧ (o = .pendingText ∨ ∃ kind, o = .publishSpan kind) ∧
        s.cursor.pendingText? = none) ∨
      ∃ message, o = .raise message ∧ f = .raised message := by
  cases o with
  | pendingText =>
    simp only [perform]
    cases s.cursor.pendingText? <;> simp [eq_comm]
  | publishSpan kind =>
    simp only [perform, Scanner.publishSpan?]
    cases s.cursor.pendingText? <;> simp [eq_comm]
  | raise message => simp [perform, eq_comm]
  | _ => simp [perform]

theorem Op.perform_of_error (h : (o.perform s).1 = .error f) : (o.perform s).2 = s := by
  rcases perform_eq_error_iff.mp h with ⟨-, rfl | ⟨kind, rfl⟩, hnone⟩ | ⟨message, rfl, -⟩
  · simp only [perform, hnone]
  · simp only [perform, Scanner.publishSpan?, hnone, Option.map_none]
  · rfl

namespace Cursor.Near

variable {c : Cursor}

/-- There is no pending text behind a number exactly if the start was ahead and nothing was read. -/
theorem pendingText?_readNumber (h : c.Near input first) :
    (c.readNumber.2.pendingText? = none ↔ c.pos < c.start ∧ c.readNumber.2.pos = c.pos) ∧
      (c.readNumber.2.pendingText? = none → c.readNumber.2 = c) := by
  have hnext := h.visits (.readNumber c)
  rw [hnext.pendingText?_eq_none_iff]
  exact h.pos_lt_start_iff Shows.readNumber_onward hnext

theorem pendingText?_readRun (h : c.Near input first) (test : Option Char → Except String Bool) :
    ((c.readRun test).2.pendingText? = none ↔
        c.pos < c.start ∧ (c.readRun test).2.pos = c.pos) ∧
      ((c.readRun test).2.pendingText? = none → (c.readRun test).2 = c) := by
  have hnext := h.visits (.readRun test c)
  rw [hnext.pendingText?_eq_none_iff]
  exact h.pos_lt_start_iff (fun hs => hs.readRun_onward test) hnext

end Cursor.Near

namespace Program

theorem publishNumber_eq_error_iff (h : s.cursor.Near input first) :
    ((publishNumber kind : Program K μ (Option (State K σ))).exec s).1 = .error f ↔
      f = .startAhead ∧ s.cursor.pos < s.cursor.start ∧
        s.cursor.readNumber.2.pos = s.cursor.pos := by
  rw [← h.pendingText?_readNumber.1, exec_publishNumber]
  cases hn : s.cursor.readNumber.2.pendingText? with
  | none => simpa [hn] using eq_comm
  | some text => cases s.cursor.readNumber.1 <;> simp [hn]

theorem publishNumber_of_error (h : s.cursor.Near input first)
    (hf : ((publishNumber kind : Program K μ (Option (State K σ))).exec s).1 = .error f) :
    ((publishNumber kind : Program K μ (Option (State K σ))).exec s).2 = s := by
  have hnone : s.cursor.readNumber.2.pendingText? = none :=
    h.pendingText?_readNumber.1.mpr ((publishNumber_eq_error_iff h).mp hf).2
  rw [exec_publishNumber]
  simp only [hnone]
  rw [h.pendingText?_readNumber.2 hnone]

theorem publishRun_eq_error_iff (h : s.cursor.Near input first) :
    ((publishRun kind test resume).exec s).1 = .error f ↔
      f = .startAhead ∧ s.cursor.pos < s.cursor.start ∧
        (s.cursor.readRun test).2.pos = s.cursor.pos ∧ (s.cursor.readRun test).1 = .ok () := by
  rw [← and_assoc (a := _ < _), ← (h.pendingText?_readRun test).1, exec_publishRun]
  cases (s.cursor.readRun test).1 with
  | error message => simp
  | ok u =>
    cases hn : (s.cursor.readRun test).2.pendingText? with
    | none => simpa [hn] using eq_comm
    | some text => simp [hn]

theorem publishRun_of_error (h : s.cursor.Near input first)
    (hf : ((publishRun kind test resume).exec s).1 = .error f) :
    ((publishRun kind test resume).exec s).2 = s := by
  obtain ⟨-, hahead, hpos, hok⟩ := (publishRun_eq_error_iff h).mp hf
  have hnone : (s.cursor.readRun test).2.pendingText? = none :=
    (h.pendingText?_readRun test).1.mpr ⟨hahead, hpos⟩
  rw [exec_publishRun]
  simp only [hok, hnone]
  rw [(h.pendingText?_readRun test).2 hnone]

end Program

namespace Command

/-- The scanner after the commands. A command that breaks off does not keep those behind it from
being carried out. -/
def carryOut (commands : List (Command K σ μ)) (s : Scanner K μ) : Scanner K μ :=
  commands.foldl (fun s command => (command.program.exec s).2) s

theorem exec_bind_done {α : Type} (p : Program K μ α) (s : Scanner K μ) :
    ((p.bind fun _ => .done ()).exec s).2 = (p.exec s).2 ∧
      (((p.bind fun _ => .done ()).exec s).1 = .error f ↔ (p.exec s).1 = .error f) := by
  rw [Program.exec_bind]
  cases p.exec s with
  | mk answer t => cases answer <;> simp

theorem exec_of_error (h : s.cursor.Near input first)
    (hf : (command.program.exec s).1 = .error f) : (command.program.exec s).2 = s := by
  cases command with
  | op o =>
    obtain ⟨hscanner, hfault⟩ := exec_bind_done (f := f) (Program.request o) s
    rw [Program.exec_request] at hscanner hfault
    exact hscanner.trans (Op.perform_of_error (hfault.mp hf))
  | number kind =>
    obtain ⟨hscanner, hfault⟩ := exec_bind_done (f := f)
      (Program.publishNumber kind : Program K μ (Option (State K σ))) s
    exact hscanner.trans (Program.publishNumber_of_error h (hfault.mp hf))
  | run kind test resume =>
    obtain ⟨hscanner, hfault⟩ := exec_bind_done (f := f) (Program.publishRun kind test resume) s
    exact hscanner.trans (Program.publishRun_of_error h (hfault.mp hf))

theorem cursors_carryOut {Holds : Cursor → Prop}
    (action : ∀ c a, Holds c → Holds (Cursor.Action.perform a c).2)
    (commands : List (Command K σ μ)) (h : s.Cursors Holds) : (carryOut commands s).Cursors Holds := by
  induction commands generalizing s with
  | nil => exact h
  | cons command commands ih =>
    refine ih ?_
    exact ((command.program.leads_calls s).keeps _ (Scanner.Cursors.perform action) h).2

end Command

/-- The start of the pending span is at most one character ahead of the read position, with nothing
to take back then, and no move of the cursor leads out of the input. To ask for the pending text or
to publish it breaks off exactly if the start is ahead, as does a number or a run that reads nothing;
nothing else breaks off unless the program says so. The scanner stays the same then. -/
structure Scanner.FaultsAhead (σ : Type) (s : Scanner K μ) : Prop where
  start_le_pos_or : s.cursor.start ≤ s.cursor.pos ∨
    (∃ ch, s.cursor.peek? = some ch ∧ s.cursor.start = s.cursor.pos + ch.utf8Size) ∧
      s.cursor.width = 0 ∧ s.cursor.crossedLine = false
  inBounds : ∀ d, s.cursor.Visits d → d.InBounds
  visits_perform : ∀ a : Cursor.Action, s.cursor.Visits (a.perform s.cursor).2
  visits_eat : ∀ literal d, Cursor.eat literal s.cursor = some d → s.cursor.Visits d
  op_iff : ∀ (o : Op K μ) (f : Fault), (o.perform s).1 = .error f ↔
    (f = .startAhead ∧ (o = .pendingText ∨ ∃ kind, o = .publishSpan kind) ∧
      s.cursor.pos < s.cursor.start) ∨
    ∃ message, o = .raise message ∧ f = .raised message
  number_iff : ∀ (kind : K) (f : Fault),
    ((Program.publishNumber kind : Program K μ (Option (State K σ))).exec s).1 = .error f ↔
      f = .startAhead ∧ s.cursor.pos < s.cursor.start ∧
        s.cursor.readNumber.2.pos = s.cursor.pos
  run_iff : ∀ (kind : K) (test : Option Char → Except String Bool) (resume : State K σ) (f : Fault),
    ((Program.publishRun kind test resume).exec s).1 = .error f ↔
      f = .startAhead ∧ s.cursor.pos < s.cursor.start ∧
        (s.cursor.readRun test).2.pos = s.cursor.pos ∧ (s.cursor.readRun test).1 = .ok ()
  exec_of_error : ∀ (command : Command K σ μ) (f : Fault), (command.program.exec s).1 = .error f →
    (command.program.exec s).2 = s

theorem Scanner.faultsAhead (h : s.cursor.Near input first) : s.FaultsAhead σ where
  start_le_pos_or := h.start_le_pos_or
  inBounds _ hd := (h.visits hd).inBounds
  visits_perform a := .perform a s.cursor
  visits_eat literal _ hd := .eat literal hd
  op_iff o f := by rw [Op.perform_eq_error_iff, h.pendingText?_eq_none_iff]
  number_iff kind f := Program.publishNumber_eq_error_iff h
  run_iff kind test resume f := Program.publishRun_eq_error_iff h
  exec_of_error command f hf := Command.exec_of_error h hf

namespace Command

/-- Whatever is done with a scanner, it breaks off only if the start is ahead. -/
theorem carryOut_faultsAhead (g : Grammar K σ μ) (input : String) (config : Config) (memory : μ)
    (commands : List (Command K σ μ)) :
    (carryOut commands (g.scanner input config memory)).FaultsAhead σ := by
  have hfresh : (g.scanner input config memory).Cursors (Cursor.Near input config.firstLine) :=
    ⟨.ofInput input config.firstLine, by simp [Grammar.scanner]⟩
  have hcursors := cursors_carryOut (fun d a hd => hd.visits (.perform a d)) commands hfresh
  exact Scanner.faultsAhead hcursors.cursor

/-- A blank is read, marked behind and taken back, so the start is ahead of it. A number finds nothing
to read there, breaks off and leaves the scanner alone. -/
theorem carryOut_faultsAhead_blank :
    let commands : List (Command Arithmetic.Kind Unit Unit) :=
      [.op (.cursor .read), .op (.cursor .markStart), .op (.cursor .undo)]
    let s := carryOut commands (Arithmetic.grammar.scanner " é" {} ())
    let number : Command Arithmetic.Kind Unit Unit := .number .number
    s.cursor.pos = 0 ∧ s.cursor.start = 1 ∧
      (number.program.exec s).1 = .error .startAhead ∧ (number.program.exec s).2 = s := by
  intro commands s number
  have hahead := carryOut_faultsAhead Arithmetic.grammar " é" {} () commands
  have hfault := (hahead.number_iff .number .startAhead).mpr
    ⟨rfl, by decide +kernel, by decide +kernel⟩
  have hbreaks : (number.program.exec s).1 = .error .startAhead :=
    (exec_bind_done _ s).2.mpr hfault
  exact ⟨by decide +kernel, by decide +kernel, hbreaks,
    hahead.exec_of_error number .startAhead hbreaks⟩

end Command

end StateLexer
