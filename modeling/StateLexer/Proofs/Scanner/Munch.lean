import StateLexer.Arithmetic
import StateLexer.Proofs.Cursor.Numerals
import StateLexer.Proofs.Lexer.Reached
import StateLexer.Proofs.Program.Exec
import StateLexer.Proofs.Scanner.Number

/-! # Reading by sets and tests

Wherever a scan has come to, reading while a test holds takes the longest stretch of characters that
pass. It ends by taking back the character that did not, so there is nothing left to take back. A
single member of a set is read or not, and either way it is known what an undo does next: it takes
back that member, or nothing.
-/

namespace StateLexer
open Text Cursor

namespace Cursor

def allOf (test : Char → Bool) : Language Char := {text | ∀ ch ∈ text, test ch = true}

variable {input valid : String} {first : UInt32} {z : Zipper} {c : Cursor} {cs : List Char}
  {ch : Char}

theorem longest_takeWhile (test : Char → Bool) (cs : List Char) :
    Longest (allOf test) cs (cs.takeWhile test) where
  mem := List.all_eq_true.mp List.all_takeWhile
  isPrefix := List.takeWhile_prefix test
  length_le := by
    rintro p hp ⟨rest, rfl⟩
    rw [List.takeWhile_append_of_pos hp, List.length_append]
    omega

theorem undo_eq_self (hwidth : c.width = 0) (hcrossed : c.crossedLine = false) : c.undo = c := by
  cases c
  simp_all [undo]

theorem readMember_of_mem (hpeek : c.peek? = some ch) (h : ch ∈ valid.toList) :
    c.readMember valid = (true, c.past ch) := by
  simp [readMember, read, hpeek, isMember, h]

theorem readMember_of_notMem (h : ∀ ch, c.peek? = some ch → ch ∉ valid.toList) :
    c.readMember valid = (false, c.settled) := by
  unfold readMember read
  cases hpeek : c.peek? with
  | none => simp [undo_settled]
  | some ch => simp [isMember, h ch hpeek, undo_past]

namespace Shows

theorem readWhile_again (h : c.Shows input first z) (test : Char → Bool) :
    (c.readWhile test).2.readWhile test = (0, (c.readWhile test).2) := by
  obtain ⟨-, hnext⟩ := h.readWhile test
  obtain ⟨hcount, hagain⟩ := hnext.readWhile test
  have hnone : runLength test (input.toList.drop (z.index +
      runLength test (input.toList.drop z.index))) = 0 := by
    rw [drop_runLength rfl, runLength, takeWhile_eq_nil_iff.mpr (head?_dropWhile test _)]
    rfl
  simp only [hnone, Nat.add_zero] at hcount hagain
  exact Prod.ext hcount (hagain.unique hnext)

theorem readWhile_run (h : c.Shows input first z) (hcs : input.toList.drop z.index = cs)
    (test : Char → Bool) :
    let next := (c.readWhile test).2
    (c.readWhile test).1 = (cs.takeWhile test).length ∧
      next.position =
        .behind first (String.ofList (input.toList.take z.index ++ cs.takeWhile test)) ∧
      next.startPosition = c.startPosition ∧ next.input = c.input ∧
      next.width = 0 ∧ next.crossedLine = false := by
  intro next
  obtain ⟨hcount, hnext⟩ := h.readWhile test
  rw [hcs] at hcount hnext
  have hsplit : input.toList.drop z.index = cs.takeWhile test ++ cs.dropWhile test := by
    rw [hcs, List.takeWhile_append_dropWhile]
  exact ⟨hcount, hnext.position_behind hsplit,
    hnext.startPosition_eq.trans h.startPosition_eq.symm, hnext.input_eq.trans h.input_eq.symm,
    hnext.record_empty rfl⟩

theorem position_past (h : c.Shows input first z) (hch : input.toList[z.index]? = some ch) :
    (c.past ch).position =
      .behind first (String.ofList (input.toList.take z.index ++ [ch])) := by
  have hnext : (c.past ch).Shows input first
      { z with index := z.index + [ch].length, undoable := true } := h.past hch
  exact hnext.position_behind (drop_eq_cons hch)

end Shows

end Cursor

variable {K σ μ : Type} [TokenKind K] {g : Grammar K σ μ} {input : String} {config : Config}
  {memory : μ} {s : Scanner K μ}

theorem Program.exec_action {a : Action} {answer : a.Answer} {c : Cursor}
    (h : a.perform s.cursor = (answer, c)) :
    (request (.cursor a) : Program K μ a.Answer).exec s = (.ok answer, { s with cursor := c }) := by
  rw [exec_request, Op.perform, h]

namespace Scanner

/-- Reading while `test` holds takes `run`, the longest stretch of characters that pass, and leaves the
cursor `c` with nothing to take back and nothing to read again. -/
structure ReadsRun (first : UInt32) (s : Scanner K μ) (before unread : List Char)
    (test : Char → Bool) (run : List Char) (c : Cursor) : Prop where
  longest : Longest (allOf test) unread run
  exec_eq :
    (Program.readWhile test : Program K μ ℕ).exec s = (.ok run.length, { s with cursor := c })
  position_eq : c.position = .behind first (String.ofList (before ++ run))
  startPosition_eq : c.startPosition = s.cursor.startPosition
  input_eq : c.input = s.cursor.input
  width_eq : c.width = 0
  crossedLine_eq : c.crossedLine = false
  undo : (Program.undo : Program K μ Unit).exec { s with cursor := c } =
    (.ok (), { s with cursor := c })
  again : (Program.readWhile test : Program K μ ℕ).exec { s with cursor := c } =
    (.ok 0, { s with cursor := c })

/-- The member `ch` of a set is read, and one undo takes it back. -/
structure ReadsMember (first : UInt32) (s : Scanner K μ) (before : List Char) (valid : String)
    (ch : Char) (c : Cursor) : Prop where
  exec_eq :
    (Program.readMember valid : Program K μ Bool).exec s = (.ok true, { s with cursor := c })
  position_eq : c.position = .behind first (String.ofList (before ++ [ch]))
  startPosition_eq : c.startPosition = s.cursor.startPosition
  input_eq : c.input = s.cursor.input
  undo_eq : c.undo = s.cursor.settled

/-- Members of a set are read by the test for members, and there are none left to read then. A single
member is read exactly if it is next; else the record of the last reading is all that is lost. -/
structure ReadsMaximal (input : String) (first : UInt32) (s : Scanner K μ)
    (before unread : List Char) : Prop where
  text_eq : input.toList = before ++ unread
  rest_eq : s.cursor.rest.toList = unread
  position_eq : s.cursor.position = .behind first (String.ofList before)
  readWhile : ∀ test : Char → Bool, ∃ run c, s.ReadsRun first before unread test run c
  readMembers : ∀ valid : String, (Program.readMembers valid : Program K μ Unit).exec s =
    (.ok (), ((Program.readWhile (· ∈ valid.toList) : Program K μ ℕ).exec s).2)
  readMembers_again : ∀ valid : String,
    let next := ((Program.readMembers valid : Program K μ Unit).exec s).2
    (Program.readMembers valid : Program K μ Unit).exec next = (.ok (), next)
  readMember : ∀ (valid : String) (ch : Char), unread.head? = some ch → ch ∈ valid.toList →
    ∃ c, s.ReadsMember first before valid ch c
  readMember_none : ∀ valid : String, (∀ ch, unread.head? = some ch → ch ∉ valid.toList) →
    (Program.readMember valid : Program K μ Bool).exec s =
      (.ok false, { s with cursor := s.cursor.settled })
  undo_settled : s.cursor.settled.undo = s.cursor.settled

theorem exec_readMembers (valid : String) (s : Scanner K μ) :
    (Program.readMembers valid : Program K μ Unit).exec s =
      (.ok (), ((Program.readWhile (· ∈ valid.toList) : Program K μ ℕ).exec s).2) := by
  have hset : isMember valid = fun ch => decide (ch ∈ valid.toList) := by
    funext ch
    rw [Bool.eq_iff_iff, isMember_iff, decide_eq_true_iff]
  have hmembers : s.cursor.readMembers valid = (s.cursor.readWhile (· ∈ valid.toList)).2 := by
    rw [readMembers_eq_readWhile, hset]
  exact Program.exec_action (a := .readMembers valid) (Prod.ext rfl hmembers)

/-- Wherever a run has come to, it reads by sets and tests as far as it can. -/
theorem Reached.readsMaximal (h : s.Reached g input config memory) :
    ∃ before unread, s.ReadsMaximal input config.firstLine before unread := by
  obtain ⟨z, hz⟩ := h.within.cursor
  obtain ⟨unread, hunread⟩ : ∃ unread, input.toList.drop z.index = unread := ⟨_, rfl⟩
  have hnext : input.toList[z.index]? = unread.head? := by rw [← hunread, List.head?_drop]
  have hpeek : s.cursor.peek? = unread.head? := hz.peek?_eq.trans hnext
  refine ⟨input.toList.take z.index, unread, ?_⟩
  refine
    { text_eq := by rw [← hunread, List.take_append_drop]
      rest_eq := by rw [hz.rest_eq, String.toList_ofList, hunread]
      position_eq := hz.position_eq
      readWhile := ?run
      readMembers := fun valid => exec_readMembers valid s
      readMembers_again := ?again
      readMember := ?member
      readMember_none := ?none
      undo_settled := Cursor.undo_settled _ }
  case run =>
    intro test
    obtain ⟨hcount, hposition, hstart, hinput, hwidth, hcrossed⟩ := hz.readWhile_run hunread test
    refine ⟨unread.takeWhile test, (s.cursor.readWhile test).2, longest_takeWhile test unread, ?_,
      hposition, hstart, hinput, hwidth, hcrossed, ?_, ?_⟩
    · exact Program.exec_action (a := .readWhile test) (Prod.ext hcount rfl)
    · exact Program.exec_action (a := .undo) (Prod.ext rfl (undo_eq_self hwidth hcrossed))
    · exact Program.exec_action (a := .readWhile test) (hz.readWhile_again test)
  case again =>
    intro valid
    have hagain : (Program.readWhile (· ∈ valid.toList) : Program K μ ℕ).exec
        { s with cursor := (s.cursor.readWhile (· ∈ valid.toList)).2 } =
          (.ok 0, { s with cursor := (s.cursor.readWhile (· ∈ valid.toList)).2 }) :=
      Program.exec_action (a := .readWhile (· ∈ valid.toList)) (hz.readWhile_again _)
    have hread : ((Program.readWhile (· ∈ valid.toList) : Program K μ ℕ).exec s).2 =
        { s with cursor := (s.cursor.readWhile (· ∈ valid.toList)).2 } :=
      congrArg Prod.snd (Program.exec_action (a := .readWhile (· ∈ valid.toList)) rfl)
    simp only [exec_readMembers, hread, hagain]
  case member =>
    intro valid ch hch hmem
    have hread := readMember_of_mem (hpeek.trans hch) hmem
    exact ⟨s.cursor.past ch, Program.exec_action (a := .readMember valid) hread,
      hz.position_past (hnext.trans hch), rfl, rfl, undo_past _ _⟩
  case none =>
    intro valid hnone
    have hread := readMember_of_notMem fun ch hch => hnone ch (hpeek.symm.trans hch)
    exact Program.exec_action (a := .readMember valid) hread

theorem Reached.readsMaximal_line_ends :
    let s := Arithmetic.grammar.scanner "\n\nλ" (.startingAt 4294967294) ()
    s.Reached Arithmetic.grammar "\n\nλ" (.startingAt 4294967294) () ∧
      (∃ c, (Program.readWhile isLineEnd : Program Arithmetic.Kind Unit ℕ).exec s =
          (.ok 2, { s with cursor := c }) ∧ c.position = ⟨2, lastLine⟩ ∧ c.width = 0) ∧
      ∃ c, (Program.readMember "\n" : Program Arithmetic.Kind Unit Bool).exec s =
          (.ok true, { s with cursor := c }) ∧ c.position = ⟨1, lastLine⟩ ∧
        c.undo = s.cursor.settled := by
  intro s
  have hs : s.Reached Arithmetic.grammar "\n\nλ" (.startingAt 4294967294) () := .fresh
  have hunread : s.cursor.rest.toList = ['\n', '\n', 'λ'] := by decide +kernel
  have hanswer :
      ((Program.readWhile isLineEnd : Program Arithmetic.Kind Unit ℕ).exec s).1 = .ok 2 := by
    decide +kernel
  obtain ⟨before, unread, hmaximal⟩ := Reached.readsMaximal hs
  obtain rfl := hmaximal.rest_eq.symm.trans hunread
  obtain rfl : before = [] := by simpa using congrArg List.length hmaximal.text_eq
  obtain ⟨run, c, hrun⟩ := hmaximal.readWhile isLineEnd
  obtain ⟨d, hmember⟩ := hmaximal.readMember "\n" '\n' rfl (by decide)
  have hexec := hrun.exec_eq
  rw [hexec] at hanswer
  have hlength : run.length = 2 := Except.ok.inj hanswer
  have hends : run = ['\n', '\n'] := by
    rw [List.prefix_iff_eq_take.mp hrun.longest.isPrefix, hlength]
    rfl
  rw [hlength] at hexec
  refine ⟨hs, ⟨c, hexec, ?_, hrun.width_eq⟩, d, hmember.exec_eq, ?_, hmember.undo_eq⟩
  · rw [hrun.position_eq, hends]
    decide +kernel
  · rw [hmember.position_eq]
    decide +kernel

end Scanner

end StateLexer
