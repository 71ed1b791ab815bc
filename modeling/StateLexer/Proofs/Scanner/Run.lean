import StateLexer.Arithmetic
import StateLexer.Proofs.Lexer.Reached
import StateLexer.Proofs.Program.Exec
import StateLexer.Proofs.Scanner.Number

/-! # Reading a run

Wherever a scan has come to, a run reads the longest stretch of characters that pass its test. The
test is asked about each of them in turn and then once about what comes next, which may be the end of
the input. What the test says there decides between publishing and failing.
-/

namespace StateLexer
open Text Cursor

namespace Cursor

/-- A run whose test may do something besides answering. -/
def readRunIn {m : Type → Type} [Monad m] (test : Option Char → m (Except String Bool))
    (c : Cursor) : m (Except String Unit × Cursor) :=
  match _ : c.read with
  | (some ch, next) => do
    match ← test (some ch) with
    | .ok true => readRunIn test next
    | .ok false => return (.ok (), next.undo)
    | .error message => return (.error message, next)
  | (none, next) => do
    match ← test none with
    | .ok _ => return (.ok (), next.undo)
    | .error message => return (.error message, next)
termination_by c.bytesLeft
decreasing_by exact bytesLeft_lt_of_read (by assumption)

/-- What the test of a run is asked about if `cs` is unread. -/
def consulted (test : Option Char → Except String Bool) (cs : List Char) : List (Option Char) :=
  (cs.takeWhile (passes test)).map some ++ [(cs.dropWhile (passes test)).head?]

variable {input : String} {first : UInt32} {z : Zipper} {c next : Cursor} {ch : Char}
  {test : Option Char → Except String Bool} {pass : Char → Bool}

section
variable {m : Type → Type} [Monad m]

theorem readRunIn_of_some {effect : Option Char → m (Except String Bool)}
    (hr : c.read = (some ch, next)) :
    c.readRunIn effect = do
      match ← effect (some ch) with
      | .ok true => next.readRunIn effect
      | .ok false => return (.ok (), next.undo)
      | .error message => return (.error message, next) := by
  rw [readRunIn]
  split
  · rename_i hr'
    obtain ⟨rfl, rfl⟩ : _ = ch ∧ _ = next := by simpa [hr] using hr'.symm
    rfl
  · simp_all

theorem readRunIn_of_none {effect : Option Char → m (Except String Bool)}
    (hr : c.read = (none, next)) :
    c.readRunIn effect = do
      match ← effect none with
      | .ok _ => return (.ok (), next.undo)
      | .error message => return (.error message, next) := by
  rw [readRunIn]
  split
  · simp_all
  · rename_i hr'
    obtain rfl : _ = next := by simpa [hr] using hr'.symm
    rfl

theorem consulted_cons (test : Option Char → Except String Bool) (ch : Char) (cs : List Char) :
    consulted test (ch :: cs) =
      some ch :: if passes test ch then consulted test cs else [] := by
  cases h : passes test ch <;> simp [consulted, h]

/-- What a test does besides answering is done for what it is asked about, in that order, and makes
no difference to the run. -/
theorem Shows.readRunIn_noting [LawfulMonad m] (h : c.Shows input first z)
    (test : Option Char → Except String Bool) (note : Option Char → m PUnit) :
    (c.readRunIn fun ch => do note ch; return test ch) = do
      (consulted test (input.toList.drop z.index)).forM note
      return c.readRun test := by
  induction c using Cursor.readRun.induct test generalizing z with
  | case1 c ch next hr htest ih =>
    obtain ⟨hfound, -, hnext⟩ := h.of_read hr
    have hpass : passes test ch = true := by simp [passes, htest]
    rw [readRunIn_of_some hr, readRun_of_some hr, drop_eq_cons hfound.symm, consulted_cons,
      if_pos hpass]
    simp only [bind_assoc, pure_bind, htest, ih (hnext rfl), List.forM_eq_forM, List.forM_cons]
  | case2 c ch next hr htest =>
    obtain ⟨hfound, -, -⟩ := h.of_read hr
    have hpass : ¬ passes test ch = true := by simp [passes, htest]
    rw [readRunIn_of_some hr, readRun_of_some hr, drop_eq_cons hfound.symm, consulted_cons,
      if_neg hpass]
    simp [htest]
  | case3 c ch next hr message htest =>
    obtain ⟨hfound, -, -⟩ := h.of_read hr
    have hpass : ¬ passes test ch = true := by simp [passes, htest]
    rw [readRunIn_of_some hr, readRun_of_some hr, drop_eq_cons hfound.symm, consulted_cons,
      if_neg hpass]
    simp [htest]
  | case4 c next hr b htest =>
    obtain ⟨hfound, -, -⟩ := h.of_read hr
    rw [readRunIn_of_none hr, readRun_of_none hr, drop_eq_nil hfound.symm]
    simp [consulted, htest]
  | case5 c next hr message htest =>
    obtain ⟨hfound, -, -⟩ := h.of_read hr
    rw [readRunIn_of_none hr, readRun_of_none hr, drop_eq_nil hfound.symm]
    simp [consulted, htest]

end

theorem passes_iff {test : Option Char → Except String Bool} :
    passes test ch = true ↔ test (some ch) = .ok true := by
  unfold passes
  split <;> simp_all

theorem readRun_eq_readWhile (h : ∀ ch, test ch = .ok (ch.any pass)) (c : Cursor) :
    c.readRun test = (.ok (), (c.readWhile pass).2) := by
  induction c using Cursor.readWhile.induct pass with
  | case1 c ch next hr hpass ih =>
    rw [readRun_of_some hr, readWhile_of_some hr]
    simp [h, hpass, ih]
  | case2 c ch next hr hpass =>
    rw [readRun_of_some hr, readWhile_of_some hr]
    simp [h, hpass]
  | case3 c next hr =>
    rw [readRun_of_none hr, readWhile_of_none hr]
    simp [h]

theorem head?_dropWhile_drop (test : Char → Bool) (all : List Char) (i : ℕ) :
    ((all.drop i).dropWhile test).head? = all[i + runLength test (all.drop i)]? := by
  rw [← drop_runLength rfl, List.head?_drop]

namespace Shows

theorem readRun_of_ok {cs : List Char} {b : Bool} (h : c.Shows input first z)
    (hcs : input.toList.drop z.index = cs) (hb : test (cs.dropWhile (passes test)).head? = .ok b) :
    (c.readRun test).1 = .ok () ∧
      (c.readRun test).2.Shows input first
        { z with
          index := z.index + (cs.takeWhile (passes test)).length
          undoable := false } := by
  subst hcs
  apply (h.readRun test rfl).1 b
  rwa [← head?_dropWhile_drop]

theorem readRun_of_error {cs : List Char} {message : String} (h : c.Shows input first z)
    (hcs : input.toList.drop z.index = cs)
    (hm : test (cs.dropWhile (passes test)).head? = .error message) :
    (c.readRun test).1 = .error message ∧
      ∃ undoable, (c.readRun test).2.Shows input first
        { z with
          index := z.index +
            (cs.takeWhile (passes test) ++ (cs.dropWhile (passes test)).take 1).length
          undoable } := by
  subst hcs
  obtain ⟨hanswer, hread⟩ := (h.readRun test rfl).2 message (by rwa [← head?_dropWhile_drop])
  refine ⟨hanswer, ?_⟩
  rw [List.length_append, ← Nat.add_assoc]
  unfold Zipper.read at hread
  simp only [← head?_dropWhile_drop] at hread
  cases hrest : (input.toList.drop z.index).dropWhile (passes test) with
  | nil =>
    rw [hrest] at hread
    exact ⟨false, hread⟩
  | cons ch rest =>
    rw [hrest] at hread
    exact ⟨true, hread⟩

end Shows

end Cursor

variable {K σ μ : Type} [TokenKind K] {g : Grammar K σ μ} {input : String} {config : Config}
  {memory : μ} {s : Scanner K μ}

namespace Grammar

/-- A run reads `passed`, the characters that pass its test, and the test is asked about each of them
in turn and then about what comes next. If that is refused, the scan fails behind it. Else what was
read is published, and nothing is left to take back. A test for characters makes the run that reads
while the test holds. -/
structure LongestRun (g : Grammar K σ μ) (input : String) (first : UInt32) (kind : K)
    (test : Option Char → Except String Bool) (resume : State K σ) (s : Scanner K μ)
    (before passed rest : List Char) : Prop where
  text_eq : input.toList = before ++ s.cursor.rest.toList
  passed_eq : passed = s.cursor.rest.toList.takeWhile (passes test)
  rest_eq : rest = s.cursor.rest.toList.dropWhile (passes test)
  position_eq : s.cursor.position = .behind first (String.ofList before)
  passed_ok : ∀ ch ∈ passed, test (some ch) = .ok true
  rest_not_ok : ∀ ch, rest.head? = some ch → test (some ch) ≠ .ok true
  readRunIn_eq : ∀ (m : Type → Type) [Monad m] [LawfulMonad m] (note : Option Char → m PUnit),
    (s.cursor.readRunIn fun ch => do note ch; return test ch) = do
      (passed.map some ++ [rest.head?]).forM note
      return s.cursor.readRun test
  exec_of_error : ∀ message, test rest.head? = .error message →
    (g.program (.run kind test resume)).exec s =
      (.ok none, { s with cursor := (s.cursor.readRun test).2 }.fail message)
  position_of_error : ∀ message, test rest.head? = .error message →
    (s.cursor.readRun test).2.position =
      .behind first (String.ofList (before ++ (passed ++ rest.take 1)))
  exec_of_ok : ∀ b, test rest.head? = .ok b →
    (g.program (.run kind test resume)).exec s = (do
      Program.publishSpan kind
      return some resume : Program K μ (Option (State K σ))).exec
        { s with cursor := (s.cursor.readRun test).2 }
  position_of_ok : ∀ b, test rest.head? = .ok b →
    (s.cursor.readRun test).2.position = .behind first (String.ofList (before ++ passed))
  record_of_ok : ∀ b, test rest.head? = .ok b →
    (s.cursor.readRun test).2.width = 0 ∧ (s.cursor.readRun test).2.crossedLine = false
  startPosition_eq : (s.cursor.readRun test).2.startPosition = s.cursor.startPosition
  input_eq : (s.cursor.readRun test).2.input = s.cursor.input
  exec_readWhile : ∀ pass, (∀ ch, test ch = .ok (ch.any pass)) →
    (g.program (.run kind test resume)).exec s = (do
      let _ ← Program.readWhile pass
      Program.publishSpan kind
      return some resume : Program K μ (Option (State K σ))).exec s

/-- Wherever a scan has come to, a run reads as far as its test passes. -/
theorem program_longestRun (h : s.Reached g input config memory) (kind : K)
    (test : Option Char → Except String Bool) (resume : State K σ) :
    ∃ before passed rest,
      g.LongestRun input config.firstLine kind test resume s before passed rest := by
  obtain ⟨z, hz⟩ := h.within.cursor
  have hunread : input.toList.drop z.index = s.cursor.rest.toList := by
    rw [hz.rest_eq, String.toList_ofList]
  have hsplit : input.toList.drop z.index = s.cursor.rest.toList.takeWhile (passes test) ++
      s.cursor.rest.toList.dropWhile (passes test) :=
    hunread.trans List.takeWhile_append_dropWhile.symm
  have hresult : (g.program (.run kind test resume)).exec s =
      (Program.publishRun kind test resume).exec s := rfl
  rw [Program.publishRun, Program.bind_eq, Program.exec_readRun] at hresult
  obtain ⟨n, undoable, hrun⟩ := hz.readRun_onward test
  refine ⟨input.toList.take z.index, s.cursor.rest.toList.takeWhile (passes test),
    s.cursor.rest.toList.dropWhile (passes test), ?_⟩
  exact
    { text_eq := by rw [← hunread, List.take_append_drop]
      passed_eq := rfl
      rest_eq := rfl
      position_eq := hz.position_eq
      passed_ok := fun ch hch => passes_iff.mp (List.all_eq_true.mp List.all_takeWhile ch hch)
      rest_not_ok := by
        intro ch hch hpass
        have hnot := head?_dropWhile (passes test) s.cursor.rest.toList
        rw [hch, Option.any_some, passes_iff.mpr hpass] at hnot
        cases hnot
      readRunIn_eq := by
        intro m _ _ note
        rw [hz.readRunIn_noting test note, hunread]
        rfl
      exec_of_error := by
        intro message hm
        rw [hresult, (hz.readRun_of_error hunread hm).1]
        rfl
      position_of_error := by
        intro message hm
        obtain ⟨-, undoable, hshows⟩ := hz.readRun_of_error hunread hm
        rw [← List.take_append_drop 1 (List.dropWhile _ _), ← List.append_assoc] at hsplit
        exact hshows.position_behind hsplit
      exec_of_ok := by
        intro b hb
        rw [hresult, (hz.readRun_of_ok hunread hb).1]
      position_of_ok := fun _ hb => (hz.readRun_of_ok hunread hb).2.position_behind hsplit
      record_of_ok := fun _ hb => (hz.readRun_of_ok hunread hb).2.record_empty rfl
      startPosition_eq := hrun.startPosition_eq.trans hz.startPosition_eq.symm
      input_eq := hrun.input_eq.trans hz.input_eq.symm
      exec_readWhile := by
        intro pass hpass
        rw [hresult, readRun_eq_readWhile hpass]
        rfl }

/-- A quotation that is not closed is refused at the end of the input, after a look at every
character. -/
theorem program_longestRun_quotation :
    let test : Option Char → Except String Bool
      | some ch => .ok (ch != '"')
      | none => .error "unterminated"
    let s := Arithmetic.grammar.scanner "λb" {} ()
    let result := (Arithmetic.grammar.program (.run .ident test .start)).exec s
    s.Reached Arithmetic.grammar "λb" {} () ∧
      result.1 = .ok none ∧
      result.2.queue = [⟨.error, ⟨0, 1⟩, "unterminated"⟩] ∧
      result.2.cursor.position = ⟨3, 1⟩ ∧
      (s.cursor.readRunIn fun ch => do
          modify (·.push ch)
          return test ch : StateM (Array (Option Char)) _).run #[] =
        (s.cursor.readRun test, #[some 'λ', some 'b', none]) := by
  intro test s result
  have hs : s.Reached Arithmetic.grammar "λb" {} () := .fresh
  obtain ⟨before, passed, rest, hrun⟩ := program_longestRun hs .ident test .start
  have hunread : s.cursor.rest.toList = ['λ', 'b'] := by decide +kernel
  have hpassed : passed = ['λ', 'b'] := by rw [hrun.passed_eq, hunread]; rfl
  have hrest : rest = [] := by rw [hrun.rest_eq, hunread]; rfl
  obtain rfl : before = [] := by
    have htext := hrun.text_eq
    rw [hunread] at htext
    simpa using congrArg List.length htext
  subst hpassed hrest
  have hresult : result = _ := hrun.exec_of_error "unterminated" rfl
  have hposition := hrun.position_of_error "unterminated" rfl
  refine ⟨hs, ?_, ?_, ?_, ?_⟩
  · rw [hresult]
  · rw [hresult]
    decide +kernel
  · rw [hresult]
    exact hposition.trans (by decide +kernel)
  · rw [hrun.readRunIn_eq (StateM (Array (Option Char))) fun ch => modify (·.push ch)]
    rfl

end Grammar

end StateLexer
