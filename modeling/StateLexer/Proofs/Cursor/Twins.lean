import StateLexer.Proofs.Cursor.Reading

/-! # Cursors that count from different lines

Two cursors over one input are twins if they show the same zipper, each counting from a first line
of its own. Their records may differ, since near the last line the one goes on counting and the
other does not. But whatever is asked of both, they answer alike and stay twins: no action depends
on a line, and only positions tell one.
-/

namespace StateLexer.Cursor

def Twins (input : String) (a b : UInt32) (c c' : Cursor) : Prop :=
  ∃ z, c.Shows input a z ∧ c'.Shows input b z

/-- Answers are the same but for the line of a position. -/
def Action.SameButLine : (act : Action) → act.Answer → act.Answer → Prop
  | .position, p, q | .startPosition, p, q => p.offset = q.offset
  | _, x, y => x = y

namespace Twins

variable {input : String} {a b : UInt32} {c c' : Cursor}

theorem ofInput (input : String) (a b : UInt32) :
    Twins input a b (.ofInput input a) (.ofInput input b) :=
  ⟨{}, .ofInput input a, .ofInput input b⟩

variable (h : Twins input a b c c')
include h

theorem read : c.read.1 = c'.read.1 ∧ Twins input a b c.read.2 c'.read.2 := by
  obtain ⟨z, hz, hz'⟩ := h
  exact ⟨hz.read.1.trans hz'.read.1.symm, _, hz.read.2, hz'.read.2⟩

theorem undo : Twins input a b c.undo c'.undo := by
  obtain ⟨z, hz, hz'⟩ := h
  exact ⟨_, hz.undo, hz'.undo⟩

theorem markStart : Twins input a b c.markStart c'.markStart := by
  obtain ⟨z, hz, hz'⟩ := h
  exact ⟨_, hz.markStart, hz'.markStart⟩

theorem peek?_eq : c.peek? = c'.peek? := by
  obtain ⟨z, hz, hz'⟩ := h
  rw [hz.peek?_eq, hz'.peek?_eq]

theorem pendingText?_eq : c.pendingText? = c'.pendingText? := by
  obtain ⟨z, hz, hz'⟩ := h
  rw [hz.pendingText?_eq, hz'.pendingText?_eq]

theorem readMember (valid : String) :
    (c.readMember valid).1 = (c'.readMember valid).1 ∧
      Twins input a b (c.readMember valid).2 (c'.readMember valid).2 := by
  obtain ⟨z, hz, hz'⟩ := h
  obtain ⟨hanswer, hnext⟩ := hz.readMember valid
  obtain ⟨hanswer', hnext'⟩ := hz'.readMember valid
  exact ⟨hanswer.trans hanswer'.symm, _, hnext, hnext'⟩

theorem readWhile (test : Char → Bool) :
    (c.readWhile test).1 = (c'.readWhile test).1 ∧
      Twins input a b (c.readWhile test).2 (c'.readWhile test).2 := by
  obtain ⟨z, hz, hz'⟩ := h
  obtain ⟨hcount, hnext⟩ := hz.readWhile test
  obtain ⟨hcount', hnext'⟩ := hz'.readWhile test
  exact ⟨hcount.trans hcount'.symm, _, hnext, hnext'⟩

theorem readMembers (valid : String) :
    Twins input a b (c.readMembers valid) (c'.readMembers valid) := by
  rw [readMembers_eq_readWhile, readMembers_eq_readWhile]
  exact (h.readWhile _).2

theorem readRun (test : Option Char → Except String Bool) :
    (c.readRun test).1 = (c'.readRun test).1 ∧
      Twins input a b (c.readRun test).2 (c'.readRun test).2 := by
  obtain ⟨z, hz, hz'⟩ := h
  obtain ⟨hok, hrefused⟩ := hz.readRun test rfl
  obtain ⟨hok', hrefused'⟩ := hz'.readRun test rfl
  generalize runLength (passes test) (input.toList.drop z.index) = n at *
  cases htest : test input.toList[z.index + n]? with
  | ok goes =>
    obtain ⟨hanswer, hnext⟩ := hok goes htest
    obtain ⟨hanswer', hnext'⟩ := hok' goes htest
    exact ⟨hanswer.trans hanswer'.symm, _, hnext, hnext'⟩
  | error message =>
    obtain ⟨hanswer, hnext⟩ := hrefused message htest
    obtain ⟨hanswer', hnext'⟩ := hrefused' message htest
    exact ⟨hanswer.trans hanswer'.symm, _, hnext, hnext'⟩

theorem eat (literal : List Char) :
    Option.Rel (Twins input a b) (eat literal c) (eat literal c') := by
  obtain ⟨z, hz, hz'⟩ := h
  obtain ⟨hyes, hno⟩ := hz.eat literal
  obtain ⟨hyes', hno'⟩ := hz'.eat literal
  by_cases hp : literal <+: input.toList.drop z.index
  · obtain ⟨next, heat, hnext⟩ := hyes hp
    obtain ⟨next', heat', hnext'⟩ := hyes' hp
    rw [heat, heat']
    exact .some ⟨_, hnext, hnext'⟩
  · rw [hno hp, hno' hp]
    exact .none

theorem readLiteral (literal : String) :
    (c.readLiteral literal).1 = (c'.readLiteral literal).1 ∧
      Twins input a b (c.readLiteral literal).2 (c'.readLiteral literal).2 := by
  unfold Cursor.readLiteral
  have heat := h.eat literal.toList
  generalize Cursor.eat literal.toList c = r, Cursor.eat literal.toList c' = r' at heat
  cases heat with
  | some hnext => exact ⟨rfl, hnext⟩
  | none => exact ⟨rfl, h⟩

theorem startsWith_eq (literal : String) : c.startsWith literal = c'.startsWith literal := by
  unfold Cursor.startsWith
  have heat := h.eat literal.toList
  generalize Cursor.eat literal.toList c = r, Cursor.eat literal.toList c' = r' at heat
  cases heat <;> rfl

theorem readMember_cases (valid : String) :
    ∃ found next next', c.readMember valid = (found, next) ∧ c'.readMember valid = (found, next') ∧
      Twins input a b next next' := by
  obtain ⟨hanswer, hnext⟩ := h.readMember valid
  exact ⟨_, (c.readMember valid).2, (c'.readMember valid).2, rfl, Prod.ext hanswer.symm rfl, hnext⟩

theorem readBase : c.readBase.1 = c'.readBase.1 ∧ Twins input a b c.readBase.2 c'.readBase.2 := by
  obtain ⟨zero, next, next', hr, hr', hnext⟩ := h.readMember_cases "0"
  unfold Cursor.readBase
  rw [hr, hr']
  cases zero with
  | false => exact ⟨rfl, hnext⟩
  | true =>
    obtain ⟨marked, last, last', hr, hr', hlast⟩ := Twins.readMember_cases hnext "xX"
    simp only [hr, hr']
    cases marked <;> exact ⟨rfl, hlast⟩

theorem readFraction (digits : String) :
    Twins input a b (c.readFraction digits) (c'.readFraction digits) := by
  obtain ⟨point, next, next', hr, hr', hnext⟩ := h.readMember_cases "."
  unfold Cursor.readFraction
  rw [hr, hr']
  cases point with
  | false => exact hnext
  | true => exact Twins.readMembers hnext digits

theorem readExponent : Twins input a b c.readExponent c'.readExponent := by
  obtain ⟨marked, next, next', hr, hr', hnext⟩ := h.readMember_cases "eE"
  unfold Cursor.readExponent
  rw [hr, hr']
  cases marked with
  | false => exact hnext
  | true => exact (Twins.readMember hnext "+-").2.readMembers decimalDigits

theorem readNumber :
    c.readNumber.1 = c'.readNumber.1 ∧ Twins input a b c.readNumber.2 c'.readNumber.2 := by
  have hsign := (h.readMember "+-").2
  unfold Cursor.readNumber
  generalize (c.readMember "+-").2 = s, (c'.readMember "+-").2 = s' at hsign ⊢
  obtain ⟨hdigits, hbase⟩ := Twins.readBase hsign
  cases hr : s.readBase with
  | mk digits next =>
    cases hr' : s'.readBase with
    | mk digits' next' =>
      rw [hr, hr'] at hdigits hbase
      obtain rfl : digits = digits' := hdigits
      have hparts : Twins input a b ((next.readMembers digits).readFraction digits).readExponent
          ((next'.readMembers digits).readFraction digits).readExponent :=
        ((Twins.readMembers hbase digits).readFraction digits).readExponent
      simp only [← hparts.peek?_eq]
      split
      · exact ⟨rfl, (hparts.readWhile _).2⟩
      · exact ⟨rfl, hparts⟩

/-- Whatever twins are asked, they answer alike and stay twins. -/
theorem perform (act : Action) :
    act.SameButLine (act.perform c).1 (act.perform c').1 ∧
      Twins input a b (act.perform c).2 (act.perform c').2 := by
  cases act with
  | read => exact h.read
  | undo => exact ⟨rfl, h.undo⟩
  | peek => exact ⟨h.peek?_eq, h⟩
  | markStart => exact ⟨rfl, h.markStart⟩
  | readMember valid => exact h.readMember valid
  | readMembers valid => exact ⟨rfl, h.readMembers valid⟩
  | readWhile test => exact h.readWhile test
  | readRun test => exact h.readRun test
  | readLiteral literal => exact h.readLiteral literal
  | startsWith literal => exact ⟨h.startsWith_eq literal, h⟩
  | readNumber => exact h.readNumber
  | rest =>
    obtain ⟨z, hz, hz'⟩ := h
    exact ⟨hz.rest_eq.trans hz'.rest_eq.symm, z, hz, hz'⟩
  | input =>
    obtain ⟨z, hz, hz'⟩ := h
    exact ⟨hz.input_eq.trans hz'.input_eq.symm, z, hz, hz'⟩
  | atEnd =>
    obtain ⟨z, hz, hz'⟩ := h
    exact ⟨Bool.eq_iff_iff.mpr (hz.atEnd_iff.trans hz'.atEnd_iff.symm), z, hz, hz'⟩
  | position =>
    obtain ⟨z, hz, hz'⟩ := h
    exact ⟨hz.pos_eq.trans hz'.pos_eq.symm, z, hz, hz'⟩
  | startPosition =>
    obtain ⟨z, hz, hz'⟩ := h
    exact ⟨hz.start_eq.trans hz'.start_eq.symm, z, hz, hz'⟩

end Twins

end StateLexer.Cursor
