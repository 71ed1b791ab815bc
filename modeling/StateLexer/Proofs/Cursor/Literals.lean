import StateLexer.Proofs.Cursor.Bounds

/-! # Reading a literal

A literal is compared with the input character by character, on a copy of the cursor. The copy
becomes the cursor only behind the last character, so the answer is that of a comparison of bytes,
and a literal that breaks off in the middle leaves no trace. Literals in a row read as one.
-/

namespace StateLexer.Cursor
open Text

variable {input : String} {first : UInt32} {z : Zipper} {c d : Cursor} {literal front : String}
  {ch : Char}

/-- The cursors that actions lead to from the front of the input. One that was set aside and comes
back is among them. -/
inductive Reached (input : String) (first : UInt32) : Cursor → Prop
  | fresh : Reached input first (.ofInput input first)
  | perform {c : Cursor} (h : Reached input first c) (a : Action) :
      Reached input first (a.perform c).2

theorem Reached.near (h : c.Reached input first) : c.Near input first := by
  induction h with
  | fresh => exact .ofInput input first
  | perform _ a ih => exact ih.visits (.perform a _)

theorem eat_append (a b : List Char) (c : Cursor) : eat (a ++ b) c = (eat a c).bind (eat b) := by
  induction a generalizing c with
  | nil => rfl
  | cons ch a ih =>
    simp only [List.cons_append, eat]
    split
    · split
      · apply ih
      · rfl
    · rfl

theorem readLiteral_eq (literal : String) (c : Cursor) :
    c.readLiteral literal = (c.startsWith literal, (eat literal.toList c).getD c) := by
  unfold readLiteral startsWith
  cases eat literal.toList c <;> rfl

theorem readLiteral_eq_true_iff :
    (c.readLiteral literal).1 = true ↔
      eat literal.toList c = some (c.readLiteral literal).2 := by
  unfold readLiteral
  cases h : eat literal.toList c <;> simp

theorem readLiteral_append (a b : String) (c : Cursor) :
    ((c.readLiteral (a ++ b)).1 = true ↔
        (c.readLiteral a).1 = true ∧ ((c.readLiteral a).2.readLiteral b).1 = true) ∧
      ((c.readLiteral (a ++ b)).1 = true →
        (c.readLiteral (a ++ b)).2 = ((c.readLiteral a).2.readLiteral b).2) := by
  simp only [readLiteral_eq, startsWith, String.toList_append, eat_append]
  cases eat a.toList c with
  | none => simp
  | some d => cases h : eat b.toList d <;> simp [h]

/-- To take back a reading behind a literal is to read all of it but its last character, with nothing
to take back then. -/
theorem undo_readLiteral_push (h : (c.readLiteral (front.push ch)).1 = true) :
    (c.readLiteral front).1 = true ∧
      (c.readLiteral (front.push ch)).2.undo = (c.readLiteral front).2.settled := by
  rw [readLiteral_eq_true_iff, String.toList_push, eat_append] at h
  obtain ⟨d, hd, hnext⟩ := Option.bind_eq_some_iff.mp h
  have hfront : c.readLiteral front = (true, d) := by
    simp only [readLiteral, hd]
  simp only [eat] at hnext
  split at hnext
  · rename_i found next hr
    split at hnext
    · obtain ⟨-, rfl⟩ := read_eq_some_iff.mp hr
      rw [← Option.some.inj hnext, undo_past, hfront]
      exact ⟨rfl, rfl⟩
    · cases hnext
  · cases hnext

/-- The literal stands between `c` and `next`. -/
structure Passes (c : Cursor) (literal : String) (next : Cursor) : Prop where
  pos_eq : next.pos = c.pos + literal.utf8ByteSize
  line_eq : next.line.toNat = min (c.line.toNat + literal.toList.count '\n') lastLine.toNat
  startPosition_eq : next.startPosition = c.startPosition
  input_eq : next.input = c.input
  rest_eq : c.rest = literal ++ next.rest

namespace Shows

theorem readLiteral_eq_true_iff_bytes (h : c.Shows input first z) :
    (c.readLiteral literal).1 = true ↔ ∃ tail, c.rest.toUTF8 = literal.toUTF8 ++ tail := by
  obtain ⟨hyes, hno⟩ := h.eat literal.toList
  rw [exists_toUTF8_eq_append_iff, h.rest_eq, String.toList_ofList]
  constructor
  · intro hfound
    by_contra hp
    rw [readLiteral_eq_true_iff, hno hp] at hfound
    cases hfound
  · intro hp
    obtain ⟨next, heat, -⟩ := hyes hp
    simp only [Cursor.readLiteral, heat]

theorem readLiteral_passes (h : c.Shows input first z) (hfound : (c.readLiteral literal).1 = true) :
    c.Passes literal (c.readLiteral literal).2 := by
  have heat := readLiteral_eq_true_iff.mp hfound
  generalize (c.readLiteral literal).2 = next at heat
  obtain ⟨hyes, hno⟩ := h.eat literal.toList
  have hp : literal.toList <+: input.toList.drop z.index := by
    by_contra hp
    rw [hno hp] at heat
    cases heat
  obtain ⟨next', heat', hnext⟩ := hyes hp
  obtain rfl : next = next' := Option.some.inj (heat.symm.trans heat')
  obtain ⟨rest, hdrop⟩ := hp
  have htake : input.toList.take (z.index + literal.toList.length) =
      input.toList.take z.index ++ literal.toList := by
    rw [List.take_add, ← hdrop, List.take_left]
  have hrest : input.toList.drop (z.index + literal.toList.length) = rest := by
    rw [← List.drop_drop, ← hdrop, List.drop_left]
  exact
    { pos_eq := by
        rw [hnext.pos_eq, h.pos_eq, offset_add, ← hdrop, List.take_left, utf8ByteSize_eq_utf8Len]
      line_eq := by
        have hline := h.line_eq
        have hline' := hnext.line_eq
        simp only [lineAfter, freeLine, htake, List.count_append] at hline hline'
        omega
      startPosition_eq := by
        have hline : next.startLine = c.startLine :=
          UInt32.toNat_inj.mp (hnext.startLine_eq.trans h.startLine_eq.symm)
        simp only [startPosition, hnext.start_eq, h.start_eq, hline]
      input_eq := hnext.input_eq.trans h.input_eq.symm
      rest_eq := by
        rw [h.rest_eq, hnext.rest_eq, hrest, ← hdrop, String.ofList_append, String.ofList_toList] }

end Shows

/-- A literal is found exactly if the bytes that are next begin with its own, whether or not it is
read. If it is not, the cursor stays as it was. If it is, the read position moves by its bytes and the
line by its line ends, and an undo leaves just its last character unread. A text is read as one
literal exactly if its parts are in turn, and the cursor is the same then. -/
structure ReadsWhole (c : Cursor) : Prop where
  found_iff : ∀ literal : String,
    (c.readLiteral literal).1 = true ↔ ∃ tail, c.rest.toUTF8 = literal.toUTF8 ++ tail
  startsWith_eq : ∀ literal, c.startsWith literal = (c.readLiteral literal).1
  perform_startsWith : ∀ literal, ((Action.startsWith literal).perform c).2 = c
  not_found : ∀ literal, (c.readLiteral literal).1 = false → (c.readLiteral literal).2 = c
  found : ∀ literal, (c.readLiteral literal).1 = true → c.Passes literal (c.readLiteral literal).2
  undo : ∀ front ch, (c.readLiteral (front.push ch)).1 = true →
    (c.readLiteral front).1 = true ∧
      (c.readLiteral (front.push ch)).2.undo = (c.readLiteral front).2.settled ∧
      (c.readLiteral (front.push ch)).2.undo.rest =
        String.singleton ch ++ (c.readLiteral (front.push ch)).2.rest
  empty : c.readLiteral "" = (true, c)
  append_iff : ∀ a b, (c.readLiteral (a ++ b)).1 = true ↔
    (c.readLiteral a).1 = true ∧ ((c.readLiteral a).2.readLiteral b).1 = true
  append_eq : ∀ a b, (c.readLiteral (a ++ b)).1 = true →
    (c.readLiteral (a ++ b)).2 = ((c.readLiteral a).2.readLiteral b).2

theorem Shows.rest_undo_readLiteral (h : c.Shows input first z)
    (hfound : (c.readLiteral (front.push ch)).1 = true) :
    (c.readLiteral (front.push ch)).2.undo.rest =
      String.singleton ch ++ (c.readLiteral (front.push ch)).2.rest := by
  obtain ⟨hfront, hundo⟩ := undo_readLiteral_push hfound
  have hrest := (h.readLiteral_passes hfound).rest_eq
  have hrest' := (h.readLiteral_passes hfront).rest_eq
  rw [hundo]
  rw [hrest, String.push_eq_append, String.append_assoc] at hrest'
  exact (String.append_right_inj front).mp hrest'.symm

/-- Wherever actions have led a cursor, it reads a literal whole or not at all. -/
theorem Reached.readsWhole (h : c.Reached input first) : c.ReadsWhole := by
  obtain ⟨z, hz, -⟩ := h.near
  exact
    { found_iff := fun _ => hz.readLiteral_eq_true_iff_bytes
      startsWith_eq := fun literal => by rw [readLiteral_eq]
      perform_startsWith := fun _ => rfl
      not_found := fun literal hnone => by
        simp only [readLiteral_eq, startsWith, Option.isSome_eq_false_iff,
          Option.isNone_iff_eq_none] at hnone
        simp only [readLiteral_eq, hnone, Option.getD_none]
      found := fun _ hfound => hz.readLiteral_passes hfound
      undo := fun front ch hfound =>
        ⟨(undo_readLiteral_push hfound).1, (undo_readLiteral_push hfound).2,
          hz.rest_undo_readLiteral hfound⟩
      empty := rfl
      append_iff := fun a b => (readLiteral_append a b c).1
      append_eq := fun a b => (readLiteral_append a b c).2 }

/-- On the last line that is counted, a line end in a literal is read like any other character. -/
theorem Reached.readsWhole_lastLine :
    let c := (Action.read.perform (.ofInput "a\nλ" lastLine)).2
    let next := (c.readLiteral "\nλ").2
    c.Reached "a\nλ" lastLine ∧ (c.readLiteral "\nλ").1 = true ∧
      next.pos = 1 + "\nλ".utf8ByteSize ∧ next.line = lastLine ∧
      next.undo.rest = "λ" ++ next.rest := by
  intro c next
  have hc : c.Reached "a\nλ" lastLine := .perform .fresh .read
  have hwhole := Reached.readsWhole hc
  have hfound : (c.readLiteral "\nλ").1 = true := by decide +kernel
  have hplace : c.pos = 1 ∧ c.line = lastLine := by decide +kernel
  have hpasses := hwhole.found "\nλ" hfound
  obtain ⟨-, -, hundo⟩ := hwhole.undo "\n" 'λ' hfound
  refine ⟨hc, hfound, ?_, ?_, hundo⟩
  · rw [hpasses.pos_eq, hplace.1]
  · apply UInt32.toNat_inj.mp
    rw [hpasses.line_eq, hplace.2]
    omega

end StateLexer.Cursor
