import Mathlib.Logic.Relation
import StateLexer.Proofs.Cursor.Reading

/-! # A cursor stays inside its input

Everything that a cursor can be asked for comes down to three moves: to read a character, to take a
reading back and to mark the start. None of them leads out of the input or between the bytes of a
character. A mark and an undo after it leave the start of the pending token ahead of the read
position, by one character and no more, since then nothing is left to take back.
-/

namespace StateLexer
open Text

variable {input : String} {first : UInt32} {z : Zipper} {c d e : Cursor}

/-- The start is at most one character ahead of the read position, and only if nothing can be taken
back. -/
def Zipper.Near (z : Zipper) : Prop :=
  z.start ≤ z.index ∨ z.start = z.index + 1 ∧ z.undoable = false

namespace Zipper.Near

theorem read (cs : List Char) (h : z.Near) : (z.read cs).2.Near := by
  unfold Zipper.read
  split
  · left
    rcases h with hle | ⟨heq, -⟩ <;> simp only <;> omega
  · rcases h with hle | ⟨heq, -⟩
    · exact .inl hle
    · exact .inr ⟨heq, rfl⟩

theorem undo (hpos : z.undoable = true → 0 < z.index) (h : z.Near) : z.undo.Near := by
  cases hu : z.undoable with
  | false => simpa [Near, Zipper.undo, hu] using h
  | true =>
    have hindex := hpos hu
    have hle : z.start ≤ z.index := by
      rcases h with hle | ⟨-, hfalse⟩
      · exact hle
      · rw [hu] at hfalse
        cases hfalse
    simp only [Near, Zipper.undo, hu, if_true, and_true]
    omega

theorem markStart (z : Zipper) : z.markStart.Near := .inl le_rfl

end Zipper.Near

namespace Cursor

/-- `d` is one reading, one undo or one mark behind `c`. -/
def Moves (c d : Cursor) : Prop := d = c.read.2 ∨ d = c.undo ∨ d = c.markStart

def Visits : Cursor → Cursor → Prop := Relation.ReflTransGen Moves

theorem Moves.read (c : Cursor) : Moves c c.read.2 := .inl rfl

theorem Moves.undo (c : Cursor) : Moves c c.undo := .inr (.inl rfl)

theorem Moves.markStart (c : Cursor) : Moves c c.markStart := .inr (.inr rfl)

namespace Visits

theorem refl (c : Cursor) : Visits c c := Relation.ReflTransGen.refl

theorem trans (h : Visits c d) (h' : Visits d e) : Visits c e := Relation.ReflTransGen.trans h h'

theorem of_moves (h : Moves c d) : Visits c d := Relation.ReflTransGen.single h

theorem of_read {found : Option Char} (h : c.read = (found, d)) : Visits c d := by
  have hmove := Moves.read c
  rw [h] at hmove
  exact of_moves hmove

theorem of_read_undo {found : Option Char} (h : c.read = (found, d)) : Visits c d.undo :=
  (of_read h).trans (of_moves (.undo d))

theorem readMember (valid : String) (c : Cursor) : Visits c (c.readMember valid).2 := by
  unfold Cursor.readMember
  split
  · rename_i hr
    split
    · exact of_read hr
    · exact of_read_undo hr
  · rename_i hr
    exact of_read_undo hr

theorem readWhile (test : Char → Bool) (c : Cursor) : Visits c (c.readWhile test).2 := by
  induction c using Cursor.readWhile.induct test with
  | case1 c ch next hr htest ih =>
    rw [readWhile_of_some hr, if_pos htest]
    exact (of_read hr).trans ih
  | case2 c ch next hr htest =>
    rw [readWhile_of_some hr, if_neg htest]
    exact of_read_undo hr
  | case3 c next hr =>
    rw [readWhile_of_none hr]
    exact of_read_undo hr

theorem readMembers (valid : String) (c : Cursor) : Visits c (c.readMembers valid) := by
  rw [readMembers_eq_readWhile]
  exact readWhile _ c

theorem readRun (test : Option Char → Except String Bool) (c : Cursor) :
    Visits c (c.readRun test).2 := by
  induction c using Cursor.readRun.induct test with
  | case1 c ch next hr htest ih =>
    rw [readRun_of_some hr, htest]
    exact (of_read hr).trans ih
  | case2 c ch next hr htest =>
    rw [readRun_of_some hr, htest]
    exact of_read_undo hr
  | case3 c ch next hr message htest =>
    rw [readRun_of_some hr, htest]
    exact of_read hr
  | case4 c next hr b htest =>
    rw [readRun_of_none hr, htest]
    exact of_read_undo hr
  | case5 c next hr message htest =>
    rw [readRun_of_none hr, htest]
    exact of_read hr

theorem eat (literal : List Char) (h : Cursor.eat literal c = some d) : Visits c d := by
  induction literal generalizing c with
  | nil =>
    obtain rfl := Option.some.inj h
    exact refl c
  | cons ch cs ih =>
    rw [Cursor.eat] at h
    split at h
    · rename_i found next hr
      split at h
      · exact (of_read hr).trans (ih h)
      · cases h
    · cases h

theorem readLiteral (literal : String) (c : Cursor) : Visits c (c.readLiteral literal).2 := by
  unfold Cursor.readLiteral
  split
  · rename_i heat
    exact eat _ heat
  · exact refl c

theorem readBase (c : Cursor) : Visits c c.readBase.2 := by
  have hzero := readMember "0" c
  unfold Cursor.readBase
  split
  · rename_i c0 heq
    rw [heq] at hzero
    have hx := readMember "xX" c0
    split <;> rename_i hxeq <;> rw [hxeq] at hx <;> exact hzero.trans hx
  · rename_i c0 heq
    rw [heq] at hzero
    exact hzero

theorem readFraction (digits : String) (c : Cursor) : Visits c (c.readFraction digits) := by
  have hpoint := readMember "." c
  unfold Cursor.readFraction
  split <;> rename_i heq <;> rw [heq] at hpoint
  · exact hpoint.trans (readMembers _ _)
  · exact hpoint

theorem readExponent (c : Cursor) : Visits c c.readExponent := by
  have hmark := readMember "eE" c
  unfold Cursor.readExponent
  split <;> rename_i heq <;> rw [heq] at hmark
  · exact (hmark.trans (readMember _ _)).trans (readMembers _ _)
  · exact hmark

theorem readNumber (c : Cursor) : Visits c c.readNumber.2 := by
  have hbase : Visits c (c.readMember "+-").2.readBase.2 := (readMember _ _).trans (readBase _)
  have hnumber : ∀ digits, Visits c
      (((c.readMember "+-").2.readBase.2.readMembers digits).readFraction digits).readExponent :=
    fun digits => ((hbase.trans (readMembers _ _)).trans (readFraction _ _)).trans (readExponent _)
  unfold Cursor.readNumber
  simp only
  split
  · exact (hnumber _).trans (readWhile _ _)
  · exact hnumber _

theorem perform (a : Action) (c : Cursor) : Visits c (a.perform c).2 := by
  cases a with
  | read => exact of_moves (.read c)
  | undo => exact of_moves (.undo c)
  | markStart => exact of_moves (.markStart c)
  | readMember valid => exact readMember valid c
  | readMembers valid => exact readMembers valid c
  | readWhile test => exact readWhile test c
  | readRun test => exact readRun test c
  | readLiteral literal => exact readLiteral literal c
  | readNumber => exact readNumber c
  | peek | startsWith _ | rest | input | atEnd | position | startPosition => exact refl c

end Visits

theorem Shows.width_pos (h : Shows input first z c) (hu : z.undoable = true) : 0 < c.width := by
  have hindex := h.index_pos hu
  have hle := h.index_le
  have hch : input.toList[z.index - 1]? = some input.toList[z.index - 1] :=
    List.getElem?_eq_getElem (by omega)
  rw [h.width_eq, Zipper.last?, if_pos hu, hch]
  exact Char.utf8Size_pos _

/-- What the three moves and the look-ups rely on: both places of the cursor are boundaries of the
input, what an undo takes away is there, and the next character ends inside the input. -/
structure InBounds (c : Cursor) : Prop where
  pos : (suffix? c.input c.pos).isSome = true
  start : (suffix? c.input c.start).isSome = true
  width_le_pos : c.width ≤ c.pos
  line_pos : c.crossedLine = true → 0 < c.line.toNat
  fits : ∀ ch, c.peek? = some ch → c.pos + ch.utf8Size ≤ c.input.utf8ByteSize

theorem Shows.inBounds (h : Shows input first z c) : c.InBounds where
  pos := by rw [h.input_eq, h.pos_eq, suffix?_offset]; rfl
  start := by rw [h.input_eq, h.start_eq, suffix?_offset]; rfl
  width_le_pos := h.width_le_pos
  line_pos := h.line_pos
  fits _ := add_utf8Size_le_of_charAt?

/-- The cursor stands in the input with its start at most one character ahead. -/
def Near (input : String) (first : UInt32) (c : Cursor) : Prop :=
  ∃ z, Shows input first z c ∧ z.Near

namespace Near

theorem ofInput (input : String) (first : UInt32) : Near input first (.ofInput input first) :=
  ⟨_, Shows.ofInput input first, .inl le_rfl⟩

theorem moves (h : Near input first c) (hm : Moves c d) : Near input first d := by
  obtain ⟨z, hz, hnear⟩ := h
  rcases hm with rfl | rfl | rfl
  · exact ⟨_, hz.read.2, hnear.read input.toList⟩
  · exact ⟨_, hz.undo, hnear.undo hz.index_pos⟩
  · exact ⟨_, hz.markStart, .markStart z⟩

theorem visits (h : Near input first c) (hv : Visits c d) : Near input first d := by
  induction hv with
  | refl => exact h
  | tail _ hm ih => exact ih.moves hm

theorem inBounds (h : Near input first c) : c.InBounds := by
  obtain ⟨z, hz, -⟩ := h
  exact hz.inBounds

theorem start_le_pos_or (h : Near input first c) :
    c.start ≤ c.pos ∨
      (∃ ch, c.peek? = some ch ∧ c.start = c.pos + ch.utf8Size) ∧ c.width = 0 ∧
        c.crossedLine = false := by
  obtain ⟨z, hz, hle | ⟨heq, hu⟩⟩ := h
  · left
    rw [hz.start_eq, hz.pos_eq]
    exact offset_mono hle
  · right
    have hlt : z.index < input.toList.length := by
      have := hz.start_le
      omega
    have hch : input.toList[z.index]? = some input.toList[z.index] := List.getElem?_eq_getElem hlt
    refine ⟨⟨input.toList[z.index], ?_, ?_⟩, hz.record_empty hu⟩
    · rw [hz.peek?_eq, hch]
    · rw [hz.start_eq, hz.pos_eq, heq, offset_succ hch]

theorem pendingText?_eq_none_iff (h : Near input first c) :
    c.pendingText? = none ↔ c.pos < c.start := by
  obtain ⟨z, hz, -⟩ := h
  rw [hz.pendingText?_eq, hz.start_eq, hz.pos_eq, ← not_le, offset_le_iff hz.start_le]
  split_ifs with hle
  · simp [hle]
  · simp [hle]

/-- A cursor that has read on has its start ahead only if it was ahead before and nothing was read,
and then the cursor is the same. -/
theorem pos_lt_start_iff (h : Near input first c)
    (hon : ∀ {z}, Shows input first z c → Onward input first z d) (hd : Near input first d) :
    (d.pos < d.start ↔ c.pos < c.start ∧ d.pos = c.pos) ∧ (d.pos < d.start → d = c) := by
  obtain ⟨z, hz, hnear⟩ := h
  obtain ⟨n, u, hs⟩ := hon hz
  have hstart : d.start = c.start := hs.start_eq.trans hz.start_eq.symm
  have hsame : d.pos < d.start → d = c := by
    intro hlt
    have hindex : z.index + n < z.start := by
      rw [hs.pos_eq, hs.start_eq, ← not_le, offset_le_iff hz.start_le] at hlt
      exact not_le.mp hlt
    obtain ⟨hahead, hundo⟩ : z.start = z.index + 1 ∧ z.undoable = false :=
      hnear.resolve_left (by omega)
    obtain rfl : n = 0 := by omega
    -- nothing can be taken back behind the reading either, for the start is still ahead
    have hwidth : d.width = 0 := (hd.start_le_pos_or.resolve_left (not_le.mpr hlt)).2.1
    have hu : u = false := by
      by_contra hne
      have hw := hs.width_pos (by simpa using hne)
      omega
    subst hu
    rw [← hundo] at hs
    exact hs.unique hz
  refine ⟨⟨?_, ?_⟩, hsame⟩
  · intro hlt
    have heq := hsame hlt
    rw [heq] at hlt ⊢
    exact ⟨hlt, rfl⟩
  · rintro ⟨hlt, hpos⟩
    rw [hstart, hpos]
    exact hlt

end Near

end Cursor

end StateLexer
