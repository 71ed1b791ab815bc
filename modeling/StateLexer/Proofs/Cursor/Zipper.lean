import Mathlib.Data.List.Forall2
import StateLexer.Cursor.Basic
import StateLexer.Proofs.Text.Prefix

/-! # Cursors as zippers over characters

A cursor counts bytes and lines as it goes and keeps a record of one reading. A zipper only knows
how many characters lie before the read position, how many before the pending token, and whether
the last reading may be taken back. The main statement says that a cursor does what its zipper does
in every session, copies that were set aside included, and that the numbers of the cursor are
functions of the zipper and the input.
-/

namespace StateLexer
open Text

/-- A read position among the characters of an input, counted in characters. -/
structure Zipper where
  index : ℕ := 0
  start : ℕ := 0
  undoable : Bool := false
  deriving DecidableEq, Repr

namespace Zipper

def read (cs : List Char) (z : Zipper) : Option Char × Zipper :=
  match cs[z.index]? with
  | some ch => (some ch, { z with index := z.index + 1, undoable := true })
  | none => (none, { z with undoable := false })

def undo (z : Zipper) : Zipper :=
  { z with index := if z.undoable then z.index - 1 else z.index, undoable := false }

def markStart (z : Zipper) : Zipper := { z with start := z.index }

def last? (cs : List Char) (z : Zipper) : Option Char :=
  if z.undoable then cs[z.index - 1]? else none

end Zipper

namespace Cursor

/-- The line of a place with the characters `cs` before it, if lines never stopped counting. -/
def freeLine (first : UInt32) (cs : List Char) : ℕ := first.toNat + cs.count '\n'

/-- The line of a place with the characters `cs` before it. -/
def lineAfter (first : UInt32) (cs : List Char) : ℕ := min (freeLine first cs) lastLine.toNat

/-- The cursor `c` over `input` stands where `z` stands, and keeps the record that `z` allows. -/
structure Shows (input : String) (first : UInt32) (z : Zipper) (c : Cursor) : Prop where
  input_eq : c.input = input
  index_le : z.index ≤ input.toList.length
  start_le : z.start ≤ input.toList.length
  index_pos : z.undoable = true → 0 < z.index
  pos_eq : c.pos = offset input.toList z.index
  line_eq : c.line.toNat = lineAfter first (input.toList.take z.index)
  start_eq : c.start = offset input.toList z.start
  startLine_eq : c.startLine.toNat = lineAfter first (input.toList.take z.start)
  width_eq : c.width = (z.last? input.toList).elim 0 Char.utf8Size
  crossedLine_iff : c.crossedLine = true ↔ z.last? input.toList = some '\n' ∧
    freeLine first (input.toList.take z.index) ≤ lastLine.toNat

variable {input : String} {first : UInt32} {z : Zipper} {c : Cursor} {cs : List Char} {i : ℕ}
  {ch : Char}

theorem lastLine_toNat : lastLine.toNat = 4294967295 := rfl

theorem freeLine_succ (first : UInt32) (h : cs[i]? = some ch) :
    freeLine first (cs.take (i + 1)) =
      freeLine first (cs.take i) + if ch = '\n' then 1 else 0 := by
  simp only [freeLine, List.take_add_one, h, Option.toList_some, List.count_append,
    List.count_singleton, beq_iff_eq]
  omega

theorem crosses_iff (hl : c.line.toNat = lineAfter first (cs.take i)) (h : cs[i]? = some ch) :
    c.crosses ch = true ↔
      ch = '\n' ∧ freeLine first (cs.take (i + 1)) ≤ lastLine.toNat := by
  have hs := freeLine_succ first h
  have hne : c.line ≠ lastLine ↔ c.line.toNat ≠ lastLine.toNat := UInt32.toNat_inj.not.symm
  simp only [crosses, Bool.decide_and, Bool.and_eq_true, decide_eq_true_eq, hne, hl, lineAfter]
  constructor
  · rintro ⟨rfl, hlt⟩
    simp only [↓reduceIte] at hs
    exact ⟨rfl, by omega⟩
  · rintro ⟨rfl, hle⟩
    simp only [↓reduceIte] at hs
    exact ⟨rfl, by omega⟩

theorem toNat_line_add_one (h : c.line.toNat < lastLine.toNat) :
    (c.line + 1).toNat = c.line.toNat + 1 := by
  rw [lastLine_toNat] at h
  rw [UInt32.toNat_add]
  simp only [UInt32.toNat_one]
  omega

theorem toNat_line_sub_one (h : 0 < c.line.toNat) : (c.line - 1).toNat = c.line.toNat - 1 :=
  UInt32.toNat_sub_of_le _ _ (by rw [UInt32.le_iff_toNat_le, UInt32.toNat_one]; omega)

namespace Shows

theorem ofInput (input : String) (first : UInt32) :
    Shows input first {} (.ofInput input first) := by
  have hline : first.toNat = lineAfter first [] := by
    have := first.toNat_lt
    simp only [lineAfter, freeLine, List.count_nil, lastLine_toNat]
    omega
  exact ⟨rfl, Nat.zero_le _, Nat.zero_le _, nofun, rfl, hline, rfl, hline, rfl,
    by simp [Cursor.ofInput, Zipper.last?]⟩

theorem peek?_eq (h : Shows input first z c) : c.peek? = input.toList[z.index]? := by
  rw [peek?, h.input_eq, h.pos_eq, charAt?_offset]

theorem rest_eq (h : Shows input first z c) :
    c.rest = String.ofList (input.toList.drop z.index) := by
  rw [rest, h.input_eq, h.pos_eq, suffix?_offset, Option.getD_some]

theorem atEnd_iff (h : Shows input first z c) :
    c.atEnd = true ↔ z.index = input.toList.length := by
  rw [atEnd, decide_eq_true_eq, h.input_eq, h.pos_eq, ← offset_length, offset_le_iff le_rfl]
  have := h.index_le
  omega

theorem pendingText?_eq (h : Shows input first z c) :
    c.pendingText? =
      if z.start ≤ z.index then some (String.ofList ((input.toList.take z.index).drop z.start))
      else none := by
  rw [pendingText?, h.input_eq, h.start_eq, h.pos_eq]
  split_ifs with hle
  · exact slice?_offset input hle
  · exact slice?_eq_none (offset_lt (not_le.mp hle) (by have := h.start_le; omega))

theorem settled (h : Shows input first z c) :
    Shows input first { z with undoable := false } c.settled where
  input_eq := h.input_eq
  index_le := h.index_le
  start_le := h.start_le
  index_pos := nofun
  pos_eq := h.pos_eq
  line_eq := h.line_eq
  start_eq := h.start_eq
  startLine_eq := h.startLine_eq
  width_eq := rfl
  crossedLine_iff := by simp [Cursor.settled, Zipper.last?]

theorem past (h : Shows input first z c) (hch : input.toList[z.index]? = some ch) :
    Shows input first { z with index := z.index + 1, undoable := true } (c.past ch) where
  input_eq := h.input_eq
  index_le := (List.getElem?_eq_some_iff.mp hch).1
  start_le := h.start_le
  index_pos _ := Nat.succ_pos _
  pos_eq := by
    rw [offset_succ hch, ← h.pos_eq]
    rfl
  line_eq := by
    have hc := crosses_iff h.line_eq hch
    have hs := freeLine_succ first hch
    have hl := h.line_eq
    simp only [Cursor.past, lineAfter] at hl ⊢
    by_cases hx : c.crosses ch = true
    · obtain ⟨rfl, hle⟩ := hc.mp hx
      simp only [↓reduceIte] at hs
      rw [if_pos hx, toNat_line_add_one (by omega)]
      omega
    · rw [if_neg hx]
      rw [hc] at hx
      by_cases hnl : ch = '\n'
      · simp only [hnl, ↓reduceIte, true_and] at hs hx
        omega
      · simp only [hnl, ↓reduceIte] at hs
        omega
  start_eq := h.start_eq
  startLine_eq := h.startLine_eq
  width_eq := by simp [Cursor.past, Zipper.last?, hch]
  crossedLine_iff := by
    rw [show (c.past ch).crossedLine = c.crosses ch from rfl, crosses_iff h.line_eq hch]
    simp [Zipper.last?, hch]

theorem read (h : Shows input first z c) :
    c.read.1 = (z.read input.toList).1 ∧ Shows input first (z.read input.toList).2 c.read.2 := by
  unfold Cursor.read Zipper.read
  rw [h.peek?_eq]
  cases hch : input.toList[z.index]? with
  | some ch => exact ⟨rfl, h.past hch⟩
  | none => exact ⟨rfl, h.settled⟩

theorem markStart (h : Shows input first z c) : Shows input first z.markStart c.markStart :=
  { h with
    start_le := h.index_le
    start_eq := h.pos_eq
    startLine_eq := h.line_eq }

theorem record_empty (h : Shows input first z c) (hu : z.undoable = false) :
    c.width = 0 ∧ c.crossedLine = false := by
  have hlast : z.last? input.toList = none := by simp [Zipper.last?, hu]
  have hwidth := h.width_eq
  have hcrossed := h.crossedLine_iff
  rw [hlast] at hwidth hcrossed
  exact ⟨hwidth, by simpa using hcrossed⟩

theorem undo_eq_settled (h : Shows input first z c) (hu : z.undoable = false) :
    c.undo = c.settled := by
  obtain ⟨hwidth, hcrossed⟩ := h.record_empty hu
  simp [Cursor.undo, Cursor.settled, hwidth, hcrossed]

theorem undo (h : Shows input first z c) : Shows input first z.undo c.undo := by
  cases hu : z.undoable with
  | false =>
    rw [h.undo_eq_settled hu]
    simpa [Zipper.undo, hu] using h.settled
  | true =>
    have hle := h.index_le
    obtain ⟨i, hi⟩ : ∃ i, z.index = i + 1 := Nat.exists_eq_succ_of_ne_zero (h.index_pos hu).ne'
    obtain ⟨ch, hch⟩ : ∃ ch, input.toList[i]? = some ch := ⟨_, List.getElem?_eq_getElem (by omega)⟩
    have hlast : z.last? input.toList = some ch := by simp [Zipper.last?, hu, hi, hch]
    have hw := h.width_eq
    have hc := h.crossedLine_iff
    have hs := freeLine_succ first hch
    have hl := h.line_eq
    rw [hlast] at hw hc
    simp only [hi, Option.elim_some, Option.some.injEq, lineAfter] at hw hc hl
    refine { h with
      index_le := ?_, index_pos := nofun, pos_eq := ?_, line_eq := ?_, width_eq := rfl,
      crossedLine_iff := by simp [Cursor.undo, Zipper.undo, Zipper.last?] }
    all_goals simp only [Zipper.undo, hu, hi, ↓reduceIte, Nat.add_sub_cancel]
    · omega
    · rw [Cursor.undo, h.pos_eq, hi, hw, offset_succ hch, Nat.add_sub_cancel]
    · simp only [Cursor.undo, lineAfter]
      -- the line went up exactly if the record says so
      by_cases hx : c.crossedLine = true
      · obtain ⟨rfl, hfree⟩ := hc.mp hx
        simp only [↓reduceIte] at hs
        rw [if_pos hx, toNat_line_sub_one (by omega)]
        omega
      · rw [if_neg hx]
        rw [hc] at hx
        by_cases hnl : ch = '\n'
        · simp only [hnl, ↓reduceIte, true_and] at hs hx
          omega
        · simp only [hnl, ↓reduceIte] at hs
          omega

theorem width_le_pos (h : Shows input first z c) : c.width ≤ c.pos := by
  have hw := h.width_eq
  cases hu : z.undoable with
  | false =>
    have hwidth := (h.record_empty hu).1
    omega
  | true =>
    have hle := h.index_le
    obtain ⟨i, hi⟩ : ∃ i, z.index = i + 1 := Nat.exists_eq_succ_of_ne_zero (h.index_pos hu).ne'
    obtain ⟨ch, hch⟩ : ∃ ch, input.toList[i]? = some ch := ⟨_, List.getElem?_eq_getElem (by omega)⟩
    simp only [Zipper.last?, hu, hi, ↓reduceIte, Nat.add_sub_cancel, hch, Option.elim_some] at hw
    rw [h.pos_eq, hi, offset_succ hch]
    omega

theorem line_pos (h : Shows input first z c) (hc : c.crossedLine = true) : 0 < c.line.toNat := by
  obtain ⟨hlast, hfree⟩ := h.crossedLine_iff.mp hc
  simp only [Zipper.last?] at hlast
  split at hlast
  · rename_i hu
    obtain ⟨i, hi⟩ : ∃ i, z.index = i + 1 := Nat.exists_eq_succ_of_ne_zero (h.index_pos hu).ne'
    rw [hi, Nat.add_sub_cancel] at hlast
    have hs := freeLine_succ first hlast
    have hl := h.line_eq
    rw [hi] at hl hfree
    simp only [↓reduceIte, lineAfter] at hs hl
    omega
  · cases hlast

theorem unique {c' : Cursor} (h : Shows input first z c) (h' : Shows input first z c') : c = c' := by
  have hline : c.line = c'.line := UInt32.toNat_inj.mp (h.line_eq.trans h'.line_eq.symm)
  have hstart : c.startLine = c'.startLine :=
    UInt32.toNat_inj.mp (h.startLine_eq.trans h'.startLine_eq.symm)
  have hcross : c.crossedLine = c'.crossedLine :=
    Bool.eq_iff_iff.mpr (h.crossedLine_iff.trans h'.crossedLine_iff.symm)
  cases c
  cases c'
  simp only [Cursor.mk.injEq]
  exact ⟨h.input_eq.trans h'.input_eq.symm, h.pos_eq.trans h'.pos_eq.symm, hline,
    h.start_eq.trans h'.start_eq.symm, hstart, h.width_eq.trans h'.width_eq.symm, hcross⟩

end Shows

end Cursor

/-- What can be done with a cursor and its copies. A pending span is skipped by `markStart`. -/
inductive Move where
  | read
  | undo
  | markStart
  | save
  | restore (mark : ℕ)
  deriving DecidableEq, Repr

structure Reader (α : Type) where
  read : α → Option Char × α
  undo : α → α
  markStart : α → α

def Cursor.reader : Reader Cursor := ⟨Cursor.read, Cursor.undo, Cursor.markStart⟩

def Zipper.reader (cs : List Char) : Reader Zipper := ⟨Zipper.read cs, Zipper.undo, Zipper.markStart⟩

/-- A reader with the copies that were set aside, the oldest first. -/
structure Session (α : Type) where
  current : α
  saved : List α := []

namespace Session

variable {α : Type} {input : String} {first : UInt32}

/-- The character that a move answers with, and the session after it. A copy that was never set
aside cannot be restored. -/
def perform (r : Reader α) (s : Session α) : Move → Option Char × Session α
  | .read => ((r.read s.current).1, { s with current := (r.read s.current).2 })
  | .undo => (none, { s with current := r.undo s.current })
  | .markStart => (none, { s with current := r.markStart s.current })
  | .save => (none, { s with saved := s.saved ++ [s.current] })
  | .restore mark => (none, { s with current := s.saved[mark]?.getD s.current })

def run (r : Reader α) : List Move → Session α → List (Option Char) × Session α
  | [], s => ([], s)
  | m :: ms, s =>
    let next := s.perform r m
    let rest := run r ms next.2
    (next.1 :: rest.1, rest.2)

/-- Cursors show zippers, copy by copy. -/
structure Shows (input : String) (first : UInt32) (a : Session Zipper) (s : Session Cursor) :
    Prop where
  current : s.current.Shows input first a.current
  saved : List.Forall₂ (Cursor.Shows input first) a.saved s.saved

theorem Shows.perform {a : Session Zipper} {s : Session Cursor} (h : Shows input first a s)
    (m : Move) :
    (s.perform Cursor.reader m).1 = (a.perform (Zipper.reader input.toList) m).1 ∧
      Shows input first (a.perform (Zipper.reader input.toList) m).2
        (s.perform Cursor.reader m).2 := by
  cases m with
  | read => exact ⟨h.current.read.1, h.current.read.2, h.saved⟩
  | undo => exact ⟨rfl, h.current.undo, h.saved⟩
  | markStart => exact ⟨rfl, h.current.markStart, h.saved⟩
  | save =>
    refine ⟨rfl, h.current, ?_⟩
    exact List.rel_append h.saved (List.Forall₂.cons h.current List.Forall₂.nil)
  | restore mark =>
    refine ⟨rfl, ?_, h.saved⟩
    have hsize := h.saved.length_eq
    simp only [Session.perform]
    by_cases hm : mark < a.saved.length
    · have hget := (List.forall₂_iff_get.mp h.saved).2 mark hm (by omega)
      simpa [List.getElem?_eq_getElem hm, List.getElem?_eq_getElem (hsize ▸ hm)] using hget
    · rw [List.getElem?_eq_none (by omega), List.getElem?_eq_none (by omega)]
      exact h.current

theorem Shows.run {a : Session Zipper} {s : Session Cursor} (h : Shows input first a s)
    (moves : List Move) :
    (run Cursor.reader moves s).1 = (run (Zipper.reader input.toList) moves a).1 ∧
      Shows input first (run (Zipper.reader input.toList) moves a).2
        (run Cursor.reader moves s).2 := by
  induction moves generalizing a s with
  | nil => exact ⟨rfl, h⟩
  | cons m ms ih =>
    obtain ⟨hanswer, hnext⟩ := h.perform m
    obtain ⟨hrest, hend⟩ := ih hnext
    simp only [Session.run]
    exact ⟨by rw [hanswer, hrest], hend⟩

/-- The cursors answer like their zippers and show them, copy by copy. What is looked up from the
current cursor is what its zipper finds among the characters. -/
structure Mirrors (input : String) (first : UInt32) (zippers : List (Option Char) × Session Zipper)
    (cursors : List (Option Char) × Session Cursor) : Prop where
  answers_eq : cursors.1 = zippers.1
  current : cursors.2.current.Shows input first zippers.2.current
  saved : List.Forall₂ (Cursor.Shows input first) zippers.2.saved cursors.2.saved
  peek?_eq : cursors.2.current.peek? = input.toList[zippers.2.current.index]?
  rest_eq : cursors.2.current.rest = String.ofList (input.toList.drop zippers.2.current.index)
  atEnd_iff : cursors.2.current.atEnd = true ↔ zippers.2.current.index = input.toList.length
  pendingText?_eq : cursors.2.current.pendingText? =
    if zippers.2.current.start ≤ zippers.2.current.index then
      some (String.ofList
        ((input.toList.take zippers.2.current.index).drop zippers.2.current.start))
    else none

/-- In every session over any input, cursors mirror zippers. -/
theorem run_mirrors (input : String) (first : UInt32) (moves : List Move) :
    Mirrors input first (run (Zipper.reader input.toList) moves { current := {} })
      (run Cursor.reader moves { current := .ofInput input first }) := by
  have hstart : Shows input first { current := {} } { current := .ofInput input first } :=
    ⟨Cursor.Shows.ofInput input first, List.Forall₂.nil⟩
  obtain ⟨hanswers, hend⟩ := hstart.run moves
  exact
    { answers_eq := hanswers
      current := hend.current
      saved := hend.saved
      peek?_eq := hend.current.peek?_eq
      rest_eq := hend.current.rest_eq
      atEnd_iff := hend.current.atEnd_iff
      pendingText?_eq := hend.current.pendingText?_eq }

end Session

end StateLexer
