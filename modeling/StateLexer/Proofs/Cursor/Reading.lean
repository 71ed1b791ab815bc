import StateLexer.Cursor.Action
import StateLexer.Proofs.Cursor.Zipper

/-! # What the reading operations do to the zipper

One statement for each operation, in terms of the characters that are still unread. Every one of
them leaves the start of the pending token alone and ends at or behind the read position it began
at; `Onward` keeps just that.
-/

namespace StateLexer.Cursor
open Text

variable {input : String} {first : UInt32} {z : Zipper} {c : Cursor}

/-- How many unread characters pass `test` before the first that does not. -/
def runLength (test : Char → Bool) (cs : List Char) : ℕ := (cs.takeWhile test).length

@[simp] theorem runLength_nil (test : Char → Bool) : runLength test [] = 0 := rfl

theorem runLength_cons (test : Char → Bool) (ch : Char) (cs : List Char) :
    runLength test (ch :: cs) = if test ch then runLength test cs + 1 else 0 := by
  cases h : test ch <;> simp [runLength, h]

theorem drop_eq_cons {cs : List Char} {i : ℕ} {ch : Char} (h : cs[i]? = some ch) :
    cs.drop i = ch :: cs.drop (i + 1) := by
  obtain ⟨hi, rfl⟩ := List.getElem?_eq_some_iff.mp h
  exact List.drop_eq_getElem_cons hi

theorem drop_eq_nil {cs : List Char} {i : ℕ} (h : cs[i]? = none) : cs.drop i = [] :=
  List.drop_eq_nil_of_le (List.getElem?_eq_none_iff.mp h)

theorem readWhile_of_some {test : Char → Bool} {next : Cursor} {ch : Char}
    (hr : c.read = (some ch, next)) :
    c.readWhile test =
      if test ch then ((next.readWhile test).1 + 1, (next.readWhile test).2)
      else (0, next.undo) := by
  rw [Cursor.readWhile]
  split <;> simp_all

theorem readWhile_of_none {test : Char → Bool} {next : Cursor} (hr : c.read = (none, next)) :
    c.readWhile test = (0, next.undo) := by
  rw [Cursor.readWhile]
  split <;> simp_all

theorem readRun_of_some {test : Option Char → Except String Bool} {next : Cursor} {ch : Char}
    (hr : c.read = (some ch, next)) :
    c.readRun test =
      match test (some ch) with
      | .ok true => next.readRun test
      | .ok false => (.ok (), next.undo)
      | .error message => (.error message, next) := by
  rw [Cursor.readRun]
  split
  · rename_i hr'
    obtain ⟨rfl, rfl⟩ : _ = ch ∧ _ = next := by simpa [hr] using hr'.symm
    rfl
  · simp_all

theorem readRun_of_none {test : Option Char → Except String Bool} {next : Cursor}
    (hr : c.read = (none, next)) :
    c.readRun test =
      match test none with
      | .ok _ => (.ok (), next.undo)
      | .error message => (.error message, next) := by
  rw [Cursor.readRun]
  split
  · simp_all
  · rename_i hr'
    obtain rfl : _ = next := by simpa [hr] using hr'.symm
    rfl

def passes (test : Option Char → Except String Bool) (ch : Char) : Bool :=
  match test (some ch) with
  | .ok b => b
  | .error _ => false

theorem readMembers_eq_readWhile (valid : String) (c : Cursor) :
    c.readMembers valid = (c.readWhile (isMember valid)).2 := by
  fun_induction Cursor.readMembers valid c with
  | case1 c ch next hr hm ih => rw [readWhile_of_some hr, if_pos hm, ih]
  | case2 c ch next hr hm => rw [readWhile_of_some hr, if_neg hm]
  | case3 c next hr => rw [readWhile_of_none hr]

namespace Shows

theorem of_read {found : Option Char} {next : Cursor} (h : Shows input first z c)
    (hr : c.read = (found, next)) :
    found = input.toList[z.index]? ∧
      Shows input first { z with undoable := false } next.undo ∧
      (found.isSome = true →
        Shows input first { z with index := z.index + 1, undoable := true } next) := by
  cases found with
  | some ch =>
    obtain ⟨hpeek, rfl⟩ := read_eq_some_iff.mp hr
    rw [h.peek?_eq] at hpeek
    refine ⟨hpeek.symm, ?_, fun _ => h.past hpeek⟩
    rw [undo_past]
    exact h.settled
  | none =>
    obtain ⟨hpeek, rfl⟩ := read_eq_none_iff.mp hr
    rw [h.peek?_eq] at hpeek
    refine ⟨hpeek.symm, ?_, nofun⟩
    rw [undo_settled]
    exact h.settled

theorem readMember (h : Shows input first z c) (valid : String) :
    (c.readMember valid).1 = (input.toList[z.index]?).any (isMember valid) ∧
      Shows input first
        (if (input.toList[z.index]?).any (isMember valid) then
          { z with index := z.index + 1, undoable := true }
        else { z with undoable := false })
        (c.readMember valid).2 := by
  unfold Cursor.readMember
  split
  · rename_i ch next hr
    obtain ⟨hfound, hundo, hnext⟩ := h.of_read hr
    rw [← hfound]
    cases hm : isMember valid ch with
    | true => simpa [hm] using hnext rfl
    | false => simpa [hm] using hundo
  · rename_i next hr
    obtain ⟨hfound, hundo, -⟩ := h.of_read hr
    rw [← hfound]
    simpa using hundo

theorem readWhile (h : Shows input first z c) (test : Char → Bool) :
    (c.readWhile test).1 = runLength test (input.toList.drop z.index) ∧
      Shows input first
        { z with
          index := z.index + runLength test (input.toList.drop z.index), undoable := false }
        (c.readWhile test).2 := by
  induction c using Cursor.readWhile.induct test generalizing z with
  | case1 c ch next hr htest ih =>
    obtain ⟨hfound, -, hnext⟩ := h.of_read hr
    obtain ⟨hcount, hend⟩ := ih (hnext rfl)
    have hlen : runLength test (input.toList.drop z.index) =
        runLength test (input.toList.drop (z.index + 1)) + 1 := by
      rw [drop_eq_cons hfound.symm, runLength_cons, if_pos htest]
    rw [readWhile_of_some hr, if_pos htest, hlen]
    refine ⟨by rw [hcount], ?_⟩
    rw [Nat.add_comm _ 1, ← Nat.add_assoc]
    exact hend
  | case2 c ch next hr htest =>
    obtain ⟨hfound, hundo, -⟩ := h.of_read hr
    rw [readWhile_of_some hr, if_neg htest, drop_eq_cons hfound.symm, runLength_cons, if_neg htest]
    exact ⟨rfl, hundo⟩
  | case3 c next hr =>
    obtain ⟨hfound, hundo, -⟩ := h.of_read hr
    rw [readWhile_of_none hr, drop_eq_nil hfound.symm]
    exact ⟨rfl, hundo⟩

/-- A run reads the characters that pass. Then it asks the test about what comes next, which stays
unread unless it is refused. -/
theorem readRun (h : Shows input first z c) (test : Option Char → Except String Bool) {n : ℕ}
    (hn : z.index + runLength (passes test) (input.toList.drop z.index) = n) :
    (∀ b, test input.toList[n]? = .ok b →
      (c.readRun test).1 = .ok () ∧
        Shows input first { z with index := n, undoable := false } (c.readRun test).2) ∧
    (∀ message, test input.toList[n]? = .error message →
      (c.readRun test).1 = .error message ∧
        Shows input first (Zipper.read input.toList { z with index := n, undoable := false }).2
          (c.readRun test).2) := by
  induction c using Cursor.readRun.induct test generalizing z with
  | case1 c ch next hr htest ih =>
    obtain ⟨hfound, -, hnext⟩ := h.of_read hr
    have hpass : passes test ch = true := by simp [passes, htest]
    rw [drop_eq_cons hfound.symm, runLength_cons, if_pos hpass] at hn
    rw [readRun_of_some hr, htest]
    have hrest := ih (hnext rfl) (by simp only; omega)
    exact hrest
  | case2 c ch next hr htest =>
    obtain ⟨hfound, hundo, -⟩ := h.of_read hr
    have hpass : ¬ passes test ch = true := by simp [passes, htest]
    rw [drop_eq_cons hfound.symm, runLength_cons, if_neg hpass, Nat.add_zero] at hn
    subst hn
    rw [readRun_of_some hr, ← hfound, htest]
    exact ⟨fun _ _ => ⟨rfl, hundo⟩, nofun⟩
  | case3 c ch next hr message htest =>
    obtain ⟨hfound, -, hnext⟩ := h.of_read hr
    have hpass : ¬ passes test ch = true := by simp [passes, htest]
    rw [drop_eq_cons hfound.symm, runLength_cons, if_neg hpass, Nat.add_zero] at hn
    subst hn
    rw [readRun_of_some hr, ← hfound, htest]
    refine ⟨nofun, fun m hm => ⟨by simpa using hm, ?_⟩⟩
    simpa [Zipper.read, ← hfound] using hnext rfl
  | case4 c next hr b htest =>
    obtain ⟨hfound, hundo, -⟩ := h.of_read hr
    rw [drop_eq_nil hfound.symm, runLength_nil, Nat.add_zero] at hn
    subst hn
    rw [readRun_of_none hr, ← hfound, htest]
    exact ⟨fun _ _ => ⟨rfl, hundo⟩, nofun⟩
  | case5 c next hr message htest =>
    obtain ⟨hfound, -, -⟩ := h.of_read hr
    have hread := h.read.2
    rw [drop_eq_nil hfound.symm, runLength_nil, Nat.add_zero] at hn
    subst hn
    rw [readRun_of_none hr, ← hfound, htest]
    refine ⟨nofun, fun m hm => ⟨by simpa using hm, ?_⟩⟩
    simpa [Zipper.read, ← hfound, hr] using hread

theorem eat (h : Shows input first z c) (literal : List Char) :
    (literal <+: input.toList.drop z.index →
      ∃ next, Cursor.eat literal c = some next ∧
        Shows input first
          { z with
            index := z.index + literal.length, undoable := z.undoable || !literal.isEmpty }
          next) ∧
    (¬ literal <+: input.toList.drop z.index → Cursor.eat literal c = none) := by
  induction literal generalizing z c with
  | nil => exact ⟨fun _ => ⟨c, rfl, by simpa using h⟩, fun hn => absurd (List.nil_prefix) hn⟩
  | cons ch cs ih =>
    cases hr : c.read with
    | mk found next =>
      obtain ⟨hfound, -, hnext⟩ := h.of_read hr
      cases found with
      | none => simp [Cursor.eat, hr, drop_eq_nil hfound.symm]
      | some ch' =>
        rw [drop_eq_cons hfound.symm, List.cons_prefix_cons]
        by_cases heq : ch' = ch
        · obtain ⟨hyes, hno⟩ := ih (hnext rfl)
          simp only [Cursor.eat, hr, heq, true_and]
          refine ⟨fun hp => ?_, hno⟩
          obtain ⟨last, heat, hlast⟩ := hyes hp
          refine ⟨last, heat, ?_⟩
          simpa [Nat.add_assoc, Nat.add_comm 1] using hlast
        · simp [Cursor.eat, hr, heq, Ne.symm heq]

end Shows

/-- `c` is over the input of `z` with the same pending token, at or behind the read position. -/
def Onward (input : String) (first : UInt32) (z : Zipper) (c : Cursor) : Prop :=
  ∃ n undoable, Shows input first { z with index := z.index + n, undoable } c

theorem Shows.onward (h : Shows input first z c) : Onward input first z c := ⟨0, z.undoable, h⟩

theorem Onward.trans {c' : Cursor} (h : Onward input first z c)
    (hnext : ∀ {z}, Shows input first z c → Onward input first z c') :
    Onward input first z c' := by
  obtain ⟨n, u, hs⟩ := h
  obtain ⟨m, v, ht⟩ := hnext hs
  refine ⟨n + m, v, ?_⟩
  simpa [Nat.add_assoc] using ht

namespace Shows

theorem read_onward (h : Shows input first z c) : Onward input first z c.read.2 := by
  have hread := h.read.2
  unfold Zipper.read at hread
  split at hread
  · exact ⟨1, true, hread⟩
  · exact ⟨0, false, hread⟩

theorem readMember_onward (h : Shows input first z c) (valid : String) :
    Onward input first z (c.readMember valid).2 := by
  have hread := (h.readMember valid).2
  split at hread
  · exact ⟨1, true, hread⟩
  · exact ⟨0, false, hread⟩

theorem readWhile_onward (h : Shows input first z c) (test : Char → Bool) :
    Onward input first z (c.readWhile test).2 := ⟨_, false, (h.readWhile test).2⟩

theorem readMembers_onward (h : Shows input first z c) (valid : String) :
    Onward input first z (c.readMembers valid) := by
  rw [readMembers_eq_readWhile]
  exact h.readWhile_onward _

theorem readRun_onward (h : Shows input first z c) (test : Option Char → Except String Bool) :
    Onward input first z (c.readRun test).2 := by
  obtain ⟨hok, herror⟩ := h.readRun test rfl
  cases ht : test input.toList[z.index + runLength (passes test) (input.toList.drop z.index)]? with
  | ok b => exact ⟨_, false, (hok b ht).2⟩
  | error message =>
    have hend := (herror message ht).2
    unfold Zipper.read at hend
    split at hend
    · exact ⟨_, true, by simpa [Nat.add_assoc] using hend⟩
    · exact ⟨_, false, hend⟩

theorem readLiteral_onward (h : Shows input first z c) (literal : String) :
    Onward input first z (c.readLiteral literal).2 := by
  obtain ⟨hyes, hno⟩ := h.eat literal.toList
  unfold Cursor.readLiteral
  by_cases hp : literal.toList <+: input.toList.drop z.index
  · obtain ⟨next, heat, hnext⟩ := hyes hp
    rw [heat]
    exact ⟨_, _, hnext⟩
  · rw [hno hp]
    exact h.onward

theorem readBase_onward (h : Shows input first z c) : Onward input first z c.readBase.2 := by
  have h0 := h.readMember_onward "0"
  unfold Cursor.readBase
  split
  · rename_i c0 heq
    rw [heq] at h0
    refine h0.trans fun hs => ?_
    have hx := hs.readMember_onward "xX"
    split <;> rename_i hxeq <;> rw [hxeq] at hx <;> exact hx
  · rename_i c0 heq
    rw [heq] at h0
    exact h0

theorem readFraction_onward (h : Shows input first z c) (digits : String) :
    Onward input first z (c.readFraction digits) := by
  have hp := h.readMember_onward "."
  unfold Cursor.readFraction
  split <;> rename_i heq <;> rw [heq] at hp
  · exact hp.trans fun hs => hs.readMembers_onward digits
  · exact hp

theorem readExponent_onward (h : Shows input first z c) : Onward input first z c.readExponent := by
  have he := h.readMember_onward "eE"
  unfold Cursor.readExponent
  split <;> rename_i heq <;> rw [heq] at he
  · refine he.trans fun hs => ?_
    exact (hs.readMember_onward "+-").trans fun hs => hs.readMembers_onward decimalDigits
  · exact he

theorem readNumber_onward (h : Shows input first z c) : Onward input first z c.readNumber.2 := by
  have hbase : Onward input first z (c.readMember "+-").2.readBase.2 :=
    (h.readMember_onward "+-").trans fun hs => hs.readBase_onward
  have hdigits : ∀ digits, Onward input first z
      (((c.readMember "+-").2.readBase.2.readMembers digits).readFraction digits).readExponent :=
    fun digits => ((hbase.trans fun hs => hs.readMembers_onward digits).trans
      fun hs => hs.readFraction_onward digits).trans fun hs => hs.readExponent_onward
  unfold Cursor.readNumber
  simp only
  split
  · exact (hdigits _).trans fun hs => hs.readWhile_onward Text.isNameChar
  · exact hdigits _

theorem perform_onward (h : Shows input first z c) {a : Action} (hundo : a ≠ .undo)
    (hmark : a ≠ .markStart) : Onward input first z (a.perform c).2 := by
  cases a with
  | undo => exact absurd rfl hundo
  | markStart => exact absurd rfl hmark
  | read => exact h.read_onward
  | readMember valid => exact h.readMember_onward valid
  | readMembers valid => exact h.readMembers_onward valid
  | readWhile test => exact h.readWhile_onward test
  | readRun test => exact h.readRun_onward test
  | readLiteral literal => exact h.readLiteral_onward literal
  | readNumber => exact h.readNumber_onward
  | peek | startsWith _ | rest | input | atEnd | position | startPosition => exact h.onward

end Shows

end StateLexer.Cursor
