import StateLexer.Proofs.Cursor.Reading

/-! # What a reading leaves unread

Where a reading ends depends on the unread characters alone, so each operation has its counterpart
on lists: what is left behind a member, behind a run, and behind a number with its four parts. The
counterparts are composed as the operations are.
-/

namespace StateLexer.Cursor
open Text

variable {input : String} {first : UInt32} {z : Zipper} {c : Cursor} {cs rest text : List Char}
  {test : Char → Bool}

theorem isMember_iff {valid : String} {ch : Char} : isMember valid ch = true ↔ ch ∈ valid.toList := by
  simp [isMember]

def meets (valid : String) (cs : List Char) : Bool := cs.head?.any (isMember valid)

def pastMember (valid : String) (cs : List Char) : List Char :=
  if meets valid cs then cs.tail else cs

/-- The digits of the base, and what is left behind its mark. -/
def pastBase (cs : List Char) : String × List Char :=
  if meets "0" cs then
    if meets "xX" cs.tail then (hexDigits, cs.tail.tail) else (decimalDigits, cs.tail)
  else (decimalDigits, cs)

def pastFraction (digits : String) (cs : List Char) : List Char :=
  if meets "." cs then cs.tail.dropWhile (isMember digits) else cs

def pastExponent (cs : List Char) : List Char :=
  if meets "eE" cs then (pastMember "+-" cs.tail).dropWhile (isMember decimalDigits) else cs

/-- What is left behind a number, whether or not a name goes on there. -/
def pastNumber (cs : List Char) : List Char :=
  let (digits, cs) := pastBase (pastMember "+-" cs)
  pastExponent (pastFraction digits (cs.dropWhile (isMember digits)))

/-- All characters of a range are members if those are that the range was counted out to. -/
theorem isMember_of_range {valid : String} {low high ch : Char} (hlow : low ≤ ch) (hhigh : ch ≤ high)
    (hall : ∀ n ∈ List.range' low.toNat (high.toNat + 1 - low.toNat),
      isMember valid (Char.ofNat n) = true) : isMember valid ch = true := by
  rw [← Char.ofNat_toNat ch]
  apply hall
  have hlow' : low.toNat ≤ ch.toNat := hlow
  have hhigh' : ch.toNat ≤ high.toNat := hhigh
  rw [List.mem_range'_1]
  omega

theorem isMember_of_isDigit {ch : Char} (h : ch.isDigit = true) :
    isMember decimalDigits ch = true := by
  simp only [Char.isDigit, Bool.and_eq_true, decide_eq_true_eq] at h
  have hlow : '0' ≤ ch := h.1
  have hhigh : ch ≤ '9' := h.2
  exact isMember_of_range hlow hhigh (by decide)

theorem of_isMember {valid : String} {ch : Char} (hall : valid.toList.all test = true)
    (h : isMember valid ch = true) : test ch = true :=
  List.all_eq_true.mp hall ch (isMember_iff.mp h)

/-- `c` has the pending token of `z` and stands at or behind it, with `rest` unread. -/
def Leaves (input : String) (first : UInt32) (z : Zipper) (rest : List Char) (c : Cursor) : Prop :=
  ∃ n undoable, Shows input first { z with index := z.index + n, undoable } c ∧
    input.toList.drop (z.index + n) = rest

theorem dropWhile_eq_self (h : rest.head?.any test = false) : rest.dropWhile test = rest := by
  cases rest with
  | nil => rfl
  | cons ch rest => exact List.dropWhile_cons_of_neg (by simpa using h)

theorem takeWhile_eq_nil_iff : cs.takeWhile test = [] ↔ cs.head?.any test = false := by
  cases cs with
  | nil => simp
  | cons ch cs => cases h : test ch <;> simp [h]

theorem head?_dropWhile (test : Char → Bool) (cs : List Char) :
    (cs.dropWhile test).head?.any test = false := by
  have hnot := List.head?_dropWhile_not test cs
  cases hhead : (cs.dropWhile test).head? with
  | none => rfl
  | some ch => rwa [hhead] at hnot

theorem dropWhile_append_eq (htext : ∀ ch ∈ text, test ch = true)
    (hrest : rest.head?.any test = false) : (text ++ rest).dropWhile test = rest := by
  rw [List.dropWhile_append_of_pos htext, dropWhile_eq_self hrest]

theorem drop_runLength {i : ℕ} {all : List Char} (h : all.drop i = cs) (test : Char → Bool) :
    all.drop (i + runLength test (all.drop i)) = cs.dropWhile test := by
  rw [← List.drop_drop, h, runLength]
  nth_rewrite 2 [← List.takeWhile_append_dropWhile (p := test) (l := cs)]
  exact List.drop_left

namespace Leaves

theorem of_onward {n : ℕ} {undoable : Bool}
    (h : Leaves input first { z with index := z.index + n, undoable } rest c) :
    Leaves input first z rest c := by
  obtain ⟨m, v, hs, hrest⟩ := h
  refine ⟨n + m, v, ?_, ?_⟩
  · simpa [Nat.add_assoc] using hs
  · simpa [Nat.add_assoc] using hrest

theorem trans {c' : Cursor} {rest' : List Char} (h : Leaves input first z rest c)
    (hnext : ∀ {z}, Shows input first z c → input.toList.drop z.index = rest →
      Leaves input first z rest' c') : Leaves input first z rest' c' := by
  obtain ⟨n, u, hs, hrest⟩ := h
  exact (hnext hs hrest).of_onward

theorem shows (h : Leaves input first z rest c) (hz : input.toList.drop z.index = text ++ rest) :
    ∃ undoable, Shows input first { z with index := z.index + text.length, undoable } c := by
  obtain ⟨n, u, hs, hrest⟩ := h
  have hle : z.index + n ≤ input.toList.length := hs.index_le
  have hbefore := congrArg List.length hz
  have hafter := congrArg List.length hrest
  rw [List.length_drop, List.length_append] at hbefore
  rw [List.length_drop] at hafter
  obtain rfl : n = text.length := by omega
  exact ⟨u, hs⟩

theorem peek?_eq (h : Leaves input first z rest c) : c.peek? = rest.head? := by
  obtain ⟨n, u, hs, hrest⟩ := h
  rw [hs.peek?_eq, ← hrest, List.head?_drop]

theorem pendingText?_eq {n : ℕ} {undoable : Bool} (h : Leaves input first ⟨n, n, undoable⟩ rest c)
    (hz : input.toList.drop n = text ++ rest) : c.pendingText? = some (String.ofList text) := by
  obtain ⟨v, hs⟩ := h.shows hz
  rw [hs.pendingText?_eq, if_pos (Nat.le_add_right _ _), List.drop_take, hz, Nat.add_sub_cancel_left,
    List.take_left]

end Leaves

namespace Shows

theorem readMember_cases (h : Shows input first z c) (hcs : input.toList.drop z.index = cs)
    (valid : String) :
    (meets valid cs = true ∧ ∃ next, c.readMember valid = (true, next) ∧
      Leaves input first z cs.tail next) ∨
    (meets valid cs = false ∧ ∃ next, c.readMember valid = (false, next) ∧
      Leaves input first z cs next) := by
  obtain ⟨hanswer, hnext⟩ := h.readMember valid
  have hmeets : meets valid cs = input.toList[z.index]?.any (isMember valid) := by
    rw [meets, ← hcs, List.head?_drop]
  rw [← hmeets] at hanswer hnext
  cases hm : meets valid cs with
  | true =>
    rw [hm] at hanswer hnext
    exact .inl ⟨rfl, _, Prod.ext hanswer rfl, 1, true, hnext, by rw [← hcs, List.tail_drop]⟩
  | false =>
    rw [hm] at hanswer hnext
    exact .inr ⟨rfl, _, Prod.ext hanswer rfl, 0, false, hnext, hcs⟩

theorem read_leaves {ch : Char} (h : Shows input first z c)
    (hcs : input.toList.drop z.index = ch :: cs) : Leaves input first z cs c.read.2 := by
  have hch : input.toList[z.index]? = some ch := by rw [← List.head?_drop, hcs, List.head?_cons]
  have hread := h.read.2
  simp only [Zipper.read, hch] at hread
  exact ⟨1, true, hread, by rw [← List.tail_drop, hcs, List.tail_cons]⟩

theorem readMember_leaves (h : Shows input first z c) (hcs : input.toList.drop z.index = cs)
    (valid : String) : Leaves input first z (pastMember valid cs) (c.readMember valid).2 := by
  rw [pastMember]
  rcases h.readMember_cases hcs valid with ⟨hmeets, next, hread, hnext⟩ | ⟨hmeets, next, hread, hnext⟩
  · rwa [hread, hmeets, if_pos rfl]
  · rwa [hread, hmeets, if_neg Bool.false_ne_true]

theorem readWhile_leaves (h : Shows input first z c) (hcs : input.toList.drop z.index = cs)
    (test : Char → Bool) :
    Leaves input first z (cs.dropWhile test) (c.readWhile test).2 := by
  exact ⟨_, false, (h.readWhile test).2, drop_runLength hcs test⟩

theorem readMembers_leaves (h : Shows input first z c) (hcs : input.toList.drop z.index = cs)
    (valid : String) :
    Leaves input first z (cs.dropWhile (isMember valid)) (c.readMembers valid) := by
  rw [readMembers_eq_readWhile]
  exact h.readWhile_leaves hcs _

theorem readRun_leaves (h : Shows input first z c) (hcs : input.toList.drop z.index = cs)
    {run : Option Char → Except String Bool} (hrun : ∀ ch, run ch = .ok (ch.any test)) :
    (c.readRun run).1 = .ok () ∧ Leaves input first z (cs.dropWhile test) (c.readRun run).2 := by
  have hpasses : passes run = test := by
    funext ch
    rw [passes, hrun, Option.any_some]
  obtain ⟨hok, -⟩ := h.readRun run rfl
  obtain ⟨hanswer, hnext⟩ := hok _ (hrun _)
  refine ⟨hanswer, _, false, hnext, ?_⟩
  rw [hpasses]
  exact drop_runLength hcs test

theorem readBase_leaves (h : Shows input first z c) (hcs : input.toList.drop z.index = cs) :
    c.readBase.1 = (pastBase cs).1 ∧ Leaves input first z (pastBase cs).2 c.readBase.2 := by
  unfold readBase pastBase
  rcases h.readMember_cases hcs "0" with ⟨hzero, next, hread, hnext⟩ | ⟨hzero, next, hread, hnext⟩
  · obtain ⟨n, u, hs, hrest⟩ := hnext
    rcases hs.readMember_cases hrest "xX" with
      ⟨hx, last, hread', hlast⟩ | ⟨hx, last, hread', hlast⟩
    · simp only [hread, hzero, hread', hx, if_true]
      exact ⟨trivial, hlast.of_onward⟩
    · simp only [hread, hzero, hread', hx, if_true, Bool.false_eq_true, if_false]
      exact ⟨trivial, hlast.of_onward⟩
  · simp only [hread, hzero, Bool.false_eq_true, if_false]
    exact ⟨trivial, hnext⟩

theorem readFraction_leaves (h : Shows input first z c) (hcs : input.toList.drop z.index = cs)
    (digits : String) : Leaves input first z (pastFraction digits cs) (c.readFraction digits) := by
  unfold readFraction pastFraction
  rcases h.readMember_cases hcs "." with ⟨hpoint, next, hread, hnext⟩ | ⟨hpoint, next, hread, hnext⟩
  · simp only [hread, hpoint, if_true]
    exact hnext.trans fun hs hrest => hs.readMembers_leaves hrest digits
  · simp only [hread, hpoint, Bool.false_eq_true, if_false]
    exact hnext

theorem readExponent_leaves (h : Shows input first z c) (hcs : input.toList.drop z.index = cs) :
    Leaves input first z (pastExponent cs) c.readExponent := by
  unfold readExponent pastExponent
  rcases h.readMember_cases hcs "eE" with ⟨hmark, next, hread, hnext⟩ | ⟨hmark, next, hread, hnext⟩
  · simp only [hread, hmark, if_true]
    refine hnext.trans fun hs hrest => ?_
    exact (hs.readMember_leaves hrest "+-").trans fun hs hrest =>
      hs.readMembers_leaves hrest decimalDigits
  · simp only [hread, hmark, Bool.false_eq_true, if_false]
    exact hnext

theorem readParts_leaves (h : Shows input first z c) (hcs : input.toList.drop z.index = cs)
    (digits : String) :
    Leaves input first z (pastExponent (pastFraction digits (cs.dropWhile (isMember digits))))
      ((c.readMembers digits).readFraction digits).readExponent := by
  refine (h.readMembers_leaves hcs digits).trans fun hs hrest => ?_
  exact (hs.readFraction_leaves hrest digits).trans fun hs hrest => hs.readExponent_leaves hrest

/-- A number ends where its parts end, and is refused if a name goes on there, with all that does. -/
theorem readNumber_leaves (h : Shows input first z c) (hcs : input.toList.drop z.index = cs) :
    c.readNumber.1 = !(pastNumber cs).head?.any isNameChar ∧
      Leaves input first z ((pastNumber cs).dropWhile isNameChar) c.readNumber.2 := by
  obtain ⟨n, u, hs, hsign⟩ := h.readMember_leaves hcs "+-"
  obtain ⟨hdigits, hbase⟩ := hs.readBase_leaves hsign
  have hpast := (hbase.trans fun hs hrest =>
    hs.readParts_leaves hrest (pastBase (pastMember "+-" cs)).1).of_onward
  change Leaves input first z (pastNumber cs) _ at hpast
  rw [← hdigits] at hpast
  unfold readNumber
  simp only
  generalize readExponent _ = last at hpast ⊢
  rw [hpast.peek?_eq]
  split
  · rename_i hname
    exact ⟨by simp [hname], hpast.trans fun hs hrest => hs.readWhile_leaves hrest isNameChar⟩
  · rename_i hname
    rw [dropWhile_eq_self (by simpa using hname)]
    exact ⟨by simp [hname], hpast⟩

end Shows

end StateLexer.Cursor
