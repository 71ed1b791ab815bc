/-!
# Byte offsets in a text

Places in a text are byte offsets of its UTF-8 form. An offset that falls inside a character is no
place at all: nothing can be read or cut there. The statements below say what is found at an
offset in terms of the pieces that it cuts the text into.
-/

namespace StateLexer.Text

/-- The character that begins at byte `n`. -/
def charAt? (s : String) (n : Nat) : Option Char := (s.pos? ⟨n⟩).bind (·.get?)

/-- The text from byte `n` on. -/
def suffix? (s : String) (n : Nat) : Option String := (s.pos? ⟨n⟩).map fun p => (s.sliceFrom p).copy

/-- The text from byte `m` up to byte `n`. -/
def slice? (s : String) (m n : Nat) : Option String :=
  match s.pos? ⟨m⟩, s.pos? ⟨n⟩ with
  | some p, some q => if h : p ≤ q then some (s.slice p q h).copy else none
  | _, _ => none

theorem pos?_eq_some_iff {s : String} {n : Nat} {p : s.Pos} :
    s.pos? ⟨n⟩ = some p ↔ p.offset = ⟨n⟩ := by
  constructor
  · intro h
    unfold String.pos? String.Slice.pos? at h
    split at h
    · simp only [Option.map_some, Option.some.injEq] at h
      rw [← h]; simp
    · simp at h
  · intro h
    have hv := p.isValid
    rw [h] at hv
    have hb : String.Pos.Raw.isValidForSlice s.toSlice ⟨n⟩ = true := by
      rw [String.Pos.Raw.isValidForSlice_eq_true_iff]; exact hv.toSlice
    unfold String.pos? String.Slice.pos?
    simp [hb, String.Pos.ext_iff, h]

theorem exists_splits {s a b : String} (h : s = a ++ b) :
    ∃ p : s.Pos, s.pos? ⟨a.utf8ByteSize⟩ = some p ∧ p.Splits a b := by
  subst h
  exact ⟨_, pos?_eq_some_iff.2 rfl, String.Pos.splits_append_rawEndPos⟩

theorem splits_of_pos? {s a b : String} {p : s.Pos} {n : Nat} (hp : s.pos? ⟨n⟩ = some p)
    (h : p.Splits a b) : s = a ++ b ∧ n = a.utf8ByteSize := by
  have h' := h.offset_eq_rawEndPos
  rw [pos?_eq_some_iff.1 hp] at h'
  exact ⟨h.eq_append, by simpa [String.Pos.Raw.ext_iff] using h'⟩

theorem get?_of_splits {s a b : String} {p : s.Pos} (h : p.Splits a b) :
    p.get? = b.toList.head? := by
  by_cases hp : p = s.endPos
  · simp [String.Pos.get?_eq_none hp, h.eq_endPos_iff.1 hp]
  · obtain ⟨t, ht⟩ := h.exists_eq_singleton_append hp
    simp [String.Pos.get?_eq_some_get hp, ht]

theorem charAt?_append (a b : String) : charAt? (a ++ b) a.utf8ByteSize = b.toList.head? := by
  obtain ⟨p, hp, hs⟩ := exists_splits (rfl : a ++ b = a ++ b)
  simp [charAt?, hp, get?_of_splits hs]

theorem suffix?_eq_some_iff {s t : String} {n : Nat} :
    suffix? s n = some t ↔ ∃ a, s = a ++ t ∧ n = a.utf8ByteSize := by
  constructor
  · intro h
    obtain ⟨p, hp, ht⟩ := Option.map_eq_some_iff.1 h
    subst ht
    exact ⟨_, splits_of_pos? hp p.splits⟩
  · rintro ⟨a, hs, rfl⟩
    obtain ⟨p, hp, hps⟩ := exists_splits hs
    simp [suffix?, hp, hps.copy_sliceFrom_eq]

theorem slice?_eq_some_iff {s t : String} {m n : Nat} :
    slice? s m n = some t ↔
      ∃ a b, s = a ++ t ++ b ∧ m = a.utf8ByteSize ∧ n = (a ++ t).utf8ByteSize := by
  constructor
  · intro h
    unfold slice? at h
    split at h
    · rename_i p q hp hq
      split at h
      · rename_i hle
        obtain ⟨a, b, ha, hb⟩ := String.copy_slice_eq_iff_splits.1 ⟨hle, Option.some.inj h⟩
        exact ⟨a, b, hb.eq_append, (splits_of_pos? hp ha).2, (splits_of_pos? hq hb).2⟩
      · cases h
    · cases h
  · rintro ⟨a, b, hs, rfl, rfl⟩
    have hs' : s = a ++ (t ++ b) := by rw [hs, String.append_assoc]
    obtain ⟨p, hp, hps⟩ := exists_splits hs'
    obtain ⟨q, hq, hqs⟩ := exists_splits hs
    obtain ⟨hle, ht⟩ := String.copy_slice_eq_iff_splits.2 ⟨a, b, hps, hqs⟩
    simp only [slice?, hp, hq, hle, ht, dite_true]

theorem add_utf8Size_le_of_charAt? {s : String} {n : Nat} {c : Char} (h : charAt? s n = some c) :
    n + c.utf8Size ≤ s.utf8ByteSize := by
  obtain ⟨p, hp, hc⟩ := Option.bind_eq_some_iff.1 h
  obtain ⟨hs, hn⟩ := splits_of_pos? hp p.splits
  rw [get?_of_splits p.splits] at hc
  obtain ⟨t, ht⟩ : ∃ t, (s.sliceFrom p).copy = String.singleton c ++ t := by
    cases hl : (s.sliceFrom p).copy.toList with
    | nil => simp [hl] at hc
    | cons x xs =>
      obtain rfl : x = c := by simpa [hl] using hc
      exact ⟨String.ofList xs, String.toList_inj.1 (by simp [hl])⟩
  have hb := congrArg String.utf8ByteSize hs
  rw [ht] at hb
  simp only [String.utf8ByteSize_append, String.utf8ByteSize_singleton] at hb
  omega

end StateLexer.Text
