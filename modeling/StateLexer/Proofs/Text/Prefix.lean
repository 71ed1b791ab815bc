import Mathlib.Data.String.Basic
import StateLexer.Text.Offset

/-! # Offsets as lengths of prefixes

A place between two characters of a text is told in two ways: by the number of characters before
it, or by their length in bytes. The statements below translate what is found at a byte offset into
lists of characters. An index beyond the end stands for the end.
-/

namespace StateLexer.Text
open String (utf8Len)

variable {cs : List Char} {i k : ℕ} {ch : Char} {s : String}

/-- The byte offset behind the first `i` characters of `cs`. -/
def offset (cs : List Char) (i : ℕ) : ℕ := utf8Len (cs.take i)

@[simp] theorem offset_zero (cs : List Char) : offset cs 0 = 0 := rfl

theorem offset_succ (h : cs[i]? = some ch) : offset cs (i + 1) = offset cs i + ch.utf8Size := by
  simp [offset, List.take_add_one, h]

theorem offset_add (cs : List Char) (i n : ℕ) :
    offset cs (i + n) = offset cs i + utf8Len ((cs.drop i).take n) := by
  simp only [offset, List.take_add, String.utf8Len_append]

theorem offset_mono (h : i ≤ k) : offset cs i ≤ offset cs k := by
  obtain ⟨n, rfl⟩ := Nat.exists_eq_add_of_le h
  rw [offset_add]
  omega

theorem offset_lt (h : i < k) (hi : i < cs.length) : offset cs i < offset cs k := by
  have hs := offset_succ (List.getElem?_eq_getElem hi)
  have hm : offset cs (i + 1) ≤ offset cs k := offset_mono h
  have hp := cs[i].utf8Size_pos
  omega

theorem offset_le_iff (hi : i ≤ cs.length) : offset cs i ≤ offset cs k ↔ i ≤ k := by
  constructor
  · intro h
    by_contra hlt
    have hback : offset cs k < offset cs i := offset_lt (not_le.mp hlt) (by omega)
    omega
  · exact offset_mono

theorem utf8ByteSize_eq_utf8Len (s : String) : s.utf8ByteSize = utf8Len s.toList := by
  rw [← String.utf8ByteSize_ofList, String.ofList_toList]

theorem offset_length (s : String) : offset s.toList s.toList.length = s.utf8ByteSize := by
  rw [offset, List.take_length, utf8ByteSize_eq_utf8Len]

/-- The bytes of a text begin with those of another exactly if its characters do. -/
theorem exists_toUTF8_eq_append_iff {s t : String} :
    (∃ tail, s.toUTF8 = t.toUTF8 ++ tail) ↔ t.toList <+: s.toList := by
  simp only [String.toUTF8_eq_toByteArray, ← String.utf8Encode_toList]
  constructor
  · rintro ⟨tail, h⟩
    exact List.isPrefix_of_utf8Encode_append_eq_utf8Encode tail h.symm
  · rintro ⟨rest, h⟩
    exact ⟨rest.utf8Encode, by rw [← h, List.utf8Encode_append]⟩

theorem take_eq_append (h : i ≤ k) (cs : List Char) :
    cs.take k = cs.take i ++ (cs.take k).drop i := by
  have htake : (cs.take k).take i = cs.take i := by rw [List.take_take, min_eq_left h]
  rw [← htake, List.take_append_drop]

theorem eq_take_append_drop (s : String) (i : ℕ) :
    s = String.ofList (s.toList.take i) ++ String.ofList (s.toList.drop i) := by
  rw [← String.ofList_append, List.take_append_drop, String.ofList_toList]

theorem charAt?_offset (s : String) (i : ℕ) :
    charAt? s (offset s.toList i) = s.toList[i]? := by
  have h := charAt?_append (String.ofList (s.toList.take i)) (String.ofList (s.toList.drop i))
  rw [← eq_take_append_drop s i, String.utf8ByteSize_ofList, String.toList_ofList] at h
  rw [offset, h, List.head?_drop]

theorem suffix?_offset (s : String) (i : ℕ) :
    suffix? s (offset s.toList i) = some (String.ofList (s.toList.drop i)) :=
  suffix?_eq_some_iff.mpr ⟨_, eq_take_append_drop s i, (String.utf8ByteSize_ofList _).symm⟩

theorem slice?_offset (s : String) (h : i ≤ k) :
    slice? s (offset s.toList i) (offset s.toList k) =
      some (String.ofList ((s.toList.take k).drop i)) := by
  refine slice?_eq_some_iff.mpr
    ⟨String.ofList (s.toList.take i), String.ofList (s.toList.drop k), ?_, ?_, ?_⟩
  · rw [← String.ofList_append, ← take_eq_append h]
    exact eq_take_append_drop s k
  · exact (String.utf8ByteSize_ofList _).symm
  · rw [← String.ofList_append, ← take_eq_append h, String.utf8ByteSize_ofList]
    rfl

theorem slice?_eq_none {m n : ℕ} (h : n < m) : slice? s m n = none := by
  cases hs : slice? s m n with
  | none => rfl
  | some t =>
    obtain ⟨a, b, -, hm, hn⟩ := slice?_eq_some_iff.mp hs
    rw [String.utf8ByteSize_append] at hn
    omega

end StateLexer.Text
