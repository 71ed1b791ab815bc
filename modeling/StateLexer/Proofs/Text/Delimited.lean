import Mathlib.Data.Nat.Notation
import StateLexer.Arithmetic

/-! # Fields up to a delimiter

A field without a delimiter in it ends at the first one, whatever stands behind. A rendered token
has a colon behind its line, a space behind its offset and a parenthesis behind the name of its
kind, and none of these stands in the field that it ends. So the text of a token, which comes last
and as it stands, may look like any of the other fields and is still told from them.
-/

namespace StateLexer

namespace Text

variable {d : Char} {a b s t : List Char} {m n : ℕ}

/-- A field ends at the first delimiter. -/
theorem field_inj (ha : d ∉ a) (hb : d ∉ b) (h : a ++ d :: s = b ++ d :: t) : a = b ∧ s = t := by
  have hfields := congrArg (List.splitOn d) h
  rw [List.splitOn_append_cons_self_of_not_mem ha, List.splitOn_append_cons_self_of_not_mem hb]
    at hfields
  obtain rfl : a = b := (List.cons.inj hfields).1
  exact ⟨rfl, (List.cons.inj (List.append_cancel_left h)).2⟩

theorem notMem_repr (hd : d.isDigit = false) (n : ℕ) : d ∉ (Nat.repr n).toList := by
  intro hmem
  rw [Nat.toList_repr] at hmem
  have hdigit := Nat.isDigit_of_mem_toDigits (by decide) (by decide) hmem
  rw [hd] at hdigit
  cases hdigit

theorem number_inj (hd : d.isDigit = false)
    (h : (Nat.repr m).toList ++ d :: s = (Nat.repr n).toList ++ d :: t) : m = n ∧ s = t := by
  obtain ⟨hdigits, hrest⟩ := field_inj (notMem_repr hd m) (notMem_repr hd n) h
  have hvalue := congrArg (Nat.ofDigitChars 10 · 0) hdigits
  simp only [Nat.toList_repr, Nat.ofDigitChars_ten_toDigits] at hvalue
  exact ⟨hvalue, hrest⟩

end Text

namespace Token
open Text

section
variable {K : Type} [TokenKind K]

theorem toList_render (t : Token K) :
    t.render.toList = "inp:".toList ++ (t.position.line.toNat.repr.toList ++
      ':' :: (t.position.offset.repr.toList ++
        ' ' :: ("- ".toList ++ ((TokenKind.name t.kind).toList ++
          '(' :: (t.text.toList ++ [')']))))) := by
  simp [render, Position.render, String.toList_append]

/-- A rendered token tells its kind, its position and its text, if the names of the kinds tell them
apart and have no parenthesis in them. -/
theorem render_injective (hname : Function.Injective (TokenKind.name : K → String))
    (hopen : ∀ kind : K, '(' ∉ (TokenKind.name kind).toList) :
    Function.Injective (render : Token K → String) := by
  rintro ⟨kind, ⟨offset, line⟩, text⟩ ⟨kind', ⟨offset', line'⟩, text'⟩ h
  have hcolon : ':'.isDigit = false := by decide
  have hspace : ' '.isDigit = false := by decide
  have hfields := congrArg String.toList h
  rw [toList_render, toList_render] at hfields
  obtain ⟨hline, hfields⟩ := number_inj hcolon (List.append_cancel_left hfields)
  obtain ⟨hoffset, hfields⟩ := number_inj hspace hfields
  obtain ⟨hkind, hfields⟩ :=
    field_inj (hopen kind) (hopen kind') (List.append_cancel_left hfields)
  have htext := List.append_cancel_right hfields
  obtain rfl : line = line' := UInt32.toNat_inj.mp hline
  obtain rfl : offset = offset' := hoffset
  obtain rfl : kind = kind' := hname (String.toList_inj.mp hkind)
  obtain rfl : text = text' := String.toList_inj.mp htext
  rfl

end

/-- A name whose text goes on like a rendered token is not mistaken for a number. -/
theorem render_injective_hostile :
    Function.Injective (TokenKind.name : Arithmetic.Kind → String) ∧
      (∀ kind : Arithmetic.Kind, '(' ∉ (TokenKind.name kind).toList) ∧
      (⟨.ident, ⟨1, 1⟩, "1) - Number(1"⟩ : Token Arithmetic.Kind).render ≠
        (⟨.number, ⟨1, 1⟩, "1"⟩ : Token Arithmetic.Kind).render := by
  have hname : Function.Injective (TokenKind.name : Arithmetic.Kind → String) := by
    intro kind kind' h
    cases kind <;> cases kind' <;> first | rfl | exact absurd h (by decide)
  have hopen : ∀ kind : Arithmetic.Kind, '(' ∉ (TokenKind.name kind).toList := by
    intro kind
    cases kind <;> decide
  exact ⟨hname, hopen, (render_injective hname hopen).ne (by decide)⟩

end Token

end StateLexer
