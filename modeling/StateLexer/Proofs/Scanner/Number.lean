import StateLexer.Arithmetic
import StateLexer.Proofs.Cursor.Numerals
import StateLexer.Proofs.Lexer.Reached
import StateLexer.Proofs.Program.Exec
import StateLexer.Proofs.Scanner.Ledger

/-! # Reading a number

Wherever a run has come to, to read a number is to read the longest numeral that is next. If a name
goes on behind it, the answer is no and the run of its characters is read too. Nothing but the read
position moves.
-/

namespace StateLexer
open Text Cursor

namespace Cursor

variable {input : String} {first : UInt32} {z : Zipper} {c : Cursor} {n : ℕ} {undoable : Bool}
  {text rest : List Char}

namespace Shows

theorem position_behind
    (h : c.Shows input first { z with index := z.index + text.length, undoable })
    (hz : input.toList.drop z.index = text ++ rest) :
    c.position = .behind first (String.ofList (input.toList.take z.index ++ text)) := by
  rw [h.position_eq, List.take_add, hz, List.take_left]

theorem readNumber_longest (h : c.Shows input first z) :
    ∃ number rest undoable, input.toList.drop z.index = number ++ rest ∧
      Longest numeral (number ++ rest) number ∧
      c.readNumber.1 = !rest.head?.any isNameChar ∧
      c.readNumber.2.Shows input first
        { z with index := z.index + (number ++ rest.takeWhile isNameChar).length, undoable } ∧
      c.readNumber.2.peek?.any isNameChar = false := by
  obtain ⟨number, hsplit, hlongest⟩ := longest_numeral (input.toList.drop z.index)
  obtain ⟨hanswer, hleaves⟩ := h.readNumber_leaves rfl
  have hpeek := hleaves.peek?_eq
  generalize pastNumber (input.toList.drop z.index) = rest at *
  generalize c.readNumber = result at *
  have hall : input.toList.drop z.index =
      (number ++ rest.takeWhile isNameChar) ++ rest.dropWhile isNameChar := by
    rw [List.append_assoc, List.takeWhile_append_dropWhile, hsplit]
  obtain ⟨undoable, hshows⟩ := hleaves.shows hall
  refine ⟨number, rest, undoable, hsplit.symm, ?_, hanswer, hshows, ?_⟩
  · rwa [hsplit]
  · rw [hpeek]
    exact head?_dropWhile isNameChar rest

end Shows

end Cursor

variable {K σ μ : Type} [TokenKind K] {g : Grammar K σ μ} {input : String} {config : Config}
  {memory : μ} {s : Scanner K μ}

namespace Scanner

/-- The unread text begins with `number`, the longest numeral that is next, and `rest` comes behind
it. A number is refused if `rest` goes on with a character of a name, and then all such characters
are read too. The line follows the read position of the cursor `c` that is left, and everything else
that the scanner holds stays as it is. -/
structure ReadsNumber (input : String) (first : UInt32) (s : Scanner K μ)
    (before number rest : List Char) (c : Cursor) : Prop where
  text_eq : input.toList = before ++ (number ++ rest)
  position_eq : s.cursor.position = .behind first (String.ofList before)
  rest_eq : s.cursor.rest = String.ofList (number ++ rest)
  longest : Longest numeral (number ++ rest) number
  exec_eq : (Program.readNumber : Program K μ Bool).exec s =
    (.ok (!rest.head?.any isNameChar), { s with cursor := c })
  accepted : rest.head?.any isNameChar = false →
    c.position = .behind first (String.ofList (before ++ number))
  refused : rest.head?.any isNameChar = true → rest.takeWhile isNameChar ≠ [] ∧
    c.position =
      .behind first (String.ofList (before ++ (number ++ rest.takeWhile isNameChar)))
  peek?_any : c.peek?.any isNameChar = false
  startPosition_eq : c.startPosition = s.cursor.startPosition
  input_eq : c.input = s.cursor.input

/-- Wherever a run has come to, it reads the longest numeral. -/
theorem Reached.readsNumber (h : s.Reached g input config memory) :
    ∃ before number rest c, s.ReadsNumber input config.firstLine before number rest c := by
  obtain ⟨z, hz⟩ := h.within.cursor
  obtain ⟨number, rest, undoable, hdrop, hlongest, hanswer, hshows, hpeek⟩ := hz.readNumber_longest
  have hall : input.toList.drop z.index =
      (number ++ rest.takeWhile isNameChar) ++ rest.dropWhile isNameChar := by
    rw [List.append_assoc, List.takeWhile_append_dropWhile, hdrop]
  have hexec : (Program.readNumber : Program K μ Bool).exec s =
      (.ok s.cursor.readNumber.1, { s with cursor := s.cursor.readNumber.2 }) := by
    rw [← Program.bind_done Program.readNumber, Program.exec_readNumber, Program.exec_done]
  rw [hanswer] at hexec
  generalize s.cursor.readNumber.2 = c at hshows hpeek hexec
  have hposition := hshows.position_behind hall
  refine ⟨input.toList.take z.index, number, rest, c, ?_⟩
  exact
    { text_eq := by rw [← hdrop, List.take_append_drop]
      position_eq := hz.position_eq
      rest_eq := by rw [hz.rest_eq, hdrop]
      longest := hlongest
      exec_eq := hexec
      accepted := by
        intro hnone
        rwa [takeWhile_eq_nil_iff.mpr hnone, List.append_nil] at hposition
      refused := by
        intro hname
        refine ⟨?_, hposition⟩
        rw [ne_eq, takeWhile_eq_nil_iff, hname]
        decide
      peek?_any := hpeek
      startPosition_eq := hshows.startPosition_eq.trans hz.startPosition_eq.symm
      input_eq := hshows.input_eq.trans hz.input_eq.symm }

/-- A number of base sixteen has no exponent: of `0x1e+5` the sign stays unread. -/
theorem Reached.readsNumber_hexadecimal :
    let s := Arithmetic.grammar.scanner "0x1e+5" {} ()
    s.Reached Arithmetic.grammar "0x1e+5" {} () ∧
      Longest numeral "0x1e+5".toList "0x1e".toList ∧
      ∃ c, (Program.readNumber : Program Arithmetic.Kind Unit Bool).exec s =
          (.ok true, { s with cursor := c }) ∧ c.position = ⟨4, 1⟩ := by
  intro s
  have hs : s.Reached Arithmetic.grammar "0x1e+5" {} () := .fresh
  obtain ⟨before, number, rest, c, hreads⟩ := Reached.readsNumber hs
  have hexec := hreads.exec_eq
  have hlongest := hreads.longest
  have hanswer : ((Program.readNumber : Program Arithmetic.Kind Unit Bool).exec s).1 = .ok true := by
    decide +kernel
  have hposition :
      ((Program.readNumber : Program Arithmetic.Kind Unit Bool).exec s).2.cursor.position = ⟨4, 1⟩ := by
    decide +kernel
  rw [hexec] at hanswer hposition
  have hends : rest.head?.any isNameChar = false := by simpa using Except.ok.inj hanswer
  have hempty : String.ofList before = "" :=
    String.utf8ByteSize_eq_zero_iff.mp (congrArg Position.offset hreads.position_eq).symm
  have hsize : (String.ofList number).utf8ByteSize = "0x1e".utf8ByteSize := by
    have hoffset := congrArg Position.offset ((hreads.accepted hends).symm.trans hposition)
    rwa [String.ofList_append, hempty, String.empty_append] at hoffset
  have hcut : String.ofList number ++ String.ofList rest = "0x1e" ++ "+5" := by
    rw [← String.ofList_append, ← String.empty_append (s := String.ofList _), ← hempty,
      ← String.ofList_append, ← hreads.text_eq]
    rfl
  have hnumber : number = "0x1e".toList := by
    have hle := Position.Located.front_isPrefix hcut hsize.le
    have hge := Position.Located.front_isPrefix hcut.symm hsize.ge
    rw [String.toList_ofList (l := number)] at hle hge
    exact hle.eq_of_length_le hge.length_le
  have hinput : number ++ rest = "0x1e+5".toList := by
    have htext := congrArg String.toList hcut
    rwa [String.toList_append, String.toList_ofList, String.toList_ofList] at htext
  rw [hinput, hnumber] at hlongest
  rw [hends] at hexec
  exact ⟨hs, hlongest, c, hexec, hposition⟩

end Scanner

end StateLexer
