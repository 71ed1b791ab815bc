import StateLexer.Arithmetic
import StateLexer.Proofs.Program.Calls
import StateLexer.Proofs.Program.Uses
import StateLexer.Proofs.Scanner.Number

/-! # A number becomes one token

The state that reads a number publishes exactly one token wherever its scan has come to: the pending
text and the longest numeral behind it, or an error token if a name goes on there. Whether the
scanner has halted decides what becomes of the token, and nothing else.
-/

namespace StateLexer
open Text Cursor

namespace Cursor.Shows

variable {input : String} {first : UInt32} {z : Zipper} {c : Cursor} {undoable : Bool}
  {text rest : List Char}

theorem pendingText?_behind
    (h : c.Shows input first { z with index := z.index + text.length, undoable })
    (hle : z.start ≤ z.index) (hz : input.toList.drop z.index = text ++ rest) :
    c.pendingText? =
      some (String.ofList ((input.toList.take z.index).drop z.start ++ text)) := by
  have hlength : z.start ≤ (input.toList.take z.index).length := by
    have := h.index_le
    rw [List.length_take]
    simp only at this
    omega
  rw [h.pendingText?_eq, if_pos (by simp only; omega), List.take_add, hz, List.take_left,
    List.drop_append_of_le_length hlength]

end Cursor.Shows

/-- The cursor has `pending` between its start and its read position. Behind it comes `number`, the
longest numeral that is next, and then `rest`. -/
structure Cursor.BeforeNumber (input : String) (first : UInt32) (c : Cursor)
    (before pending number rest : List Char) : Prop where
  text_eq : input.toList = before ++ (pending ++ (number ++ rest))
  startPosition_eq : c.startPosition = .behind first (String.ofList before)
  position_eq : c.position = .behind first (String.ofList (before ++ pending))
  pendingText?_eq : c.pendingText? = some (String.ofList pending)
  rest_eq : c.rest = String.ofList (number ++ rest)
  longest : Longest numeral (number ++ rest) number

theorem Cursor.Shows.readNumber_pending {input : String} {first : UInt32} {z : Zipper} {c : Cursor}
    (h : c.Shows input first z) (hstart : c.start ≤ c.pos) :
    ∃ before pending number rest, c.BeforeNumber input first before pending number rest ∧
      c.readNumber.1 = !rest.head?.any isNameChar ∧
      let text := pending ++ (number ++ rest.takeWhile isNameChar)
      c.readNumber.2.pendingText? = some (String.ofList text) ∧
      c.readNumber.2.position = .behind first (String.ofList (before ++ text)) ∧
      c.readNumber.2.startPosition = c.startPosition := by
  have hle : z.start ≤ z.index := by
    rwa [h.start_eq, h.pos_eq, offset_le_iff h.start_le] at hstart
  obtain ⟨number, rest, undoable, hdrop, hlongest, hanswer, hshows, -⟩ := h.readNumber_longest
  have hread : input.toList.drop z.index =
      (number ++ rest.takeWhile isNameChar) ++ rest.dropWhile isNameChar := by
    rw [List.append_assoc, List.takeWhile_append_dropWhile, hdrop]
  have htext := hshows.pendingText?_behind hle hread
  have hposition := hshows.position_behind hread
  have hspan := hshows.startPosition_eq.trans h.startPosition_eq.symm
  generalize c.readNumber = result at hanswer htext hposition hspan
  have hbefore := take_eq_append hle input.toList
  rw [hbefore, List.append_assoc] at hposition
  refine ⟨input.toList.take z.start, (input.toList.take z.index).drop z.start, number, rest,
    ⟨?_, h.startPosition_eq, ?_, ?_, ?_, hlongest⟩, hanswer, htext, hposition, hspan⟩
  · rw [← List.append_assoc, ← hbefore, ← hdrop, List.take_append_drop]
  · rw [h.position_eq, ← hbefore]
  · rw [h.pendingText?_eq, if_pos hle]
  · rw [h.rest_eq, hdrop]

variable {K σ μ : Type} [TokenKind K] {g : Grammar K σ μ} {input : String} {config : Config}
  {memory : μ} {s : Scanner K μ}

omit [TokenKind K] in
theorem Scanner.publish_moved {c : Cursor} (h : c.startPosition = s.cursor.startPosition) (kind : K)
    (text : String) :
    let next := { s with cursor := c }.publish kind text
    next.cursor = c.markStart ∧ (s.halted = false → next.stream = s.published kind text) := by
  constructor
  · exact (Scanner.readsLike_publish kind text { s with cursor := c }).cursor
  · intro hrunning
    apply (Scanner.stream_publish_of_not_halted (s := { s with cursor := c }) hrunning).trans
    simp only [Scanner.published, h]

theorem Scanner.fail_moved {c : Cursor} (h : c.startPosition = s.cursor.startPosition)
    (message : String) :
    let next := { s with cursor := c }.fail message
    next.cursor = c ∧ (s.halted = false → next.stream = s.failed message) := by
  constructor
  · exact (Scanner.readsLike_fail message { s with cursor := c }).cursor
  · intro hrunning
    apply (Scanner.stream_fail (s := { s with cursor := c }) hrunning).trans
    simp only [Scanner.failed, Scanner.failure, h]

namespace Scanner

/-- What comes of a number: one token of what was pending and the numeral, and the next token starts
behind it. -/
structure NumberAccepted (first : UInt32) (kind : K) (s : Scanner K μ)
    (before pending number : List Char)
    (result : Except Fault (Option (State K σ)) × Scanner K μ) : Prop where
  next_eq : result.1 = .ok (some .start)
  position_eq :
    result.2.cursor.position = .behind first (String.ofList (before ++ (pending ++ number)))
  startPosition_eq : result.2.cursor.startPosition = result.2.cursor.position
  stream_eq : s.halted = false →
    result.2.stream = s.published kind (String.ofList (pending ++ number))
  empty : pending ++ number = [] →
    pending = [] ∧ number = [] ∧ result.2.cursor.position = s.cursor.position

/-- What comes of a number that a name follows: one error token that quotes the name too, and the
start stays. -/
structure NumberRefused (first : UInt32) (s : Scanner K μ) (before pending number rest : List Char)
    (result : Except Fault (Option (State K σ)) × Scanner K μ) : Prop where
  next_eq : result.1 = .ok none
  position_eq : result.2.cursor.position = .behind first
    (String.ofList (before ++ (pending ++ (number ++ rest.takeWhile isNameChar))))
  startPosition_eq : result.2.cursor.startPosition = s.cursor.startPosition
  stream_eq : s.halted = false → result.2.stream = s.failed (Diagnostic.badNumber
    (String.ofList (pending ++ (number ++ rest.takeWhile isNameChar)))).message

omit [TokenKind K] in
theorem NumberAccepted.of_publish {first : UInt32} {before pending number : List Char} {c : Cursor}
    (hhere : s.cursor.position = .behind first (String.ofList (before ++ pending)))
    (hposition : c.position = .behind first (String.ofList (before ++ (pending ++ number))))
    (hspan : c.startPosition = s.cursor.startPosition) (kind : K) :
    s.NumberAccepted first kind before pending number
      ((.ok (some .start) : Except Fault (Option (State K σ))),
        { s with cursor := c }.publish kind (String.ofList (pending ++ number))) := by
  obtain ⟨hcursor, hstream⟩ := publish_moved hspan kind (String.ofList (pending ++ number))
  refine ⟨rfl, ?_, ?_, hstream, ?_⟩
  · rw [hcursor]
    exact hposition
  · rw [hcursor]
    rfl
  · intro hempty
    obtain ⟨rfl, rfl⟩ := List.append_eq_nil_iff.mp hempty
    rw [hcursor, hhere]
    exact ⟨rfl, rfl, hposition⟩

theorem NumberRefused.of_fail {first : UInt32} {before pending number rest : List Char} {c : Cursor}
    (hposition : c.position = .behind first
      (String.ofList (before ++ (pending ++ (number ++ rest.takeWhile isNameChar)))))
    (hspan : c.startPosition = s.cursor.startPosition) :
    s.NumberRefused first before pending number rest
      ((.ok none : Except Fault (Option (State K σ))),
        { s with cursor := c }.fail (Diagnostic.badNumber
          (String.ofList (pending ++ (number ++ rest.takeWhile isNameChar)))).message) := by
  obtain ⟨hcursor, hstream⟩ := fail_moved hspan (Diagnostic.badNumber
    (String.ofList (pending ++ (number ++ rest.takeWhile isNameChar)))).message
  refine ⟨rfl, ?_, ?_, hstream⟩
  · rw [hcursor]
    exact hposition
  · rw [hcursor]
    exact hspan

end Scanner

namespace Grammar

/-- The state that reads a number publishes one token at the start of the pending text, or else one
error token. Once the scanner has halted, everything but the token is the same. -/
structure NumberToken (g : Grammar K σ μ) (input : String) (first : UInt32) (kind : K)
    (s : Scanner K μ) : Prop where
  program_eq : g.program (.number kind) = .publishNumber kind
  token : ∃ before pending number rest,
    s.cursor.BeforeNumber input first before pending number rest ∧
    (rest.head?.any isNameChar = false → s.NumberAccepted first kind before pending number
      ((g.program (.number kind)).exec s)) ∧
    (rest.head?.any isNameChar = true → s.NumberRefused first before pending number rest
      ((g.program (.number kind)).exec s))
  stream_of_halted : s.halted = true → ((g.program (.number kind)).exec s).2.stream = s.stream
  answer_of_halted : s.halted = true →
    ((g.program (.number kind)).exec s).1 =
      ((g.program (.number kind)).exec { s with halted := false }).1
  cursor_of_halted : s.halted = true →
    ((g.program (.number kind)).exec s).2.cursor =
      ((g.program (.number kind)).exec { s with halted := false }).2.cursor

/-- Wherever a run has come to with its start at or before the read position, a number becomes one
token. -/
theorem program_numberToken (h : s.Reached g input config memory)
    (hstart : s.cursor.start ≤ s.cursor.pos) (kind : K) :
    g.NumberToken input config.firstLine kind s := by
  obtain ⟨z, hz⟩ := h.within.cursor
  obtain ⟨before, pending, number, rest, hbefore, hanswer, htext, hposition, hspan⟩ :=
    hz.readNumber_pending hstart
  have hresult : (g.program (.number kind)).exec s = _ := Program.exec_publishNumber kind s
  have huses : (g.program (.number kind)).Uses (¬ ·.AsksBack) :=
    Program.publishNumber_uses id id id fun _ => id
  have hlike : s.ReadsLike { s with halted := false } := ⟨rfl, rfl, rfl⟩
  obtain ⟨hsame, hreads⟩ := hlike.exec huses
  have hstream := fun hs => (((g.program (.number kind)).leads_calls s).stream_of_halted hs).2
  refine
    { program_eq := rfl
      token := ⟨before, pending, number, rest, hbefore, ?_, ?_⟩
      stream_of_halted := hstream
      answer_of_halted := fun _ => hsame
      cursor_of_halted := fun _ => hreads.cursor }
  all_goals
    -- from here on the cursor behind the number is known by these facts alone
    clear hsame hreads hstream
    generalize (g.program (.number kind)).exec s = result at hresult ⊢
    rw [hanswer] at hresult
    generalize s.cursor.readNumber.2 = c at htext hposition hspan hresult
    simp only [htext] at hresult
  · intro hends
    rw [takeWhile_eq_nil_iff.mpr hends, List.append_nil] at hresult hposition
    rw [hends, Bool.not_false, if_pos rfl] at hresult
    rw [hresult]
    exact .of_publish hbefore.position_eq hposition hspan kind
  · intro hname
    rw [hname, Bool.not_true, if_neg Bool.false_ne_true] at hresult
    rw [hresult]
    exact .of_fail hposition hspan

theorem program_numberToken_sign :
    let s := (Op.perform (.cursor .read) (Arithmetic.grammar.scanner "-x" {} ())).2
    let result := (Arithmetic.grammar.program (.number .number)).exec s
    s.Reached Arithmetic.grammar "-x" {} () ∧ s.cursor.start ≤ s.cursor.pos ∧
      result.1 = .ok none ∧
      result.2.queue = [⟨.error, ⟨0, 1⟩, (Diagnostic.badNumber "-x").message⟩] ∧
      result.2.cursor.position = ⟨2, 1⟩ := by
  intro s result
  have hs : s.Reached Arithmetic.grammar "-x" {} () := .request .fresh (.cursor .read)
  have hstart : s.cursor.start ≤ s.cursor.pos := by decide +kernel
  have hrest : s.cursor.rest = String.ofList ['x'] := by decide +kernel
  have htext : s.cursor.pendingText? = some (String.ofList ['-']) := by decide +kernel
  have hhalted : result.2.stream.halted = true := by decide +kernel
  obtain ⟨before, pending, number, rest, hbefore, haccepted, hrefused⟩ :=
    (program_numberToken hs hstart .number).token
  rw [show (Arithmetic.grammar.program (.number .number)).exec s = result from rfl]
    at haccepted hrefused
  clear_value result
  have hgoes : rest.head?.any isNameChar = true := by
    by_contra hnone
    rw [(haccepted (by simpa using hnone)).stream_eq rfl] at hhalted
    cases hhalted
  have hunread := hbefore.rest_eq
  have hpending := hbefore.pendingText?_eq
  rw [hrest, String.ofList_inj] at hunread
  rw [htext, Option.some.injEq, String.ofList_inj] at hpending
  subst hpending
  obtain ⟨rfl, rfl⟩ | ⟨rfl, rfl⟩ := List.append_eq_singleton_iff.mp hunread.symm
  · obtain rfl : before = [] := by simpa using congrArg List.length hbefore.text_eq
    have hbad := hrefused hgoes
    have hqueue := congrArg Stream.queue (hbad.stream_eq rfl)
    exact ⟨hs, hstart, hbad.next_eq, hqueue.trans (by decide +kernel),
      hbad.position_eq.trans (by decide +kernel)⟩
  · cases hgoes

end Grammar

end StateLexer
