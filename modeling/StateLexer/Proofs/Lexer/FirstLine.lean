import StateLexer.Proofs.Cursor.Twins
import StateLexer.Proofs.Lexer.Lockstep

/-! # The first line only relabels

A run is started on one line or on another. Lines enter the positions of tokens and no decision, and
so, if no state looks at a line, both runs are the same up to the lines of their tokens. That holds
up to the last line, where the one run stops counting while the other goes on.
-/

namespace StateLexer
open Text

variable {K σ μ : Type}

/-- The positions are one place of the input, on the line that it has if the first line is `a`, and
if it is `b`. -/
def Position.Relabels (input : String) (a b : UInt32) (p q : Position) : Prop :=
  ∃ front rest, input = front ++ rest ∧
    p.offset = front.utf8ByteSize ∧ q.offset = front.utf8ByteSize ∧
    p.line.toNat = min (a.toNat + front.toList.count '\n') Cursor.lastLine.toNat ∧
    q.line.toNat = min (b.toNat + front.toList.count '\n') Cursor.lastLine.toNat

namespace Token

structure Relabels (input : String) (a b : UInt32) (t t' : Token K) : Prop where
  kind_eq : t.kind = t'.kind
  text_eq : t.text = t'.text
  position : Position.Relabels input a b t.position t'.position

structure SameButLine (t t' : Token K) : Prop where
  kind_eq : t.kind = t'.kind
  text_eq : t.text = t'.text
  offset_eq : t.position.offset = t'.position.offset

theorem Relabels.sameButLine {input : String} {a b : UInt32} {t t' : Token K}
    (h : Relabels input a b t t') : t.SameButLine t' := by
  obtain ⟨front, rest, -, hp, hq, -⟩ := h.position
  exact ⟨h.kind_eq, h.text_eq, hp.trans hq.symm⟩

end Token

/-- Answers are the same but for lines. What `inspect` tells may differ altogether. -/
def linesAside : Alike K μ
  | .cursor act, x, y => act.SameButLine x y
  | .lastSignificant, t, t' => Option.Rel Token.SameButLine t t'
  | .inspect, _, _ => True
  | _, x, y => x = y

/-- The request asks for a position, or for something that contains one. -/
def Op.AsksPlace : Op K μ → Prop
  | .cursor .position | .cursor .startPosition | .lastSignificant | .inspect => True
  | _ => False

theorem Program.Uses.respects_linesAside {α : Type} {p : Program K μ α}
    (h : p.Uses (¬ ·.AsksPlace)) : p.Respects linesAside := by
  refine Uses.respects (h.mono fun o ho x y hxy => ?_)
  cases o with
  | cursor act => cases act <;> first | exact hxy | exact absurd trivial ho
  | lastSignificant | inspect => exact absurd trivial ho
  | _ => exact hxy

theorem linesAside_plain : (linesAside : Alike K μ).Plain where
  readNumber _ _ h := h
  readRun _ _ _ h := h
  publishSpan _ _ _ h := h
  pendingText _ _ h := h
  fail _ _ _ h := h

variable {input : String} {a b : UInt32} {s s' : Scanner K μ}

theorem Cursor.Twins.startPosition {c c' : Cursor} (h : c.Twins input a b c') :
    Position.Relabels input a b c.startPosition c'.startPosition := by
  obtain ⟨z, hz, hz'⟩ := h
  refine ⟨String.ofList (input.toList.take z.start), String.ofList (input.toList.drop z.start),
    eq_take_append_drop input z.start, ?_, ?_, ?_, ?_⟩
  · rw [String.utf8ByteSize_ofList]
    exact hz.start_eq
  · rw [String.utf8ByteSize_ofList]
    exact hz'.start_eq
  · rw [String.toList_ofList]
    exact hz.startLine_eq
  · rw [String.toList_ofList]
    exact hz'.startLine_eq

/-- The scanners are the same up to their first lines, `a` and `b`. -/
structure Scanner.Relabels (input : String) (a b : UInt32) (s s' : Scanner K μ) : Prop where
  cursor : s.cursor.Twins input a b s'.cursor
  bookmarks_size : s.bookmarks.size = s'.bookmarks.size
  bookmarks : ∀ i : ℕ, Option.Rel (Cursor.Twins input a b) s.bookmarks[i]? s'.bookmarks[i]?
  queue : List.Forall₂ (Token.Relabels input a b) s.queue s'.queue
  lastSignificant : Option.Rel (Token.Relabels input a b) s.lastSignificant s'.lastSignificant
  lastKind_eq : s.lastKind = s'.lastKind
  halted_eq : s.halted = s'.halted
  memory_eq : s.memory = s'.memory
  isWhitespace_eq : s.isWhitespace = s'.isWhitespace

namespace Scanner.Relabels

variable (h : s.Relabels input a b s')
include h

theorem token (kind : K) (text : String) : Token.Relabels input a b
    ⟨kind, s.cursor.startPosition, text⟩ ⟨kind, s'.cursor.startPosition, text⟩ :=
  ⟨rfl, rfl, h.cursor.startPosition⟩

theorem publish (kind : K) (text : String) :
    (s.publish kind text).Relabels input a b (s'.publish kind text) := by
  have hhalted' : s.halted = s'.halted := h.halted_eq
  cases hh : s.halted with
  | true =>
    simp only [Scanner.publish, hh, ← hhalted', if_true]
    exact { h with cursor := h.cursor.markStart, halted_eq := rfl }
  | false =>
    have htoken := h.token kind text
    simp only [Scanner.publish, hh, ← hhalted', h.isWhitespace_eq, Bool.false_eq_true, if_false]
    refine { h with
      cursor := h.cursor.markStart, queue := List.rel_append h.queue (.cons htoken .nil),
      lastSignificant := ?_, lastKind_eq := rfl, halted_eq := rfl, isWhitespace_eq := rfl }
    simp only
    split
    · exact h.lastSignificant
    · exact .some htoken

theorem bookmark : s.bookmark.1 = s'.bookmark.1 ∧ s.bookmark.2.Relabels input a b s'.bookmark.2 := by
  refine ⟨h.bookmarks_size, { h with bookmarks_size := ?_, bookmarks := ?_ }⟩
  · rw [Scanner.bookmark, Scanner.bookmark, Array.size_push, Array.size_push, h.bookmarks_size]
  · intro i
    simp only [Scanner.bookmark, Array.getElem?_push, h.bookmarks_size]
    split
    · exact .some h.cursor
    · exact h.bookmarks i

variable [TokenKind K]

theorem fail (message : String) :
    (s.fail message).Relabels input a b (s'.fail message) := by
  have hhalted' : s.halted = s'.halted := h.halted_eq
  cases hh : s.halted with
  | true =>
    simp only [Scanner.fail, hh, ← hhalted', if_true]
    exact { h with }
  | false =>
    simp only [Scanner.fail, hh, ← hhalted', Bool.false_eq_true, if_false]
    exact { h with
      queue := List.rel_append h.queue (.cons (h.token TokenKind.error message) .nil),
      lastKind_eq := rfl, halted_eq := rfl }

theorem perform (o : Op K μ) :
    Agrees (linesAside o) (Relabels input a b) (o.perform s) (o.perform s') := by
  cases o with
  | cursor act =>
    obtain ⟨hanswer, hnext⟩ := h.cursor.perform act
    exact .ok hanswer { h with cursor := hnext }
  | publish kind text => exact .ok rfl (h.publish kind text)
  | fail message => exact .ok rfl (h.fail message)
  | publishSpan kind =>
    simp only [Op.perform, Scanner.publishSpan?, h.cursor.pendingText?_eq]
    cases s'.cursor.pendingText? with
    | none => exact .error h
    | some text => exact .ok rfl (h.publish kind text)
  | pendingText =>
    simp only [Op.perform, h.cursor.pendingText?_eq]
    cases s'.cursor.pendingText? with
    | none => exact .error h
    | some text => exact .ok rfl h
  | bookmark => exact .ok h.bookmark.1 h.bookmark.2
  | reset mark =>
    simp only [Op.perform, Scanner.reset]
    have hmark := h.bookmarks mark
    generalize s.bookmarks[mark]? = c, s'.bookmarks[mark]? = c' at hmark
    cases hmark with
    | some hc => exact .ok rfl { h with cursor := hc }
    | none => exact .ok rfl h
  | lastSignificant =>
    have hrel := h.lastSignificant
    refine .ok ?_ h
    generalize s.lastSignificant = t, s'.lastSignificant = t' at hrel
    cases hrel with
    | some ht => exact .some ht.sameButLine
    | none => exact .none
  | lastKind => exact .ok h.lastKind_eq h
  | isHalted => exact .ok h.halted_eq h
  | inspect => exact .ok trivial h
  | memory => exact .ok h.memory_eq h
  | remember value => exact .ok rfl { h with memory_eq := rfl }
  | raise message => exact .error h

end Scanner.Relabels

theorem Scanner.relabels_fresh (g : Grammar K σ μ) (input : String) (config : Config) (memory : μ)
    (a b : UInt32) : Scanner.Relabels input a b
      (g.scanner input { config with firstLine := a } memory)
      (g.scanner input { config with firstLine := b } memory) where
  cursor := .ofInput input a b
  bookmarks_size := rfl
  bookmarks _ := .none
  queue := .nil
  lastSignificant := .none
  lastKind_eq := rfl
  halted_eq := rfl
  memory_eq := rfl
  isWhitespace_eq := rfl

def relabelling (input : String) (a b : UInt32) : Likeness K μ where
  alike := linesAside
  scanner := Scanner.Relabels input a b
  token := Token.Relabels input a b
  position := Position.Relabels input a b
  plain := linesAside_plain
  position_of_token h := h.position
  halted_eq h := h.halted_eq
  queue h := h.queue
  deliver h hq hq' := by
    have hqueue := h.queue
    rw [hq, hq'] at hqueue
    exact { h with queue := (List.forall₂_cons.mp hqueue).2 }
  close h := { h with }

/-- The first line only relabels. From any two first lines, a grammar whose states do not tell lines
apart runs the same states and delivers the same tokens, each on the line that counts the line ends
before it from the one and from the other, and both lexers are closed and halted alike. -/
theorem Lexer.firstLine_runsAlike [TokenKind K] (g : Grammar K σ μ) (hg : g.Respects linesAside)
    (input : String) (config : Config) (a b : UInt32) (memory : μ) :
    Lexer.RunsAlike (Lexer.Outcome.Alike (Token.Relabels input a b))
      (fun m m' => m.closed = m'.closed ∧ m.scanner.halted = m'.scanner.halted) g g
      (.ofInput g input { config with firstLine := a } memory)
      (.ofInput g input { config with firstLine := b } memory) := by
  have hlock : Lexer.Lockstep (relabelling input a b) g g
      (.ofInput g input { config with firstLine := a } memory)
      (.ofInput g input { config with firstLine := b } memory) :=
    { like := ⟨Scanner.relabels_fresh g input config memory a b, rfl, .none, rfl⟩
      program_eq := fun _ => rfl
      respects := hg
      agrees := fun _ call _ _ hs => Scanner.Relabels.perform hs call.op }
  exact hlock.runsAlike.mono (fun _ _ h => h) fun m m' h => ⟨h.closed_eq, h.scanner.halted_eq⟩

/-- Three lines of a sum, numbered from the last line but one and from the first. -/
theorem Lexer.firstLine_runsAlike_sum :
    Arithmetic.grammar.Respects linesAside ∧
      Lexer.RunsAlike (Lexer.Outcome.Alike (Token.Relabels "é\n+\n1" 0xFFFFFFFE 1))
        (fun m m' => m.closed = m'.closed ∧ m.scanner.halted = m'.scanner.halted)
        Arithmetic.grammar Arithmetic.grammar
        (.ofInput Arithmetic.grammar "é\n+\n1" { firstLine := 0xFFFFFFFE } ())
        (.ofInput Arithmetic.grammar "é\n+\n1" { firstLine := 1 } ()) := by
  have hg : Arithmetic.grammar.Respects linesAside := by
    intro name
    apply Program.Uses.respects_linesAside
    refine Arithmetic.scan_uses.mono fun o ho hplace => ?_
    cases o with
    | cursor act => cases act <;> first | exact ho | exact hplace
    | lastSignificant | inspect => exact ho
    | _ => exact hplace
  exact ⟨hg, Lexer.firstLine_runsAlike _ hg "é\n+\n1" {} 0xFFFFFFFE 1 ()⟩

end StateLexer
