import StateLexer.Arithmetic
import StateLexer.Proofs.Cursor.Unread
import StateLexer.Proofs.Lexer.Steps
import StateLexer.Proofs.Program.Exec
import StateLexer.Proofs.Scanner.Ledger

/-! # Lexemes of arithmetic expressions

A lexeme is a stretch of the input that the grammar reads in one go, given what comes behind it. A
lexer that stands before a lexeme takes a few steps to stand behind it, and has delivered its token
by then, unless the lexeme is a comment. So a text that falls into lexemes is cut into their tokens.
-/

namespace StateLexer

variable {input : String} {n : ℕ}

namespace Arithmetic
open Cursor Text

/-- A stretch of the input, and the kind of its token if it leaves one. -/
structure Span where
  kind : Option Kind
  text : String

def Span.token? (before : String) (s : Span) : Option (Token Kind) :=
  s.kind.map (⟨·, .behind 1 before, s.text⟩)

/-- The tokens of spans that stand one after the other behind `before`. -/
def tokens (before : String) : List Span → List (Token Kind)
  | [] => []
  | s :: spans => (s.token? before).toList ++ tokens (before ++ s.text) spans

def isWhite (ch : Char) : Bool := isBlank ch || isLineEnd ch

/-- A text that is read in one go if `rest` comes behind it, and the kind of its token. -/
inductive Lexeme : Option Kind → (text rest : List Char) → Prop
  | white {text rest : List Char} (hne : text ≠ []) (htext : ∀ ch ∈ text, isWhite ch = true)
      (hrest : rest.head?.any isWhite = false) : Lexeme (some .whitespace) text rest
  | comment {text rest : List Char} (htext : ∀ ch ∈ text, (ch != '\n') = true)
      (hrest : rest.head?.any (· != '\n') = false) : Lexeme none ('#' :: text) rest
  | symbol {ch : Char} {rest : List Char} (hch : ch ∈ symbols) : Lexeme (some .punct) [ch] rest
  | number {ch : Char} {text rest : List Char} (hch : ch.isDigit = true ∨ ch = '.')
      (hpast : pastNumber (ch :: text ++ rest) = rest)
      (hrest : rest.head?.any isNameChar = false) : Lexeme (some .number) (ch :: text) rest
  | name {ch : Char} {text rest : List Char} (hch : isAlphabetic ch = true ∨ ch = '_')
      (htext : ∀ ch ∈ text, isNameChar ch = true)
      (hrest : rest.head?.any isNameChar = false) : Lexeme (some .ident) (ch :: text) rest

/-- The characters fall into lexemes, and `rest` comes behind them. -/
inductive Lexes : List Span → (cs rest : List Char) → Prop
  | nil {rest : List Char} : Lexes [] rest rest
  | cons {s : Span} {spans : List Span} {cs rest : List Char} (h : Lexeme s.kind s.text.toList cs)
      (hs : Lexes spans cs rest) : Lexes (s :: spans) (s.text.toList ++ cs) rest

/-- The lexer stands before the character `n`, with nothing pending and nothing queued. -/
structure Resumes (input : String) (n : ℕ) (l : Lexer Kind Unit Unit) : Prop where
  shows : ∃ undoable, l.scanner.cursor.Shows input 1 ⟨n, n, undoable⟩
  queue_eq : l.scanner.queue = []
  running : l.scanner.halted = false
  state_eq : l.state = some .start

theorem resumes_lexer (input : String) : Resumes input 0 (lexer input) :=
  ⟨⟨false, .ofInput input 1⟩, rfl, rfl, rfl⟩

theorem isMember_white : isMember " \t\r\n" = isWhite := by
  funext ch
  have hset : " \t\r\n".toList = [' ', '\t', '\r', '\n'] := rfl
  simp only [isMember, hset, isWhite, isBlank, isLineEnd, List.contains_cons, List.contains_nil,
    Bool.or_false, Bool.or_assoc]

theorem not_marks {ch : Char}
    (h : ch.isDigit = true ∨ ch = '.' ∨ isAlphabetic ch = true ∨ ch = '_') :
    (isBlank ch || isLineEnd ch) = false ∧ (ch == '#') = false ∧ symbols.contains ch = false := by
  have hmarks : ([' ', '\t', '\r', '\n', '#'] ++ symbols).all (fun mark =>
      !(mark.isDigit || mark == '.' || isAlphabetic mark || mark == '_')) = true := by
    decide
  have hch : ch ∉ [' ', '\t', '\r', '\n', '#'] ++ symbols := by
    intro hmem
    have hmark := List.all_eq_true.mp hmarks ch hmem
    rcases h with h | rfl | h | rfl <;> simp_all
  simp only [List.mem_append, List.mem_cons, List.not_mem_nil, or_false, not_or] at hch
  obtain ⟨⟨hspace, htab, hreturn, hfeed, hhash⟩, hsymbols⟩ := hch
  refine ⟨?_, ?_, ?_⟩
  · simp [isBlank, isLineEnd, hspace, htab, hreturn, hfeed]
  · simpa using hhash
  · simpa using hsymbols

section
variable {s : Scanner Kind Unit} {ch : Char} {text : String}
open Program

theorem exec_start_end (hpeek : s.cursor.peek? = none) :
    (grammar.program .start).exec s = (.ok none, s) := by
  simp only [Grammar.program, grammar, scan, bind_eq, exec_peek, hpeek, pure_eq, exec_done]

theorem exec_start_white (hpeek : s.cursor.peek? = some ch) (hch : isWhite ch = true)
    (htext : (s.cursor.readMembers " \t\r\n").pendingText? = some text) :
    (grammar.program .start).exec s = (.ok (some .start),
      { s with cursor := s.cursor.readMembers " \t\r\n" }.publish .whitespace text) := by
  unfold isWhite at hch
  simp only [Grammar.program, grammar, scan, bind_eq, exec_peek, hpeek, hch, if_true, exec_readMembers]
  apply exec_publishSpan
  exact htext

theorem exec_start_comment (hpeek : s.cursor.peek? = some '#') :
    (grammar.program .start).exec s = (.ok (some .start),
      { s with cursor := (s.cursor.readWhile (· != '\n')).2.markStart }) := by
  have hwhite : (isBlank '#' || isLineEnd '#') = false := rfl
  simp only [Grammar.program, grammar, scan, bind_eq, exec_peek, hpeek, hwhite,
    Bool.false_eq_true, if_false, beq_self_eq_true, if_true, exec_readWhile, exec_skip, pure_eq,
    exec_done]

theorem exec_start_symbol (hpeek : s.cursor.peek? = some ch) (hch : ch ∈ symbols)
    (htext : s.cursor.read.2.pendingText? = some text) :
    (grammar.program .start).exec s = (.ok (some .start),
      { s with cursor := s.cursor.read.2 }.publish .punct text) := by
  have hbefore : symbols.all (fun mark =>
      !(isBlank mark || isLineEnd mark) && !(mark == '#')) = true := by
    decide
  have hmark := List.all_eq_true.mp hbefore ch hch
  simp only [Bool.and_eq_true, Bool.not_eq_true'] at hmark
  obtain ⟨hwhite, hhash⟩ := hmark
  have hsymbol : symbols.contains ch = true := List.contains_iff_mem.mpr hch
  simp only [Grammar.program, grammar, scan, bind_eq, exec_peek, hpeek, hwhite, hhash, hsymbol,
    Bool.false_eq_true, if_false, if_true, exec_read]
  apply exec_publishSpan
  exact htext

theorem exec_start_of_number (hpeek : s.cursor.peek? = some ch)
    (hch : ch.isDigit = true ∨ ch = '.') :
    (grammar.program .start).exec s = (publishNumber .number).exec s := by
  obtain ⟨hwhite, hhash, hsymbol⟩ := not_marks (hch.imp_right .inl)
  have hnumber : (ch.isDigit || ch == '.') = true := by simpa using hch
  simp only [Grammar.program, grammar, scan, bind_eq, exec_peek, hpeek, hwhite, hhash, hsymbol,
    hnumber, Bool.false_eq_true, if_false, if_true]

theorem exec_start_number (hpeek : s.cursor.peek? = some ch) (hch : ch.isDigit = true ∨ ch = '.')
    (hread : s.cursor.readNumber.1 = true)
    (htext : s.cursor.readNumber.2.pendingText? = some text) :
    (grammar.program .start).exec s = (.ok (some .start),
      { s with cursor := s.cursor.readNumber.2 }.publish .number text) := by
  rw [exec_start_of_number hpeek hch, exec_publishNumber]
  simp only [htext, hread, if_true]

theorem exec_start_name (hpeek : s.cursor.peek? = some ch)
    (hch : isAlphabetic ch = true ∨ ch = '_') :
    (grammar.program .start).exec s = (.ok (some (.run .ident inName .start)), s) := by
  obtain ⟨hwhite, hhash, hsymbol⟩ := not_marks (.inr (.inr hch))
  have hnumber : (ch.isDigit || ch == '.') = false := by
    by_contra hstart
    rw [Bool.not_eq_false, Bool.or_eq_true, beq_iff_eq] at hstart
    rcases hstart with hdigit | rfl
    · rcases hch with hch | rfl
      · rw [not_isAlphabetic_of_isDigit hdigit] at hch
        cases hch
      · revert hdigit
        decide
    · revert hch
      decide
  have hname : (isAlphabetic ch || ch == '_') = true := by simpa using hch
  simp only [Grammar.program, grammar, scan, bind_eq, exec_peek, hpeek, hwhite, hhash, hsymbol,
    hnumber, hname, Bool.false_eq_true, if_false, if_true, pure_eq, exec_done]

theorem exec_name (hread : (s.cursor.readRun inName).1 = .ok ())
    (htext : (s.cursor.readRun inName).2.pendingText? = some text) :
    (grammar.program (.run .ident inName .start)).exec s = (.ok (some .start),
      { s with cursor := (s.cursor.readRun inName).2 }.publish .ident text) := by
  have hexec := exec_publishRun .ident inName (.start : State Kind Unit) s
  simp only [hread, htext] at hexec
  exact hexec

end

section
variable {l : Lexer Kind Unit Unit} {text rest : List Char}

theorem takes_published {state : State Kind Unit} {kind : Kind} {s : Scanner Kind Unit}
    {undoable : Bool} (hqueue : l.scanner.queue = []) (hstate : l.state = some state)
    (hexec : (grammar.program state).exec l.scanner =
      (.ok (some .start), s.publish kind (String.ofList text)))
    (hrunning : s.halted = false) (hempty : s.queue = [])
    (hleaves : s.cursor.Leaves input 1 ⟨n, n, undoable⟩ rest)
    (hdrop : input.toList.drop n = text ++ rest) {token : Token Kind}
    (htoken : token = ⟨kind, .behind 1 (String.ofList (input.toList.take n)), String.ofList text⟩) :
    ∃ m, l.Takes grammar [.token token] m ∧ Resumes input (n + text.length) m := by
  obtain ⟨v, hc⟩ := hleaves.shows hdrop
  let r : Lexer Kind Unit Unit :=
    { l with scanner := s.publish kind (String.ofList text), state := some .start }
  have hhalted : r.scanner.halted = false := by simp [r, Scanner.publish, Scanner.note, hrunning]
  have hcursor : r.scanner.cursor = s.cursor.markStart := by
    simp [r, Scanner.publish, Scanner.note, hrunning]
  have hpublished : r.scanner.queue = [token] := by
    rw [htoken, ← hc.startPosition_eq]
    have hstream : (s.publish kind (String.ofList text)).stream = _ :=
      Scanner.stream_publish_of_not_halted hrunning
    exact (congrArg Stream.queue hstream).trans (congrArg (· ++ _) hempty)
  have hrun : l.step grammar = (.unsettled, r) :=
    Lexer.step_of_running hqueue hstate hexec hhalted
  have hdeliver : r.step grammar =
      (.token token,
        { r with
          scanner := { r.scanner with queue := [] }
          lastPosition := some token.position }) := by
    simp only [Lexer.step, hpublished]
  refine ⟨_, (Lexer.Takes.of_step hrun).trans (.of_step hdeliver), ⟨v, ?_⟩, rfl, hhalted, rfl⟩
  rw [hcursor]
  exact hc.markStart

/-- A lexeme is stepped over, and its token is all that is delivered. -/
theorem Resumes.lexeme {kind : Option Kind} (h : Resumes input n l) (hs : Lexeme kind text rest)
    (hdrop : input.toList.drop n = text ++ rest) :
    ∃ m, l.Takes grammar ((Span.token? (String.ofList (input.toList.take n))
        ⟨kind, String.ofList text⟩).toList.map .token) m ∧
      Resumes input (n + text.length) m := by
  obtain ⟨u, hc⟩ := h.shows
  have hpeek : l.scanner.cursor.peek? = (text ++ rest).head? := by
    rw [hc.peek?_eq, ← hdrop, List.head?_drop]
  cases hs with
  | white hne htext hrest =>
    obtain ⟨ch, text, rfl⟩ := List.exists_cons_of_ne_nil hne
    have hleaves := hc.readMembers_leaves hdrop " \t\r\n"
    rw [isMember_white, dropWhile_append_eq htext hrest] at hleaves
    have hexec := exec_start_white hpeek (htext ch List.mem_cons_self) (hleaves.pendingText?_eq hdrop)
    exact takes_published h.queue_eq h.state_eq hexec h.running h.queue_eq hleaves hdrop rfl
  | comment htext hrest =>
    have hleaves := hc.readWhile_leaves hdrop (· != '\n')
    rw [List.cons_append, List.dropWhile_cons_of_pos (by decide),
      dropWhile_append_eq htext hrest] at hleaves
    obtain ⟨v, hc'⟩ := hleaves.shows hdrop
    have hstep := Lexer.step_of_running h.queue_eq h.state_eq (exec_start_comment hpeek) h.running
    exact ⟨_, .of_step hstep, ⟨v, hc'.markStart⟩, h.queue_eq, h.running, rfl⟩
  | symbol hch =>
    have hleaves := hc.read_leaves hdrop
    have hexec := exec_start_symbol hpeek hch (hleaves.pendingText?_eq hdrop)
    exact takes_published h.queue_eq h.state_eq hexec h.running h.queue_eq hleaves hdrop rfl
  | number hch hpast hrest =>
    obtain ⟨hnumber, hleaves⟩ := hc.readNumber_leaves hdrop
    rw [hpast, hrest] at hnumber
    rw [hpast, dropWhile_eq_self hrest] at hleaves
    have hexec := exec_start_number hpeek hch hnumber (hleaves.pendingText?_eq hdrop)
    generalize l.scanner.cursor.readNumber.2 = c at hleaves hexec
    exact takes_published h.queue_eq h.state_eq hexec h.running h.queue_eq hleaves hdrop rfl
  | @name ch text rest hch htext hrest =>
    have hstep := Lexer.step_of_running h.queue_eq h.state_eq (exec_start_name hpeek hch) h.running
    have hrun : ∀ ch, inName ch = .ok (ch.any isNameChar) := fun _ => rfl
    obtain ⟨hread, hleaves⟩ := hc.readRun_leaves hdrop hrun
    have hall : ∀ c ∈ ch :: text, isNameChar c = true := by
      intro c hmem
      rcases List.mem_cons.mp hmem with rfl | hmem
      · rcases hch with hch | rfl
        · simp [isNameChar, hch]
        · rfl
      · exact htext c hmem
    rw [dropWhile_append_eq hall hrest] at hleaves
    have hexec := exec_name hread (hleaves.pendingText?_eq hdrop)
    obtain ⟨m, htakes, hm⟩ := takes_published
      (l := { l with state := some (.run .ident inName .start) }) h.queue_eq rfl hexec h.running
      h.queue_eq hleaves hdrop rfl
    exact ⟨m, (Lexer.Takes.of_step hstep).trans htakes, hm⟩

theorem Resumes.closes (h : Resumes input n l) (hdrop : input.toList.drop n = []) :
    ∃ m l', l.Takes grammar [] m ∧ m.step grammar = (.closed, l') := by
  obtain ⟨u, hc⟩ := h.shows
  have hpeek : l.scanner.cursor.peek? = none := by
    rw [hc.peek?_eq, ← List.head?_drop, hdrop, List.head?_nil]
  have hstep := Lexer.step_of_running h.queue_eq h.state_eq (exec_start_end hpeek) h.running
  let m : Lexer Kind Unit Unit := { l with state := none }
  have hclose : m.step grammar = (.closed, m.close) := by simp only [Lexer.step, h.queue_eq, m]
  exact ⟨m, m.close, .of_step hstep, hclose⟩

theorem Resumes.lexes {spans : List Span} {cs : List Char} (h : Resumes input n l)
    (hs : Lexes spans cs rest) (hdrop : input.toList.drop n = cs) :
    ∃ m k, l.Takes grammar ((tokens (String.ofList (input.toList.take n)) spans).map .token) m ∧
      Resumes input k m ∧ input.toList.drop k = rest := by
  induction hs generalizing n l with
  | nil => exact ⟨l, n, .refl grammar l, h, hdrop⟩
  | cons hlexeme hs ih =>
    obtain ⟨m, htakes, hm⟩ := h.lexeme hlexeme hdrop
    rename_i s spans cs rest
    have hbehind : String.ofList (input.toList.take (n + s.text.toList.length)) =
        String.ofList (input.toList.take n) ++ s.text := by
      rw [List.take_add, hdrop, List.take_left, String.ofList_append, String.ofList_toList]
    have hrest : input.toList.drop (n + s.text.toList.length) = cs := by
      rw [← List.drop_drop, hdrop, List.drop_left]
    obtain ⟨m', k, htakes', hm', hk⟩ := ih hm hrest
    rw [hbehind] at htakes'
    rw [String.ofList_toList] at htakes
    refine ⟨m', k, ?_, hm', hk⟩
    rw [tokens, List.map_append]
    exact htakes.trans htakes'

theorem Lexeme.ne_error {kind : Kind} (h : Lexeme (some kind) text rest) : kind ≠ .error := by
  rintro rfl
  cases h

theorem Lexes.exists_lexeme {spans : List Span} {cs : List Char} (hs : Lexes spans cs rest)
    (before : String) :
    ∀ t ∈ tokens before spans, ∃ after, Lexeme (some t.kind) t.text.toList after := by
  induction hs generalizing before with
  | nil => simp [tokens]
  | @cons s spans cs rest hlexeme hs ih =>
    intro t ht
    rcases List.mem_append.mp ht with ht | ht
    · obtain ⟨kind, hkind, rfl⟩ := Option.map_eq_some_iff.mp (Option.mem_toList.mp ht)
      rw [hkind] at hlexeme
      exact ⟨cs, hlexeme⟩
    · exact ih _ t ht

theorem Lexes.isError_eq_false {spans : List Span} {cs : List Char} (hs : Lexes spans cs rest)
    (before : String) : ∀ t ∈ tokens before spans, t.isError = false := by
  intro t ht
  obtain ⟨after, hlexeme⟩ := hs.exists_lexeme before t ht
  exact decide_eq_false hlexeme.ne_error

end

end Arithmetic

end StateLexer
