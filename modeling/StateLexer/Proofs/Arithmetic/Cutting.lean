import StateLexer.Proofs.Arithmetic.Lexemes
import StateLexer.Proofs.Cursor.Numerals

/-! # Every input is cut

Whatever the input is, the grammar cuts it into lexemes from its beginning on, as far as it can.
Where no lexeme begins, either a number runs into a name or the character begins nothing at all. The
scan fails there, and says so right behind the last lexeme.
-/

namespace StateLexer.Arithmetic
open Cursor Text

def covered (spans : List Span) : String := String.join (spans.map Span.text)

/-- `text` is a comment of the input behind `before`: it goes from its mark up to a line end, which
is left out, or to the end of the input. -/
def CommentAt (input before text : String) : Prop :=
  ∃ body after, text = "#" ++ body ∧ '\n' ∉ body.toList ∧ input = before ++ text ++ after ∧
    (after = "" ∨ ∃ more, after = "\n" ++ more)

/-- The characters that lexemes begin with. -/
def begins (ch : Char) : Bool :=
  isWhite ch || ch == '#' || symbols.contains ch || (ch.isDigit || ch == '.') ||
    (isAlphabetic ch || ch == '_')

/-- No lexeme begins here, and what is said about that. -/
inductive Stuck : Diagnostic → List Char → Prop
  | number {ch : Char} {cs text : List Char} (hch : ch.isDigit = true ∨ ch = '.')
      (hname : (pastNumber (ch :: cs)).head?.any isNameChar = true)
      (htext : text ++ (pastNumber (ch :: cs)).dropWhile isNameChar = ch :: cs) :
      Stuck (.badNumber (String.ofList text)) (ch :: cs)
  | char {ch : Char} {cs : List Char} (hch : begins ch = false) :
      Stuck (.unexpectedChar ch) (ch :: cs)

variable {input : String} {n : ℕ} {spans : List Span} {cs rest text : List Char} {ch : Char}
  {d : Diagnostic}

section
variable {kind : Option Kind}

theorem Lexeme.ne_nil (h : Lexeme kind text rest) : text ≠ [] := by
  cases h with
  | white hne => exact hne
  | comment | symbol | number | name => exact List.cons_ne_nil _ _

theorem singleton_mem_numeral (hch : ch.isDigit = true ∨ ch = '.') : [ch] ∈ numeral := by
  left
  have hnone : ∀ l : Language Char, [] ∈ optional l := fun l => .inl rfl
  rcases hch with hdigit | rfl
  · have hrun : [ch] ∈ KStar.kstar (anyOf decimalDigits) := by
      apply mem_kstar_anyOf.mpr
      intro c hc
      rw [List.mem_singleton.mp hc]
      exact isMember_of_isDigit hdigit
    exact Language.append_mem_mul (Language.append_mem_mul
      (Language.append_mem_mul (hnone _) hrun) (hnone _)) (hnone _)
  · have hrun : [] ∈ KStar.kstar (anyOf decimalDigits) := mem_kstar_anyOf.mpr nofun
    have hpoint : ['.'] ∈ optional (anyOf "." * KStar.kstar (anyOf decimalDigits)) :=
      .inr (mem_anyOf_mul.mpr ⟨'.', [], rfl, hrun, rfl⟩)
    exact Language.append_mem_mul (Language.append_mem_mul
      (Language.append_mem_mul (hnone _) hrun) hpoint) (hnone _)

/-- A number takes its first character at least, and is refused or not by what comes behind it. -/
theorem number_or_stuck (cs : List Char) (hch : ch.isDigit = true ∨ ch = '.') :
    (∃ text rest, Lexeme (some .number) text rest ∧ text ++ rest = ch :: cs) ∨
      ∃ d, Stuck d (ch :: cs) := by
  obtain ⟨text, htext⟩ := pastNumber_isSuffix (singleton_mem_numeral hch) cs
  have hsplit : ch :: text ++ pastNumber (ch :: cs) = ch :: cs := congrArg (List.cons ch) htext
  cases hname : (pastNumber (ch :: cs)).head?.any isNameChar with
  | false =>
    refine .inl ⟨ch :: text, pastNumber (ch :: cs), .number hch ?_ hname, hsplit⟩
    rw [hsplit]
  | true =>
    obtain ⟨run, hrun⟩ := List.dropWhile_suffix (l := pastNumber (ch :: cs)) isNameChar
    have hall : (ch :: text ++ run) ++ (pastNumber (ch :: cs)).dropWhile isNameChar = ch :: cs := by
      rw [List.append_assoc, hrun, hsplit]
    exact .inr ⟨_, .number hch hname hall⟩

theorem lexeme_or_stuck (ch : Char) (cs : List Char) :
    (∃ kind text rest, Lexeme kind text rest ∧ text ++ rest = ch :: cs) ∨
      ∃ d, Stuck d (ch :: cs) := by
  cases hbegins : begins ch with
  | false => exact .inr ⟨_, .char hbegins⟩
  | true =>
    have hrun : ∀ test : Char → Bool, ∀ c ∈ cs.takeWhile test, test c = true :=
      fun test => List.all_eq_true.mp List.all_takeWhile
    have hsplit : ∀ test : Char → Bool, ch :: cs.takeWhile test ++ cs.dropWhile test = ch :: cs :=
      fun test => congrArg (List.cons ch) List.takeWhile_append_dropWhile
    simp only [begins, Bool.or_eq_true, beq_iff_eq, List.contains_iff_mem] at hbegins
    rcases hbegins with (((hwhite | rfl) | hsymbol) | hnumber) | hname
    · refine .inl ⟨_, _, _, .white (List.cons_ne_nil _ _) ?_ (head?_dropWhile isWhite cs),
        hsplit isWhite⟩
      intro c hc
      rcases List.mem_cons.mp hc with rfl | hc
      · exact hwhite
      · exact hrun isWhite c hc
    · exact .inl ⟨_, _, _, .comment (hrun _) (head?_dropWhile _ cs), hsplit (· != '\n')⟩
    · exact .inl ⟨_, _, cs, .symbol hsymbol, rfl⟩
    · exact (number_or_stuck cs hnumber).imp_left fun h => ⟨_, h⟩
    · exact .inl ⟨_, _, _, .name hname (hrun _) (head?_dropWhile _ cs), hsplit isNameChar⟩

/-- Every text falls into lexemes up to its end or up to where no lexeme begins. -/
theorem exists_lexes (cs : List Char) :
    ∃ spans rest, Lexes spans cs rest ∧ (rest = [] ∨ ∃ d, Stuck d rest) := by
  induction hn : cs.length using Nat.strong_induction_on generalizing cs with
  | h n ih =>
    subst hn
    cases cs with
    | nil => exact ⟨[], [], .nil, .inl rfl⟩
    | cons ch cs =>
      rcases lexeme_or_stuck ch cs with ⟨kind, text, rest, hlexeme, hsplit⟩ | hstuck
      · have hlen := congrArg List.length hsplit
        rw [List.length_append] at hlen
        have hpos : 0 < text.length := List.length_pos_of_ne_nil hlexeme.ne_nil
        obtain ⟨spans, last, hspans, hend⟩ := ih rest.length (by omega) rest rfl
        have hcons : Lexes (⟨kind, String.ofList text⟩ :: spans)
            ((String.ofList text).toList ++ rest) last :=
          .cons (by rwa [String.toList_ofList]) hspans
        rw [String.toList_ofList, hsplit] at hcons
        exact ⟨_, last, hcons, hend⟩
      · exact ⟨[], ch :: cs, .nil, .inr hstuck⟩

end

theorem covered_cons (s : Span) (spans : List Span) :
    covered (s :: spans) = s.text ++ covered spans := by
  rw [covered, List.map_cons, String.join_cons]
  rfl

namespace Lexes

theorem covered_append (h : Lexes spans cs rest) : (covered spans).toList ++ rest = cs := by
  induction h with
  | nil => rfl
  | cons _ _ ih => rw [covered_cons, String.toList_append, List.append_assoc, ih]

theorem of_append {before after : List Span} (h : Lexes (before ++ after) cs rest) :
    ∃ mid, Lexes before cs mid ∧ Lexes after mid rest := by
  induction before generalizing cs with
  | nil => exact ⟨cs, .nil, h⟩
  | cons s before ih =>
    cases h with
    | cons hlexeme hs =>
      obtain ⟨mid, hbefore, hafter⟩ := ih hs
      exact ⟨mid, .cons hlexeme hbefore, hafter⟩

theorem commentAt {before after : List Span} {s : Span}
    (h : Lexes (before ++ s :: after) input.toList rest) (hs : s.kind = none) :
    CommentAt input (covered before) s.text := by
  obtain ⟨mid, hbefore, hafter⟩ := h.of_append
  have hinput := hbefore.covered_append
  cases hafter with
  | @cons _ _ mid _ hlexeme hafter =>
    rw [hs] at hlexeme
    generalize htext : s.text.toList = text at hlexeme hinput
    cases hlexeme with
    | @comment body _ hbody hend =>
      have htext' : s.text = "#" ++ String.ofList body := by
        rw [← String.ofList_toList (s := s.text), htext, String.ofList_cons]
        rfl
      refine ⟨String.ofList body, String.ofList mid, htext', ?_, ?_, ?_⟩
      · rw [String.toList_ofList]
        intro hmem
        simpa using hbody _ hmem
      · apply String.toList_injective
        simp only [String.toList_append, String.toList_ofList, htext, List.append_assoc]
        exact hinput.symm
      · cases mid with
        | nil => exact .inl rfl
        | cons ch more =>
          obtain rfl : ch = '\n' := by simpa using hend
          exact .inr ⟨String.ofList more, String.ofList_cons⟩

theorem text_ne_empty (h : Lexes spans cs rest) (before : String) :
    ∀ t ∈ tokens before spans, t.text ≠ "" := by
  intro t ht hempty
  obtain ⟨after, hlexeme⟩ := h.exists_lexeme before t ht
  exact hlexeme.ne_nil (by rw [hempty]; rfl)

end Lexes

section
variable {s : Scanner Kind Unit} {l : Lexer Kind Unit Unit}
open Program

theorem exec_start_badNumber {text : String} (hpeek : s.cursor.peek? = some ch)
    (hch : ch.isDigit = true ∨ ch = '.')
    (hread : s.cursor.readNumber.1 = false)
    (htext : s.cursor.readNumber.2.pendingText? = some text) :
    (grammar.program .start).exec s = (.ok none,
      { s with cursor := s.cursor.readNumber.2 }.fail (Diagnostic.badNumber text).message) := by
  rw [exec_start_of_number hpeek hch, exec_publishNumber]
  simp only [htext, hread, Bool.false_eq_true, if_false]

theorem exec_start_char (hpeek : s.cursor.peek? = some ch) (hch : begins ch = false) :
    (grammar.program .start).exec s = (.ok none,
      { s with cursor := s.cursor.read.2 }.fail (Diagnostic.unexpectedChar ch).message) := by
  simp only [begins, isWhite, Bool.or_eq_false_iff] at hch
  obtain ⟨⟨⟨⟨⟨hblank, hend⟩, hhash⟩, hsymbol⟩, hdigit, hpoint⟩, hletter, hunderscore⟩ := hch
  simp only [Grammar.program, grammar, scan, bind_eq, exec_peek, hpeek, hblank, hend, hhash,
    hsymbol, hdigit, hpoint, hletter, hunderscore, Bool.or_self, Bool.false_eq_true, if_false, exec_read,
    exec_stopWith]

theorem takes_failed {message : String} (hstate : l.state = some .start)
    (hqueue : l.scanner.queue = [])
    (hexec : (grammar.program .start).exec l.scanner = (.ok none, s.fail message))
    (hrunning : s.halted = false) (hempty : s.queue = []) :
    ∃ m l', l.Takes grammar [.token ⟨.error, s.cursor.startPosition, message⟩] m ∧
      m.step grammar = (.closed, l') := by
  let r : Lexer Kind Unit Unit := { l with scanner := s.fail message, state := none }
  have hstream : r.scanner.stream = s.failed message := Scanner.stream_fail hrunning
  have hrun : l.step grammar = (.unsettled, r) := by
    simp only [Lexer.step, hqueue, hstate, Lexer.runState, hexec, ite_self, r]
  have hwaits : r.scanner.queue = [⟨.error, s.cursor.startPosition, message⟩] :=
    (congrArg Stream.queue hstream).trans (congrArg (· ++ _) hempty)
  let m : Lexer Kind Unit Unit :=
    { r with
      scanner := { r.scanner with queue := [] }
      lastPosition := some s.cursor.startPosition }
  have hdeliver : r.step grammar = (.token ⟨.error, s.cursor.startPosition, message⟩, m) := by
    simp only [Lexer.step, hwaits, m]
  have hclose : m.step grammar = (.closed, m.close) := by simp only [Lexer.step, m, r]
  exact ⟨m, m.close, (Lexer.Takes.of_step hrun).trans (.of_step hdeliver), hclose⟩

theorem Resumes.fails (h : Resumes input n l) (hs : Stuck d rest)
    (hdrop : input.toList.drop n = rest) :
    ∃ m l', l.Takes grammar
        [.token ⟨.error, .behind 1 (String.ofList (input.toList.take n)), d.message⟩] m ∧
      m.step grammar = (.closed, l') := by
  obtain ⟨u, hc⟩ := h.shows
  have hpeek : l.scanner.cursor.peek? = rest.head? := by
    rw [hc.peek?_eq, ← hdrop, List.head?_drop]
  have hstart : ∀ {c : Cursor} {left : List Char}, c.Leaves input 1 ⟨n, n, u⟩ left →
      c.startPosition = .behind 1 (String.ofList (input.toList.take n)) := by
    rintro c left ⟨k, v, hs, -⟩
    exact hs.startPosition_eq
  cases hs with
  | number hch hname htext =>
    obtain ⟨hnumber, hleaves⟩ := hc.readNumber_leaves hdrop
    rw [hname] at hnumber
    have hexec := exec_start_badNumber hpeek hch hnumber
      (hleaves.pendingText?_eq (hdrop.trans htext.symm))
    generalize l.scanner.cursor.readNumber.2 = c at hleaves hexec
    rw [← hstart hleaves]
    exact takes_failed h.state_eq h.queue_eq hexec h.running h.queue_eq
  | char hch =>
    have hleaves := hc.read_leaves hdrop
    rw [← hstart hleaves]
    exact takes_failed h.state_eq h.queue_eq (exec_start_char hpeek hch) h.running h.queue_eq

end

/-- Pulling tokens from the input comes to its end, after the tokens of the spans that it is cut into
and at most one failure. With the comments, which leave no token, in their places, the spans are the
whole input, or all of it up to the failure. -/
structure Cut (input : String) (spans : List Span) (failure : Option (Token Kind)) : Prop where
  delivers : ∀ j, ∃ n l', (lexer input).Delivers grammar
    ((tokens "" spans ++ failure.toList).map .token ++ List.replicate (j + 1) .closed) n l'
  tokens : ∀ t ∈ tokens "" spans, t.isError = false ∧ t.text ≠ ""
  comments : ∀ before s after, spans = before ++ s :: after → s.kind = none →
    CommentAt input (covered before) s.text
  covered_eq : failure = none → covered spans = input
  failure : ∀ e ∈ failure, e.isError = true ∧
    slice? input 0 e.position.offset = some (covered spans)

/-- Every input is cut. -/
theorem exists_cut (input : String) : ∃ spans failure, Cut input spans failure := by
  obtain ⟨spans, rest, hlexes, hend⟩ := exists_lexes input.toList
  obtain ⟨m, k, htakes, hresumes, hdrop⟩ := (resumes_lexer input).lexes hlexes rfl
  change (lexer input).Takes grammar ((tokens "" spans).map .token) m at htakes
  have hcovered := hlexes.covered_append
  have htake : String.ofList (input.toList.take k) = covered spans := by
    have hsplit := (List.take_append_drop k input.toList).trans hcovered.symm
    rw [hdrop] at hsplit
    rw [List.append_cancel_right hsplit, String.ofList_toList]
  have hgood : ∀ t ∈ tokens "" spans, t.isError = false ∧ t.text ≠ "" := fun t ht =>
    ⟨hlexes.isError_eq_false "" t ht, hlexes.text_ne_empty "" t ht⟩
  have hcomments : ∀ before s after, spans = before ++ s :: after → s.kind = none →
      CommentAt input (covered before) s.text := by
    rintro before s after rfl hs
    exact hlexes.commentAt hs
  rcases hend with rfl | ⟨d, hstuck⟩
  · refine ⟨spans, none, ?_⟩
    refine
      { delivers := ?delivers, tokens := hgood, comments := hcomments
        covered_eq := ?covered, failure := nofun }
    case delivers =>
      intro j
      obtain ⟨last, l', hlast, hclosed⟩ := hresumes.closes hdrop
      obtain ⟨n, hdelivers⟩ := (htakes.trans hlast).delivers hclosed j
      rw [← List.map_nil, ← List.map_append] at hdelivers
      exact ⟨n, l', hdelivers⟩
    case covered =>
      intro _
      apply String.toList_injective
      rwa [List.append_nil] at hcovered
  · obtain ⟨last, l', hlast, hclosed⟩ := hresumes.fails hstuck hdrop
    rw [htake] at hlast
    refine ⟨spans, some ⟨.error, .behind 1 (covered spans), d.message⟩, ?_⟩
    refine
      { delivers := ?delivers, tokens := hgood, comments := hcomments
        covered_eq := nofun, failure := ?failure }
    case delivers =>
      intro j
      obtain ⟨n, hdelivers⟩ := (htakes.trans hlast).delivers hclosed j
      exact ⟨n, l', by rwa [List.map_append]⟩
    case failure =>
      rintro e ⟨⟩
      refine ⟨rfl, slice?_eq_some_iff.mpr ⟨"", String.ofList rest, ?_, rfl, ?_⟩⟩
      · apply String.toList_injective
        rw [String.empty_append, String.toList_append, String.toList_ofList]
        exact hcovered.symm
      · rw [String.empty_append]
        rfl

end StateLexer.Arithmetic
