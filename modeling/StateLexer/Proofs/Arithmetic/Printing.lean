import StateLexer.Proofs.Arithmetic.Lexemes

/-! # Lexing undoes printing

A text is printed from pieces with separators behind them. A piece is a number in one of three
notations, a name or a symbol; a separator is white space or a comment. Whatever pieces meet
whatever separators, each piece and each separator is a lexeme where it stands, or some lexemes one
after the other, so the tokens of the text are those that it was printed from.
-/

namespace StateLexer.Arithmetic
open Cursor Text

def isHexDigit (ch : Char) : Bool :=
  ch.isDigit || ('a' ≤ ch && ch ≤ 'f') || ('A' ≤ ch && ch ≤ 'F')

/-- The text of a piece and the kind of its token. -/
inductive Piece : Kind → List Char → Prop
  | integer {digits : List Char} (hne : digits ≠ []) (h : ∀ ch ∈ digits, ch.isDigit = true) :
      Piece .number digits
  | hex {digits : List Char} (hne : digits ≠ []) (h : ∀ ch ∈ digits, isHexDigit ch = true) :
      Piece .number ('0' :: 'x' :: digits)
  | fraction {whole part : List Char} (hwhole : whole ≠ []) (hpart : part ≠ [])
      (h : ∀ ch ∈ whole, ch.isDigit = true) (h' : ∀ ch ∈ part, ch.isDigit = true) :
      Piece .number (whole ++ '.' :: part)
  | name {first : Char} {others : List Char} (h : first.isLower = true ∨ first = '_')
      (h' : ∀ ch ∈ others, ch.isLower = true ∨ ch.isDigit = true ∨ ch = '_') :
      Piece .ident (first :: others)
  | symbol {ch : Char} (h : ch ∈ ['+', '-', '*', '(', ')']) : Piece .punct [ch]

inductive Separator where
  | space
  | lineEnd
  | tab
  | comment
  deriving DecidableEq, Repr

def Separator.text : Separator → String
  | space => " "
  | lineEnd => "\n"
  | tab => "\t"
  | comment => " # note\n"

/-- The comment itself leaves no token, and parts the white space around it. -/
def Separator.spans : Separator → List Span
  | comment => [⟨some .whitespace, " "⟩, ⟨none, "# note"⟩, ⟨some .whitespace, "\n"⟩]
  | s => [⟨some .whitespace, s.text⟩]

/-- A piece and the separator behind it. -/
structure Item where
  kind : Kind
  text : String
  piece : Piece kind text.toList
  separator : Separator

def Item.spans (item : Item) : List Span := ⟨some item.kind, item.text⟩ :: item.separator.spans

def print : List Item → String
  | [] => ""
  | item :: items => item.text ++ item.separator.text ++ print items

section
variable {digits valid : String} {cs rest text : List Char} {ch : Char} {kind : Kind}

/-- Neither a name nor a number goes on here. -/
def Stops (rest : List Char) : Prop := rest.head?.any (fun ch => isNameChar ch || ch == '.') = false

theorem isMember_of_isHexDigit (h : isHexDigit ch = true) : isMember hexDigits ch = true := by
  simp only [isHexDigit, Char.isDigit, Bool.or_eq_true, Bool.and_eq_true, decide_eq_true_eq] at h
  rcases h with (⟨hlow, hhigh⟩ | ⟨hlow, hhigh⟩) | ⟨hlow, hhigh⟩
  · have hlow' : '0' ≤ ch := hlow
    have hhigh' : ch ≤ '9' := hhigh
    exact isMember_of_range hlow' hhigh' (by decide)
  · exact isMember_of_range hlow hhigh (by decide)
  · exact isMember_of_range hlow hhigh (by decide)

theorem Stops.meets_eq_false (h : Stops rest)
    (hvalid : valid.toList.all (fun ch => isNameChar ch || ch == '.') = true) :
    meets valid rest = false := by
  cases rest with
  | nil => rfl
  | cons ch rest =>
    by_contra hmeets
    have hmember : isMember valid ch = true := by simpa [meets] using hmeets
    have hgoes : (isNameChar ch || ch == '.') = true := of_isMember hvalid hmember
    cases hgoes.symm.trans h

theorem not_isMember_of_isDigit (h : ch.isDigit = true)
    (hvalid : valid.toList.all (fun ch => !ch.isDigit) = true) : isMember valid ch = false := by
  by_contra hmember
  have hno := of_isMember hvalid (by simpa using hmember)
  rw [h] at hno
  cases hno

theorem meets_eq_false_of_digits (h : ∀ ch ∈ text, ch.isDigit = true)
    (hvalid : valid.toList.all (fun ch => !ch.isDigit) = true) (hrest : meets valid rest = false) :
    meets valid (text ++ rest) = false := by
  cases text with
  | nil => exact hrest
  | cons ch text => exact not_isMember_of_isDigit (h ch List.mem_cons_self) hvalid

theorem pastNumber_digits (hne : text ≠ []) (h : ∀ ch ∈ text, ch.isDigit = true)
    (hx : meets "xX" rest = false) (hdigits : meets decimalDigits rest = false) :
    pastNumber (text ++ rest) = pastExponent (pastFraction decimalDigits rest) := by
  have hrun : ∀ ds : List Char, (∀ ch ∈ ds, ch.isDigit = true) →
      (ds ++ rest).dropWhile (isMember decimalDigits) = rest := fun ds hds =>
    dropWhile_append_eq (fun ch hch => isMember_of_isDigit (hds ch hch)) hdigits
  obtain ⟨ch, ds, rfl⟩ := List.exists_cons_of_ne_nil hne
  have hds : ∀ d ∈ ds, d.isDigit = true := fun d hd => h d (List.mem_cons_of_mem _ hd)
  have hsign : pastMember "+-" (ch :: ds ++ rest) = ch :: ds ++ rest := by
    rw [pastMember, List.cons_append, meets, List.head?_cons, Option.any_some,
      not_isMember_of_isDigit (h ch List.mem_cons_self) (by decide), if_neg Bool.false_ne_true]
  have hmark : meets "xX" (ds ++ rest) = false := meets_eq_false_of_digits hds (by decide) hx
  -- a leading zero is read as the start of a mark, and the other digits behind it
  have hbase : ∃ ds', pastBase (ch :: ds ++ rest) = (decimalDigits, ds' ++ rest) ∧
      ∀ d ∈ ds', d.isDigit = true := by
    rw [pastBase]
    split
    · rw [List.cons_append, List.tail_cons, hmark, if_neg Bool.false_ne_true]
      exact ⟨ds, rfl, hds⟩
    · exact ⟨ch :: ds, rfl, h⟩
  obtain ⟨ds', hbase, hds'⟩ := hbase
  simp only [pastNumber, hsign, hbase, hrun ds' hds']

theorem Stops.pastFraction_eq (h : Stops rest) : pastFraction digits rest = rest := by
  rw [pastFraction, h.meets_eq_false (by decide), if_neg Bool.false_ne_true]

theorem Stops.pastExponent_eq (h : Stops rest) : pastExponent rest = rest := by
  rw [pastExponent, h.meets_eq_false (by decide), if_neg Bool.false_ne_true]

theorem Stops.not_isNameChar (h : Stops rest) : rest.head?.any isNameChar = false := by
  cases rest with
  | nil => rfl
  | cons ch rest =>
    have hstop : (isNameChar ch || ch == '.') = false := h
    exact (Bool.or_eq_false_iff.mp hstop).1

theorem Piece.pastNumber_eq (h : Piece .number text) (hrest : Stops rest) :
    pastNumber (text ++ rest) = rest := by
  cases h with
  | integer hne h =>
    rw [pastNumber_digits hne h (hrest.meets_eq_false (by decide)) (hrest.meets_eq_false (by decide)),
      hrest.pastFraction_eq, hrest.pastExponent_eq]
  | @hex ds hne h =>
    have hbase : pastBase ('0' :: 'x' :: ds ++ rest) = (hexDigits, ds ++ rest) := rfl
    have hsign : pastMember "+-" ('0' :: 'x' :: ds ++ rest) = '0' :: 'x' :: ds ++ rest := rfl
    simp only [pastNumber, hsign, hbase]
    rw [dropWhile_append_eq (fun ch hch => isMember_of_isHexDigit (h ch hch))
      (hrest.meets_eq_false (by decide)), hrest.pastFraction_eq, hrest.pastExponent_eq]
  | @fraction whole part hwhole hpart h h' =>
    have hpoint : pastFraction decimalDigits ('.' :: (part ++ rest)) =
        (part ++ rest).dropWhile (isMember decimalDigits) := rfl
    rw [List.append_assoc, List.cons_append, pastNumber_digits hwhole h rfl rfl, hpoint,
      dropWhile_append_eq (fun ch hch => isMember_of_isDigit (h' ch hch))
        (hrest.meets_eq_false (by decide)), hrest.pastExponent_eq]

theorem Piece.exists_digit (h : Piece .number text) :
    ∃ ch cs, text = ch :: cs ∧ ch.isDigit = true := by
  cases h with
  | integer hne h =>
    obtain ⟨ch, cs, rfl⟩ := List.exists_cons_of_ne_nil hne
    exact ⟨ch, cs, rfl, h ch List.mem_cons_self⟩
  | hex hne h => exact ⟨'0', _, rfl, rfl⟩
  | fraction hwhole hpart h h' =>
    obtain ⟨ch, cs, rfl⟩ := List.exists_cons_of_ne_nil hwhole
    exact ⟨ch, _, rfl, h ch List.mem_cons_self⟩

theorem isAlpha_of_isLower (h : ch.isLower = true) : ch.isAlpha = true :=
  (Bool.or_eq_true _ _).mpr (.inr h)

theorem Piece.lexeme (h : Piece kind text) (hrest : Stops rest) : Lexeme (some kind) text rest := by
  have hname := hrest.not_isNameChar
  cases kind with
  | number =>
    obtain ⟨ch, cs, rfl, hdigit⟩ := h.exists_digit
    exact .number (.inl hdigit) (h.pastNumber_eq hrest) hname
  | ident =>
    cases h with
    | name h h' =>
      refine .name (h.imp_left fun hlower => isAlphabetic_of_isAlpha (isAlpha_of_isLower hlower)) ?_
        hname
      intro ch hch
      rcases h' ch hch with hlower | hdigit | rfl
      · exact isNameChar_of_isAlpha (isAlpha_of_isLower hlower)
      · exact isNameChar_of_isDigit hdigit
      · rfl
  | punct =>
    cases h with
    | symbol h => exact .symbol h
  | error | whitespace => cases h

theorem Piece.not_isWhite (h : Piece kind text) : (text ++ rest).head?.any isWhite = false := by
  cases kind with
  | number =>
    obtain ⟨ch, cs, rfl, hdigit⟩ := h.exists_digit
    exact (not_marks (.inl hdigit)).1
  | ident =>
    cases h with
    | name h h' =>
      have hstart := h.imp_left fun hlower => isAlphabetic_of_isAlpha (isAlpha_of_isLower hlower)
      exact (not_marks (.inr (.inr hstart))).1
  | punct =>
    cases h with
    | @symbol ch h =>
      have hall : symbols.all (fun mark => !isWhite mark) = true := by decide
      simpa using List.all_eq_true.mp hall ch h
  | error | whitespace => cases h

end

section
variable {spans : List Span} {cs rest : List Char}

theorem Separator.stops (s : Separator) (cs : List Char) : Stops (s.text.toList ++ cs) := by
  cases s <;> rfl

theorem Separator.lexes (s : Separator) (hs : Lexes spans cs rest)
    (hnext : cs.head?.any isWhite = false) :
    Lexes (s.spans ++ spans) (s.text.toList ++ cs) rest := by
  have hwhite : ∀ (text : String), text.toList ≠ [] → text.toList.all isWhite = true →
      Lexes (⟨some .whitespace, text⟩ :: spans) (text.toList ++ cs) rest :=
    fun text hne htext => .cons (.white hne (List.all_eq_true.mp htext) hnext) hs
  cases s with
  | space => exact hwhite " " (by decide) (by decide)
  | lineEnd => exact hwhite "\n" (by decide) (by decide)
  | tab => exact hwhite "\t" (by decide) (by decide)
  | comment =>
    have hnote : [' ', 'n', 'o', 't', 'e'].all (· != '\n') = true := by decide
    have hcomment : Lexes (⟨none, "# note"⟩ :: ⟨some .whitespace, "\n"⟩ :: spans)
        ("# note".toList ++ ("\n".toList ++ cs)) rest :=
      .cons (.comment (List.all_eq_true.mp hnote) rfl) (hwhite "\n" (by decide) (by decide))
    have hspace : " ".toList.all isWhite = true := by decide
    exact .cons (s := ⟨some .whitespace, " "⟩)
      (.white (by decide) (List.all_eq_true.mp hspace) rfl) hcomment

/-- A printed text falls into the lexemes that it was printed from. -/
theorem lexes_print (items : List Item) :
    Lexes (items.flatMap Item.spans) (print items).toList [] := by
  induction items with
  | nil => exact .nil
  | cons item items ih =>
    have hnext : (print items).toList.head?.any isWhite = false := by
      cases items with
      | nil => rfl
      | cons next items =>
        rw [print, String.append_assoc, String.toList_append]
        exact next.piece.not_isWhite
    rw [print, String.append_assoc, String.toList_append, String.toList_append, List.flatMap_cons]
    exact .cons (item.piece.lexeme (item.separator.stops _)) (item.separator.lexes ih hnext)

end

/-- Whatever pieces are printed with whatever separators, pulling tokens from the text comes to the
end. It delivers each piece and the white space of each separator where it stands, in order, and no
error. -/
theorem lexer_print (items : List Item) (j : ℕ) :
    let printed := tokens "" (items.flatMap Item.spans)
    (∃ n l', (lexer (print items)).Delivers grammar
      (printed.map .token ++ List.replicate (j + 1) .closed) n l') ∧
      ∀ t ∈ printed, t.isError = false := by
  intro printed
  have hlexes := lexes_print items
  obtain ⟨m, k, htakes, hresumes, hend⟩ := (resumes_lexer (print items)).lexes hlexes rfl
  obtain ⟨last, l', hlast, hclosed⟩ := hresumes.closes hend
  obtain ⟨n, hdelivers⟩ := (htakes.trans hlast).delivers hclosed j
  rw [List.append_nil] at hdelivers
  exact ⟨⟨n, l', hdelivers⟩, hlexes.isError_eq_false ""⟩

/-- A piece of each shape, and a separator of each. -/
def samples : List Item :=
  [⟨.number, "42", .integer (by decide) (by simp), .space⟩,
    ⟨.number, "0x1F", @Piece.hex ['1', 'F'] (by decide) (List.all_eq_true.mp (by decide)), .tab⟩,
    ⟨.number, "3.14", @Piece.fraction ['3'] ['1', '4'] (by decide) (by decide) (by simp) (by simp),
      .comment⟩,
    ⟨.ident, "x_1", @Piece.name 'x' ['_', '1'] (by decide) (by simp), .lineEnd⟩,
    ⟨.punct, "+", @Piece.symbol '+' (by decide), .space⟩]

theorem lexer_print_samples :
    ∃ n l', (lexer "42 0x1F\t3.14 # note\nx_1\n+ ").Delivers grammar
      [.token ⟨.number, ⟨0, 1⟩, "42"⟩, .token ⟨.whitespace, ⟨2, 1⟩, " "⟩,
        .token ⟨.number, ⟨3, 1⟩, "0x1F"⟩, .token ⟨.whitespace, ⟨7, 1⟩, "\t"⟩,
        .token ⟨.number, ⟨8, 1⟩, "3.14"⟩, .token ⟨.whitespace, ⟨12, 1⟩, " "⟩,
        .token ⟨.whitespace, ⟨19, 1⟩, "\n"⟩, .token ⟨.ident, ⟨20, 2⟩, "x_1"⟩,
        .token ⟨.whitespace, ⟨23, 2⟩, "\n"⟩, .token ⟨.punct, ⟨24, 3⟩, "+"⟩,
        .token ⟨.whitespace, ⟨25, 3⟩, " "⟩, .closed] n l' := by
  have hprint : print samples = "42 0x1F\t3.14 # note\nx_1\n+ " := by decide
  have htokens : tokens "" (samples.flatMap Item.spans) =
      [⟨.number, ⟨0, 1⟩, "42"⟩, ⟨.whitespace, ⟨2, 1⟩, " "⟩, ⟨.number, ⟨3, 1⟩, "0x1F"⟩,
        ⟨.whitespace, ⟨7, 1⟩, "\t"⟩, ⟨.number, ⟨8, 1⟩, "3.14"⟩, ⟨.whitespace, ⟨12, 1⟩, " "⟩,
        ⟨.whitespace, ⟨19, 1⟩, "\n"⟩, ⟨.ident, ⟨20, 2⟩, "x_1"⟩, ⟨.whitespace, ⟨23, 2⟩, "\n"⟩,
        ⟨.punct, ⟨24, 3⟩, "+"⟩, ⟨.whitespace, ⟨25, 3⟩, " "⟩] := by
    decide +kernel
  have hdelivers := (lexer_print samples 0).1
  rw [hprint, htokens] at hdelivers
  exact hdelivers

end StateLexer.Arithmetic
