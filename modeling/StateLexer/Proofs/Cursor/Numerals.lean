import Mathlib.Computability.Language
import StateLexer.Proofs.Cursor.Unread

/-! # The language of numbers

What is read as a number is a language: the decimal numerals and those of base sixteen, of which
nearly every part may be missing. Reading is greedy. It takes each part as soon as one can begin,
and never goes back. The statements below say for each part, and for parts that follow one another,
that this way the longest text of the language is taken.
-/

namespace StateLexer.Cursor
open scoped Computability

/-- The texts that are one character of the set. -/
def anyOf (valid : String) : Language Char := {text | ∃ ch ∈ valid.toList, text = [ch]}

def optional (l : Language Char) : Language Char := 1 + l

def sign : Language Char := optional (anyOf "+-")

def digit : Language Char := anyOf "0123456789"

def hexDigit : Language Char := anyOf "0123456789abcdefABCDEF"

/-- A sign, digits, a point with digits, and the mark of an exponent with a sign and digits. -/
def decimal : Language Char :=
  sign * digit∗ * optional (anyOf "." * digit∗) * optional (anyOf "eE" * (sign * digit∗))

/-- A sign, the mark of base sixteen, digits, and a point with digits. There is no exponent: its
mark would be a digit. -/
def hexadecimal : Language Char :=
  sign * (anyOf "0" * (anyOf "xX" * (hexDigit∗ * optional (anyOf "." * hexDigit∗))))

def numeral : Language Char := decimal + hexadecimal

/-- `text` is the longest text of the language that `cs` begins with. -/
structure Longest (l : Language Char) (cs text : List Char) : Prop where
  mem : text ∈ l
  isPrefix : text <+: cs
  length_le : ∀ p ∈ l, p <+: cs → p.length ≤ text.length

/-- `past` leaves what comes behind the longest text of `l`. Only at a character of `more` can it
matter to a text what comes behind it. -/
structure Munches (past : List Char → List Char) (l : Language Char) (more : String) : Prop where
  reads : ∀ cs, ∃ text ∈ l, text ++ past cs = cs
  longest : ∀ text ∈ l, ∀ rest, past (text ++ rest) <:+ rest
  stops : ∀ text ∈ l, ∀ ch rest, isMember more ch = false → past (text ++ ch :: rest) = ch :: rest

variable {past past' : List Char → List Char} {l l' : Language Char}
  {valid mark more more' : String} {cs rest text : List Char} {ch : Char}

theorem mem_anyOf_mul :
    text ∈ anyOf valid * l ↔ ∃ ch t, isMember valid ch = true ∧ t ∈ l ∧ text = ch :: t := by
  rw [Language.mem_mul]
  constructor
  · rintro ⟨_, ⟨ch, hch, rfl⟩, t, ht, rfl⟩
    exact ⟨ch, t, isMember_iff.mpr hch, ht, rfl⟩
  · rintro ⟨ch, t, hch, ht, rfl⟩
    exact ⟨[ch], ⟨ch, isMember_iff.mp hch, rfl⟩, t, ht, rfl⟩

theorem mem_kstar_anyOf : text ∈ (anyOf valid)∗ ↔ ∀ ch ∈ text, isMember valid ch = true := by
  rw [Language.mem_kstar]
  constructor
  · rintro ⟨parts, rfl, hparts⟩ ch hch
    obtain ⟨part, hpart, hmem⟩ := List.mem_flatten.mp hch
    obtain ⟨c, hc, rfl⟩ := hparts part hpart
    rwa [List.mem_singleton.mp hmem, isMember_iff]
  · intro h
    refine ⟨text.map fun ch => [ch], (List.flatMap_singleton' text).symm, ?_⟩
    intro part hpart
    obtain ⟨ch, hch, rfl⟩ := List.mem_map.mp hpart
    exact ⟨ch, isMember_iff.mp (h ch hch), rfl⟩

theorem isMember_append (valid more : String) (ch : Char) :
    isMember (valid ++ more) ch = (isMember valid ch || isMember more ch) := by
  simp [isMember]

theorem not_isMember_of_isMember (h : mark.toList.all (fun ch => !isMember more ch) = true)
    (hch : isMember mark ch = true) : isMember more ch = false := by
  simpa using of_isMember h hch

theorem meets_cons (valid : String) (ch : Char) (cs : List Char) :
    meets valid (ch :: cs) = isMember valid ch := rfl

theorem exists_of_meets (h : meets valid cs = true) :
    ∃ ch t, isMember valid ch = true ∧ cs = ch :: t := by
  cases cs with
  | nil => cases h
  | cons ch t => exact ⟨ch, t, h, rfl⟩

theorem munches_run (valid : String) :
    Munches (List.dropWhile (isMember valid)) (anyOf valid)∗ valid where
  reads cs := by
    refine ⟨cs.takeWhile (isMember valid), ?_, List.takeWhile_append_dropWhile⟩
    exact mem_kstar_anyOf.mpr (List.all_eq_true.mp List.all_takeWhile)
  longest text htext rest := by
    rw [List.dropWhile_append_of_pos (mem_kstar_anyOf.mp htext)]
    exact List.dropWhile_suffix _
  stops text htext ch rest hch := dropWhile_append_eq (mem_kstar_anyOf.mp htext) hch

namespace Munches

theorem suffix (h : Munches past l more) (cs : List Char) : past cs <:+ cs := by
  obtain ⟨text, -, hsplit⟩ := h.reads cs
  exact ⟨text, hsplit⟩

theorem marked (h : Munches past l more) (mark : String) :
    Munches (fun cs => if meets mark cs then past cs.tail else cs) (optional (anyOf mark * l))
      (mark ++ more) where
  reads cs := by
    by_cases hmark : meets mark cs = true
    · obtain ⟨ch, t, hch, rfl⟩ := exists_of_meets hmark
      obtain ⟨text, htext, hsplit⟩ := h.reads t
      refine ⟨ch :: text, .inr (mem_anyOf_mul.mpr ⟨ch, text, hch, htext, rfl⟩), ?_⟩
      rw [if_pos hmark, List.tail_cons, List.cons_append, hsplit]
    · exact ⟨[], .inl rfl, by rw [if_neg hmark, List.nil_append]⟩
  longest text htext rest := by
    rcases htext with rfl | htext
    · rw [List.nil_append]
      split
      · exact (h.suffix rest.tail).trans (List.tail_suffix rest)
      · exact List.suffix_rfl
    · obtain ⟨ch, t, hch, ht, rfl⟩ := mem_anyOf_mul.mp htext
      rw [List.cons_append, meets_cons, if_pos hch]
      exact h.longest t ht rest
  stops text htext ch rest hmore := by
    rw [isMember_append, Bool.or_eq_false_iff] at hmore
    obtain ⟨hmark, hmore⟩ := hmore
    rcases htext with rfl | htext
    · rw [List.nil_append, meets_cons, hmark, if_neg Bool.false_ne_true]
    · obtain ⟨c, t, hc, ht, rfl⟩ := mem_anyOf_mul.mp htext
      rw [List.cons_append, meets_cons, if_pos hc]
      exact h.stops t ht ch rest hmore

/-- Parts that follow one another, if no text of the second begins as the first may go on. -/
theorem append (h : Munches past l more) (h' : Munches past' l' more')
    (hstart : ∀ ch t, ch :: t ∈ l' → isMember more ch = false) :
    Munches (fun cs => past' (past cs)) (l * l') (more ++ more') where
  reads cs := by
    obtain ⟨a, ha, hsplit⟩ := h.reads cs
    obtain ⟨b, hb, hsplit'⟩ := h'.reads (past cs)
    exact ⟨a ++ b, Language.append_mem_mul ha hb, by rw [List.append_assoc, hsplit', hsplit]⟩
  longest text htext rest := by
    obtain ⟨a, ha, b, hb, rfl⟩ := Language.mem_mul.mp htext
    rw [List.append_assoc]
    cases b with
    | nil =>
      rw [List.nil_append]
      exact (h'.suffix _).trans (h.longest a ha rest)
    | cons ch t =>
      rw [List.cons_append, h.stops a ha ch _ (hstart ch t hb)]
      exact h'.longest (ch :: t) hb rest
  stops text htext ch rest hmore := by
    obtain ⟨a, ha, b, hb, rfl⟩ := Language.mem_mul.mp htext
    rw [isMember_append, Bool.or_eq_false_iff] at hmore
    obtain ⟨hmore, hmore'⟩ := hmore
    rw [List.append_assoc]
    cases b with
    | nil =>
      rw [List.nil_append, h.stops a ha ch rest hmore]
      exact h'.stops [] hb ch rest hmore'
    | cons c t =>
      rw [List.cons_append, h.stops a ha c _ (hstart c t hb)]
      exact h'.stops (c :: t) hb ch rest hmore'

end Munches

theorem munches_member (valid : String) :
    Munches (pastMember valid) (optional (anyOf valid)) valid := by
  have hnothing : Munches id 1 "" :=
    ⟨fun cs => ⟨[], rfl, rfl⟩, fun text htext rest => by rw [htext]; exact List.suffix_rfl,
      fun text htext ch rest _ => by rw [htext]; rfl⟩
  have hmember := hnothing.marked valid
  rw [mul_one, String.append_empty] at hmember
  exact hmember

/-- What comes behind the digits and the fraction of a number. -/
def pastParts (digits : String) (cs : List Char) : List Char :=
  pastFraction digits (cs.dropWhile (isMember digits))

/-- What comes behind a number if no mark of base sixteen is minded. -/
def pastDecimal (cs : List Char) : List Char :=
  pastExponent (pastParts decimalDigits (pastMember "+-" cs))

theorem start_of_mem_kstar (ch : Char) (t : List Char) (h : ch :: t ∈ (anyOf valid)∗) :
    isMember valid ch = true :=
  mem_kstar_anyOf.mp h ch List.mem_cons_self

theorem start_of_mem_marked (ch : Char) (t : List Char) (h : ch :: t ∈ optional (anyOf mark * l)) :
    isMember mark ch = true := by
  rcases h with h | h
  · cases h
  · obtain ⟨c, t', hc, -, heq⟩ := mem_anyOf_mul.mp h
    rwa [(List.cons.inj heq).1]

theorem munches_hexParts : Munches (pastParts hexDigits)
    (hexDigit∗ * optional (anyOf "." * hexDigit∗)) (hexDigits ++ ("." ++ hexDigits)) := by
  apply (munches_run hexDigits).append ((munches_run hexDigits).marked ".")
  intro ch t h
  exact not_isMember_of_isMember (by decide) (start_of_mem_marked ch t h)

theorem munches_signed :
    Munches (fun cs => (pastMember "+-" cs).dropWhile (isMember decimalDigits))
      (sign * digit∗) ("+-" ++ decimalDigits) := by
  apply (munches_member "+-").append (munches_run decimalDigits)
  intro ch t h
  exact not_isMember_of_isMember (by decide) (start_of_mem_kstar ch t h)

theorem munches_decimal : ∃ more, Munches pastDecimal decimal more := by
  have hfraction := (munches_run decimalDigits).marked "."
  have hexponent := munches_signed.marked "eE"
  refine ⟨_, (munches_signed.append hfraction ?_).append hexponent ?_⟩
  · intro ch t h
    exact not_isMember_of_isMember (by decide) (start_of_mem_marked ch t h)
  · intro ch t h
    exact not_isMember_of_isMember (by decide) (start_of_mem_marked ch t h)

theorem mem_hexadecimal : text ∈ hexadecimal ↔
    ∃ front ∈ sign, ∃ x t, isMember "xX" x = true ∧
      t ∈ hexDigit∗ * optional (anyOf "." * hexDigit∗) ∧ text = front ++ '0' :: x :: t := by
  have hzero : ∀ ch, isMember "0" ch = true ↔ ch = '0' := by simp [isMember]
  rw [hexadecimal, Language.mem_mul]
  constructor
  · rintro ⟨front, hfront, _, hmark, rfl⟩
    obtain ⟨ch, _, hch, hrest, rfl⟩ := mem_anyOf_mul.mp hmark
    obtain ⟨x, t, hx, ht, rfl⟩ := mem_anyOf_mul.mp hrest
    rw [(hzero ch).mp hch]
    exact ⟨front, hfront, x, t, hx, ht, rfl⟩
  · rintro ⟨front, hfront, x, t, hx, ht, rfl⟩
    have hmarked := mem_anyOf_mul.mpr ⟨x, t, hx, ht, rfl⟩
    exact ⟨front, hfront, _, mem_anyOf_mul.mpr ⟨'0', _, rfl, hmarked, rfl⟩, rfl⟩

theorem pastExponent_pastParts (cs : List Char) :
    pastExponent (pastParts hexDigits cs) = pastParts hexDigits cs := by
  have hrun : meets hexDigits (pastParts hexDigits cs) = false := by
    unfold pastParts pastFraction
    split <;> exact head?_dropWhile (isMember hexDigits) _
  have hmark : meets "eE" (pastParts hexDigits cs) = false := by
    by_contra h
    obtain ⟨ch, t, hch, heq⟩ := exists_of_meets (by simpa using h)
    have hdigit : isMember hexDigits ch = true := of_isMember (by decide) hch
    rw [heq, meets_cons, hdigit] at hrun
    cases hrun
  rw [pastExponent, hmark, if_neg Bool.false_ne_true]

theorem pastDecimal_of_mark {x : Char} (hsign : pastMember "+-" cs = '0' :: x :: rest)
    (hx : isMember "xX" x = true) : pastDecimal cs = x :: rest := by
  have hdigit : isMember decimalDigits x = false := not_isMember_of_isMember (by decide) hx
  have hpoint : isMember "." x = false := not_isMember_of_isMember (by decide) hx
  have hexponent : isMember "eE" x = false := not_isMember_of_isMember (by decide) hx
  rw [pastDecimal, hsign, pastParts, List.dropWhile_cons_of_pos (by rfl),
    List.dropWhile_cons_of_neg (by simpa using hdigit), pastFraction, meets_cons, hpoint,
    if_neg Bool.false_ne_true, pastExponent, meets_cons, hexponent, if_neg Bool.false_ne_true]

/-- Whether the mark of base sixteen comes behind the sign decides how a number is read. -/
theorem mark_cases (cs : List Char) :
    (∃ x rest, isMember "xX" x = true ∧ pastMember "+-" cs = '0' :: x :: rest ∧
      pastNumber cs = pastParts hexDigits rest) ∨
    (∀ x rest, isMember "xX" x = true → pastMember "+-" cs ≠ '0' :: x :: rest) ∧
      pastNumber cs = pastDecimal cs := by
  simp only [pastNumber, pastBase, pastDecimal, pastParts]
  cases hsign : pastMember "+-" cs with
  | nil => exact .inr ⟨fun x rest _ => nofun, rfl⟩
  | cons ch rest =>
    by_cases hzero : isMember "0" ch = true
    · obtain rfl : ch = '0' := by simpa [isMember] using hzero
      by_cases hx : meets "xX" rest = true
      · obtain ⟨x, rest, hx', rfl⟩ := exists_of_meets hx
        refine .inl ⟨x, rest, hx', rfl, ?_⟩
        rw [meets_cons, if_pos hzero, List.tail_cons, if_pos hx]
        exact pastExponent_pastParts rest
      · refine .inr ⟨?_, ?_⟩
        · rintro x rest' hx' heq
          rw [(List.cons.inj heq).2] at hx
          exact hx hx'
        · rw [meets_cons, if_pos hzero, List.tail_cons, if_neg hx,
            List.dropWhile_cons_of_pos (by rfl)]
    · refine .inr ⟨?_, ?_⟩
      · rintro x rest' - heq
        rw [(List.cons.inj heq).1] at hzero
        exact hzero rfl
      · rw [meets_cons, if_neg hzero]

theorem exists_numeral (cs : List Char) : ∃ text ∈ numeral, text ++ pastNumber cs = cs := by
  rcases mark_cases cs with ⟨x, rest, hx, hsign, hpast⟩ | ⟨-, hpast⟩
  · obtain ⟨front, hfront, hsplit⟩ := (munches_member "+-").reads cs
    obtain ⟨t, ht, hrest⟩ := munches_hexParts.reads rest
    refine ⟨front ++ '0' :: x :: t,
      .inr (mem_hexadecimal.mpr ⟨front, hfront, x, t, hx, ht, rfl⟩), ?_⟩
    calc
      (front ++ '0' :: x :: t) ++ pastNumber cs
      _ = front ++ '0' :: x :: (t ++ pastNumber cs) := by simp
      _ = front ++ '0' :: x :: rest := by rw [hpast, hrest]
      _ = cs := by rw [← hsign, hsplit]
  · obtain ⟨more, hdecimal⟩ := munches_decimal
    obtain ⟨text, htext, hsplit⟩ := hdecimal.reads cs
    exact ⟨text, .inl htext, by rw [hpast, hsplit]⟩

theorem pastNumber_isSuffix (h : text ∈ numeral) (rest : List Char) :
    pastNumber (text ++ rest) <:+ rest := by
  obtain ⟨more, hdecimal⟩ := munches_decimal
  -- a numeral of base sixteen shows its mark behind the sign
  have hmark : text ∈ hexadecimal → ∃ x t, isMember "xX" x = true ∧
      t ∈ hexDigit∗ * optional (anyOf "." * hexDigit∗) ∧
      pastMember "+-" (text ++ rest) = '0' :: x :: (t ++ rest) := by
    intro hhex
    obtain ⟨front, hfront, x, t, hx, ht, rfl⟩ := mem_hexadecimal.mp hhex
    refine ⟨x, t, hx, ht, ?_⟩
    rw [List.append_assoc]
    exact (munches_member "+-").stops front hfront '0' _ rfl
  rcases mark_cases (text ++ rest) with ⟨x, rest', hx, hsign, hpast⟩ | ⟨hnone, hpast⟩
  · rw [hpast]
    rcases h with hdec | hhex
    · -- of base ten, only the zero of the mark could be read
      have hle := hdecimal.longest text hdec rest
      rw [pastDecimal_of_mark hsign hx] at hle
      exact ((munches_hexParts.suffix rest').trans (List.suffix_cons x rest')).trans hle
    · obtain ⟨x', t, -, ht, heq⟩ := hmark hhex
      obtain ⟨-, rfl⟩ : x = x' ∧ rest' = t ++ rest := by simpa [hsign] using heq
      exact munches_hexParts.longest t ht rest
  · rw [hpast]
    rcases h with hdec | hhex
    · exact hdecimal.longest text hdec rest
    · obtain ⟨x, t, hx, -, heq⟩ := hmark hhex
      exact absurd heq (hnone x _ hx)

/-- What is read is the longest text of the language that stands here. -/
theorem longest_numeral (cs : List Char) :
    ∃ text, text ++ pastNumber cs = cs ∧ Longest numeral cs text := by
  obtain ⟨text, htext, hsplit⟩ := exists_numeral cs
  refine ⟨text, hsplit, htext, ⟨_, hsplit⟩, ?_⟩
  rintro p hp ⟨rest, rfl⟩
  have hle := (pastNumber_isSuffix hp rest).length_le
  have hlen := congrArg List.length hsplit
  rw [List.length_append, List.length_append] at hlen
  omega

end StateLexer.Cursor
